import CompletionClient.Path.Posix
import CompletionClient.Text.Quoted
import CompletionClient.Fault
/-!
# The file system as the command line sees it

The command line reads and creates a handful of files and folders.  It does so
through `FileSystem`, three operations on paths given as texts (relative ones
are taken from the working folder):

* `find` tells what stands at a path: nothing, a file, a folder, or nothing
  reachable because some folder on the way is a file;
* `read` reads a file;
* `makeFolder` makes one folder inside an existing folder.

Failures are `OsError`s: an error number and the path as it was given, shown
the way the operating system's messages are (`[Errno 2] No such file or
directory: 'x'`).

A path is handed to the system as bytes: its code points in UTF-8, where the
surrogates U+DC80 to U+DCFF stand for the bytes 0x80 to 0xFF that are not
UTF-8.  Any other surrogate makes no byte, and a NUL cannot be in a name at
all; `checkName` finds both before a path reaches the system.

`FileTree` is a file system held in memory.  Its rules are those of POSIX path
resolution: every folder on the way to a path must exist and be a folder; the
first one that does not exist gives "no such file or directory" and the first
one that is a file gives "not a directory".
-/

namespace CompletionClient.CommandLine

/-- Whether a code point is a surrogate. -/
def isSurrogate (n : Nat) : Bool := 0xD800 ≤ n && n < 0xE000

/-- Whether a surrogate stands for a byte that is not UTF-8. -/
def standsForByte (n : Nat) : Bool := 0xDC80 ≤ n && n < 0xDD00

/-- The first span, from position `i` on, of code points that make no bytes: it
starts at a surrogate that stands for no byte (those before it in its run of
surrogates stand for bytes) and ends with the run. -/
def unencodableSpan : List Nat → Nat → Option (Nat × Nat × Nat)
  | [], _ => none
  | n :: rest, i =>
    if isSurrogate n && !standsForByte n then
      some (n, i, i + 1 + (rest.takeWhile isSurrogate).length)
    else unencodableSpan rest (i + 1)

/-- Checks that a text makes bytes for the system. -/
def encodable (t : String) : Except Fault Unit :=
  match unencodableSpan (Text.codePoints t) 0 with
  | some (n, a, b) => .error (.unencodable n a b)
  | none => .ok ()

/-- Checks that a path can be handed to the system: it makes bytes, and none of
them is NUL. -/
def checkName (t : String) : Except Fault Unit := do
  encodable t
  if t.toList.contains (Char.ofNat 0) then throw .nullByte

/-- A failure of the operating system on a path. -/
structure OsError where
  /-- The error number. -/
  code : Nat
  /-- The path, as it was given. -/
  path : String
  deriving DecidableEq, Inhabited

namespace OsError

/-- No such file or directory. -/
def missing : Nat := 2
/-- Permission denied. -/
def denied : Nat := 13
/-- File exists. -/
def taken : Nat := 17
/-- Not a directory. -/
def notFolder : Nat := 20
/-- Is a directory. -/
def isFolder : Nat := 21

/-- The description of an error number. -/
def describe (code : Nat) : String :=
  if code = missing then "No such file or directory"
  else if code = denied then "Permission denied"
  else if code = taken then "File exists"
  else if code = notFolder then "Not a directory"
  else if code = isFolder then "Is a directory"
  else "Input/output error"

/-- The message of an error. -/
def message (e : OsError) : String :=
  "[Errno " ++ toString e.code ++ "] " ++ describe e.code ++ ": " ++ Text.quote e.path

end OsError

/-- What stands at a path. -/
inductive Found where
  /-- Nothing. -/
  | missing
  /-- A file. -/
  | file
  /-- A folder. -/
  | folder
  /-- Nothing reachable: a folder on the way is a file. -/
  | blocked
  deriving DecidableEq, Inhabited

/-- Whether something stands at a path. -/
def Found.present : Found → Bool
  | .file | .folder => true
  | _ => false

/-- The file operations of the command line. -/
class FileSystem (m : Type → Type) where
  /-- What stands at a path. -/
  find : String → m Found
  /-- The bytes of a file. -/
  read : String → m (Except OsError (List UInt8))
  /-- Makes a folder inside an existing folder. -/
  makeFolder : String → m (Except OsError Unit)

/-- A file system in memory: the working folder, the folders and the files,
each by its names from the root. -/
structure FileTree where
  /-- The working folder. -/
  cwd : List String := []
  /-- The folders other than the root. -/
  folders : List (List String) := []
  /-- The files and their bytes. -/
  files : List (List String × List UInt8) := []
  deriving Inhabited

namespace FileTree

/-- The names from the root of a path given as a text; `..` goes up. -/
def locate (t : FileTree) (p : String) : List String :=
  let path := PosixPath.parse p
  let names := if path.anchor = .none then t.cwd ++ path.names else path.names
  names.foldl (fun acc n => if n = ".." then acc.dropLast else acc ++ [n]) []

/-- Whether a folder exists. -/
def isFolder (t : FileTree) (names : List String) : Bool :=
  names.isEmpty || t.folders.contains names

/-- The bytes of a file, if it exists. -/
def fileAt? (t : FileTree) (names : List String) : Option (List UInt8) :=
  t.files.lookup names

/-- The first folder on the way to a path that is not a folder, if any. -/
def obstacle? (t : FileTree) (names : List String) : Option (List String) :=
  ((List.range names.length).map names.take).find? fun q => !t.isFolder q

/-- The error of a path whose way is obstructed by `q`. -/
def obstructed (t : FileTree) (q : List String) : Nat :=
  if (t.fileAt? q).isSome then OsError.notFolder else OsError.missing

/-- What stands at a path. -/
def find (t : FileTree) (p : String) : Found :=
  let names := t.locate p
  match t.obstacle? names with
  | some q => if (t.fileAt? q).isSome then .blocked else .missing
  | none =>
    if t.isFolder names then .folder
    else if (t.fileAt? names).isSome then .file
    else .missing

/-- The bytes of a file. -/
def read (t : FileTree) (p : String) : Except OsError (List UInt8) :=
  let names := t.locate p
  match t.obstacle? names with
  | some q => .error ⟨t.obstructed q, p⟩
  | none =>
    if t.isFolder names then .error ⟨OsError.isFolder, p⟩
    else match t.fileAt? names with
      | some bytes => .ok bytes
      | none => .error ⟨OsError.missing, p⟩

/-- Makes a folder inside an existing folder. -/
def makeFolder (t : FileTree) (p : String) : Except OsError FileTree :=
  let names := t.locate p
  match t.obstacle? names with
  | some q => .error ⟨t.obstructed q, p⟩
  | none =>
    if t.isFolder names || (t.fileAt? names).isSome then .error ⟨OsError.taken, p⟩
    else .ok { t with folders := t.folders ++ [names] }

/-- The tree with a folder and every folder on the way to it. -/
def withFolders (t : FileTree) (names : List String) : FileTree :=
  (List.range (names.length + 1)).foldl (fun t k =>
    let q := names.take k
    if t.isFolder q then t else { t with folders := t.folders ++ [q] }) t

/-- The tree with a file, written over any file at that path, and the folders
on the way to it. -/
def withFile (t : FileTree) (p : String) (bytes : List UInt8) : FileTree :=
  let names := t.locate p
  let t := t.withFolders names.dropLast
  { t with files := (t.files.filter (·.1 != names)) ++ [(names, bytes)] }

/-- The tree with a folder given as a text, and the folders on the way to it. -/
def withFolder (t : FileTree) (p : String) : FileTree := t.withFolders (t.locate p)

end FileTree

instance : FileSystem (StateM FileTree) where
  find p := do return (← get).find p
  read p := do return (← get).read p
  makeFolder p := do
    match (← get).makeFolder p with
    | .ok t => set t *> return .ok ()
    | .error e => return .error e

end CompletionClient.CommandLine
