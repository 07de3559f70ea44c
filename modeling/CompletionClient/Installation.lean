import CompletionClient.Version
import CompletionClient.Text.Utf8
/-!
# Installations of the language server

The language server is installed by another program into an executable
folder, beside a `version` file; while that program works, a `.installing`
marker stands in the folder.  `Installation.check` looks at what the folder
holds (`ExecutableFolder`) and says whether the client can use it:

1. a marker means that an installation is in progress, a fault;
2. without the server's binary, nothing is installed;
3. a version file that is missing or is a folder, or whose text (read as
   strict UTF-8, line ends made `\n`, trimmed) is empty, means nothing usable
   is installed;
4. a version below the minimum is outdated, one above the latest supported
   is unsupported, and any other is installed.  Both name the latest version
   as the one required.

The latest and the minimum versions are given as values and read as version
texts only when the check compares with them: the minimum first, the latest
only for a version that is not outdated.
-/

namespace CompletionClient

/-- What stands in a folder at a name. -/
inductive Entry where
  /-- Nothing. -/
  | absent
  /-- A folder. -/
  | folder
  /-- A file with its bytes. -/
  | file (bytes : List UInt8)
  deriving DecidableEq, Inhabited

/-- What an executable folder holds, as far as an installation check looks. -/
structure ExecutableFolder where
  /-- The marker of an installation in progress. -/
  marker : Entry := .absent
  /-- The language server's binary. -/
  binary : Entry := .absent
  /-- The version file. -/
  versionFile : Entry := .absent
  deriving Inhabited

/-- The outcome of an installation check. -/
inductive InstallKind where
  | installed
  | outdated
  | unsupported
  | notInstalled
  deriving DecidableEq, Inhabited

/-- The name of an outcome. -/
def InstallKind.name : InstallKind → String
  | .installed => "installed"
  | .outdated => "outdated"
  | .unsupported => "unsupported"
  | .notInstalled => "not_installed"

/-- An outcome with the version found and the version required, as values:
`null` when there is none. -/
structure InstallStatus where
  /-- The outcome. -/
  kind : InstallKind
  /-- The version found. -/
  version : Value := .null
  /-- The version the client requires, for an outdated or unsupported server. -/
  required : Value := .null
  deriving Inhabited

namespace Installation

/-- The newest language server version that the client supports. -/
def latestSupported : String := "1.2.104"

/-- The oldest language server version that the client supports. -/
def minimumSupported : String := "1.2.9"

/-- Line ends made `\n`: a carriage return, alone or before a line feed, is one. -/
def unifyLineEnds : List Char → List Char
  | '\r' :: '\n' :: rest => '\n' :: unifyLineEnds rest
  | '\r' :: rest => '\n' :: unifyLineEnds rest
  | c :: rest => c :: unifyLineEnds rest
  | [] => []

/-- The version written in the version file, if there is a non-empty one. -/
def readVersion (entry : Entry) : Except Fault (Option String) :=
  match entry with
  | .file bytes => do
    let text ← Utf8.decode bytes
    let v := Text.trim (String.ofList (unifyLineEnds text.toList))
    pure (if v.isEmpty then none else some v)
  | _ => pure none

/-- Checks an executable folder against the supported range of versions. -/
def check (folder : ExecutableFolder) (latest minimum : Value) :
    Except Fault InstallStatus := do
  if folder.marker != .absent then throw .installing
  if folder.binary == .absent then return { kind := .notInstalled }
  let some v ← readVersion folder.versionFile | return { kind := .notInstalled }
  let found ← Version.parse v
  if Version.compare found (← Version.parse (← Version.textOf minimum)) == .lt then
    return { kind := .outdated, version := .str v, required := latest }
  if Version.compare found (← Version.parse (← Version.textOf latest)) == .gt then
    return { kind := .unsupported, version := .str v, required := latest }
  return { kind := .installed, version := .str v }

end Installation

end CompletionClient
