import CompletionClient.CommandLine.FileSystem
import CompletionClient.CommandLine.Options
import CompletionClient.Service.Session
import CompletionClient.Settings
import CompletionClient.Data.Json
/-!
# The command line

The program `codeium-service` has two commands:

* `status` creates the support folders if they are missing and prints, as
  indented JSON, what the installation check finds and where the folders are;
* `complete FILE --line N --character N` opens the file in a service rooted at
  the project root (by default the file's folder), asks for completions at the
  position and prints them as indented JSON.

Settings come from the `CODEIUM_*` variables of the environment and the API
key from `CODEIUM_API_KEY`.  Setup faults (no server, an outdated one, an
installation in progress, no key) end with `setup error: …` and exit code 2,
other faults of the service and file faults with `error: …` and exit code 1,
a superseded request silently with exit code 1, and faults of the command line
itself with the usage line and exit code 2.  Any other fault is caught by no
handler: it ends the run with exit code 1 and is kept in `Output.escaped`.

Log lines go to the error stream as `[logger] LEVEL message`; debug lines only
with `--verbose`.  This program cannot run processes, so the language server it
would launch fails to start as one that may not be executed.
-/

namespace CompletionClient.CommandLine

open CompletionClient.Service

/-- The program name. -/
def programName : String := "codeium-service"

/-- The program level of the command line. -/
def programLevel : Level :=
  { prog := programName, description := some "Codeium suggestion service",
    args := [.opt helpOption,
             .opt { flags := ["--verbose"], takes := .flag, dest := "verbose", required := false,
                    help := some "Enable debug logging" },
             .choice "command" [("status", "Show installation state and support folders"),
                                ("complete", "Request completions at a position")]] }

/-- The level of the `status` command. -/
def statusLevel : Level :=
  { prog := programName ++ " status", description := none, args := [.opt helpOption] }

/-- An option of the `complete` command. -/
def completeOption (flag dest : String) (takes : Takes) (required : Bool) (help : Option String) :
    Arg :=
  .opt { flags := [flag], takes, dest, required, help }

/-- The level of the `complete` command. -/
def completeLevel : Level :=
  { prog := programName ++ " complete", description := none,
    args := [.opt helpOption, .pos "file" (some "File to complete in"),
             completeOption "--line" "line" .integer true (some "Zero-based line"),
             completeOption "--character" "character" .integer true (some "Zero-based column"),
             completeOption "--project-root" "project_root" .text false
               (some "Project root (default: file's folder)"),
             completeOption "--tab-size" "tab_size" .integer false none,
             completeOption "--indent-size" "indent_size" .integer false none,
             completeOption "--use-tabs" "use_tabs" .flag false none] }

/-- The level of a command by name. -/
def commandLevel (name : String) : Level :=
  if name = "complete" then completeLevel else statusLevel

/-- The arguments of `complete`. -/
structure CompleteArgs where
  /-- The file. -/
  file : String
  /-- The zero-based line. -/
  line : Int
  /-- The zero-based column. -/
  character : Int
  /-- The project root, if given. -/
  projectRoot : Option String
  /-- The width of a tab. -/
  tabSize : Int
  /-- The width of an indentation level. -/
  indentSize : Int
  /-- Whether to indent with tabs. -/
  useTabs : Bool
  deriving Inhabited

/-- What the command line asks for. -/
inductive Invocation where
  /-- The installation and the folders. -/
  | status
  /-- Completions. -/
  | complete (args : CompleteArgs)
  deriving Inhabited

/-- The integer read for an option, or a default. -/
def integerOr (values : List (String × Given)) (dest : String) (d : Int) : Int :=
  match values.reverse.lookup dest with
  | some (.integer n) => n
  | _ => d

/-- The text read for an argument, if any. -/
def textOf? (values : List (String × Given)) (dest : String) : Option String :=
  match values.reverse.lookup dest with
  | some (.text s) => some s
  | _ => none

/-- Whether a switch was turned on. -/
def switchOn (values : List (String × Given)) (dest : String) : Bool :=
  (values.lookup dest).isSome

/-- The request that read values stand for. -/
def invocationOf (values : List (String × Given)) : Invocation :=
  if textOf? values "command" = some "complete" then
    .complete { file := (textOf? values "file").getD "", line := integerOr values "line" 0,
                character := integerOr values "character" 0,
                projectRoot := textOf? values "project_root",
                tabSize := integerOr values "tab_size" 4, indentSize := integerOr values "indent_size" 4,
                useTabs := switchOn values "use_tabs" }
  else .status

/-- What a run of the program ends with. -/
structure Output where
  /-- The exit code. -/
  exitCode : Nat
  /-- What it printed. -/
  stdout : String
  /-- What it printed as errors and logs. -/
  stderr : String
  /-- The fault that no handler caught, if one ended the run. -/
  escaped : Option Fault := none
  deriving Inhabited

/-- A log line. -/
def logLine (logger level message : String) : String :=
  "[" ++ logger ++ "] " ++ level ++ " " ++ message ++ "\n"

/-- A run that ends because no handler caught a fault: exit code 1, with what
was logged before it. -/
def Output.escape (logs : String) (f : Fault) : Output := ⟨1, "", logs, some f⟩

/-- The last line of the report of a fault that no handler caught. -/
def reportLine (f : Fault) : String := f.kind ++ ": " ++ f.message ++ "\n"

/-! ## Paths -/

/-- Two paths joined: an absolute second one replaces the first. -/
def joinPath (a b : String) : String :=
  if b.startsWith "/" then b
  else if a.isEmpty || a.endsWith "/" then a ++ b
  else a ++ "/" ++ b

/-- The path one level up from a path that resolution has built so far; going up
from `..` adds two more. -/
def upFrom (path : String) : String :=
  if path.isEmpty then ".."
  else
    let cs := path.toList
    let head := (cs.reverse.dropWhile (· != '/')).reverse
    let tail := String.ofList (cs.reverse.takeWhile (· != '/')).reverse
    let head := if head.isEmpty || head.all (· == '/') then head
      else (head.reverse.dropWhile (· == '/')).reverse
    let head := String.ofList head
    if tail = ".." then joinPath (joinPath head "..") ".." else head

/-- The paths the system is asked about while a path is resolved, in order:
each adds one name to the path built so far, skipping empty names and `.`,
while `..` goes up in the text without a question. -/
def lookups (path : String) : List String :=
  let start := if path.startsWith "/" then "/" else ""
  ((path.splitOn "/").foldl step (start, [])).2
where
  step (acc : String × List String) (name : String) : String × List String :=
    if name.isEmpty || name = "." then acc
    else if name = ".." then (upFrom acc.1, acc.2)
    else (joinPath acc.1 name, acc.2 ++ [joinPath acc.1 name])

/-- A path made absolute against the working folder, with `..` going up.  Every
path that resolution looks up must be one the system can be given. -/
def resolve (cwd path : String) : Except Fault String := do
  for q in lookups path do checkName q
  let p := PosixPath.parse path
  let names := if p.anchor = .none then (PosixPath.parse cwd).names ++ p.names else p.names
  let names := names.foldl (fun acc n => if n = ".." then acc.dropLast else acc ++ [n]) []
  pure ("/" ++ "/".intercalate names)

/-- The folder holding an absolute path. -/
def parentOf (path : String) : String :=
  "/" ++ "/".intercalate (PosixPath.parse path).names.dropLast

/-! ## Status -/

section Effects

variable {m : Type → Type} [Monad m] [FileSystem m]

/-- Creates the support folders that are missing; a folder that cannot be made
is left out, with a debug line. -/
def createFolders (layout : FolderLayout) : m (List String) := do
  let mut lines := []
  for folder in layout.folders do
    let path := folder.toText
    if !(← FileSystem.find path).present then
      match ← FileSystem.makeFolder path with
      | .ok () => pure ()
      | .error e =>
        lines := lines ++ [logLine "codeium_service.config" "DEBUG"
          ("Could not create " ++ path ++ ": " ++ e.message)]
  return lines

/-- What stands at a path, as an installation check sees it. -/
def entryAt (path : String) : m Entry := do
  if (← FileSystem.find path).present then return .folder else return .absent

/-- Checks the installation in an executable folder, with its debug lines. -/
def checkInstallation (executable : PosixPath) : m (Except Fault InstallStatus × List String) := do
  let marker ← entryAt (executable.child ".installing").toText
  let binary ← entryAt (executable.child FolderLayout.binaryName).toText
  if marker != .absent || binary == .absent then
    return (Installation.check { marker, binary } (.str Installation.latestSupported)
      (.str Installation.minimumSupported), [])
  match ← FileSystem.read (executable.child "version").toText with
  | .ok bytes =>
    return (Installation.check { marker, binary, versionFile := .file bytes }
      (.str Installation.latestSupported) (.str Installation.minimumSupported), [])
  | .error e =>
    return (.ok { kind := .notInstalled },
      [logLine "codeium_service.installation" "DEBUG"
        ("No readable version file in " ++ executable.toText ++ ": " ++ e.message)])

/-- The status report of a support root, with its debug lines: the
installation (or the fault that an installation is in progress) and the
folders. -/
def statusReport (root : PosixPath) : m (Except Fault Value × List String) := do
  let layout := FolderLayout.under root
  let made ← createFolders layout
  let (found, checked) ← checkInstallation layout.executable
  let paths : Value := .obj [("application_support", .str layout.applicationSupport.toText),
    ("codeium", .str layout.codeium.toText), ("executable", .str layout.executable.toText),
    ("support", .str layout.support.toText)]
  let installation : Except Fault Value := match found with
    | .ok s => .ok (.obj [("status", .str s.kind.name), ("version", s.version),
                          ("required_version", s.required)])
    | .error .installing => .ok (.obj [("status", .str "installing"),
                                       ("message", .str Fault.installing.message)])
    | .error f => .error f
  return (installation.map fun i => .obj [("installation", i), ("paths", paths)], made ++ checked)

/-! ## Completion -/

/-- The service a completion runs in. -/
def completionWorld (settings : Settings) (key : Option String) (root : String)
    (installation : Except Fault InstallStatus) (binary : String) : World :=
  { projectRoot := root,
    credentials := ⟨match key with | some k => .str k | none => .null⟩,
    source := { ideName := settings.ideName, fallbackIdeVersion := settings.fallbackIdeVersion,
                reportedIdeVersion := none, sessionId := .str "command-line" },
    installation,
    resetOnRestart := settings.resetRequestIdsOnRestart,
    script := { startError := .str ("Failed to start language server: " ++
                  OsError.message ⟨OsError.denied, binary⟩) } }

/-- Runs `complete`: what it prints and its exit code. -/
def runComplete (settings : Settings) (env : List (String × String)) (cwd : String)
    (verbose : Bool) (args : CompleteArgs) : m Output := do
  let debug := fun (lines : List String) => if verbose then String.join lines else ""
  let selector := debug [logLine "asyncio" "DEBUG" "Using selector: EpollSelector"]
  match resolve cwd args.file with
  | .error f => return .escape selector f
  | .ok file =>
  match ← FileSystem.read file with
  | .error e => return ⟨1, "", selector ++ "error: " ++ e.message ++ "\n", none⟩
  | .ok bytes =>
  match Utf8.decode bytes with
  | .error f => return .escape selector f
  | .ok text =>
  let content := String.ofList (Installation.unifyLineEnds text.toList)
  let root? : Except Fault String := match args.projectRoot with
    | some r => if r.isEmpty then .ok (parentOf file) else resolve cwd r
    | none => .ok (parentOf file)
  match root? with
  | .error f => return .escape selector f
  | .ok root =>
  let layout := FolderLayout.under settings.supportRoot
  let made ← createFolders layout
  let (installation, checked) ← checkInstallation layout.executable
  let key := match env.lookup "CODEIUM_API_KEY" with
    | some k => if k.isEmpty then none else some k
    | none => none
  let binary := layout.languageServer.toText
  let world := completionWorld settings key root installation binary
  let call : CompletionCall :=
    { file := .path (PosixPath.parse file), content := .str content,
      cursor := ⟨.int args.line, .int args.character⟩,
      indentSize := .int args.indentSize, usesTabs := .bool args.useTabs }
  let commands := [Command.opened (.path (PosixPath.parse file)) (.str content), .complete call,
    .shutdown]
  match runSession world commands with
  | .error m => return ⟨1, "", selector ++ "error: " ++ m ++ "\n", none⟩
  | .ok steps =>
    let answer := (steps[1]?.map (·.1)).getD .pending
    let after := (steps.getLast?.map (·.2))
    let launched := (after.map fun s => decide (s.servers > 0)).getD false
    let jobRan := key.isSome
    let startLog := if launched then
        logLine "codeium_service.server" "WARNING" ("Failed to start language server: " ++
          OsError.message ⟨OsError.denied, binary⟩)
      else ""
    let launchFault := match answer with
      | .failed f => if jobRan then debug [logLine "codeium_service.lifecycle" "DEBUG"
          ("Language server launch failed: " ++ f.message)] else ""
      | _ => ""
    let logs := selector ++ debug made ++ (if jobRan then debug checked else "") ++ startLog ++
      launchFault
    match answer with
    | .value v => return ⟨0, Json.writeIndented 2 0 v ++ "\n", logs, none⟩
    | .failed .superseded => return ⟨1, "", logs, none⟩
    | .failed f =>
      if f.isSetup then return ⟨2, "", logs ++ "setup error: " ++ f.message ++ "\n", none⟩
      else match f with
        | .transport _ => return ⟨1, "", logs ++ "error: " ++ f.message ++ "\n", none⟩
        | _ => return .escape logs f
    | _ => return ⟨1, "", logs, none⟩

/-- Runs the program with its arguments, in an environment and a working
folder, for a user with the given home folders; a `HOME` in the environment is
the home that a leading `~` stands for. -/
def run (homes : Homes) (argv : List String) (env : List (String × String)) (cwd : String) :
    m Output := do
  let homes := match env.lookup "HOME" with
    | some home => { homes with own := home }
    | none => homes
  match readProgram programLevel commandLevel argv with
  | .error (.help text) => return ⟨0, text, "", none⟩
  | .error (.fault usage prog message) =>
    return ⟨2, "", usage ++ prog ++ ": error: " ++ message ++ "\n", none⟩
  | .ok values =>
    let verbose := switchOn values "verbose"
    match Settings.fromEnv homes (.obj (env.map fun (k, v) => (k, .str v))) with
    | .error f => return .escape "" f
    | .ok settings =>
      match invocationOf values with
      | .status =>
        let (report, lines) ← statusReport settings.supportRoot
        let logs := if verbose then String.join lines else ""
        match report with
        | .ok v => return ⟨0, Json.writeIndented 2 0 v ++ "\n", logs, none⟩
        | .error f => return .escape logs f
      | .complete args => runComplete settings env cwd verbose args

end Effects

end CompletionClient.CommandLine
