import CompletionClient.Path.Posix
import CompletionClient.Numeral.Binary64
import CompletionClient.Fault
import CompletionClient.Data.Access
/-!
# Settings and the support folder

`Settings` gathers what the client is configured with.  `Settings.fromEnv`
starts from the defaults and takes the editor name, the fallback IDE version,
the API server and the support root from the `CODEIUM_*` variables of an
environment whose values count as true.  The environment is a mapping whose
values are kept as they are, except the support root, which must be a path
text.  A support root that starts with `~`
or `~name` is taken under the home folder of that user, as `Homes` tells.

Under the support root stands a fixed tree (`FolderLayout`): a `Codeium`
folder holding the `executable` folder, with the language server's binary,
and the `support` folder, the server's database.
-/

namespace CompletionClient

/-- Where home folders are: that of the user the client runs as when it
started, the `HOME` setting in effect when a path is expanded, and the home
folders of other users by name. -/
structure Homes where
  /-- The home folder of the user the client runs as, when the client started:
  the default support root lies in it. -/
  initial : String
  /-- The `HOME` setting in effect now, which a leading `~` stands for. -/
  own : String
  /-- Home folders of other users, by user name. -/
  others : List (String × String)
  deriving Inhabited

/-- A number of seconds. -/
abbrev Seconds := Binary64

/-- What the client is configured with. -/
structure Settings where
  /-- The editor's name in request metadata. -/
  ideName : Value := .str "xcode"
  /-- The editor version used when the editor reports none. -/
  fallbackIdeVersion : Value := .str "14.0.0"
  /-- The remote API server that the language server talks to. -/
  apiServerUrl : Value := .str "https://server.codeium.com"
  /-- The root of the support folder tree. -/
  supportRoot : PosixPath
  /-- Seconds between heartbeats: 5. -/
  heartbeatInterval : Seconds := ⟨0x4014000000000000⟩
  /-- Seconds to wait for the server to announce its port: 10. -/
  launchTimeout : Seconds := ⟨0x4024000000000000⟩
  /-- Seconds between looks for the port: 0.2. -/
  portPollInterval : Seconds := ⟨0x3FC999999999999A⟩
  /-- Seconds a request may take: 10. -/
  requestTimeout : Seconds := ⟨0x4024000000000000⟩
  /-- A command that runs the server's binary, such as an interpreter. -/
  serverCommand : Option (List String) := none
  /-- The folder that holds one manager folder per launch. -/
  managerRoot : Option PosixPath := none
  /-- Whether request ids start again from zero after the server terminates. -/
  resetRequestIdsOnRestart : Bool := true
  deriving Inhabited

/-- A home folder as a leading `~` stands for it: without its trailing
slashes, and the root when nothing is left. -/
def homeFolder (home : String) : String :=
  let trimmed := (home.toList.reverse.dropWhile (· = '/')).reverse
  if trimmed.isEmpty then "/" else String.ofList trimmed

/-- A relative path under a home folder; a home that itself starts with `~`
cannot be expanded, which is a fault. -/
def underHome (home : String) (rest : PosixPath) : Except Fault PosixPath :=
  let folder := homeFolder home
  if folder.startsWith "~" then .error .noHome
  else .ok ((PosixPath.parse folder).join rest)

/-- A path with a leading `~` taken under the `HOME` in effect, and one with a
leading `~name` under the home folder of that user; the home of a user who is
not known is a fault. -/
def expandHome (homes : Homes) (p : PosixPath) : Except Fault PosixPath :=
  match p with
  | ⟨.none, first :: rest, valid⟩ =>
    -- the names after the leading one, as a relative path
    let tail : PosixPath := ⟨.none, rest, fun n hn => valid n (.tail _ hn)⟩
    if first = "~" then underHome homes.own tail
    else if first.startsWith "~" then
      match homes.others.lookup (String.ofList (first.toList.drop 1)) with
      | some home => underHome home tail
      | none => .error .noHome
    else .ok p
  | _ => .ok p

namespace Settings

/-- The defaults: the support root is `.codeium-service` in the user's home
as it was when the client started. -/
def defaults (homes : Homes) : Settings :=
  { supportRoot := (PosixPath.parse homes.initial).child ".codeium-service" }

/-- A path given as a value: only a text is one. -/
def pathOf (v : Value) : Except Fault PosixPath :=
  match v with
  | .str s => .ok (PosixPath.parse s)
  | v => .error (.notPathLike v.kind)

/-- The defaults with the overrides of an environment's `CODEIUM_*` variables
whose values count as true; the environment is looked up as a mapping. -/
def fromEnv (homes : Homes) (env : Value) : Except Fault Settings := do
  let get (k : String) : Except Fault (Option Value) := do
    let v ← env.get k
    pure (if v.truthy then some v else none)
  let s := defaults homes
  let s := match ← get "CODEIUM_IDE_NAME" with | some v => { s with ideName := v } | none => s
  let s := match ← get "CODEIUM_IDE_VERSION" with
    | some v => { s with fallbackIdeVersion := v } | none => s
  let s := match ← get "CODEIUM_API_SERVER_URL" with
    | some v => { s with apiServerUrl := v } | none => s
  match ← get "CODEIUM_SUPPORT_ROOT" with
  | some v => pure { s with supportRoot := ← expandHome homes (← pathOf v) }
  | none => pure s

end Settings

/-- The fixed folder tree under a support root. -/
structure FolderLayout where
  /-- The support root itself. -/
  applicationSupport : PosixPath
  /-- The `Codeium` folder. -/
  codeium : PosixPath
  /-- The folder of the server's binary. -/
  executable : PosixPath
  /-- The server's database folder. -/
  support : PosixPath
  deriving Inhabited

namespace FolderLayout

/-- The name of the language server's binary. -/
def binaryName : String := "language_server"

/-- The tree under a root. -/
def under (root : PosixPath) : FolderLayout :=
  let codeium := root.child "Codeium"
  { applicationSupport := root, codeium, executable := codeium.child "executable",
    support := codeium.child "support" }

/-- The path of the language server's binary. -/
def languageServer (l : FolderLayout) : PosixPath := l.executable.child binaryName

/-- The folders of the tree that are made when missing, in the order they are made. -/
def folders (l : FolderLayout) : List PosixPath :=
  [l.applicationSupport, l.codeium, l.support, l.executable]

end FolderLayout

end CompletionClient
