import CompletionClient.Service.Lifecycle
import CompletionClient.Service.Endpoint
import CompletionClient.DocumentPool
import CompletionClient.Installation
import CompletionClient.Language
import CompletionClient.Wire.Request
/-!
# The state of a running service

`World` is everything that a step of the service reads or changes: the
service's own state (its lifecycle, its open documents, its completion jobs
and background tasks, its credentials and how it builds metadata), the
scripted language servers it started, and the run queue of its tasks.

A task's place in its work is a `Point`: the activity it starts with, or the
point where it waits for a cell.  The activities are

* a *completion call*, which supersedes the calls still in flight, queues a
  cancel notice for the previous request, and runs a *job* that waits for the
  server and its reply;
* a *launch*, which checks the installation, builds the launch metadata,
  makes a manager folder (which the file system may refuse, `folderError`) and
  starts a server; every caller that needs a server waits for the one launch
  under way;
* the *heartbeat* of a running server, sent, then asleep until its interval
  elapses and it beats again, or until it is cancelled;
* a *cancel notice*, an *accept notice*, a *warm-up* that starts a server in
  the background, an *ensure* that asks for one, a *stop* that terminates the
  server (and, when the service closes, drains its background tasks), and a
  *document notice*.
-/

namespace CompletionClient.Service

/-- The arguments of a completion call, as the editor gives them. -/
structure CompletionCall where
  /-- The document. -/
  file : Locator
  /-- Its full current text. -/
  content : Value
  /-- Where to complete. -/
  cursor : Cursor
  /-- The width of one indentation level. -/
  indentSize : Value
  /-- Whether the editor indents with tabs: any value, by whether it counts as true. -/
  usesTabs : Value
  deriving Inhabited

/-- A change to the open documents. -/
inductive Notice where
  /-- A document was opened, with its text. -/
  | opened (file : Locator) (content : Value)
  /-- A document changed, with its new text. -/
  | changed (file : Locator) (content : Value)
  /-- A document was closed. -/
  | closed (file : Locator)
  /-- The editor asks to drop the current request. -/
  | dropRequest
  deriving Inhabited

/-- Where a task stands. -/
inductive Point where
  /-- A completion call, at its start. -/
  | complete (call : CompletionCall)
  /-- A completion call waiting for its job. -/
  | completeAwaitingJob (job : Nat)
  /-- A completion job, at its start. -/
  | job (job : Nat)
  /-- A completion job waiting for a server. -/
  | jobAwaitingServer (job : Nat)
  /-- A completion job waiting for its reply gate. -/
  | jobAwaitingReply (job : Nat)
  /-- A launch, at its start. -/
  | launch
  /-- A launch of the server `server` waiting for its start gate; `previous`
  is the phase to go back to if it fails. -/
  | launchAwaitingStart (previous : Phase) (server : Nat)
  /-- A heartbeat of a server, at its start. -/
  | heartbeat (server : Nat) (metadata : Metadata)
  /-- A heartbeat asleep. -/
  | heartbeatAsleep (server : Nat) (metadata : Metadata)
  /-- A cancel notice for a request id. -/
  | cancelNotice (requestId : Nat)
  /-- A warm-up, at its start. -/
  | warmUp
  /-- A warm-up waiting for a server. -/
  | warmUpAwaitingServer
  /-- An accept notice for a completion id, at its start. -/
  | accept (completionId : Value)
  /-- An accept notice waiting for a server. -/
  | acceptAwaitingServer (completionId : Value)
  /-- A request for a server, at its start. -/
  | ensure
  /-- A request for a server, waiting. -/
  | ensureAwaitingServer
  /-- A stop, at its start; `closing` when the service closes for good. -/
  | stop (closing : Bool)
  /-- A stop waiting for the launch under way to end. -/
  | stopAwaitingLaunch (closing : Bool)
  /-- A stop of a server waiting for its heartbeat to end. -/
  | stopAwaitingHeartbeat (closing : Bool) (server : Nat)
  /-- A closing stop waiting for the background tasks to end. -/
  | stopAwaitingDrain
  /-- A document notice. -/
  | notice (n : Notice)
  deriving Inhabited

/-- A completion call in flight: its request, and whether a newer call
superseded it. -/
structure Job where
  /-- The request id. -/
  requestId : Nat
  /-- The request. -/
  request : CompletionRequest
  /-- Where to complete. -/
  cursor : Cursor
  /-- The task that runs it. -/
  task : CellId
  /-- Whether a newer call superseded it. -/
  superseded : Bool := false
  deriving Inhabited

/-- Everything a step of the service reads or changes. -/
structure World where
  /-- The server's lifecycle. -/
  life : Lifecycle := {}
  /-- The open documents. -/
  pool : DocumentPool := {}
  /-- Every completion job, by index. -/
  jobs : Array Job := #[]
  /-- The jobs in flight. -/
  ongoing : List Nat := []
  /-- The background tasks not yet known to have ended. -/
  background : List CellId := []
  /-- The project root, as a path. -/
  projectRoot : String
  /-- The API key. -/
  credentials : Credentials
  /-- How metadata is built. -/
  source : MetadataSource
  /-- What an installation check finds. -/
  installation : Except Fault InstallStatus
  /-- Whether the counters start afresh when a server ends. -/
  resetOnRestart : Bool
  /-- The servers started so far, by index. -/
  servers : Array Endpoint := #[]
  /-- How the servers behave. -/
  script : Script := {}
  /-- Gates for completion replies. -/
  replyGates : GateQueue := {}
  /-- Gates for starts. -/
  startGates : GateQueue := {}
  /-- The index of the newest server at each launch report. -/
  launches : List Nat := []
  /-- How many manager folders exist. -/
  managerFolders : Nat := 0
  /-- The class and text of the error the operating system gives when a manager folder is made;
  `none` when folders can be made. -/
  folderError : Option (String × String) := none
  /-- The requests the servers received, by server, oldest first. -/
  received : List (Nat × Request) := []
  /-- The tasks. -/
  queue : RunQueue Point := {}
  deriving Inhabited

end CompletionClient.Service
