import CompletionClient.Service.Activity
/-!
# Sessions: scripted runs of the service

A session drives one service through a list of commands, the way an editor
and a test script would: editor calls that run as tasks (`open`, `complete`,
`terminate`, …), and script commands that change how the scripted servers
behave or open their gates.  After every command the run queue is settled:
every task runs until it finishes or waits for something that only a later
command can bring.  A command's answer is the outcome of its task if it
finished, or `Answer.pending`; a later `await` command collects it.

After every command the session takes a `Snapshot` of what can be observed:
the lifecycle, the servers, the counters, the open documents, and the
requests the servers received during the command.  Those requests are sorted
by server, then by method (heartbeat, cancel notice, completion, accept
notice), and otherwise kept in the order they arrived; that order does not
depend on how background tasks interleave with the command's own task.
-/

namespace CompletionClient.Service

/-- One command of a session. -/
inductive Command where
  /-- The editor opened a document. -/
  | opened (file : Locator) (content : Value)
  /-- The editor changed a document. -/
  | changed (file : Locator) (content : Value)
  /-- The editor closed a document. -/
  | closed (file : Locator)
  /-- The editor asks for completions. -/
  | complete (call : CompletionCall)
  /-- The editor asks to drop the current request. -/
  | dropRequest
  /-- The editor accepted a suggestion. -/
  | accept (completionId : Value)
  /-- Start a server in the background. -/
  | warmUp
  /-- Ask for a server. -/
  | ensure
  /-- Stop the server. -/
  | terminate
  /-- Close the service: supersede every call, stop the server, drain the
  background tasks. -/
  | shutdown
  /-- Collect the outcome of the task of an earlier command, named by a key
  that equals its position. -/
  | await (step : Value)
  /-- Queue a closed gate for completion replies. -/
  | holdReply
  /-- Open the oldest closed reply gate. -/
  | releaseReply
  /-- Queue a closed gate for starts. -/
  | holdStart
  /-- Open the oldest closed start gate. -/
  | releaseStart
  /-- A server, by list index, reports that it listens. -/
  | reportLaunch (server : Value)
  /-- A server, by list index, reports that it ended. -/
  | reportCrash (server : Value)
  /-- Set the reply to completion requests; none for the default reply. -/
  | respond (reply : Option Value)
  /-- Set the methods whose requests fail: the members of a value. -/
  | failMethods (methods : Value)
  /-- Set the start error, or clear it with `null`. -/
  | startError (message : Value) (once : Bool)
  /-- Set whether a start reports the launch. -/
  | launchOnStart (value : Bool)
  /-- Store an API key. -/
  | signIn (key : Value)
  /-- Forget the API key. -/
  | signOut
  /-- Set what installation checks find. -/
  | setInstallation (status : Except Fault InstallStatus)
  /-- Set what the editor reports as its version. -/
  | setIdeVersion (version : Value)
  /-- Build metadata, for a request id or, with `null`, the current one. -/
  | buildMetadata (requestId : Value)
  /-- The path of a file relative to the project root. -/
  | relativePath (file : Locator)
  /-- Let the tasks run. -/
  | settle
  deriving Inhabited

/-- What a command answers. -/
inductive Answer where
  /-- Its task has not finished. -/
  | pending
  /-- A value. -/
  | value (v : Value)
  /-- A fault. -/
  | failed (f : Fault)
  /-- The task was cancelled. -/
  | cancelled
  deriving Inhabited

/-- What can be observed of a service after a command. -/
structure Snapshot where
  /-- The phase. -/
  phase : Phase
  /-- The current server. -/
  server : Option Nat
  /-- How many servers were made. -/
  servers : Nat
  /-- The servers that were told to terminate. -/
  terminated : List Nat
  /-- The newest server at each launch report. -/
  launches : List Nat
  /-- The counters. -/
  counters : Counters
  /-- The version of the server. -/
  serverVersion : Value
  /-- The open documents. -/
  documents : List Document
  /-- How many manager folders exist. -/
  managerFolders : Nat
  /-- The requests received during the command, sorted. -/
  sent : List (Nat × Request)

/-- The rank of a method in a snapshot. -/
def methodRank : Request → Nat
  | .heartbeat _ => 0
  | .cancel .. => 1
  | .completions _ => 2
  | .accept .. => 3

/-- Requests sorted by server, then by method rank; the sort is stable. -/
def sortSent (sent : List (Nat × Request)) : List (Nat × Request) :=
  sent.mergeSort fun a b => a.1 < b.1 || (a.1 == b.1 && methodRank a.2 ≤ methodRank b.2)

/-- The snapshot of a world. -/
def World.snapshot (w : World) : Snapshot :=
  { phase := w.life.phase, server := w.life.server, servers := w.servers.size,
    terminated := (List.range w.servers.size).filter fun i => (w.servers.getD i default).terminated,
    launches := w.launches, counters := w.life.counters, serverVersion := w.life.serverVersion,
    documents := w.pool.documents, managerFolders := w.managerFolders,
    sent := sortSent w.received }

/-- The value of a task's reply. -/
def Reply.toValue : Reply → Value
  | .unit => .null
  | .server i => .int i
  | .suggestions items => .list (items.map Suggestion.toValue)

/-- The answer of an outcome. -/
def Outcome.answer : Outcome → Answer
  | .value r => .value r.toValue
  | .failed f => .failed f
  | .cancelled => .cancelled

/-- A session: the world, and the task of each command that has one. -/
structure Session where
  /-- The world. -/
  world : World
  /-- The task of each command that has one, by the command's position. -/
  tasks : List (Nat × CellId) := []

namespace Session

/-- How many queue entries a settling runs at most. -/
def settleFuel : Nat := 100000

/-- Runs an action on the world. -/
def act {α : Type} (s : Session) (a : Act α) : α × Session :=
  let (x, w) := StateT.run a s.world
  (x, { s with world := w })

/-- Lets the tasks run. -/
def settled (s : Session) : Session := (s.act (Act.settle settleFuel)).2

/-- The answer of a task: its outcome, or pending. -/
def answerOf (s : Session) (task : CellId) : Answer :=
  match s.world.queue.result? task with
  | some o => o.answer
  | none => .pending

/-- Starts a task for the command at `index`, settles, and answers. -/
def runTask (s : Session) (index : Nat) (p : Point) : Session × Answer :=
  let (t, s) := s.act (Act.spawn p)
  let s := { s.settled with tasks := s.tasks ++ [(index, t)] }
  (s, s.answerOf t)

/-- The position that an integer index names in a list of `count` items: a
negative index counts from the end; an index must fit in a signed 64-bit word. -/
def position (count : Nat) (i : Int) : Except Fault Nat :=
  if i < -Int.pow 2 63 ∨ Int.pow 2 63 ≤ i then .error .indexTooLarge
  else
    let j := if i < 0 then i + count else i
    if 0 ≤ j ∧ j < count then .ok j.toNat else .error .indexOutOfRange

/-- The server a report names, by list index: an integer, or a truth value as
0 or 1; a value of another kind is no index. -/
def serverAt (count : Nat) (index : Value) : Except Fault Nat :=
  match index with
  | .int i => position count i
  | .bool b => position count (if b then 1 else 0)
  | v => .error (.badIndex "list" v.kind)

/-- The number a key of a table of steps equals: an integer, a truth value as
0 or 1, or a float with no fractional part; other keys equal no position. -/
def stepKey : Value → Option Int
  | .int i => some i
  | .bool b => some (if b then 1 else 0)
  | .float x => x.exactInt
  | _ => none

/-- The task of the command whose position a key equals. -/
def taskAt? (s : Session) (key : Value) : Option CellId :=
  match stepKey key with
  | some i => if i < 0 then none else s.tasks.lookup i.toNat
  | none => none

/-- Changes the world. -/
def update (s : Session) (f : World → World) : Session := { s with world := f s.world }

/-- Changes the script of the servers. -/
def script (s : Session) (f : Script → Script) : Session :=
  s.update fun w => { w with script := f w.script }

/-- Runs a server's report, settles, and answers whether any server exists;
without servers no index is read. -/
def report (s : Session) (index : Value) (handle : Nat → Act Unit) : Session × Answer :=
  let count := s.world.servers.size
  if count = 0 then (s.settled, .value (.bool false))
  else match serverAt count index with
    | .ok i => ((s.act (handle i)).2.settled, .value (.bool true))
    | .error f => (s, .failed f)

/-- Runs the command at `index`; an `await` of a command without a task is an
error of the script, and an `await` by a list or an object is a fault of the
step, since those cannot be keys. -/
def command (s : Session) (index : Nat) : Command → Except String (Session × Answer)
  | .opened file content => .ok (s.runTask index (.notice (.opened file content)))
  | .changed file content => .ok (s.runTask index (.notice (.changed file content)))
  | .closed file => .ok (s.runTask index (.notice (.closed file)))
  | .complete call => .ok (s.runTask index (.complete call))
  | .dropRequest => .ok (s.runTask index (.notice .dropRequest))
  | .accept id => .ok (s.runTask index (.accept id))
  | .ensure => .ok (s.runTask index .ensure)
  | .terminate => .ok (s.runTask index (.stop false))
  | .shutdown => .ok (s.runTask index (.stop true))
  | .warmUp =>
    let s := (s.act (Act.spawnBackground .warmUp)).2
    .ok (s.settled, .value .null)
  | .await step =>
    if !step.hashable then .ok (s, .failed (.unhashable step.kind))
    else match s.taskAt? step with
      | some t => let s := s.settled; .ok (s, s.answerOf t)
      | none => .error ("no task at step " ++ step.written)
  | .holdReply => .ok (s.update fun w => { w with replyGates := w.replyGates.hold }, .value .null)
  | .holdStart => .ok (s.update fun w => { w with startGates := w.startGates.hold }, .value .null)
  | .releaseReply =>
    let (opened, s) := s.act (Act.openGate (·.replyGates) fun w q => { w with replyGates := q })
    .ok (s.settled, .value (.bool opened))
  | .releaseStart =>
    let (opened, s) := s.act (Act.openGate (·.startGates) fun w q => { w with startGates := q })
    .ok (s.settled, .value (.bool opened))
  | .reportLaunch server => .ok (s.report server Act.handleLaunch)
  | .reportCrash server => .ok (s.report server Act.handleTermination)
  | .respond reply => .ok (s.script fun k => { k with reply }, .value .null)
  | .failMethods methods =>
    match methods.setElements with
    | .ok failing => .ok (s.script fun k => { k with failing }, .value .null)
    | .error f => .ok (s, .failed f)
  | .startError message once =>
    .ok (s.script fun k => { k with startError := message, startErrorOnce := once }, .value .null)
  | .launchOnStart b => .ok (s.script fun k => { k with launchOnStart := b }, .value .null)
  | .signIn key =>
    .ok (s.update fun w => { w with credentials := w.credentials.signIn key }, .value .null)
  | .signOut =>
    .ok (s.update fun w => { w with credentials := w.credentials.signOut }, .value .null)
  | .setInstallation status => .ok (s.update fun w => { w with installation := status }, .value .null)
  | .setIdeVersion v =>
    .ok (s.update fun w => { w with source := { w.source with reportedIdeVersion := some v } },
      .value .null)
  | .buildMetadata requestId =>
    let (md, s) := s.act (Act.buildMetadata requestId)
    .ok (s, match md with | .ok m => .value m.toValue | .error f => .failed f)
  | .relativePath file =>
    .ok (s, match Locator.relativePath file (.text s.world.projectRoot) with
      | .ok p => .value (.str p)
      | .error f => .failed f)
  | .settle => .ok (s.settled, .value .null)

/-- Runs commands from position `index` on, answering each with a snapshot; an
answer that is an error of the script ends the session with that error. -/
def runFrom (s : Session) (index : Nat) : List Command → Except String (List (Answer × Snapshot))
  | [] => .ok []
  | c :: rest => do
    let s := s.update fun w => { w with received := [] }
    let (s, a) ← s.command index c
    if let .failed (.scriptError m) := a then throw m
    let more ← s.runFrom (index + 1) rest
    pure ((a, s.world.snapshot) :: more)

end Session

/-- Runs a session of commands on a world. -/
def runSession (w : World) (commands : List Command) : Except String (List (Answer × Snapshot)) :=
  Session.runFrom { world := w } 0 commands

end CompletionClient.Service
