import CompletionClient.Service.World
/-!
# What the service's tasks do

Each activity is a function in `Act`, the state monad over `World`, that runs
a task from one program point until it finishes or waits for a cell; it
reports which with a `Progress`.  `Act.runWake` runs one entry of the run
queue, and `Act.settle` runs the queue until it is empty.

The rules that the activities keep:

* *One launch at a time.*  A caller that needs a server takes the current one,
  or waits for the launch under way, or starts a launch.  It waits through a
  cell of its own that the launch's result is relayed to, so that cancelling a
  caller leaves the launch running for the others.
* *Supersession.*  A completion call marks every call in flight as
  superseded and cancels its task; a superseded call fails with
  `Fault.superseded`, even when its reply arrived.
* *A server's reports count only while it is current.*  A launch or
  termination report of a server that is no longer the current one is
  ignored.  A termination, and a failed start, clears the server, cancels its
  heartbeat and resets the counters when so configured.
* *A failed launch restores the phase* it found, unless a server is current.
* Cancel notices, accept notices and heartbeats never fail: what goes wrong
  with them is dropped.
-/

namespace CompletionClient.Service

/-- How a task left off: finished with an outcome, or waiting for a cell and
to go on at a program point. -/
inductive Progress where
  /-- Finished. -/
  | done (o : Outcome)
  /-- Waiting for `cell`; to go on at `next`. -/
  | wait (cell : CellId) (next : Point)
  deriving Inhabited

/-- How a caller gets a server: at once, or by waiting for a cell. -/
inductive Ensured where
  /-- The current server. -/
  | ready (server : Nat)
  /-- A cell that will hold the launch's result. -/
  | waitOn (cell : CellId)
  deriving Inhabited

/-- The service's steps: state changes of the `World`. -/
abbrev Act := StateM World

namespace Act

/-! ## Cells and tasks -/

/-- Changes the run queue. -/
def onQueue (f : RunQueue Point → RunQueue Point) : Act Unit :=
  modify fun w => { w with queue := f w.queue }

/-- A new pending cell. -/
def newCell : Act CellId :=
  modifyGet fun w => let (q, c) := w.queue.newCell; (c, { w with queue := q })

/-- A new task, queued to start at `p`. -/
def spawn (p : Point) : Act CellId :=
  modifyGet fun w => let (q, c) := w.queue.spawn p; (c, { w with queue := q })

/-- Whether a cell has its result. -/
def isDone (c : CellId) : Act Bool := do return (← get).queue.isDone c

/-- Gives a cell its result. -/
def finish (c : CellId) (o : Outcome) : Act Unit := onQueue (·.finish c o)

/-- Cancels a task or cell. -/
def cancel (c : CellId) : Act Unit := onQueue (·.cancelTask c)

/-- Registers a listener on a cell. -/
def listen (c : CellId) (l : Listener) : Act Unit := onQueue (·.listen c l)

/-- A task in the service's background: it is forgotten when it ends. -/
def spawnBackground (p : Point) : Act CellId := do
  let t ← spawn p
  modify fun w => { w with background := w.background ++ [t] }
  listen t (.forget t)
  return t

/-! ## The lifecycle -/

/-- Changes the lifecycle. -/
def onLife (f : Lifecycle → Lifecycle) : Act Unit :=
  modify fun w => { w with life := f w.life }

/-- Sets the phase. -/
def setPhase (p : Phase) : Act Unit := onLife fun l => { l with phase := p }

/-- Changes a server. -/
def onServer (s : Nat) (f : Endpoint → Endpoint) : Act Unit :=
  modify fun w => { w with servers := w.servers.modify s f }

/-- The metadata of a request with the given id, or, for `null`, with the
current request counter. -/
def buildMetadata (requestId : Value) : Act (Except Fault Metadata) := do
  let w ← get
  let id := match requestId with
    | .null => .int (Int.ofNat w.life.counters.requests)
    | v => v
  return w.source.build w.credentials id w.life.serverVersion

/-- Clears the server `s` if it is the current one: no current server, its
heartbeat cancelled, the counters reset when so configured, and the phase
terminated. -/
def clearServer (s : Nat) : Act Unit := do
  let w ← get
  if w.life.server = some s then
    onLife fun l => { l with server := none }
    if let some h := w.life.heartbeat then
      cancel h
      onLife fun l => { l with heartbeat := none }
    if w.resetOnRestart then
      onLife fun l => { l with counters := {} }
    setPhase .terminated

/-- The launch report of the server `s`: if it is current, the phase becomes
running, the launch is counted, and a new heartbeat replaces the old one. -/
def handleLaunch (s : Nat) : Act Unit := do
  let w ← get
  if w.life.server = some s then
    setPhase .running
    modify fun w => { w with launches := w.launches ++ [w.servers.size - 1] }
    if let some h := w.life.heartbeat then cancel h
    let h ← spawn (.heartbeat s (w.servers.getD s default).launchMetadata)
    onLife fun l => { l with heartbeat := some h }

/-- The termination report of the server `s`: it is cleared if current. -/
def handleTermination (s : Nat) : Act Unit := clearServer s

/-! ## Scripted servers -/

/-- The server `s` receives a request: it is refused if the server never
started; otherwise it is recorded, and it fails if its method is scripted to. -/
def receive (s : Nat) (r : Request) : Act (Except Fault Unit) := do
  let w ← get
  if !(w.servers.getD s default).started then
    return .error (.transport (.str "Language server is not started"))
  modify fun w => { w with received := w.received ++ [(s, r)] }
  if w.script.failing.any (·.isText r.method) then
    return .error (.transport (.str (r.method ++ " failed")))
  return .ok ()

/-- Takes the oldest gate not yet taken from a queue: a cell to wait for if
that gate is closed, or nothing if there is no gate or it is open. -/
def claimGate (get? : World → GateQueue) (set : World → GateQueue → World) :
    Act (Option CellId) := do
  let gates := get? (← get)
  match gates.untaken with
  | [] => return none
  | g :: rest =>
    modify fun w => set w { get? w with untaken := rest }
    if (gates.gates.getD g {}).isOpen then return none
    let c ← newCell
    modify fun w =>
      let q := get? w
      set w { q with gates := q.gates.modify g fun gate =>
        { gate with waiters := gate.waiters ++ [c] } }
    return some c

/-- Waits for the oldest completion gate, if one is queued. -/
def claimReplyGate : Act (Option CellId) :=
  claimGate (·.replyGates) fun w q => { w with replyGates := q }

/-- Waits for the oldest start gate, if one is queued. -/
def claimStartGate : Act (Option CellId) :=
  claimGate (·.startGates) fun w q => { w with startGates := q }

/-- Opens the oldest closed gate of a queue and wakes its waiters; false if
every gate is open. -/
def openGate (get? : World → GateQueue) (set : World → GateQueue → World) : Act Bool := do
  let gates := get? (← get)
  match gates.oldestClosed? with
  | none => return false
  | some g =>
    let gate := gates.gates.getD g {}
    modify fun w =>
      let q := get? w
      set w { q with gates := q.gates.modify g fun gate => { gate with isOpen := true } }
    for c in gate.waiters do finish c (.value .unit)
    return true

/-! ## Launching -/

/-- Waits for a launch under way through a cell of the caller's own. -/
def shield (l : CellId) : Act Ensured := do
  let outer ← newCell
  listen l (.relay outer)
  return .waitOn outer

/-- A server for a caller: the current one, or the result of the launch under
way, or of a new launch. -/
def ensureStarted : Act Ensured := do
  let w ← get
  let pending := match w.life.launch with
    | some l => if w.queue.isDone l then none else some l
    | none => none
  match pending with
  | some l => shield l
  | none =>
    match w.life.server with
    | some s => return .ready s
    | none =>
      let l ← spawn .launch
      onLife fun life => { life with launch := some l }
      shield l

/-- The end of a launch: a failed one restores the phase it found unless a
server is current; either way no launch is under way any more. -/
def launchEnd (previous : Phase) (o : Outcome) : Act Progress := do
  match o with
  | .value _ => pure ()
  | _ => if (← get).life.server.isNone then setPhase previous
  onLife fun l => { l with launch := none }
  return .done o

/-- A failed start of the server `s`: it is cleared and its manager folder
removed. -/
def launchAbort (previous : Phase) (s : Nat) (o : Outcome) : Act Progress := do
  clearServer s
  modify fun w => { w with managerFolders := w.managerFolders - 1 }
  launchEnd previous o

/-- The start of the server `s` once its gate let it through: it fails with
the scripted start error, or it is marked started and reports its launch if so
scripted. -/
def launchStarted (previous : Phase) (s : Nat) : Act Progress := do
  let script := (← get).script
  match script.startError with
  | .null =>
    onServer s fun e => { e with started := true }
    if script.launchOnStart then handleLaunch s
    launchEnd previous (.value (.server s))
  | m =>
    if script.startErrorOnce then
      modify fun w => { w with script := { w.script with startError := .null } }
    launchAbort previous s (.failed (.transport m))

/-- A launch: check the installation, build the launch metadata, make a
manager folder and a server, and start it. -/
def launchBegin : Act Progress := do
  let w ← get
  let previous := w.life.phase
  setPhase .starting
  match w.installation with
  | .error f => launchEnd previous (.failed f)
  | .ok status =>
    match status.kind with
    | .notInstalled => launchEnd previous (.failed .notInstalled)
    | .outdated =>
      onLife fun l => { l with serverVersion := status.version }
      launchEnd previous (.failed (.outdated status.version status.required))
    | _ =>
      onLife fun l => { l with serverVersion := status.version }
      match ← buildMetadata .null with
      | .error f => launchEnd previous (.failed f)
      | .ok md =>
        match (← get).folderError with
        | some (kind, message) => launchEnd previous (.failed (.system kind message))
        | none =>
          let s := (← get).servers.size
          modify fun w => { w with managerFolders := w.managerFolders + 1,
                                   servers := w.servers.push { launchMetadata := md } }
          onLife fun l => { l with server := some s }
          match ← claimStartGate with
          | some c => return .wait c (.launchAwaitingStart previous s)
          | none => launchStarted previous s

/-! ## The heartbeat and the notices -/

/-- A heartbeat: one request, whose failure is dropped, then asleep. -/
def heartbeatBegin (s : Nat) (md : Metadata) : Act Progress := do
  let _ ← receive s (.heartbeat md)
  let c ← newCell
  return .wait c (.heartbeatAsleep s md)

/-- The interval of the heartbeat asleep in `task` elapses: the cell it sleeps on gets its result,
and the heartbeat is queued to beat again.  A task that ended or is asleep in no heartbeat is left
as it is, and so is a sleep that a cancellation already ended. -/
def elapse (task : CellId) : Act Unit := do
  let cell := (← get).queue.cell task
  match cell.result, cell.point, cell.waitsFor with
  | none, some (.heartbeatAsleep _ _), some c => finish c (.value .unit)
  | _, _, _ => pure ()

/-- A cancel notice for a request id, sent only to a running server. -/
def cancelNotice (requestId : Nat) : Act Unit := do
  let w ← get
  if let some s := w.life.server then
    if w.life.phase = .running then
      onLife fun l => { l with counters := { l.counters with
        cancellations := l.counters.cancellations + 1 } }
      let _ ← receive s (.cancel (.int requestId) w.source.sessionId)

/-- An accept notice once a server is at hand; failures are dropped. -/
def acceptWith (completionId : Value) (s : Nat) : Act Progress := do
  match ← buildMetadata .null with
  | .error _ => return .done (.value .unit)
  | .ok md =>
    let _ ← receive s (.accept md completionId)
    return .done (.value .unit)

/-- A change to the open documents. -/
def applyNotice : Notice → Act Outcome
  | .opened file content | .changed file content => do
    let w ← get
    let stored := do
      let rel ← Locator.relativePath file (.text w.projectRoot)
      w.pool.openAt file (.str rel) content
    match stored with
    | .error f => return .failed f
    | .ok pool => modify (fun w => { w with pool }) *> return .value .unit
  | .closed file => do
    match (← get).pool.closeAt file with
    | .error f => return .failed f
    | .ok pool => modify (fun w => { w with pool }) *> return .value .unit
  | .dropRequest => do
    cancelNotice (← get).life.counters.requests
    return .value .unit

/-! ## Completion -/

/-- Marks every job in flight as superseded and cancels its task. -/
def supersedeAll : Act Unit := do
  let w ← get
  for j in w.ongoing do
    modify fun w => { w with jobs := w.jobs.modify j fun job => { job with superseded := true } }
    cancel (w.jobs.getD j default).task
  modify fun w => { w with ongoing := [] }

/-- Whether a job was superseded. -/
def isSuperseded (j : Nat) : Act Bool := do return ((← get).jobs.getD j default).superseded

/-- The payload of an open document. -/
def payloadOf (d : Document) : DocumentPayload :=
  let lang := Language.ofPath (PosixPath.parse d.path)
  { absolutePath := .str d.path, relativePath := d.relativePath, text := d.content,
    editorLanguage := .str lang.editorLanguage, language := .int lang.code.number }

/-- The request of a completion call with the given id. -/
def buildRequest (requestId : Nat) (call : CompletionCall) : Act (Except Fault CompletionRequest) := do
  let w ← get
  return do
    let file ← call.file.toPath
    let lang := Language.ofPath (PosixPath.parse file)
    let others ← w.pool.othersAt (.text file)
    let metadata ← w.source.build w.credentials (.int requestId) w.life.serverVersion
    let rel ← Locator.relativePath (.text file) (.text w.projectRoot)
    pure { metadata,
           document := { absolutePath := .str file, relativePath := .str rel, text := call.content,
                         editorLanguage := .str lang.editorLanguage,
                         language := .int lang.code.number, cursor := some call.cursor },
           options := ⟨call.indentSize, .bool !call.usesTabs.truthy⟩,
           others := others.map payloadOf }

/-- A job's reply, read once its gate let it through. -/
def jobReply (j : Nat) : Act Progress := do
  let w ← get
  let job := w.jobs.getD j default
  match CompletionReply.decode (w.script.reply.getD (defaultReply (.int job.requestId))) with
  | .error f => return .done (.failed f)
  | .ok reply =>
    if ← isSuperseded j then return .done (.failed .superseded)
    return .done (.value (.suggestions (reply.suggestions job.cursor)))

/-- A job once a server is at hand: send the request and wait for the reply
gate, if one is queued. -/
def jobWith (j : Nat) (s : Nat) : Act Progress := do
  if ← isSuperseded j then return .done (.failed .superseded)
  let job := (← get).jobs.getD j default
  match ← receive s (.completions job.request) with
  | .error f => return .done (.failed f)
  | .ok () =>
    match ← claimReplyGate with
    | some c => return .wait c (.jobAwaitingReply j)
    | none => jobReply j

/-- A job: get a server, then the reply. -/
def jobBegin (j : Nat) : Act Progress := do
  if ← isSuperseded j then return .done (.failed .superseded)
  match ← ensureStarted with
  | .ready s => jobWith j s
  | .waitOn c => return .wait c (.jobAwaitingServer j)

/-- A completion call: supersede the calls in flight, queue a cancel notice
for the previous request, take a new request id, build the request and run
its job. -/
def completeBegin (call : CompletionCall) : Act Progress := do
  supersedeAll
  let previous := (← get).life.counters.requests
  let _ ← spawnBackground (.cancelNotice previous)
  onLife fun l => { l with counters := { l.counters with requests := previous + 1 } }
  match ← buildRequest (previous + 1) call with
  | .error f => return .done (.failed f)
  | .ok request =>
    let j := (← get).jobs.size
    let t ← spawn (.job j)
    modify fun w => { w with
      jobs := w.jobs.push { requestId := previous + 1, request, cursor := call.cursor, task := t },
      ongoing := w.ongoing ++ [j] }
    return .wait t (.completeAwaitingJob j)

/-- A completion call once its job ended: a superseded call fails with
`Fault.superseded`. -/
def completeEnd (j : Nat) (o : Outcome) : Act Progress := do
  modify fun w => { w with ongoing := w.ongoing.erase j }
  let superseded ← isSuperseded j
  match o with
  | .failed f => return .done (.failed f)
  | _ => return .done (if superseded then .failed .superseded else o)

/-! ## Stopping -/

/-- The end of a stop: a closing one cancels the background tasks and waits
for all of them. -/
def stopDrain (closing : Bool) : Act Progress := do
  if !closing then return .done (.value .unit)
  let tasks := (← get).background
  for t in tasks do cancel t
  if tasks.isEmpty then return .done (.value .unit)
  let g ← newCell
  onQueue (·.modifyCell g fun cell => { cell with remaining := tasks.length })
  for t in tasks do listen t (.tally g)
  return .wait g .stopAwaitingDrain

/-- The server `s` is told to terminate, which it reports. -/
def stopTerminate (closing : Bool) (s : Nat) : Act Progress := do
  onServer s fun e => { e with terminated := true }
  handleTermination s
  stopDrain closing

/-- A stop once no launch is under way: clear the server, wait for its
heartbeat to end, and terminate it. -/
def stopAfterLaunch (closing : Bool) : Act Progress := do
  let w ← get
  match w.life.server with
  | none => stopDrain closing
  | some s =>
    clearServer s
    match w.life.heartbeat with
    | some h =>
      if ← isDone h then stopTerminate closing s
      else return .wait h (.stopAwaitingHeartbeat closing s)
    | none => stopTerminate closing s

/-- A stop: a closing one supersedes the calls in flight; a launch under way is
let finish first. -/
def stopBegin (closing : Bool) : Act Progress := do
  if closing then supersedeAll
  match (← get).life.launch with
  | some l =>
    let waiter ← newCell
    listen l (.signal waiter)
    return .wait waiter (.stopAwaitingLaunch closing)
  | none => stopAfterLaunch closing

/-! ## Running tasks -/

/-- Runs a task from a program point, woken with `input`. -/
def run (p : Point) (input : Outcome) : Act Progress :=
  match p with
  | .complete call => completeBegin call
  | .completeAwaitingJob j => completeEnd j input
  | .job j => jobBegin j
  | .jobAwaitingServer j =>
    match input with
    | .value (.server s) => jobWith j s
    | .value _ => return .done (.failed (.transport .null))
    | o => return .done o
  | .jobAwaitingReply j =>
    match input with
    | .value _ => jobReply j
    | o => return .done o
  | .launch => launchBegin
  | .launchAwaitingStart previous s =>
    match input with
    | .value _ => launchStarted previous s
    | o => launchAbort previous s o
  | .heartbeat s md => heartbeatBegin s md
  | .heartbeatAsleep s md =>
    match input with
    | .value _ => heartbeatBegin s md
    | o => return .done o
  | .cancelNotice rid => cancelNotice rid *> return .done (.value .unit)
  | .warmUp => do
    match ← ensureStarted with
    | .ready _ => return .done (.value .unit)
    | .waitOn c => return .wait c .warmUpAwaitingServer
  | .warmUpAwaitingServer =>
    match input with
    | .cancelled => return .done .cancelled
    | _ => return .done (.value .unit)
  | .accept id => do
    match ← ensureStarted with
    | .ready s => acceptWith id s
    | .waitOn c => return .wait c (.acceptAwaitingServer id)
  | .acceptAwaitingServer id =>
    match input with
    | .value (.server s) => acceptWith id s
    | .cancelled => return .done .cancelled
    | _ => return .done (.value .unit)
  | .ensure => do
    match ← ensureStarted with
    | .ready s => return .done (.value (.server s))
    | .waitOn c => return .wait c .ensureAwaitingServer
  | .ensureAwaitingServer => return .done input
  | .stop closing => stopBegin closing
  | .stopAwaitingLaunch closing =>
    match input with
    | .cancelled => return .done .cancelled
    | _ => stopAfterLaunch closing
  | .stopAwaitingHeartbeat closing s =>
    match input with
    | .failed f => return .done (.failed f)
    | _ => stopTerminate closing s
  | .stopAwaitingDrain =>
    match input with
    | .cancelled => return .done .cancelled
    | _ => return .done (.value .unit)
  | .notice n => do return .done (← applyNotice n)

/-- Records how a task left off: its result, or the cell it waits for. -/
def advance (task : CellId) : Progress → Act Unit
  | .done o => finish task o
  | .wait c next => do
    onQueue (·.modifyCell task fun cell => { cell with point := some next, waitsFor := some c })
    listen c (.resume task)

/-- Wakes a task waiting for `source` with that cell's result, or with a
cancellation due to it. -/
def resume (task source : CellId) : Act Unit := do
  let q := (← get).queue
  let cell := q.cell task
  if cell.result.isSome || cell.waitsFor != some source then return
  let input := if cell.cancelPending then .cancelled else (q.result? source).getD .cancelled
  onQueue (·.modifyCell task fun cell => { cell with cancelPending := false, waitsFor := none })
  if let some p := cell.point then advance task (← run p input)

/-- Runs a listener of the cell `source`, which has its result. -/
def notify (l : Listener) (source : CellId) : Act Unit := do
  let q := (← get).queue
  match l with
  | .resume task => resume task source
  | .relay outer =>
    if !q.isDone outer then finish outer ((q.result? source).getD .cancelled)
  | .signal waiter => finish waiter (.value .unit)
  | .tally g =>
    let cell := q.cell g
    if cell.result.isNone then
      if cell.remaining ≤ 1 then finish g (.value .unit)
      else onQueue (·.modifyCell g fun cell => { cell with remaining := cell.remaining - 1 })
  | .forget t => modify fun w => { w with background := w.background.erase t }

/-- Starts a task; one cancelled before it started ends at once. -/
def start (task : CellId) : Act Unit := do
  let cell := (← get).queue.cell task
  if cell.result.isSome then return
  if cell.cancelPending then finish task .cancelled
  else if let some p := cell.point then advance task (← run p (.value .unit))

/-- Runs one entry of the run queue. -/
def runWake : Wake → Act Unit
  | .start task => start task
  | .notify l source => notify l source

/-- Runs the queue until it is empty, for at most `fuel` entries. -/
def settle : Nat → Act Unit
  | 0 => pure ()
  | fuel + 1 => do
    match (← get).queue.pop? with
    | none => pure ()
    | some (w, q) =>
      modify fun world => { world with queue := q }
      runWake w
      settle fuel

end Act

end CompletionClient.Service
