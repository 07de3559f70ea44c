import CompletionClient.Service.Session
/-!
# Runs of the service

A run of the service is any interleaving of what can happen to it: the editor
calls one of its methods, which starts a task (`Event.call`, and
`Event.warmUp` for the one method that starts a background task); the run
queue runs its first entry (`Event.wake`); the interval of a heartbeat asleep
elapses (`Event.elapse`); or the world outside moves: a gate of a scripted
server opens, a server reports that it listens or that it ended, the servers'
script, the credentials, the installation or the editor's version change, or
the log of received requests is cleared.  `World.step` is
the world after one such event and `World.run` after a list of them; every
event can happen in every world, so a run is any list of events.

A settling of the run queue is a run of wakes (`World.exec_settle`), and so is
every command of a session (`Session.command_reaches`): the states a session
passes through are states of runs.  `World.at es n` is the world after the
first `n` events of `es`, the form in which statements about one event of a run
are made.

A run starts from a fresh service (`World.Fresh`): no server, no task, no job.
Where a statement needs it, the installation checks of a run are *honest*
(`Event.Honest`): what the checker reports is a status or a fault of its own,
never the supersession of a request.
-/

namespace CompletionClient.Service

/-- A method of the service that the editor calls, as the program point of the
task that runs it. -/
inductive Call where
  /-- `get_completions`. -/
  | complete (call : CompletionCall)
  /-- A document notice, or `cancel_request`. -/
  | notice (n : Notice)
  /-- `notify_accepted`. -/
  | accept (completionId : Value)
  /-- `ensure_started` of the lifecycle. -/
  | ensure
  /-- `terminate`, or with `closing`, `aclose`. -/
  | stop (closing : Bool)
  deriving Inhabited

/-- The program point where the task of a call starts. -/
def Call.point : Call → Point
  | .complete call => .complete call
  | .notice n => .notice n
  | .accept id => .accept id
  | .ensure => .ensure
  | .stop closing => .stop closing

/-- What can happen next to a service. -/
inductive Event where
  /-- The editor calls a method: its task is queued to start. -/
  | call (c : Call)
  /-- The editor calls `start`: a background task asks for a server. -/
  | warmUp
  /-- The run queue runs its first entry. -/
  | wake
  /-- The interval of the heartbeat asleep in the task `task` elapses. -/
  | elapse (task : CellId)
  /-- A closed gate for completion replies is queued. -/
  | holdReply
  /-- The oldest closed reply gate opens. -/
  | releaseReply
  /-- A closed gate for starts is queued. -/
  | holdStart
  /-- The oldest closed start gate opens. -/
  | releaseStart
  /-- A server reports that it listens. -/
  | reportLaunch (server : Nat)
  /-- A server reports that it ended. -/
  | reportCrash (server : Nat)
  /-- The servers' script changes. -/
  | script (k : Script)
  /-- The credentials change. -/
  | credentials (c : Credentials)
  /-- What installation checks find changes. -/
  | installation (status : Except Fault InstallStatus)
  /-- What the editor reports as its version changes. -/
  | ideVersion (v : Value)
  /-- The log of received requests is cleared. -/
  | clearLog
  deriving Inhabited

/-- An event is honest when an installation it sets up reports a status or a
fault of the checker, never a superseded request. -/
def Event.Honest : Event → Prop
  | .installation status => status ≠ .error .superseded
  | _ => True

namespace World

/-- The world after an action. -/
def exec {α : Type} (w : World) (a : Act α) : World := (StateT.run a w).2

/-- The world after the run queue ran its first entry; an empty queue stays. -/
def wake (w : World) : World :=
  match w.queue.pop? with
  | none => w
  | some (e, q) => exec { w with queue := q } (Act.runWake e)

/-- The world after an event. -/
def step (w : World) : Event → World
  | .call c => w.exec (Act.spawn c.point)
  | .warmUp => w.exec (Act.spawnBackground .warmUp)
  | .wake => w.wake
  | .elapse t => w.exec (Act.elapse t)
  | .holdReply => { w with replyGates := w.replyGates.hold }
  | .releaseReply => w.exec (Act.openGate (·.replyGates) fun w q => { w with replyGates := q })
  | .holdStart => { w with startGates := w.startGates.hold }
  | .releaseStart => w.exec (Act.openGate (·.startGates) fun w q => { w with startGates := q })
  | .reportLaunch s => w.exec (Act.handleLaunch s)
  | .reportCrash s => w.exec (Act.handleTermination s)
  | .script k => { w with script := k }
  | .credentials c => { w with credentials := c }
  | .installation status => { w with installation := status }
  | .ideVersion v => { w with source := { w.source with reportedIdeVersion := some v } }
  | .clearLog => { w with received := [] }

/-- The world after a list of events. -/
def run (w : World) (es : List Event) : World := es.foldl step w

/-- The world after the first `n` events of a run. -/
def «at» (w : World) (es : List Event) (n : Nat) : World := w.run (es.take n)

/-- A fresh service: no server, no launch, no task, no job, no gate. -/
structure Fresh (w : World) : Prop where
  phase : w.life.phase = .absent
  server : w.life.server = none
  heartbeat : w.life.heartbeat = none
  launch : w.life.launch = none
  cells : w.queue.cells = #[]
  ready : w.queue.ready = []
  jobs : w.jobs = #[]
  ongoing : w.ongoing = []
  background : w.background = []
  servers : w.servers = #[]
  replyGates : w.replyGates.gates = #[] ∧ w.replyGates.untaken = []
  startGates : w.startGates.gates = #[] ∧ w.startGates.untaken = []
  installation : w.installation ≠ .error .superseded

@[simp] theorem run_nil (w : World) : w.run [] = w := rfl

@[simp] theorem run_cons (w : World) (e : Event) (es : List Event) :
    w.run (e :: es) = (w.step e).run es := rfl

theorem run_append (w : World) (es es' : List Event) : w.run (es ++ es') = (w.run es).run es' := by
  simp [run, List.foldl_append]

theorem run_concat (w : World) (es : List Event) (e : Event) :
    w.run (es ++ [e]) = (w.run es).step e := by
  simp [run_append]

theorem at_succ (w : World) {es : List Event} {n : Nat} (hn : n < es.length) :
    w.at es (n + 1) = (w.at es n).step es[n] := by
  simp only [«at»]
  rw [List.take_add_one, List.getElem?_eq_getElem hn, Option.toList_some, run_concat]

/-- What every event keeps, every run keeps. -/
theorem run_induction (P : World → Prop) (hstep : ∀ w e, P w → P (w.step e)) :
    ∀ (es : List Event) {w : World}, P w → P (w.run es)
  | [], _, h => h
  | e :: es, _, h => run_induction P hstep es (hstep _ e h)

/-- What every honest event keeps, every run of honest events keeps. -/
theorem run_induction_honest (P : World → Prop) (hstep : ∀ w e, e.Honest → P w → P (w.step e)) :
    ∀ (es : List Event), (∀ e ∈ es, e.Honest) → ∀ {w : World}, P w → P (w.run es)
  | [], _, _, h => h
  | e :: es, hes, _, h =>
    run_induction_honest P hstep es (fun e' he' => hes e' (List.mem_cons_of_mem e he'))
      (hstep _ e (hes e List.mem_cons_self) h)

/-! ## Settling is waking -/

/-- The world after a settling with some fuel is the world after as many wakes. -/
theorem exec_settle (w : World) (fuel : Nat) :
    w.exec (Act.settle fuel) = w.run (List.replicate fuel .wake) := by
  induction fuel generalizing w with
  | zero => rfl
  | succ fuel ih =>
    rw [List.replicate_succ, run_cons]
    cases hq : w.queue.pop? with
    | none =>
      have hw : w.step .wake = w := by simp [step, wake, hq]
      have hidle : ∀ n, w.run (List.replicate n .wake) = w := by
        intro n
        induction n with
        | zero => rfl
        | succ n ihn => rw [List.replicate_succ, run_cons, hw, ihn]
      rw [hw, hidle]
      simp [exec, Act.settle, hq]
      rfl
    | some p =>
      obtain ⟨e, q⟩ := p
      rw [← ih]
      simp [exec, Act.settle, hq, step, wake]
      rfl

end World

/-! ## Sessions are runs -/

namespace Session

theorem act_world {α : Type} (s : Session) (a : Act α) : (s.act a).2.world = s.world.exec a := rfl

/-- A settling moves the world by as many wakes as its fuel. -/
theorem settled_world (s : Session) :
    s.settled.world = s.world.run (List.replicate settleFuel .wake) :=
  World.exec_settle s.world settleFuel

/-- An action that an event performs, followed by a settling, moves the world by the event and
the wakes of the settling. -/
theorem act_settled_world {α : Type} (s : Session) (a : Act α) {e : Event}
    (he : s.world.step e = s.world.exec a) :
    (s.act a).2.settled.world = s.world.run (e :: List.replicate settleFuel .wake) := by
  rw [settled_world, act_world, World.run_cons, he]

/-- A command that starts a task for a call moves the world by the call and a settling. -/
theorem runTask_world (s : Session) (index : Nat) (c : Call) :
    (s.runTask index c.point).1.world = s.world.run (.call c :: List.replicate settleFuel .wake) :=
  act_settled_world s (Act.spawn c.point) rfl

/-- A report of a server moves the world by the event that delivers it and a settling, or by a
settling alone when there is no server; a report that names no server changes nothing. -/
theorem report_reaches (s : Session) (index : Value) {handle : Nat → Act Unit} (event : Nat → Event)
    (hevent : ∀ i (w : World), w.step (event i) = w.exec (handle i)) :
    ∃ es : List Event, (s.report index handle).1.world = s.world.run es := by
  unfold report
  dsimp only
  split
  · exact ⟨_, settled_world s⟩
  · split
    · next i _ => exact ⟨_, act_settled_world s (handle i) (hevent i s.world)⟩
    · exact ⟨[], rfl⟩

theorem command_await (s : Session) (index : Nat) (step : Value) :
    s.command index (.await step) =
      if !step.hashable then .ok (s, .failed (.unhashable step.kind))
      else match s.taskAt? step with
        | some t => .ok (s.settled, s.settled.answerOf t)
        | none => .error ("no task at step " ++ step.written) := rfl

theorem command_warmUp (s : Session) (index : Nat) :
    s.command index .warmUp = .ok ((s.act (Act.spawnBackground .warmUp)).2.settled, .value .null) := rfl

theorem command_openGate (s : Session) (index : Nat) :
    s.command index .releaseReply =
        .ok ((s.act (Act.openGate (·.replyGates) fun w q => { w with replyGates := q })).2.settled,
          .value (.bool (s.act (Act.openGate (·.replyGates) fun w q => { w with replyGates := q })).1)) ∧
      s.command index .releaseStart =
        .ok ((s.act (Act.openGate (·.startGates) fun w q => { w with startGates := q })).2.settled,
          .value (.bool (s.act (Act.openGate (·.startGates) fun w q => { w with startGates := q })).1)) :=
  ⟨rfl, rfl⟩

/-- Every command of a session moves its world along a run of events: a call and the settling
after it, a report and its settling, a settling alone, or one change of the world outside; a
command that only reads leaves the world as it is.  So every theorem about runs holds of the
worlds a session passes through. -/
theorem command_reaches (s : Session) (index : Nat) (cmd : Command) {r : Session × Answer}
    (h : s.command index cmd = .ok r) : ∃ es : List Event, r.1.world = s.world.run es := by
  cases cmd with
  | opened file content => cases h; exact ⟨_, runTask_world s index (.notice (.opened file content))⟩
  | changed file content => cases h; exact ⟨_, runTask_world s index (.notice (.changed file content))⟩
  | closed file => cases h; exact ⟨_, runTask_world s index (.notice (.closed file))⟩
  | complete call => cases h; exact ⟨_, runTask_world s index (.complete call)⟩
  | dropRequest => cases h; exact ⟨_, runTask_world s index (.notice .dropRequest)⟩
  | accept id => cases h; exact ⟨_, runTask_world s index (.accept id)⟩
  | ensure => cases h; exact ⟨_, runTask_world s index .ensure⟩
  | terminate => cases h; exact ⟨_, runTask_world s index (.stop false)⟩
  | shutdown => cases h; exact ⟨_, runTask_world s index (.stop true)⟩
  | warmUp =>
    rw [command_warmUp] at h
    cases h
    exact ⟨_, act_settled_world s _ (e := .warmUp) rfl⟩
  | await step =>
    -- an await settles, unless its key is no key or names no task
    rw [command_await] at h
    split at h
    · cases h; exact ⟨[], rfl⟩
    · split at h
      · cases h; exact ⟨_, settled_world s⟩
      · cases h
  | holdReply => cases h; exact ⟨[.holdReply], rfl⟩
  | releaseReply =>
    rw [(command_openGate s index).1] at h
    cases h
    exact ⟨_, act_settled_world s _ (e := .releaseReply) rfl⟩
  | holdStart => cases h; exact ⟨[.holdStart], rfl⟩
  | releaseStart =>
    rw [(command_openGate s index).2] at h
    cases h
    exact ⟨_, act_settled_world s _ (e := .releaseStart) rfl⟩
  | reportLaunch server => cases h; exact report_reaches s server Event.reportLaunch fun _ _ => rfl
  | reportCrash server => cases h; exact report_reaches s server Event.reportCrash fun _ _ => rfl
  | respond reply => cases h; exact ⟨[.script _], rfl⟩
  | failMethods methods =>
    simp only [command] at h
    split at h
    · cases h; exact ⟨[.script _], rfl⟩
    · cases h; exact ⟨[], rfl⟩
  | startError message once => cases h; exact ⟨[.script _], rfl⟩
  | launchOnStart b => cases h; exact ⟨[.script _], rfl⟩
  | signIn key => cases h; exact ⟨[.credentials _], rfl⟩
  | signOut => cases h; exact ⟨[.credentials _], rfl⟩
  | setInstallation status => cases h; exact ⟨[.installation status], rfl⟩
  | setIdeVersion v => cases h; exact ⟨[.ideVersion v], rfl⟩
  | buildMetadata requestId => cases h; exact ⟨[], rfl⟩
  | relativePath file => cases h; exact ⟨[], rfl⟩
  | settle => cases h; exact ⟨_, settled_world s⟩

end Session

end CompletionClient.Service
