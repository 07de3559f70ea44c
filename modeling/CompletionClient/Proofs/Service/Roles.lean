import CompletionClient.Proofs.Service.Effects
/-!
# Duties and roles of the service's cells

The run queue does not know what its cells are for; the service's activities
do.  A task's program point names its *duty*, the activity it carries out
(`Point.duty`), and, where the task waits, the *role* of the cell it waits
for (`Point.role`): a caller of a server waits for a *shield* that a launch
relays its result to, a job for a reply gate, a launch for a start gate, a
heartbeat for a *sleep* cell that its interval or a cancellation ends, a stop for a
*signal* from the launch under way or for a *drain* of the background tasks,
a completion call for its job's task and a stop for a heartbeat's task.

A plain cell gets a result in one of two ways: by cancellation, or from a
*feeder* of its role (`World.Feeds`): a relay, signal or tally listener, or a
gate that holds it as a waiter.  `World.Typed` is what the service keeps of
these: every reference to a cell is in bounds, a waiting task waits for a
cell of its role, a plain cell has at most one waiter and only feeders of its
waiter's role, and so the result a task is woken with fits the role it waited
in.  The clauses after those say that the run queue keeps every task moving:
a task at its first point is queued to start, and a task whose cell has its
result is queued to resume.  `busy` names the task whose step is under way,
for which those two clauses are suspended.
-/

namespace CompletionClient.Service

/-- The activity a task carries out. -/
inductive Duty where
  | complete
  | job (j : Nat)
  | launch
  | heartbeat (server : Nat)
  | cancelNotice
  | warmUp
  | accept
  | ensure
  | stop (closing : Bool)
  | notice
  deriving DecidableEq

/-- The duties whose tasks the service ever cancels: jobs (a newer call supersedes them),
heartbeats (a new launch report or the end of their server) and the background tasks (closing
drains them). -/
def Duty.Cancellable : Duty → Prop
  | .job _ | .heartbeat _ | .cancelNotice | .warmUp => True
  | _ => False

/-- The duties that ask for a server: a job, a warm-up, an accept notice and `ensure_started`. -/
def Duty.AsksServer : Duty → Prop
  | .job _ | .warmUp | .accept | .ensure => True
  | _ => False

/-- The duties a step of duty `du` may start a task of: a launch only when it asks for a
server, a heartbeat only when it is a launch, and any other duty always. -/
def Duty.Spawns (du : Duty) : Duty → Prop
  | .launch => du.AsksServer
  | .heartbeat _ => du = .launch
  | _ => True

/-- The requests a task of duty `du` may send to the server `s`: a heartbeat only if it is the
heartbeat of `s`, an accept notice only if it is an accept notice's task, and any other request. -/
def Duty.Sends (du : Duty) (s : Nat) : Request → Prop
  | .heartbeat _ => du = .heartbeat s
  | .accept _ _ => du = .accept
  | _ => True

/-- What a waiting task waits for. -/
inductive Role where
  /-- A cell that a launch relays its result to. -/
  | shield
  /-- A waiter of a reply gate. -/
  | replyGate
  /-- A waiter of a start gate. -/
  | startGate
  /-- A cell that the heartbeat's interval, or a cancellation, ends. -/
  | sleep
  /-- A cell that the end of a launch signals. -/
  | signal
  /-- A cell that the end of the last background task fills. -/
  | drain
  /-- The task of the job `j`. -/
  | job (j : Nat)
  /-- A heartbeat task of the server `server`. -/
  | beat (server : Nat)
  deriving DecidableEq

namespace Point

/-- The activity of a task at this point. -/
def duty : Point → Duty
  | .complete _ | .completeAwaitingJob _ => .complete
  | .job j | .jobAwaitingServer j | .jobAwaitingReply j => .job j
  | .launch | .launchAwaitingStart .. => .launch
  | .heartbeat s _ | .heartbeatAsleep s _ => .heartbeat s
  | .cancelNotice _ => .cancelNotice
  | .warmUp | .warmUpAwaitingServer => .warmUp
  | .accept _ | .acceptAwaitingServer _ => .accept
  | .ensure | .ensureAwaitingServer => .ensure
  | .stop c | .stopAwaitingLaunch c | .stopAwaitingHeartbeat c _ => .stop c
  | .stopAwaitingDrain => .stop true
  | .notice _ => .notice

/-- What a task at this point waits for; none at the first point of an activity. -/
def role : Point → Option Role
  | .completeAwaitingJob j => some (.job j)
  | .jobAwaitingServer _ | .warmUpAwaitingServer | .acceptAwaitingServer _
  | .ensureAwaitingServer => some .shield
  | .jobAwaitingReply _ => some .replyGate
  | .launchAwaitingStart .. => some .startGate
  | .heartbeatAsleep .. => some .sleep
  | .stopAwaitingLaunch _ => some .signal
  | .stopAwaitingHeartbeat _ s => some (.beat s)
  | .stopAwaitingDrain => some .drain
  | _ => none

end Point

/-- Whether a role's cell is a plain cell rather than a task. -/
def Role.Plain : Role → Prop
  | .job _ | .beat _ => False
  | _ => True

/-- The cell a listener gives a result to, and in which role. -/
def Listener.feed : Listener → Option (CellId × Role)
  | .relay c => some (c, .shield)
  | .signal c => some (c, .signal)
  | .tally c => some (c, .drain)
  | _ => none

/-- A cell waits for a gate of the queue. -/
def GateQueue.Holds (g : GateQueue) (c : CellId) : Prop :=
  ∃ i, c ∈ (g.gates.getD i {}).waiters

namespace World

variable (w : World)

/-- A cell has no result yet. -/
def Pending (c : CellId) : Prop := (w.queue.cell c).result = none

/-- A cell is a plain cell, not a task. -/
def Plain (c : CellId) : Prop := (w.queue.cell c).point = none

/-- A cell is a task of this duty. -/
def HasDuty (c : CellId) (d : Duty) : Prop :=
  ∃ p, (w.queue.cell c).point = some p ∧ p.duty = d

/-- A task stands at a point where it waits in this role. -/
def HasRole (t : CellId) (r : Role) : Prop :=
  ∃ p, (w.queue.cell t).point = some p ∧ p.role = some r

/-- A pending task waits for the cell `c`. -/
def Waits (t c : CellId) : Prop :=
  (w.queue.cell t).result = none ∧ (w.queue.cell t).waitsFor = some c

/-- The cell `c` is fed a result in the role `r`: by a registered listener, or as the waiter of
a gate. -/
inductive Feeds : CellId → Role → Prop
  | listener {l : Listener} {src c : CellId} {r : Role} :
      w.queue.Registered l src → l.feed = some (c, r) → Feeds c r
  | replyGate {c : CellId} : w.replyGates.Holds c → Feeds c .replyGate
  | startGate {c : CellId} : w.startGates.Holds c → Feeds c .startGate

/-- The cells a task of a role may wait for. -/
def Target : Role → CellId → Prop
  | .job j, c => j < w.jobs.size ∧ c = (w.jobs.getD j default).task
  | .beat _, c => ∃ s, w.HasDuty c (.heartbeat s)
  | _, c => w.Plain c

/-- What a launch ends with: a server whose start went through, or a fault. -/
def LaunchOutcome (o : Outcome) : Prop :=
  (∃ s, o = .value (.server s) ∧ (w.servers.getD s default).started = true) ∨ ∃ f, o = .failed f

/-- The results a task waiting in a role may be woken with. -/
def RoleResult : Role → Outcome → Prop
  | .shield, o => o = .cancelled ∨ w.LaunchOutcome o
  | .sleep, o => o = .cancelled ∨ o = .value .unit
  | .job _, _ | .beat _, _ => True
  | .replyGate, o => o = .value .unit ∨ o = .cancelled
  | .startGate, o | .signal, o | .drain, o => o = .value .unit

/-- The service's own state names a cell: as its heartbeat or its launch, as a job's task or a
background task, or as a gate's waiter. -/
def Names (d : CellId) : Prop :=
  w.life.heartbeat = some d ∨ w.life.launch = some d ∨
    (∃ j < w.jobs.size, (w.jobs.getD j default).task = d) ∨ d ∈ w.background ∨
    w.replyGates.Holds d ∨ w.startGates.Holds d

section Points

variable {w : World} {c : CellId} {p : Point}

/-- A cell is pending exactly when the run queue does not count it done. -/
theorem pending_iff_isDone : w.Pending c ↔ w.queue.isDone c = false := by
  simp [Pending, RunQueue.isDone_def]

/-- A task's duty is the duty of the point it stands at. -/
theorem HasDuty.eq_of_point {du : Duty} (h : w.HasDuty c du) (hp : (w.queue.cell c).point = some p) :
    p.duty = du := by
  obtain ⟨p', hp', rfl⟩ := h
  rw [hp] at hp'
  cases hp'
  rfl

/-- A task's role is the role of the point it stands at. -/
theorem HasRole.eq_of_point {r : Role} (h : w.HasRole c r) (hp : (w.queue.cell c).point = some p) :
    p.role = some r := by
  obtain ⟨p', hp', hr⟩ := h
  rw [hp] at hp'
  cases hp'
  exact hr

/-- A task has one duty. -/
theorem HasDuty.unique {du du' : Duty} (h : w.HasDuty c du) (h' : w.HasDuty c du') : du = du' := by
  obtain ⟨p, hp, rfl⟩ := h
  exact h'.eq_of_point hp

/-- A task stands at one point, so it waits in one role. -/
theorem HasRole.unique {r r' : Role} (h : w.HasRole c r) (h' : w.HasRole c r') : r = r' := by
  obtain ⟨p, hp, hr⟩ := h
  exact Option.some.inj (hr.symm.trans (h'.eq_of_point hp))

end Points

end World

/-- What the service keeps of its cells' results, points and waits, and of its references to
them, with the task `busy` in the middle of its step. -/
structure World.Shaped (w : World) (busy : Option CellId) : Prop where
  /-- Every cell the service's own state names is in bounds. -/
  world_bounded : ∀ d, w.Names d → d < w.queue.cells.size
  /-- A waiting task waits for a cell of its role. -/
  target : ∀ t d, w.Waits t d → ∃ r, w.HasRole t r ∧ w.Target r d
  /-- A pending task at a point where it waits does wait. -/
  waiting : ∀ t r, w.HasRole t r → w.Pending t → busy ≠ some t → (w.queue.cell t).waitsFor ≠ none
  /-- A plain cell has at most one waiter. -/
  alone : ∀ t t' d, w.Plain d → w.Waits t d → w.Waits t' d → t = t'
  /-- A task's cell that has its result holds one that fits the task's role. -/
  woken : ∀ t d r o, w.Waits t d → w.HasRole t r → (w.queue.cell d).result = some o →
    w.RoleResult r o
  /-- A launch ends with a started server or a fault. -/
  launch_result : ∀ c o, w.HasDuty c .launch → (w.queue.cell c).result = some o → w.LaunchOutcome o
  /-- Only tasks of cancellable duties are marked for cancellation. -/
  cancellable : ∀ t, (w.queue.cell t).cancelPending = true → w.Pending t →
    ∃ d, w.HasDuty t d ∧ d.Cancellable
  /-- The launch under way is a pending launch task. -/
  launch_ref : ∀ c, w.life.launch = some c → w.HasDuty c .launch ∧ w.Pending c
  /-- The heartbeat is a heartbeat task. -/
  heartbeat_ref : ∀ c, w.life.heartbeat = some c → ∃ s, w.HasDuty c (.heartbeat s)
  /-- Each job's task is a task of that job. -/
  job_ref : ∀ j, j < w.jobs.size → w.HasDuty (w.jobs.getD j default).task (.job j)
  /-- A task of a job is that job's task. -/
  job_unique : ∀ t j, w.HasDuty t (.job j) → j < w.jobs.size ∧ (w.jobs.getD j default).task = t
  /-- The background tasks are warm-ups and cancel notices. -/
  background_ref : ∀ t ∈ w.background, w.HasDuty t .warmUp ∨ w.HasDuty t .cancelNotice
  /-- The jobs in flight exist. -/
  ongoing_ref : ∀ j ∈ w.ongoing, j < w.jobs.size
  /-- A launch waiting to start its server names a server that exists. -/
  start_server : ∀ c previous s, (w.queue.cell c).point = some (.launchAwaitingStart previous s) →
    s < w.servers.size

/-- What the service keeps of its listeners and its queue of entries, with the task `busy` in the
middle of its step. -/
structure World.Wired (w : World) (busy : Option CellId) : Prop where
  /-- Every cell the run queue names is in bounds. -/
  queue_bounded : ∀ d, w.queue.Names d → d < w.queue.cells.size
  /-- A cell fed in a role is plain, and while it is pending its waiter waits in that role. -/
  fed : ∀ c r, w.Feeds c r → w.Plain c ∧ ∀ t, w.Pending c → w.Waits t c → w.HasRole t r
  /-- Only launches relay. -/
  relay_source : ∀ c src, w.queue.Registered (.relay c) src → w.HasDuty src .launch
  /-- A task is queued to start at most once. -/
  start_once : ∀ t, w.queue.ready.count (.start t) ≤ 1
  /-- A pending task queued to start stands at the first point of its activity. -/
  start_fresh : ∀ t, .start t ∈ w.queue.ready → w.Pending t →
    ∃ p, (w.queue.cell t).point = some p ∧ p.role = none
  /-- A pending task at the first point of its activity is queued to start. -/
  start_ready : ∀ t p, (w.queue.cell t).point = some p → p.role = none → w.Pending t →
    busy ≠ some t → .start t ∈ w.queue.ready
  /-- A task waiting for a pending cell listens to it. -/
  resume_registered : ∀ t d, w.Waits t d → w.Pending d → .resume t ∈ (w.queue.cell d).listeners
  /-- A task whose cell has its result is queued to resume. -/
  resume_ready : ∀ t d, w.Waits t d → ¬ w.Pending d → .notify (.resume t) d ∈ w.queue.ready
  /-- A queued notice comes from a cell that has its result. -/
  notify_done : ∀ l src, .notify l src ∈ w.queue.ready → ¬ w.Pending src

/-- What the service keeps of its cells, with the task `busy` in the middle of its step. -/
structure World.Typed (w : World) (busy : Option CellId) : Prop
    extends w.Shaped busy, w.Wired busy

end CompletionClient.Service
