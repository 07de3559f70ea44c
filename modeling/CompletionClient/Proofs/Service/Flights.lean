import CompletionClient.Proofs.Service.Outcomes
import CompletionClient.Proofs.Service.Events
/-!
# Completion calls in flight

A completion call supersedes the calls in flight in its first step: it marks
their jobs superseded and cancels the jobs' tasks, and so does the first step
of a closing stop (`World.Supersedes`).  A call in flight waits for its job's
task (`World.Calls`) and, when the task ends, ends with its result, or with a
supersession if its job was superseded and the task did not fail.

`World.Flights` is what the service keeps of its calls and jobs, on top of the
typing of its cells: at most one call waits for each job; the task of a
superseded job, while pending, is bound to end cancelled (`RunQueue.Doomed`);
and a supersession fault comes only from a job that was superseded, never from
a launch, a gate or an installation check.

`World.CallMove` says what one event does to the calls and their jobs: no job
record is lost or changed but for its mark, a job is marked only by a
supersession, a job leaves the flight marked or as its call ends, a call in
flight ends as its job's task did, and a job's task ends with the suggestions
of the reply to its own request, or, if its job was superseded, cancelled or
superseded.  Every event keeps the invariant and moves the calls so
(`Typed.callMove`).  A change that runs no task's step (`World.Idle`) does so
at once; a task's step does so by the lemmas of its activities.
-/

namespace CompletionClient.Service

namespace RunQueue

variable {q q' : RunQueue Point} {t x : CellId}

/-- The task `x` is bound to end cancelled: it is marked for cancellation, or the cell it waits
for was cancelled. -/
def Doomed (q : RunQueue Point) (x : CellId) : Prop :=
  (q.cell x).cancelPending = true ∨
    ∃ c, (q.cell x).waitsFor = some c ∧ (q.cell c).result = some .cancelled

/-- What a step of another task keeps keeps a task doomed. -/
theorem Doomed.keeps (h : q.Doomed x) (hk : Keeps t q q') (hx : x ≠ t) : q'.Doomed x := by
  rcases h with h | ⟨c, hw, hc⟩
  · exact .inl (hk.marked x hx h)
  · exact .inr ⟨c, by rw [hk.waitsFor x hx, hw], hk.result c _ hc⟩

theorem waitsFor_cancelTask (c d : CellId) : ((q.cancelTask c).cell d).waitsFor = (q.cell d).waitsFor :=
  (q.keeps_cancelTask (t := d + 1) c).waitsFor d (Nat.ne_of_lt (Nat.lt_succ_self d))

theorem Doomed.cancelTask (h : q.Doomed x) (c : CellId) : (q.cancelTask c).Doomed x :=
  h.keeps (q.keeps_cancelTask (t := x + 1) c) (Nat.ne_of_lt (Nat.lt_succ_self x))

/-- Cancelling a pending task that waits for nothing, or for a plain cell, dooms it. -/
theorem doomed_cancelTask (hpend : (q.cell x).result = none) (htask : (q.cell x).point.isSome)
    (hplain : ∀ c, (q.cell x).waitsFor = some c → c < q.cells.size ∧ (q.cell c).point = none) :
    (q.cancelTask x).Doomed x := by
  have hx : q.isDone x = false := by simp [isDone_def, hpend]
  have hlt : x < q.cells.size := q.lt_size_of_isSome htask
  cases hw : (q.cell x).waitsFor with
  | none =>
    rw [q.cancelTask_of_idle hx htask hw]
    exact .inl (by simp [hlt])
  | some c =>
    obtain ⟨hc, hcp⟩ := hplain c hw
    have hcx : c ≠ x := fun h => by subst h; rw [hcp] at htask; cases htask
    cases hdone : q.isDone c
    · rw [q.cancelTask_of_waiting hx htask hw hdone hcp]
      refine .inr ⟨c, ?_, ?_⟩
      · rw [q.cell_finish hdone]
        simp [hcx, hw]
      · rw [q.cell_finish hdone]
        simp [hc]
    · rw [q.cancelTask_of_woken hx htask hw hdone]
      exact .inl (by simp [hlt])

/-- Cancelling tasks one after another dooms every one of them that stays pending, if each waits
for nothing or for a plain cell. -/
theorem doomed_foldl_cancelTask (ys : List CellId) (q : RunQueue Point)
    (hys : ∀ y ∈ ys, (q.cell y).result = none → (q.cell y).point.isSome ∧
      ∀ c, (q.cell y).waitsFor = some c → c < q.cells.size ∧ (q.cell c).point = none) :
    ∀ y ∈ ys, ((ys.foldl (fun q y => q.cancelTask y) q).cell y).result = none →
      (ys.foldl (fun q y => q.cancelTask y) q).Doomed y := by
  induction ys generalizing q with
  | nil => intro y hy; cases hy
  | cons y ys ih =>
    -- the later cancellations keep what the earlier ones left, and every task where it stands
    have hys' : ∀ y' ∈ ys, ((q.cancelTask y).cell y').result = none →
        ((q.cancelTask y).cell y').point.isSome ∧ ∀ c, ((q.cancelTask y).cell y').waitsFor = some c →
          c < (q.cancelTask y).cells.size ∧ ((q.cancelTask y).cell c).point = none := by
      intro y' hy' hpend
      have hpend₀ : (q.cell y').result = none := by
        cases hr : (q.cell y').result with
        | none => rfl
        | some o => rw [(q.keeps_cancelTask (t := y' + 1) y).result y' o hr] at hpend; cases hpend
      obtain ⟨htask, hw⟩ := hys y' (List.mem_cons_of_mem y hy') hpend₀
      refine ⟨by rw [point_cancelTask]; exact htask, fun c hc => ?_⟩
      rw [waitsFor_cancelTask] at hc
      rw [size_cancelTask, point_cancelTask]
      exact hw c hc
    intro y' hy' hpend
    rw [List.foldl_cons] at hpend ⊢
    by_cases hin : y' ∈ ys
    · exact ih _ hys' y' hin hpend
    · have hyy : y' = y := (List.mem_cons.1 hy').resolve_right hin
      subst hyy
      -- the task's own cancellation dooms it, and the others keep it doomed
      have hpend₁ : ((q.cancelTask y').cell y').result = none := by
        cases hr : ((q.cancelTask y').cell y').result with
        | none => rfl
        | some o =>
          have := foldl_keeps ys (q.cancelTask y') (y' + 1) y' o hr
          rw [this] at hpend
          cases hpend
      have hpend₀ : (q.cell y').result = none := by
        cases hr : (q.cell y').result with
        | none => rfl
        | some o => rw [(q.keeps_cancelTask (t := y' + 1) y').result y' o hr] at hpend₁; cases hpend₁
      obtain ⟨htask, hw⟩ := hys y' List.mem_cons_self hpend₀
      exact foldl_doomed ys _ (doomed_cancelTask hpend₀ htask hw)
where
  foldl_keeps (ys : List CellId) (q : RunQueue Point) (t d : CellId) (o : Outcome)
      (h : (q.cell d).result = some o) : ((ys.foldl (fun q y => q.cancelTask y) q).cell d).result = some o := by
    induction ys generalizing q with
    | nil => exact h
    | cons y ys ih => exact ih _ ((q.keeps_cancelTask (t := t) y).result d o h)
  foldl_doomed (ys : List CellId) (q : RunQueue Point) {x : CellId} (h : q.Doomed x) :
      (ys.foldl (fun q y => q.cancelTask y) q).Doomed x := by
    induction ys generalizing q with
    | nil => exact h
    | cons y ys ih => exact ih _ (h.cancelTask y)

/-- Finishing cells one after another gives a result only to a cell that held none. -/
theorem result_finish_all (q : RunQueue Point) (cs : List CellId) (o : Outcome) (d : CellId) :
    ((cs.foldl (fun q c => q.finish c o) q).cell d).result = (q.cell d).result ∨
      ((q.cell d).result = none ∧ ((cs.foldl (fun q c => q.finish c o) q).cell d).result = some o) := by
  induction cs generalizing q with
  | nil => exact .inl rfl
  | cons c cs ih =>
    rw [List.foldl_cons]
    rcases q.result_finish c o d with h | ⟨-, hn, h⟩ <;> rcases ih (q.finish c o) with h' | ⟨hn', h'⟩
    · exact .inl (h'.trans h)
    · exact .inr ⟨h.symm.trans hn', h'⟩
    · exact .inr ⟨hn, h'.trans h⟩
    · rw [h] at hn'
      cases hn'

theorem waitsFor_finish (c : CellId) (o : Outcome) (d : CellId) :
    ((q.finish c o).cell d).waitsFor = (q.cell d).waitsFor := by
  cases h : q.isDone c
  · rw [cell_finish q h]; split <;> rfl
  · rw [finish_of_isDone o h]

theorem result_listen (c : CellId) (l : Listener) (d : CellId) :
    ((q.listen c l).cell d).result = (q.cell d).result := by
  rw [cell_listen]; split <;> rfl

theorem cancelPending_finish (c : CellId) (o : Outcome) (d : CellId) :
    ((q.finish c o).cell d).cancelPending = (q.cell d).cancelPending := by
  cases h : q.isDone c
  · rw [cell_finish q h]; split <;> rfl
  · rw [finish_of_isDone o h]

end RunQueue

namespace World

variable {w w' w₀ v v' : World} {t x y : CellId} {p : Point} {j : Nat}

/-- A busy task's step, begun again from where it stands: the cells made so far count as old. -/
theorem Running.rebase (h : w.Running w₀ t p) : w.Running w t p :=
  .of h.toTyped
    { pending := h.pending
      point := h.point
      idle := h.idle
      unqueued := h.unqueued
      keeps := .refl t w.queue
      spawned := fun d p' hd hp => by
        rw [w.queue.cell_of_size_le hd] at hp
        cases hp
      log := ⟨[], by rw [List.append_nil], fun _ _ hm => by cases hm⟩
      frame := .refl _ _ w }

/-! ## Calls, supersessions and the invariant -/

/-- The task `x` is a completion call in flight that waits for the job `j`. -/
def Calls (w : World) (x : CellId) (j : Nat) : Prop :=
  w.Pending x ∧ (w.queue.cell x).point = some (.completeAwaitingJob j)

/-- The event `e` starts the task `t` at `p`: it is a wake that takes the start of `t`, pending,
off the queue. -/
def Begins (w : World) (e : Event) (t : CellId) (p : Point) : Prop :=
  e = .wake ∧ (∃ q, w.queue.pop? = some (.start t, q)) ∧ w.Pending t ∧
    (w.queue.cell t).point = some p

/-- The event `e` begins a completion call or a closing stop: either supersedes the calls in
flight. -/
def Supersedes (w : World) (e : Event) : Prop :=
  ∃ t, (∃ call, w.Begins e t (.complete call)) ∨ w.Begins e t (.stop true)

/-- What the service keeps of its completion calls and their jobs. -/
structure Flights (w : World) : Prop where
  /-- At most one call in flight waits for each job. -/
  caller : ∀ x y j, w.Calls x j → w.Calls y j → x = y
  /-- The task of a superseded job, while it is pending, is bound to end cancelled. -/
  doomed : ∀ j, (w.jobs.getD j default).superseded = true → w.Pending (w.jobs.getD j default).task →
    w.queue.Doomed (w.jobs.getD j default).task
  /-- A job's task ends superseded only if its job was. -/
  job_fault : ∀ j, j < w.jobs.size →
    (w.queue.cell (w.jobs.getD j default).task).result = some (.failed .superseded) →
    (w.jobs.getD j default).superseded = true
  /-- No launch ends superseded. -/
  launch_fault : ∀ c, w.HasDuty c .launch → (w.queue.cell c).result ≠ some (.failed .superseded)
  /-- No plain cell is given a supersession. -/
  plain_fault : ∀ c, w.Plain c → (w.queue.cell c).result ≠ some (.failed .superseded)
  /-- What installation checks find is never a supersession. -/
  honest : w.installation ≠ .error .superseded

/-- What the first step of the completion call `x` leaves: the call failed with a fault of its
request, or it waits for a new job in flight, unmarked, with a pending task, that asks with the id
one above the counter's and at the call's cursor. -/
def Opens (v v' : World) (x : CellId) (call : CompletionCall) : Prop :=
  (∃ f, f ≠ .superseded ∧ (v'.queue.cell x).result = some (.failed f)) ∨
  ∃ j, v'.Calls x j ∧ j ∈ v'.ongoing ∧ (v'.jobs.getD j default).superseded = false ∧
    (v'.jobs.getD j default).requestId = v.life.counters.requests + 1 ∧
    (v'.jobs.getD j default).cursor = call.cursor ∧ v'.Pending (v'.jobs.getD j default).task

/-- What one event does to the completion calls and their jobs. -/
structure CallMove (v v' : World) (e : Event) : Prop where
  /-- The invariant holds after the event. -/
  flights : v'.Flights
  /-- No job record is lost. -/
  size : v.jobs.size ≤ v'.jobs.size
  /-- A job keeps its request id, its cursor and its task. -/
  same : ∀ j, j < v.jobs.size →
    (v'.jobs.getD j default).requestId = (v.jobs.getD j default).requestId ∧
      (v'.jobs.getD j default).cursor = (v.jobs.getD j default).cursor ∧
      (v'.jobs.getD j default).task = (v.jobs.getD j default).task
  /-- A superseded job stays superseded. -/
  kept : ∀ j, (v.jobs.getD j default).superseded = true → (v'.jobs.getD j default).superseded = true
  /-- Only a supersession supersedes a job. -/
  rise : ∀ j, (v'.jobs.getD j default).superseded = true →
    (v.jobs.getD j default).superseded = true ∨ v.Supersedes e
  /-- A job leaves the flight superseded, or as the call that waits for it ends. -/
  leaves : ∀ j ∈ v.ongoing, j ∉ v'.ongoing →
    (v'.jobs.getD j default).superseded = true ∨ ∃ y, v.Calls y j ∧ ¬ v'.Pending y
  /-- A call in flight that stays pending still waits for its job. -/
  stays : ∀ x j, v.Calls x j → v'.Pending x → v'.Calls x j
  /-- A call in flight ends as its job's task did, superseded if its job was. -/
  ends : ∀ x j o, v.Calls x j → (v'.queue.cell x).result = some o →
    ∃ r, (v.queue.cell (v.jobs.getD j default).task).result = some r ∧
      (StateT.run (Act.completeEnd j r) v).1 = .done o
  /-- A job's task ends with a value only as the suggestions, at the job's cursor, of the reply to
  the job's request. -/
  replies : ∀ j u, j < v.jobs.size → v.Pending (v.jobs.getD j default).task →
    (v'.queue.cell (v.jobs.getD j default).task).result = some (.value u) →
    ∃ r, CompletionReply.decode (v.script.reply.getD
        (defaultReply (.int (v.jobs.getD j default).requestId))) = .ok r ∧
      u = .suggestions (r.suggestions (v.jobs.getD j default).cursor)
  /-- The task of a superseded job ends cancelled or superseded. -/
  doomed : ∀ j o, (v.jobs.getD j default).superseded = true → v.Pending (v.jobs.getD j default).task →
    (v'.queue.cell (v.jobs.getD j default).task).result = some o → o = .cancelled ∨ o = .failed .superseded
  /-- A supersession marks every job in flight. -/
  marks : v.Supersedes e → ∀ j ∈ v.ongoing, (v'.jobs.getD j default).superseded = true
  /-- A completion call's first step opens it. -/
  begins : ∀ x call, v.Begins e x (.complete call) → v.Opens v' x call

/-! ## What the typing says of calls -/

/-- A call in flight waits for its job's task. -/
theorem Typed.calls_waits (h : w.Typed none) (hx : w.Calls x j) :
    j < w.jobs.size ∧ w.Waits x (w.jobs.getD j default).task := by
  have hrole : w.HasRole x (.job j) := ⟨_, hx.2, rfl⟩
  obtain ⟨c, hc⟩ := Option.ne_none_iff_exists'.1 (h.waiting x _ hrole hx.1 (Option.some_ne_none x).symm)
  obtain ⟨r, hr, htg⟩ := h.target x c ⟨hx.1, hc⟩
  rw [HasRole.unique hr hrole] at htg
  obtain ⟨hj, rfl⟩ := htg
  exact ⟨hj, hx.1, hc⟩

/-- A pending task that waits after a change that kept its wait, its point and its result stood
where it stands, pending, before the change: a new task stands at the first point of its activity. -/
theorem Typed.stood (h' : w'.Typed none) (hwait : (w'.queue.cell x).waitsFor = (w.queue.cell x).waitsFor)
    (hpoint : x < w.queue.cells.size → (w'.queue.cell x).point = (w.queue.cell x).point)
    (hres : ∀ o, (w.queue.cell x).result = some o → (w'.queue.cell x).result = some o)
    {p' : Point} {r : Role} (hp : (w'.queue.cell x).point = some p') (hr : p'.role = some r)
    (hpend : w'.Pending x) : (w.queue.cell x).point = some p' ∧ w.Pending x := by
  have hwaits := h'.waiting x r ⟨p', hp, hr⟩ hpend (Option.some_ne_none x).symm
  rw [hwait] at hwaits
  have hlt : x < w.queue.cells.size := by
    by_contra hge
    rw [w.queue.cell_of_size_le (Nat.le_of_not_lt hge)] at hwaits
    exact hwaits rfl
  refine ⟨by rw [← hpoint hlt]; exact hp, ?_⟩
  cases ho : (w.queue.cell x).result with
  | none => exact ho
  | some o => rw [Pending, hres o ho] at hpend; cases hpend

theorem lt_size_of_superseded (h : (w.jobs.getD j default).superseded = true) : j < w.jobs.size := by
  by_contra hge
  rw [Array.getD_eq_getD_getElem?, Array.getElem?_eq_none (Nat.le_of_not_lt hge)] at h
  cases h

/-- A job's task is a task. -/
theorem Typed.job_task {b : Option CellId} (h : w.Typed b) (hj : j < w.jobs.size) :
    (w.queue.cell (w.jobs.getD j default).task).point.isSome := by
  obtain ⟨p', hp, -⟩ := h.job_ref j hj
  rw [hp]
  rfl

/-- A job's task waits only for a plain cell. -/
theorem Typed.job_waits {b : Option CellId} (h : w.Typed b) (hj : j < w.jobs.size) {c : CellId}
    (hw : w.Waits (w.jobs.getD j default).task c) : c < w.queue.cells.size ∧ w.Plain c := by
  obtain ⟨p', hp, hd⟩ := h.job_ref j hj
  obtain ⟨r, hr, htg⟩ := h.target _ c hw
  replace hr := hr.eq_of_point hp
  have hcan : p'.duty.Cancellable := by rw [hd]; trivial
  refine ⟨lt_size_of_waits_target h hw, ?_⟩
  rcases role_of_cancellable hcan hr with rfl | rfl | rfl <;> exact htg

/-- A call in flight is no task of a cancellable duty, so it is never marked for cancellation. -/
theorem Typed.calls_unmarked {b : Option CellId} (h : w.Typed b) (hx : w.Calls x j) :
    (w.queue.cell x).cancelPending = false := by
  cases hc : (w.queue.cell x).cancelPending
  · rfl
  · obtain ⟨d, ⟨p', hp, rfl⟩, hcan⟩ := h.cancellable x hc hx.1
    rw [hx.2] at hp
    cases hp
    exact hcan.elim

/-! ## Changes that run no task -/

/-- A change of the world that runs no task's step: the jobs stay, what installation checks find
stays or is no supersession, results stay, every cell keeps its point, its wait and its mark, a
task given a result was marked for cancellation and is cancelled, and any cell given a result is
given a cancellation, an empty value or the result of a launch. -/
structure Idle (w w' : World) : Prop where
  jobs : w'.jobs = w.jobs
  ongoing : w'.ongoing = w.ongoing
  installation : w'.installation = w.installation ∨ w'.installation ≠ .error .superseded
  result : ∀ d o, (w.queue.cell d).result = some o → (w'.queue.cell d).result = some o
  point : ∀ d, d < w.queue.cells.size → (w'.queue.cell d).point = (w.queue.cell d).point
  waitsFor : ∀ d, (w'.queue.cell d).waitsFor = (w.queue.cell d).waitsFor
  marked : ∀ d, (w.queue.cell d).cancelPending = true → (w'.queue.cell d).cancelPending = true
  task : ∀ d o, w.Pending d → (w.queue.cell d).point.isSome → (w'.queue.cell d).result = some o →
    (w.queue.cell d).cancelPending = true ∧ o = .cancelled
  given : ∀ c o, w.Pending c → (w'.queue.cell c).result = some o →
    o = .cancelled ∨ o = .value .unit ∨
      ∃ src, w.HasDuty src .launch ∧ (w.queue.cell src).result = some o

/-- A change that keeps what a step of any task keeps runs no task. -/
theorem Idle.of_keeps (hjobs : w'.jobs = w.jobs) (hon : w'.ongoing = w.ongoing)
    (hinst : w'.installation = w.installation ∨ w'.installation ≠ .error .superseded)
    (hk : ∀ t, RunQueue.Keeps t w.queue w'.queue)
    (hgiven : ∀ c o, w.Pending c → (w'.queue.cell c).result = some o →
      o = .cancelled ∨ o = .value .unit ∨
        ∃ src, w.HasDuty src .launch ∧ (w.queue.cell src).result = some o) : w.Idle w' where
  jobs := hjobs
  ongoing := hon
  installation := hinst
  result := (hk 0).result
  point d := (hk (d + 1)).point d (Nat.ne_of_lt (Nat.lt_succ_self d))
  waitsFor d := (hk (d + 1)).waitsFor d (Nat.ne_of_lt (Nat.lt_succ_self d))
  marked d := (hk (d + 1)).marked d (Nat.ne_of_lt (Nat.lt_succ_self d))
  task d o hpend hd ho := by
    rw [(hk (d + 1)).task_result d (Nat.ne_of_lt (Nat.lt_succ_self d)) hd, hpend] at ho
    cases ho
  given := hgiven

theorem Idle.pending (hI : w.Idle w') {c : CellId} (h : w'.Pending c) : w.Pending c := by
  cases ho : (w.queue.cell c).result with
  | none => exact ho
  | some o => rw [Pending, hI.result c o ho] at h; cases h

/-- A cell that holds a supersession after a change that runs no task held it before, and stands
where it stood. -/
theorem Idle.superseded (hI : w.Idle w') (hF : w.Flights) {c : CellId}
    (h : (w'.queue.cell c).result = some (.failed .superseded)) :
    (w.queue.cell c).result = some (.failed .superseded) ∧
      (w'.queue.cell c).point = (w.queue.cell c).point := by
  cases ho : (w.queue.cell c).result with
  | none =>
    rcases hI.given c _ ho h with h | h | ⟨src, hsrc, hr⟩
    · cases h
    · cases h
    · exact absurd hr (hF.launch_fault src hsrc)
  | some o =>
    rw [hI.result c o ho] at h
    cases h
    exact ⟨rfl, hI.point c (lt_size_of_result ho)⟩

/-- A change that runs no task keeps the invariant and moves no call and no job. -/
theorem Idle.callMove (hI : v.Idle v') (hT : v.Typed none) (hT' : v'.Typed none) (hF : v.Flights)
    {e : Event} (hs : ¬ v.Supersedes e) : v.CallMove v' e where
  flights :=
    { caller := fun x y j hx hy => by
        have hx₀ := hT'.stood (hI.waitsFor x) (hI.point x) (hI.result x) hx.2 rfl hx.1
        have hy₀ := hT'.stood (hI.waitsFor y) (hI.point y) (hI.result y) hy.2 rfl hy.1
        exact hF.caller x y j ⟨hx₀.2, hx₀.1⟩ ⟨hy₀.2, hy₀.1⟩
      doomed := fun j hj hpend => by
        rw [hI.jobs] at hj hpend ⊢
        rcases hF.doomed j hj (hI.pending hpend) with hc | ⟨c, hw, hc⟩
        · exact .inl (hI.marked _ hc)
        · exact .inr ⟨c, by rw [hI.waitsFor, hw], hI.result c _ hc⟩
      job_fault := fun j hj hr => by
        rw [hI.jobs] at hj hr ⊢
        exact hF.job_fault j hj (hI.superseded hF hr).1
      launch_fault := fun c ⟨p', hp', hd⟩ hr => by
        obtain ⟨hr₀, hpt⟩ := hI.superseded hF hr
        exact hF.launch_fault c ⟨p', by rw [← hpt]; exact hp', hd⟩ hr₀
      plain_fault := fun c hc hr => by
        obtain ⟨hr₀, hpt⟩ := hI.superseded hF hr
        exact hF.plain_fault c (by rw [Plain, ← hpt]; exact hc) hr₀
      honest := by
        rcases hI.installation with h | h
        · rw [h]; exact hF.honest
        · exact h }
  size := by rw [hI.jobs]
  same j _ := by rw [hI.jobs]; exact ⟨rfl, rfl, rfl⟩
  kept j h := by rw [hI.jobs]; exact h
  rise j h := .inl (by rw [← hI.jobs]; exact h)
  leaves j hj hn := absurd (by rw [hI.ongoing]; exact hj) hn
  stays x j hx hpend := ⟨hpend, by rw [hI.point x (lt_size_of_point hx.2)]; exact hx.2⟩
  ends x j o hx ho := by
    have hc := (hI.task x o hx.1 (by rw [hx.2]; rfl) ho).1
    rw [hT.calls_unmarked hx] at hc
    cases hc
  replies j u hj hpend ho := by
    cases (hI.task _ _ hpend (hT.job_task hj) ho).2
  doomed j o hj hpend ho :=
    .inl (hI.task _ _ hpend (hT.job_task (lt_size_of_superseded hj)) ho).2
  marks h := absurd h hs
  begins x call hb := absurd ⟨x, .inl ⟨call, hb⟩⟩ hs

/-- A job's first point is its only point where it waits for nothing. -/
theorem Point.eq_job {q : Point} (hd : q.duty = .job j) (hr : q.role = none) : q = .job j := by
  cases q <;> simp only [Point.duty, Point.role, reduceCtorEq, Duty.job.injEq] at hd hr
  rw [hd]

/-- How a call ends depends on the job records only. -/
theorem completeEnd_fst (hjobs : w'.jobs = w.jobs) (o : Outcome) :
    (StateT.run (Act.completeEnd j o) w').1 = (StateT.run (Act.completeEnd j o) w).1 := by
  simp only [Act.run_completeEnd, hjobs]

/-- The points of a job and of a launch wait only for plain cells. -/
theorem Point.role_plain {q : Point} (hd : q.duty = .job j ∨ q.duty = .launch) :
    ∀ r, q.role = some r → r.Plain := by
  intro r hr
  cases q <;> simp only [Point.duty, Point.role, reduceCtorEq, or_false, false_or, Option.some.injEq]
    at hd hr <;> subst hr <;> trivial

/-- A task at a point that waits only for plain cells waits for a plain cell. -/
theorem Typed.waits_plain {b : Option CellId} (h : w.Typed b) (hp : (w.queue.cell t).point = some p)
    (hplain : ∀ r, p.role = some r → r.Plain) {c : CellId} (hw : w.Waits t c) : w.Plain c := by
  obtain ⟨r, hr, htg⟩ := h.target t c hw
  have hpl := hplain r (hr.eq_of_point hp)
  cases r <;> first | exact hpl.elim | exact htg

/-- After superseding, the task of a job that was in flight is doomed while it stays pending. -/
theorem Typed.doomed_supersedeAll {b : Option CellId} (h : w.Typed b) (hj : j ∈ w.ongoing)
    (hpend : (w.exec Act.supersedeAll).Pending (w.jobs.getD j default).task) :
    (w.exec Act.supersedeAll).queue.Doomed (w.jobs.getD j default).task := by
  rw [Pending, queue_supersedeAll] at hpend
  rw [queue_supersedeAll]
  refine RunQueue.doomed_foldl_cancelTask _ _ (fun y hy hpy => ?_) _ (List.mem_map.2 ⟨j, hj, rfl⟩) hpend
  obtain ⟨k, hk, rfl⟩ := List.mem_map.1 hy
  have hks := h.ongoing_ref k hk
  exact ⟨h.job_task hks, fun c hc => h.job_waits hks ⟨hpy, hc⟩⟩

/-! ## A task's step -/

/-- The world after the task `t`, woken with `input` in `w₀`, ran its step from `p` and recorded
how it left off. -/
def stepFrom (w₀ : World) (t : CellId) (p : Point) (input : Outcome) : World :=
  (StateT.run (Act.run p input) w₀).2.exec (Act.advance t (StateT.run (Act.run p input) w₀).1)

/-- A wake of `v` runs the step of the task `t` from `p`, woken with `input`, in `w₀`, the world
`v` with the entry taken off its queue and `t`'s cell woken, and leaves `v'`. -/
structure Woken (v w₀ v' : World) (t : CellId) (p : Point) (input : Outcome) : Prop where
  typed : v.Typed none
  pending : v.Pending t
  point : (v.queue.cell t).point = some p
  running : w₀.Running w₀ t p
  fits : ∀ r, p.role = some r → w₀.RoleResult r input
  cells : ∀ d, d ≠ t → w₀.queue.cell d = v.queue.cell d
  size : w₀.queue.cells.size = v.queue.cells.size
  world : w₀ = { v with queue := w₀.queue }
  wake : ∃ q, (v.queue.pop? = some (.start t, q) ∧ input = .value .unit) ∨
    ∃ src, v.queue.pop? = some (.notify (.resume t) src, q) ∧ v.Waits t src ∧
      input = if (v.queue.cell t).cancelPending then .cancelled
        else (v.queue.cell src).result.getD .cancelled
  after : v' = w₀.stepFrom t p input

theorem result_advance_of_ne {d : CellId} (hd : d ≠ t) (pr : Progress) :
    ((w.exec (Act.advance t pr)).queue.cell d).result = (w.queue.cell d).result := by
  cases pr with
  | done o =>
    rw [exec_advance_done]
    rcases w.queue.result_finish t o d with h | ⟨h, -⟩
    · exact h
    · exact absurd h hd
  | wait c next =>
    rw [exec_advance_wait]
    simp only [waitOn]
    rw [RunQueue.cell_listen]
    split <;> rw [RunQueue.cell_modifyCell_of_ne _ (Ne.symm hd)]

section Woken

variable {input : Outcome} (hW : v.Woken w₀ v' t p input)
include hW

theorem Woken.jobs : w₀.jobs = v.jobs := by rw [hW.world]

theorem Woken.script : w₀.script = v.script := by rw [hW.world]

theorem Woken.installation : w₀.installation = v.installation := by rw [hW.world]

/-- The step keeps what a step of `t` keeps. -/
theorem Woken.keeps : RunQueue.Keeps t v.queue v'.queue :=
  hW.after ▸ ((RunQueue.Keeps.of_others (Nat.le_of_eq hW.size.symm) hW.pending hW.cells).trans
    (hW.running.run input hW.fits).1.keeps).trans (keeps_advance _)

theorem Woken.typed' : v'.Typed none :=
  hW.after ▸ (hW.running.run input hW.fits).1.advance (hW.running.run input hW.fits).2

/-- The task ends with the outcome its step ends with, where it stood, or stays pending at the
point it waits at, a point of its own duty. -/
theorem Woken.fate :
    (∃ o, (StateT.run (Act.run p input) w₀).1 = .done o ∧
      (v'.queue.cell t).result = some o ∧
      (v'.queue.cell t).point = some p) ∨
    ∃ c next, (StateT.run (Act.run p input) w₀).1 = .wait c next ∧ v'.Pending t ∧
      (v'.queue.cell t).point = some next ∧ next.duty = p.duty := by
  obtain ⟨hR, hS⟩ := hW.running.run input hW.fits
  rw [hW.after, stepFrom]
  generalize StateT.run (Act.run p input) w₀ = r at hR hS ⊢
  obtain ⟨pr, w'⟩ := r
  dsimp only at hR hS ⊢
  have ht : t < w'.queue.cells.size := lt_size_of_point hR.point
  cases pr with
  | done o =>
    refine .inl ⟨o, rfl, ?_, ?_⟩
    · have hpend : (w'.queue.cell t).result = none := hR.pending
      rw [exec_advance_done, w'.queue.cell_finish (by simp [RunQueue.isDone_def, hpend]) o]
      simp [ht]
    · rw [exec_advance_done, RunQueue.point_finish]
      exact hR.point
  | wait c next =>
    obtain ⟨hduty, -, r, -, -, hc, hct, -⟩ := hS
    refine .inr ⟨c, next, rfl, ?_, ?_, hduty⟩
    · rw [Pending, exec_advance_wait, waitOn_result next ht hct hc]
      exact hR.pending
    · rw [exec_advance_wait, waitOn_point next ht hct hc, if_pos rfl]

/-- Another cell the step gives a result, pending before, is cancelled. -/
theorem Woken.given {d : CellId} (hd : d ≠ t) (hpend : v.Pending d) {o : Outcome}
    (ho : (v'.queue.cell d).result = some o) : o = .cancelled := by
  obtain ⟨hR, -⟩ := hW.running.run input hW.fits
  rw [hW.after, stepFrom, result_advance_of_ne hd] at ho
  refine hR.frame.cancels d o ?_ ho
  rw [Pending, hW.cells d hd]
  exact hpend

/-- The task is not woken with a supersession when it waits only for plain cells, none of which
holds one. -/
theorem Woken.input_ne (hF : v.Flights) (hplain : ∀ src, v.Waits t src → v.Plain src) :
    input ≠ .failed .superseded := by
  obtain ⟨q, ⟨-, rfl⟩ | ⟨src, -, hw, rfl⟩⟩ := hW.wake
  · intro h
    cases h
  · split
    · intro h
      cases h
    · cases hr : (v.queue.cell src).result with
      | none => intro h; cases h
      | some o =>
        intro h
        exact hF.plain_fault src (hplain src hw) (by rw [hr]; exact congrArg some h)

/-- A task started is at the first point of its activity. -/
theorem Woken.role_of_start {q : RunQueue Point} (hpop : v.queue.pop? = some (.start t, q)) :
    p.role = none :=
  (hW.typed.begin_start hpop hW.pending hW.point).1

/-- A job's task, woken, stands at a point of that job. -/
theorem Woken.duty_of_task (hj : j < v.jobs.size) (hT : (v.jobs.getD j default).task = t) :
    p.duty = .job j := by
  obtain ⟨p', hp', hd⟩ := hW.typed.job_ref j hj
  rw [hT, hW.point] at hp'
  rw [Option.some.inj hp', hd]

theorem Woken.result_of_done {o : Outcome} (h : (StateT.run (Act.run p input) w₀).1 = .done o) :
    (v'.queue.cell t).result = some o := by
  rcases hW.fate with ⟨o', hdone, ho, -⟩ | ⟨c, next, hwait, -, -, -⟩
  · rw [h] at hdone
    cases hdone
    exact ho
  · rw [h] at hwait
    cases hwait

/-- The task holds a result after its step only as the step ended with it. -/
theorem Woken.done_of_result {o : Outcome} (h : (v'.queue.cell t).result = some o) :
    (StateT.run (Act.run p input) w₀).1 = .done o ∧ (v'.queue.cell t).point = some p := by
  rcases hW.fate with ⟨o', hdone, ho, hp⟩ | ⟨-, -, -, hpend, -, -⟩
  · rw [h] at ho
    cases ho
    exact ⟨hdone, hp⟩
  · rw [Pending, h] at hpend
    cases hpend

/-- A call woken where it waits for its job ends. -/
theorem Woken.end_call (hp : p = .completeAwaitingJob j) : ¬ v'.Pending t := by
  rcases hW.fate with ⟨o, -, ho, -⟩ | ⟨c, next, hwait, -, -, -⟩
  · intro hpend
    rw [Pending, ho] at hpend
    cases hpend
  · rw [hp] at hwait
    change (StateT.run (Act.completeEnd j input) w₀).1 = _ at hwait
    rw [Act.run_completeEnd] at hwait
    cases hwait

/-- A call in flight that stays pending still waits for its job. -/
theorem Woken.stays (hx : v.Calls x j) (hpend : v'.Pending x) : v'.Calls x j := by
  by_cases hxt : x = t
  · subst hxt
    exact absurd hpend (hW.end_call (Option.some.inj (hW.point.symm.trans hx.2)))
  · exact ⟨hpend, by rw [hW.keeps.point x hxt (lt_size_of_point hx.2)]; exact hx.2⟩

/-- A call in flight ends as its job's task did: the wake that resumes it comes from that task. -/
theorem Woken.ends (hx : v.Calls x j) {o : Outcome} (ho : (v'.queue.cell x).result = some o) :
    ∃ r, (v.queue.cell (v.jobs.getD j default).task).result = some r ∧
      (StateT.run (Act.completeEnd j r) v).1 = .done o := by
  by_cases hxt : x = t
  · subst hxt
    have hp : p = .completeAwaitingJob j := Option.some.inj (hW.point.symm.trans hx.2)
    obtain ⟨-, hwait⟩ := hW.typed.calls_waits hx
    obtain ⟨q, ⟨hpop, -⟩ | ⟨src, hpop, hw, hinput⟩⟩ := hW.wake
    · have hr := hW.role_of_start hpop
      rw [hp] at hr
      cases hr
    -- the task's cell sent the notice, so it has its result
    have hsrc : src = (v.jobs.getD j default).task := Option.some.inj (hw.2.symm.trans hwait.2)
    subst hsrc
    obtain ⟨r, hr⟩ := Option.ne_none_iff_exists'.1 (hW.typed.notify_done _ _
      (by rw [(RunQueue.pop?_eq_some hpop).1]; exact List.mem_cons_self))
    refine ⟨r, hr, ?_⟩
    simp only [hW.typed.calls_unmarked hx, Bool.false_eq_true, if_false, hr, Option.getD_some] at hinput
    have hdone := (hW.done_of_result ho).1
    rw [← completeEnd_fst hW.jobs, ← hinput]
    rw [hp] at hdone
    exact hdone
  · rw [hW.keeps.task_result x hxt (by rw [hx.2]; rfl), hx.1] at ho
    cases ho

/-- A job's task ends with a value only as the suggestions of the reply to its own request. -/
theorem Woken.replies (hj : j < v.jobs.size) (hpend : v.Pending (v.jobs.getD j default).task) {u : Reply}
    (ho : (v'.queue.cell (v.jobs.getD j default).task).result = some (.value u)) :
    ∃ r, CompletionReply.decode (v.script.reply.getD
        (defaultReply (.int (v.jobs.getD j default).requestId))) = .ok r ∧
      u = .suggestions (r.suggestions (v.jobs.getD j default).cursor) := by
  by_cases hT : (v.jobs.getD j default).task = t
  · rw [hT] at ho
    obtain ⟨r, hr, hu⟩ := (Act.job_end (hW.duty_of_task hj hT) input (hW.done_of_result ho).1).2 u rfl
    rw [hW.script, hW.jobs] at hr
    rw [hW.jobs] at hu
    exact ⟨r, hr, hu⟩
  · rw [hW.keeps.task_result _ hT (hW.typed.job_task hj), hpend] at ho
    cases ho

/-- The task of a superseded job, doomed, is woken to end cancelled or superseded. -/
theorem Woken.doomed_end (hF : v.Flights) (hsup : (v.jobs.getD j default).superseded = true)
    (hT : (v.jobs.getD j default).task = t) :
    ∃ o, (StateT.run (Act.run p input) w₀).1 = .done o ∧ (o = .cancelled ∨ o = .failed .superseded) := by
  have hd := hW.duty_of_task (lt_size_of_superseded hsup) hT
  have hdoom : v.queue.Doomed t := hT ▸ hF.doomed j hsup (hT ▸ hW.pending)
  refine Act.job_end_superseded hd (by rw [hW.jobs]; exact hsup) ?_
  obtain ⟨q, ⟨hpop, -⟩ | ⟨src, -, hw, hinput⟩⟩ := hW.wake
  · exact .inl (Point.eq_job hd (hW.role_of_start hpop))
  · right
    rw [hinput]
    rcases hdoom with hc | ⟨c, hwc, hc⟩
    · rw [if_pos hc]
    · split
      · rfl
      · rw [show src = c from Option.some.inj (hw.2.symm.trans hwc), hc]
        rfl

/-- The task of a superseded job ends cancelled or superseded. -/
theorem Woken.doomed (hF : v.Flights) (hsup : (v.jobs.getD j default).superseded = true)
    (hpend : v.Pending (v.jobs.getD j default).task) {o : Outcome}
    (ho : (v'.queue.cell (v.jobs.getD j default).task).result = some o) :
    o = .cancelled ∨ o = .failed .superseded := by
  by_cases hT : (v.jobs.getD j default).task = t
  · obtain ⟨o', hdone, ho'⟩ := hW.doomed_end hF hsup hT
    rw [hT, hW.result_of_done hdone] at ho
    cases ho
    exact ho'
  · rw [hW.keeps.task_result _ hT (hW.typed.job_task (lt_size_of_superseded hsup)), hpend] at ho
    cases ho

theorem Woken.books : w₀.books = v.books := by rw [hW.world]; rfl

theorem Woken.books_run : v'.books = (StateT.run (Act.run p input) w₀).2.books := by
  rw [hW.after, stepFrom]
  exact books_of_ledger (Act.ledger_advance _ _)

theorem Woken.pending_of {c : CellId} (h : v'.Pending c) : v.Pending c := by
  cases ho : (v.queue.cell c).result with
  | none => exact ho
  | some o => rw [Pending, hW.keeps.result c o ho] at h; cases h

/-- The task stands at a point after its step. -/
theorem Woken.point_isSome : (v'.queue.cell t).point.isSome := by
  rcases hW.fate with ⟨-, -, -, hp⟩ | ⟨-, next, -, -, hp, -⟩ <;> rw [hp] <;> rfl

/-- Another cell that holds a supersession after the step held it before, where it stood. -/
theorem Woken.superseded_of_ne {c : CellId} (hct : c ≠ t)
    (h : (v'.queue.cell c).result = some (.failed .superseded)) :
    (v.queue.cell c).result = some (.failed .superseded) ∧
      (v'.queue.cell c).point = (v.queue.cell c).point := by
  cases ho : (v.queue.cell c).result with
  | none => cases hW.given hct ho h
  | some o =>
    rw [hW.keeps.result c o ho] at h
    cases h
    exact ⟨rfl, hW.keeps.point c hct (lt_size_of_result ho)⟩

/-- A task that waits only for plain cells is woken with no supersession. -/
theorem Woken.input_of_plain (hF : v.Flights) (hplain : ∀ r, p.role = some r → r.Plain) :
    input ≠ .failed .superseded :=
  hW.input_ne hF fun _ hw => hW.typed.waits_plain hW.point hplain hw

/-- A call is left waiting by the step only where the step began it. -/
theorem Woken.calls_self (hx : v'.Calls t j) : ∃ call, p = .complete call := by
  rcases hW.fate with ⟨o, -, ho, -⟩ | ⟨c, next, -, -, hnext, hduty⟩
  · have h := hx.1
    rw [Pending, ho] at h
    cases h
  · rw [hx.2] at hnext
    obtain rfl := Option.some.inj hnext
    cases p
    case complete call => exact ⟨call, rfl⟩
    case completeAwaitingJob j' => exact absurd hx.1 (hW.end_call rfl)
    all_goals simp [Point.duty] at hduty

/-- A call in flight after the step was in flight before, or is the task itself, waiting for a job
that its step made. -/
theorem Woken.calls_of (hcaller : ∀ j, v'.Calls t j → v.jobs.size ≤ j) (hx : v'.Calls x j) :
    (x ≠ t ∧ v.Calls x j) ∨ (x = t ∧ v.jobs.size ≤ j) := by
  by_cases hxt : x = t
  · subst hxt
    exact .inr ⟨rfl, hcaller j hx⟩
  · obtain ⟨hp, hpend⟩ := hW.typed'.stood (hW.keeps.waitsFor x hxt) (hW.keeps.point x hxt)
      (fun o ho => hW.keeps.result x o ho) hx.2 rfl hx.1
    exact .inl ⟨hxt, hpend, hp⟩

/-- The only task the wake begins is the one it wakes. -/
theorem Woken.begins_point {q : Point} (hb : v.Begins .wake x q) : x = t ∧ q = p := by
  obtain ⟨-, ⟨q₁, hpop₁⟩, -, hq⟩ := hb
  obtain ⟨q₂, ⟨hpop₂, -⟩ | ⟨src, hpop₂, -⟩⟩ := hW.wake
  · rw [hpop₁] at hpop₂
    cases hpop₂
    rw [hW.point] at hq
    exact ⟨rfl, (Option.some.inj hq).symm⟩
  · rw [hpop₁] at hpop₂
    cases hpop₂

/-- A wake that supersedes runs the first step of a completion call or of a closing stop. -/
theorem Woken.supersedes_point (hs : v.Supersedes .wake) :
    (∃ call, p = .complete call) ∨ p = .stop true := by
  obtain ⟨x, ⟨call, hb⟩ | hb⟩ := hs
  · exact .inl ⟨call, (hW.begins_point hb).2.symm⟩
  · exact .inr (hW.begins_point hb).2.symm

/-- The step keeps the invariant, given how it moves the job records. -/
theorem Woken.flights (hF : v.Flights)
    (htask : ∀ j, j < v.jobs.size → (v'.jobs.getD j default).task = (v.jobs.getD j default).task)
    (hkept : ∀ j, (v.jobs.getD j default).superseded = true →
      (v'.jobs.getD j default).superseded = true)
    (hrise : ∀ j, (v'.jobs.getD j default).superseded = true →
      (v.jobs.getD j default).superseded = true ∨ (v.Supersedes .wake ∧
        (v'.Pending (v.jobs.getD j default).task → v'.queue.Doomed (v.jobs.getD j default).task)))
    (hnew : ∀ j, v.jobs.size ≤ j → j < v'.jobs.size →
      v'.Pending (v'.jobs.getD j default).task ∧ (v'.jobs.getD j default).superseded = false)
    (hcaller : ∀ j, v'.Calls t j → v.jobs.size ≤ j)
    (hinst : v'.installation = v.installation) : v'.Flights where
  caller x y j hx hy := by
    rcases hW.calls_of hcaller hx with ⟨-, hx'⟩ | ⟨rfl, hx'⟩ <;>
      rcases hW.calls_of hcaller hy with ⟨-, hy'⟩ | ⟨rfl, hy'⟩
    · exact hF.caller x y j hx' hy'
    · exact absurd (hW.typed.calls_waits hx').1 (Nat.not_lt.2 hy')
    · exact absurd (hW.typed.calls_waits hy').1 (Nat.not_lt.2 hx')
    · rfl
  doomed j hsup hpend := by
    by_cases hj : j < v.jobs.size
    · rw [htask j hj] at hpend ⊢
      rcases hrise j hsup with hsup₀ | ⟨-, hdoom⟩
      · -- a doomed task woken now ends: a task still pending is another one
        have hTt : (v.jobs.getD j default).task ≠ t := fun hT => by
          obtain ⟨o, hdone, -⟩ := hW.doomed_end hF hsup₀ hT
          rw [hT, Pending, hW.result_of_done hdone] at hpend
          cases hpend
        exact (hF.doomed j hsup₀ (hW.pending_of hpend)).keeps hW.keeps hTt
      · exact hdoom hpend
    · have hnot := (hnew j (Nat.le_of_not_lt hj) (lt_size_of_superseded hsup)).2
      rw [hsup] at hnot
      cases hnot
  job_fault j hj' hr := by
    by_cases hj : j < v.jobs.size
    · rw [htask j hj] at hr
      cases ho : (v.queue.cell (v.jobs.getD j default).task).result with
      | some o =>
        rw [hW.keeps.result _ o ho] at hr
        cases hr
        exact hkept j (hF.job_fault j hj ho)
      | none =>
        by_cases hT : (v.jobs.getD j default).task = t
        · have hd := hW.duty_of_task hj hT
          rw [hT] at hr
          rcases (Act.job_end hd input (hW.done_of_result hr).1).1 rfl with hsup | hin
          · exact hkept j (by rw [← hW.jobs]; exact hsup)
          · exact absurd hin (hW.input_of_plain hF (Point.role_plain (.inl hd)))
        · rw [hW.keeps.task_result _ hT (hW.typed.job_task hj), ho] at hr
          cases hr
    · have hpend := (hnew j (Nat.le_of_not_lt hj) hj').1
      rw [Pending, hr] at hpend
      cases hpend
  launch_fault c hd hr := by
    by_cases hct : c = t
    · subst hct
      obtain ⟨hdone, hp⟩ := hW.done_of_result hr
      have hd' := hd.eq_of_point hp
      exact Act.launch_end (by rw [hW.installation]; exact hF.honest) hd'
        (hW.input_of_plain hF (Point.role_plain (j := 0) (.inr hd'))) hdone rfl
    · obtain ⟨hr₀, hpt⟩ := hW.superseded_of_ne hct hr
      obtain ⟨p', hp', hd'⟩ := hd
      exact hF.launch_fault c ⟨p', by rw [← hpt]; exact hp', hd'⟩ hr₀
  plain_fault c hc hr := by
    by_cases hct : c = t
    · subst hct
      have hpt := hW.point_isSome
      rw [hc] at hpt
      cases hpt
    · obtain ⟨hr₀, hpt⟩ := hW.superseded_of_ne hct hr
      exact hF.plain_fault c (by rw [Plain, ← hpt]; exact hc) hr₀
  honest := by rw [hinst]; exact hF.honest

/-- A task's step moves the calls as `CallMove` says, given how it moves the job records: it keeps
each record but for its mark, marks a job only in a supersession that dooms the job's task, lets a
job leave the flight only marked or as the task is the call that waits for it, adds only unmarked
jobs whose tasks are pending, and leaves no call waiting for an old job. -/
theorem Woken.callMove (hF : v.Flights) (hsize : v.jobs.size ≤ v'.jobs.size)
    (hsame : ∀ j, j < v.jobs.size →
      (v'.jobs.getD j default).requestId = (v.jobs.getD j default).requestId ∧
        (v'.jobs.getD j default).cursor = (v.jobs.getD j default).cursor ∧
        (v'.jobs.getD j default).task = (v.jobs.getD j default).task)
    (hkept : ∀ j, (v.jobs.getD j default).superseded = true →
      (v'.jobs.getD j default).superseded = true)
    (hrise : ∀ j, (v'.jobs.getD j default).superseded = true →
      (v.jobs.getD j default).superseded = true ∨ (v.Supersedes .wake ∧
        (v'.Pending (v.jobs.getD j default).task → v'.queue.Doomed (v.jobs.getD j default).task)))
    (hleaves : ∀ j ∈ v.ongoing, j ∉ v'.ongoing →
      (v'.jobs.getD j default).superseded = true ∨ p = .completeAwaitingJob j)
    (hnew : ∀ j, v.jobs.size ≤ j → j < v'.jobs.size →
      v'.Pending (v'.jobs.getD j default).task ∧ (v'.jobs.getD j default).superseded = false)
    (hcaller : ∀ j, v'.Calls t j → v.jobs.size ≤ j)
    (hinst : v'.installation = v.installation)
    (hmarks : v.Supersedes .wake → ∀ j ∈ v.ongoing, (v'.jobs.getD j default).superseded = true)
    (hbegins : ∀ call, p = .complete call → v.Opens v' t call) : v.CallMove v' .wake where
  flights := hW.flights hF (fun j hj => (hsame j hj).2.2) hkept hrise hnew hcaller hinst
  size := hsize
  same := hsame
  kept := hkept
  rise j h := (hrise j h).imp id And.left
  leaves j hj hn := (hleaves j hj hn).imp id fun (hp : p = .completeAwaitingJob j) =>
    ⟨t, ⟨hW.pending, hp ▸ hW.point⟩, hW.end_call hp⟩
  stays _ _ := hW.stays
  ends _ _ _ hx ho := hW.ends hx ho
  replies _ _ hj hpend ho := hW.replies hj hpend ho
  doomed _ _ hsup hpend ho := hW.doomed hF hsup hpend ho
  marks := hmarks
  begins x call hb := by
    obtain ⟨rfl, hpx⟩ := hW.begins_point hb
    exact hbegins call hpx.symm

/-- A step that keeps the job records moves the calls so, when a job leaves the flight only as its
call ends and no call is left waiting for an old job. -/
theorem Woken.callMove_of_jobs (hF : v.Flights) (hjobs : v'.jobs = v.jobs)
    (hinst : v'.installation = v.installation)
    (hleaves : ∀ j ∈ v.ongoing, j ∉ v'.ongoing → p = .completeAwaitingJob j)
    (hcaller : ∀ j, v'.Calls t j → v.jobs.size ≤ j) (hcall : ∀ call, p ≠ .complete call)
    (hstop : p ≠ .stop true) : v.CallMove v' .wake :=
  hW.callMove hF (by rw [hjobs]) (fun j _ => by rw [hjobs]; exact ⟨rfl, rfl, rfl⟩)
    (fun j h => by rw [hjobs]; exact h) (fun j h => .inl (by rw [← hjobs]; exact h))
    (fun j hj hn => .inr (hleaves j hj hn)) (fun j hle hlt => absurd hlt (by rw [hjobs]; omega))
    hcaller hinst (fun hs => (hW.supersedes_point hs).elim (fun ⟨call, hc⟩ => absurd hc (hcall call))
      fun hc => absurd hc hstop) fun call hc => absurd hc (hcall call)

/-- A step that keeps the books moves no call but by its own end. -/
theorem Woken.callMove_of_books (hF : v.Flights) (hbooks : v'.books = v.books)
    (hcall : ∀ call, p ≠ .complete call) (hstop : p ≠ .stop true) : v.CallMove v' .wake := by
  simp only [World.books, Prod.mk.injEq] at hbooks
  obtain ⟨hjobs, hon, hinst⟩ := hbooks
  refine hW.callMove_of_jobs hF hjobs hinst (fun j hj hn => absurd (by rw [hon]; exact hj) hn)
    (fun j hx => ?_) hcall hstop
  obtain ⟨call, hc⟩ := hW.calls_self hx
  exact absurd hc (hcall call)

/-- The last step of a call takes its job out of the flight. -/
theorem Woken.callMove_end (hF : v.Flights) {j₀ : Nat} (hp : p = .completeAwaitingJob j₀) :
    v.CallMove v' .wake := by
  have hb := hW.books_run
  rw [hp, show (StateT.run (Act.run (.completeAwaitingJob j₀) input) w₀).2 =
    { w₀ with ongoing := w₀.ongoing.erase j₀ } from congrArg Prod.snd (Act.run_completeEnd w₀ j₀ input)] at hb
  have hb₀ := hW.books
  simp only [World.books, Prod.mk.injEq] at hb hb₀
  obtain ⟨hjobs, hon, hinst⟩ := hb
  obtain ⟨hjobs₀, hon₀, hinst₀⟩ := hb₀
  refine hW.callMove_of_jobs hF (hjobs.trans hjobs₀) (hinst.trans hinst₀) (fun j hj hn => ?_)
    (fun j hx => absurd hx.1 (hW.end_call hp)) (fun call hc => by rw [hp] at hc; cases hc)
    fun hc => by rw [hp] at hc; cases hc
  rw [hp]
  by_contra hne
  refine hn ?_
  rw [hon, hon₀]
  exact (List.mem_erase_of_ne fun h => hne (by rw [h])).2 hj

/-- A completion call or a closing stop begins with a supersession. -/
theorem Woken.supersedes (hp : (∃ call, p = .complete call) ∨ p = .stop true) : v.Supersedes .wake := by
  obtain ⟨q, ⟨hpop, -⟩ | ⟨src, hpop, hw, -⟩⟩ := hW.wake
  · refine ⟨t, ?_⟩
    rcases hp with ⟨call, hc⟩ | hc
    · exact .inl ⟨call, rfl, ⟨q, hpop⟩, hW.pending, by rw [hW.point, hc]⟩
    · exact .inr ⟨rfl, ⟨q, hpop⟩, hW.pending, by rw [hW.point, hc]⟩
  · -- a task woken where it waits stands at no first point
    obtain ⟨r, ⟨p', hp', hr⟩, -⟩ := hW.typed.target t src hw
    rw [hW.point] at hp'
    obtain rfl := Option.some.inj hp'
    rcases hp with ⟨call, rfl⟩ | rfl <;> simp [Point.role] at hr

/-- A step that supersedes the jobs in flight, and may add an unmarked job with a pending task,
moves the calls so. -/
theorem Woken.callMove_supersede (hF : v.Flights) (hp : (∃ call, p = .complete call) ∨ p = .stop true)
    (hjobs : v'.jobs = (w₀.exec Act.supersedeAll).jobs ∨ ∃ job : Job,
      v'.jobs = (w₀.exec Act.supersedeAll).jobs.push job ∧ job.superseded = false ∧ v'.Pending job.task)
    (hkeeps : RunQueue.Keeps t (w₀.exec Act.supersedeAll).queue v'.queue)
    (hcaller : ∀ j, v'.Calls t j → v.jobs.size ≤ j)
    (hinst : v'.installation = v.installation)
    (hbegins : ∀ call, p = .complete call → v.Opens v' t call) : v.CallMove v' .wake := by
  have hon₀ : w₀.ongoing = v.ongoing := by rw [hW.world]
  have hsize₁ : (w₀.exec Act.supersedeAll).jobs.size = v.jobs.size := by
    rw [Act.jobs_supersedeAll, size_foldl_marked, hW.jobs]
  -- the old records, the jobs in flight marked
  have hmarked : ∀ j, j < v.jobs.size → v'.jobs.getD j default =
      if j ∈ v.ongoing then { v.jobs.getD j default with superseded := true } else v.jobs.getD j default := by
    intro j hj
    have h₁ : v'.jobs.getD j default = (w₀.exec Act.supersedeAll).jobs.getD j default := by
      rcases hjobs with h | ⟨job, h, -, -⟩
      · rw [h]
      · rw [h, Array.getD_eq_getD_getElem?, Array.getD_eq_getD_getElem?, Array.getElem?_push,
          if_neg (by rw [hsize₁]; exact Nat.ne_of_lt hj)]
    rw [h₁, Act.jobs_supersedeAll, getD_foldl_marked, hW.jobs, hon₀]
    simp [hj]
  have hnew : ∀ j, v.jobs.size ≤ j → j < v'.jobs.size →
      v'.Pending (v'.jobs.getD j default).task ∧ (v'.jobs.getD j default).superseded = false := by
    intro j hle hlt
    rcases hjobs with h | ⟨job, h, hsup, hpend⟩
    · rw [h, hsize₁] at hlt
      omega
    · rw [h, Array.size_push, hsize₁] at hlt
      have hj : j = (w₀.exec Act.supersedeAll).jobs.size := by omega
      rw [h, hj, Array.getD_eq_getD_getElem?, Array.getElem?_push, if_pos rfl]
      exact ⟨hpend, hsup⟩
  refine hW.callMove hF ?_ (fun j hj => ?_) (fun j h => ?_) (fun j h => ?_) (fun j hj _ => ?_) hnew
    hcaller hinst (fun _ j hj => by rw [hmarked j (hW.typed.ongoing_ref j hj), if_pos hj]) hbegins
  · rcases hjobs with h | ⟨job, h, -, -⟩ <;> simp [h, hsize₁]
  · rw [hmarked j hj]
    by_cases hon : j ∈ v.ongoing
    · rw [if_pos hon]
      exact ⟨rfl, rfl, rfl⟩
    · rw [if_neg hon]
      exact ⟨rfl, rfl, rfl⟩
  · rw [hmarked j (lt_size_of_superseded h)]
    by_cases hon : j ∈ v.ongoing
    · rw [if_pos hon]
    · rw [if_neg hon]
      exact h
  · by_cases hj : j < v.jobs.size
    · rw [hmarked j hj] at h
      by_cases hon : j ∈ v.ongoing
      · refine .inr ⟨hW.supersedes hp, fun hpend => ?_⟩
        -- the task was cancelled in the supersession, and the rest of the step keeps it doomed
        have hpend₁ : (w₀.exec Act.supersedeAll).Pending (w₀.jobs.getD j default).task := by
          rw [hW.jobs]
          cases ho : ((w₀.exec Act.supersedeAll).queue.cell (v.jobs.getD j default).task).result with
          | none => exact ho
          | some o => rw [Pending, hkeeps.result _ o ho] at hpend; cases hpend
        have hdoom := hW.running.toTyped.doomed_supersedeAll (by rw [hon₀]; exact hon) hpend₁
        rw [hW.jobs] at hdoom
        refine hdoom.keeps hkeeps fun hT => ?_
        have hd := hW.duty_of_task hj hT
        rcases hp with ⟨call, rfl⟩ | rfl <;> simp [Point.duty] at hd
      · rw [if_neg hon] at h
        exact .inl h
    · have := (hnew j (Nat.le_of_not_lt hj) (lt_size_of_superseded h)).2
      rw [h] at this
      cases this
  · rw [hmarked j (hW.typed.ongoing_ref j hj), if_pos hj]
    exact .inl rfl

theorem Woken.keeps_after {w₁ : World}
    (hk : RunQueue.Keeps t w₁.queue (StateT.run (Act.run p input) w₀).2.queue) :
    RunQueue.Keeps t w₁.queue v'.queue := by
  rw [hW.after, stepFrom]
  exact hk.trans (keeps_advance _)

/-- A closing stop supersedes the jobs in flight. -/
theorem Woken.callMove_stop (hF : v.Flights) (hp : p = .stop true) : v.CallMove v' .wake := by
  have hrun : StateT.run (Act.run p input) w₀ = StateT.run (Act.stopBegin true) w₀ := by rw [hp]; rfl
  have hb := hW.books_run
  rw [hrun, books_of_ledger (Act.ledger_stopBegin true)] at hb
  obtain ⟨jobs, queue, -, hsup⟩ := exec_supersedeAll_eq w₀
  simp only [World.books, Act.stopStart, if_true, Prod.mk.injEq] at hb
  obtain ⟨hjobs, -, hinst⟩ := hb
  refine hW.callMove_supersede hF (.inr hp) (.inl hjobs) (hW.keeps_after ?_) (fun j hx => ?_) ?_
    (fun call hc => by rw [hp] at hc; cases hc)
  · rw [hrun]
    cases hl : w₀.life.launch with
    | some l =>
      rw [Act.run_stopBegin_of_launch w₀ true hl]
      exact (RunQueue.keeps_newCell _).trans (RunQueue.keeps_listen _ _ _)
    | none =>
      rw [Act.run_stopBegin_of_none w₀ true hl]
      have h₁ : (Act.stopStart w₀ true).Running w₀ t p :=
        hW.running.supersedeAll fun j => by rw [hp]; simp [Point.duty]
      exact (h₁.rebase.stopAfterLaunch (by rw [hp]; rfl)).1.keeps
  · obtain ⟨call, hc⟩ := hW.calls_self hx
    rw [hp] at hc
    cases hc
  · rw [hinst, hsup, hW.installation]

/-- A completion call supersedes the jobs in flight and, if its request builds, adds its own job,
unmarked, with a pending task, and waits for it. -/
theorem Woken.callMove_complete (hF : v.Flights) {call : CompletionCall} (hp : p = .complete call) :
    v.CallMove v' .wake := by
  have hrun : StateT.run (Act.run p input) w₀ = StateT.run (Act.completeBegin call) w₀ := by
    rw [hp]
    rfl
  obtain ⟨jobs, queue, hqs, hsup⟩ := exec_supersedeAll_eq w₀
  -- what the supersession and the cancel notice leave
  have hstart : RunQueue.Keeps t (w₀.exec Act.supersedeAll).queue (Act.completeStart w₀).queue :=
    (RunQueue.keeps_spawn _ _).trans (RunQueue.keeps_listen _ _ _)
  have hsize₃ : (Act.completeStart w₀).jobs.size = v.jobs.size := by
    show (w₀.exec Act.supersedeAll).jobs.size = _
    rw [Act.jobs_supersedeAll, size_foldl_marked, hW.jobs]
  have hinst₃ : (Act.completeStart w₀).installation = v.installation := by
    show (w₀.exec Act.supersedeAll).installation = _
    rw [hsup, hW.installation]
  have htlt : t < (Act.completeStart w₀).queue.cells.size := by
    have h₀ : t < w₀.queue.cells.size := lt_size_of_point hW.running.point
    have h₁ := hstart.size
    rw [hsup] at h₁
    dsimp only at h₁
    rw [hqs] at h₁
    exact Nat.lt_of_lt_of_le h₀ h₁
  rcases Act.completeBegin_cases (w := w₀) call with ⟨f, hrun₀, hf⟩ | ⟨request, hrun₀⟩
  · have hrun' := hrun.trans hrun₀
    have hv' : v' = (Act.completeStart w₀).exec (Act.advance t (.done (.failed f))) := by
      rw [hW.after, stepFrom, hrun']
    have hres : (v'.queue.cell t).result = some (.failed f) := hW.result_of_done (by rw [hrun'])
    refine hW.callMove_supersede hF (.inl ⟨call, hp⟩) (.inl (by rw [hv']; rfl))
      (hW.keeps_after (by rw [hrun']; exact hstart)) (fun j hx => ?_) (by rw [hv', ← hinst₃]; rfl)
      fun _ _ => .inl ⟨f, hf, hres⟩
    have hpend := hx.1
    rw [Pending, hres] at hpend
    cases hpend
  · have hrun' := hrun.trans hrun₀
    have hv' := hW.after
    rw [stepFrom, hrun'] at hv'
    dsimp only at hv'
    have hjobs : v'.jobs = (Act.completeStart w₀).jobs.push
        { requestId := (Act.completeStart w₀).life.counters.requests, request,
          cursor := call.cursor, task := (Act.completeStart w₀).queue.cells.size } := by
      rw [hv']
      rfl
    -- the new job's task is pending: the step only waits for it
    have hpend : v'.Pending (Act.completeStart w₀).queue.cells.size := by
      rw [hv', Pending, result_advance_of_ne (Nat.ne_of_gt htlt)]
      dsimp only
      rw [RunQueue.cell_spawn, if_pos rfl]
    have hcalls : v'.Calls t (Act.completeStart w₀).jobs.size := by
      rcases hW.fate with ⟨o, hdone, -, -⟩ | ⟨c, next, hwait, hpt, hnext, -⟩
      · rw [hrun'] at hdone
        cases hdone
      · rw [hrun'] at hwait
        cases hwait
        exact ⟨hpt, hnext⟩
    refine hW.callMove_supersede hF (.inl ⟨call, hp⟩) (.inr ⟨_, hjobs, rfl, hpend⟩)
      (hW.keeps_after (by rw [hrun']; exact hstart.trans (RunQueue.keeps_spawn _ _)))
      (fun j hx => ?_) (by rw [hv', ← hinst₃]; rfl) fun call' hc => .inr ⟨_, hcalls, ?_, ?_⟩
    · have hj := hx.2
      rw [hcalls.2] at hj
      cases hj
      exact Nat.le_of_eq hsize₃.symm
    · rw [hv', exec_advance_wait]
      exact List.mem_append_right _ (List.mem_singleton_self _)
    · rw [hp] at hc
      cases hc
      rw [Array.getD_eq_getD_getElem?, hjobs, Array.getElem?_push_size, Option.getD_some]
      refine ⟨rfl, ?_, rfl, hpend⟩
      rw [(completeStart_frame w₀).2.2.2.2.2, hW.world]

/-- Every step of a task moves the calls as `CallMove` says. -/
theorem Woken.callMove_step (hF : v.Flights) : v.CallMove v' .wake := by
  have hbooks : p.Routine ∨ p = .launch → v'.books = v.books := by
    intro hp
    rw [hW.books_run, ← hW.books]
    rcases hp with hp | rfl
    · exact books_of_ledger (Act.ledger_run hp input)
    · exact Act.books_launchBegin
  cases p
  case complete call => exact hW.callMove_complete hF rfl
  case completeAwaitingJob j => exact hW.callMove_end hF rfl
  case launch => exact hW.callMove_of_books hF (hbooks (.inr rfl)) (fun _ h => by cases h) fun h => by cases h
  case stop closing =>
    cases closing
    · exact hW.callMove_of_books hF (hbooks (.inl trivial)) (fun _ h => by cases h) fun h => by cases h
    · exact hW.callMove_stop hF rfl
  all_goals exact hW.callMove_of_books hF (hbooks (.inl trivial)) (fun _ h => by cases h) fun h => by cases h

end Woken

/-! ## Every event -/

/-- A change of the cells alone, keeping what every step keeps and giving pending cells at most one
fixed cancellation or empty value, runs no task. -/
theorem Idle.of_books (hbooks : w'.books = w.books) (hk : ∀ t, RunQueue.Keeps t w.queue w'.queue)
    (o₀ : Outcome) (ho₀ : o₀ = .cancelled ∨ o₀ = .value .unit)
    (hres : ∀ d, (w'.queue.cell d).result = (w.queue.cell d).result ∨
      ((w.queue.cell d).result = none ∧ (w'.queue.cell d).result = some o₀)) : w.Idle w' := by
  simp only [World.books, Prod.mk.injEq] at hbooks
  obtain ⟨hjobs, hon, hinst⟩ := hbooks
  refine .of_keeps hjobs hon (.inl hinst) hk fun c o hpend ho => ?_
  rcases hres c with h | ⟨-, h⟩
  · rw [h, hpend] at ho
    cases ho
  · rw [h] at ho
    cases ho
    exact ho₀.imp_right .inl

theorem Idle.of_cells (hbooks : w'.books = w.books) (hcells : w'.queue.cells = w.queue.cells) :
    w.Idle w' :=
  .of_books hbooks (fun _ => RunQueue.keeps_of_cells hcells) .cancelled (.inl rfl)
    fun d => .inl (by simp [RunQueue.cell, hcells])

/-- A task marked for cancellation ends cancelled as it is started, and runs no step. -/
theorem idle_cancelled {q : RunQueue Point} (hpop : w.queue.pop? = some (.start t, q))
    (hc : (w.queue.cell t).cancelPending = true) :
    w.Idle { w with queue := q.finish t .cancelled } := by
  have hcell := RunQueue.cell_of_pop? hpop
  -- only the task itself is given a result, and that is its cancellation
  have hgiven : ∀ d o, w.Pending d → ((q.finish t .cancelled).cell d).result = some o →
      d = t ∧ o = .cancelled := by
    intro d o hpend ho
    rcases q.result_finish t .cancelled d with h | ⟨rfl, -, h⟩
    · rw [h, hcell, hpend] at ho
      cases ho
    · rw [h] at ho
      exact ⟨rfl, (Option.some.inj ho).symm⟩
  have hk : RunQueue.Keeps t w.queue (q.finish t .cancelled) :=
    (RunQueue.keeps_of_cells (RunQueue.pop?_eq_some hpop).2).trans (q.keeps_finish (.inl rfl) _)
  exact
    { jobs := rfl, ongoing := rfl, installation := .inl rfl, result := hk.result
      point := fun d _ => by rw [RunQueue.point_finish, hcell]
      waitsFor := fun d => by rw [RunQueue.waitsFor_finish, hcell]
      marked := fun d hd => by rw [RunQueue.cancelPending_finish, hcell]; exact hd
      task := fun d o hpend _ ho => by
        obtain ⟨rfl, rfl⟩ := hgiven d o hpend ho
        exact ⟨hc, rfl⟩
      given := fun d o hpend ho => .inl (hgiven d o hpend ho).2 }

/-- A relay, a signal or a drain gives its cell a value and runs no step. -/
theorem Typed.idle_feed (h : w.Typed none) {l : Listener} {src c : CellId} {r : Role} {o : Outcome}
    {q : RunQueue Point} (hpop : w.queue.pop? = some (.notify l src, q)) (hf : w.Feeds c r)
    (ho : (l = .relay c ∧ o = (w.queue.cell src).result.getD .cancelled) ∨
      (r ≠ .shield ∧ o = .value .unit)) :
    w.Idle { w with queue := q.finish c o } := by
  obtain ⟨hready, hcells⟩ := RunQueue.pop?_eq_some hpop
  have hcell := RunQueue.cell_of_pop? hpop
  have hplain : (q.cell c).point = none := by rw [hcell]; exact (h.fed c r hf).1
  refine .of_keeps rfl rfl (.inl rfl)
    (fun _ => (RunQueue.keeps_of_cells hcells).trans (q.keeps_finish (.inr hplain) o))
    fun d o' hpend ho' => ?_
  rcases q.result_finish c o d with h' | ⟨rfl, -, h'⟩
  · rw [h', hcell, hpend] at ho'
    cases ho'
  rw [h'] at ho'
  cases ho'
  rcases ho with ⟨rfl, rfl⟩ | ⟨-, rfl⟩
  · -- a relay passes on what its launch gave, or a cancellation
    have hsrc : w.HasDuty src .launch :=
      h.relay_source _ src (.inr (by rw [hready]; exact List.mem_cons_self))
    cases hr : (w.queue.cell src).result with
    | none => exact .inl rfl
    | some x => exact .inr (.inr ⟨src, hsrc, hr⟩)
  · exact .inr (.inl rfl)

/-- A drain that is not the last counts down and runs no step. -/
theorem idle_tally {g src : CellId} {q : RunQueue Point}
    (hpop : w.queue.pop? = some (.notify (.tally g) src, q)) :
    w.Idle { w with queue := q.modifyCell g fun cell => { cell with remaining := cell.remaining - 1 } } :=
  .of_books rfl (fun _ => (RunQueue.keeps_of_cells (RunQueue.pop?_eq_some hpop).2).trans
      (q.keeps_modifyCell g (fun _ => rfl) (fun _ => rfl) (fun _ => rfl) fun _ h => h)) .cancelled
    (.inl rfl) fun d => .inl (by
      rw [q.field_modifyCell (f := fun cell => { cell with remaining := cell.remaining - 1 }) g d
        (fun cell => cell.result) fun _ => rfl, RunQueue.cell_of_pop? hpop])

/-- Every event but a wake runs no task. -/
theorem Typed.idle_step (h : w.Typed none) {e : Event} (he : e.Honest) (hwake : e ≠ .wake) :
    w.Idle (w.step e) := by
  cases e with
  | wake => exact absurd rfl hwake
  | call c =>
    exact .of_books rfl (fun _ => RunQueue.keeps_spawn _ _) .cancelled (.inl rfl)
      (RunQueue.onlyCancels_spawn _).result
  | warmUp =>
    show w.Idle (w.exec (Act.spawnBackground .warmUp))
    rw [World.exec, Act.run_spawnBackground]
    refine .of_books rfl (fun _ => (RunQueue.keeps_spawn _ _).trans (RunQueue.keeps_listen _ _ _))
      .cancelled (.inl rfl) fun d => ?_
    rw [RunQueue.result_listen]
    exact (RunQueue.onlyCancels_spawn _).result d
  | holdReply | holdStart | script _ | credentials _ | ideVersion _ | clearLog => exact .of_cells rfl rfl
  | elapse t =>
    -- the end of a sleep gives a plain cell an empty value
    show w.Idle (w.exec (Act.elapse t))
    rcases h.elapse_cases t with he' | ⟨s, c, -, -, -, hplain, he'⟩
    · rw [he']
      exact .of_cells rfl rfl
    · rw [he']
      exact .of_books rfl (fun _ => w.queue.keeps_finish (.inr hplain) _) _ (.inr rfl)
        fun d => (w.queue.result_finish c _ d).imp_right fun h => h.2
  | installation st =>
    exact .of_keeps rfl rfl (.inr he) (fun _ => .refl _ _) fun c o hpend ho =>
      absurd (hpend.symm.trans ho) (Option.some_ne_none o).symm
  | releaseReply =>
    show w.Idle (w.exec (Act.openGate (·.replyGates) fun w q => { w with replyGates := q }))
    cases hg : w.replyGates.oldestClosed? with
    | none => rw [World.exec, Act.run_openReplyGate_of_none w hg]; exact .of_cells rfl rfl
    | some g =>
      rw [World.exec, Act.run_openReplyGate_of_some w hg, finish_all_eq]
      exact .of_books rfl (fun _ => RunQueue.keeps_finish_all _
          (fun c hc => (h.fed c .replyGate (.replyGate ⟨g, hc⟩)).1) _) _ (.inr rfl)
        (RunQueue.result_finish_all _ _ _)
  | releaseStart =>
    show w.Idle (w.exec (Act.openGate (·.startGates) fun w q => { w with startGates := q }))
    cases hg : w.startGates.oldestClosed? with
    | none => rw [World.exec, Act.run_openStartGate_of_none w hg]; exact .of_cells rfl rfl
    | some g =>
      rw [World.exec, Act.run_openStartGate_of_some w hg, finish_all_eq]
      exact .of_books rfl (fun _ => RunQueue.keeps_finish_all _
          (fun c hc => (h.fed c .startGate (.startGate ⟨g, hc⟩)).1) _) _ (.inr rfl)
        (RunQueue.result_finish_all _ _ _)
  | reportLaunch s =>
    show w.Idle (w.exec (Act.handleLaunch s))
    by_cases hs : w.life.server = some s
    · rw [World.exec, Act.run_handleLaunch_of_current w hs]
      exact .of_books rfl (fun _ => keeps_beatCancelled.trans (RunQueue.keeps_spawn _ _)) .cancelled
        (.inl rfl) (onlyCancels_beatCancelled.trans (RunQueue.onlyCancels_spawn _)).result
    · rw [World.exec, Act.run_handleLaunch_of_ne w hs]
      exact .of_cells rfl rfl
  | reportCrash s =>
    show w.Idle (w.exec (Act.handleTermination s))
    rw [Act.handleTermination_eq]
    by_cases hs : w.life.server = some s
    · rw [World.exec, Act.run_clearServer_of_current w hs]
      exact .of_books rfl (fun _ => keeps_beatCancelled) .cancelled (.inl rfl)
        onlyCancels_beatCancelled.result
    · rw [World.exec, Act.run_clearServer_of_ne w hs]
      exact .of_cells rfl rfl

/-- The event that begins a task at the first point of an activity that nothing cancels wakes it
with an empty value. -/
theorem Typed.woken_of_begins (h : v.Typed none) {e : Event} (hb : v.Begins e t p)
    (hp : ¬ p.duty.Cancellable) : ∃ w₀, v.Woken w₀ (v.step e) t p (.value .unit) := by
  obtain ⟨rfl, ⟨q, hpop⟩, hpend, hpt⟩ := hb
  have hcell := RunQueue.cell_of_pop? hpop
  have hc : (v.queue.cell t).cancelPending = false := by
    cases hc : (v.queue.cell t).cancelPending
    · rfl
    · obtain ⟨d, hd, hcan⟩ := h.cancellable t hc hpend
      exact absurd ((hd.eq_of_point hpt) ▸ hcan) hp
  obtain ⟨hrole, hrun⟩ := h.begin_start hpop hpend hpt
  refine ⟨_, h, hpend, hpt, hrun, (fun r hr => by rw [hrole] at hr; cases hr), fun d _ => hcell d,
    by simp [(RunQueue.pop?_eq_some hpop).2], rfl, ⟨q, .inl ⟨hpop, rfl⟩⟩, ?_⟩
  show v.wake = _
  unfold World.wake
  rw [hpop]
  show ({ v with queue := q } : World).exec (Act.start t) = _
  rw [World.exec, Act.run_start _ (by rw [hcell]; exact hpend) (by rw [hcell]; exact hc)
    (by rw [hcell]; exact hpt)]
  rfl

/-- Every wake that supersedes nothing keeps the invariant of the calls and moves them as
`CallMove` says. -/
theorem Typed.callMove_wake (h : v.Typed none) (hF : v.Flights) (hs : ¬ v.Supersedes .wake) :
    v.CallMove v.wake .wake := by
  refine h.wake_cases (fun v' => v'.Typed none → v.CallMove v' .wake)
    (fun _ h' => (Idle.of_cells rfl rfl).callMove h h' hF hs)
    (fun _ q hpop h' => (show v.Idle { v with queue := q } from
      .of_cells rfl (RunQueue.pop?_eq_some hpop).2).callMove h h' hF hs)
    (fun t q hpop _ hc h' => (idle_cancelled hpop hc).callMove h h' hF hs)
    (fun e t p input q w₀ hpop hpend hwake hp hrun hin hcell hsize hw₀ _ _ => ?_)
    (fun l src c r o q hpop _ _ hf ho h' => (h.idle_feed hpop hf ho).callMove h h' hF hs)
    (fun g src q hpop h' => (idle_tally hpop).callMove h h' hF hs)
    (fun x src q hpop h' => (show v.Idle { v with queue := q, background := v.background.erase x } from
      .of_cells rfl (RunQueue.pop?_eq_some hpop).2).callMove h h' hF hs)
    (h.step .wake)
  refine Woken.callMove_step ⟨h, hpend, hp, hrun, hin, hcell, hsize, hw₀, ⟨q, ?_⟩, rfl⟩ hF
  rcases hwake with ⟨rfl, hi⟩ | ⟨src, rfl, hw, hi⟩
  · exact .inl ⟨hpop, hi⟩
  · exact .inr ⟨src, hpop, hw, hi⟩

/-- Every honest event keeps the invariant of the calls and moves them as `CallMove` says. -/
theorem Typed.callMove (h : v.Typed none) (hF : v.Flights) {e : Event} (he : e.Honest) :
    v.CallMove (v.step e) e := by
  by_cases hs : v.Supersedes e
  · -- the first step of a completion call or of a closing stop, neither of which is cancellable
    obtain ⟨t, ⟨call, hb⟩ | hb⟩ := hs
    · obtain ⟨w₀, hW⟩ := h.woken_of_begins hb fun hc => hc.elim
      obtain rfl := hb.1
      exact hW.callMove_step hF
    · obtain ⟨w₀, hW⟩ := h.woken_of_begins hb fun hc => hc.elim
      obtain rfl := hb.1
      exact hW.callMove_step hF
  cases e
  case wake => exact h.callMove_wake hF hs
  all_goals exact (h.idle_step he fun hw => by cases hw).callMove h (h.step _) hF hs

end World

end CompletionClient.Service
