import CompletionClient.Proofs.Service.Invariant
/-!
# Beating heartbeats, and changes that leave the lifecycle's tasks alone

A heartbeat task *beats* (`World.Beating`) while it has no result, no
cancellation is due to it, and the sleep it is in, if it sleeps, was not
cancelled: its interval may end the sleep, and then it beats again, and
nothing but a cancellation of its own will end it.  A change of
the world is *quiet* for a busy task `b` (`World.Quiet`) when every beating
heartbeat still beats, no task but `b` starts to beat, and every pending
launch task but `b` stands where it stood; it is *steady* (`World.Steady`)
when it also keeps the lifecycle's server, heartbeat, phase and launch.

Every action on the run queue is quiet except cancelling a heartbeat and
starting a heartbeat or a launch.  A cancellation reaches only the task it
names and the plain cell that task waits for, and no other task waits for
that cell (`Shaped.alone`), so no beating heartbeat sleeps on it
(`quiet_cancelTask`).  So every activity that does not handle the lifecycle is
steady, action after action.
-/

namespace CompletionClient.Service

/-- A change of one cell that keeps a view of cells keeps that view of every cell. -/
theorem RunQueue.field_modifyCell {α : Type} (q : RunQueue Point) (c d : CellId)
    {f : Cell Point → Cell Point} (g : Cell Point → α) (hg : ∀ cell, g (f cell) = g cell) :
    g ((q.modifyCell c f).cell d) = g (q.cell d) := by
  rw [RunQueue.cell_modifyCell]
  split
  · exact hg _
  · rfl

namespace World

variable {w w' w'' : World} {b : Option CellId} {x : CellId} {s : Nat}

/-- A heartbeat task of the server `s` that still beats: it has no result, no cancellation is due
to it, and the sleep it is in, if it sleeps, was not cancelled. -/
structure Beating (w : World) (h : CellId) (s : Nat) : Prop where
  duty : w.HasDuty h (.heartbeat s)
  pending : w.Pending h
  unmarked : (w.queue.cell h).cancelPending = false
  asleep : ∀ d, (w.queue.cell h).waitsFor = some d → (w.queue.cell d).result ≠ some .cancelled

/-- A cell with no result holds no cancellation. -/
theorem Pending.ne_cancelled {d : CellId} (h : w.Pending d) : (w.queue.cell d).result ≠ some .cancelled := by
  intro hc
  rw [show (w.queue.cell d).result = none from h] at hc
  cases hc

/-- A change that keeps every beating heartbeat beating, lets no task but `b` start to beat, and
leaves every pending launch task but `b` at the point where it stood, pending before. -/
structure Quiet (w w' : World) (b : Option CellId) : Prop where
  beating : ∀ h s, w.Beating h s → w'.Beating h s
  beats : ∀ h s, b ≠ some h → w'.Beating h s → w.Beating h s
  launches : ∀ c, b ≠ some c → w'.HasDuty c .launch → w'.Pending c →
    (w'.queue.cell c).point = (w.queue.cell c).point ∧ w.Pending c

/-- A quiet change that keeps the lifecycle's server, heartbeat, phase and launch. -/
structure Steady (w w' : World) (b : Option CellId) : Prop extends Quiet w w' b where
  server : w'.life.server = w.life.server
  heartbeat : w'.life.heartbeat = w.life.heartbeat
  phase : w'.life.phase = w.life.phase
  launch : w'.life.launch = w.life.launch

/-- Beating is a matter of the cells alone. -/
theorem Beating.of_cells (hx : w.Beating x s) (h : ∀ d, w'.queue.cell d = w.queue.cell d) :
    w'.Beating x s where
  duty := by
    obtain ⟨p, hp, hd⟩ := hx.duty
    exact ⟨p, by rw [h]; exact hp, hd⟩
  pending := by
    show (w'.queue.cell x).result = none
    rw [h]
    exact hx.pending
  unmarked := by rw [h]; exact hx.unmarked
  asleep d hd := by
    rw [h] at hd ⊢
    exact hx.asleep d hd

theorem Quiet.refl (w : World) (b : Option CellId) : Quiet w w b :=
  ⟨fun _ _ h => h, fun _ _ _ h => h, fun _ _ _ hp => ⟨rfl, hp⟩⟩

theorem Quiet.trans (h₁ : Quiet w w' b) (h₂ : Quiet w' w'' b) : Quiet w w'' b where
  beating h s hx := h₂.beating h s (h₁.beating h s hx)
  beats h s hb hx := h₁.beats h s hb (h₂.beats h s hb hx)
  launches c hb hd hp := by
    obtain ⟨hpt₂, hp₂⟩ := h₂.launches c hb hd hp
    obtain ⟨q, hq, hdq⟩ := hd
    obtain ⟨hpt₁, hp₁⟩ := h₁.launches c hb ⟨q, by rw [← hpt₂]; exact hq, hdq⟩ hp₂
    exact ⟨hpt₂.trans hpt₁, hp₁⟩

/-- What is quiet towards one world with the same cells as another is quiet towards that one. -/
theorem Quiet.of_cells_right (h : Quiet w w' b) (hc : ∀ d, w''.queue.cell d = w'.queue.cell d) :
    Quiet w w'' b where
  beating h' s hx := (h.beating h' s hx).of_cells hc
  beats h' s hb hx := h.beats h' s hb (hx.of_cells fun d => (hc d).symm)
  launches c hb hd hp := by
    obtain ⟨q, hq, hdq⟩ := hd
    rw [hc] at hq ⊢
    exact h.launches c hb ⟨q, hq, hdq⟩ (by show (w'.queue.cell c).result = none; rw [← hc]; exact hp)

theorem Quiet.steady (h : Quiet w w' b) (hl : w'.life = w.life) : Steady w w' b :=
  { h with server := by rw [hl], heartbeat := by rw [hl], phase := by rw [hl], launch := by rw [hl] }

theorem Steady.refl (w : World) (b : Option CellId) : Steady w w b := (Quiet.refl w b).steady rfl

theorem Steady.trans (h₁ : Steady w w' b) (h₂ : Steady w' w'' b) : Steady w w'' b :=
  { h₁.toQuiet.trans h₂.toQuiet with
    server := h₂.server.trans h₁.server
    heartbeat := h₂.heartbeat.trans h₁.heartbeat
    phase := h₂.phase.trans h₁.phase
    launch := h₂.launch.trans h₁.launch }

/-! ## Quiet changes of the run queue -/

/-- A change of the run queue is quiet when it keeps every task's result, point and wait, and every
heartbeat's mark; starts no heartbeat or launch task; keeps every result; and cancels no sleep
of a beating heartbeat. -/
theorem Quiet.of_tasks
    (htask : ∀ d, (w.queue.cell d).point.isSome →
      (w'.queue.cell d).result = (w.queue.cell d).result ∧
        (w'.queue.cell d).point = (w.queue.cell d).point ∧
        (w'.queue.cell d).waitsFor = (w.queue.cell d).waitsFor)
    (hmark : ∀ h s, w.HasDuty h (.heartbeat s) →
      (w'.queue.cell h).cancelPending = (w.queue.cell h).cancelPending)
    (hnew : ∀ d p, (w.queue.cell d).point = none → (w'.queue.cell d).point = some p →
      (∀ s, p.duty ≠ .heartbeat s) ∧ p.duty ≠ .launch)
    (hkept : ∀ d o, (w.queue.cell d).result = some o → (w'.queue.cell d).result = some o)
    (hsleep : ∀ h s d, w.Beating h s → (w.queue.cell h).waitsFor = some d →
      (w'.queue.cell d).result ≠ some .cancelled) :
    Quiet w w' b where
  beating h s hx := by
    obtain ⟨p, hp, hd⟩ := hx.duty
    obtain ⟨hres, hpt, hwt⟩ := htask h (by rw [hp]; rfl)
    refine ⟨⟨p, by rw [hpt, hp], hd⟩, ?_, by rw [hmark h s hx.duty]; exact hx.unmarked,
      fun d hw => hsleep h s d hx (by rw [← hwt]; exact hw)⟩
    show (w'.queue.cell h).result = none
    rw [hres]
    exact hx.pending
  beats h s _ hx := by
    obtain ⟨p, hp, hd⟩ := hx.duty
    -- a task that beats now was a task before: no heartbeat is new
    have hsome : (w.queue.cell h).point.isSome := by
      cases hq : (w.queue.cell h).point with
      | some _ => rfl
      | none => exact absurd hd ((hnew h p hq hp).1 s)
    obtain ⟨hres, hpt, hwt⟩ := htask h hsome
    have hduty : w.HasDuty h (.heartbeat s) := ⟨p, by rw [← hpt, hp], hd⟩
    refine ⟨hduty, ?_, by rw [← hmark h s hduty]; exact hx.unmarked,
      fun d hw hc => hx.asleep d (by rw [hwt]; exact hw) (hkept d _ hc)⟩
    show (w.queue.cell h).result = none
    rw [← hres]
    exact hx.pending
  launches c _ hd hp := by
    obtain ⟨p, hp', hdp⟩ := hd
    have hsome : (w.queue.cell c).point.isSome := by
      cases hq : (w.queue.cell c).point with
      | some _ => rfl
      | none => exact absurd hdp ((hnew c p hq hp').2)
    obtain ⟨hres, hpt, -⟩ := htask c hsome
    refine ⟨hpt, ?_⟩
    show (w.queue.cell c).result = none
    rw [← hres]
    exact hp

/-- A change that keeps every cell's result, point, wait and mark is quiet. -/
theorem Quiet.of_fields (hres : ∀ d, (w'.queue.cell d).result = (w.queue.cell d).result)
    (hpoint : ∀ d, (w'.queue.cell d).point = (w.queue.cell d).point)
    (hwait : ∀ d, (w'.queue.cell d).waitsFor = (w.queue.cell d).waitsFor)
    (hmark : ∀ d, (w'.queue.cell d).cancelPending = (w.queue.cell d).cancelPending) :
    Quiet w w' b :=
  .of_tasks (fun d _ => ⟨hres d, hpoint d, hwait d⟩) (fun h _ _ => hmark h)
    (fun d p h h' => by rw [hpoint, h] at h'; cases h')
    (fun d o hd => by rw [hres]; exact hd)
    (fun h s d hx hw => by rw [hres]; exact hx.asleep d hw)

theorem Quiet.of_cells (h : ∀ d, w'.queue.cell d = w.queue.cell d) : Quiet w w' b :=
  .of_fields (fun d => by rw [h]) (fun d => by rw [h]) (fun d => by rw [h]) (fun d => by rw [h])

theorem quiet_newCell : Quiet w { w with queue := w.queue.newCell.1 } b :=
  .of_cells fun d => w.queue.cell_newCell d

theorem quiet_listen (c : CellId) (l : Listener) : Quiet w { w with queue := w.queue.listen c l } b := by
  have hcell := w.queue.cell_listen c l
  exact .of_fields (fun d => by dsimp only; rw [hcell]; split <;> rfl)
    (fun d => by dsimp only; rw [hcell]; split <;> rfl) (fun d => by dsimp only; rw [hcell]; split <;> rfl)
    (fun d => by dsimp only; rw [hcell]; split <;> rfl)

/-- A new task of a duty other than a heartbeat's or a launch's is quiet. -/
theorem quiet_spawn {p : Point} (hp : (∀ s, p.duty ≠ .heartbeat s) ∧ p.duty ≠ .launch) :
    Quiet w { w with queue := (w.queue.spawn p).1 } b := by
  have hcell := w.queue.cell_spawn p
  have hold : ∀ d, (w.queue.cell d).point.isSome → ({ w with queue := (w.queue.spawn p).1 } :
      World).queue.cell d = w.queue.cell d := by
    intro d hd
    dsimp only
    rw [hcell, if_neg (Nat.ne_of_lt (w.queue.lt_size_of_isSome hd))]
  refine .of_tasks (fun d hd => by rw [hold d hd]; exact ⟨rfl, rfl, rfl⟩)
    (fun h s ⟨p', hp', _⟩ => by rw [hold h (by rw [hp']; rfl)]) (fun d p' hnone h' => ?_)
    (fun d o hd => ?_) (fun h s d hx hw => ?_)
  · dsimp only at h'
    rw [hcell] at h'
    split at h'
    · injection h' with h'
      subst h'
      exact hp
    · rw [hnone] at h'
      cases h'
  · show ((w.queue.spawn p).1.cell d).result = some o
    rw [hcell]
    split
    · -- the new task's index had no cell, so no result
      subst_vars
      rw [w.queue.cell_of_size_le (Nat.le_refl _)] at hd
      cases hd
    · exact hd
  · show ((w.queue.spawn p).1.cell d).result ≠ some .cancelled
    rw [hcell]
    split
    · exact (Option.some_ne_none _).symm
    · exact hx.asleep d hw


/-- Finishing a plain cell is quiet, unless it cancels the sleep of a beating heartbeat. -/
theorem quiet_finish {c : CellId} (hplain : w.Plain c) {o : Outcome}
    (hc : ∀ h s, w.Beating h s → w.Pending c → (w.queue.cell h).waitsFor = some c → o ≠ .cancelled) :
    Quiet w { w with queue := w.queue.finish c o } b := by
  cases hdone : w.queue.isDone c
  case true =>
    rw [RunQueue.finish_of_isDone o hdone]
    exact .refl w b
  case false =>
    have hcell := w.queue.cell_finish hdone o
    have hother : ∀ d, d ≠ c → (w.queue.finish c o).cell d = w.queue.cell d := fun d hd => by
      rw [hcell, if_neg fun h => hd h.1.symm]
    -- the finished cell is no task
    have htask : ∀ d, (w.queue.cell d).point.isSome → d ≠ c := by
      rintro d hd rfl
      rw [show (w.queue.cell d).point = none from hplain] at hd
      cases hd
    have hpend : w.Pending c := pending_iff_isDone.2 hdone
    refine .of_tasks (fun d hd => by dsimp only; rw [hother d (htask d hd)]; exact ⟨rfl, rfl, rfl⟩)
      (fun h s hx => by
        obtain ⟨p, hp, -⟩ := hx
        dsimp only
        rw [hother h (htask h (by rw [hp]; rfl))])
      (fun d p h h' => by dsimp only at h'; rw [RunQueue.point_finish, h] at h'; cases h')
      (fun d o' hd => ?_) (fun h s d hx hw => ?_)
    · show ((w.queue.finish c o).cell d).result = some o'
      by_cases hdc : d = c
      · subst hdc
        rw [hpend] at hd
        cases hd
      · rw [hother d hdc]
        exact hd
    · show ((w.queue.finish c o).cell d).result ≠ some .cancelled
      by_cases hdc : d = c
      · -- the sleep ends with the cell's new result, which is no cancellation
        subst hdc
        by_cases hlt : d < w.queue.cells.size
        · rw [hcell, if_pos ⟨rfl, hlt⟩]
          exact fun ho => hc h s hx hpend hw (Option.some.inj ho)
        · rw [hcell, if_neg fun h => hlt h.2]
          exact hx.asleep d hw
      · rw [hother d hdc]
        exact hx.asleep d hw

/-- Changing a cell's fields other than its result, point and wait is quiet, if its mark stays or
it is no heartbeat. -/
theorem quiet_modifyCell (c : CellId) {f : Cell Point → Cell Point}
    (hf : ∀ cell, (f cell).result = cell.result ∧ (f cell).point = cell.point ∧
      (f cell).waitsFor = cell.waitsFor)
    (hmark : (∀ cell, (f cell).cancelPending = cell.cancelPending) ∨
      ∀ s, ¬ w.HasDuty c (.heartbeat s)) :
    Quiet w { w with queue := w.queue.modifyCell c f } b := by
  have hres := fun d => w.queue.field_modifyCell c d Cell.result fun cell => (hf cell).1
  have hpoint := fun d => w.queue.field_modifyCell c d Cell.point fun cell => (hf cell).2.1
  have hwait := fun d => w.queue.field_modifyCell c d Cell.waitsFor fun cell => (hf cell).2.2
  refine .of_tasks (fun d _ => ⟨hres d, hpoint d, hwait d⟩) (fun h s hh => ?_)
    (fun d p h h' => by dsimp only at h'; rw [hpoint, h] at h'; cases h')
    (fun d o hd => by dsimp only; rw [hres]; exact hd)
    (fun h s d hx hw => by dsimp only; rw [hres]; exact hx.asleep d hw)
  dsimp only
  rw [RunQueue.cell_modifyCell]
  split
  · rename_i hch
    rcases hmark with hm | hm
    · exact hm _
    · exact absurd (hch.1 ▸ hh) (hm s)
  · rfl

/-- Cancelling a task of a cancellable duty other than a heartbeat's is quiet: it marks the task,
or cancels the plain cell the task waits for, on which no beating heartbeat sleeps since no other
task waits for it. -/
theorem quiet_cancelTask {b' : Option CellId} (hT : w.Typed b') {du : Duty} (hx : w.HasDuty x du)
    (hcan : du.Cancellable) (hbeat : ∀ s, du ≠ .heartbeat s) :
    Quiet w { w with queue := w.queue.cancelTask x } b := by
  rcases hT.cancelTask_cases hx hcan with hq | ⟨-, hq⟩ | ⟨d, hd, -, hwx, hq⟩
  · exact .of_cells fun d => by dsimp only; rw [hq]
  · rw [hq]
    exact quiet_modifyCell x (fun _ => ⟨rfl, rfl, rfl⟩) (.inr fun s hs => hbeat s (hx.unique hs))
  · rw [hq]
    refine quiet_finish hd fun h s hh _ hw _ => ?_
    have hhx : h = x := hT.alone h x d hd ⟨hh.pending, hw⟩ hwx
    subst hhx
    exact hbeat s (hx.unique hh.duty)

/-- Cancelling one task after another, each of a cancellable duty other than a heartbeat's, is
quiet. -/
theorem quiet_cancel_all {b' : Option CellId} (l : List CellId) (hT : w.Typed b')
    (hl : ∀ y ∈ l, ∃ du, w.HasDuty y du ∧ du.Cancellable ∧ ∀ s, du ≠ .heartbeat s) :
    Quiet w { w with queue := l.foldl (fun q y => q.cancelTask y) w.queue } b := by
  induction l generalizing w with
  | nil => exact .refl w b
  | cons y l ih =>
    obtain ⟨du, hy, hcan, hbeat⟩ := hl y List.mem_cons_self
    have h₂ := ih (hT.cancelTask hy hcan) fun z hz => by
      obtain ⟨du', hz', hcan', hbeat'⟩ := hl z (List.mem_cons_of_mem y hz)
      exact ⟨du', hasDuty_cancelTask.2 hz', hcan', hbeat'⟩
    exact (quiet_cancelTask hT hy hcan hbeat).trans h₂

/-- A heartbeat task waits only in the role of a sleeper. -/
theorem role_of_heartbeat {p : Point} {r : Role} (hd : p.duty = .heartbeat s) (hr : p.role = some r) :
    r = .sleep := by
  cases p <;> simp only [Point.duty, Point.role, reduceCtorEq, Option.some.injEq] at hd hr
  exact hr.symm

/-- No feeder feeds a sleeper's cell. -/
theorem Listener.feed_ne_sleep {l : Listener} {c : CellId} {r : Role} (hl : l.feed = some (c, r)) :
    r ≠ .sleep := by
  cases l <;> simp only [Listener.feed, reduceCtorEq, Option.some.injEq, Prod.mk.injEq] at hl <;>
    (obtain ⟨-, rfl⟩ := hl; intro h; cases h)

theorem Feeds.ne_sleep {c : CellId} {r : Role} (hf : w.Feeds c r) : r ≠ .sleep := by
  cases hf with
  | listener _ hl => exact Listener.feed_ne_sleep hl
  | replyGate _ => nofun
  | startGate _ => nofun

/-- Finishing a cell fed in a role is quiet: no beating heartbeat sleeps on it. -/
theorem quiet_finish_fed {b' : Option CellId} (hT : w.Typed b') {c : CellId} {r : Role}
    (hf : w.Feeds c r) (o : Outcome) : Quiet w { w with queue := w.queue.finish c o } b := by
  obtain ⟨hplain, hwaiter⟩ := hT.fed c r hf
  refine quiet_finish hplain fun h s hx hpend hw _ => ?_
  obtain ⟨p, hp, hr⟩ := hwaiter h hpend ⟨hx.pending, hw⟩
  exact hf.ne_sleep (role_of_heartbeat (hx.duty.eq_of_point hp) hr)

/-- Finishing one fed cell after another is quiet. -/
theorem quiet_finish_all {b' : Option CellId} {r : Role} {o : Outcome}
    (ho : ∀ w : World, w.RoleResult r o) (cs : List CellId) (hT : w.Typed b')
    (hcs : ∀ c ∈ cs, w.Feeds c r) : Quiet w (cs.foldl (fun w c => w.exec (Act.finish c o)) w) b := by
  induction cs generalizing w with
  | nil => exact .refl w b
  | cons c cs ih =>
    refine (quiet_finish_fed hT (hcs c List.mem_cons_self) o).trans
      (ih (hT.finish_fed (hcs c List.mem_cons_self) (ho w)) fun c' hc' => ?_)
    exact feeds_finish.2 (hcs c' (List.mem_cons_of_mem c hc'))

/-! ## Steady actions -/

/-- A change that keeps the run queue and the lifecycle is steady. -/
theorem steady_of_queue (hq : w'.queue = w.queue) (hl : w'.life = w.life) : Steady w w' b :=
  (Quiet.of_cells fun d => by rw [hq]).steady hl

theorem steady_counters (c : Counters) : Steady w { w with life := { w.life with counters := c } } b :=
  { toQuiet := Quiet.of_cells fun _ => rfl, server := rfl, heartbeat := rfl, phase := rfl, launch := rfl }

theorem steady_receive (s : Nat) (r : Request) : Steady w (w.exec (Act.receive s r)) b := by
  rw [Act.exec_receive]
  split
  · exact steady_of_queue rfl rfl
  · exact .refl w b

theorem steady_newCell : Steady w { w with queue := w.queue.newCell.1 } b := quiet_newCell.steady rfl

/-- A new cell, listened to: how a caller waits for a launch, and a stop for its end. -/
theorem steady_newCell_listen (c : CellId) (l : Listener) :
    Steady w { w with queue := w.queue.newCell.1.listen c l } b :=
  Quiet.steady (Quiet.of_cells_right (quiet_newCell.trans (quiet_listen c l)) fun _ => rfl) rfl

theorem steady_shield (l : CellId) : Steady w (StateT.run (Act.shield l) w).2 b := by
  rw [Act.run_shield]
  exact steady_newCell_listen _ _

theorem steady_listen_all (cs : List CellId) (l : Listener) :
    Steady w (cs.foldl (fun w x => w.exec (Act.listen x l)) w) b := by
  induction cs generalizing w with
  | nil => exact .refl w b
  | cons x cs ih => exact ((quiet_listen x l).steady rfl).trans ih

theorem steady_spawnBackground {p : Point} (hp : p.duty = .warmUp ∨ p.duty = .cancelNotice) :
    Steady w (w.exec (Act.spawnBackground p)) b := by
  have hd : (∀ s, p.duty ≠ .heartbeat s) ∧ p.duty ≠ .launch := by
    rcases hp with hp | hp <;> rw [hp] <;> exact ⟨fun _ => nofun, nofun⟩
  rw [World.exec, Act.run_spawnBackground]
  exact Quiet.steady (Quiet.of_cells_right ((quiet_spawn hd).trans (quiet_listen _ _)) fun _ => rfl) rfl

/-- What superseding leaves of the run queue: each job in flight has its task cancelled. -/
theorem queue_supersedeAll : (w.exec Act.supersedeAll).queue =
    (w.ongoing.map fun j => (w.jobs.getD j default).task).foldl (fun q y => q.cancelTask y) w.queue := by
  simp only [World.exec, Act.run_supersedeAll, List.foldl_map]
  -- the fold over worlds carries the fold over queues
  have hfold : ∀ (l : List Nat) (w' : World), (l.foldl (fun w' j =>
      { w' with jobs := w'.jobs.modify j fun job => { job with superseded := true },
                queue := w'.queue.cancelTask (w.jobs.getD j default).task }) w').queue =
      l.foldl (fun q j => q.cancelTask (w.jobs.getD j default).task) w'.queue := by
    intro l
    induction l with
    | nil => intro _; rfl
    | cons j l ih => intro w'; exact ih _
  exact hfold _ _

/-- Superseding the jobs in flight is steady: it cancels job tasks only. -/
theorem steady_supersedeAll {b' : Option CellId} (hT : w.Typed b') :
    Steady w (w.exec Act.supersedeAll) b := by
  have hq := quiet_cancel_all (b := b) (w.ongoing.map fun j => (w.jobs.getD j default).task) hT
    fun y hy => by
      obtain ⟨j, hj, rfl⟩ := List.mem_map.1 hy
      exact ⟨.job j, hT.job_ref j (hT.ongoing_ref j hj), trivial, fun _ => nofun⟩
  exact Quiet.steady (Quiet.of_cells_right hq fun d => by rw [queue_supersedeAll]) (Act.life_supersedeAll w)

theorem steady_completeStart {b' : Option CellId} (hT : w.Typed b') :
    Steady w (Act.completeStart w) b := by
  have h₁ := steady_supersedeAll (b := b) hT
  unfold Act.completeStart
  exact h₁.trans ((steady_spawnBackground (.inr rfl)).trans (steady_counters _))

/-- A completion call is steady: it supersedes, queues a cancel notice and starts a job. -/
theorem steady_completeBegin {b' : Option CellId} (hT : w.Typed b') (call : CompletionCall) :
    Steady w (StateT.run (Act.completeBegin call) w).2 b := by
  rw [Act.run_completeBegin]
  dsimp only
  have h₃ := steady_completeStart (b := b) hT
  generalize Act.completeStart w = w₃ at h₃ ⊢
  split
  · exact h₃
  · exact h₃.trans (Quiet.steady (Quiet.of_cells_right (quiet_spawn ⟨fun _ => by simp [Point.duty], by simp [Point.duty]⟩) fun _ => rfl) rfl)

theorem steady_completeEnd (j : Nat) (o : Outcome) : Steady w (StateT.run (Act.completeEnd j o) w).2 b := by
  rw [Act.run_completeEnd]
  exact steady_of_queue rfl rfl

theorem steady_claimReplyGate : Steady w (StateT.run Act.claimReplyGate w).2 b := by
  cases hu : w.replyGates.untaken with
  | nil =>
    rw [Act.run_claimReplyGate_of_nil w hu]
    exact .refl w b
  | cons g rest =>
    cases ho : (w.replyGates.gates.getD g {}).isOpen
    case true =>
      rw [Act.run_claimReplyGate_of_open w hu ho]
      exact steady_of_queue rfl rfl
    case false =>
      rw [Act.run_claimReplyGate_of_closed w hu ho]
      exact Quiet.steady (Quiet.of_cells_right quiet_newCell fun _ => rfl) rfl

theorem steady_claimStartGate : Steady w (StateT.run Act.claimStartGate w).2 b := by
  cases hu : w.startGates.untaken with
  | nil =>
    rw [Act.run_claimStartGate_of_nil w hu]
    exact .refl w b
  | cons g rest =>
    cases ho : (w.startGates.gates.getD g {}).isOpen
    case true =>
      rw [Act.run_claimStartGate_of_open w hu ho]
      exact steady_of_queue rfl rfl
    case false =>
      rw [Act.run_claimStartGate_of_closed w hu ho]
      exact Quiet.steady (Quiet.of_cells_right quiet_newCell fun _ => rfl) rfl

/-- A job with a server at hand is steady: it sends its request and waits for its gate. -/
theorem steady_jobWith (j s : Nat) : Steady w (StateT.run (Act.jobWith j s) w).2 b := by
  rw [Act.jobWith, Act.run_bind', Act.run_isSuperseded]
  dsimp only
  split
  · exact .refl w b
  · rw [Act.run_bind', Act.run_get']
    dsimp only
    rw [Act.run_bind']
    have h₁ := steady_receive (w := w) (b := b) s (.completions (w.jobs.getD j default).request)
    split
    · exact h₁
    · rw [Act.run_bind']
      have h₂ := h₁.trans steady_claimReplyGate
      split
      · exact h₂
      · rw [Act.run_jobReply]
        exact h₂

theorem steady_cancelNotice (rid : Nat) : Steady w (w.exec (Act.cancelNotice rid)) b := by
  by_cases hr : ∃ s, w.life.server = some s ∧ w.life.phase = .running
  · obtain ⟨s, hs, hp⟩ := hr
    rw [World.exec, Act.run_cancelNotice_of_running w rid hs hp]
    exact (steady_counters _).trans (steady_receive _ _)
  · rw [World.exec, Act.run_cancelNotice_of_not_running w rid fun s hs hp => hr ⟨s, hs, hp⟩]
    exact .refl w b

theorem steady_acceptWith (id : Value) (s : Nat) : Steady w (StateT.run (Act.acceptWith id s) w).2 b := by
  rw [Act.run_acceptWith]
  split
  · exact .refl w b
  · exact steady_receive _ _

theorem steady_applyNotice (n : Notice) : Steady w (StateT.run (Act.applyNotice n) w).2 b := by
  cases n with
  | opened file content | changed file content =>
    dsimp only [Act.applyNotice, Act.run_bind', Act.run_get']
    split
    · exact .refl w b
    · exact steady_of_queue rfl rfl
  | closed file =>
    dsimp only [Act.applyNotice, Act.run_bind', Act.run_get']
    split
    · exact .refl w b
    · exact steady_of_queue rfl rfl
  | dropRequest => exact steady_cancelNotice _

/-- A heartbeat's step is steady: it sends its request and falls asleep on a new cell. -/
theorem steady_heartbeatBegin (s : Nat) (md : Metadata) :
    Steady w (StateT.run (Act.heartbeatBegin s md) w).2 b := by
  rw [Act.run_heartbeatBegin]
  exact (steady_receive _ _).trans steady_newCell

/-- The end of a stop is steady: a closing one cancels the background tasks, warm-ups and cancel
notices, and waits for them. -/
theorem steady_stopDrain {b' : Option CellId} (hT : w.Typed b') (closing : Bool) :
    Steady w (StateT.run (Act.stopDrain closing) w).2 b := by
  cases closing with
  | false =>
    rw [Act.run_stopDrain_false]
    exact .refl w b
  | true =>
    have hq := quiet_cancel_all (b := b) w.background hT fun y hy => by
      rcases hT.background_ref y hy with hy' | hy'
      · exact ⟨_, hy', trivial, fun _ => nofun⟩
      · exact ⟨_, hy', trivial, fun _ => nofun⟩
    have h₁ : Steady w (w.background.foldl (fun w x => w.exec (Act.cancel x)) w) b := by
      rw [foldl_cancel]
      exact hq.steady rfl
    rw [Act.run_stopDrain_true]
    dsimp only
    generalize w.background.foldl (fun w x => w.exec (Act.cancel x)) w = w₁ at h₁ ⊢
    split
    · exact h₁
    · -- a new drain cell counts the tasks, each of which tallies towards it
      have hm : Quiet { w₁ with queue := w₁.queue.newCell.1 } { w₁ with
          queue := w₁.queue.newCell.1.modifyCell w₁.queue.cells.size fun cell =>
            { cell with remaining := w.background.length } } b :=
        quiet_modifyCell _ (fun _ => ⟨rfl, rfl, rfl⟩) (.inl fun _ => rfl)
      have h₂ := Quiet.steady (quiet_newCell.trans hm) rfl
      exact h₁.trans (h₂.trans (steady_listen_all _ _))

theorem steady_stopStart {b' : Option CellId} (hT : w.Typed b') (closing : Bool) :
    Steady w (Act.stopStart w closing) b := by
  cases closing
  · exact .refl w b
  · exact steady_supersedeAll hT

end World

end CompletionClient.Service
