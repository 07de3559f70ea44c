import CompletionClient.Proofs.Service.References
/-!
# The actions of a busy task

A task's step runs from one program point to its next wait or its end.  While
it runs, the task is *busy* (`World.Running`): its own cell stays pending at
its point and waits for nothing, and no start of it is queued.  Every action a
step takes keeps that, under the side conditions the step meets where it
takes the action.  The step ends by recording how it left off
(`Act.advance`), which keeps the invariant with no task busy when the
progress *settles* (`World.Settles`): an end fits the task's duty, and a wait
is for a cell of the next point's role that only feeders of that role feed,
no one else waits for, and holds, if anything, a result of that role.
-/

namespace CompletionClient.Service

namespace World

variable {w w' w₀ : World} {b : Option CellId} {t : CellId} {p : Point}

/-! ## Cancellation, by cases -/

/-- Cancelling a task of a cancellable duty does nothing to a finished task, marks one that waits
for nothing or whose cell has its result, and otherwise cancels the plain cell it waits for. -/
theorem Typed.cancelTask_cases (h : w.Typed b) {x : CellId} {du : Duty} (hd : w.HasDuty x du)
    (hcan : du.Cancellable) :
    w.queue.cancelTask x = w.queue ∨
      (w.Pending x ∧
        w.queue.cancelTask x = w.queue.modifyCell x fun cell => { cell with cancelPending := true }) ∨
      ∃ d, w.Plain d ∧ w.Pending d ∧ w.Waits x d ∧ w.queue.cancelTask x = w.queue.finish d .cancelled := by
  obtain ⟨p, hp, rfl⟩ := hd
  cases hdone : w.queue.isDone x
  case true => exact .inl (w.queue.cancelTask_of_isDone hdone)
  case false =>
    have htask : (w.queue.cell x).point.isSome := by simp [hp]
    have hpx : w.Pending x := pending_iff_isDone.2 hdone
    cases hwx : (w.queue.cell x).waitsFor with
    | none => exact .inr (.inl ⟨hpx, w.queue.cancelTask_of_idle hdone htask hwx⟩)
    | some d =>
      have hw : w.Waits x d := ⟨hpx, hwx⟩
      -- a task of a cancellable duty waits only in a role whose cell is plain
      obtain ⟨r, hr, htg⟩ := h.target x d hw
      replace hr := hr.eq_of_point hp
      have hplain : w.Plain d := by
        rcases role_of_cancellable hcan hr with rfl | rfl | rfl <;> exact htg
      cases hdd : w.queue.isDone d
      case true => exact .inr (.inl ⟨hpx, w.queue.cancelTask_of_woken hdone htask hwx hdd⟩)
      case false =>
        have hpd : w.Pending d := pending_iff_isDone.2 hdd
        exact .inr (.inr ⟨d, hplain, hpd, hw, w.queue.cancelTask_of_waiting hdone htask hwx hdd hplain⟩)

/-! ## The busy task's cell -/

/-- A change that keeps the busy task's cell, queues no start of it, keeps what a step keeps and
the frame of the cells, and starts only tasks that the busy task may start keeps it busy. -/
theorem Busy.of_cell (h : w.Busy w₀ t p) (hres : (w'.queue.cell t).result = (w.queue.cell t).result)
    (hpoint : (w'.queue.cell t).point = (w.queue.cell t).point)
    (hwait : (w'.queue.cell t).waitsFor = (w.queue.cell t).waitsFor)
    (hready : Wake.start t ∈ w'.queue.ready → Wake.start t ∈ w.queue.ready)
    (hkeeps : RunQueue.Keeps t w.queue w'.queue)
    (hnew : ∀ d p', (w'.queue.cell d).point = some p' →
      (w.queue.cell d).point = some p' ∨ p.duty.Spawns p'.duty)
    (hlog : w'.received = w.received) (hframe : Frame w₀.queue.cells.size (p = .launch) w w') :
    w'.Busy w₀ t p where
  pending := by rw [Pending, hres]; exact h.pending
  point := by rw [hpoint]; exact h.point
  idle := by rw [hwait]; exact h.idle
  unqueued := fun hs => h.unqueued (hready hs)
  keeps := h.keeps.trans hkeeps
  spawned d p' hd hp := (hnew d p' hp).elim (h.spawned d p' hd) id
  log := by rw [hlog]; exact h.log
  frame := h.frame.trans hframe

/-- A change of cells that moves no task. -/
theorem Busy.of_points (h : w.Busy w₀ t p) (hres : (w'.queue.cell t).result = (w.queue.cell t).result)
    (hpoints : ∀ d, (w'.queue.cell d).point = (w.queue.cell d).point)
    (hwait : (w'.queue.cell t).waitsFor = (w.queue.cell t).waitsFor)
    (hready : Wake.start t ∈ w'.queue.ready → Wake.start t ∈ w.queue.ready)
    (hkeeps : RunQueue.Keeps t w.queue w'.queue) (hlog : w'.received = w.received)
    (hframe : Frame w₀.queue.cells.size (p = .launch) w w') : w'.Busy w₀ t p :=
  h.of_cell hres (hpoints t) hwait hready hkeeps (fun d _ hp => .inl ((hpoints d).symm.trans hp)) hlog
    hframe

theorem Busy.of_queue (h : w.Busy w₀ t p) (hq : w'.queue = w.queue) (hlog : w'.received = w.received)
    (hframe : Frame w₀.queue.cells.size (p = .launch) w w') : w'.Busy w₀ t p :=
  h.of_points (by rw [hq]) (by rw [hq]; exact fun _ => rfl) (by rw [hq]) (by rw [hq]; exact id)
    (hq ▸ .refl t _) hlog hframe

theorem Busy.newCell (h : w.Busy w₀ t p) : ({ w with queue := w.queue.newCell.1 } : World).Busy w₀ t p :=
  h.of_points (by simp) (by simp) (by simp) (by simp) (RunQueue.keeps_newCell _) rfl frame_newCell

/-- A new task of a duty the busy task may start keeps it busy. -/
theorem Busy.spawn (h : w.Busy w₀ t p) (p' : Point) (hsp : p.duty.Spawns p'.duty) :
    ({ w with queue := (w.queue.spawn p').1 } : World).Busy w₀ t p := by
  have ht : t ≠ w.queue.cells.size := Nat.ne_of_lt (lt_size_of_point h.point)
  refine h.of_cell (by simp [RunQueue.cell_spawn, ht]) (by simp [RunQueue.cell_spawn, ht])
    (by simp [RunQueue.cell_spawn, ht]) (fun hs => ?_) (RunQueue.keeps_spawn _ p') (fun d p'' hp => ?_) rfl
    (frame_spawn p')
  · rw [RunQueue.ready_spawn, List.mem_append, List.mem_singleton] at hs
    rcases hs with hs | hs
    · exact hs
    · injection hs with hs; exact absurd hs ht
  · simp only [RunQueue.cell_spawn] at hp
    split at hp
    · injection hp with hp
      subst hp
      exact .inr hsp
    · exact .inl hp

/-- A new listener keeps the busy task busy if what it feeds is a cell of the step's own, fed in
no other role, and what it relays is a pending cell that nothing relays yet. -/
theorem Busy.listen (h : w.Busy w₀ t p) {c : CellId} {l : Listener} (hc : c < w.queue.cells.size)
    (hfeed : ∀ x r, l.feed = some (x, r) →
      w₀.queue.cells.size ≤ x ∧ ∀ r', w.Feeds x r' → r' = r)
    (hrelay : ∀ x, l = .relay x → (∀ src, ¬ w.queue.Registered (.relay x) src) ∧ w.Pending x) :
    ({ w with queue := w.queue.listen c l } : World).Busy w₀ t p := by
  have hcell := w.queue.cell_listen c l
  refine h.of_points (by rw [hcell]; split <;> rfl) (fun d => by rw [hcell]; split <;> rfl)
    (by rw [hcell]; split <;> rfl) (fun hs => ?_) (RunQueue.keeps_listen _ c l) rfl
    (.listen hc hfeed hrelay)
  rw [RunQueue.ready_listen] at hs
  split at hs
  · rcases List.mem_append.1 hs with hs | hs
    · exact hs
    · simp at hs
  · exact hs

/-- Cancelling a plain cell keeps the busy task busy. -/
theorem Busy.finish (h : w.Busy w₀ t p) {c : CellId} (hplain : w.Plain c) :
    ({ w with queue := w.queue.finish c .cancelled } : World).Busy w₀ t p := by
  have hct : c ≠ t := by rintro rfl; simp [Plain, h.point] at hplain
  cases hdone : w.queue.isDone c
  case true => rw [RunQueue.finish_of_isDone .cancelled hdone]; exact h
  case false =>
    have hcell := w.queue.cell_finish hdone .cancelled t
    rw [if_neg (fun hc => hct hc.1)] at hcell
    refine h.of_points (by rw [hcell]) (RunQueue.point_finish _ c .cancelled) (by rw [hcell])
      (fun hs => ?_) (RunQueue.keeps_finish _ (.inr hplain) .cancelled) rfl
      (.onlyCancels (RunQueue.onlyCancels_finish c))
    rw [RunQueue.ready_finish _ hdone] at hs
    rcases List.mem_append.1 hs with hs | hs
    · exact hs
    · simp at hs

/-- Changing another cell in a way that keeps what a step keeps, moves no task and keeps the
cell's result and listeners keeps the busy task busy. -/
theorem Busy.modifyCell (h : w.Busy w₀ t p) {c : CellId} (hct : c ≠ t) {f : Cell Point → Cell Point}
    (hf : ∀ cell, (f cell).point = cell.point)
    (hfr : ∀ cell, (f cell).result = cell.result ∧ (f cell).listeners = cell.listeners)
    (hkeeps : RunQueue.Keeps t w.queue (w.queue.modifyCell c f)) :
    ({ w with queue := w.queue.modifyCell c f } : World).Busy w₀ t p := by
  have hcell := w.queue.cell_modifyCell_of_ne hct f
  refine h.of_points (by rw [hcell]) (fun d => ?_) (by rw [hcell]) id hkeeps rfl
    (.onlyCancels (RunQueue.onlyCancels_modifyCell c hfr))
  show ((w.queue.modifyCell c f).cell d).point = _
  rw [RunQueue.cell_modifyCell]
  split <;> simp [hf]

/-- A request received keeps the busy task busy if a task of its duty sends it. -/
theorem Busy.receive (h : w.Busy w₀ t p) (s : Nat) (r : Request) (hr : p.duty.Sends s r) :
    ({ w with received := w.received ++ [(s, r)] } : World).Busy w₀ t p := by
  obtain ⟨new, hnew, hsent⟩ := h.log
  refine { h with
    log := ⟨new ++ [(s, r)], by simp [hnew], fun s' r' hx => ?_⟩
    frame := h.frame.trans (.of_state rfl rfl rfl rfl (.inl rfl)) }
  rcases List.mem_append.1 hx with hx | hx
  · exact hsent s' r' hx
  · simp only [List.mem_singleton, Prod.mk.injEq] at hx
    obtain ⟨rfl, rfl⟩ := hx
    exact hr

/-! ## The invariant with a busy task -/

theorem Running.of (h : w.Typed (some t)) (hb : w.Busy w₀ t p) : w.Running w₀ t p := { h, hb with }

theorem Running.of_queue (h : w.Running w₀ t p) (hq : w'.queue = w.queue)
    (hlog : w'.received = w.received) (hrefs : SameRefs w' w)
    (hserver : w'.life.server = w.life.server ∨ w'.life.server = none ∨
      (p = .launch ∧ ∃ s, w'.life.server = some s ∧ w.servers.size ≤ s)) :
    w'.Running w₀ t p :=
  .of (h.toTyped.of_queue hq hrefs) (h.toBusy.of_queue hq hlog
    (.of_queue hq (fun c hc => (hrefs.replyGates c).1 hc) (fun c hc => (hrefs.startGates c).1 hc)
      hrefs.servers_size hrefs.started hserver))

theorem Running.newCell (h : w.Running w₀ t p) : ({ w with queue := w.queue.newCell.1 } : World).Running w₀ t p :=
  .of (h.toTyped.of_views (fun d => by simp) rfl (by simp) (SameRefs.of_queue w _)) h.toBusy.newCell

theorem Running.spawn (h : w.Running w₀ t p) {p' : Point} (hp : p'.role = none)
    (hj : ∀ j, p'.duty ≠ .job j) (hsp : p.duty.Spawns p'.duty) :
    ({ w with queue := (w.queue.spawn p').1 } : World).Running w₀ t p :=
  .of (h.toTyped.spawn hp hj) (h.toBusy.spawn _ hsp)

theorem Running.listen (h : w.Running w₀ t p) {c : CellId} {l : Listener} (hc : c < w.queue.cells.size)
    (hl : l.cell < w.queue.cells.size)
    (hfeed : ∀ x r, l.feed = some (x, r) →
      w.Plain x ∧ ∀ t, w.Pending x → w.Waits t x → w.HasRole t r)
    (hrelay : ∀ x, l = .relay x → w.HasDuty c .launch)
    (hnew : ∀ x r, l.feed = some (x, r) →
      w₀.queue.cells.size ≤ x ∧ ∀ r', w.Feeds x r' → r' = r)
    (hfree : ∀ x, l = .relay x → (∀ src, ¬ w.queue.Registered (.relay x) src) ∧ w.Pending x) :
    ({ w with queue := w.queue.listen c l } : World).Running w₀ t p :=
  .of (h.toTyped.listen hc hl hfeed hrelay) (h.toBusy.listen hc hnew hfree)

/-- Cancelling another task of a cancellable duty keeps the busy task busy. -/
theorem Busy.cancelTask (hT : w.Typed b) (h : w.Busy w₀ t p) {x : CellId} {du : Duty}
    (hd : w.HasDuty x du) (hcan : du.Cancellable) (hxt : x ≠ t) :
    ({ w with queue := w.queue.cancelTask x } : World).Busy w₀ t p := by
  rcases hT.cancelTask_cases hd hcan with hq | ⟨-, hq⟩ | ⟨d, hd, -, -, hq⟩
  · exact h.of_queue hq rfl (frame_cancelTask x)
  · rw [hq]
    exact h.modifyCell hxt (fun _ => rfl) (fun _ => ⟨rfl, rfl⟩)
      (RunQueue.keeps_modifyCell _ x (fun _ => rfl) (fun _ => rfl) (fun _ => rfl) fun _ _ => rfl)
  · rw [hq]
    exact h.finish hd

theorem Running.cancelTask (h : w.Running w₀ t p) {x : CellId} {du : Duty} (hd : w.HasDuty x du)
    (hcan : du.Cancellable) (hxt : x ≠ t) :
    ({ w with queue := w.queue.cancelTask x } : World).Running w₀ t p :=
  .of (h.toTyped.cancelTask hd hcan) (h.toBusy.cancelTask h.toTyped hd hcan hxt)

theorem Running.setRemaining (h : w.Running w₀ t p) {g : CellId} (hg : g ≠ t) (n : Nat) :
    ({ w with queue := w.queue.modifyCell g fun cell => { cell with remaining := n } } : World).Running w₀ t p :=
  .of (h.toTyped.setRemaining g fun _ => n)
    (h.toBusy.modifyCell hg (fun _ => rfl) (fun _ => ⟨rfl, rfl⟩)
      (RunQueue.keeps_modifyCell _ g (fun _ => rfl) (fun _ => rfl) (fun _ => rfl) fun _ h => h))

/-! ## The end of a step -/

/-- How a step of a task of duty `du` may leave off: an end that fits the duty, or a wait, at a
point of the same duty that names only servers that exist, for a cell of the point's role that
only feeders of that role feed, that no one else waits for, and whose result, if it has one, fits
the role. -/
def Settles (w : World) (t : CellId) (du : Duty) : Progress → Prop
  | .done o => du = .launch → w.LaunchOutcome o ∧ w.life.launch ≠ some t
  | .wait c next => next.duty = du ∧
      (∀ previous s, next = .launchAwaitingStart previous s → s < w.servers.size) ∧
      ∃ r, next.role = some r ∧ w.Target r c ∧
      c < w.queue.cells.size ∧ c ≠ t ∧ (w.Plain c → ∀ t', ¬ w.Waits t' c) ∧
      (∀ r', w.Feeds c r' → r' = r) ∧ (∀ o, (w.queue.cell c).result = some o → w.RoleResult r o)

theorem exec_advance_done (o : Outcome) :
    w.exec (Act.advance t (.done o)) = { w with queue := w.queue.finish t o } := rfl

theorem exec_advance_wait (c : CellId) (next : Point) :
    w.exec (Act.advance t (.wait c next)) = w.waitOn t c next := rfl

/-- Recording a progress that settles ends the step with no task busy. -/
theorem Running.advance (h : w.Running w₀ t p) {pr : Progress} (hs : w.Settles t p.duty pr) :
    (w.exec (Act.advance t pr)).Typed none := by
  cases pr with
  | done o =>
    rw [exec_advance_done]
    exact h.toTyped.advance_done h.pending h.point hs
  | wait c next =>
    obtain ⟨hduty, hsrv, r, hr, htg, hc, hct, halone, hfed, hres⟩ := hs
    rw [exec_advance_wait]
    exact h.toTyped.advance_wait h.pending h.point h.idle hr hduty htg hc hct h.unqueued halone hfed
      hres hsrv

/-! ## Cells of a busy task's own -/

/-- A pending plain cell, new to the busy task `t`: no one waits for it and only feeders of the
role `r` feed it. -/
structure OwnCell (w : World) (t c : CellId) (r : Role) : Prop where
  bounded : c < w.queue.cells.size
  ne : c ≠ t
  plain : w.Plain c
  unwaited : ∀ t', ¬ w.Waits t' c
  fed : ∀ r', w.Feeds c r' → r' = r
  pending : w.Pending c

/-- A wait for a cell of the task's own, in a plain role of a point of the same duty, settles. -/
theorem Settles.of_own {c : CellId} {r : Role} {next : Point} {du : Duty} (hown : w.OwnCell t c r)
    (hr : next.role = some r) (hplain : r.Plain) (hd : next.duty = du)
    (hsrv : ∀ previous s, next = .launchAwaitingStart previous s → s < w.servers.size) :
    w.Settles t du (.wait c next) := by
  refine ⟨hd, hsrv, r, hr, ?_, hown.bounded, hown.ne, fun _ => hown.unwaited, hown.fed, ?_⟩
  · cases r <;> first | exact hplain.elim | exact hown.plain
  · intro o ho
    rw [hown.pending] at ho
    cases ho

/-- A new cell is a cell of the busy task's own, for any role. -/
theorem Running.newCell_own (h : w.Running w₀ t p) (r : Role) :
    ({ w with queue := w.queue.newCell.1 } : World).OwnCell t w.queue.cells.size r := by
  have hempty : ({ w with queue := w.queue.newCell.1 } : World).queue.cell w.queue.cells.size = {} := by
    simp [w.queue.cell_of_size_le (Nat.le_refl _)]
  refine ⟨by simp, fun he => ?_, by simp [Plain, hempty], fun t' hw => ?_, fun r' hf => ?_,
    by simp [Pending, hempty]⟩
  · exact absurd (he ▸ lt_size_of_point h.point) (Nat.lt_irrefl _)
  · -- whatever names the new cell lies past the end of the old queue
    have := h.queue_bounded _ (.inr (.inr ⟨t', by simpa using hw.2⟩))
    exact absurd this (Nat.lt_irrefl _)
  · have hf₀ : w.Feeds w.queue.cells.size r' :=
      Feeds.of_views hf (fun l src hr => by simpa [RunQueue.Registered] using hr) (fun _ h => h)
        (fun _ h => h)
    exact absurd (h.lt_size_of_feeds hf₀) (Nat.lt_irrefl _)

/-- A listener on another cell that feeds a cell of the task's own in its role keeps it so. -/
theorem OwnCell.listen {c src : CellId} {r : Role} {l : Listener} (hown : w.OwnCell t c r)
    (hsrc : src < w.queue.cells.size) (hl : ∀ x r', l.feed = some (x, r') → x = c → r' = r) :
    ({ w with queue := w.queue.listen src l } : World).OwnCell t c r := by
  have hcell := w.queue.cell_listen src l
  have hres : ∀ d, (({ w with queue := w.queue.listen src l } : World).queue.cell d).result =
      (w.queue.cell d).result := fun d => by rw [hcell]; split <;> rfl
  have hpoint : ∀ d, (({ w with queue := w.queue.listen src l } : World).queue.cell d).point =
      (w.queue.cell d).point := fun d => by rw [hcell]; split <;> rfl
  have hwait : ∀ d, (({ w with queue := w.queue.listen src l } : World).queue.cell d).waitsFor =
      (w.queue.cell d).waitsFor := fun d => by rw [hcell]; split <;> rfl
  refine ⟨?_, hown.ne, ?_, fun t' hw => ?_, fun r' hf => ?_, ?_⟩
  · rw [RunQueue.size_listen]; exact hown.bounded
  · simp only [Plain, hpoint]; exact hown.plain
  · exact hown.unwaited t' ⟨by rw [← hres]; exact hw.1, by rw [← hwait]; exact hw.2⟩
  · rcases hf with ⟨hr, hfd⟩ | ⟨hg⟩ | ⟨hg⟩
    · rename_i l' src'
      rcases (RunQueue.registered_listen _ hsrc l l' src').1 hr with hr | ⟨rfl, -⟩
      · exact hown.fed r' (.listener hr hfd)
      · exact hl _ _ hfd rfl
    · exact hown.fed _ (.replyGate hg)
    · exact hown.fed _ (.startGate hg)
  · simp only [Pending, hres]; exact hown.pending

/-! ## The service's actions -/

theorem Running.exec_receive (h : w.Running w₀ t p) (s : Nat) (r : Request) (hr : p.duty.Sends s r) :
    (w.exec (Act.receive s r)).Running w₀ t p := by
  rw [Act.exec_receive]
  split
  · exact .of (h.toTyped.of_queue rfl (.of_fields rfl rfl rfl rfl rfl rfl rfl rfl))
      (h.toBusy.receive s r hr)
  · exact h

/-- A task with a duty other than `du` is not the busy task of duty `du`'s. -/
theorem Running.ne_of_duty (h : w.Running w₀ t p) {x : CellId} {du : Duty} (hx : w.HasDuty x du)
    (hne : p.duty ≠ du) : x ≠ t := by
  rintro rfl
  exact hne (hx.eq_of_point h.point)

/-- Waiting for a launch is waiting for a new cell of the caller's own that the launch feeds. -/
theorem Running.shield (h : w.Running w₀ t p) {l : CellId} (hl : w.HasDuty l .launch) :
    (StateT.run (Act.shield l) w).1 = .waitOn w.queue.cells.size ∧
      (StateT.run (Act.shield l) w).2.Running w₀ t p ∧
      (StateT.run (Act.shield l) w).2.OwnCell t w.queue.cells.size .shield := by
  rw [Act.run_shield]
  have h₁ := h.newCell
  have hown := h.newCell_own .shield
  have hsrc : l < w.queue.newCell.1.cells.size := by
    rw [RunQueue.size_newCell]; exact Nat.lt_succ_of_lt (lt_size_of_hasDuty hl)
  refine ⟨rfl, h₁.listen hsrc (by simp [Listener.cell]) ?_ ?_ ?_ ?_, hown.listen hsrc ?_⟩
  · intro x r hf
    simp only [Listener.feed, Option.some.injEq, Prod.mk.injEq] at hf
    obtain ⟨rfl, rfl⟩ := hf
    exact ⟨hown.plain, fun t' _ hw => absurd hw (hown.unwaited t')⟩
  · intro x _
    obtain ⟨p', hp', hd⟩ := hl
    exact ⟨p', by simpa using hp', hd⟩
  · -- the new cell lies past the cells the step began with, and nothing fed it before
    intro x r hf
    simp only [Listener.feed, Option.some.injEq, Prod.mk.injEq] at hf
    obtain ⟨rfl, rfl⟩ := hf
    exact ⟨h.keeps.size, hown.fed⟩
  · intro x hx
    injection hx with hx
    subst hx
    refine ⟨fun src hr => ?_, hown.pending⟩
    have := (h.lt_size_of_registered ((RunQueue.registered_newCell _ _ _).1 hr)).1
    exact Nat.lt_irrefl _ this
  · intro x r hf _
    simp only [Listener.feed, Option.some.injEq, Prod.mk.injEq] at hf
    exact hf.2.symm

/-- What a caller that asks for a server gets: the current server, with nothing changed, or a
new cell of its own that the launch under way, new or not, feeds. -/
theorem Running.ensureStarted (h : w.Running w₀ t p) (hask : p.duty.AsksServer) :
    (StateT.run Act.ensureStarted w).2.Running w₀ t p ∧
      ((∃ s, (StateT.run Act.ensureStarted w).1 = .ready s ∧ (StateT.run Act.ensureStarted w).2 = w) ∨
        ∃ c, (StateT.run Act.ensureStarted w).1 = .waitOn c ∧
          (StateT.run Act.ensureStarted w).2.OwnCell t c .shield) := by
  by_cases hpend : ∃ l, w.life.launch = some l ∧ w.queue.isDone l = false
  · -- a launch is under way: wait for it
    obtain ⟨l, hl, hdone⟩ := hpend
    rw [Act.run_ensureStarted_of_pending w hl hdone]
    obtain ⟨hv, hr, hown⟩ := h.shield (h.launch_ref l hl).1
    exact ⟨hr, .inr ⟨_, hv, hown⟩⟩
  · have hdone : ∀ l, w.life.launch = some l → w.queue.isDone l = true := by
      intro l hl
      cases hd : w.queue.isDone l
      · exact absurd ⟨l, hl, hd⟩ hpend
      · rfl
    cases hs : w.life.server with
    | some s =>
      rw [Act.run_ensureStarted_of_ready w hdone hs]
      exact ⟨h, .inl ⟨s, rfl, rfl⟩⟩
    | none =>
      -- no server and no launch: a new launch, which the caller waits for
      rw [Act.run_ensureStarted_of_absent w hdone hs]
      have h₁ : ({ w with queue := (w.queue.spawn .launch).1 } : World).Running w₀ t p :=
        h.spawn rfl (fun _ => by simp [Point.duty]) hask
      have hnew : ({ w with queue := (w.queue.spawn .launch).1 } : World).queue.cell
          w.queue.cells.size = { point := some .launch } := by
        rw [RunQueue.cell_spawn, if_pos rfl]
      have hl : ({ w with queue := (w.queue.spawn .launch).1 } : World).HasDuty w.queue.cells.size
          .launch := ⟨.launch, by rw [hnew], rfl⟩
      have h₂ := h₁.toTyped.setLife { w.life with launch := some w.queue.cells.size }
        (fun l hl' => by
          cases hl'
          exact ⟨hl, by simp [Pending, hnew]⟩)
        h₁.heartbeat_ref
      obtain ⟨hv, hr, hown⟩ :=
        (Running.of h₂ (h₁.toBusy.of_queue rfl rfl (.of_state rfl rfl rfl rfl (.inl rfl)))).shield hl
      exact ⟨hr, .inr ⟨_, hv, hown⟩⟩

/-- A new background task, a warm-up or a cancel notice, keeps the invariant. -/
theorem Typed.spawnBackground (h : w.Typed b) {p' : Point} (hp : p'.role = none)
    (hd : p'.duty = .warmUp ∨ p'.duty = .cancelNotice) :
    (w.exec (Act.spawnBackground p')).Typed b := by
  have hnew : ({ w with queue := (w.queue.spawn p').1 } : World).queue.cell w.queue.cells.size =
      { point := some p' } := by
    rw [RunQueue.cell_spawn, if_pos rfl]
  have h₁ := h.spawn hp (fun j hj => by rcases hd with hd | hd <;> rw [hd] at hj <;> cases hj)
  have h₂ := h₁.setBackground (w.background ++ [w.queue.cells.size]) fun x hx => by
    rcases List.mem_append.1 hx with hx | hx
    · exact .inl hx
    · rw [List.mem_singleton.1 hx]
      rcases hd with hd | hd
      · exact .inr (.inl ⟨p', by rw [hnew], hd⟩)
      · exact .inr (.inr ⟨p', by rw [hnew], hd⟩)
  have hsize : w.queue.cells.size < (w.queue.spawn p').1.cells.size := by simp
  exact h₂.listen hsize hsize (fun _ _ hf => by cases hf) (fun _ hl => by cases hl)

/-- A new background task, a warm-up or a cancel notice, keeps the busy task busy. -/
theorem Running.spawnBackground (h : w.Running w₀ t p) {p' : Point} (hp : p'.role = none)
    (hd : p'.duty = .warmUp ∨ p'.duty = .cancelNotice) :
    (w.exec (Act.spawnBackground p')).Running w₀ t p := by
  have hnew : ({ w with queue := (w.queue.spawn p').1 } : World).queue.cell w.queue.cells.size =
      { point := some p' } := by
    rw [RunQueue.cell_spawn, if_pos rfl]
  have h₁ := h.spawn hp (fun j hj => by rcases hd with hd | hd <;> rw [hd] at hj <;> cases hj)
    (by rcases hd with hd | hd <;> rw [hd] <;> trivial)
  have h₂ := Running.of (h₁.toTyped.setBackground (w.background ++ [w.queue.cells.size]) (fun x hx => by
      rcases List.mem_append.1 hx with hx | hx
      · exact .inl hx
      · rw [List.mem_singleton.1 hx]
        rcases hd with hd | hd
        · exact .inr (.inl ⟨p', by rw [hnew], hd⟩)
        · exact .inr (.inr ⟨p', by rw [hnew], hd⟩)))
    (h₁.toBusy.of_queue rfl rfl (.of_state rfl rfl rfl rfl (.inl rfl)))
  have hsize : w.queue.cells.size < (w.queue.spawn p').1.cells.size := by simp
  exact h₂.listen hsize hsize (fun _ _ hf => by cases hf) (fun _ hl => by cases hl)
    (fun _ _ hf => by cases hf) (fun _ hl => by cases hl)

/-- Superseding the jobs in flight keeps busy a task that is not a job. -/
theorem Running.supersedeAll (h : w.Running w₀ t p) (hd : ∀ j, p.duty ≠ .job j) :
    (w.exec Act.supersedeAll).Running w₀ t p := by
  simp only [World.exec, Act.run_supersedeAll]
  -- the loop marks and cancels one job after another; the jobs keep their tasks
  have hloop : ∀ (l : List Nat) (w' : World), (∀ j ∈ l, j < w.jobs.size) → w'.Running w₀ t p →
      w'.jobs.size = w.jobs.size → (∀ j, (w'.jobs.getD j default).task = (w.jobs.getD j default).task) →
      (l.foldl (fun w' j =>
        { w' with jobs := w'.jobs.modify j fun job => { job with superseded := true },
                  queue := w'.queue.cancelTask (w.jobs.getD j default).task }) w').Running w₀ t p := by
    intro l
    induction l with
    | nil => intro w' _ h' _ _; exact h'
    | cons j l ih =>
      intro w' hl h' hsize htask
      have hjobs : (w'.jobs.modify j fun job => { job with superseded := true }).size = w'.jobs.size := by
        simp
      have htask' : ∀ i, ((w'.jobs.modify j fun job => { job with superseded := true }).getD i
          default).task = (w'.jobs.getD i default).task := by
        intro i
        simp only [Array.getD_eq_getD_getElem?, Array.getElem?_modify]
        by_cases hji : j = i
        · subst hji; cases w'.jobs[j]? <;> simp
        · simp [hji]
      have h₁ := Running.of (h'.toTyped.setJobs _ hjobs htask')
        (h'.toBusy.of_queue rfl rfl (.of_state rfl rfl rfl rfl (.inl rfl)))
      have hj : j < w'.jobs.size := hsize ▸ hl j List.mem_cons_self
      have hdx : ({ w' with jobs := w'.jobs.modify j fun job => { job with superseded := true } } :
          World).HasDuty (w.jobs.getD j default).task (.job j) := by
        rw [← htask j]
        exact h'.job_ref j hj
      refine ih _ (fun i hi => hl i (List.mem_cons_of_mem j hi)) (h₁.cancelTask hdx trivial
        (h₁.ne_of_duty hdx (hd j))) (by simp [hsize]) (fun i => by simp only [htask', htask])
  have hfold := hloop w.ongoing w (fun j hj => h.ongoing_ref j hj) h rfl (fun _ => rfl)
  exact .of (hfold.toTyped.setOngoing [] (fun _ hj => by cases hj))
    (hfold.toBusy.of_queue rfl rfl (.of_state rfl rfl rfl rfl (.inl rfl)))

/-! ## The lifecycle's handlers -/

/-- Cancelling the heartbeat keeps the invariant. -/
theorem Typed.beatCancelled (h : w.Typed b) : ({ w with queue := w.beatCancelled } : World).Typed b := by
  unfold World.beatCancelled
  cases hh : w.life.heartbeat with
  | none => exact h.of_queue rfl (SameRefs.of_queue w _)
  | some c =>
    obtain ⟨s, hc⟩ := h.heartbeat_ref c hh
    exact h.cancelTask hc trivial

/-- Cancelling the heartbeat keeps busy a task that is no heartbeat. -/
theorem Running.beatCancelled (h : w.Running w₀ t p) (hd : ∀ s, p.duty ≠ .heartbeat s) :
    ({ w with queue := w.beatCancelled } : World).Running w₀ t p := by
  refine .of h.toTyped.beatCancelled ?_
  unfold World.beatCancelled
  cases hh : w.life.heartbeat with
  | none => exact h.toBusy.of_queue rfl rfl (.of_state rfl rfl rfl rfl (.inl rfl))
  | some c =>
    obtain ⟨s, hc⟩ := h.heartbeat_ref c hh
    exact h.toBusy.cancelTask h.toTyped hc trivial (h.ne_of_duty hc (hd s))

/-- Clearing a server keeps the invariant: its heartbeat is cancelled and no longer named. -/
theorem Typed.clearServer (h : w.Typed b) (s : Nat) : (w.exec (Act.clearServer s)).Typed b := by
  by_cases hs : w.life.server = some s
  · rw [World.exec, Act.run_clearServer_of_current w hs]
    have h₁ := h.beatCancelled
    exact h₁.setLife _ h₁.launch_ref (fun c hc => by cases hc)
  · rw [World.exec, Act.run_clearServer_of_ne w hs]
    exact h

theorem Running.clearServer (h : w.Running w₀ t p) (hd : ∀ s, p.duty ≠ .heartbeat s) (s : Nat) :
    (w.exec (Act.clearServer s)).Running w₀ t p := by
  refine .of (h.toTyped.clearServer s) ?_
  by_cases hs : w.life.server = some s
  · rw [World.exec, Act.run_clearServer_of_current w hs]
    exact (h.beatCancelled hd).toBusy.of_queue rfl rfl (.of_state rfl rfl rfl rfl (.inr rfl))
  · rw [World.exec, Act.run_clearServer_of_ne w hs]
    exact h.toBusy

/-- The world after a launch report of the current server, from the queue with the old heartbeat
cancelled: a new heartbeat task that is named as the heartbeat. -/
theorem Typed.newHeartbeat (h : ({ w with queue := w.beatCancelled } : World).Typed b) (s : Nat) :
    ({ w with
        life := { w.life with phase := .running, heartbeat := some w.beatCancelled.cells.size },
        launches := w.launches ++ [w.servers.size - 1],
        queue := (w.beatCancelled.spawn (.heartbeat s (w.servers.getD s default).launchMetadata)).1 } :
      World).Typed b := by
  have h₂ : ({ w with queue :=
      (w.beatCancelled.spawn (.heartbeat s (w.servers.getD s default).launchMetadata)).1 } :
      World).Typed b :=
    h.spawn rfl fun _ => by simp [Point.duty]
  have h₃ := h₂.setLife { w.life with phase := .running, heartbeat := some w.beatCancelled.cells.size }
    h₂.launch_ref (fun c hc => by
      cases hc
      exact ⟨s, .heartbeat s (w.servers.getD s default).launchMetadata, by simp [RunQueue.cell_spawn], rfl⟩)
  exact h₃.of_queue rfl (.of_fields rfl rfl rfl rfl rfl rfl rfl rfl)

/-- The launch report of the current server keeps the invariant: the old heartbeat is cancelled
and a new heartbeat task takes its place. -/
theorem Typed.handleLaunch (h : w.Typed b) (s : Nat) : (w.exec (Act.handleLaunch s)).Typed b := by
  by_cases hs : w.life.server = some s
  · rw [World.exec, Act.run_handleLaunch_of_current w hs]
    exact h.beatCancelled.newHeartbeat s
  · rw [World.exec, Act.run_handleLaunch_of_ne w hs]
    exact h

/-- A launch report handled in a launch's step keeps it busy. -/
theorem Running.handleLaunch (h : w.Running w₀ t p) (hd : p.duty = .launch) (s : Nat) :
    (w.exec (Act.handleLaunch s)).Running w₀ t p := by
  refine .of (h.toTyped.handleLaunch s) ?_
  by_cases hs : w.life.server = some s
  · rw [World.exec, Act.run_handleLaunch_of_current w hs]
    have hb := h.beatCancelled fun s' hs' => by rw [hd] at hs'; cases hs'
    exact (hb.toBusy.spawn (.heartbeat s _) hd).of_queue rfl rfl (.of_state rfl rfl rfl rfl (.inl rfl))
  · rw [World.exec, Act.run_handleLaunch_of_ne w hs]
    exact h.toBusy

/-! ## Gates -/

/-- A gate's new waiter is a cell of the busy task's own, fed only by the gate. -/
theorem OwnCell.of_gate {c : CellId} {r : Role} (hown : w.OwnCell t c r) (W : World)
    (hq : W.queue = w.queue) (hfeeds : ∀ r', W.Feeds c r' → w.Feeds c r' ∨ r' = r) :
    W.OwnCell t c r where
  bounded := hq ▸ hown.bounded
  ne := hown.ne
  plain := by simp only [Plain, hq]; exact hown.plain
  unwaited := fun t' hw => hown.unwaited t' (by simpa only [Waits, hq] using hw)
  fed := fun r' hf => (hfeeds r' hf).elim (hown.fed r') id
  pending := by simp only [Pending, hq]; exact hown.pending

/-- A gate's new waiter, a cell of the busy task's own past the step's first cells, keeps the
frame when only the gate feeds it anew. -/
theorem OwnCell.frame_gate {c : CellId} {r : Role} {n : Nat} {L : Prop} (hown : w.OwnCell t c r)
    (hc : n ≤ c) (W : World) (hq : W.queue = w.queue) (hservers : W.servers = w.servers)
    (hserver : W.life.server = w.life.server)
    (hfeeds : ∀ d r', W.Feeds d r' → w.Feeds d r' ∨ (d = c ∧ r' = r)) : Frame n L w W := by
  refine .of_cells (by rw [hq]; exact .refl _) (fun d r' hf => ?_) (Nat.le_of_eq (by rw [hservers]))
    (fun s hs => by rwa [hservers]) (.inl hserver)
  rcases hfeeds d r' hf with hf | ⟨rfl, rfl⟩
  · exact .inl hf
  · refine .inr ⟨hc, fun r'' hf' => ?_⟩
    rcases hfeeds _ r'' hf' with hf' | ⟨-, rfl⟩
    · exact hown.fed r'' hf'
    · rfl

/-- Waiting for a reply gate is waiting, if the gate is closed, for a new cell of the task's own
that only the gate feeds. -/
theorem Running.claimReplyGate (h : w.Running w₀ t p) :
    (StateT.run Act.claimReplyGate w).2.Running w₀ t p ∧
      ∀ c, (StateT.run Act.claimReplyGate w).1 = some c →
        (StateT.run Act.claimReplyGate w).2.OwnCell t c .replyGate := by
  cases hu : w.replyGates.untaken with
  | nil =>
    rw [Act.run_claimReplyGate_of_nil w hu]
    exact ⟨h, fun c hc => by cases hc⟩
  | cons g rest =>
    cases ho : (w.replyGates.gates.getD g {}).isOpen
    case true =>
      rw [Act.run_claimReplyGate_of_open w hu ho]
      exact ⟨h.of_queue rfl rfl ⟨rfl, rfl, rfl, fun _ => rfl, fun _ h => h, fun _ h => h,
        fun _ => Iff.rfl, fun _ => Iff.rfl, fun _ h => h, Nat.le_refl _⟩ (.inl rfl), fun c hc => by cases hc⟩
    case false =>
      rw [Act.run_claimReplyGate_of_closed w hu ho]
      have h₁ := h.newCell
      have hown := h.newCell_own .replyGate
      have hfeeds : ∀ d r', (StateT.run Act.claimReplyGate w).2.Feeds d r' →
          ({ w with queue := w.queue.newCell.1 } : World).Feeds d r' ∨
            (d = w.queue.cells.size ∧ r' = .replyGate) := by
        rw [Act.run_claimReplyGate_of_closed w hu ho]
        rintro d r' (⟨hr, hl⟩ | ⟨hg⟩ | ⟨hg⟩)
        · exact .inl (.listener hr hl)
        · rcases GateQueue.holds_addWaiter _ g rest hg with hg | rfl
          · exact .inl (.replyGate hg)
          · exact .inr ⟨rfl, rfl⟩
        · exact .inl (.startGate hg)
      rw [Act.run_claimReplyGate_of_closed w hu ho] at hfeeds
      refine ⟨.of (h₁.toTyped.setGates _ _ (fun c hc => ?_) (fun c hc => .inl hc))
        (h₁.toBusy.of_queue rfl rfl (hown.frame_gate h.keeps.size _ rfl rfl rfl hfeeds)),
        fun c hc => ?_⟩
      · rcases GateQueue.holds_addWaiter _ g rest hc with hc | rfl
        · exact .inl hc
        · exact .inr ⟨hown.bounded, hown.plain, hown.unwaited⟩
      · cases hc
        exact hown.of_gate _ rfl fun r' hf => (hfeeds _ r' hf).imp id And.right

/-- Waiting for a start gate is waiting, if the gate is closed, for a new cell of the task's own
that only the gate feeds. -/
theorem Running.claimStartGate (h : w.Running w₀ t p) :
    (StateT.run Act.claimStartGate w).2.Running w₀ t p ∧
      ∀ c, (StateT.run Act.claimStartGate w).1 = some c →
        (StateT.run Act.claimStartGate w).2.OwnCell t c .startGate := by
  cases hu : w.startGates.untaken with
  | nil =>
    rw [Act.run_claimStartGate_of_nil w hu]
    exact ⟨h, fun c hc => by cases hc⟩
  | cons g rest =>
    cases ho : (w.startGates.gates.getD g {}).isOpen
    case true =>
      rw [Act.run_claimStartGate_of_open w hu ho]
      exact ⟨h.of_queue rfl rfl ⟨rfl, rfl, rfl, fun _ => rfl, fun _ h => h, fun _ h => h,
        fun _ => Iff.rfl, fun _ => Iff.rfl, fun _ h => h, Nat.le_refl _⟩ (.inl rfl), fun c hc => by cases hc⟩
    case false =>
      rw [Act.run_claimStartGate_of_closed w hu ho]
      have h₁ := h.newCell
      have hown := h.newCell_own .startGate
      have hfeeds : ∀ d r', (StateT.run Act.claimStartGate w).2.Feeds d r' →
          ({ w with queue := w.queue.newCell.1 } : World).Feeds d r' ∨
            (d = w.queue.cells.size ∧ r' = .startGate) := by
        rw [Act.run_claimStartGate_of_closed w hu ho]
        rintro d r' (⟨hr, hl⟩ | ⟨hg⟩ | ⟨hg⟩)
        · exact .inl (.listener hr hl)
        · exact .inl (.replyGate hg)
        · rcases GateQueue.holds_addWaiter _ g rest hg with hg | rfl
          · exact .inl (.startGate hg)
          · exact .inr ⟨rfl, rfl⟩
      rw [Act.run_claimStartGate_of_closed w hu ho] at hfeeds
      refine ⟨.of (h₁.toTyped.setGates _ _ (fun c hc => .inl hc) (fun c hc => ?_))
        (h₁.toBusy.of_queue rfl rfl (hown.frame_gate h.keeps.size _ rfl rfl rfl hfeeds)),
        fun c hc => ?_⟩
      · rcases GateQueue.holds_addWaiter _ g rest hc with hc | rfl
        · exact .inl hc
        · exact .inr ⟨hown.bounded, hown.plain, hown.unwaited⟩
      · cases hc
        exact hown.of_gate _ rfl fun r' hf => (hfeeds _ r' hf).imp id And.right

end World

end CompletionClient.Service
