import CompletionClient.Proofs.Service.Frame
/-!
# What keeps the cells typed

`World.Typed` is kept by every operation on the run queue and the service's
state that the activities use, each under the side conditions it has where
the activities use it.  The lemmas here are those operations:

* a change that every view of the invariant ignores (`Typed.of_views`): the
  phase, the counters, the servers' script and log, a new empty cell;
* a new task at its first point (`Typed.spawn`);
* a listener on a cell (`Typed.listen`), which as a feeder must feed a plain
  cell whose waiter, if any, waits in the listener's role;
* a result for a pending cell (`Typed.finish`), which must fit the role of
  the cell's waiter;
* the cancellation of a task of a cancellable duty (`Typed.cancelTask`);
* the two ways a step of a task ends (`Typed.advance_done`,
  `Typed.advance_wait`), and the two ways it begins (`Typed.begin_start`,
  `Typed.begin_resume`).

A change of the run queue is first described cell by cell (`spawnWith_cell`,
`withResult_cell`, `waitOn_cell`), and from that by the views the invariant
reads: which cells are pending, plain, waiting, of a duty or in a role.  The
invariant is then kept in two halves, the shape of the cells (`Shaped`) and
their wiring (`Wired`).
-/

namespace CompletionClient.Service

namespace World

variable {w w' : World} {b : Option CellId} {t : CellId}

/-! ## Cells past the end -/

/-- A cell with something in it lies in bounds: past the end every cell is empty. -/
theorem lt_size_of_cell {c : CellId} (P : Cell Point → Prop) (hempty : ¬ P {})
    (h : P (w.queue.cell c)) : c < w.queue.cells.size := by
  rcases Nat.lt_or_ge c w.queue.cells.size with hc | hc
  · exact hc
  · rw [w.queue.cell_of_size_le hc] at h
    exact absurd h hempty

theorem lt_size_of_point {c : CellId} {p : Point} (h : (w.queue.cell c).point = some p) :
    c < w.queue.cells.size :=
  lt_size_of_cell (fun cell => cell.point = some p) (by simp) h

theorem lt_size_of_waits {t d : CellId} (h : w.Waits t d) : t < w.queue.cells.size :=
  lt_size_of_cell (fun cell => cell.waitsFor = some d) (by simp) h.2

theorem lt_size_of_listener {c : CellId} {l : Listener} (h : l ∈ (w.queue.cell c).listeners) :
    c < w.queue.cells.size :=
  lt_size_of_cell (fun cell => l ∈ cell.listeners) (by simp) h

theorem lt_size_of_result {c : CellId} {o : Outcome} (h : (w.queue.cell c).result = some o) :
    c < w.queue.cells.size :=
  lt_size_of_cell (fun cell => cell.result = some o) (by simp) h

theorem lt_size_of_hasDuty {c : CellId} {d : Duty} (h : w.HasDuty c d) : c < w.queue.cells.size := by
  obtain ⟨p, hp, -⟩ := h
  exact lt_size_of_point hp

namespace Typed

variable (h : w.Typed b)
include h

theorem lt_size_of_waits_target {t d : CellId} (hw : w.Waits t d) : d < w.queue.cells.size :=
  h.queue_bounded d (.inr (.inr ⟨t, hw.2⟩))

theorem lt_size_of_registered {l : Listener} {src : CellId} (hr : w.queue.Registered l src) :
    l.cell < w.queue.cells.size ∧ src < w.queue.cells.size := by
  rcases hr with hl | hn
  · exact ⟨h.queue_bounded _ (.inr (.inl ⟨src, l, hl, rfl⟩)), lt_size_of_listener hl⟩
  · exact ⟨h.queue_bounded _ (.inl ⟨_, hn, by simp⟩), h.queue_bounded _ (.inl ⟨_, hn, by simp⟩)⟩

theorem lt_size_of_feeds {c : CellId} {r : Role} (hf : w.Feeds c r) : c < w.queue.cells.size := by
  rcases hf with ⟨hr, hl⟩ | ⟨hg⟩ | ⟨hg⟩
  · rename_i l src
    have hc : l.cell = c := by cases l <;> simp_all [Listener.feed, Listener.cell]
    exact hc ▸ (h.lt_size_of_registered hr).1
  · exact h.world_bounded _ (.inr (.inr (.inr (.inr (.inl hg)))))
  · exact h.world_bounded _ (.inr (.inr (.inr (.inr (.inr hg)))))

theorem start_not_mem_of_size_le {t : CellId} (ht : w.queue.cells.size ≤ t) :
    Wake.start t ∉ w.queue.ready := fun hs =>
  absurd (h.queue_bounded t (.inl ⟨_, hs, by simp⟩)) (Nat.not_lt_of_le ht)

end Typed

/-! ## Views -/

/-- The views of the service's own state that the invariant reads. -/
structure SameRefs (w' w : World) : Prop where
  launch : w'.life.launch = w.life.launch
  heartbeat : w'.life.heartbeat = w.life.heartbeat
  jobs_size : w'.jobs.size = w.jobs.size
  task : ∀ j, (w'.jobs.getD j default).task = (w.jobs.getD j default).task
  background : ∀ t ∈ w'.background, t ∈ w.background
  ongoing : ∀ j ∈ w'.ongoing, j ∈ w.ongoing
  replyGates : ∀ c, w'.replyGates.Holds c ↔ w.replyGates.Holds c
  startGates : ∀ c, w'.startGates.Holds c ↔ w.startGates.Holds c
  started : ∀ s, (w.servers.getD s default).started = true → (w'.servers.getD s default).started = true
  servers_size : w.servers.size ≤ w'.servers.size

theorem SameRefs.refl (w : World) : SameRefs w w :=
  ⟨rfl, rfl, rfl, fun _ => rfl, fun _ h => h, fun _ h => h, fun _ => Iff.rfl, fun _ => Iff.rfl,
    fun _ h => h, Nat.le_refl _⟩

theorem SameRefs.of_queue (w : World) (q : RunQueue Point) : SameRefs { w with queue := q } w :=
  ⟨rfl, rfl, rfl, fun _ => rfl, fun _ h => h, fun _ h => h, fun _ => Iff.rfl, fun _ => Iff.rfl,
    fun _ h => h, Nat.le_refl _⟩

theorem SameRefs.names (h : SameRefs w' w) (d : CellId) (hd : w'.Names d) : w.Names d := by
  simp only [Names, h.launch, h.heartbeat, h.jobs_size, h.task, h.replyGates, h.startGates] at hd ⊢
  exact hd.imp_right (Or.imp_right (Or.imp_right (Or.imp_left (h.background d))))

theorem SameRefs.launchOutcome (h : SameRefs w' w) {o : Outcome} (ho : w.LaunchOutcome o) :
    w'.LaunchOutcome o := by
  rcases ho with ⟨s, rfl, hs⟩ | ⟨f, rfl⟩
  · exact .inl ⟨s, rfl, h.started s hs⟩
  · exact .inr ⟨f, rfl⟩

theorem SameRefs.roleResult (h : SameRefs w' w) {r : Role} {o : Outcome} (ho : w.RoleResult r o) :
    w'.RoleResult r o := by
  cases r <;> simp only [RoleResult] at ho ⊢
  case shield => exact ho.imp id h.launchOutcome
  all_goals exact ho

/-- A target of a role stays one when plain cells stay plain, tasks keep their duties and jobs
their tasks. -/
theorem Target.of_views (hrefs : SameRefs w' w) {d : CellId} (hplain : w.Plain d → w'.Plain d)
    (hduty : ∀ du, w.HasDuty d du → w'.HasDuty d du) {r : Role} (ht : w.Target r d) :
    w'.Target r d := by
  cases r with
  | job j => simpa only [Target, hrefs.task, hrefs.jobs_size] using ht
  | beat _ => obtain ⟨s, hs⟩ := ht; exact ⟨s, hduty _ hs⟩
  | _ => exact hplain ht

/-- A feed of a cell comes from a registered listener or a gate's waiters, so it stays one when
those do. -/
theorem Feeds.of_views {c : CellId} {r : Role} (hf : w'.Feeds c r)
    (hreg : ∀ l src, w'.queue.Registered l src → w.queue.Registered l src)
    (hreply : ∀ c, w'.replyGates.Holds c → w.replyGates.Holds c)
    (hstart : ∀ c, w'.startGates.Holds c → w.startGates.Holds c) : w.Feeds c r := by
  rcases hf with ⟨hr, hl⟩ | ⟨hg⟩ | ⟨hg⟩
  · exact .listener (hreg _ _ hr) hl
  · exact .replyGate (hreply _ hg)
  · exact .startGate (hstart _ hg)

/-- Every cell keeps its result, point and wait. -/
structure SameCore (w' w : World) : Prop where
  result : ∀ d, (w'.queue.cell d).result = (w.queue.cell d).result
  point : ∀ d, (w'.queue.cell d).point = (w.queue.cell d).point
  waitsFor : ∀ d, (w'.queue.cell d).waitsFor = (w.queue.cell d).waitsFor

theorem SameCore.of_cell (h : ∀ d, w'.queue.cell d = w.queue.cell d) : SameCore w' w :=
  ⟨fun d => by rw [h], fun d => by rw [h], fun d => by rw [h]⟩

section SameCore

variable (hc : SameCore w' w)
include hc

theorem SameCore.pending (c : CellId) : w'.Pending c ↔ w.Pending c := by
  simp [Pending, hc.result]

theorem SameCore.plain (c : CellId) : w'.Plain c ↔ w.Plain c := by
  simp [Plain, hc.point]

theorem SameCore.waits (t d : CellId) : w'.Waits t d ↔ w.Waits t d := by
  simp [Waits, hc.result, hc.waitsFor]

theorem SameCore.hasRole (t : CellId) (r : Role) : w'.HasRole t r ↔ w.HasRole t r := by
  simp [HasRole, hc.point]

theorem SameCore.hasDuty (t : CellId) (d : Duty) : w'.HasDuty t d ↔ w.HasDuty t d := by
  simp [HasDuty, hc.point]

end SameCore

/-- A change that keeps every cell's result, point and wait and the references of the service's
own state, and marks for cancellation only tasks of cancellable duties, keeps `Shaped`; the
cells may grow by empty ones. -/
theorem Shaped.of_core (h : w.Shaped b) (hc : SameCore w' w)
    (hmark : ∀ d, (w'.queue.cell d).cancelPending = true → w.Pending d →
      (w.queue.cell d).cancelPending = true ∨ ∃ du, w.HasDuty d du ∧ du.Cancellable)
    (hsize : w.queue.cells.size ≤ w'.queue.cells.size) (hrefs : SameRefs w' w) : w'.Shaped b where
  world_bounded d hd := Nat.lt_of_lt_of_le (h.world_bounded d (hrefs.names d hd)) hsize
  target t d hw := by
    obtain ⟨r, hr, ht⟩ := h.target t d ((hc.waits t d).1 hw)
    exact ⟨r, (hc.hasRole t r).2 hr,
      Target.of_views hrefs (hc.plain d).2 (fun du => (hc.hasDuty d du).2) ht⟩
  waiting t r hr hp hb := by
    rw [hc.waitsFor]
    exact h.waiting t r ((hc.hasRole t r).1 hr) ((hc.pending t).1 hp) hb
  alone t t' d hd hw hw' :=
    h.alone t t' d ((hc.plain d).1 hd) ((hc.waits t d).1 hw) ((hc.waits t' d).1 hw')
  woken t d r o hw hr ho := hrefs.roleResult
    (h.woken t d r o ((hc.waits t d).1 hw) ((hc.hasRole t r).1 hr) (by rwa [hc.result] at ho))
  launch_result c o hd ho := hrefs.launchOutcome
    (h.launch_result c o ((hc.hasDuty c _).1 hd) (by rwa [hc.result] at ho))
  cancellable t hm hp := by
    have hp₀ := (hc.pending t).1 hp
    obtain ⟨d, hd, hcan⟩ : ∃ d, w.HasDuty t d ∧ d.Cancellable := by
      rcases hmark t hm hp₀ with hm | hd
      · exact h.cancellable t hm hp₀
      · exact hd
    exact ⟨d, (hc.hasDuty t d).2 hd, hcan⟩
  launch_ref c hl := by
    obtain ⟨hd, hp⟩ := h.launch_ref c (hrefs.launch ▸ hl)
    exact ⟨(hc.hasDuty c _).2 hd, (hc.pending c).2 hp⟩
  heartbeat_ref c hb := by
    obtain ⟨s, hs⟩ := h.heartbeat_ref c (hrefs.heartbeat ▸ hb)
    exact ⟨s, (hc.hasDuty c _).2 hs⟩
  job_ref j hj := by
    rw [hrefs.jobs_size] at hj
    rw [hrefs.task]
    exact (hc.hasDuty _ _).2 (h.job_ref j hj)
  job_unique t j ht := by
    rw [hrefs.jobs_size, hrefs.task]
    exact h.job_unique t j ((hc.hasDuty t _).1 ht)
  background_ref t ht :=
    (h.background_ref t (hrefs.background t ht)).imp (hc.hasDuty t _).2 (hc.hasDuty t _).2
  ongoing_ref j hj := hrefs.jobs_size ▸ h.ongoing_ref j (hrefs.ongoing j hj)
  start_server c prev s hp :=
    Nat.lt_of_lt_of_le (h.start_server c prev s (by rwa [hc.point] at hp)) hrefs.servers_size

/-- A change that keeps every cell's result, point, wait and listeners, the queue of entries and
the gates keeps `Wired`; the cells may grow by empty ones. -/
theorem Wired.of_wiring (h : w.Wired b) (hc : SameCore w' w)
    (hl : ∀ d, (w'.queue.cell d).listeners = (w.queue.cell d).listeners)
    (hready : w'.queue.ready = w.queue.ready) (hsize : w.queue.cells.size ≤ w'.queue.cells.size)
    (hreply : ∀ c, w'.replyGates.Holds c ↔ w.replyGates.Holds c)
    (hstart : ∀ c, w'.startGates.Holds c ↔ w.startGates.Holds c) : w'.Wired b := by
  have hreg : ∀ l src, w'.queue.Registered l src ↔ w.queue.Registered l src := by
    simp [RunQueue.Registered, hl, hready]
  have hfeeds : ∀ c r, w'.Feeds c r → w.Feeds c r := by
    rintro c r (⟨hr, hf⟩ | ⟨hg⟩ | ⟨hg⟩)
    · exact .listener ((hreg _ _).1 hr) hf
    · exact .replyGate ((hreply _).1 hg)
    · exact .startGate ((hstart _).1 hg)
  exact
    { queue_bounded := fun d hd => by
        refine Nat.lt_of_lt_of_le (h.queue_bounded d ?_) hsize
        simpa [RunQueue.Names, hl, hready, hc.waitsFor] using hd
      fed := fun c r hf => by
        obtain ⟨hp, hw⟩ := h.fed c r (hfeeds c r hf)
        exact ⟨(hc.plain c).2 hp, fun t hpc hwt =>
          (hc.hasRole t r).2 (hw t ((hc.pending c).1 hpc) ((hc.waits t c).1 hwt))⟩
      relay_source := fun c src hr => (hc.hasDuty src _).2 (h.relay_source c src ((hreg _ _).1 hr))
      start_once := fun t => hready ▸ h.start_once t
      start_fresh := fun t ht hp => by
        rw [hc.point]; exact h.start_fresh t (hready ▸ ht) ((hc.pending t).1 hp)
      start_ready := fun t p hp hr hpe hb => by
        rw [hready]; rw [hc.point] at hp; exact h.start_ready t p hp hr ((hc.pending t).1 hpe) hb
      resume_registered := fun t d hw hp => by
        rw [hl]; exact h.resume_registered t d ((hc.waits t d).1 hw) ((hc.pending d).1 hp)
      resume_ready := fun t d hw hp => by
        rw [hready]
        exact h.resume_ready t d ((hc.waits t d).1 hw) (fun hp' => hp ((hc.pending d).2 hp'))
      notify_done := fun l src hn hp => h.notify_done l src (hready ▸ hn) ((hc.pending src).1 hp) }

/-- A change that keeps every cell, the queue of entries and the references of the service's
own state keeps the invariant; the cells may grow by empty ones. -/
theorem Typed.of_views (h : w.Typed b) (hcell : ∀ d, w'.queue.cell d = w.queue.cell d)
    (hready : w'.queue.ready = w.queue.ready) (hsize : w.queue.cells.size ≤ w'.queue.cells.size)
    (hrefs : SameRefs w' w) : w'.Typed b :=
  { toShaped :=
      h.toShaped.of_core (.of_cell hcell) (fun d hm _ => .inl (by rwa [hcell] at hm)) hsize hrefs
    toWired := h.toWired.of_wiring (.of_cell hcell) (fun d => by rw [hcell]) hready hsize
      hrefs.replyGates hrefs.startGates }

/-! ## New tasks -/

/-- The world after a new task at the point `p`, with the jobs `J`, of which `O` are in flight. -/
def spawnWith (w : World) (p : Point) (J : Array Job) (O : List Nat) : World :=
  { w with queue := (w.queue.spawn p).1, jobs := J, ongoing := O }

section Spawn

variable (p : Point) (J : Array Job) (O : List Nat)

theorem spawnWith_jobs : (w.spawnWith p J O).jobs = J := rfl

theorem spawnWith_size : (w.spawnWith p J O).queue.cells.size = w.queue.cells.size + 1 := by
  simp [spawnWith]

theorem spawnWith_ready :
    (w.spawnWith p J O).queue.ready = w.queue.ready ++ [.start w.queue.cells.size] :=
  RunQueue.ready_spawn _ _

theorem spawnWith_registered (l : Listener) (src : CellId) :
    (w.spawnWith p J O).queue.Registered l src ↔ w.queue.Registered l src :=
  RunQueue.registered_spawn _ _ _ _

theorem spawnWith_names (d : CellId) :
    (w.spawnWith p J O).queue.Names d ↔ w.queue.Names d ∨ d = w.queue.cells.size :=
  RunQueue.names_spawn _ _ _

/-- The new task is the one cell that changes: the empty cell past the end comes to stand at `p`. -/
theorem spawnWith_cell (d : CellId) :
    (w.spawnWith p J O).queue.cell d =
      if d = w.queue.cells.size then { w.queue.cell d with point := some p } else w.queue.cell d := by
  rw [spawnWith, RunQueue.cell_spawn]
  split
  · next hd => rw [hd, w.queue.cell_of_size_le (Nat.le_refl _)]
  · rfl

theorem spawnWith_result (d : CellId) :
    ((w.spawnWith p J O).queue.cell d).result = (w.queue.cell d).result := by
  rw [spawnWith_cell]; split <;> rfl

theorem spawnWith_waitsFor (d : CellId) :
    ((w.spawnWith p J O).queue.cell d).waitsFor = (w.queue.cell d).waitsFor := by
  rw [spawnWith_cell]; split <;> rfl

theorem spawnWith_cancelPending (d : CellId) :
    ((w.spawnWith p J O).queue.cell d).cancelPending = (w.queue.cell d).cancelPending := by
  rw [spawnWith_cell]; split <;> rfl

theorem spawnWith_listeners (d : CellId) :
    ((w.spawnWith p J O).queue.cell d).listeners = (w.queue.cell d).listeners := by
  rw [spawnWith_cell]; split <;> rfl

theorem spawnWith_point (d : CellId) :
    ((w.spawnWith p J O).queue.cell d).point =
      if d = w.queue.cells.size then some p else (w.queue.cell d).point := by
  rw [spawnWith_cell]; split <;> rfl

theorem spawnWith_pending (c : CellId) : (w.spawnWith p J O).Pending c ↔ w.Pending c := by
  simp [Pending, spawnWith_result]

theorem spawnWith_waits (t d : CellId) : (w.spawnWith p J O).Waits t d ↔ w.Waits t d := by
  simp [Waits, spawnWith_result, spawnWith_waitsFor]

theorem spawnWith_feeds (c : CellId) (r : Role) : (w.spawnWith p J O).Feeds c r ↔ w.Feeds c r :=
  ⟨fun hf => hf.of_views (fun _ _ => (spawnWith_registered p J O _ _).1) (fun _ => id) (fun _ => id),
    fun hf => hf.of_views (fun _ _ => (spawnWith_registered p J O _ _).2) (fun _ => id) (fun _ => id)⟩

variable {p J O} {d : CellId} (hd : d ≠ w.queue.cells.size)
include hd

theorem spawnWith_plain : (w.spawnWith p J O).Plain d ↔ w.Plain d := by
  simp [Plain, spawnWith_point, hd]

theorem spawnWith_hasDuty (du : Duty) : (w.spawnWith p J O).HasDuty d du ↔ w.HasDuty d du := by
  simp [HasDuty, spawnWith_point, hd]

theorem spawnWith_hasRole (r : Role) : (w.spawnWith p J O).HasRole d r ↔ w.HasRole d r := by
  simp [HasRole, spawnWith_point, hd]

end Spawn

theorem spawnWith_hasDuty_new {p : Point} {J : Array Job} {O : List Nat} {du : Duty} :
    (w.spawnWith p J O).HasDuty w.queue.cells.size du ↔ p.duty = du := by
  simp [HasDuty, spawnWith_point]

theorem spawnWith_hasRole_new {p : Point} {J : Array Job} {O : List Nat} {r : Role} :
    (w.spawnWith p J O).HasRole w.queue.cells.size r ↔ p.role = some r := by
  simp [HasRole, spawnWith_point]

section SpawnTyped

variable (h : w.Typed b) {p : Point} (hp : p.role = none)
include h hp

/-- A new task at the first point of an activity keeps the shape of the cells: it waits for
nothing and has no result, and nothing names it but a new job of its own. -/
theorem Typed.shaped_spawnWith (J : Array Job) (O : List Nat)
    (hold_jobs : ∀ j < w.jobs.size, j < J.size ∧ (J.getD j default).task = (w.jobs.getD j default).task)
    (hnew_jobs : ∀ j < J.size, w.jobs.size ≤ j →
      p.duty = .job j ∧ (J.getD j default).task = w.queue.cells.size)
    (hjob : ∀ j, p.duty = .job j → j < J.size ∧ (J.getD j default).task = w.queue.cells.size)
    (hO : ∀ j ∈ O, j < J.size) : (w.spawnWith p J O).Shaped b where
  world_bounded d hd := by
    rw [spawnWith_size]
    rcases hd with hd | hd | ⟨j, hj, rfl⟩ | hd | hd | hd
    · exact Nat.lt_succ_of_lt (h.world_bounded d (.inl hd))
    · exact Nat.lt_succ_of_lt (h.world_bounded d (.inr (.inl hd)))
    · -- a job's task is an old cell, or the new task for a new job
      rw [spawnWith_jobs] at hj ⊢
      rcases Nat.lt_or_ge j w.jobs.size with hjw | hjw
      · rw [(hold_jobs j hjw).2]
        exact Nat.lt_succ_of_lt (h.world_bounded _ (.inr (.inr (.inl ⟨j, hjw, rfl⟩))))
      · rw [(hnew_jobs j hj hjw).2]
        exact Nat.lt_succ_self _
    · exact Nat.lt_succ_of_lt (h.world_bounded d (.inr (.inr (.inr (.inl hd)))))
    · exact Nat.lt_succ_of_lt (h.world_bounded d (.inr (.inr (.inr (.inr (.inl hd))))))
    · exact Nat.lt_succ_of_lt (h.world_bounded d (.inr (.inr (.inr (.inr (.inr hd))))))
  target t d hw := by
    have hw₀ := (spawnWith_waits p J O t d).1 hw
    have hd : d ≠ w.queue.cells.size := Nat.ne_of_lt (h.lt_size_of_waits_target hw₀)
    obtain ⟨r, hr, htg⟩ := h.target t d hw₀
    refine ⟨r, (spawnWith_hasRole (Nat.ne_of_lt (lt_size_of_waits hw₀)) r).2 hr, ?_⟩
    cases r with
    | job j =>
      obtain ⟨hj, rfl⟩ := htg
      exact ⟨(hold_jobs j hj).1, (hold_jobs j hj).2.symm⟩
    | beat _ => obtain ⟨s, hs⟩ := htg; exact ⟨s, (spawnWith_hasDuty hd _).2 hs⟩
    | _ => exact (spawnWith_plain hd).2 htg
  waiting t r hr hpe hb := by
    by_cases ht : t = w.queue.cells.size
    · -- the new task stands at a first point, where it waits in no role
      subst ht
      rw [spawnWith_hasRole_new, hp] at hr
      cases hr
    · rw [spawnWith_waitsFor]
      exact h.waiting t r ((spawnWith_hasRole ht r).1 hr) ((spawnWith_pending p J O t).1 hpe) hb
  alone t t' d hd hw hw' := by
    have hw₀ := (spawnWith_waits p J O t d).1 hw
    have hd' : d ≠ w.queue.cells.size := Nat.ne_of_lt (h.lt_size_of_waits_target hw₀)
    exact h.alone t t' d ((spawnWith_plain hd').1 hd) hw₀ ((spawnWith_waits p J O t' d).1 hw')
  woken t d r o hw hr ho := by
    have hw₀ := (spawnWith_waits p J O t d).1 hw
    rw [spawnWith_result] at ho
    exact h.woken t d r o hw₀ ((spawnWith_hasRole (Nat.ne_of_lt (lt_size_of_waits hw₀)) r).1 hr) ho
  launch_result c o hc ho := by
    rw [spawnWith_result] at ho
    have hc' : c ≠ w.queue.cells.size := Nat.ne_of_lt (lt_size_of_result ho)
    exact h.launch_result c o ((spawnWith_hasDuty hc' _).1 hc) ho
  cancellable t hm hpe := by
    rw [spawnWith_cancelPending] at hm
    have ht : t ≠ w.queue.cells.size :=
      Nat.ne_of_lt (lt_size_of_cell (fun cell => cell.cancelPending = true) (by simp) hm)
    obtain ⟨du, hd, hcan⟩ := h.cancellable t hm ((spawnWith_pending p J O t).1 hpe)
    exact ⟨du, (spawnWith_hasDuty ht du).2 hd, hcan⟩
  launch_ref c hc := by
    have hc' : c ≠ w.queue.cells.size := Nat.ne_of_lt (h.world_bounded c (.inr (.inl hc)))
    obtain ⟨hd, hpe⟩ := h.launch_ref c hc
    exact ⟨(spawnWith_hasDuty hc' _).2 hd, (spawnWith_pending p J O c).2 hpe⟩
  heartbeat_ref c hc := by
    have hc' : c ≠ w.queue.cells.size := Nat.ne_of_lt (h.world_bounded c (.inl hc))
    obtain ⟨s, hs⟩ := h.heartbeat_ref c hc
    exact ⟨s, (spawnWith_hasDuty hc' _).2 hs⟩
  job_ref j hj := by
    rw [spawnWith_jobs] at hj ⊢
    rcases Nat.lt_or_ge j w.jobs.size with hjw | hjw
    · have ht := h.world_bounded _ (.inr (.inr (.inl ⟨j, hjw, rfl⟩)))
      rw [(hold_jobs j hjw).2]
      exact (spawnWith_hasDuty (Nat.ne_of_lt ht) _).2 (h.job_ref j hjw)
    · obtain ⟨hd, ht⟩ := hnew_jobs j hj hjw
      rw [ht]
      exact spawnWith_hasDuty_new.2 hd
  job_unique t j ht := by
    rw [spawnWith_jobs]
    by_cases htn : t = w.queue.cells.size
    · subst htn
      exact hjob j (spawnWith_hasDuty_new.1 ht)
    · obtain ⟨hj, htj⟩ := h.job_unique t j ((spawnWith_hasDuty htn _).1 ht)
      exact ⟨(hold_jobs j hj).1, (hold_jobs j hj).2.trans htj⟩
  background_ref t ht := by
    have ht' : t ≠ w.queue.cells.size := Nat.ne_of_lt (h.world_bounded t (.inr (.inr (.inr (.inl ht)))))
    exact (h.background_ref t ht).imp (spawnWith_hasDuty ht' _).2 (spawnWith_hasDuty ht' _).2
  ongoing_ref j hj := hO j hj
  start_server c prev s hc := by
    rw [spawnWith_point] at hc
    split at hc
    · -- the new task stands at a first point, where no launch waits for its start
      injection hc with hc
      subst hc
      cases hp
    · exact h.start_server c prev s hc

/-- A new task at the first point of an activity keeps the listeners and the queue of entries: it
is queued to start, once, and listens to nothing. -/
theorem Typed.wired_spawnWith (J : Array Job) (O : List Nat) : (w.spawnWith p J O).Wired b where
  queue_bounded d hd := by
    rw [spawnWith_size]
    rcases (spawnWith_names p J O d).1 hd with hd | rfl
    · exact Nat.lt_succ_of_lt (h.queue_bounded d hd)
    · exact Nat.lt_succ_self _
  fed c r hf := by
    have hf₀ := (spawnWith_feeds p J O c r).1 hf
    have hc : c ≠ w.queue.cells.size := Nat.ne_of_lt (h.lt_size_of_feeds hf₀)
    obtain ⟨hpl, hwt⟩ := h.fed c r hf₀
    refine ⟨(spawnWith_plain hc).2 hpl, fun t hpc hw => ?_⟩
    have hw₀ := (spawnWith_waits p J O t c).1 hw
    exact (spawnWith_hasRole (Nat.ne_of_lt (lt_size_of_waits hw₀)) r).2
      (hwt t ((spawnWith_pending p J O c).1 hpc) hw₀)
  relay_source c src hr := by
    have hr₀ := (spawnWith_registered p J O _ _).1 hr
    exact (spawnWith_hasDuty (Nat.ne_of_lt (h.lt_size_of_registered hr₀).2) _).2
      (h.relay_source c src hr₀)
  start_once t := by
    rw [spawnWith_ready, List.count_append]
    by_cases ht : t = w.queue.cells.size
    · subst ht
      rw [List.count_eq_zero.2 (h.start_not_mem_of_size_le (Nat.le_refl _))]
      simp
    · have : List.count (Wake.start t) [Wake.start w.queue.cells.size] = 0 :=
        List.count_eq_zero.2 (by simp [ht])
      rw [this]
      exact h.start_once t
  start_fresh t ht hpe := by
    rw [spawnWith_ready, List.mem_append, List.mem_singleton] at ht
    rw [spawnWith_point]
    rcases ht with ht | ht
    · have ht' : t < w.queue.cells.size := h.queue_bounded t (.inl ⟨_, ht, by simp⟩)
      rw [if_neg (Nat.ne_of_lt ht')]
      exact h.start_fresh t ht ((spawnWith_pending p J O t).1 hpe)
    · injection ht with ht
      rw [if_pos ht]
      exact ⟨p, rfl, hp⟩
  start_ready t q hq hr hpe hb := by
    rw [spawnWith_ready, List.mem_append, List.mem_singleton]
    rw [spawnWith_point] at hq
    split at hq
    · next ht => exact .inr (ht ▸ rfl)
    · exact .inl (h.start_ready t q hq hr ((spawnWith_pending p J O t).1 hpe) hb)
  resume_registered t d hw hpe := by
    rw [spawnWith_listeners]
    exact h.resume_registered t d ((spawnWith_waits p J O t d).1 hw) ((spawnWith_pending p J O d).1 hpe)
  resume_ready t d hw hpe := by
    rw [spawnWith_ready]
    exact List.mem_append_left _ (h.resume_ready t d ((spawnWith_waits p J O t d).1 hw)
      (fun hp' => hpe ((spawnWith_pending p J O d).2 hp')))
  notify_done l src hn hpe := by
    rw [spawnWith_ready, List.mem_append, List.mem_singleton] at hn
    rcases hn with hn | hn
    · exact h.notify_done l src hn ((spawnWith_pending p J O src).1 hpe)
    · cases hn

/-- A new task at the first point of an activity keeps the invariant: nothing names it yet, so
nothing that held of the other cells changes.  The jobs may grow at the same time, by jobs of
the new task; a new task of a job is the task of that job. -/
theorem Typed.spawn_jobs (J : Array Job) (O : List Nat)
    (hold_jobs : ∀ j < w.jobs.size, j < J.size ∧ (J.getD j default).task = (w.jobs.getD j default).task)
    (hnew_jobs : ∀ j < J.size, w.jobs.size ≤ j →
      p.duty = .job j ∧ (J.getD j default).task = w.queue.cells.size)
    (hjob : ∀ j, p.duty = .job j → j < J.size ∧ (J.getD j default).task = w.queue.cells.size)
    (hO : ∀ j ∈ O, j < J.size) :
    ({ w with queue := (w.queue.spawn p).1, jobs := J, ongoing := O } : World).Typed b :=
  { toShaped := h.shaped_spawnWith hp J O hold_jobs hnew_jobs hjob hO
    toWired := h.wired_spawnWith hp J O }

end SpawnTyped

/-- A new task at the first point of an activity other than a job keeps the invariant. -/
theorem Typed.spawn (h : w.Typed b) {p : Point} (hp : p.role = none) (hj : ∀ j, p.duty ≠ .job j) :
    ({ w with queue := (w.queue.spawn p).1 } : World).Typed b :=
  h.spawn_jobs hp w.jobs w.ongoing (fun j hj => ⟨hj, rfl⟩) (fun j hj hge => absurd hj (by omega))
    (fun j hd => absurd hd (hj j)) (fun j hj => h.ongoing_ref j hj)

/-- A new job, run by a new task, keeps the invariant; it is in flight. -/
theorem Typed.spawnJob (h : w.Typed b) (job : Job) (hjob : job.task = w.queue.cells.size) :
    ({ w with queue := (w.queue.spawn (.job w.jobs.size)).1, jobs := w.jobs.push job,
              ongoing := w.ongoing ++ [w.jobs.size] } : World).Typed b := by
  have hget : ∀ j < w.jobs.size, (w.jobs.push job).getD j default = w.jobs.getD j default := by
    intro j hj
    simp [Array.getD_eq_getD_getElem?, Array.getElem?_push, Nat.ne_of_lt hj]
  have hlast : (w.jobs.push job).getD w.jobs.size default = job := by
    simp [Array.getD_eq_getD_getElem?]
  refine h.spawn_jobs rfl _ _ (fun j hj => ⟨by simp; omega, by rw [hget j hj]⟩) ?_ ?_ ?_
  · intro j hj hge
    have hj' : j = w.jobs.size := by simp at hj; omega
    subst hj'
    exact ⟨rfl, by rw [hlast, hjob]⟩
  · intro j hd
    cases hd
    exact ⟨by simp, by rw [hlast, hjob]⟩
  · intro j hj
    rcases List.mem_append.1 hj with hj | hj
    · have := h.ongoing_ref j hj; simp; omega
    · simp at hj; subst hj; simp

/-! ## Listeners -/

/-- A listener keeps the invariant when, as a feeder, it feeds a plain cell whose waiter waits
in its role, and when only launches relay. -/
theorem Typed.listen (h : w.Typed b) {c : CellId} {l : Listener} (hc : c < w.queue.cells.size)
    (hl : l.cell < w.queue.cells.size)
    (hfeed : ∀ x r, l.feed = some (x, r) →
      w.Plain x ∧ ∀ t, w.Pending x → w.Waits t x → w.HasRole t r)
    (hrelay : ∀ x, l = .relay x → w.HasDuty c .launch) :
    ({ w with queue := w.queue.listen c l } : World).Typed b := by
  generalize hw' : ({ w with queue := w.queue.listen c l } : World) = w'
  have hq : w'.queue = w.queue.listen c l := by rw [← hw']
  have hrefs : SameRefs w' w := hw' ▸ SameRefs.of_queue w _
  have hcore : SameCore w' w := by
    constructor <;> intro d <;> rw [hq, RunQueue.cell_listen] <;> split <;> rfl
  have hsize : w'.queue.cells.size = w.queue.cells.size := by rw [hq, RunQueue.size_listen]
  have hreg : ∀ l' src, w'.queue.Registered l' src ↔
      w.queue.Registered l' src ∨ (l' = l ∧ src = c) := by
    intro l' src; rw [hq]; exact w.queue.registered_listen hc l l' src
  have hready : ∀ e, e ∈ w'.queue.ready ↔
      e ∈ w.queue.ready ∨ (w.queue.isDone c = true ∧ e = .notify l c) := by
    intro e; rw [hq, RunQueue.ready_listen]; split <;> simp [*]
  have hstarts : ∀ t, w'.queue.ready.count (.start t) = w.queue.ready.count (.start t) := by
    intro t; rw [hq, RunQueue.ready_listen]; split <;> simp
  have hlisteners : ∀ d x, x ∈ (w.queue.cell d).listeners → x ∈ (w'.queue.cell d).listeners := by
    intro d x hx; rw [hq, RunQueue.cell_listen]; split <;> simp [hx]
  have hmark : ∀ d, (w'.queue.cell d).cancelPending = (w.queue.cell d).cancelPending := by
    intro d; rw [hq, RunQueue.cell_listen]; split <;> rfl
  have hshaped : w'.Shaped b :=
    h.toShaped.of_core hcore (fun d hm _ => .inl (hmark d ▸ hm)) (hsize ▸ Nat.le_refl _) hrefs
  refine { toShaped := hshaped, toWired := ?_ }
  exact
    { queue_bounded := fun d hd => by
        rw [hq] at hd
        rw [hsize]
        rcases w.queue.names_listen c l hd with hd | rfl | rfl
        · exact h.queue_bounded d hd
        · exact hl
        · exact hc
      fed := fun x r hf => by
        have hold : w.Plain x ∧ ∀ t, w.Pending x → w.Waits t x → w.HasRole t r := by
          rcases hf with ⟨hr, hfd⟩ | ⟨hg⟩ | ⟨hg⟩
          · rcases (hreg _ _).1 hr with hr | ⟨rfl, -⟩
            · exact h.fed x r (.listener hr hfd)
            · exact hfeed x r hfd
          · exact h.fed x _ (.replyGate ((hrefs.replyGates _).1 hg))
          · exact h.fed x _ (.startGate ((hrefs.startGates _).1 hg))
        exact ⟨(hcore.plain x).2 hold.1, fun t hp hw =>
          (hcore.hasRole t r).2 (hold.2 t ((hcore.pending x).1 hp) ((hcore.waits t x).1 hw))⟩
      relay_source := fun x src hr => by
        refine (hcore.hasDuty src _).2 ?_
        rcases (hreg _ _).1 hr with hr | ⟨hx, rfl⟩
        · exact h.relay_source x src hr
        · exact hrelay x hx.symm
      start_once := fun t => hstarts t ▸ h.start_once t
      start_fresh := fun t ht hp => by
        rw [hcore.point]
        rcases (hready _).1 ht with ht | ⟨-, ht⟩
        · exact h.start_fresh t ht ((hcore.pending t).1 hp)
        · cases ht
      start_ready := fun t p hp hr hpe hb => by
        rw [hcore.point] at hp
        exact (hready _).2 (.inl (h.start_ready t p hp hr ((hcore.pending t).1 hpe) hb))
      resume_registered := fun t d hw hp =>
        hlisteners d _ (h.resume_registered t d ((hcore.waits t d).1 hw) ((hcore.pending d).1 hp))
      resume_ready := fun t d hw hp => (hready _).2 (.inl (h.resume_ready t d ((hcore.waits t d).1 hw)
        (fun hp' => hp ((hcore.pending d).2 hp'))))
      notify_done := fun l' src hn hp => by
        rw [hcore.pending] at hp
        rcases (hready _).1 hn with hn | ⟨hd, hn⟩
        · exact h.notify_done l' src hn hp
        · injection hn with hl' hs
          subst hs
          rw [pending_iff_isDone.1 hp] at hd
          cases hd }

/-! ## Results -/

/-- The world after the cell `c` gets the result `o`. -/
def withResult (w : World) (c : CellId) (o : Outcome) : World :=
  { w with queue := w.queue.finish c o }

section Finish

variable {c : CellId} (o : Outcome)

theorem withResult_size : (w.withResult c o).queue.cells.size = w.queue.cells.size :=
  RunQueue.size_finish _ _ _

theorem withResult_registered (l : Listener) (src : CellId) :
    (w.withResult c o).queue.Registered l src ↔ w.queue.Registered l src :=
  w.queue.registered_finish c o l src

theorem withResult_point (d : CellId) :
    ((w.withResult c o).queue.cell d).point = (w.queue.cell d).point :=
  RunQueue.point_finish _ _ _ _

theorem withResult_plain (d : CellId) : (w.withResult c o).Plain d ↔ w.Plain d := by
  simp [Plain, withResult_point]

theorem withResult_hasDuty (d : CellId) (du : Duty) : (w.withResult c o).HasDuty d du ↔ w.HasDuty d du := by
  simp [HasDuty, withResult_point]

theorem withResult_hasRole (t : CellId) (r : Role) : (w.withResult c o).HasRole t r ↔ w.HasRole t r := by
  simp [HasRole, withResult_point]

theorem withResult_feeds {x : CellId} {r : Role} (hf : (w.withResult c o).Feeds x r) : w.Feeds x r :=
  hf.of_views (fun _ _ => (withResult_registered o _ _).1) (fun _ => id) (fun _ => id)

variable (hpend : w.Pending c)
include hpend

theorem withResult_ready :
    (w.withResult c o).queue.ready = w.queue.ready ++ (w.queue.cell c).listeners.map (Wake.notify · c) := by
  exact RunQueue.ready_finish _ (pending_iff_isDone.1 hpend) o

variable (hc : c < w.queue.cells.size)
include hc

/-- The cell `c` is the one that changes: it gets its result and gives up its listeners. -/
theorem withResult_cell (d : CellId) :
    (w.withResult c o).queue.cell d =
      if d = c then { w.queue.cell d with result := some o, listeners := [] } else w.queue.cell d := by
  rw [withResult, RunQueue.cell_finish _ (pending_iff_isDone.1 hpend)]
  by_cases hd : d = c
  · subst hd; simp [hc]
  · simp [Ne.symm hd, hd]

theorem withResult_result (d : CellId) :
    ((w.withResult c o).queue.cell d).result = if d = c then some o else (w.queue.cell d).result := by
  rw [withResult_cell o hpend hc]; split <;> rfl

theorem withResult_waitsFor (d : CellId) :
    ((w.withResult c o).queue.cell d).waitsFor = (w.queue.cell d).waitsFor := by
  rw [withResult_cell o hpend hc]; split <;> rfl

theorem withResult_cancelPending (d : CellId) :
    ((w.withResult c o).queue.cell d).cancelPending = (w.queue.cell d).cancelPending := by
  rw [withResult_cell o hpend hc]; split <;> rfl

theorem withResult_listeners {d : CellId} (hd : d ≠ c) :
    ((w.withResult c o).queue.cell d).listeners = (w.queue.cell d).listeners := by
  rw [withResult_cell o hpend hc, if_neg hd]

theorem withResult_pending (d : CellId) : (w.withResult c o).Pending d ↔ w.Pending d ∧ d ≠ c := by
  simp only [Pending, withResult_result o hpend hc]
  split <;> simp [*]

theorem withResult_waits (t d : CellId) : (w.withResult c o).Waits t d ↔ w.Waits t d ∧ t ≠ c := by
  have hp := withResult_pending o hpend hc t
  simp only [Pending] at hp
  simp only [Waits, withResult_waitsFor o hpend hc, hp]
  constructor
  · rintro ⟨⟨h1, h2⟩, h3⟩; exact ⟨⟨h1, h3⟩, h2⟩
  · rintro ⟨⟨h1, h3⟩, h2⟩; exact ⟨⟨h1, h2⟩, h3⟩

end Finish

/-- The task whose step a result ends is no longer busy: a task other than the finished cell is
busy afterwards only if it was before. -/
theorem busy_of_finished {b b' : Option CellId} {c t : CellId} (hb : b' = b ∨ b = some c)
    (htc : t ≠ c) (hb' : b' ≠ some t) : b ≠ some t := by
  rintro rfl
  rcases hb with rfl | hb
  · exact hb' rfl
  · exact htc (Option.some.inj hb)

section FinishTyped

variable {c : CellId} {o : Outcome} (hc : c < w.queue.cells.size) (hpend : w.Pending c)
  {b' : Option CellId} (hb : b' = b ∨ b = some c)
include hc hpend hb

/-- A result for a pending cell keeps the shape of the cells when it fits the role of the cell's
waiter and, for a launch, is what a launch ends with, and when the cell is not the launch under
way. -/
theorem Shaped.withResult (h : w.Shaped b)
    (hwaiters : ∀ t r, w.Waits t c → w.HasRole t r → w.RoleResult r o)
    (hlaunch : w.HasDuty c .launch → w.LaunchOutcome o) (hnot : w.life.launch ≠ some c) :
    (w.withResult c o).Shaped b' where
  world_bounded d hd := by
    rw [withResult_size]
    exact h.world_bounded d hd
  target t d hw := by
    obtain ⟨r, hr, ht⟩ := h.target t d ((withResult_waits o hpend hc t d).1 hw).1
    exact ⟨r, (withResult_hasRole o t r).2 hr, Target.of_views (SameRefs.of_queue w _)
      (withResult_plain o d).2 (fun du => (withResult_hasDuty o d du).2) ht⟩
  waiting t r hr hp hb' := by
    obtain ⟨hp₀, htc⟩ := (withResult_pending o hpend hc t).1 hp
    rw [withResult_waitsFor o hpend hc]
    exact h.waiting t r ((withResult_hasRole o t r).1 hr) hp₀ (busy_of_finished hb htc hb')
  alone t t' d hd hw hw' :=
    h.alone t t' d ((withResult_plain o d).1 hd) ((withResult_waits o hpend hc t d).1 hw).1
      ((withResult_waits o hpend hc t' d).1 hw').1
  woken t d r o' hw hr ho := by
    obtain ⟨hw₀, -⟩ := (withResult_waits o hpend hc t d).1 hw
    rw [withResult_result o hpend hc] at ho
    split at ho
    · -- the waiter of the finished cell is woken with its result
      next hd =>
      subst hd
      cases ho
      exact hwaiters t r hw₀ ((withResult_hasRole o t r).1 hr)
    · exact h.woken t d r o' hw₀ ((withResult_hasRole o t r).1 hr) ho
  launch_result x o' hx ho := by
    rw [withResult_result o hpend hc] at ho
    split at ho
    · next hxc =>
      subst hxc
      cases ho
      exact hlaunch ((withResult_hasDuty o x _).1 hx)
    · exact h.launch_result x o' ((withResult_hasDuty o x _).1 hx) ho
  cancellable t hm hp := by
    rw [withResult_cancelPending o hpend hc] at hm
    obtain ⟨d, hd, hcan⟩ := h.cancellable t hm ((withResult_pending o hpend hc t).1 hp).1
    exact ⟨d, (withResult_hasDuty o t d).2 hd, hcan⟩
  launch_ref x hx := by
    obtain ⟨hd, hp⟩ := h.launch_ref x hx
    refine ⟨(withResult_hasDuty o x _).2 hd, (withResult_pending o hpend hc x).2 ⟨hp, ?_⟩⟩
    rintro rfl
    exact hnot hx
  heartbeat_ref x hx := by
    obtain ⟨s, hs⟩ := h.heartbeat_ref x hx
    exact ⟨s, (withResult_hasDuty o x _).2 hs⟩
  job_ref j hj := (withResult_hasDuty o _ _).2 (h.job_ref j hj)
  job_unique t j ht := h.job_unique t j ((withResult_hasDuty o t _).1 ht)
  background_ref t ht :=
    (h.background_ref t ht).imp (withResult_hasDuty o t _).2 (withResult_hasDuty o t _).2
  ongoing_ref j hj := h.ongoing_ref j hj
  start_server x prev s hx := h.start_server x prev s (by rwa [withResult_point] at hx)

/-- A result for a pending cell keeps the listeners and the queue of entries: the cell's
listeners move to the queue. -/
theorem Wired.withResult (h : w.Wired b) : (w.withResult c o).Wired b' where
  queue_bounded d hd := by
    rw [withResult_size]
    rcases w.queue.names_finish c o hd with hd | rfl
    · exact h.queue_bounded d hd
    · exact hc
  fed x r hf := by
    obtain ⟨hp, hw⟩ := h.fed x r (withResult_feeds o hf)
    exact ⟨(withResult_plain o x).2 hp, fun t hpx hwt =>
      (withResult_hasRole o t r).2
        (hw t ((withResult_pending o hpend hc x).1 hpx).1 ((withResult_waits o hpend hc t x).1 hwt).1)⟩
  relay_source x src hr :=
    (withResult_hasDuty o src _).2 (h.relay_source x src ((withResult_registered o _ _).1 hr))
  start_once t := by
    rw [withResult_ready o hpend, List.count_append]
    have : List.count (Wake.start t) ((w.queue.cell c).listeners.map (Wake.notify · c)) = 0 :=
      List.count_eq_zero.2 (by simp)
    rw [this]
    exact h.start_once t
  start_fresh t ht hp := by
    rw [withResult_ready o hpend, List.mem_append] at ht
    rcases ht with ht | ht
    · rw [withResult_point]
      exact h.start_fresh t ht ((withResult_pending o hpend hc t).1 hp).1
    · simp at ht
  start_ready t p hp hr hpe hb' := by
    rw [withResult_point] at hp
    obtain ⟨hpe₀, htc⟩ := (withResult_pending o hpend hc t).1 hpe
    rw [withResult_ready o hpend]
    exact List.mem_append_left _ (h.start_ready t p hp hr hpe₀ (busy_of_finished hb htc hb'))
  resume_registered t d hw hp := by
    obtain ⟨hpd, hdc⟩ := (withResult_pending o hpend hc d).1 hp
    rw [withResult_listeners o hpend hc hdc]
    exact h.resume_registered t d ((withResult_waits o hpend hc t d).1 hw).1 hpd
  resume_ready t d hw hp := by
    obtain ⟨hw₀, -⟩ := (withResult_waits o hpend hc t d).1 hw
    rw [withResult_ready o hpend, List.mem_append]
    by_cases hdc : d = c
    · -- the waiter of the finished cell listened to it, and is queued with its listeners
      subst hdc
      exact .inr (List.mem_map.2 ⟨_, h.resume_registered t d hw₀ hpend, rfl⟩)
    · exact .inl (h.resume_ready t d hw₀ (fun hpd => hp ((withResult_pending o hpend hc d).2 ⟨hpd, hdc⟩)))
  notify_done l src hn hp := by
    rw [withResult_ready o hpend, List.mem_append] at hn
    rcases hn with hn | hn
    · exact h.notify_done l src hn ((withResult_pending o hpend hc src).1 hp).1
    · obtain ⟨l', -, he⟩ := List.mem_map.1 hn
      injection he with hl hs
      exact ((withResult_pending o hpend hc src).1 hp).2 hs.symm

end FinishTyped

/-- A result for a pending cell keeps the invariant when it fits the role of the cell's waiter
and, for a launch, is what a launch ends with, and when the cell is not the launch under way.
The task whose step it ends is no longer busy. -/
theorem Typed.finish (h : w.Typed b) {c : CellId} {o : Outcome} (hc : c < w.queue.cells.size)
    (hpend : w.Pending c)
    (hwaiters : ∀ t r, w.Waits t c → w.HasRole t r → w.RoleResult r o)
    (hlaunch : w.HasDuty c .launch → w.LaunchOutcome o) (hnot : w.life.launch ≠ some c)
    {b' : Option CellId} (hb : b' = b ∨ b = some c) :
    ({ w with queue := w.queue.finish c o } : World).Typed b' :=
  { toShaped := h.toShaped.withResult hc hpend hb hwaiters hlaunch hnot
    toWired := h.toWired.withResult hc hpend hb }

/-! ## Cancellation -/

/-- Marking a task of a cancellable duty for cancellation keeps the invariant. -/
theorem Typed.mark (h : w.Typed b) {t : CellId} {du : Duty} (hd : w.HasDuty t du)
    (hcan : du.Cancellable) :
    ({ w with queue := w.queue.modifyCell t fun cell => { cell with cancelPending := true } } :
      World).Typed b := by
  generalize hw' : ({ w with queue := w.queue.modifyCell t fun cell =>
    { cell with cancelPending := true } } : World) = w'
  have hq : w'.queue = w.queue.modifyCell t fun cell => { cell with cancelPending := true } := by
    rw [← hw']
  have hrefs : SameRefs w' w := hw' ▸ SameRefs.of_queue w _
  have hsize : w'.queue.cells.size = w.queue.cells.size := by rw [hq]; simp
  have hcell : ∀ c, w'.queue.cell c =
      if t = c ∧ c < w.queue.cells.size then { w.queue.cell c with cancelPending := true }
      else w.queue.cell c := by
    intro c; rw [hq, RunQueue.cell_modifyCell]
  have hcore : SameCore w' w := by
    constructor <;> intro c <;> rw [hcell] <;> split <;> rfl
  have hl : ∀ c, (w'.queue.cell c).listeners = (w.queue.cell c).listeners := by
    intro c; rw [hcell]; split <;> rfl
  have hmark : ∀ c, (w'.queue.cell c).cancelPending = true → w.Pending c →
      (w.queue.cell c).cancelPending = true ∨ ∃ du, w.HasDuty c du ∧ du.Cancellable := by
    intro c hc _
    rw [hcell] at hc
    split at hc
    · rename_i htc
      obtain ⟨rfl, -⟩ := htc
      exact .inr ⟨du, hd, hcan⟩
    · exact .inl hc
  have hready : w'.queue.ready = w.queue.ready := by rw [hq]; rfl
  exact
    { toShaped := h.toShaped.of_core hcore hmark (hsize ▸ Nat.le_refl _) hrefs
      toWired := h.toWired.of_wiring hcore hl hready (hsize ▸ Nat.le_refl _) hrefs.replyGates
        hrefs.startGates }

/-- A task of a cancellable duty waits only for a shield, a reply gate or a sleep cell. -/
theorem role_of_cancellable {p : Point} {r : Role} (hcan : p.duty.Cancellable) (hr : p.role = some r) :
    r = .shield ∨ r = .replyGate ∨ r = .sleep := by
  cases p <;> simp only [Point.duty, Point.role, Duty.Cancellable, Option.some.injEq,
    reduceCtorEq] at hcan hr <;> first | exact hcan.elim | contradiction | (subst hr; simp)

/-- Cancelling a task of a cancellable duty keeps the invariant: the task is marked, or the plain
cell it waits for is cancelled, which fits that cell's role. -/
theorem Typed.cancelTask (h : w.Typed b) {t : CellId} {du : Duty} (hd : w.HasDuty t du)
    (hcan : du.Cancellable) : ({ w with queue := w.queue.cancelTask t } : World).Typed b := by
  obtain ⟨p, hp, rfl⟩ := hd
  have ht : t < w.queue.cells.size := lt_size_of_point hp
  cases hdone : w.queue.isDone t
  case true =>
    rw [w.queue.cancelTask_of_isDone hdone]
    exact h.of_views (fun _ => rfl) rfl (Nat.le_refl _) (SameRefs.of_queue w _)
  case false =>
    have htask : (w.queue.cell t).point.isSome := by simp [hp]
    have hpt : w.Pending t := pending_iff_isDone.2 hdone
    cases hwt : (w.queue.cell t).waitsFor with
    | none =>
      rw [w.queue.cancelTask_of_idle hdone htask hwt]
      exact h.mark ⟨p, hp, rfl⟩ hcan
    | some d =>
      have hw : w.Waits t d := ⟨hpt, hwt⟩
      obtain ⟨r, hr, htg⟩ := h.target t d hw
      replace hr := hr.eq_of_point hp
      have hplain : w.Plain d := by
        rcases role_of_cancellable hcan hr with rfl | rfl | rfl <;> exact htg
      cases hdd : w.queue.isDone d
      case true =>
        rw [w.queue.cancelTask_of_woken hdone htask hwt hdd]
        exact h.mark ⟨p, hp, rfl⟩ hcan
      case false =>
        rw [w.queue.cancelTask_of_waiting hdone htask hwt hdd hplain]
        have hpd : w.Pending d := pending_iff_isDone.2 hdd
        refine h.finish (h.lt_size_of_waits_target hw) hpd ?_ ?_ ?_ (.inl rfl)
        · -- the one waiter of the cell is the task, which waits in a plain role
          intro t' r' hw' hr'
          obtain rfl := h.alone t' t d hplain hw' hw
          obtain rfl : r = r' := Option.some.inj (hr.symm.trans (hr'.eq_of_point hp))
          rcases role_of_cancellable hcan hr with rfl | rfl | rfl <;> simp [RoleResult]
        · rintro ⟨p'', hp'', -⟩
          simp [Plain, hp''] at hplain
        · intro hl
          obtain ⟨⟨p'', hp'', -⟩, -⟩ := h.launch_ref d hl
          simp [Plain, hp''] at hplain

/-! ## The end of a step -/

/-- A task's waiters wait for it as a job's or a heartbeat's task, whatever it ends with. -/
theorem Typed.roleResult_of_task (h : w.Typed b) {t t' : CellId} {r : Role} (o : Outcome)
    (ht : (w.queue.cell t).point.isSome) (hw : w.Waits t' t) (hr : w.HasRole t' r) :
    w.RoleResult r o := by
  obtain ⟨r', hr', htg⟩ := h.target t' t hw
  obtain rfl := hr.unique hr'
  cases r <;> simp_all [Target, Plain, RoleResult]

/-- A step that ends its task with an outcome keeps the invariant, with no task busy, when a
launch ends as launches do and is no longer the launch under way. -/
theorem Typed.advance_done (h : w.Typed (some t)) {o : Outcome} (hpend : w.Pending t)
    {p : Point} (hp : (w.queue.cell t).point = some p)
    (hlaunch : p.duty = .launch → w.LaunchOutcome o ∧ w.life.launch ≠ some t) :
    ({ w with queue := w.queue.finish t o } : World).Typed none := by
  have htask : (w.queue.cell t).point.isSome := by simp [hp]
  have hnot : w.life.launch ≠ some t := by
    intro hl
    exact (hlaunch ((h.launch_ref t hl).1.eq_of_point hp)).2 hl
  refine h.finish (lt_size_of_point hp) hpend (fun t' r hw hr => h.roleResult_of_task o htask hw hr)
    (fun hd => (hlaunch (hd.eq_of_point hp)).1) hnot (.inr rfl)

/-- The world after the task `t` is set to wait for `c` at `next` and listens to `c`. -/
def waitOn (w : World) (t c : CellId) (next : Point) : World :=
  { w with queue := (w.queue.modifyCell t fun cell =>
      { cell with point := some next, waitsFor := some c }).listen c (.resume t) }

section WaitOn

variable {c : CellId} (next : Point)

theorem waitOn_size : (w.waitOn t c next).queue.cells.size = w.queue.cells.size := by
  simp [waitOn, RunQueue.size_listen]

variable (ht : t < w.queue.cells.size) (hct : c ≠ t) (hc : c < w.queue.cells.size)
include ht hct hc

theorem waitOn_cell (d : CellId) :
    (w.waitOn t c next).queue.cell d =
      if w.queue.isDone c = false ∧ c = d then
        { w.queue.cell d with listeners := (w.queue.cell d).listeners ++ [.resume t] }
      else if d = t then { w.queue.cell d with point := some next, waitsFor := some c }
      else w.queue.cell d := by
  have hdone : (w.queue.modifyCell t fun cell =>
      { cell with point := some next, waitsFor := some c }).isDone c = w.queue.isDone c := by
    simp [RunQueue.isDone_def, RunQueue.cell_modifyCell, Ne.symm hct]
  simp only [waitOn, RunQueue.cell_listen, hdone, RunQueue.size_modifyCell, RunQueue.cell_modifyCell]
  by_cases hcd : c = d
  · subst hcd
    by_cases hdc : w.queue.isDone c = false
    · simp [hdc, Ne.symm hct, hc]
    · simp [hdc, hct, Ne.symm hct]
  · by_cases hdt : d = t
    · subst hdt; simp [hcd, ht]
    · simp [hcd, hdt, Ne.symm hdt]

theorem waitOn_result (d : CellId) :
    ((w.waitOn t c next).queue.cell d).result = (w.queue.cell d).result := by
  rw [waitOn_cell next ht hct hc]; split <;> (try split) <;> rfl

theorem waitOn_point (d : CellId) :
    ((w.waitOn t c next).queue.cell d).point =
      if d = t then some next else (w.queue.cell d).point := by
  rw [waitOn_cell next ht hct hc]
  split
  · rename_i hcd; obtain ⟨-, rfl⟩ := hcd; simp [hct]
  · split <;> rfl

theorem waitOn_waitsFor (d : CellId) :
    ((w.waitOn t c next).queue.cell d).waitsFor =
      if d = t then some c else (w.queue.cell d).waitsFor := by
  rw [waitOn_cell next ht hct hc]
  split
  · rename_i hcd; obtain ⟨-, rfl⟩ := hcd; simp [hct]
  · split <;> rfl

theorem waitOn_cancelPending (d : CellId) :
    ((w.waitOn t c next).queue.cell d).cancelPending = (w.queue.cell d).cancelPending := by
  rw [waitOn_cell next ht hct hc]; split <;> (try split) <;> rfl

theorem waitOn_listeners (d : CellId) :
    ((w.waitOn t c next).queue.cell d).listeners =
      if w.queue.isDone c = false ∧ c = d then (w.queue.cell d).listeners ++ [.resume t]
      else (w.queue.cell d).listeners := by
  rw [waitOn_cell next ht hct hc]; split <;> (try split) <;> rfl

omit ht hc in
variable (w) in
theorem waitOn_ready :
    (w.waitOn t c next).queue.ready =
      if w.queue.isDone c then w.queue.ready ++ [.notify (.resume t) c] else w.queue.ready := by
  have hdone : (w.queue.modifyCell t fun cell =>
      { cell with point := some next, waitsFor := some c }).isDone c = w.queue.isDone c := by
    simp [RunQueue.isDone_def, RunQueue.cell_modifyCell, Ne.symm hct]
  simp only [waitOn, RunQueue.ready_listen, hdone, RunQueue.ready_modifyCell]

omit ht hct in
variable (t) in
theorem waitOn_registered (l : Listener) (src : CellId) :
    (w.waitOn t c next).queue.Registered l src ↔
      w.queue.Registered l src ∨ (l = .resume t ∧ src = c) := by
  simp only [waitOn]
  rw [RunQueue.registered_listen _ (by simpa using hc),
    w.queue.registered_modifyCell t (fun cell => { cell with point := some next, waitsFor := some c })
      (fun _ => rfl)]

theorem waitOn_names {d : CellId} (hd : (w.waitOn t c next).queue.Names d) :
    w.queue.Names d ∨ d = t ∨ d = c := by
  simp only [waitOn] at hd
  rcases RunQueue.names_listen _ c _ hd with hd | rfl | rfl
  · rcases w.queue.names_modifyCell_wait t
      (fun cell => { cell with point := some next, waitsFor := some c }) (fun _ => rfl) (fun _ => rfl)
      hd with hd | rfl
    · exact .inl hd
    · exact .inr (.inr rfl)
  · exact .inr (.inl rfl)
  · exact .inr (.inr rfl)

theorem waitOn_pending (d : CellId) : (w.waitOn t c next).Pending d ↔ w.Pending d := by
  simp [Pending, waitOn_result next ht hct hc]

theorem waitOn_plain {p : Point} (hp : (w.queue.cell t).point = some p) (d : CellId) :
    (w.waitOn t c next).Plain d ↔ w.Plain d := by
  simp only [Plain, waitOn_point next ht hct hc]
  split
  · subst_vars; simp [hp]
  · rfl

theorem waitOn_hasDuty {p : Point} (hp : (w.queue.cell t).point = some p)
    (hduty : next.duty = p.duty) (d : CellId) (du : Duty) :
    (w.waitOn t c next).HasDuty d du ↔ w.HasDuty d du := by
  simp only [HasDuty, waitOn_point next ht hct hc]
  split
  · subst_vars; simp [hp, hduty]
  · rfl

theorem waitOn_waits (hpend : w.Pending t) (x d : CellId) :
    (w.waitOn t c next).Waits x d ↔ if x = t then d = c else w.Waits x d := by
  simp only [Waits, waitOn_result next ht hct hc, waitOn_waitsFor next ht hct hc]
  split
  · subst_vars; simp only [Pending] at hpend; simp [hpend, eq_comm]
  · rfl

theorem waitOn_hasRole (x : CellId) (r : Role) :
    (w.waitOn t c next).HasRole x r ↔ if x = t then next.role = some r else w.HasRole x r := by
  simp only [HasRole, waitOn_point next ht hct hc]
  split <;> simp

end WaitOn

theorem SameRefs.waitOn (w : World) (t c : CellId) (next : Point) : SameRefs (w.waitOn t c next) w :=
  SameRefs.of_queue w _

section Advance

variable {c : CellId} {p next : Point} {r : Role}
  (hpend : w.Pending t) (hp : (w.queue.cell t).point = some p)
  (hidle : (w.queue.cell t).waitsFor = none) (hrole : next.role = some r)
  (hduty : next.duty = p.duty) (htarget : w.Target r c) (hc : c < w.queue.cells.size) (hct : c ≠ t)

include hpend hp hidle hrole hduty htarget hc hct

/-- The shape of the cells after a task is set to wait: see `Typed.advance_wait`. -/
theorem Shaped.waitOn (h : w.Shaped (some t)) (halone : w.Plain c → ∀ t', ¬ w.Waits t' c)
    (hres : ∀ o, (w.queue.cell c).result = some o → w.RoleResult r o)
    (hsrv : ∀ prev s, next = .launchAwaitingStart prev s → s < w.servers.size) :
    (w.waitOn t c next).Shaped none := by
  have ht : t < w.queue.cells.size := lt_size_of_point hp
  have hpoint := waitOn_point next ht hct hc
  have hsize : (w.waitOn t c next).queue.cells.size = w.queue.cells.size := waitOn_size next
  have hresult := waitOn_result next ht hct hc
  have hwaitsFor := waitOn_waitsFor next ht hct hc
  have hcancel := waitOn_cancelPending next ht hct hc
  have hpend' := waitOn_pending next ht hct hc
  have hduty' := waitOn_hasDuty next ht hct hc hp hduty
  have hplain' := waitOn_plain next ht hct hc hp
  have hwaits' := waitOn_waits next ht hct hc hpend
  have hrole' := waitOn_hasRole next ht hct hc
  have hrefs := SameRefs.waitOn w t c next
  -- from here on the new world is seen only through the lemmas above
  generalize w.waitOn t c next = w' at *
  have htarget' : ∀ r' d, w.Target r' d → w'.Target r' d := fun r' d =>
    Target.of_views hrefs (hplain' d).2 (fun du => (hduty' d du).2)
  refine
    { world_bounded := fun d hd => hsize ▸ h.world_bounded d (hrefs.names d hd)
      target := ?target
      waiting := ?waiting
      alone := ?alone
      woken := ?woken
      launch_result := fun x o hx ho => hrefs.launchOutcome
        (h.launch_result x o ((hduty' x _).1 hx) (by rwa [hresult] at ho))
      cancellable := fun x hm hpe => by
        rw [hcancel] at hm
        obtain ⟨du, hd, hcan⟩ := h.cancellable x hm ((hpend' x).1 hpe)
        exact ⟨du, (hduty' x du).2 hd, hcan⟩
      launch_ref := fun x hx => by
        obtain ⟨hd, hpe⟩ := h.launch_ref x (hrefs.launch ▸ hx)
        exact ⟨(hduty' x _).2 hd, (hpend' x).2 hpe⟩
      heartbeat_ref := fun x hx => by
        obtain ⟨s, hs⟩ := h.heartbeat_ref x (hrefs.heartbeat ▸ hx)
        exact ⟨s, (hduty' x _).2 hs⟩
      job_ref := fun j hj => by
        rw [hrefs.jobs_size] at hj
        rw [hrefs.task]
        exact (hduty' _ _).2 (h.job_ref j hj)
      job_unique := fun x j hx => by
        rw [hrefs.jobs_size, hrefs.task]
        exact h.job_unique x j ((hduty' x _).1 hx)
      background_ref := fun x hx => (h.background_ref x (hrefs.background x hx)).imp
        (hduty' x _).2 (hduty' x _).2
      ongoing_ref := fun j hj => hrefs.jobs_size ▸ h.ongoing_ref j (hrefs.ongoing j hj)
      start_server := ?start_server }
  case start_server =>
    intro x prev s hx
    rw [hpoint] at hx
    refine Nat.lt_of_lt_of_le ?_ hrefs.servers_size
    split at hx
    · exact hsrv prev s (Option.some.inj hx)
    · exact h.start_server x prev s hx
  case target =>
    intro x d hw
    rw [hwaits'] at hw
    split at hw
    · subst_vars
      exact ⟨r, (hrole' _ r).2 (by simp [hrole]), htarget' r _ htarget⟩
    · obtain ⟨r', hr', htg⟩ := h.target x d hw
      exact ⟨r', (hrole' x r').2 (by simp [*]), htarget' r' d htg⟩
  case waiting =>
    intro x r' hr hpe _
    rw [hwaitsFor]
    split
    · simp
    · rename_i hxt
      rw [hrole', if_neg hxt] at hr
      exact h.waiting x r' hr ((hpend' x).1 hpe) (fun hb' => hxt (Option.some.inj hb').symm)
  case alone =>
    intro x x' d hd hw hw'
    rw [hplain'] at hd
    rw [hwaits'] at hw hw'
    split at hw <;> split at hw'
    · subst_vars; rfl
    · subst_vars; exact absurd hw' (halone hd x')
    · subst_vars; exact absurd hw (halone hd x)
    · exact h.alone x x' d hd hw hw'
  case woken =>
    intro x d r' o hw hr ho
    rw [hresult] at ho
    rw [hwaits'] at hw
    rw [hrole'] at hr
    split at hw
    · subst_vars
      rw [if_pos rfl, hrole] at hr
      injection hr with hr
      subst hr
      exact hrefs.roleResult (hres o ho)
    · rename_i hxt
      rw [if_neg hxt] at hr
      exact hrefs.roleResult (h.woken x d r' o hw hr ho)

/-- The wiring after a task is set to wait: see `Typed.advance_wait`. -/
theorem Wired.waitOn (h : w.Wired (some t)) (hstart : Wake.start t ∉ w.queue.ready)
    (hfed : ∀ r', w.Feeds c r' → r' = r) : (w.waitOn t c next).Wired none := by
  have ht : t < w.queue.cells.size := lt_size_of_point hp
  have hsize : (w.waitOn t c next).queue.cells.size = w.queue.cells.size := waitOn_size next
  have hnames : ∀ d, (w.waitOn t c next).queue.Names d → w.queue.Names d ∨ d = t ∨ d = c :=
    fun _ hd => waitOn_names next ht hct hc hd
  have hpoint := waitOn_point next ht hct hc
  have hlisteners := waitOn_listeners next ht hct hc
  have hpend' := waitOn_pending next ht hct hc
  have hduty' := waitOn_hasDuty next ht hct hc hp hduty
  have hplain' := waitOn_plain next ht hct hc hp
  have hwaits' := waitOn_waits next ht hct hc hpend
  have hrole' := waitOn_hasRole next ht hct hc
  have hready := waitOn_ready w next hct
  have hreg := waitOn_registered t next hc
  have hrefs := SameRefs.waitOn w t c next
  -- from here on the new world is seen only through the lemmas above
  generalize w.waitOn t c next = w' at *
  have hfeeds : ∀ x r', w'.Feeds x r' → w.Feeds x r' := by
    rintro x r' (⟨hr, hfd⟩ | ⟨hg⟩ | ⟨hg⟩)
    · rcases (hreg _ _).1 hr with hr | ⟨rfl, -⟩
      · exact .listener hr hfd
      · simp [Listener.feed] at hfd
    · exact .replyGate ((hrefs.replyGates _).1 hg)
    · exact .startGate ((hrefs.startGates _).1 hg)
  have hkeep : ∀ e, e ∈ w.queue.ready → e ∈ w'.queue.ready := by
    intro e he; rw [hready]; split
    · exact List.mem_append_left _ he
    · exact he
  refine
    { queue_bounded := fun d hd => by
        rw [hsize]
        rcases hnames d hd with hd | rfl | rfl
        · exact h.queue_bounded d hd
        · exact ht
        · exact hc
      fed := ?fed
      relay_source := fun x src hr => by
        refine (hduty' src _).2 ?_
        rcases (hreg _ _).1 hr with hr | ⟨hl, -⟩
        · exact h.relay_source x src hr
        · cases hl
      start_once := ?start_once
      start_fresh := ?start_fresh
      start_ready := ?start_ready
      resume_registered := ?resume_registered
      resume_ready := ?resume_ready
      notify_done := ?notify_done }
  case fed =>
    intro x r' hf
    have hf₀ := hfeeds x r' hf
    obtain ⟨hpl, hw⟩ := h.fed x r' hf₀
    refine ⟨(hplain' x).2 hpl, fun y hpx hwy => ?_⟩
    rw [hwaits'] at hwy
    rw [hrole']
    split at hwy
    · subst_vars
      rw [if_pos rfl, hrole, hfed r' hf₀]
    · rename_i hyt
      rw [if_neg hyt]
      exact hw y ((hpend' x).1 hpx) hwy
  case start_once =>
    intro x
    rw [hready]
    split
    · rw [List.count_append]
      have : List.count (Wake.start x) [Wake.notify (.resume t) c] = 0 :=
        List.count_eq_zero.2 (by simp)
      rw [this]
      exact h.start_once x
    · exact h.start_once x
  case start_fresh =>
    intro x hx hpe
    have hx' : Wake.start x ∈ w.queue.ready := by
      rw [hready] at hx
      split at hx
      · simpa using hx
      · exact hx
    have hxt : x ≠ t := by rintro rfl; exact hstart hx'
    rw [hpoint, if_neg hxt]
    exact h.start_fresh x hx' ((hpend' x).1 hpe)
  case start_ready =>
    intro x q hq hr hpe _
    rw [hpoint] at hq
    split at hq
    · injection hq with hq
      subst hq
      rw [hrole] at hr
      cases hr
    · rename_i hxt
      exact hkeep _ (h.start_ready x q hq hr ((hpend' x).1 hpe)
        (fun hb' => hxt (Option.some.inj hb').symm))
  case resume_registered =>
    intro x d hw hpe
    rw [hlisteners]
    rw [hwaits'] at hw
    split at hw
    · subst_vars
      have hdone : w.queue.isDone d = false := by
        rw [hpend'] at hpe
        exact pending_iff_isDone.1 hpe
      simp [hdone]
    · have := h.resume_registered x d hw ((hpend' d).1 hpe)
      split
      · exact List.mem_append_left _ this
      · exact this
  case resume_ready =>
    intro x d hw hpe
    rw [hwaits'] at hw
    split at hw
    · subst_vars
      have hdone : w.queue.isDone d = true := by
        rw [hpend'] at hpe
        simp only [Pending] at hpe
        simpa [RunQueue.isDone_def, Option.isSome_iff_ne_none] using hpe
      rw [hready]
      simp [hdone]
    · exact hkeep _ (h.resume_ready x d hw (fun hpd => hpe ((hpend' d).2 hpd)))
  case notify_done =>
    intro l src hn hpe
    rw [hpend'] at hpe
    rw [hready] at hn
    split at hn
    · rename_i hdone
      rcases List.mem_append.1 hn with hn | hn
      · exact h.notify_done l src hn hpe
      · simp only [List.mem_singleton, Wake.notify.injEq] at hn
        obtain ⟨-, rfl⟩ := hn
        simp [RunQueue.isDone_def, Option.isSome_iff_ne_none] at hdone
        exact hdone hpe
    · exact h.notify_done l src hn hpe

/-- A step that leaves its task waiting for `c` at `next` keeps the invariant, with no task
busy, when `next` waits in a role whose target `c` is, of the same duty, and `c` is a plain
cell no one else waits for, fed only in that role and holding, if anything, a result that
fits it. -/
theorem Typed.advance_wait (h : w.Typed (some t)) (hstart : Wake.start t ∉ w.queue.ready)
    (halone : w.Plain c → ∀ t', ¬ w.Waits t' c) (hfed : ∀ r', w.Feeds c r' → r' = r)
    (hres : ∀ o, (w.queue.cell c).result = some o → w.RoleResult r o)
    (hsrv : ∀ prev s, next = .launchAwaitingStart prev s → s < w.servers.size) :
    (w.waitOn t c next).Typed none :=
  { toShaped := h.toShaped.waitOn hpend hp hidle hrole hduty htarget hc hct halone hres hsrv
    toWired := h.toWired.waitOn hpend hp hidle hrole hduty htarget hc hct hstart hfed }

end Advance

/-! ## The start of a step -/

/-- The task `t` is in the middle of its step from `p`, begun in the world `w₀`: pending at `p`,
waiting for nothing and not queued to start again; what it has done so far keeps what a step
keeps of the queue it began with, every task it started is of a duty its own may start, and it
has only added to the log of received requests, each of them one a task of its duty sends
(`Duty.Sends`); and it has kept the frame of the cells it began with (`Frame`), making a
new server current only as a launch's first step. -/
structure Busy (w w₀ : World) (t : CellId) (p : Point) : Prop where
  pending : w.Pending t
  point : (w.queue.cell t).point = some p
  idle : (w.queue.cell t).waitsFor = none
  unqueued : Wake.start t ∉ w.queue.ready
  keeps : RunQueue.Keeps t w₀.queue w.queue
  spawned : ∀ d p', w₀.queue.cells.size ≤ d → (w.queue.cell d).point = some p' → p.duty.Spawns p'.duty
  log : ∃ new, w.received = w₀.received ++ new ∧ ∀ s r, (s, r) ∈ new → p.duty.Sends s r
  frame : Frame w₀.queue.cells.size (p = .launch) w₀ w

/-- The invariant with the task `t` in the middle of its step from `p`, begun in `w₀`. -/
structure Running (w w₀ : World) (t : CellId) (p : Point) : Prop extends w.Typed (some t),
    w.Busy w₀ t p

/-- The clauses suspended for a busy task hold of every task while none is busy. -/
theorem Typed.relax (h : w.Typed b) {b' : Option CellId} (hb : ∀ x, b' ≠ some x → b ≠ some x) :
    w.Typed b' :=
  { h with
    waiting := fun x r hr hp hx => h.waiting x r hr hp (hb x hx)
    start_ready := fun x p hp hr hpe hx => h.start_ready x p hp hr hpe (hb x hx) }

/-- A task that has its result needs no exemption. -/
theorem Typed.unbusy (h : w.Typed (some t)) (ht : ¬ w.Pending t) : w.Typed none :=
  have hne : ∀ x, w.Pending x → some t ≠ some x := fun _ hx htx =>
    ht (Option.some.inj htx ▸ hx)
  { h with
    waiting := fun x r hr hp _ => h.waiting x r hr hp (hne x hp)
    start_ready := fun x p hp hr hpe _ => h.start_ready x p hp hr hpe (hne x hpe) }

/-- Taking the first entry off the queue keeps the invariant when that entry is needed no more:
it starts the task that becomes busy, or it is a notice that wakes no waiting task. -/
theorem Typed.dequeue (h : w.Typed b) {e : Wake} {q : RunQueue Point}
    (hpop : w.queue.pop? = some (e, q)) {b' : Option CellId} (hb : ∀ x, b' ≠ some x → b ≠ some x)
    (hstart : ∀ x, e = .start x → b' = some x)
    (hresume : ∀ x d, e = .notify (.resume x) d → ¬ w.Waits x d) :
    ({ w with queue := q } : World).Typed b' := by
  obtain ⟨hready, hcells⟩ := RunQueue.pop?_eq_some hpop
  have hh := h.relax hb
  generalize hw' : ({ w with queue := q } : World) = w'
  have hq : w'.queue = q := by rw [← hw']
  have hrefs : SameRefs w' w := hw' ▸ SameRefs.of_queue w q
  have hcell : ∀ d, w'.queue.cell d = w.queue.cell d := fun d => by
    simp [RunQueue.cell, hq, hcells]
  have hcore : SameCore w' w := .of_cell hcell
  have hsize : w'.queue.cells.size = w.queue.cells.size := by rw [hq, hcells]
  have hready' : w.queue.ready = e :: w'.queue.ready := by rw [hready, hq]
  have hmem : ∀ e', e' ∈ w'.queue.ready → e' ∈ w.queue.ready := fun e' he =>
    hready' ▸ List.mem_cons_of_mem e he
  have hreg : ∀ l src, w'.queue.Registered l src → w.queue.Registered l src := by
    rintro l src (hl | hn)
    · exact .inl (hcell src ▸ hl)
    · exact .inr (hmem _ hn)
  have hfeeds : ∀ c r, w'.Feeds c r → w.Feeds c r := by
    rintro c r (⟨hr, hf⟩ | ⟨hg⟩ | ⟨hg⟩)
    · exact .listener (hreg _ _ hr) hf
    · exact .replyGate ((hrefs.replyGates _).1 hg)
    · exact .startGate ((hrefs.startGates _).1 hg)
  refine
    { toShaped := hh.toShaped.of_core hcore (fun d hm _ => .inl (by rwa [hcell] at hm))
        (hsize ▸ Nat.le_refl _) hrefs
      toWired := ?_ }
  exact
    { queue_bounded := fun d hd => hsize ▸ h.queue_bounded d (w.queue.names_of_pop? hpop (hq ▸ hd))
      fed := fun c r hf => by
        obtain ⟨hp, hw⟩ := h.fed c r (hfeeds c r hf)
        exact ⟨(hcore.plain c).2 hp, fun x hpc hwx =>
          (hcore.hasRole x r).2 (hw x ((hcore.pending c).1 hpc) ((hcore.waits x c).1 hwx))⟩
      relay_source := fun c src hr => (hcore.hasDuty src _).2 (h.relay_source c src (hreg _ _ hr))
      start_once := fun x => by
        have := h.start_once x
        rw [hready', List.count_cons] at this
        omega
      start_fresh := fun x hx hp => by
        rw [hcore.point]; exact h.start_fresh x (hmem _ hx) ((hcore.pending x).1 hp)
      start_ready := fun x p hp hr hpe hx => by
        rw [hcore.point] at hp
        have hin := h.start_ready x p hp hr ((hcore.pending x).1 hpe) (hb x hx)
        rw [hready'] at hin
        rcases List.mem_cons.1 hin with he | hin
        · exact absurd (hstart x he.symm) hx
        · exact hin
      resume_registered := fun x d hw hp => by
        rw [hcell]; exact h.resume_registered x d ((hcore.waits x d).1 hw) ((hcore.pending d).1 hp)
      resume_ready := fun x d hw hp => by
        have hw₀ := (hcore.waits x d).1 hw
        have hin := h.resume_ready x d hw₀ (fun hp' => hp ((hcore.pending d).2 hp'))
        rw [hready'] at hin
        rcases List.mem_cons.1 hin with he | hin
        · exact absurd hw₀ (hresume x d he.symm)
        · exact hin
      notify_done := fun l src hn hp => h.notify_done l src (hmem _ hn) ((hcore.pending src).1 hp) }

/-- Taking a notice off the queue that wakes no waiting task keeps the invariant. -/
theorem Typed.dequeue_notify (h : w.Typed none) {l : Listener} {src : CellId} {q : RunQueue Point}
    (hpop : w.queue.pop? = some (.notify l src, q)) (hl : ∀ x, l = .resume x → ¬ w.Waits x src) :
    ({ w with queue := q } : World).Typed none :=
  h.dequeue hpop (fun _ hx => hx) (fun _ hx => by cases hx)
    (fun x d hx => by cases hx; exact hl x rfl)

/-- A task that starts, pending, stands at the first point of its activity and is busy. -/
theorem Typed.begin_start (h : w.Typed none) {q : RunQueue Point}
    (hpop : w.queue.pop? = some (.start t, q)) (hpend : w.Pending t) {p : Point}
    (hp : (w.queue.cell t).point = some p) :
    p.role = none ∧ ({ w with queue := q } : World).Running { w with queue := q } t p := by
  obtain ⟨hready, hcells⟩ := RunQueue.pop?_eq_some hpop
  have hcell : ∀ d, q.cell d = w.queue.cell d := fun d => by simp [RunQueue.cell, hcells]
  have hrole : p.role = none := by
    obtain ⟨p', hp', hr⟩ := h.start_fresh t (by rw [hready]; exact List.mem_cons_self) hpend
    obtain rfl := Option.some.inj (hp.symm.trans hp')
    exact hr
  have hidle : (w.queue.cell t).waitsFor = none := by
    cases hwt : (w.queue.cell t).waitsFor with
    | none => rfl
    | some d =>
      -- a waiting task stands where it waits in a role, which a first point is not
      obtain ⟨r, hr, -⟩ := h.target t d ⟨hpend, hwt⟩
      cases hrole.symm.trans (hr.eq_of_point hp)
  have hunq : Wake.start t ∉ q.ready := by
    intro hin
    have := h.start_once t
    rw [hready, List.count_cons, beq_self_eq_true, if_pos rfl] at this
    have := List.count_pos_iff.2 hin
    omega
  refine ⟨hrole, ?_⟩
  exact
    { toTyped := h.dequeue hpop (fun _ _ => by simp) (fun x hx => by cases hx; rfl)
        (fun _ _ hx => by cases hx)
      pending := by simpa only [Pending, hcell] using hpend
      point := by simpa only [hcell] using hp
      idle := by simpa only [hcell] using hidle
      unqueued := hunq
      keeps := .refl t q
      spawned := fun d _ hd hp => by
        rw [q.cell_of_size_le hd] at hp
        cases hp
      log := ⟨[], by simp, by simp⟩
      frame := .refl _ _ _ }

/-- Clearing the wait of a task that woke makes it the busy one. -/
theorem Typed.wakeUp (h : w.Typed none) (ht : t < w.queue.cells.size) :
    (w.wakeUp t).Typed (some t) := by
  have hcell : ∀ d, (w.wakeUp t).queue.cell d =
      if t = d then { w.queue.cell d with cancelPending := false, waitsFor := none }
      else w.queue.cell d := by
    intro d
    simp only [World.wakeUp, RunQueue.cell_modifyCell]
    by_cases htd : t = d
    · subst htd; simp [ht]
    · simp [htd]
  have hrefs : SameRefs (w.wakeUp t) w := SameRefs.of_queue w _
  have hsize : (w.wakeUp t).queue.cells.size = w.queue.cells.size := by simp [World.wakeUp]
  have hready : (w.wakeUp t).queue.ready = w.queue.ready := rfl
  have hnames : ∀ d, (w.wakeUp t).queue.Names d → w.queue.Names d := fun d hd =>
    w.queue.names_modifyCell t (fun cell => { cell with cancelPending := false, waitsFor := none })
      (fun _ => rfl) (fun _ _ h => nomatch h) hd
  generalize w.wakeUp t = w' at *
  have hres : ∀ d, (w'.queue.cell d).result = (w.queue.cell d).result := by
    intro d; rw [hcell]; split <;> rfl
  have hpoint : ∀ d, (w'.queue.cell d).point = (w.queue.cell d).point := by
    intro d; rw [hcell]; split <;> rfl
  have hlist : ∀ d, (w'.queue.cell d).listeners = (w.queue.cell d).listeners := by
    intro d; rw [hcell]; split <;> rfl
  have hpend : ∀ d, w'.Pending d ↔ w.Pending d := by simp [Pending, hres]
  have hplain : ∀ d, w'.Plain d ↔ w.Plain d := by simp [Plain, hpoint]
  have hduty : ∀ d du, w'.HasDuty d du ↔ w.HasDuty d du := by simp [HasDuty, hpoint]
  have hrole : ∀ x r, w'.HasRole x r ↔ w.HasRole x r := by simp [HasRole, hpoint]
  have hwaits : ∀ x d, w'.Waits x d → w.Waits x d ∧ x ≠ t := by
    intro x d hw
    obtain ⟨hr, hwf⟩ := hw
    rw [hcell] at hr hwf
    split at hwf
    · cases hwf
    · rename_i hxt
      rw [if_neg hxt] at hr
      exact ⟨⟨hr, hwf⟩, fun hx => hxt hx.symm⟩
  have hreg : ∀ l src, w'.queue.Registered l src → w.queue.Registered l src := by
    rintro l src (hl | hn)
    · exact .inl (hlist src ▸ hl)
    · exact .inr (hready ▸ hn)
  have hfeeds : ∀ c r, w'.Feeds c r → w.Feeds c r := by
    rintro c r (⟨hr, hf⟩ | ⟨hg⟩ | ⟨hg⟩)
    · exact .listener (hreg _ _ hr) hf
    · exact .replyGate ((hrefs.replyGates _).1 hg)
    · exact .startGate ((hrefs.startGates _).1 hg)
  have htarget : ∀ r d, w.Target r d → w'.Target r d := fun r d =>
    Target.of_views hrefs (hplain d).2 (fun du => (hduty d du).2)
  refine
    { world_bounded := fun d hd => hsize ▸ h.world_bounded d (hrefs.names d hd)
      target := fun x d hw => by
        obtain ⟨r, hr, htg⟩ := h.target x d (hwaits x d hw).1
        exact ⟨r, (hrole x r).2 hr, htarget r d htg⟩
      waiting := fun x r hr hp hx => by
        have hxt : t ≠ x := fun htx => hx (congrArg some htx)
        rw [hcell, if_neg hxt]
        exact h.waiting x r ((hrole x r).1 hr) ((hpend x).1 hp) (by simp)
      alone := fun x x' d hd hw hw' =>
        h.alone x x' d ((hplain d).1 hd) (hwaits x d hw).1 (hwaits x' d hw').1
      woken := fun x d r o hw hr ho =>
        hrefs.roleResult (h.woken x d r o (hwaits x d hw).1 ((hrole x r).1 hr) (hres d ▸ ho))
      launch_result := fun c o hd ho =>
        hrefs.launchOutcome (h.launch_result c o ((hduty c _).1 hd) (hres c ▸ ho))
      cancellable := fun x hm hp => by
        rw [hcell] at hm
        split at hm
        · cases hm
        · obtain ⟨du, hd, hcan⟩ := h.cancellable x hm ((hpend x).1 hp)
          exact ⟨du, (hduty x du).2 hd, hcan⟩
      launch_ref := fun c hl => by
        obtain ⟨hd, hp⟩ := h.launch_ref c (hrefs.launch ▸ hl)
        exact ⟨(hduty c _).2 hd, (hpend c).2 hp⟩
      heartbeat_ref := fun c hb => by
        obtain ⟨s, hs⟩ := h.heartbeat_ref c (hrefs.heartbeat ▸ hb)
        exact ⟨s, (hduty c _).2 hs⟩
      job_ref := fun j hj => by
        rw [hrefs.jobs_size] at hj
        rw [hrefs.task]
        exact (hduty _ _).2 (h.job_ref j hj)
      job_unique := fun x j hx => by
        rw [hrefs.jobs_size, hrefs.task]
        exact h.job_unique x j ((hduty x _).1 hx)
      background_ref := fun x hx =>
        (h.background_ref x (hrefs.background x hx)).imp (hduty x _).2 (hduty x _).2
      ongoing_ref := fun j hj => hrefs.jobs_size ▸ h.ongoing_ref j (hrefs.ongoing j hj)
      start_server := fun x prev s hx => Nat.lt_of_lt_of_le
        (h.start_server x prev s (by rwa [hpoint] at hx)) hrefs.servers_size
      queue_bounded := fun d hd => hsize ▸ h.queue_bounded d (hnames d hd)
      fed := fun c r hf => by
        obtain ⟨hp, hw⟩ := h.fed c r (hfeeds c r hf)
        exact ⟨(hplain c).2 hp, fun x hpc hwx =>
          (hrole x r).2 (hw x ((hpend c).1 hpc) (hwaits x c hwx).1)⟩
      relay_source := fun c src hr => (hduty src _).2 (h.relay_source c src (hreg _ _ hr))
      start_once := fun x => hready ▸ h.start_once x
      start_fresh := fun x hx hp => by
        rw [hpoint]; exact h.start_fresh x (hready ▸ hx) ((hpend x).1 hp)
      start_ready := fun x p hp hr hpe _ => by
        rw [hpoint] at hp
        exact hready ▸ h.start_ready x p hp hr ((hpend x).1 hpe) (by simp)
      resume_registered := fun x d hw hp => by
        rw [hlist]; exact h.resume_registered x d (hwaits x d hw).1 ((hpend d).1 hp)
      resume_ready := fun x d hw hp => hready ▸
        h.resume_ready x d (hwaits x d hw).1 (fun hp' => hp ((hpend d).2 hp'))
      notify_done := fun l src hn hp => h.notify_done l src (hready ▸ hn) ((hpend src).1 hp) }

/-- A task woken by the cell it waits for stands where it waits in a role and is woken with a
result that fits that role; once its wait is cleared it is the busy task. -/
theorem Typed.begin_resume (h : w.Typed none) {src : CellId} {q : RunQueue Point}
    (hpop : w.queue.pop? = some (.notify (.resume t) src, q)) (hw : w.Waits t src) :
    ∃ p r, (w.queue.cell t).point = some p ∧ p.role = some r ∧
      w.RoleResult r (if (w.queue.cell t).cancelPending then .cancelled
        else (w.queue.cell src).result.getD .cancelled) ∧
      (({ w with queue := q } : World).wakeUp t).Running (({ w with queue := q } : World).wakeUp t) t p := by
  obtain ⟨hready, hcells⟩ := RunQueue.pop?_eq_some hpop
  obtain ⟨r, ⟨p, hp, hr⟩, -⟩ := h.target t src hw
  have ht : t < w.queue.cells.size := lt_size_of_point hp
  have hsrc : ¬ w.Pending src := h.notify_done _ src (by rw [hready]; exact List.mem_cons_self)
  obtain ⟨o, ho⟩ := Option.ne_none_iff_exists'.1 hsrc
  have hinput : w.RoleResult r (if (w.queue.cell t).cancelPending then .cancelled
      else (w.queue.cell src).result.getD .cancelled) := by
    split
    · -- a cancellation is due only to a task of a cancellable duty, whose roles admit it
      rename_i hm
      obtain ⟨du, hdu, hcan⟩ := h.cancellable t hm hw.1
      rw [← hdu.eq_of_point hp] at hcan
      rcases role_of_cancellable hcan hr with rfl | rfl | rfl <;> simp [RoleResult]
    · rw [ho]
      exact h.woken t src r o hw ⟨p, hp, hr⟩ ho
  -- clearing the wait first and taking the entry off after gives the same world
  have hpop' : (w.wakeUp t).queue.pop? = some (.notify (.resume t) src,
      q.modifyCell t fun cell => { cell with cancelPending := false, waitsFor := none }) := by
    rw [RunQueue.pop?_cons _ _ q.ready (by simpa [World.wakeUp] using hready)]
    cases q
    simp_all [World.wakeUp, RunQueue.modifyCell]
  have htyped := (h.wakeUp ht).dequeue hpop' (fun _ hx => hx) (fun _ hx => by cases hx)
    (fun x d hx hwx => by
      cases hx
      have := hwx.2
      simp [World.wakeUp, ht] at this)
  have hcell : ∀ d, (({ w with queue := q } : World).wakeUp t).queue.cell d =
      if t = d then { w.queue.cell d with cancelPending := false, waitsFor := none }
      else w.queue.cell d := by
    intro d
    have hqd : q.cell d = w.queue.cell d := by simp [RunQueue.cell, hcells]
    simp only [World.wakeUp, RunQueue.cell_modifyCell, hqd, hcells]
    by_cases htd : t = d
    · subst htd; simp [ht]
    · simp [htd]
  refine ⟨p, r, hp, hr, hinput, ?_⟩
  exact
    { toTyped := htyped
      pending := by simp only [Pending, hcell, if_true]; exact hw.1
      point := by simp only [hcell, if_true]; exact hp
      idle := by simp only [hcell, if_true]
      unqueued := fun hin => by
        -- a task queued to start stands at a first point, and `p` is where it waits
        have hin' : Wake.start t ∈ w.queue.ready := by
          rw [hready]; exact List.mem_cons_of_mem _ hin
        obtain ⟨p', hp', hr'⟩ := h.start_fresh t hin' hw.1
        obtain rfl := Option.some.inj (hp.symm.trans hp')
        cases hr.symm.trans hr'
      keeps := .refl t _
      spawned := fun d _ hd hp => by
        rw [RunQueue.cell_of_size_le _ hd] at hp
        cases hp
      log := ⟨[], by simp, by simp⟩
      frame := .refl _ _ _ }

end World

end CompletionClient.Service
