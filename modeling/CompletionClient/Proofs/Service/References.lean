import CompletionClient.Proofs.Service.Typing
/-!
# What keeps the service's references typed

The service's own state names cells: its launch and its heartbeat, the tasks
of its jobs, its background tasks and the waiters of its gates.  A change of
that state keeps `World.Typed` when what it names fits: the launch under way
is a pending launch task (`Typed.setLife`), the heartbeat a heartbeat task, a
background task a warm-up or a cancel notice (`Typed.setBackground`), and a
new waiter of a gate a plain cell that no one waits for yet
(`Typed.of_gates`).  A change of the rest of the state (the phase, the
counters, the servers, their script and log, the open documents) keeps it
outright (`Typed.of_queue`).

A cell fed in a role may be given any result that fits the role
(`Typed.finish_fed`); opening a gate gives its waiters an empty result
(`Typed.finish_all`).
-/

namespace CompletionClient.Service

namespace GateQueue

theorem getD_modify (g : GateQueue) (i j : Nat) (f : Gate → Gate) :
    (g.gates.modify i f).getD j {} = if i = j ∧ j < g.gates.size then f (g.gates.getD j {})
      else g.gates.getD j {} := by
  simp only [Array.getD_eq_getD_getElem?, Array.getElem?_modify]
  by_cases hij : i = j
  · subst hij
    by_cases hi : i < g.gates.size
    · simp [hi]
    · simp [hi]
  · simp [hij]

/-- A closed gate that is queued has no waiters yet. -/
theorem holds_hold (g : GateQueue) (c : CellId) : g.hold.Holds c ↔ g.Holds c := by
  simp only [Holds, hold, Array.getD_eq_getD_getElem?, Array.getElem?_push]
  constructor
  · rintro ⟨i, hi⟩
    split at hi
    · simp at hi
    · exact ⟨i, hi⟩
  · rintro ⟨i, hi⟩
    refine ⟨i, ?_⟩
    split
    · rename_i hsize
      subst hsize
      simp at hi
    · exact hi

/-- Opening a gate keeps its waiters. -/
theorem holds_open (g : GateQueue) (i : Nat) (rest : List Nat) (c : CellId) :
    ({ gates := g.gates.modify i fun gate => { gate with isOpen := true }, untaken := rest } :
      GateQueue).Holds c ↔ g.Holds c := by
  simp only [Holds, getD_modify]
  constructor <;> rintro ⟨j, hj⟩ <;> refine ⟨j, ?_⟩ <;> split at * <;> exact hj

/-- A new waiter of a gate is the only new one. -/
theorem holds_addWaiter (g : GateQueue) (i : Nat) (rest : List Nat) {c₀ c : CellId}
    (h : ({ gates := g.gates.modify i fun gate => { gate with waiters := gate.waiters ++ [c₀] },
            untaken := rest } : GateQueue).Holds c) : g.Holds c ∨ c = c₀ := by
  obtain ⟨j, hj⟩ := h
  simp only [getD_modify] at hj
  split at hj
  · rcases List.mem_append.1 hj with hj | hj
    · exact .inl ⟨j, hj⟩
    · exact .inr (List.mem_singleton.1 hj)
  · exact .inl ⟨j, hj⟩

end GateQueue

namespace World

variable {w w' : World} {b : Option CellId} {t : CellId}

/-! ## The rest of the state -/

/-- A world with the same launch, heartbeat, jobs, background tasks, gates and servers has the
same references. -/
theorem SameRefs.of_fields (hlaunch : w'.life.launch = w.life.launch)
    (hbeat : w'.life.heartbeat = w.life.heartbeat) (hjobs : w'.jobs = w.jobs)
    (hbg : w'.background = w.background) (hon : w'.ongoing = w.ongoing)
    (hreply : w'.replyGates = w.replyGates) (hstart : w'.startGates = w.startGates)
    (hservers : w'.servers = w.servers) : SameRefs w' w :=
  ⟨hlaunch, hbeat, by rw [hjobs], fun _ => by rw [hjobs], fun _ h => hbg ▸ h, fun _ h => hon ▸ h,
    fun _ => by rw [hreply], fun _ => by rw [hstart], fun _ h => hservers ▸ h,
    Nat.le_of_eq (by rw [hservers])⟩

/-- A change that keeps the run queue and the references of the service's own state keeps the
invariant. -/
theorem Typed.of_queue (h : w.Typed b) (hq : w'.queue = w.queue) (hrefs : SameRefs w' w) :
    w'.Typed b :=
  h.of_views (fun d => by rw [hq]) (by rw [hq]) (Nat.le_of_eq (by rw [hq])) hrefs

/-- A change of the servers that keeps every server, and every started one started, keeps the
invariant. -/
theorem Typed.setServers (h : w.Typed b) (S : Array Endpoint) (hsize : w.servers.size ≤ S.size)
    (hS : ∀ s, (w.servers.getD s default).started = true → (S.getD s default).started = true) :
    ({ w with servers := S } : World).Typed b :=
  h.of_queue rfl ⟨rfl, rfl, rfl, fun _ => rfl, fun _ h => h, fun _ h => h, fun _ => Iff.rfl,
    fun _ => Iff.rfl, hS, hsize⟩

/-- A change of the jobs that keeps their number and their tasks keeps the invariant. -/
theorem Typed.setJobs (h : w.Typed b) (J : Array Job) (hsize : J.size = w.jobs.size)
    (htask : ∀ j, (J.getD j default).task = (w.jobs.getD j default).task) :
    ({ w with jobs := J } : World).Typed b :=
  h.of_queue rfl ⟨rfl, rfl, hsize, htask, fun _ h => h, fun _ h => h, fun _ => Iff.rfl,
    fun _ => Iff.rfl, fun _ h => h, Nat.le_refl _⟩

/-- Fewer jobs in flight keep the invariant. -/
theorem Typed.setOngoing (h : w.Typed b) (O : List Nat) (hO : ∀ j ∈ O, j ∈ w.ongoing) :
    ({ w with ongoing := O } : World).Typed b :=
  h.of_queue rfl ⟨rfl, rfl, rfl, fun _ => rfl, fun _ h => h, hO, fun _ => Iff.rfl,
    fun _ => Iff.rfl, fun _ h => h, Nat.le_refl _⟩

/-! ## The lifecycle and the background tasks -/

/-- A new lifecycle keeps the invariant when its launch is a pending launch task and its heartbeat
a heartbeat task. -/
theorem Typed.setLife (h : w.Typed b) (L : Lifecycle)
    (hlaunch : ∀ l, L.launch = some l → w.HasDuty l .launch ∧ w.Pending l)
    (hbeat : ∀ c, L.heartbeat = some c → ∃ s, w.HasDuty c (.heartbeat s)) :
    ({ w with life := L } : World).Typed b :=
  { h with
    world_bounded := fun d hd => by
      rcases hd with hd | hd | hd
      · obtain ⟨s, hs⟩ := hbeat d hd
        exact lt_size_of_hasDuty hs
      · exact lt_size_of_hasDuty (hlaunch d hd).1
      · exact h.world_bounded d (.inr (.inr hd))
    launch_ref := hlaunch
    heartbeat_ref := hbeat
    fed := fun c r hf => h.fed c r (Feeds.of_views hf (fun _ _ h => h) (fun _ h => h) (fun _ h => h)) }

/-- New background tasks keep the invariant when they are warm-ups or cancel notices. -/
theorem Typed.setBackground (h : w.Typed b) (B : List CellId)
    (hB : ∀ x ∈ B, x ∈ w.background ∨ w.HasDuty x .warmUp ∨ w.HasDuty x .cancelNotice) :
    ({ w with background := B } : World).Typed b :=
  { h with
    world_bounded := fun d hd => by
      rcases hd with hd | hd | hd | hd | hd
      · exact h.world_bounded d (.inl hd)
      · exact h.world_bounded d (.inr (.inl hd))
      · exact h.world_bounded d (.inr (.inr (.inl hd)))
      · rcases hB d hd with hd | hd | hd
        · exact h.world_bounded d (.inr (.inr (.inr (.inl hd))))
        · exact lt_size_of_hasDuty hd
        · exact lt_size_of_hasDuty hd
      · exact h.world_bounded d (.inr (.inr (.inr (.inr hd))))
    background_ref := fun x hx => by
      rcases hB x hx with hx | hx
      · exact h.background_ref x hx
      · exact hx
    fed := fun c r hf => h.fed c r (Feeds.of_views hf (fun _ _ h => h) (fun _ h => h) (fun _ h => h)) }

/-! ## Gates -/

/-- A plain cell in bounds that no one waits for. -/
def Unwaited (w : World) (c : CellId) : Prop :=
  c < w.queue.cells.size ∧ w.Plain c ∧ ∀ t, ¬ w.Waits t c

/-- New waiters of the gates keep the invariant when they are plain cells that no one waits for
yet. -/
theorem Typed.setGates (h : w.Typed b) (R S : GateQueue)
    (hR : ∀ c, R.Holds c → w.replyGates.Holds c ∨ w.Unwaited c)
    (hS : ∀ c, S.Holds c → w.startGates.Holds c ∨ w.Unwaited c) :
    ({ w with replyGates := R, startGates := S } : World).Typed b :=
  { h with
    world_bounded := fun d hd => by
      rcases hd with hd | hd | hd | hd | hd | hd
      · exact h.world_bounded d (.inl hd)
      · exact h.world_bounded d (.inr (.inl hd))
      · exact h.world_bounded d (.inr (.inr (.inl hd)))
      · exact h.world_bounded d (.inr (.inr (.inr (.inl hd))))
      · rcases hR d hd with hd | hd
        · exact h.world_bounded d (.inr (.inr (.inr (.inr (.inl hd)))))
        · exact hd.1
      · rcases hS d hd with hd | hd
        · exact h.world_bounded d (.inr (.inr (.inr (.inr (.inr hd)))))
        · exact hd.1
    fed := fun c r hf => by
      -- a feed that is new is a gate's new waiter, which no one waits for
      rcases hf with ⟨hr, hl⟩ | ⟨hg⟩ | ⟨hg⟩
      · exact h.fed c r (.listener hr hl)
      · rcases hR c hg with hg | ⟨-, hp, hw⟩
        · exact h.fed c _ (.replyGate hg)
        · exact ⟨hp, fun x _ hx => absurd hx (hw x)⟩
      · rcases hS c hg with hg | ⟨-, hp, hw⟩
        · exact h.fed c _ (.startGate hg)
        · exact ⟨hp, fun x _ hx => absurd hx (hw x)⟩ }

/-! ## Counting cells -/

/-- A new count of a cell that waits for several tasks keeps the invariant. -/
theorem Typed.setRemaining (h : w.Typed b) (g : Nat) (k : Nat → Nat) :
    ({ w with queue := w.queue.modifyCell g fun cell => { cell with remaining := k cell.remaining } } :
      World).Typed b := by
  generalize hw' : ({ w with queue := w.queue.modifyCell g fun cell =>
    { cell with remaining := k cell.remaining } } : World) = w'
  have hq : w'.queue = w.queue.modifyCell g fun cell => { cell with remaining := k cell.remaining } := by
    rw [← hw']
  have hrefs : SameRefs w' w := hw' ▸ SameRefs.of_queue w _
  have hcell : ∀ d, w'.queue.cell d =
      if g = d ∧ d < w.queue.cells.size then
        { w.queue.cell d with remaining := k (w.queue.cell d).remaining }
      else w.queue.cell d := by
    intro d; rw [hq, RunQueue.cell_modifyCell]
  have hcore : SameCore w' w := by
    constructor <;> intro d <;> rw [hcell] <;> split <;> rfl
  have hsize : w'.queue.cells.size = w.queue.cells.size := by rw [hq]; simp
  exact
    { toShaped := h.toShaped.of_core hcore
        (fun d hm _ => .inl (by rw [hcell] at hm; split at hm <;> exact hm)) (hsize ▸ Nat.le_refl _)
        hrefs
      toWired := h.toWired.of_wiring hcore (fun d => by rw [hcell]; split <;> rfl) (by rw [hq]; rfl)
        (hsize ▸ Nat.le_refl _) hrefs.replyGates hrefs.startGates }

/-! ## Results for fed cells -/

/-- A fed cell is plain, so it is no launch and not the launch under way. -/
theorem Typed.not_launch_of_plain (h : w.Typed b) {c : CellId} (hc : w.Plain c) :
    ¬ w.HasDuty c .launch ∧ w.life.launch ≠ some c := by
  have hnot : ¬ w.HasDuty c .launch := fun ⟨p, hp, _⟩ => by simp [Plain, hp] at hc
  exact ⟨hnot, fun hl => hnot (h.launch_ref c hl).1⟩

/-- A result that fits the role a cell is fed in keeps the invariant. -/
theorem Typed.finish_fed (h : w.Typed b) {c : CellId} {r : Role} {o : Outcome} (hf : w.Feeds c r)
    (ho : w.RoleResult r o) : ({ w with queue := w.queue.finish c o } : World).Typed b := by
  obtain ⟨hplain, hwaiter⟩ := h.fed c r hf
  cases hdone : w.queue.isDone c
  case true =>
    rw [RunQueue.finish_of_isDone o hdone]
    exact h.of_queue rfl (SameRefs.of_queue w _)
  case false =>
    have hpend : w.Pending c := pending_iff_isDone.2 hdone
    obtain ⟨hnot, hnot'⟩ := h.not_launch_of_plain hplain
    refine h.finish (h.lt_size_of_feeds hf) hpend ?_ (fun hl => absurd hl hnot) hnot' (.inl rfl)
    intro x r' hw hr'
    rw [← (hwaiter x hpend hw).unique hr']
    exact ho

/-- Finishing a cell keeps every feed. -/
theorem feeds_finish {c d : CellId} {r : Role} {o : Outcome} :
    ({ w with queue := w.queue.finish d o } : World).Feeds c r ↔ w.Feeds c r :=
  ⟨fun hf => Feeds.of_views hf (fun l src => (RunQueue.registered_finish _ d o l src).1)
      (fun _ h => h) (fun _ h => h),
    fun hf => Feeds.of_views hf (fun l src => (RunQueue.registered_finish _ d o l src).2)
      (fun _ h => h) (fun _ h => h)⟩

/-- Cells fed in a role that admits one result may all be given it, one after another. -/
theorem Typed.finish_all {r : Role} {o : Outcome} (ho : ∀ w : World, w.RoleResult r o)
    (cs : List CellId) (h : w.Typed b) (hcs : ∀ c ∈ cs, w.Feeds c r) :
    (cs.foldl (fun w c => w.exec (Act.finish c o)) w).Typed b := by
  induction cs generalizing w with
  | nil => exact h
  | cons c cs ih =>
    refine ih (h.finish_fed (hcs c List.mem_cons_self) (ho w)) fun c' hc' => ?_
    exact feeds_finish.2 (hcs c' (List.mem_cons_of_mem c hc'))

end World

end CompletionClient.Service
