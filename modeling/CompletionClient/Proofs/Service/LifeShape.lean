import CompletionClient.Proofs.Service.Quiet
/-!
# The shapes of the lifecycle

Between events the lifecycle stands in one of three shapes
(`World.LifeShape.shape`): no server and no heartbeat, with the phase absent or
terminated; a server starting, with no heartbeat; or a running server whose
heartbeat task beats.  Beside the shapes the invariant keeps what the
lifecycle's own tasks need: no heartbeat beats but the lifecycle's, a launch
that has not started finds no server, a launch waiting to start its server
found the phase absent or terminated and has its server current unless a
termination cleared it, and every pending launch task is the launch under way.
The busy task is exempt from the clauses about its own cell while its step
runs.

Steady changes keep the invariant (`LifeShape.steady`).  The lifecycle's
handlers keep it by their own arguments: a termination clears the server and
cancels the heartbeat, which then beats no more (`beating_beatCancelled`); a
launch report cancels it and starts a new one, which beats; and a caller that
finds no server and no launch under way starts a launch, which finds no
server.
-/

namespace CompletionClient.Service

namespace World

variable {w w' w₀ : World} {b b' : Option CellId} {t x c : CellId} {p : Point} {s : Nat}

/-- The shapes the lifecycle keeps, with the task `busy` in the middle of its step. -/
structure LifeShape (w : World) (busy : Option CellId) : Prop where
  /-- No server and no heartbeat, the phase absent or terminated; or a starting server with no
  heartbeat; or a running server whose heartbeat task beats. -/
  shape : (w.life.server = none ∧ w.life.heartbeat = none ∧
        (w.life.phase = .absent ∨ w.life.phase = .terminated)) ∨
      (∃ s, w.life.server = some s ∧ w.life.heartbeat = none ∧ w.life.phase = .starting) ∨
      ∃ s h, w.life.server = some s ∧ w.life.phase = .running ∧ w.life.heartbeat = some h ∧
        w.Beating h s
  /-- A heartbeat task that beats is the lifecycle's heartbeat. -/
  beats : ∀ h s, busy ≠ some h → w.Beating h s → w.life.heartbeat = some h
  /-- A launch that has not started finds no server. -/
  fresh : ∀ c, busy ≠ some c → (w.queue.cell c).point = some .launch → w.Pending c →
    w.life.server = none
  /-- A launch waiting to start its server found the phase absent or terminated, and its server
  is current unless a termination cleared it. -/
  starting : ∀ c previous s, busy ≠ some c →
    (w.queue.cell c).point = some (.launchAwaitingStart previous s) → w.Pending c →
    (previous = .absent ∨ previous = .terminated) ∧ (w.life.server = none ∨ w.life.server = some s)
  /-- A pending launch task is the launch under way. -/
  one : ∀ c, busy ≠ some c → w.HasDuty c .launch → w.Pending c → w.life.launch = some c

/-- With no server current the lifecycle has no heartbeat, and its phase is absent or terminated. -/
theorem LifeShape.of_no_server (h : w.LifeShape b) (hs : w.life.server = none) :
    w.life.heartbeat = none ∧ (w.life.phase = .absent ∨ w.life.phase = .terminated) := by
  rcases h.shape with ⟨-, hn, hph⟩ | ⟨s, hsv, -⟩ | ⟨s, x, hsv, -⟩
  · exact ⟨hn, hph⟩
  · rw [hs] at hsv; cases hsv
  · rw [hs] at hsv; cases hsv

/-- A steady change keeps the lifecycle's shapes. -/
theorem LifeShape.steady (h : w.LifeShape b) (hs : Steady w w' b) : w'.LifeShape b where
  shape := by
    rw [hs.server, hs.heartbeat, hs.phase]
    rcases h.shape with h₁ | h₂ | ⟨s, x, hsv, hph, hhb, hx⟩
    · exact .inl h₁
    · exact .inr (.inl h₂)
    · exact .inr (.inr ⟨s, x, hsv, hph, hhb, hs.beating x s hx⟩)
  beats x s hb hx := by
    rw [hs.heartbeat]
    exact h.beats x s hb (hs.beats x s hb hx)
  fresh c hb hp hpe := by
    obtain ⟨hpt, hpe₀⟩ := hs.launches c hb ⟨_, hp, rfl⟩ hpe
    rw [hs.server]
    exact h.fresh c hb (by rw [← hpt]; exact hp) hpe₀
  starting c previous s hb hp hpe := by
    obtain ⟨hpt, hpe₀⟩ := hs.launches c hb ⟨_, hp, rfl⟩ hpe
    rw [hs.server]
    exact h.starting c previous s hb (by rw [← hpt]; exact hp) hpe₀
  one c hb hd hpe := by
    obtain ⟨hpt, hpe₀⟩ := hs.launches c hb hd hpe
    obtain ⟨q, hq, hdq⟩ := hd
    rw [hs.launch]
    exact h.one c hb ⟨q, by rw [← hpt]; exact hq, hdq⟩ hpe₀

/-- The heartbeat is no task of another duty. -/
theorem Typed.heartbeat_ne (hT : w.Typed b) {du : Duty} (ht : w.HasDuty t du)
    (hdu : ∀ s, du ≠ .heartbeat s) : w.life.heartbeat ≠ some t := by
  intro hh
  obtain ⟨s, hs⟩ := hT.heartbeat_ref t hh
  exact hdu s (ht.unique hs)

/-! ## Cancelling a heartbeat -/

theorem pending_of_keeps {q q' : RunQueue Point} (hk : RunQueue.Keeps t q q') {d : CellId}
    (h : (q'.cell d).result = none) : (q.cell d).result = none := by
  cases ho : (q.cell d).result with
  | none => rfl
  | some o =>
    rw [hk.result d o ho] at h
    cases h

/-- A cancellation makes no task beat: it only marks tasks and gives results. -/
theorem Beating.of_cancelTask (hx : ({ w with queue := w.queue.cancelTask c } : World).Beating x s) :
    w.Beating x s := by
  have hk := RunQueue.keeps_cancelTask (t := x + 1) w.queue c
  have hne : x ≠ x + 1 := Nat.ne_of_lt (Nat.lt_succ_self x)
  obtain ⟨p, hp, hd⟩ := hx.duty
  refine ⟨⟨p, by rw [← RunQueue.point_cancelTask w.queue c x]; exact hp, hd⟩,
    pending_of_keeps hk hx.pending, ?_, fun d hw hc => hx.asleep d ?_ (hk.result d _ hc)⟩
  · cases hm : (w.queue.cell x).cancelPending with
    | false => rfl
    | true =>
      have := hx.unmarked
      rw [show ((w.queue.cancelTask c).cell x).cancelPending = true from hk.marked x hne hm] at this
      cases this
  · show ((w.queue.cancelTask c).cell x).waitsFor = some d
    rw [hk.waitsFor x hne]
    exact hw

/-- A task that beats keeps beating through a change that keeps its cell and the result of the
cell it sleeps on. -/
theorem Beating.of_cell (hx : w.Beating x s) (hcell : w'.queue.cell x = w.queue.cell x)
    (hsleep : ∀ d, (w.queue.cell x).waitsFor = some d →
      (w'.queue.cell d).result = (w.queue.cell d).result) : w'.Beating x s where
  duty := by
    obtain ⟨p, hp, hd⟩ := hx.duty
    exact ⟨p, by rw [hcell]; exact hp, hd⟩
  pending := by
    show (w'.queue.cell x).result = none
    rw [hcell]
    exact hx.pending
  unmarked := by rw [hcell]; exact hx.unmarked
  asleep d hd := by
    rw [hcell] at hd
    rw [hsleep d hd]
    exact hx.asleep d hd

/-- A heartbeat sleeps on a plain cell. -/
theorem Typed.plain_of_sleep (hT : w.Typed b) (hx : w.HasDuty x (.heartbeat s)) {d : CellId}
    (hw : w.Waits x d) : w.Plain d := by
  obtain ⟨r, ⟨p, hp, hr⟩, htg⟩ := hT.target x d hw
  rw [role_of_heartbeat (hx.eq_of_point hp) hr] at htg
  exact htg

/-- The end of a heartbeat's sleep changes nothing, or gives the cell a pending heartbeat sleeps on,
a plain one, an empty result. -/
theorem Typed.elapse_cases (hT : w.Typed b) (t : CellId) :
    w.exec (Act.elapse t) = w ∨ ∃ s c, w.HasDuty t (.heartbeat s) ∧ w.HasRole t .sleep ∧ w.Waits t c ∧
      w.Plain c ∧ w.exec (Act.elapse t) = { w with queue := w.queue.finish c (.value .unit) } := by
  rcases Act.exec_elapse w t with he | ⟨s, md, c, hr, hp, hwt, he⟩
  · exact .inl he
  · exact .inr ⟨s, c, ⟨_, hp, rfl⟩, ⟨_, hp, rfl⟩, ⟨hr, hwt⟩,
      hT.plain_of_sleep ⟨_, hp, rfl⟩ ⟨hr, hwt⟩, he⟩

/-- Cancelling a task of a cancellable duty leaves every other beating heartbeat beating: the cell
it cancels, if any, is one that only the cancelled task waits for. -/
theorem Beating.cancelTask (hT : w.Typed b) {du : Duty} (hc : w.HasDuty c du) (hcan : du.Cancellable)
    (hx : w.Beating x s) (hxc : x ≠ c) : ({ w with queue := w.queue.cancelTask c } : World).Beating x s := by
  rcases hT.cancelTask_cases hc hcan with hq | ⟨-, hq⟩ | ⟨d₀, hd₀, -, hwc, hq⟩
  · exact hx.of_cells fun d => by dsimp only; rw [hq]
  · refine hx.of_cell (by dsimp only; rw [hq, w.queue.cell_modifyCell_of_ne (Ne.symm hxc)])
      fun d _ => by
        dsimp only
        rw [hq]
        exact w.queue.field_modifyCell c d Cell.result fun _ => rfl
  · -- the cancelled cell is plain and waited for by the cancelled task alone
    have hother : ∀ d, d ≠ d₀ → (w.queue.cancelTask c).cell d = w.queue.cell d := by
      intro d hd
      rw [hq]
      cases hdone : w.queue.isDone d₀
      · rw [w.queue.cell_finish hdone, if_neg fun h => hd h.1.symm]
      · rw [RunQueue.finish_of_isDone _ hdone]
    have hxd : x ≠ d₀ := by
      rintro rfl
      obtain ⟨p, hp, -⟩ := hx.duty
      rw [show (w.queue.cell x).point = none from hd₀] at hp
      cases hp
    refine hx.of_cell (hother x hxd) fun d hw => ?_
    have hdd : d ≠ d₀ := by
      rintro rfl
      exact hxc (hT.alone x c d hd₀ ⟨hx.pending, hw⟩ hwc)
    show ((w.queue.cancelTask c).cell d).result = _
    rw [hother d hdd]

/-- A cancelled heartbeat beats no more: it is marked, or its sleep is cancelled. -/
theorem Typed.not_beating_cancelTask (hT : w.Typed b) :
    ¬ ({ w with queue := w.queue.cancelTask x } : World).Beating x s := by
  intro hx'
  have hx := hx'.of_cancelTask
  obtain ⟨p, hp, -⟩ := hx.duty
  have hdone : w.queue.isDone x = false := by
    simp [RunQueue.isDone_def, show (w.queue.cell x).result = none from hx.pending]
  have htask : (w.queue.cell x).point.isSome := by rw [hp]; rfl
  have hlt : x < w.queue.cells.size := w.queue.lt_size_of_isSome htask
  -- a heartbeat awake, or woken from its sleep, is marked
  have hmarked : w.queue.cancelTask x ≠ w.queue.modifyCell x fun cell => { cell with cancelPending := true } := by
    intro hq
    have hm := hx'.unmarked
    simp only [hq, w.queue.cell_modifyCell_self hlt] at hm
    cases hm
  cases hw : (w.queue.cell x).waitsFor with
  | none => exact hmarked (w.queue.cancelTask_of_idle hdone htask hw)
  | some d =>
    cases hdd : w.queue.isDone d
    case true => exact hmarked (w.queue.cancelTask_of_woken hdone htask hw hdd)
    case false =>
      -- a heartbeat still asleep has its sleep cancelled
      have hplain := hT.plain_of_sleep hx.duty ⟨hx.pending, hw⟩
      have hq := w.queue.cancelTask_of_waiting hdone htask hw hdd hplain
      have hxd : x ≠ d := by
        rintro rfl
        rw [show (w.queue.cell x).point = none from hplain] at hp
        cases hp
      have hdlt : d < w.queue.cells.size := hT.lt_size_of_waits_target ⟨hx.pending, hw⟩
      refine hx'.asleep d ?_ ?_
      · show ((w.queue.cancelTask x).cell x).waitsFor = some d
        rw [hq, w.queue.cell_finish hdd, if_neg fun h => hxd h.1.symm]
        exact hw
      · show ((w.queue.cancelTask x).cell d).result = some .cancelled
        rw [hq, w.queue.cell_finish hdd, if_pos ⟨rfl, hdlt⟩]

/-- With the heartbeat cancelled, the tasks that beat are those that beat before, but the
heartbeat. -/
theorem beating_beatCancelled (hT : w.Typed b) :
    ({ w with queue := w.beatCancelled } : World).Beating x s ↔
      w.Beating x s ∧ w.life.heartbeat ≠ some x := by
  unfold World.beatCancelled
  cases hh : w.life.heartbeat with
  | none => exact ⟨fun hx => ⟨hx, nofun⟩, fun hx => hx.1⟩
  | some h₀ =>
    obtain ⟨s₀, hd₀⟩ := hT.heartbeat_ref h₀ hh
    constructor
    · intro hx
      refine ⟨hx.of_cancelTask, fun he => ?_⟩
      injection he with he
      subst he
      exact hT.not_beating_cancelTask hx
    · rintro ⟨hx, hne⟩
      exact hx.cancelTask hT hd₀ trivial fun he => hne (by rw [he])

theorem point_beatCancelled (d : CellId) : (w.beatCancelled.cell d).point = (w.queue.cell d).point := by
  unfold World.beatCancelled
  split
  · exact RunQueue.point_cancelTask _ _ _
  · rfl

theorem pending_of_beatCancelled {d : CellId} (h : (w.beatCancelled.cell d).result = none) :
    (w.queue.cell d).result = none := by
  unfold World.beatCancelled at h
  split at h
  · exact pending_of_keeps (RunQueue.keeps_cancelTask (t := d) w.queue _) h
  · exact h

/-! ## The lifecycle's handlers -/

/-- A termination keeps the shapes: the server is cleared, the heartbeat beats no more, and every
launch task stands as it did. -/
theorem LifeShape.clearServer (h : w.LifeShape b) (hT : w.Typed b') (s : Nat) :
    (w.exec (Act.clearServer s)).LifeShape b := by
  by_cases hs : w.life.server = some s
  · rw [World.exec, Act.run_clearServer_of_current w hs]
    refine ⟨.inl ⟨rfl, rfl, .inr rfl⟩, fun x s' hb hx => ?_, fun _ _ _ _ => rfl,
      fun c previous s' hb hp hpe => ⟨?_, .inl rfl⟩, fun c hb hd hpe => ?_⟩
    · obtain ⟨hx₀, hne⟩ := (beating_beatCancelled hT).1 (hx.of_cells fun _ => rfl)
      exact absurd (h.beats x s' hb hx₀) hne
    · exact (h.starting c previous s' hb (by rw [← point_beatCancelled]; exact hp)
        (pending_of_beatCancelled hpe)).1
    · obtain ⟨q, hq, hdq⟩ := hd
      exact h.one c hb ⟨q, by rw [← point_beatCancelled]; exact hq, hdq⟩ (pending_of_beatCancelled hpe)
  · rw [World.exec, Act.run_clearServer_of_ne w hs]
    exact h

/-- A new task leaves every other task beating as it did: the cell it takes was empty. -/
theorem beating_spawn_iff {P : Point} (hne : x ≠ w.queue.cells.size) :
    ({ w with queue := (w.queue.spawn P).1 } : World).Beating x s ↔ w.Beating x s := by
  have hcell := w.queue.cell_spawn P
  -- the new cell, like the empty cell past the end before, has no result
  have hres : ∀ d, ((w.queue.spawn P).1.cell d).result = (w.queue.cell d).result := by
    intro d
    rw [hcell]
    split
    · subst_vars
      rw [w.queue.cell_of_size_le (Nat.le_refl _)]
    · rfl
  have hx : (w.queue.spawn P).1.cell x = w.queue.cell x := by rw [hcell, if_neg hne]
  exact ⟨fun hb => hb.of_cell hx.symm fun d _ => (hres d).symm,
    fun hb => hb.of_cell hx fun d _ => hres d⟩

/-- The new heartbeat task beats. -/
theorem beating_spawn_new {P : Point} (hP : P.duty = .heartbeat s) :
    ({ w with queue := (w.queue.spawn P).1 } : World).Beating w.queue.cells.size s := by
  have hnew : (w.queue.spawn P).1.cell w.queue.cells.size = { point := some P } := by
    rw [w.queue.cell_spawn, if_pos rfl]
  refine ⟨⟨P, by show ((w.queue.spawn P).1.cell _).point = _; rw [hnew], hP⟩,
    by show ((w.queue.spawn P).1.cell _).result = none; rw [hnew], by
      show ((w.queue.spawn P).1.cell _).cancelPending = false; rw [hnew], fun d hd => ?_⟩
  change ((w.queue.spawn P).1.cell _).waitsFor = some d at hd
  rw [hnew] at hd
  cases hd

/-- A launch report of the current server keeps the shapes: the server runs, and its new heartbeat
is the one task that beats. -/
theorem LifeShape.handleLaunch (h : w.LifeShape b) (hT : w.Typed b') (s : Nat) :
    (w.exec (Act.handleLaunch s)).LifeShape b := by
  by_cases hs : w.life.server = some s
  · rw [World.exec, Act.run_handleLaunch_of_current w hs]
    dsimp only
    generalize hP : Point.heartbeat s (w.servers.getD s default).launchMetadata = P
    have hPd : P.duty = .heartbeat s := by rw [← hP]; rfl
    -- every cell but the new heartbeat's is as the old heartbeat's cancellation left it
    have hold : ∀ d, d ≠ w.beatCancelled.cells.size →
        (w.beatCancelled.spawn P).1.cell d = w.beatCancelled.cell d := fun d hd => by
      rw [w.beatCancelled.cell_spawn, if_neg hd]
    have hpoint : ∀ d, d ≠ w.beatCancelled.cells.size →
        ((w.beatCancelled.spawn P).1.cell d).point = (w.queue.cell d).point := fun d hd => by
      rw [hold d hd, point_beatCancelled]
    have hpend : ∀ d, d ≠ w.beatCancelled.cells.size →
        ((w.beatCancelled.spawn P).1.cell d).result = none → (w.queue.cell d).result = none :=
      fun d hd hr => pending_of_beatCancelled (by rw [← hold d hd]; exact hr)
    have hnew : ((w.beatCancelled.spawn P).1.cell w.beatCancelled.cells.size).point = some P := by
      rw [w.beatCancelled.cell_spawn, if_pos rfl]
    -- so a launch task is no new cell
    have hne : ∀ d q, ((w.beatCancelled.spawn P).1.cell d).point = some q → q.duty = .launch →
        d ≠ w.beatCancelled.cells.size := by
      rintro d q hq hd rfl
      rw [hnew] at hq
      injection hq with hq
      subst hq
      rw [hPd] at hd
      cases hd
    refine ⟨.inr (.inr ⟨s, _, hs, rfl, rfl,
        (beating_spawn_new (w := { w with queue := w.beatCancelled }) hPd).of_cells fun _ => rfl⟩),
      fun x s' hb hx => ?_, fun c hb hp hpe => ?_, fun c previous s' hb hp hpe => ?_,
      fun c hb hd hpe => ?_⟩
    · by_cases hxn : x = w.beatCancelled.cells.size
      · rw [hxn]
      · have hx₁ := (beating_spawn_iff (w := { w with queue := w.beatCancelled }) hxn).1
          (hx.of_cells fun _ => rfl)
        obtain ⟨hx₀, hxh⟩ := (beating_beatCancelled hT).1 hx₁
        exact absurd (h.beats x s' hb hx₀) hxh
    · have hc := hne c .launch hp rfl
      rw [h.fresh c hb (by rw [← hpoint c hc]; exact hp) (hpend c hc hpe)] at hs
      cases hs
    · have hc := hne c _ hp rfl
      exact h.starting c previous s' hb (by rw [← hpoint c hc]; exact hp) (hpend c hc hpe)
    · obtain ⟨q, hq, hdq⟩ := hd
      have hc := hne c q hq hdq
      exact h.one c hb ⟨q, by rw [← hpoint c hc]; exact hq, hdq⟩ (hpend c hc hpe)
  · rw [World.exec, Act.run_handleLaunch_of_ne w hs]
    exact h

/-- Starting a launch when no server is current and no launch is under way keeps the shapes: the
new launch is the launch under way, and it finds no server. -/
theorem LifeShape.newLaunch (h : w.LifeShape b) (hs : w.life.server = none)
    (hdone : ∀ l, w.life.launch = some l → w.queue.isDone l = true) :
    ({ w with life := { w.life with launch := some w.queue.cells.size },
              queue := (w.queue.spawn .launch).1 } : World).LifeShape b := by
  have hcell := w.queue.cell_spawn .launch
  have hold : ∀ d, d ≠ w.queue.cells.size → (w.queue.spawn .launch).1.cell d = w.queue.cell d :=
    fun d hd => by rw [hcell, if_neg hd]
  have hnew : (w.queue.spawn .launch).1.cell w.queue.cells.size = { point := some .launch } := by
    rw [hcell, if_pos rfl]
  have hbeat : ∀ x s, ({ w with queue := (w.queue.spawn .launch).1 } : World).Beating x s →
      x ≠ w.queue.cells.size := by
    rintro x s hx rfl
    obtain ⟨q, hq, hd⟩ := hx.duty
    change ((w.queue.spawn .launch).1.cell _).point = some q at hq
    rw [hnew] at hq
    injection hq with hq
    subst hq
    cases hd
  refine ⟨?_, fun x s hb' hx => ?_, fun c hb' hp hpe => ?_, fun c previous s hb' hp hpe => ?_,
    fun c hb' hd hpe => ?_⟩
  · rcases h.shape with h₁ | h₂ | ⟨s, x, hsv, hph, hhb, hx⟩
    · exact .inl h₁
    · exact .inr (.inl h₂)
    · have hxn : x ≠ w.queue.cells.size := Nat.ne_of_lt (lt_size_of_hasDuty hx.duty)
      exact .inr (.inr ⟨s, x, hsv, hph, hhb, ((beating_spawn_iff hxn).2 hx).of_cells fun _ => rfl⟩)
  · have hx₁ : ({ w with queue := (w.queue.spawn .launch).1 } : World).Beating x s :=
      hx.of_cells fun _ => rfl
    exact h.beats x s hb' ((beating_spawn_iff (hbeat x s hx₁)).1 hx₁)
  · exact hs
  · by_cases hcn : c = w.queue.cells.size
    · subst hcn
      change ((w.queue.spawn .launch).1.cell _).point = _ at hp
      rw [hnew] at hp
      cases hp
    · change ((w.queue.spawn .launch).1.cell c).point = _ at hp
      change ((w.queue.spawn .launch).1.cell c).result = none at hpe
      rw [hold c hcn] at hp hpe
      exact h.starting c previous s hb' hp hpe
  · by_cases hcn : c = w.queue.cells.size
    · rw [hcn]
    · -- no other launch is pending: the one under way, if any, has ended
      obtain ⟨q, hq, hdq⟩ := hd
      change ((w.queue.spawn .launch).1.cell c).point = _ at hq
      change ((w.queue.spawn .launch).1.cell c).result = none at hpe
      rw [hold c hcn] at hq hpe
      have hl := h.one c hb' ⟨q, hq, hdq⟩ hpe
      have := hdone c hl
      simp [RunQueue.isDone_def, hpe] at this

/-- A caller that asks for a server keeps the shapes: it takes the current server, or waits for the
launch under way, or starts a launch, which finds no server. -/
theorem LifeShape.ensureStarted (hL : w.LifeShape b) :
    (StateT.run Act.ensureStarted w).2.LifeShape b := by
  by_cases hpend : ∃ l, w.life.launch = some l ∧ w.queue.isDone l = false
  · obtain ⟨l, hl, hdone⟩ := hpend
    rw [Act.run_ensureStarted_of_pending w hl hdone]
    exact hL.steady (steady_shield l)
  · have hdone : ∀ l, w.life.launch = some l → w.queue.isDone l = true := by
      intro l hl
      cases hd : w.queue.isDone l
      · exact absurd ⟨l, hl, hd⟩ hpend
      · rfl
    cases hs : w.life.server with
    | some s =>
      rw [Act.run_ensureStarted_of_ready w hdone hs]
      exact hL
    | none =>
      rw [Act.run_ensureStarted_of_absent w hdone hs]
      exact (hL.newLaunch hs hdone).steady (steady_shield _)

/-! ## The end of a step -/

/-- How a busy task's step may leave off for the shapes to hold once it has: an end, unless the task
is the lifecycle's heartbeat; or a wait, where a launch waiting for its start gate is the launch
under way, with its server current unless cleared and the phase it found absent or terminated,
where a heartbeat falls asleep on a pending cell as the lifecycle's heartbeat with no cancellation
due, and where the lifecycle's heartbeat waits only to sleep. -/
def LifeEnds (w : World) (t : CellId) : Progress → Prop
  | .done _ => w.life.heartbeat ≠ some t
  | .wait c next =>
    (∀ previous s, next = .launchAwaitingStart previous s →
      (previous = .absent ∨ previous = .terminated) ∧
        (w.life.server = none ∨ w.life.server = some s) ∧ w.life.launch = some t) ∧
    (∀ s md, next = .heartbeatAsleep s md →
      w.life.heartbeat = some t ∧ (w.queue.cell t).cancelPending = false ∧ w.Pending c) ∧
    (w.life.heartbeat = some t → ∃ s md, next = .heartbeatAsleep s md)

/-- A heartbeat waits only asleep. -/
theorem Point.eq_heartbeatAsleep {q : Point} {r : Role} (hd : q.duty = .heartbeat s)
    (hr : q.role = some r) : ∃ md, q = .heartbeatAsleep s md := by
  cases q <;> simp only [Point.duty, Point.role, reduceCtorEq, Duty.heartbeat.injEq] at hd hr
  subst hd
  exact ⟨_, rfl⟩

/-- A launch waits only for its start gate. -/
theorem Point.eq_launchAwaitingStart {q : Point} {r : Role} (hd : q.duty = .launch)
    (hr : q.role = some r) : ∃ previous s, q = .launchAwaitingStart previous s := by
  cases q <;> simp only [Point.duty, Point.role, reduceCtorEq] at hd hr
  exact ⟨_, _, rfl⟩

/-- A task beats on through a change that keeps every result and its point, wait and mark. -/
theorem Beating.of_fields (hx : w.Beating x s)
    (hres : ∀ d, (w'.queue.cell d).result = (w.queue.cell d).result)
    (hpoint : (w'.queue.cell x).point = (w.queue.cell x).point)
    (hwait : (w'.queue.cell x).waitsFor = (w.queue.cell x).waitsFor)
    (hmark : (w'.queue.cell x).cancelPending = (w.queue.cell x).cancelPending) : w'.Beating x s where
  duty := by
    obtain ⟨q, hq, hd⟩ := hx.duty
    exact ⟨q, by rw [hpoint]; exact hq, hd⟩
  pending := by show (w'.queue.cell x).result = none; rw [hres]; exact hx.pending
  unmarked := by rw [hmark]; exact hx.unmarked
  asleep d hd := by
    rw [hres]
    exact hx.asleep d (by rw [← hwait]; exact hd)

/-- An end of the busy task keeps the shapes with no task busy: the task that ends is not the
lifecycle's heartbeat, and no other cell changes. -/
theorem LifeShape.finish_busy (hT : w.Typed b') (hp : (w.queue.cell t).point = some p) (hpend : w.Pending t)
    (hL : w.LifeShape (some t)) (o : Outcome) (hnb : w.life.heartbeat ≠ some t) :
    ({ w with queue := w.queue.finish t o } : World).LifeShape none := by
  have hdone : w.queue.isDone t = false := by
    simp [RunQueue.isDone_def, show (w.queue.cell t).result = none from hpend]
  have hcell := w.queue.cell_finish hdone o
  have hother : ∀ d, d ≠ t → (w.queue.finish t o).cell d = w.queue.cell d := fun d hd => by
    rw [hcell, if_neg fun h => hd h.1.symm]
  have htlt : t < w.queue.cells.size := lt_size_of_point hp
  have hend : ¬ ({ w with queue := w.queue.finish t o } : World).Pending t := by
    show ¬ ((w.queue.finish t o).cell t).result = none
    rw [hcell, if_pos ⟨rfl, htlt⟩]
    nofun
  -- a heartbeat sleeps on a plain cell, never on the busy task
  have hsleep : ∀ x s d, w.HasDuty x (.heartbeat s) → w.Waits x d → d ≠ t := by
    rintro x s d hx hw rfl
    rw [show (w.queue.cell d).point = none from hT.plain_of_sleep hx hw] at hp
    cases hp
  have hne : ∀ d, ({ w with queue := w.queue.finish t o } : World).Pending d → d ≠ t := by
    rintro d hd rfl
    exact hend hd
  refine ⟨?_, fun x s _ hx => ?_, fun c _ hp hpe => ?_, fun c previous s _ hp hpe => ?_,
    fun c _ hd hpe => ?_⟩
  · rcases hL.shape with h₁ | h₂ | ⟨s, x, hsv, hph, hhb, hx⟩
    · exact .inl h₁
    · exact .inr (.inl h₂)
    · have hxt : x ≠ t := fun he => hnb (he ▸ hhb)
      exact .inr (.inr ⟨s, x, hsv, hph, hhb, hx.of_cell (hother x hxt) fun d hw => by
        show ((w.queue.finish t o).cell d).result = _
        rw [hother d (hsleep x s d hx.duty ⟨hx.pending, hw⟩)]⟩)
  · have hxt := hne x hx.pending
    have hcx := hother x hxt
    have hduty : w.HasDuty x (.heartbeat s) := by
      obtain ⟨q, hq, hd⟩ := hx.duty
      exact ⟨q, by rw [← hcx]; exact hq, hd⟩
    have hpx : w.Pending x := by
      show (w.queue.cell x).result = none
      rw [← hcx]
      exact hx.pending
    have hx₀ : w.Beating x s := hx.of_cell hcx.symm fun d hw => by
      have hw' : (w.queue.cell x).waitsFor = some d := by rw [← hcx]; exact hw
      show _ = ((w.queue.finish t o).cell d).result
      rw [hother d (hsleep x s d hduty ⟨hpx, hw'⟩)]
    exact hL.beats x s (fun he => hxt (Option.some.inj he).symm) hx₀
  · have hct := hne c hpe
    change ((w.queue.finish t o).cell c).point = _ at hp
    change ((w.queue.finish t o).cell c).result = none at hpe
    rw [hother c hct] at hp hpe
    exact hL.fresh c (fun he => hct (Option.some.inj he).symm) hp hpe
  · have hct := hne c hpe
    change ((w.queue.finish t o).cell c).point = _ at hp
    change ((w.queue.finish t o).cell c).result = none at hpe
    rw [hother c hct] at hp hpe
    exact hL.starting c previous s (fun he => hct (Option.some.inj he).symm) hp hpe
  · have hct := hne c hpe
    obtain ⟨q, hq, hdq⟩ := hd
    change ((w.queue.finish t o).cell c).point = _ at hq
    change ((w.queue.finish t o).cell c).result = none at hpe
    rw [hother c hct] at hq hpe
    exact hL.one c (fun he => hct (Option.some.inj he).symm) ⟨q, hq, hdq⟩ hpe

/-- A wait of the busy task that the shapes allow keeps them with no task busy: every other task
stands and waits as it did, a heartbeat falls asleep as the lifecycle's, and a launch waits for its
start gate as the launch under way. -/
theorem LifeShape.advance_wait (h : w.Running w₀ t p) (hL : w.LifeShape (some t)) {c : CellId}
    {next : Point} (hs : w.Settles t p.duty (.wait c next)) (he : w.LifeEnds t (.wait c next)) :
    (w.waitOn t c next).LifeShape none := by
  obtain ⟨hduty, -, r, hr, -, hc, hct, -⟩ := hs
  obtain ⟨hlaunch, hasleep, hbeat⟩ := he
  have ht : t < w.queue.cells.size := lt_size_of_point h.point
  have hres := waitOn_result next ht hct hc
  have hpoint := waitOn_point next ht hct hc
  have hwait := waitOn_waitsFor next ht hct hc
  have hmark := waitOn_cancelPending next ht hct hc
  have hpend := waitOn_pending next ht hct hc
  have hother : ∀ x, x ≠ t → ∀ s, (w.waitOn t c next).Beating x s ↔ w.Beating x s := fun x hx s =>
    ⟨fun hb => hb.of_fields (fun d => (hres d).symm) (by rw [hpoint, if_neg hx])
        (by rw [hwait, if_neg hx]) (hmark x).symm,
      fun hb => hb.of_fields hres (by rw [hpoint, if_neg hx]) (by rw [hwait, if_neg hx]) (hmark x)⟩
  -- the task itself beats afterwards only asleep, as the lifecycle's heartbeat
  have hself : ∀ s, (w.waitOn t c next).Beating t s → w.life.heartbeat = some t := by
    intro s hb
    obtain ⟨q, hq, hd⟩ := hb.duty
    rw [hpoint, if_pos rfl] at hq
    injection hq with hq
    subst hq
    obtain ⟨md, rfl⟩ := Point.eq_heartbeatAsleep hd hr
    exact (hasleep s md rfl).1
  have hnt : ∀ y, y ≠ t → some t ≠ some y := fun y hy he => hy (Option.some.inj he).symm
  refine ⟨?_, fun x s _ hx => ?_, fun c' _ hp hpe => ?_, fun c' previous s _ hp hpe => ?_,
    fun c' _ hd hpe => ?_⟩
  · rcases hL.shape with h₁ | h₂ | ⟨s, x, hsv, hph, hhb, hx⟩
    · exact .inl h₁
    · exact .inr (.inl h₂)
    · refine .inr (.inr ⟨s, x, hsv, hph, hhb, ?_⟩)
      by_cases hxt : x = t
      · subst hxt
        obtain ⟨s', md, rfl⟩ := hbeat hhb
        obtain ⟨-, hm, hpc⟩ := hasleep s' md rfl
        -- the sleep is a heartbeat's of the current server, as the task's first point was
        have hds : Point.duty (.heartbeatAsleep s' md) = .heartbeat s := by
          obtain ⟨q, hq, hd⟩ := hx.duty
          rw [h.point] at hq
          injection hq with hq
          rw [hduty, hq]
          exact hd
        refine ⟨⟨_, by rw [hpoint, if_pos rfl], hds⟩, (hpend x).2 hx.pending, by rw [hmark]; exact hm,
          fun d hd => ?_⟩
        rw [hwait, if_pos rfl] at hd
        injection hd with hd
        subst hd
        exact ((hpend _).2 hpc).ne_cancelled
      · exact (hother x hxt s).2 hx
  · by_cases hxt : x = t
    · subst hxt
      exact hself s hx
    · exact hL.beats x s (hnt x hxt) ((hother x hxt s).1 hx)
  · by_cases hct' : c' = t
    · subst hct'
      rw [hpoint, if_pos rfl] at hp
      injection hp with hp
      subst hp
      cases hr
    · rw [hpoint, if_neg hct'] at hp
      exact hL.fresh c' (hnt c' hct') hp ((hpend c').1 hpe)
  · by_cases hct' : c' = t
    · subst hct'
      rw [hpoint, if_pos rfl] at hp
      injection hp with hp
      obtain ⟨hprev, hsrv, -⟩ := hlaunch previous s hp
      exact ⟨hprev, hsrv⟩
    · rw [hpoint, if_neg hct'] at hp
      exact hL.starting c' previous s (hnt c' hct') hp ((hpend c').1 hpe)
  · obtain ⟨q, hq, hdq⟩ := hd
    by_cases hct' : c' = t
    · subst hct'
      rw [hpoint, if_pos rfl] at hq
      injection hq with hq
      subst hq
      obtain ⟨previous, s, rfl⟩ := Point.eq_launchAwaitingStart hdq hr
      exact (hlaunch previous s rfl).2.2
    · rw [hpoint, if_neg hct'] at hq
      exact hL.one c' (hnt c' hct') ⟨q, hq, hdq⟩ ((hpend c').1 hpe)

/-- Recording how the busy task left off keeps the shapes with no task busy, when its progress
settles and is one the shapes allow. -/
theorem LifeShape.advance (h : w.Running w₀ t p) (hL : w.LifeShape (some t)) {pr : Progress}
    (hs : w.Settles t p.duty pr) (he : w.LifeEnds t pr) : (w.exec (Act.advance t pr)).LifeShape none := by
  cases pr with
  | done o =>
    rw [exec_advance_done]
    exact hL.finish_busy h.toTyped h.point h.pending o he
  | wait c next =>
    rw [exec_advance_wait]
    exact hL.advance_wait h hs he

/-- A step of the busy task `t` that keeps the shapes and leaves off as they allow. -/
def LifeStep (t : CellId) (r : Progress × World) : Prop :=
  r.2.LifeShape (some t) ∧ r.2.LifeEnds t r.1

/-! ## The launch's own steps -/

/-- While the busy task's launch is under way, no other launch is pending. -/
theorem LifeShape.only_launch (h : w.LifeShape (some t)) (hl : w.life.launch = some t)
    (hb : some t ≠ some c) (hd : w.HasDuty c .launch) (hpe : w.Pending c) : False := by
  have hc := h.one c hb hd hpe
  rw [hl] at hc
  exact hb hc

/-- Ending the launch under way, the busy task's, keeps the shapes: the lifecycle keeps its server
and heartbeat, and its phase, or where no server is current takes one of the phases a launch
finds. -/
theorem LifeShape.endLaunch (h : w.LifeShape (some t)) (hl : w.life.launch = some t)
    (hq : w'.queue = w.queue) (hs : w'.life.server = w.life.server)
    (hh : w'.life.heartbeat = w.life.heartbeat)
    (hp : w'.life.phase = w.life.phase ∨
      (w.life.server = none ∧ (w'.life.phase = .absent ∨ w'.life.phase = .terminated))) :
    w'.LifeShape (some t) := by
  have hcell : ∀ d, w'.queue.cell d = w.queue.cell d := fun d => by rw [hq]
  have hbeat : ∀ x s, w'.Beating x s ↔ w.Beating x s :=
    fun x s => ⟨fun hx => hx.of_cells fun d => (hcell d).symm, fun hx => hx.of_cells hcell⟩
  -- before as after, no launch task but the busy one is pending
  have hnone : ∀ c, some t ≠ some c → w'.HasDuty c .launch → w'.Pending c → False := by
    rintro c hb ⟨q, hq', hdq⟩ hpe
    rw [hcell] at hq'
    exact h.only_launch hl hb ⟨q, hq', hdq⟩ (by show (w.queue.cell c).result = none; rw [← hcell]; exact hpe)
  refine ⟨?_, fun x s hb hx => ?_, fun c hb hp' hpe => (hnone c hb ⟨_, hp', rfl⟩ hpe).elim,
    fun c _ _ hb hp' hpe => (hnone c hb ⟨_, hp', rfl⟩ hpe).elim, fun c hb hd hpe => (hnone c hb hd hpe).elim⟩
  · rw [hs, hh]
    rcases hp with hp | ⟨hsn, hph⟩
    · rw [hp]
      rcases h.shape with h₁ | h₂ | ⟨s, x, hsv, hph', hhb, hx⟩
      · exact .inl h₁
      · exact .inr (.inl h₂)
      · exact .inr (.inr ⟨s, x, hsv, hph', hhb, (hbeat x s).2 hx⟩)
    · -- no server: the lifecycle had none, and no heartbeat either
      exact .inl ⟨hsn, (h.of_no_server hsn).1, hph⟩
  · rw [hh]
    exact h.beats x s hb ((hbeat x s).1 hx)

/-- The end of the busy task's launch, with the phase it found back where no server is current,
keeps the shapes and is an end the shapes allow. -/
theorem LifeShape.launchEnd (hT : w.Typed b) (h : w.LifeShape (some t)) (hl : w.life.launch = some t)
    {previous : Phase} (hprev : w.life.server = none → previous = .absent ∨ previous = .terminated)
    (o : Outcome) : LifeStep t (StateT.run (Act.launchEnd previous o) w) := by
  have hnb : w.life.heartbeat ≠ some t := hT.heartbeat_ne (hT.launch_ref t hl).1 fun _ => nofun
  by_cases hv : ∃ r, o = .value r
  · obtain ⟨r, rfl⟩ := hv
    rw [Act.run_launchEnd_value]
    exact ⟨h.endLaunch hl rfl rfl rfl (.inl rfl), hnb⟩
  · rw [Act.run_launchEnd_of_not_value w previous fun r hr => hv ⟨r, hr⟩]
    refine ⟨h.endLaunch hl rfl rfl rfl ?_, hnb⟩
    cases hs : w.life.server with
    | none => exact .inr ⟨rfl, by simp only [Option.isNone_none, if_true]; exact hprev hs⟩
    | some s => exact .inl (by simp only [Option.isNone_some, Bool.false_eq_true, if_false])

/-- A launch whose check fails ends as it began: with no server, and the phase it found. -/
theorem LifeShape.launchFailed (hT : w.Typed b) (h : w.LifeShape (some t))
    (hl : w.life.launch = some t) (hs : w.life.server = none) (v : Option Value) (f : Fault) :
    LifeStep t (StateT.run (Act.launchEnd w.life.phase (.failed f)) (Act.launchChecked w v)) := by
  have hnb : w.life.heartbeat ≠ some t := hT.heartbeat_ne (hT.launch_ref t hl).1 fun _ => nofun
  rw [Act.run_launchEnd_of_not_value _ _ fun r hr => by cases hr]
  refine ⟨h.endLaunch hl rfl rfl rfl (.inl ?_), hnb⟩
  simp [Act.launchChecked, hs]

/-- Making the launch's server keeps the shapes: the new server is current and starting, and no
other launch is pending. -/
theorem LifeShape.launchMade (h : w.LifeShape (some t)) (hl : w.life.launch = some t)
    (hs : w.life.server = none) (v : Value) (md : Metadata) :
    (Act.launchMade w v md).LifeShape (some t) := by
  have hhn : w.life.heartbeat = none := (h.of_no_server hs).1
  have hbeat : ∀ x s, (Act.launchMade w v md).Beating x s → w.Beating x s :=
    fun x s hx => hx.of_cells fun _ => rfl
  refine ⟨.inr (.inl ⟨_, rfl, hhn, rfl⟩), fun x s hb hx => h.beats x s hb (hbeat x s hx),
    fun c hb hp hpe => (h.only_launch hl hb ⟨_, hp, rfl⟩ hpe).elim,
    fun c previous s hb hp hpe => (h.only_launch hl hb ⟨_, hp, rfl⟩ hpe).elim,
    fun c hb hd hpe => (h.only_launch hl hb hd hpe).elim⟩

theorem launch_clearServer (s : Nat) : (w.exec (Act.clearServer s)).life.launch = w.life.launch := by
  by_cases hs : w.life.server = some s
  · rw [World.exec, Act.run_clearServer_of_current w hs]
  · rw [World.exec, Act.run_clearServer_of_ne w hs]

theorem launch_handleLaunch (s : Nat) : (w.exec (Act.handleLaunch s)).life.launch = w.life.launch := by
  by_cases hs : w.life.server = some s
  · rw [World.exec, Act.run_handleLaunch_of_current w hs]
  · rw [World.exec, Act.run_handleLaunch_of_ne w hs]

/-- A failed start clears its server and ends the launch with the phase it found, if no server is
current. -/
theorem LifeShape.launchAbort (hT : w.Typed b) (h : w.LifeShape (some t)) (hl : w.life.launch = some t)
    {previous : Phase} (hprev : previous = .absent ∨ previous = .terminated) (s : Nat) (o : Outcome) :
    LifeStep t (StateT.run (Act.launchAbort previous s o) w) := by
  rw [Act.run_launchAbort]
  have hT₁ : ({ w.exec (Act.clearServer s) with
      managerFolders := (w.exec (Act.clearServer s)).managerFolders - 1 } : World).Typed b :=
    (hT.clearServer s).of_queue rfl (.of_fields rfl rfl rfl rfl rfl rfl rfl rfl)
  exact LifeShape.launchEnd hT₁ ((h.clearServer hT s).steady (steady_of_queue rfl rfl))
    (by rw [← hl]; exact launch_clearServer s) (fun _ => hprev) o

/-- The start of the launch's server: it goes through, and reports the launch if so scripted, or
the launch aborts; either way the launch ends as the shapes allow. -/
theorem LifeShape.launchStarted (h : w.Running w₀ t p) (hL : w.LifeShape (some t))
    (hl : w.life.launch = some t) {previous : Phase} (hprev : previous = .absent ∨ previous = .terminated)
    (s : Nat) : LifeStep t (StateT.run (Act.launchStarted previous s) w) := by
  by_cases he : w.script.startError = .null
  · rw [Act.run_launchStarted_of_null w previous s he]
    dsimp only
    have hT₁ : ({ w with servers := w.servers.modify s fun e => { e with started := true } } :
        World).Typed (some t) :=
      h.toTyped.setServers _ (by simp) fun s' hs' => started_modify_started _ _ _ (.inr hs')
    have h₁ : ({ w with servers := w.servers.modify s fun e => { e with started := true } } :
        World).LifeShape (some t) := hL.steady (steady_of_queue rfl rfl)
    split
    · exact LifeShape.launchEnd (hT₁.handleLaunch s) (h₁.handleLaunch hT₁ s)
        (by rw [launch_handleLaunch]; exact hl) (fun _ => hprev) _
    · exact LifeShape.launchEnd hT₁ h₁ hl (fun _ => hprev) _
  · rw [Act.run_launchStarted_of_error w previous s he]
    split
    · have hT₁ : ({ w with script := { w.script with startError := .null } } : World).Typed (some t) :=
        h.toTyped.of_queue rfl (.of_fields rfl rfl rfl rfl rfl rfl rfl rfl)
      exact LifeShape.launchAbort hT₁ (hL.steady (steady_of_queue rfl rfl)) hl hprev s _
    · exact LifeShape.launchAbort h.toTyped hL hl hprev s _

/-- A launch, from a world with no server: a failed check ends it as it began; otherwise it makes
its server and waits for a start gate, as the launch under way with its server current, or starts
the server at once. -/
theorem LifeShape.launchBegin (h : w.Running w₀ t .launch) (hL : w.LifeShape (some t))
    (hs : w.life.server = none) (hl : w.life.launch = some t) :
    LifeStep t (StateT.run Act.launchBegin w) := by
  have hphase : w.life.phase = .absent ∨ w.life.phase = .terminated := (hL.of_no_server hs).2
  rcases Act.run_launchBegin_cases (w := w) with ⟨v, f, -, hrun⟩ | ⟨st, md, -, -, hrun⟩
  · rw [hrun]
    exact hL.launchFailed h.toTyped hl hs v f
  · rw [hrun, Act.run_bind']
    have h₂ := (h.launchMade st.version md).claimStartGate.1
    have hst : Steady (Act.launchMade w st.version md)
        (StateT.run Act.claimStartGate (Act.launchMade w st.version md)).2 (some t) :=
      steady_claimStartGate
    have hL₂ := (hL.launchMade hl hs st.version md).steady hst
    have hl₂ : (StateT.run Act.claimStartGate (Act.launchMade w st.version md)).2.life.launch = some t := by
      rw [hst.launch]; exact hl
    cases hc : (StateT.run Act.claimStartGate (Act.launchMade w st.version md)).1 with
    | some c =>
      -- waiting for the gate, with the new server current and the launch under way
      show LifeStep t (.wait c (.launchAwaitingStart w.life.phase w.servers.size),
        (StateT.run Act.claimStartGate (Act.launchMade w st.version md)).2)
      refine ⟨hL₂, fun previous s hn => ?_, fun _ _ hn => (nomatch hn), fun hh => ?_⟩
      · cases hn
        exact ⟨hphase, .inr (by rw [hst.server]; rfl), hl₂⟩
      · have hnb := h.toTyped.heartbeat_ne (h.toTyped.launch_ref t hl).1 fun _ => nofun
        rw [hst.heartbeat] at hh
        exact absurd hh hnb
    | none => exact hL₂.launchStarted h₂ hl₂ hphase _

/-! ## The other duties -/

/-- A step of a task that neither launches nor beats ends as the shapes allow: it never leaves off
in a launch's or a heartbeat's wait, and it is not the heartbeat. -/
theorem Stepped.lifeEnds {r : Progress × World} (hst : Stepped w₀ t p r) (hl : p.duty ≠ .launch)
    (hb : ∀ s, p.duty ≠ .heartbeat s) : r.2.LifeEnds t r.1 := by
  obtain ⟨h, hs⟩ := hst
  have hnb : r.2.life.heartbeat ≠ some t := h.toTyped.heartbeat_ne ⟨p, h.point, rfl⟩ hb
  obtain ⟨_ | ⟨c, next⟩, v⟩ := r
  · exact hnb
  · obtain ⟨hdu, -⟩ := hs
    refine ⟨fun previous s hn => ?_, fun s md hn => ?_, fun hh => absurd hh hnb⟩
    · subst hn
      exact absurd hdu.symm hl
    · subst hn
      exact absurd hdu.symm (hb s)

theorem LifeShape.stopTerminate (hT : w.Typed b) (h : w.LifeShape (some t)) (closing : Bool) (s : Nat) :
    (StateT.run (Act.stopTerminate closing s) w).2.LifeShape (some t) := by
  rw [Act.run_stopTerminate]
  have hT₁ : ({ w with servers := w.servers.modify s fun e => { e with terminated := true } } :
      World).Typed b :=
    hT.setServers _ (by simp) fun s' hs' => by rw [started_terminated]; exact hs'
  have h₁ : ({ w with servers := w.servers.modify s fun e => { e with terminated := true } } :
      World).LifeShape (some t) := h.steady (steady_of_queue rfl rfl)
  exact (h₁.clearServer hT₁ s).steady (steady_stopDrain (hT₁.clearServer s) closing)

/-- A stop once no launch is under way clears the server: the shapes hold whether it then waits
for the cancelled heartbeat or terminates the server at once. -/
theorem LifeShape.stopAfterLaunch (hT : w.Typed b) (h : w.LifeShape (some t)) (closing : Bool) :
    (StateT.run (Act.stopAfterLaunch closing) w).2.LifeShape (some t) := by
  cases hs : w.life.server with
  | none =>
    rw [Act.run_stopAfterLaunch_of_none w closing hs]
    exact h.steady (steady_stopDrain hT closing)
  | some s =>
    cases hh : w.life.heartbeat with
    | none =>
      rw [Act.run_stopAfterLaunch_of_no_beat w closing hs hh]
      exact (h.clearServer hT s).stopTerminate (hT.clearServer s) closing s
    | some c =>
      rw [Act.run_stopAfterLaunch_of_beat w closing hs hh]
      split
      · exact (h.clearServer hT s).stopTerminate (hT.clearServer s) closing s
      · exact h.clearServer hT s

/-- A stop keeps the shapes: it waits for the launch under way, or clears the server. -/
theorem LifeShape.stopBegin (h : w.Running w₀ t p) (hd : p.duty = .stop closing)
    (hL : w.LifeShape (some t)) : (StateT.run (Act.stopBegin closing) w).2.LifeShape (some t) := by
  have h₀ : (Act.stopStart w closing).Running w₀ t p := by
    cases closing
    · exact h
    · exact h.supersedeAll fun j => by rw [hd]; nofun
  have hL₀ : (Act.stopStart w closing).LifeShape (some t) := hL.steady (steady_stopStart h.toTyped closing)
  cases hl : w.life.launch with
  | none =>
    rw [Act.run_stopBegin_of_none w closing hl]
    exact hL₀.stopAfterLaunch h₀.toTyped closing
  | some l =>
    rw [Act.run_stopBegin_of_launch w closing hl]
    exact hL₀.steady (steady_newCell_listen _ _)

/-- Taking a server keeps the shapes, whether the server is at hand or waited for. -/
theorem LifeShape.ensured (h : w.Running w₀ t p) (hask : p.duty.AsksServer) (hL : w.LifeShape (some t))
    (k : Ensured → Act Progress) (hready : ∀ s, (StateT.run (k (.ready s)) w).2.LifeShape (some t))
    (hwait : ∀ c W, (StateT.run (k (.waitOn c)) W).2 = W) :
    (StateT.run (Act.ensureStarted >>= k) w).2.LifeShape (some t) := by
  rw [Act.run_bind']
  obtain ⟨-, ⟨s, hv, hw⟩ | ⟨c, hv, -⟩⟩ := h.ensureStarted hask
  · rw [hv, hw]
    exact hready s
  · rw [hv, hwait]
    exact hL.ensureStarted

theorem LifeShape.jobBegin (h : w.Running w₀ t p) {j : Nat} (hd : p.duty = .job j)
    (hL : w.LifeShape (some t)) : (StateT.run (Act.jobBegin j) w).2.LifeShape (some t) := by
  rw [Act.jobBegin, Act.run_bind', Act.run_isSuperseded]
  dsimp only
  split
  · exact hL
  · exact hL.ensured h (by rw [hd]; trivial) _ (fun s => hL.steady (steady_jobWith j s)) fun _ _ => rfl

/-- The step of a task of any duty but a launch's or a heartbeat's keeps the shapes. -/
theorem LifeShape.other (h : w.Running w₀ t p) (hL : w.LifeShape (some t)) (input : Outcome)
    (hdu : p.duty ≠ .launch ∧ ∀ s, p.duty ≠ .heartbeat s) :
    (StateT.run (Act.run p input) w).2.LifeShape (some t) := by
  have hT := h.toTyped
  cases p with
  | complete call => exact hL.steady (steady_completeBegin hT call)
  | completeAwaitingJob j => exact hL.steady (steady_completeEnd j input)
  | job j => exact hL.jobBegin h rfl
  | jobAwaitingServer j =>
    rcases input with (_ | s | _) | f | _
    case value.server => exact hL.steady (steady_jobWith j s)
    all_goals exact hL
  | jobAwaitingReply j =>
    rcases input with r | f | _
    case value =>
      show (StateT.run (Act.jobReply j) w).2.LifeShape _
      rw [Act.run_jobReply]
      exact hL
    all_goals exact hL
  | launch => exact absurd rfl hdu.1
  | launchAwaitingStart previous s => exact absurd rfl hdu.1
  | heartbeat s md => exact absurd rfl (hdu.2 s)
  | heartbeatAsleep s md => exact absurd rfl (hdu.2 s)
  | cancelNotice rid =>
    show (StateT.run (Act.cancelNotice rid *> (pure (.done (.value .unit)) : Act Progress)) w).2.LifeShape _
    rw [Act.run_seqRight']
    exact hL.steady (steady_cancelNotice rid)
  | warmUp => exact hL.ensured h trivial _ (fun _ => hL) fun _ _ => rfl
  | warmUpAwaitingServer => rcases input with r | f | _ <;> exact hL
  | accept id => exact hL.ensured h trivial _ (fun s => hL.steady (steady_acceptWith id s)) fun _ _ => rfl
  | acceptAwaitingServer id =>
    rcases input with (_ | s | _) | f | _
    case value.server => exact hL.steady (steady_acceptWith id s)
    all_goals exact hL
  | ensure => exact hL.ensured h trivial _ (fun _ => hL) fun _ _ => rfl
  | ensureAwaitingServer => exact hL
  | stop closing => exact hL.stopBegin h rfl
  | stopAwaitingLaunch closing =>
    rcases input with r | f | _
    case cancelled => exact hL
    all_goals exact hL.stopAfterLaunch hT closing
  | stopAwaitingHeartbeat closing s =>
    rcases input with r | f | _
    case failed => exact hL
    all_goals exact hL.stopTerminate hT closing s
  | stopAwaitingDrain => rcases input with r | f | _ <;> exact hL
  | notice n => exact hL.steady (steady_applyNotice n)

/-- A heartbeat's beat: it sends its request and falls asleep on a new cell, which is pending, as
the lifecycle's heartbeat and unmarked. -/
theorem LifeShape.heartbeatBegin (hL : w.LifeShape (some t)) (hh : w.life.heartbeat = some t)
    (hm : (w.queue.cell t).cancelPending = false) (s : Nat) (md : Metadata) :
    LifeStep t (StateT.run (Act.heartbeatBegin s md) w) := by
  have hst : Steady w (StateT.run (Act.heartbeatBegin s md) w).2 (some t) := steady_heartbeatBegin s md
  refine ⟨hL.steady hst, ?_⟩
  rw [Act.run_heartbeatBegin] at hst ⊢
  have hq : (w.exec (Act.receive s (.heartbeat md))).queue = w.queue := by
    rw [Act.exec_receive]
    split <;> rfl
  refine ⟨fun _ _ hn => (nomatch hn), fun _ _ _ => ⟨by rw [hst.heartbeat]; exact hh, ?_, ?_⟩,
    fun _ => ⟨s, md, rfl⟩⟩
  · show ((w.exec _).queue.newCell.1.cell t).cancelPending = false
    rw [RunQueue.cell_newCell, hq]
    exact hm
  · show ((w.exec _).queue.newCell.1.cell (w.exec _).queue.cells.size).result = none
    rw [RunQueue.cell_newCell, RunQueue.cell_of_size_le _ (Nat.le_refl _)]

/-! ## A step from its point -/

/-- What the lifecycle holds of the busy task `t`, woken at `p` with `input`: a launch about to
begin finds no server, a launch about to start its server finds what the shapes allow, and `t` is
the lifecycle's heartbeat exactly when it is about to beat, first or woken by its interval; `t` is
not marked. -/
structure OwnShape (w : World) (t : CellId) (p : Point) (input : Outcome) : Prop where
  fresh : p = .launch → w.life.server = none ∧ w.life.launch = some t
  starting : ∀ previous s, p = .launchAwaitingStart previous s →
    (previous = .absent ∨ previous = .terminated) ∧
      (w.life.server = none ∨ w.life.server = some s) ∧ w.life.launch = some t
  beat : w.life.heartbeat = some t ↔
    (∃ s md, p = .heartbeat s md) ∨ ∃ s md, p = .heartbeatAsleep s md ∧ input = .value .unit
  unmarked : (w.queue.cell t).cancelPending = false

/-- The step of the busy task from its point keeps the shapes and ends as they allow. -/
theorem LifeShape.run (h : w.Running w₀ t p) (hL : w.LifeShape (some t)) {input : Outcome}
    (ho : w.OwnShape t p input) (hin : ∀ r, p.role = some r → w.RoleResult r input) :
    LifeStep t (StateT.run (Act.run p input) w) := by
  by_cases hdu : p.duty ≠ .launch ∧ ∀ s, p.duty ≠ .heartbeat s
  · exact ⟨hL.other h input hdu, (h.run input hin).lifeEnds hdu.1 hdu.2⟩
  -- the lifecycle's own tasks: a launch and a heartbeat
  cases p
  case launch =>
    obtain ⟨hs, hl⟩ := ho.fresh rfl
    exact hL.launchBegin h hs hl
  case launchAwaitingStart previous s =>
    obtain ⟨hprev, -, hl⟩ := ho.starting previous s rfl
    rcases input with r | f | _
    · exact hL.launchStarted h hl hprev s
    · exact absurd (hin _ rfl) nofun
    · exact absurd (hin _ rfl) nofun
  case heartbeat s md => exact hL.heartbeatBegin (ho.beat.2 (.inl ⟨s, md, rfl⟩)) ho.unmarked s md
  case heartbeatAsleep s md =>
    -- woken by its interval the lifecycle's heartbeat beats again; a cancelled one ends, and it is
    -- the lifecycle's no longer
    rcases hin _ rfl with rfl | rfl
    · refine ⟨hL, fun hh => ?_⟩
      rcases ho.beat.1 hh with ⟨_, _, hn⟩ | ⟨_, _, -, hn⟩ <;> cases hn
    · exact hL.heartbeatBegin (ho.beat.2 (.inr ⟨s, md, rfl, rfl⟩)) ho.unmarked s md
  all_goals exact absurd ⟨fun hn => (nomatch hn), fun _ hn => (nomatch hn)⟩ hdu

end World

end CompletionClient.Service
