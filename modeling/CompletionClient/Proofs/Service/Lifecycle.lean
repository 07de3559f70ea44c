import CompletionClient.Proofs.Service.LifeShape
/-!
# The lifecycle over every run

The shapes of `World.LifeShape` hold in every world a run of a fresh service
reaches (`World.Fresh.lifeShape_run`), and every heartbeat request an event
sends goes to the server that is current and running when the event begins.
Both are read off one relation between the world before an event and the world
after it, `World.LifeMove`, which every event keeps (`World.LifeShape.step`).

A wake that starts a task, or resumes one that waited, makes it busy at its
point; what the lifecycle then holds of the task (`World.OwnShape`) is read off
the shapes with no task busy (`LifeShape.ownShape_start`,
`LifeShape.ownShape_resume`), and the task's step keeps the shapes
(`LifeShape.run`).  A heartbeat sends its request at its first point and each
time its interval ends its sleep (`Event.elapse`); either way it is the
lifecycle's heartbeat, so its server is current and running
(`LifeShape.heartbeat_current`), while a heartbeat woken by a cancellation ends
and sends nothing.  A notice that passes a result on to a plain cell is quiet,
and the other events hold or open a gate, end a sleep, report a launch or an
end of a server, or change what the shapes do not read.
-/

namespace CompletionClient.Service

namespace World

variable {w w' : World} {b : Option CellId} {t x : CellId} {p : Point} {s : Nat}

/-! ## Reading the shapes -/

/-- With no task busy the clauses hold of every task, the busy one included. -/
theorem LifeShape.relax (h : w.LifeShape none) : w.LifeShape b where
  shape := h.shape
  beats x s _ := h.beats x s nofun
  fresh c _ := h.fresh c nofun
  starting c previous s _ := h.starting c previous s nofun
  one c _ := h.one c nofun

theorem LifeShape.of_cells (h : w.LifeShape b) (hc : ∀ d, w'.queue.cell d = w.queue.cell d)
    (hl : w'.life = w.life) : w'.LifeShape b :=
  h.steady ((Quiet.of_cells hc).steady hl)

/-- The lifecycle's heartbeat beats. -/
theorem LifeShape.beating_of_heartbeat (h : w.LifeShape b) (hh : w.life.heartbeat = some x) :
    ∃ s, w.Beating x s := by
  rcases h.shape with ⟨-, hn, -⟩ | ⟨_, -, hn, -⟩ | ⟨s, y, -, -, hy, hb⟩
  · rw [hn] at hh
    cases hh
  · rw [hn] at hh
    cases hh
  · rw [hh] at hy
    cases hy
    exact ⟨s, hb⟩

/-- A heartbeat task that is the lifecycle's beats for the current server, which runs. -/
theorem LifeShape.heartbeat_current (h : w.LifeShape b) (hh : w.life.heartbeat = some x)
    (hd : w.HasDuty x (.heartbeat s)) : w.life.server = some s ∧ w.life.phase = .running := by
  rcases h.shape with ⟨-, hn, -⟩ | ⟨_, -, hn, -⟩ | ⟨s', y, hsv, hph, hy, hb⟩
  · rw [hn] at hh
    cases hh
  · rw [hn] at hh
    cases hh
  · rw [hh] at hy
    cases hy
    have hs : Duty.heartbeat s = .heartbeat s' := hd.unique hb.duty
    cases hs
    exact ⟨hsv, hph⟩

/-- A first point of a heartbeat is its beat. -/
theorem Point.eq_heartbeat {q : Point} (hd : q.duty = .heartbeat s) (hr : q.role = none) :
    ∃ md, q = .heartbeat s md := by
  cases q <;> simp only [Point.duty, Point.role, reduceCtorEq, Duty.heartbeat.injEq] at hd hr
  subst hd
  exact ⟨_, rfl⟩

/-! ## The busy task at its point -/

/-- A task about to start, pending, idle and unmarked at a first point, stands as the lifecycle
has it. -/
theorem LifeShape.ownShape_start {b' : Option CellId} (hT : w.Typed b') (hL : w.LifeShape none)
    (hpend : w.Pending t) (hp : (w.queue.cell t).point = some p) (hrole : p.role = none)
    (hidle : (w.queue.cell t).waitsFor = none) (hm : (w.queue.cell t).cancelPending = false) :
    w.OwnShape t p (.value .unit) where
  fresh hpl := by
    subst hpl
    exact ⟨hL.fresh t nofun hp hpend, hL.one t nofun ⟨_, hp, rfl⟩ hpend⟩
  starting previous s hpl := by
    subst hpl
    cases hrole
  beat := by
    constructor
    · intro hh
      obtain ⟨s, q, hq, hd⟩ := hT.heartbeat_ref t hh
      rw [hp] at hq
      cases hq
      obtain ⟨md, rfl⟩ := Point.eq_heartbeat hd hrole
      exact .inl ⟨s, md, rfl⟩
    · -- a heartbeat at its beat, pending and unmarked, beats: it is the lifecycle's
      rintro (⟨s, md, rfl⟩ | ⟨s, md, rfl, -⟩)
      · exact hL.beats t s nofun ⟨⟨_, hp, rfl⟩, hpend, hm, fun d hd => by rw [hidle] at hd; cases hd⟩
      · cases hrole
  unmarked := hm

/-- A task woken by the end of the cell it waits for stands, once awake, as the lifecycle has it:
a heartbeat woken in its sleep is the lifecycle's exactly when its interval, not a cancellation,
woke it, since the lifecycle's heartbeat beats. -/
theorem LifeShape.ownShape_resume (hL : w.LifeShape none) {src : CellId} {r : Role} (hw : w.Waits x src)
    (hsrc : ¬ w.Pending src) (hp : (w.queue.cell x).point = some p) (hr : p.role = some r)
    (hin : w.RoleResult r (if (w.queue.cell x).cancelPending then .cancelled
      else (w.queue.cell src).result.getD .cancelled)) :
    (w.wakeUp x).OwnShape x p (if (w.queue.cell x).cancelPending then .cancelled
      else (w.queue.cell src).result.getD .cancelled) where
  fresh hpl := by
    subst hpl
    cases hr
  starting previous s hpl := by
    subst hpl
    obtain ⟨hprev, hsrv⟩ := hL.starting x previous s nofun hp hw.1
    exact ⟨hprev, hsrv, hL.one x nofun ⟨_, hp, rfl⟩ hw.1⟩
  beat := by
    obtain ⟨o, ho⟩ := Option.ne_none_iff_exists'.1 hsrc
    constructor
    · -- the lifecycle's heartbeat was unmarked, asleep in a sleep its interval ended
      intro hh
      obtain ⟨s, hb⟩ := hL.beating_of_heartbeat (x := x) hh
      obtain ⟨q, hq, hd⟩ := hb.duty
      rw [hp] at hq
      cases hq
      obtain ⟨md, rfl⟩ := Point.eq_heartbeatAsleep hd hr
      cases (role_of_heartbeat hd hr)
      rw [hb.unmarked, if_neg Bool.false_ne_true, ho, Option.getD_some] at hin ⊢
      refine .inr ⟨s, md, rfl, ?_⟩
      rcases hin with hc | hv
      · exact absurd (by rw [ho, hc]) (hb.asleep src hw.2)
      · exact hv
    · rintro (⟨s, md, rfl⟩ | ⟨s, md, rfl, hv⟩)
      · cases hr
      · -- woken by its interval and unmarked, the heartbeat beat: it is the lifecycle's
        cases hm : (w.queue.cell x).cancelPending
        case true => rw [hm, if_pos rfl] at hv; cases hv
        rw [hm, if_neg Bool.false_ne_true, ho, Option.getD_some] at hv
        refine hL.beats x s nofun ⟨⟨_, hp, rfl⟩, hw.1, hm, fun d hd hc => ?_⟩
        rw [hw.2] at hd
        cases hd
        rw [ho, hv] at hc
        cases hc
  unmarked := by
    show ((w.queue.modifyCell x fun cell => { cell with cancelPending := false, waitsFor := none }).cell
      x).cancelPending = false
    rw [w.queue.cell_modifyCell_self (lt_size_of_point hp)]

/-- Waking a task clears its wait and its mark: quiet, with that task exempt. -/
theorem quiet_wakeUp : Quiet w (w.wakeUp x) (some x) := by
  have hres : ∀ d, ((w.wakeUp x).queue.cell d).result = (w.queue.cell d).result :=
    fun d => w.queue.field_modifyCell x d Cell.result fun _ => rfl
  have hpoint : ∀ d, ((w.wakeUp x).queue.cell d).point = (w.queue.cell d).point :=
    fun d => w.queue.field_modifyCell x d Cell.point fun _ => rfl
  have hother : ∀ d, d ≠ x → (w.wakeUp x).queue.cell d = w.queue.cell d :=
    fun d hd => w.queue.cell_modifyCell_of_ne (Ne.symm hd) _
  refine ⟨fun h s hb => ?_, fun h s hne hb => ?_, fun c _ _ hpe => ?_⟩
  · by_cases hx : h = x
    · -- the woken task itself beats on, idle and unmarked
      subst hx
      obtain ⟨q, hq, hd⟩ := hb.duty
      have hcell : (w.wakeUp h).queue.cell h =
          { w.queue.cell h with cancelPending := false, waitsFor := none } :=
        w.queue.cell_modifyCell_self (lt_size_of_point hq) _
      refine ⟨⟨q, by rw [hpoint]; exact hq, hd⟩, by show _ = none; rw [hres]; exact hb.pending,
        by rw [hcell], fun d hw => ?_⟩
      rw [hcell] at hw
      cases hw
    · exact hb.of_fields (fun d => hres d) (hpoint h) (by rw [hother h hx]) (by rw [hother h hx])
  · have hx : h ≠ x := fun he => hne (by rw [he])
    exact hb.of_fields (fun d => (hres d).symm) (hpoint h).symm (by rw [hother h hx])
      (by rw [hother h hx])
  · refine ⟨hpoint c, ?_⟩
    show (w.queue.cell c).result = none
    rw [← hres]
    exact hpe

/-! ## One relation for every event -/

/-- What every event does to the lifecycle: the shapes hold after it, and the log after it is the
log before, or nothing where it was cleared, followed by new requests, of which every heartbeat
goes to the server that was current and running when the event began. -/
structure LifeMove (w w' : World) : Prop where
  shape : w'.LifeShape none
  log : ∃ new, (w'.received = w.received ++ new ∨ w'.received = new) ∧
    ∀ s md, (s, Request.heartbeat md) ∈ new → w.life.server = some s ∧ w.life.phase = .running

/-- A move that sends nothing. -/
theorem LifeMove.of_received (h : w'.LifeShape none) (hr : w'.received = w.received) : LifeMove w w' :=
  ⟨h, [], .inl (by rw [hr, List.append_nil]), fun _ _ hm => nomatch hm⟩

theorem received_advance (pr : Progress) : (w.exec (Act.advance t pr)).received = w.received := by
  cases pr <;> rfl

/-- A step from its point sends heartbeats only as the lifecycle's heartbeat at its beat, to the
server that is current and running. -/
theorem LifeShape.run_log (h : w.Running w t p) (hL : w.LifeShape (some t)) {input : Outcome}
    (ho : w.OwnShape t p input) (hin : ∀ r, p.role = some r → w.RoleResult r input) :
    ∃ new, (StateT.run (Act.run p input) w).2.received = w.received ++ new ∧
      ∀ s md, (s, Request.heartbeat md) ∈ new → w.life.server = some s ∧ w.life.phase = .running := by
  obtain ⟨new, hnew, hbeat⟩ := (h.run input hin).1.log
  refine ⟨new, hnew, fun s md hm => ?_⟩
  have hd : p.duty = .heartbeat s := hbeat s _ hm
  cases p
  case heartbeat s' md' =>
    cases hd
    exact hL.heartbeat_current (ho.beat.2 (.inl ⟨_, _, rfl⟩)) ⟨_, h.point, rfl⟩
  case heartbeatAsleep s' md' =>
    cases hd
    rcases hin _ rfl with rfl | rfl
    · -- a heartbeat woken by a cancellation ends and sends nothing
      have hnil : new = [] := List.append_right_eq_self.1 hnew.symm
      subst hnil
      cases hm
    · -- woken by its interval it beats again, as the lifecycle's heartbeat
      exact hL.heartbeat_current (ho.beat.2 (.inr ⟨_, _, rfl, rfl⟩)) ⟨_, h.point, rfl⟩
  all_goals simp [Point.duty] at hd

/-- A busy task's step, from the world it began in to the world after it left off. -/
theorem LifeShape.busy_move {w₁ : World} (h : w₁.Running w₁ t p) (hL : w₁.LifeShape (some t))
    {input : Outcome} (ho : w₁.OwnShape t p input) (hin : ∀ r, p.role = some r → w₁.RoleResult r input)
    (hr : w₁.received = w.received) (hl : w₁.life = w.life) :
    LifeMove w ((StateT.run (Act.run p input) w₁).2.exec (Act.advance t (StateT.run (Act.run p input) w₁).1)) := by
  have hst := h.run input hin
  have hls := hL.run h ho hin
  obtain ⟨new, hnew, hbeat⟩ := hL.run_log h ho hin
  refine ⟨hls.1.advance hst.1 hst.2 hls.2, new, .inl ?_, fun s md hm => ?_⟩
  · rw [received_advance, hnew, hr]
  · rw [← hl]
    exact hbeat s md hm

/-! ## Wakes -/

section Wake

variable {q : RunQueue Point}

/-- Taking the first entry off the run queue leaves every cell as it was. -/
theorem RunQueue.cell_of_pop? {e : Wake} (hpop : w.queue.pop? = some (e, q)) (d : CellId) :
    q.cell d = w.queue.cell d := by
  simp [RunQueue.cell, (RunQueue.pop?_eq_some hpop).2]

/-- A wake that starts a task: a task that ended stays so, one cancelled before it started ends,
and any other one runs its step. -/
theorem LifeShape.wake_start (hT : w.Typed none) (hL : w.LifeShape none)
    (hpop : w.queue.pop? = some (.start x, q)) :
    LifeMove w (({ w with queue := q } : World).exec (Act.start x)) := by
  have hready := (RunQueue.pop?_eq_some hpop).1
  have hcell := RunQueue.cell_of_pop? hpop
  have hL₁ : ({ w with queue := q } : World).LifeShape none := hL.of_cells hcell rfl
  by_cases hres : (w.queue.cell x).result.isSome = true
  · rw [World.exec, Act.run_start_of_done _ (by rw [hcell]; exact hres)]
    exact .of_received hL₁ rfl
  have hpend : w.Pending x := by simpa [Pending] using hres
  obtain ⟨p, hp, -⟩ := hT.start_fresh x (by rw [hready]; exact List.mem_cons_self) hpend
  cases hc : (w.queue.cell x).cancelPending
  case true =>
    -- a marked task is no heartbeat of the lifecycle, which beats unmarked
    rw [World.exec, Act.run_start_of_cancelled _ (by rw [hcell]; exact hpend) (by rw [hcell]; exact hc)]
    have hbusy : ({ w with queue := q } : World).Typed (some x) :=
      hT.dequeue hpop (fun _ _ => by simp) (fun y hy => by cases hy; rfl) fun _ _ hy => by cases hy
    have hnb : w.life.heartbeat ≠ some x := fun hh => by
      obtain ⟨s, hb⟩ := hL.beating_of_heartbeat hh
      rw [hb.unmarked] at hc
      cases hc
    refine .of_received (LifeShape.finish_busy hbusy (by rw [hcell]; exact hp)
      (by show (q.cell x).result = none; rw [hcell]; exact hpend) hL₁.relax .cancelled hnb) rfl
  case false =>
    obtain ⟨hrole, hrun⟩ := hT.begin_start hpop hpend hp
    rw [World.exec, Act.run_start _ (by rw [hcell]; exact hpend) (by rw [hcell]; exact hc)
      (by rw [hcell]; exact hp)]
    have ho : ({ w with queue := q } : World).OwnShape x p (.value .unit) :=
      hL₁.ownShape_start hrun.toTyped hrun.pending hrun.point hrole hrun.idle (by
        show (q.cell x).cancelPending = false
        rw [hcell]
        exact hc)
    exact hL₁.relax.busy_move hrun ho (fun r hr => by rw [hrole] at hr; cases hr) rfl rfl

/-- A wake that resumes a task waiting for the cell that ended runs its step from where it waits; a
stale notice does nothing. -/
theorem LifeShape.wake_resume (hT : w.Typed none) (hL : w.LifeShape none) {src : CellId}
    (hpop : w.queue.pop? = some (.notify (.resume x) src, q)) :
    LifeMove w (({ w with queue := q } : World).exec (Act.notify (.resume x) src)) := by
  have hready := (RunQueue.pop?_eq_some hpop).1
  have hcell := RunQueue.cell_of_pop? hpop
  have hL₁ : ({ w with queue := q } : World).LifeShape none := hL.of_cells hcell rfl
  have hdone : ¬ w.Pending src := hT.notify_done _ src (by rw [hready]; exact List.mem_cons_self)
  rw [World.exec, Act.run_notify_resume]
  by_cases hw : w.Waits x src
  · obtain ⟨p, r, hp, hr, hinput, hrun⟩ := hT.begin_resume hpop hw
    rw [Act.run_resume _ (by rw [hcell]; exact hw.1) (by rw [hcell]; exact hw.2)
      (by rw [hcell]; exact hp)]
    simp only [hcell]
    have hw₁ : ({ w with queue := q } : World).Waits x src := by
      simp only [Waits, hcell]
      exact hw
    have hin₁ := (SameRefs.of_queue w q).roleResult hinput
    have ho := hL₁.ownShape_resume hw₁ (by simp only [Pending, hcell]; exact hdone)
      (by rw [hcell]; exact hp) hr (by simp only [hcell]; exact hin₁)
    simp only [hcell] at ho
    have hL₂ : (({ w with queue := q } : World).wakeUp x).LifeShape (some x) :=
      hL₁.relax.steady (quiet_wakeUp.steady rfl)
    exact hL₂.busy_move hrun ho (fun r' hr' => by
      rw [hr] at hr'
      cases hr'
      exact hin₁) rfl rfl
  · -- a stale notice: the task no longer waits for the cell
    have hstale : (q.cell x).result.isSome = true ∨ (q.cell x).waitsFor ≠ some src := by
      rw [hcell]
      by_cases hres : (w.queue.cell x).result = none
      · exact .inr fun hwx => hw ⟨hres, hwx⟩
      · exact .inl (Option.isSome_iff_ne_none.2 hres)
    rw [Act.run_resume_of_stale _ hstale]
    exact .of_received hL₁ rfl

/-- Finishing a cell in the queue a wake leaves behind finishes it as in the queue before. -/
theorem RunQueue.cell_finish_congr {q' : RunQueue Point} (h : q'.cells = q.cells) (c : CellId)
    (o : Outcome) (d : CellId) : (q'.finish c o).cell d = (q.finish c o).cell d := by
  have hcell : ∀ d, q'.cell d = q.cell d := fun d => by simp [RunQueue.cell, h]
  have hdone : q'.isDone c = q.isDone c := by rw [RunQueue.isDone_def, RunQueue.isDone_def, hcell]
  cases hd : q.isDone c
  · rw [q'.cell_finish (hdone.trans hd), q.cell_finish hd, hcell, h]
  · rw [RunQueue.finish_of_isDone o (hdone.trans hd), RunQueue.finish_of_isDone o hd, hcell]

/-- A notice that passes a result on to the cell its listener feeds keeps the shapes. -/
theorem LifeShape.notify_feed (hT : w.Typed none) (hL : w.LifeShape none) {l : Listener}
    {src c : CellId} {r : Role} (hpop : w.queue.pop? = some (.notify l src, q))
    (hl : l.feed = some (c, r)) (o : Outcome) :
    ({ w with queue := q.finish c o } : World).LifeShape none := by
  obtain ⟨hready, hcells⟩ := RunQueue.pop?_eq_some hpop
  have hf : w.Feeds c r := .listener (.inr (by rw [hready]; exact List.mem_cons_self)) hl
  have hq : Quiet w ({ w with queue := q.finish c o } : World) none :=
    (quiet_finish_fed hT hf o).of_cells_right (RunQueue.cell_finish_congr hcells c o)
  exact hL.steady (hq.steady rfl)

/-- A wake that runs a notice. -/
theorem LifeShape.wake_notify (hT : w.Typed none) (hL : w.LifeShape none) {l : Listener}
    {src : CellId} (hpop : w.queue.pop? = some (.notify l src, q)) :
    LifeMove w (({ w with queue := q } : World).exec (Act.notify l src)) := by
  have hL₁ : ({ w with queue := q } : World).LifeShape none := hL.of_cells (RunQueue.cell_of_pop? hpop) rfl
  cases l with
  | resume x => exact hL.wake_resume hT hpop
  | relay c =>
    rw [World.exec, Act.run_notify_relay]
    split
    · exact .of_received hL₁ rfl
    · exact .of_received (hL.notify_feed hT hpop rfl _) rfl
  | signal c =>
    rw [World.exec, Act.run_notify_signal]
    exact .of_received (hL.notify_feed hT hpop rfl _) rfl
  | tally g =>
    rw [World.exec, Act.run_notify_tally]
    split
    · exact .of_received hL₁ rfl
    · split
      · exact .of_received (hL.notify_feed hT hpop rfl _) rfl
      · -- one task fewer to count
        have hm : Quiet ({ w with queue := q } : World) { w with queue := q.modifyCell g fun cell =>
            { cell with remaining := cell.remaining - 1 } } none :=
          quiet_modifyCell g (fun _ => ⟨rfl, rfl, rfl⟩) (.inl fun _ => rfl)
        exact .of_received (hL₁.steady (hm.steady rfl)) rfl
  | forget x =>
    rw [World.exec, Act.run_notify_forget]
    exact .of_received (hL₁.steady (steady_of_queue rfl rfl)) rfl

end Wake

/-- A wake keeps the shapes and sends heartbeats only to the current running server. -/
theorem LifeShape.wake (hT : w.Typed none) (hL : w.LifeShape none) : LifeMove w w.wake := by
  unfold World.wake
  split
  · exact .of_received hL rfl
  · rename_i e q hpop
    cases e with
    | start x => exact hL.wake_start hT hpop
    | notify l src => exact hL.wake_notify hT hpop

/-! ## The other events -/

theorem finish_all_eq (cs : List CellId) (o : Outcome) (w : World) :
    cs.foldl (fun w c => w.exec (Act.finish c o)) w =
      { w with queue := cs.foldl (fun q c => q.finish c o) w.queue } := by
  induction cs generalizing w with
  | nil => rfl
  | cons c cs ih => exact ih _

/-- Opening the oldest closed reply gate lets its waiters through: a steady change. -/
theorem steady_openReplyGate {b' : Option CellId} (hT : w.Typed b') :
    Steady w (w.exec (Act.openGate (·.replyGates) fun w q => { w with replyGates := q })) b := by
  cases hg : w.replyGates.oldestClosed? with
  | none =>
    rw [World.exec, Act.run_openReplyGate_of_none w hg]
    exact .refl w b
  | some g =>
    rw [World.exec, Act.run_openReplyGate_of_some w hg]
    -- the gate opens, a steady change, and its waiters are let through
    have h₁ : Steady w ({ w with replyGates := { w.replyGates with gates := w.replyGates.gates.modify g fun gate =>
        { gate with isOpen := true } } } : World) b := steady_of_queue rfl rfl
    have hT₁ : ({ w with replyGates := { w.replyGates with gates := w.replyGates.gates.modify g fun gate =>
        { gate with isOpen := true } } } : World).Typed b' :=
      hT.setGates _ _ (fun c hc => .inl ((GateQueue.holds_open _ _ _ c).1 hc)) fun c hc => .inl hc
    have hq := quiet_finish_all (b := b) (fun w' => show w'.RoleResult .replyGate (.value .unit) from .inl rfl)
      _ hT₁ fun c hc => .replyGate ((GateQueue.holds_open _ _ _ c).2 ⟨g, hc⟩)
    exact h₁.trans (hq.steady (by rw [finish_all_eq]))

/-- Opening the oldest closed start gate lets its waiters through: a steady change. -/
theorem steady_openStartGate {b' : Option CellId} (hT : w.Typed b') :
    Steady w (w.exec (Act.openGate (·.startGates) fun w q => { w with startGates := q })) b := by
  cases hg : w.startGates.oldestClosed? with
  | none =>
    rw [World.exec, Act.run_openStartGate_of_none w hg]
    exact .refl w b
  | some g =>
    rw [World.exec, Act.run_openStartGate_of_some w hg]
    -- the gate opens, a steady change, and its waiters are let through
    have h₁ : Steady w ({ w with startGates := { w.startGates with gates := w.startGates.gates.modify g fun gate =>
        { gate with isOpen := true } } } : World) b := steady_of_queue rfl rfl
    have hT₁ : ({ w with startGates := { w.startGates with gates := w.startGates.gates.modify g fun gate =>
        { gate with isOpen := true } } } : World).Typed b' :=
      hT.setGates _ _ (fun c hc => .inl hc) fun c hc => .inl ((GateQueue.holds_open _ _ _ c).1 hc)
    have hq := quiet_finish_all (b := b) (fun w' => show w'.RoleResult .startGate (.value .unit) from rfl)
      _ hT₁ fun c hc => .startGate ((GateQueue.holds_open _ _ _ c).2 ⟨g, hc⟩)
    exact h₁.trans (hq.steady (by rw [finish_all_eq]))

theorem received_openReplyGate :
    (w.exec (Act.openGate (·.replyGates) fun w q => { w with replyGates := q })).received = w.received := by
  cases hg : w.replyGates.oldestClosed? with
  | none => rw [World.exec, Act.run_openReplyGate_of_none w hg]
  | some g => rw [World.exec, Act.run_openReplyGate_of_some w hg, finish_all_eq]

theorem received_openStartGate :
    (w.exec (Act.openGate (·.startGates) fun w q => { w with startGates := q })).received = w.received := by
  cases hg : w.startGates.oldestClosed? with
  | none => rw [World.exec, Act.run_openStartGate_of_none w hg]
  | some g => rw [World.exec, Act.run_openStartGate_of_some w hg, finish_all_eq]

/-- The end of a heartbeat's sleep is steady: it gives the cell the heartbeat sleeps on an empty
result, which cancels nothing. -/
theorem steady_elapse {b' : Option CellId} (hT : w.Typed b') (t : CellId) :
    Steady w (w.exec (Act.elapse t)) b := by
  rcases hT.elapse_cases t with he | ⟨s, c, -, -, -, hplain, he⟩
  · rw [he]
    exact .refl w b
  rw [he]
  exact (quiet_finish hplain fun _ _ _ _ _ hc => by cases hc).steady rfl

theorem received_elapse (t : CellId) : (w.exec (Act.elapse t)).received = w.received := by
  rcases Act.exec_elapse w t with he | ⟨s, md, c, -, -, -, he⟩ <;> rw [he]

theorem received_clearServer (s : Nat) : (w.exec (Act.clearServer s)).received = w.received := by
  by_cases hs : w.life.server = some s
  · rw [World.exec, Act.run_clearServer_of_current w hs]
  · rw [World.exec, Act.run_clearServer_of_ne w hs]

theorem received_handleLaunch (s : Nat) : (w.exec (Act.handleLaunch s)).received = w.received := by
  by_cases hs : w.life.server = some s
  · rw [World.exec, Act.run_handleLaunch_of_current w hs]
  · rw [World.exec, Act.run_handleLaunch_of_ne w hs]

/-- Every event keeps the shapes, and sends heartbeats only to the server that is current and
running as it begins. -/
theorem LifeShape.step (hT : w.Typed none) (hL : w.LifeShape none) (e : Event) : LifeMove w (w.step e) := by
  cases e with
  | call c =>
    -- a call starts a task of neither a launch's nor a heartbeat's duty
    have hq : Quiet w ({ w with queue := (w.queue.spawn c.point).1 } : World) none :=
      quiet_spawn (by cases c <;> simp [Call.point, Point.duty])
    exact .of_received (hL.steady (hq.steady rfl)) rfl
  | warmUp => exact .of_received (hL.steady (steady_spawnBackground (.inl rfl))) rfl
  | wake => exact hL.wake hT
  | elapse t => exact .of_received (hL.steady (steady_elapse hT t)) (received_elapse t)
  | holdReply => exact .of_received (hL.steady (steady_of_queue rfl rfl)) rfl
  | releaseReply => exact .of_received (hL.steady (steady_openReplyGate hT)) received_openReplyGate
  | holdStart => exact .of_received (hL.steady (steady_of_queue rfl rfl)) rfl
  | releaseStart => exact .of_received (hL.steady (steady_openStartGate hT)) received_openStartGate
  | reportLaunch s => exact .of_received (hL.handleLaunch hT s) (received_handleLaunch s)
  | reportCrash s => exact .of_received (hL.clearServer hT s) (received_clearServer s)
  | script k => exact .of_received (hL.steady (steady_of_queue rfl rfl)) rfl
  | credentials c => exact .of_received (hL.steady (steady_of_queue rfl rfl)) rfl
  | installation status => exact .of_received (hL.steady (steady_of_queue rfl rfl)) rfl
  | ideVersion v => exact .of_received (hL.steady (steady_of_queue rfl rfl)) rfl
  | clearLog =>
    exact ⟨hL.steady (steady_of_queue rfl rfl), [], .inr rfl, fun _ _ hm => by cases hm⟩

/-! ## Every run -/

/-- A fresh service has no server, no heartbeat, no launch and no task. -/
theorem Fresh.lifeShape (h : w.Fresh) : w.LifeShape none where
  shape := .inl ⟨h.server, h.heartbeat, .inl h.phase⟩
  beats x s _ hx := by
    obtain ⟨q, hq, -⟩ := hx.duty
    simp [RunQueue.cell, h.cells] at hq
  fresh c _ hp _ := by simp [RunQueue.cell, h.cells] at hp
  starting c _ _ _ hp _ := by simp [RunQueue.cell, h.cells] at hp
  one c _ hd _ := by
    obtain ⟨q, hq, -⟩ := hd
    simp [RunQueue.cell, h.cells] at hq

/-- Every world that a run of a fresh service reaches keeps the shapes. -/
theorem Fresh.lifeShape_run (h : w.Fresh) (es : List Event) : (w.run es).LifeShape none :=
  (run_induction (fun v => v.Typed none ∧ v.LifeShape none)
    (fun _ e hv => ⟨hv.1.step e, (hv.2.step hv.1 e).shape⟩) es ⟨h.typed, h.lifeShape⟩).2

/-- Where no launch is in progress, the launch under way, if any, has ended. -/
theorem launch_done_of_not_pending (h : ¬ ∃ l, w.life.launch = some l ∧ w.queue.isDone l = false) :
    ∀ l, w.life.launch = some l → w.queue.isDone l = true := by
  intro l hl
  cases hd : w.queue.isDone l
  · exact absurd ⟨l, hl, hd⟩ h
  · rfl

end World

/-- In every world that a run of a fresh service reaches, the lifecycle stands in exactly one of
three shapes: no server and no heartbeat, the phase absent or terminated; a server starting, with
no heartbeat; or a running server whose heartbeat task beats for that same server.  At most one
heartbeat task beats, and whatever event comes next, every heartbeat request it sends goes to the
server that is current and running as the event begins. -/
theorem lifecycle_shapes (w : World) (hw : w.Fresh) (es : List Event) :
    let v := w.run es
    ((v.life.server = none ∧ v.life.heartbeat = none ∧
          (v.life.phase = .absent ∨ v.life.phase = .terminated)) ∨
        (∃ s, v.life.server = some s ∧ v.life.heartbeat = none ∧ v.life.phase = .starting) ∨
        ∃ s h, v.life.server = some s ∧ v.life.phase = .running ∧ v.life.heartbeat = some h ∧
          v.Beating h s) ∧
      (∀ h h' s s', v.Beating h s → v.Beating h' s' → h = h') ∧
      ∀ e, ∃ new, ((v.step e).received = v.received ++ new ∨ (v.step e).received = new) ∧
        ∀ s md, (s, Request.heartbeat md) ∈ new → v.life.server = some s ∧ v.life.phase = .running := by
  intro v
  have hT : v.Typed none := hw.typed_run es
  have hL : v.LifeShape none := hw.lifeShape_run es
  refine ⟨hL.shape, fun h h' s s' hb hb' => ?_, fun e => (hL.step hT e).log⟩
  -- both are the lifecycle's heartbeat
  have hh : v.life.heartbeat = some h := hL.beats h s nofun hb
  rw [hL.beats h' s' nofun hb'] at hh
  exact (Option.some.inj hh).symm

/-- A fresh service that is asked to start in the background, launches, and hears its server
report. -/
theorem lifecycle_shapes_after_warm_up :
    let w : World :=
      { projectRoot := "/project", credentials := ⟨.str "key"⟩,
        source := ⟨.str "vim", .str "9.1", none, .str "session"⟩, installation := .error .notSignedIn,
        resetOnRestart := false }
    w.Fresh ∧
      let v := w.run [.warmUp, .wake, .wake, .reportLaunch 0, .wake]
      ((v.life.server = none ∧ v.life.heartbeat = none ∧
            (v.life.phase = .absent ∨ v.life.phase = .terminated)) ∨
          (∃ s, v.life.server = some s ∧ v.life.heartbeat = none ∧ v.life.phase = .starting) ∨
          ∃ s h, v.life.server = some s ∧ v.life.phase = .running ∧ v.life.heartbeat = some h ∧
            v.Beating h s) ∧
        (∀ h h' s s', v.Beating h s → v.Beating h' s' → h = h') ∧
        ∀ e, ∃ new, ((v.step e).received = v.received ++ new ∨ (v.step e).received = new) ∧
          ∀ s md, (s, Request.heartbeat md) ∈ new → v.life.server = some s ∧ v.life.phase = .running := by
  intro w
  have hw : w.Fresh :=
    { phase := rfl, server := rfl, heartbeat := rfl, launch := rfl, cells := rfl, ready := rfl, jobs := rfl,
      ongoing := rfl, background := rfl, servers := rfl, replyGates := ⟨rfl, rfl⟩,
      startGates := ⟨rfl, rfl⟩, installation := nofun }
  exact ⟨hw, lifecycle_shapes w hw [.warmUp, .wake, .wake, .reportLaunch 0, .wake]⟩

end CompletionClient.Service
