import CompletionClient.Proofs.Service.Activities
/-!
# The invariant of every run

`World.Typed none` holds of a fresh service and is kept by every event, so it
holds of every world a run reaches (`World.Fresh.typed_run`).  A wake runs the
first entry of the run queue: a task's start or a cell's notice.  A start
makes the task busy and runs its step, which steps (`Running.run`); a notice
wakes a task, which is then busy likewise, or passes a result on to a cell fed
in a role, a result that fits the role (`Typed.notify_feed`).  The other
events hold or open a gate, report a launch or an end of a server, or change
what the invariant does not read.
-/

namespace CompletionClient.Service

namespace World

variable {w : World}

/-! ## Notices -/

/-- A notice whose listener feeds a cell in a role gives that cell a result of the role. -/
theorem Typed.notify_feed (h : w.Typed none) {l : Listener} {src c : CellId} {r : Role}
    {q : RunQueue Point} (hpop : w.queue.pop? = some (.notify l src, q)) (hl : l.feed = some (c, r))
    {o : Outcome} (ho : w.RoleResult r o) :
    ({ w with queue := q.finish c o } : World).Typed none := by
  obtain ⟨hready, hcells⟩ := RunQueue.pop?_eq_some hpop
  have hW := h.dequeue_notify hpop fun x hx => by subst hx; cases hl
  -- the listener sat in the queue before the entry was taken off: the cell is fed in the role
  have hf : w.Feeds c r := .listener (.inr (by rw [hready]; exact List.mem_cons_self)) hl
  obtain ⟨hplain, hwaiter⟩ := h.fed c r hf
  have hcore : SameCore ({ w with queue := q } : World) w :=
    .of_cell fun d => by simp [RunQueue.cell, hcells]
  cases hdone : q.isDone c
  case true =>
    rw [RunQueue.finish_of_isDone o hdone]
    exact hW
  case false =>
    have hpend : ({ w with queue := q } : World).Pending c := pending_iff_isDone.2 hdone
    have hplain' := (hcore.plain c).2 hplain
    obtain ⟨hnot, hnot'⟩ := hW.not_launch_of_plain hplain'
    have hc : c < ({ w with queue := q } : World).queue.cells.size := by
      show c < q.cells.size
      rw [hcells]
      exact h.lt_size_of_feeds hf
    refine hW.finish hc hpend (fun x r' hw hr' => ?_) (fun hl' => absurd hl' hnot) hnot' (.inl rfl)
    have hr := hwaiter x ((hcore.pending c).1 hpend) ((hcore.waits x c).1 hw)
    rw [← hr.unique ((hcore.hasRole x r').1 hr')]
    exact (SameRefs.of_queue w q).roleResult ho

/-- A wake that runs a notice keeps the invariant. -/
theorem Typed.wake_notify (h : w.Typed none) {l : Listener} {src : CellId} {q : RunQueue Point}
    (hpop : w.queue.pop? = some (.notify l src, q)) :
    (({ w with queue := q } : World).exec (Act.notify l src)).Typed none := by
  obtain ⟨hready, hcells⟩ := RunQueue.pop?_eq_some hpop
  have hcell : ∀ d, q.cell d = w.queue.cell d := fun d => by simp [RunQueue.cell, hcells]
  have hin : Wake.notify l src ∈ w.queue.ready := by rw [hready]; exact List.mem_cons_self
  have hdone : ¬ w.Pending src := h.notify_done l src hin
  cases l with
  | resume x =>
    rw [World.exec, Act.run_notify_resume]
    by_cases hw : w.Waits x src
    · -- the task waits for the cell: it wakes, busy, with a result of its role
      obtain ⟨p, r, hp, hr, hinput, hrun⟩ := h.begin_resume hpop hw
      rw [Act.run_resume _ (by rw [hcell]; exact hw.1) (by rw [hcell]; exact hw.2)
        (by rw [hcell]; exact hp)]
      simp only [hcell]
      have hst := hrun.run _ fun r' hr' => by
        rw [hr] at hr'
        cases hr'
        exact (SameRefs.of_queue w _).roleResult hinput
      exact hst.1.advance hst.2
    · -- a stale notice: the task no longer waits for the cell
      have hstale : (q.cell x).result.isSome = true ∨ (q.cell x).waitsFor ≠ some src := by
        rw [hcell]
        by_cases hres : (w.queue.cell x).result = none
        · exact .inr fun hwx => hw ⟨hres, hwx⟩
        · exact .inl (Option.isSome_iff_ne_none.2 hres)
      rw [Act.run_resume_of_stale _ hstale]
      exact h.dequeue_notify hpop fun x' hx => by cases hx; exact hw
  | relay c =>
    rw [World.exec, Act.run_notify_relay]
    split
    · exact h.dequeue_notify hpop fun _ hx => by cases hx
    · -- a launch's result, passed on to a shield
      have hlaunch := h.relay_source c src (.inr hin)
      obtain ⟨o, ho⟩ := Option.ne_none_iff_exists'.1 hdone
      refine h.notify_feed hpop rfl ?_
      rw [hcell, ho]
      exact .inr (h.launch_result src o hlaunch ho)
  | signal c =>
    rw [World.exec, Act.run_notify_signal]
    exact h.notify_feed hpop rfl rfl
  | tally g =>
    rw [World.exec, Act.run_notify_tally]
    have hW := h.dequeue_notify hpop fun _ hx => by cases hx
    split
    · exact hW
    · split
      · exact h.notify_feed hpop rfl rfl
      · exact hW.setRemaining g fun n => n - 1
  | forget x =>
    rw [World.exec, Act.run_notify_forget]
    exact (h.dequeue_notify hpop fun _ hx => by cases hx).setBackground _ fun y hy =>
      .inl (List.mem_of_mem_erase hy)

/-- A wake that starts a task keeps the invariant: a task that ended stays so, one cancelled
before it started ends, and any other one runs its step. -/
theorem Typed.wake_start (h : w.Typed none) {x : CellId} {q : RunQueue Point}
    (hpop : w.queue.pop? = some (.start x, q)) :
    (({ w with queue := q } : World).exec (Act.start x)).Typed none := by
  obtain ⟨hready, hcells⟩ := RunQueue.pop?_eq_some hpop
  have hcell : ∀ d, q.cell d = w.queue.cell d := fun d => by simp [RunQueue.cell, hcells]
  have hbusy : ({ w with queue := q } : World).Typed (some x) :=
    h.dequeue hpop (fun _ _ => by simp) (fun y hy => by cases hy; rfl) fun _ _ hy => by cases hy
  by_cases hres : (w.queue.cell x).result.isSome = true
  · rw [World.exec, Act.run_start_of_done _ (by rw [hcell]; exact hres)]
    exact hbusy.unbusy fun hp => by
      simp only [Pending, hcell] at hp
      simp [hp] at hres
  · have hpend : w.Pending x := by simpa [Pending] using hres
    obtain ⟨p, hp, -⟩ := h.start_fresh x (by rw [hready]; exact List.mem_cons_self) hpend
    cases hc : (w.queue.cell x).cancelPending
    case true =>
      -- only tasks of cancellable duties are marked, and no launch is one
      rw [World.exec, Act.run_start_of_cancelled _ (by rw [hcell]; exact hpend) (by rw [hcell]; exact hc)]
      obtain ⟨du, hdu, hcan⟩ := h.cancellable x hc hpend
      have hnl : ¬ w.HasDuty x .launch := fun hl => by
        obtain ⟨p₁, hp₁, rfl⟩ := hdu
        obtain ⟨p₂, hp₂, hd₂⟩ := hl
        rw [hp₁] at hp₂
        injection hp₂ with hp₂
        subst hp₂
        rw [hd₂] at hcan
        exact hcan
      have hcore : SameCore ({ w with queue := q } : World) w := .of_cell hcell
      refine hbusy.finish (by show x < q.cells.size; rw [hcells]; exact lt_size_of_point hp)
        ((hcore.pending x).2 hpend) (fun t r hw hr => hbusy.roleResult_of_task _ (by
          show (q.cell x).point.isSome; rw [hcell, hp]; rfl) hw hr)
        (fun hl => absurd ((hcore.hasDuty x _).1 hl) hnl)
        (fun hl => hnl (h.launch_ref x hl).1) (.inr rfl)
    case false =>
      obtain ⟨hrole, hrun⟩ := h.begin_start hpop hpend hp
      rw [World.exec, Act.run_start _ (by rw [hcell]; exact hpend) (by rw [hcell]; exact hc)
        (by rw [hcell]; exact hp)]
      have hst := hrun.run (.value .unit) fun r hr => by rw [hrole] at hr; cases hr
      exact hst.1.advance hst.2

/-- A wake keeps the invariant. -/
theorem Typed.wake (h : w.Typed none) : w.wake.Typed none := by
  unfold World.wake
  split
  · exact h
  · rename_i e q hpop
    cases e with
    | start x => exact h.wake_start hpop
    | notify l src => exact h.wake_notify hpop

/-! ## The other events -/

section Gates

variable {b : Option CellId}

/-- Opening the oldest closed reply gate lets its waiters through with an empty result. -/
theorem Typed.openReplyGate (h : w.Typed b) :
    (w.exec (Act.openGate (·.replyGates) fun w q => { w with replyGates := q })).Typed b := by
  cases hg : w.replyGates.oldestClosed? with
  | none =>
    rw [World.exec, Act.run_openReplyGate_of_none w hg]
    exact h
  | some g =>
    rw [World.exec, Act.run_openReplyGate_of_some w hg]
    refine Typed.finish_all (fun w' => show w'.RoleResult .replyGate (.value .unit) from .inl rfl) _
      (h.setGates _ _ (fun c hc => .inl ((GateQueue.holds_open _ _ _ c).1 hc)) fun c hc => .inl hc)
      fun c hc => .replyGate ((GateQueue.holds_open _ _ _ c).2 ⟨g, hc⟩)

/-- Opening the oldest closed start gate lets its waiters through with an empty result. -/
theorem Typed.openStartGate (h : w.Typed b) :
    (w.exec (Act.openGate (·.startGates) fun w q => { w with startGates := q })).Typed b := by
  cases hg : w.startGates.oldestClosed? with
  | none =>
    rw [World.exec, Act.run_openStartGate_of_none w hg]
    exact h
  | some g =>
    rw [World.exec, Act.run_openStartGate_of_some w hg]
    refine Typed.finish_all (fun w' => show w'.RoleResult .startGate (.value .unit) from rfl) _
      (h.setGates _ _ (fun c hc => .inl hc) fun c hc => .inl ((GateQueue.holds_open _ _ _ c).1 hc))
      fun c hc => .startGate ((GateQueue.holds_open _ _ _ c).2 ⟨g, hc⟩)

end Gates

/-- The end of a heartbeat's sleep keeps the invariant: the cell it sleeps on is plain, and the
heartbeat, its one waiter, waits in the role that admits an empty result. -/
theorem Typed.elapse (h : w.Typed b) (t : CellId) : (w.exec (Act.elapse t)).Typed b := by
  rcases Act.exec_elapse w t with he | ⟨s, md, c, hr, hp, hwt, he⟩
  · rw [he]
    exact h
  rw [he]
  cases hdone : w.queue.isDone c
  case true =>
    rw [RunQueue.finish_of_isDone _ hdone]
    exact h.of_queue rfl (SameRefs.of_queue w _)
  case false =>
    have hpend : w.Pending c := pending_iff_isDone.2 hdone
    have hw : w.Waits t c := ⟨hr, hwt⟩
    -- the heartbeat sleeps on a plain cell, which has no other waiter
    obtain ⟨r, ⟨q, hq, hqr⟩, htarget⟩ := h.target t c hw
    rw [hp] at hq
    cases hq
    cases hqr
    obtain ⟨hnot, hnot'⟩ := h.not_launch_of_plain htarget
    refine h.finish (h.lt_size_of_waits_target hw) hpend (fun x r' hx hr' => ?_)
      (fun hl => absurd hl hnot) hnot' (.inl rfl)
    obtain rfl := h.alone x t c htarget hx hw
    obtain ⟨q', hq', hqr'⟩ := hr'
    rw [hp] at hq'
    cases hq'
    cases hqr'
    exact .inr rfl

/-- Every event keeps the invariant. -/
theorem Typed.step (h : w.Typed none) (e : Event) : (w.step e).Typed none := by
  cases e with
  | call c =>
    -- a call starts a task at the first point of an activity other than a job
    show ({ w with queue := (w.queue.spawn c.point).1 } : World).Typed none
    refine h.spawn ?_ ?_
    · cases c <;> rfl
    · cases c <;> simp [Call.point, Point.duty]
  | warmUp => exact h.spawnBackground rfl (.inl rfl)
  | wake => exact h.wake
  | elapse t => exact h.elapse t
  | holdReply =>
    exact h.setGates _ _ (fun c hc => .inl ((GateQueue.holds_hold _ c).1 hc)) fun c hc => .inl hc
  | releaseReply => exact h.openReplyGate
  | holdStart =>
    exact h.setGates _ _ (fun c hc => .inl hc) fun c hc => .inl ((GateQueue.holds_hold _ c).1 hc)
  | releaseStart => exact h.openStartGate
  | reportLaunch s => exact h.handleLaunch s
  | reportCrash s => exact h.clearServer s
  | script k => exact h.of_queue rfl (.of_fields rfl rfl rfl rfl rfl rfl rfl rfl)
  | credentials c => exact h.of_queue rfl (.of_fields rfl rfl rfl rfl rfl rfl rfl rfl)
  | installation status => exact h.of_queue rfl (.of_fields rfl rfl rfl rfl rfl rfl rfl rfl)
  | ideVersion v => exact h.of_queue rfl (.of_fields rfl rfl rfl rfl rfl rfl rfl rfl)
  | clearLog => exact h.of_queue rfl (.of_fields rfl rfl rfl rfl rfl rfl rfl rfl)

/-! ## Every run -/

/-- A fresh service has no cell, no entry and no reference, so it keeps the invariant. -/
theorem Fresh.typed (h : w.Fresh) : w.Typed none := by
  have hcell : ∀ d, w.queue.cell d = {} := fun d => by simp [RunQueue.cell, h.cells]
  have hwaits : ∀ t d, ¬ w.Waits t d := fun t d hw => by simpa [hcell] using hw.2
  have hpoint : ∀ t p, (w.queue.cell t).point ≠ some p := fun t p => by simp [hcell]
  have hready : ∀ e, e ∉ w.queue.ready := fun e => by simp [h.ready]
  have hreg : ∀ l src, ¬ w.queue.Registered l src := by
    rintro l src (hl | hn)
    · simp [hcell] at hl
    · exact hready _ hn
  have hholds : ∀ g : GateQueue, g.gates = #[] → ∀ c, ¬ g.Holds c := by
    rintro g hg c ⟨i, hi⟩
    simp [hg] at hi
  have hfeeds : ∀ c r, ¬ w.Feeds c r := by
    rintro c r (⟨hr, -⟩ | ⟨hg⟩ | ⟨hg⟩)
    · exact hreg _ _ hr
    · exact hholds _ h.replyGates.1 _ hg
    · exact hholds _ h.startGates.1 _ hg
  exact
    { world_bounded := fun d hd => by
        rcases hd with hd | hd | ⟨j, hj, -⟩ | hd | hd | hd
        · simp [h.heartbeat] at hd
        · simp [h.launch] at hd
        · simp [h.jobs] at hj
        · simp [h.background] at hd
        · exact absurd hd (hholds _ h.replyGates.1 d)
        · exact absurd hd (hholds _ h.startGates.1 d)
      target := fun t d hw => absurd hw (hwaits t d)
      waiting := fun t r hw => by
        obtain ⟨p, hp, _⟩ := hw
        exact absurd hp (hpoint t p)
      alone := fun t _ d _ hw => absurd hw (hwaits t d)
      woken := fun t d _ _ hw => absurd hw (hwaits t d)
      launch_result := fun c _ hl => by
        obtain ⟨p, hp, _⟩ := hl
        exact absurd hp (hpoint c p)
      cancellable := fun t hm => by simp [hcell] at hm
      launch_ref := fun c hc => by simp [h.launch] at hc
      heartbeat_ref := fun c hc => by simp [h.heartbeat] at hc
      job_ref := fun j hj => by simp [h.jobs] at hj
      job_unique := fun t _ hj => by
        obtain ⟨p, hp, _⟩ := hj
        exact absurd hp (hpoint t p)
      background_ref := fun t ht => by simp [h.background] at ht
      ongoing_ref := fun j hj => by simp [h.ongoing] at hj
      start_server := fun c _ _ hp => absurd hp (hpoint c _)
      queue_bounded := fun d hd => by
        rcases hd with ⟨e, he, -⟩ | ⟨c, l, hl, -⟩ | ⟨c, hc⟩
        · exact absurd he (hready e)
        · simp [hcell] at hl
        · simp [hcell] at hc
      fed := fun c r hf => absurd hf (hfeeds c r)
      relay_source := fun c src hr => absurd hr (hreg _ _)
      start_once := fun t => by simp [h.ready]
      start_fresh := fun t ht => absurd ht (hready _)
      start_ready := fun t p hp => absurd hp (hpoint t p)
      resume_registered := fun t d hw => absurd hw (hwaits t d)
      resume_ready := fun t d hw => absurd hw (hwaits t d)
      notify_done := fun l src hn => absurd hn (hready _) }

/-- Every world that a run of a fresh service reaches keeps the invariant. -/
theorem Fresh.typed_run (h : w.Fresh) (es : List Event) : (w.run es).Typed none :=
  run_induction (·.Typed none) (fun _ e hw => hw.step e) es h.typed

end World

end CompletionClient.Service
