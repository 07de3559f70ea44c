import CompletionClient.Proofs.Service.Lifecycle
/-!
# What one event does to the cells

A wake takes the first entry off the run queue and runs it.  `Typed.wake_cases`
says once, for any property of the world a wake leaves, which cases there are:
an empty queue; a task cancelled before it started, which ends; a task that
starts, or that the cell it waits for wakes, and runs its step busy in a world
that differs from the one before only in its run queue; a listener that passes
a result on to the cell it feeds; a tally counted down; a background task
forgotten; or an entry that does nothing more.

From it and the frame of a step follow what every event keeps of the cells: a
result, once given, stays (`Typed.result_step`), and a task gets its result only
from a step of its own (`Typed.task_result_step`).
-/

namespace CompletionClient.Service

namespace RunQueue

variable {Point : Type} {q q' : RunQueue Point} {t : CellId}

/-- Changing the cell of the task `t` in a way that keeps its result keeps what a step of `t`
keeps. -/
theorem keeps_modifyCell_self (q : RunQueue Point) (t : CellId) (f : Cell Point → Cell Point)
    (hres : ∀ cell, (f cell).result = cell.result) : Keeps t q (q.modifyCell t f) where
  size := Nat.le_of_eq (q.size_modifyCell t f).symm
  result d o h := by
    rw [cell_modifyCell]
    split
    · rw [hres]; exact h
    · exact h
  task_result d hd _ := by rw [q.cell_modifyCell_of_ne (Ne.symm hd)]
  point d hd _ := by rw [q.cell_modifyCell_of_ne (Ne.symm hd)]
  waitsFor d hd := by rw [q.cell_modifyCell_of_ne (Ne.symm hd)]
  marked d hd h := by rw [q.cell_modifyCell_of_ne (Ne.symm hd)]; exact h

/-- A change of the pending task `t`'s cell alone keeps what a step of `t` keeps. -/
theorem Keeps.of_others (hsize : q.cells.size ≤ q'.cells.size) (hpend : (q.cell t).result = none)
    (hcell : ∀ d, d ≠ t → q'.cell d = q.cell d) : Keeps t q q' where
  size := hsize
  result d o h := by
    by_cases hd : d = t
    · subst hd; rw [hpend] at h; cases h
    · rw [hcell d hd]; exact h
  task_result d hd _ := by rw [hcell d hd]
  point d hd _ := by rw [hcell d hd]
  waitsFor d hd := by rw [hcell d hd]
  marked d hd h := by rw [hcell d hd]; exact h

/-- A change that keeps every cell keeps what a step keeps. -/
theorem keeps_of_cells (h : q'.cells = q.cells) : Keeps t q q' :=
  have hcell : ∀ d, q'.cell d = q.cell d := fun d => by simp [cell, h]
  .of_fields (Nat.le_of_eq (by rw [h])) (fun d => by rw [hcell]) (fun d => by rw [hcell])
    (fun d => by rw [hcell]) fun d hd => by rw [hcell]; exact hd

/-- Taking the first entry off the queue registers no listener. -/
theorem registered_of_pop? {q₀ : RunQueue Point} {e : Wake} (hpop : q₀.pop? = some (e, q))
    {l : Listener} {src : CellId} (h : q.Registered l src) : q₀.Registered l src := by
  obtain ⟨hready, hcells⟩ := pop?_eq_some hpop
  rcases h with h | h
  · left
    simpa [cell, hcells] using h
  · right
    rw [hready]
    exact List.mem_cons_of_mem _ h

/-- A listener registered before the first entry is taken off the queue is that entry, or is still
registered. -/
theorem registered_pop? {q₀ : RunQueue Point} {e : Wake} (hpop : q₀.pop? = some (e, q))
    {l : Listener} {src : CellId} (h : q₀.Registered l src) : e = .notify l src ∨ q.Registered l src := by
  obtain ⟨hready, hcells⟩ := pop?_eq_some hpop
  rcases h with h | h
  · exact .inr (.inl (by simpa [cell, hcells] using h))
  · rw [hready] at h
    rcases List.mem_cons.1 h with h | h
    · exact .inl h.symm
    · exact .inr (.inr h)

/-- Giving plain cells a result, one after another. -/
theorem keeps_finish_all (cs : List CellId) (hcs : ∀ c ∈ cs, (q.cell c).point = none) (o : Outcome) :
    Keeps t q (cs.foldl (fun q c => q.finish c o) q) := by
  induction cs generalizing q with
  | nil => exact .refl t q
  | cons c cs ih =>
    refine (q.keeps_finish (.inr (hcs c List.mem_cons_self)) o).trans (ih fun c' hc' => ?_)
    rw [point_finish]
    exact hcs c' (List.mem_cons_of_mem c hc')

/-- A cell keeps its result, or, pending, gets the one it is given. -/
theorem result_finish (q : RunQueue Point) (c : CellId) (o : Outcome) (d : CellId) :
    ((q.finish c o).cell d).result = (q.cell d).result ∨
      (d = c ∧ (q.cell d).result = none ∧ ((q.finish c o).cell d).result = some o) := by
  cases hd : q.isDone c
  case true => rw [finish_of_isDone o hd]; exact .inl rfl
  case false =>
    rw [q.cell_finish hd]
    split
    · rename_i h
      obtain ⟨rfl, -⟩ := h
      exact .inr ⟨rfl, by simpa [isDone_def] using hd, rfl⟩
    · exact .inl rfl

theorem result_finish_of_some {d : CellId} {x : Outcome}
    (h : (q.cell d).result = some x) (c : CellId) (o : Outcome) : ((q.finish c o).cell d).result = some x := by
  rcases q.result_finish c o d with h' | ⟨-, hn, -⟩
  · rw [h']; exact h
  · rw [h] at hn; cases hn

end RunQueue

namespace World

variable {w : World}

/-- A wake, case by case. -/
theorem Typed.wake_cases (h : w.Typed none) (P : World → Prop)
    (hidle : w.queue.pop? = none → P w)
    (hdrop : ∀ e q, w.queue.pop? = some (e, q) → P { w with queue := q })
    (hcancelled : ∀ t q, w.queue.pop? = some (.start t, q) → w.Pending t →
      (w.queue.cell t).cancelPending = true → P { w with queue := q.finish t .cancelled })
    (hstep : ∀ e t p input q w₀, w.queue.pop? = some (e, q) → w.Pending t →
      ((e = .start t ∧ input = .value .unit) ∨
        ∃ src, e = .notify (.resume t) src ∧ w.Waits t src ∧
          input = if (w.queue.cell t).cancelPending then .cancelled
            else (w.queue.cell src).result.getD .cancelled) →
      (w.queue.cell t).point = some p → w₀.Running w₀ t p →
      (∀ r, p.role = some r → w₀.RoleResult r input) →
      (∀ d, d ≠ t → w₀.queue.cell d = w.queue.cell d) →
      w₀.queue.cells.size = w.queue.cells.size → w₀ = { w with queue := w₀.queue } →
      (∀ l src, w₀.queue.Registered l src ↔ q.Registered l src) →
      P ((StateT.run (Act.run p input) w₀).2.exec
        (Act.advance t (StateT.run (Act.run p input) w₀).1)))
    (hfeed : ∀ l src c r o q, w.queue.pop? = some (.notify l src, q) → l.feed = some (c, r) →
      w.Pending c → w.Feeds c r →
      ((l = .relay c ∧ o = (w.queue.cell src).result.getD .cancelled) ∨
        (r ≠ .shield ∧ o = .value .unit)) →
      P { w with queue := q.finish c o })
    (htally : ∀ g src q, w.queue.pop? = some (.notify (.tally g) src, q) →
      P { w with queue := q.modifyCell g fun cell => { cell with remaining := cell.remaining - 1 } })
    (hforget : ∀ x src q, w.queue.pop? = some (.notify (.forget x) src, q) →
      P { w with queue := q, background := w.background.erase x }) :
    P w.wake := by
  unfold World.wake
  split
  · exact hidle ‹_›
  rename_i e q hpop
  obtain ⟨hready, hcells⟩ := RunQueue.pop?_eq_some hpop
  have hcell : ∀ d, q.cell d = w.queue.cell d := fun d => by simp [RunQueue.cell, hcells]
  have hin : e ∈ w.queue.ready := by rw [hready]; exact List.mem_cons_self
  cases e with
  | start t =>
    show P (({ w with queue := q } : World).exec (Act.start t))
    by_cases hres : (w.queue.cell t).result.isSome = true
    · rw [World.exec, Act.run_start_of_done _ (by rw [hcell]; exact hres)]
      exact hdrop _ _ hpop
    have hpend : w.Pending t := by simpa [Pending] using hres
    obtain ⟨p, hp, -⟩ := h.start_fresh t hin hpend
    cases hc : (w.queue.cell t).cancelPending
    case true =>
      rw [World.exec, Act.run_start_of_cancelled _ (by rw [hcell]; exact hpend) (by rw [hcell]; exact hc)]
      exact hcancelled t q hpop hpend hc
    case false =>
      obtain ⟨hrole, hrun⟩ := h.begin_start hpop hpend hp
      rw [World.exec, Act.run_start _ (by rw [hcell]; exact hpend) (by rw [hcell]; exact hc)
        (by rw [hcell]; exact hp)]
      exact hstep _ t p _ q _ hpop hpend (.inl ⟨rfl, rfl⟩) hp hrun
        (fun r hr => by rw [hrole] at hr; cases hr) (fun d _ => hcell d) (by simp [hcells]) rfl
        fun _ _ => Iff.rfl
  | notify l src =>
    show P (({ w with queue := q } : World).exec (Act.notify l src))
    cases l with
    | resume x =>
      rw [World.exec, Act.run_notify_resume]
      by_cases hw : w.Waits x src
      · obtain ⟨p, r, hp, hr, hinput, hrun⟩ := h.begin_resume hpop hw
        rw [Act.run_resume _ (by rw [hcell]; exact hw.1) (by rw [hcell]; exact hw.2)
          (by rw [hcell]; exact hp)]
        simp only [hcell]
        refine hstep _ x p _ q _ hpop hw.1 (.inr ⟨src, rfl, hw, rfl⟩) hp hrun (fun r' hr' => ?_)
          (fun d hd => ?_) (by simp [World.wakeUp, hcells]) rfl fun l' src' => ?_
        · rw [hr] at hr'
          cases hr'
          exact (SameRefs.of_queue w _).roleResult hinput
        · show (q.modifyCell x _).cell d = _
          rw [q.cell_modifyCell_of_ne (Ne.symm hd), hcell]
        · exact q.registered_modifyCell x
            (fun cell => { cell with cancelPending := false, waitsFor := none }) (fun _ => rfl) l' src'
      · -- a stale notice: the task no longer waits for the cell
        have hstale : (q.cell x).result.isSome = true ∨ (q.cell x).waitsFor ≠ some src := by
          rw [hcell]
          by_cases hres : (w.queue.cell x).result = none
          · exact .inr fun hwx => hw ⟨hres, hwx⟩
          · exact .inl (Option.isSome_iff_ne_none.2 hres)
        rw [Act.run_resume_of_stale _ hstale]
        exact hdrop _ _ hpop
    | relay c =>
      rw [World.exec, Act.run_notify_relay]
      split
      · exact hdrop _ _ hpop
      · rename_i hnd
        have hpc : w.Pending c := by simpa [Pending, RunQueue.isDone_def, hcell] using hnd
        exact hfeed _ src c .shield _ q hpop rfl hpc (.listener (.inr hin) rfl)
          (.inl ⟨rfl, by rw [hcell]⟩)
    | signal c =>
      rw [World.exec, Act.run_notify_signal]
      by_cases hpc : w.Pending c
      · exact hfeed _ src c .signal _ q hpop rfl hpc (.listener (.inr hin) rfl) (.inr ⟨by decide, rfl⟩)
      · have hdone : q.isDone c = true := by
          rw [RunQueue.isDone_def, hcell]
          exact Option.isSome_iff_ne_none.2 hpc
        rw [RunQueue.finish_of_isDone _ hdone]
        exact hdrop _ _ hpop
    | tally g =>
      rw [World.exec, Act.run_notify_tally]
      split
      · exact hdrop _ _ hpop
      · rename_i hnd
        split
        · have hpg : w.Pending g := by simpa [Pending, hcell] using hnd
          exact hfeed _ src g .drain _ q hpop rfl hpg (.listener (.inr hin) rfl) (.inr ⟨by decide, rfl⟩)
        · exact htally g src q hpop
    | forget x =>
      rw [World.exec, Act.run_notify_forget]
      exact hforget x src q hpop

/-- The event `e` wakes the task `t`: it is the wake that starts `t` or resumes it. -/
def Wakes (w : World) (e : Event) (t : CellId) : Prop :=
  e = .wake ∧ ∃ q, w.queue.pop? = some (.start t, q) ∨
    ∃ src, w.queue.pop? = some (.notify (.resume t) src, q)

/-- Recording how a pending task left off keeps what its step keeps. -/
theorem keeps_advance {t : CellId} (pr : Progress) :
    RunQueue.Keeps t w.queue (w.exec (Act.advance t pr)).queue := by
  cases pr with
  | done o => exact w.queue.keeps_finish (.inl rfl) o
  | wait c next =>
    rw [exec_advance_wait]
    exact (w.queue.keeps_modifyCell_self t
      (fun cell => { cell with point := some next, waitsFor := some c }) fun _ => rfl).trans
        (RunQueue.keeps_listen _ c _)

/-- Cancelling the heartbeat keeps what any step keeps. -/
theorem keeps_beatCancelled {t : CellId} : RunQueue.Keeps t w.queue w.beatCancelled := by
  unfold World.beatCancelled
  split
  · exact RunQueue.keeps_cancelTask _ _
  · exact .refl t _

theorem onlyCancels_beatCancelled : RunQueue.OnlyCancels w.queue w.beatCancelled := by
  unfold World.beatCancelled
  split
  · exact RunQueue.onlyCancels_cancelTask _
  · exact .refl _

/-- Every event keeps what a step of one task keeps, and changes that task's result only when
it wakes it. -/
theorem Typed.keeps_step (h : w.Typed none) (e : Event) :
    ∃ t, RunQueue.Keeps t w.queue (w.step e).queue ∧
      ((w.queue.cell t).point.isSome → ((w.step e).queue.cell t).result ≠ (w.queue.cell t).result →
        w.Wakes e t) := by
  -- the cell past the end is no task: a change that every step would keep names it
  have hpast : ∀ q : RunQueue Point, RunQueue.Keeps w.queue.cells.size w.queue q →
      ∃ t, RunQueue.Keeps t w.queue q ∧ ((w.queue.cell t).point.isSome →
        (q.cell t).result ≠ (w.queue.cell t).result → w.Wakes e t) :=
    fun q hk => ⟨_, hk, fun hp => absurd hp (by simp [w.queue.cell_of_size_le (Nat.le_refl _)])⟩
  cases e with
  | wake =>
    refine h.wake_cases (fun v => ∃ t, RunQueue.Keeps t w.queue v.queue ∧
        ((w.queue.cell t).point.isSome → (v.queue.cell t).result ≠ (w.queue.cell t).result →
          w.Wakes .wake t)) (fun _ => hpast _ (.refl _ _))
      (fun e q hpop => hpast _ (RunQueue.keeps_of_cells (RunQueue.pop?_eq_some hpop).2))
      (fun t q hpop _ _ => ⟨t, (RunQueue.keeps_of_cells (RunQueue.pop?_eq_some hpop).2).trans
        (q.keeps_finish (.inl rfl) _), fun _ _ => ⟨rfl, q, .inl hpop⟩⟩)
      (fun e t p input q w₀ hpop hpend he _ hrun hin hcell hsize _ _ => ?_)
      (fun l src c r o q hpop _ _ hf _ => ?_)
      (fun g src q hpop => hpast _ ((RunQueue.keeps_of_cells (RunQueue.pop?_eq_some hpop).2).trans
        (q.keeps_modifyCell g (fun _ => rfl) (fun _ => rfl) (fun _ => rfl) fun _ h => h)))
      (fun x src q hpop => hpast _ (RunQueue.keeps_of_cells (RunQueue.pop?_eq_some hpop).2))
    · have hst := hrun.run input hin
      refine ⟨t, ((RunQueue.Keeps.of_others (Nat.le_of_eq hsize.symm) hpend hcell).trans
        hst.1.keeps).trans (keeps_advance _), fun _ _ => ⟨rfl, q, ?_⟩⟩
      rcases he with ⟨rfl, -⟩ | ⟨src, rfl, -⟩
      · exact .inl hpop
      · exact .inr ⟨src, hpop⟩
    · have hcells := (RunQueue.pop?_eq_some hpop).2
      have hplain : (q.cell c).point = none := by
        rw [show q.cell c = w.queue.cell c by simp [RunQueue.cell, hcells]]
        exact (h.fed c r hf).1
      exact hpast _ ((RunQueue.keeps_of_cells hcells).trans (q.keeps_finish (.inr hplain) o))
  | call c => exact hpast _ (RunQueue.keeps_spawn _ _)
  | warmUp => exact hpast _ ((RunQueue.keeps_spawn _ _).trans (RunQueue.keeps_listen _ _ _))
  | holdReply | holdStart | script _ | credentials _ | installation _ | ideVersion _ | clearLog =>
    exact hpast _ (.refl _ _)
  -- the remaining events change the cells only by opening a gate or by a report
  | releaseReply =>
    refine hpast _ ?_
    show RunQueue.Keeps _ w.queue
      (w.exec (Act.openGate (·.replyGates) fun w q => { w with replyGates := q })).queue
    cases hg : w.replyGates.oldestClosed? with
    | none => rw [World.exec, Act.run_openReplyGate_of_none w hg]; exact .refl _ _
    | some g =>
      rw [World.exec, Act.run_openReplyGate_of_some w hg, finish_all_eq]
      exact RunQueue.keeps_finish_all _ (fun c hc => (h.fed c .replyGate (.replyGate ⟨g, hc⟩)).1) _
  | releaseStart =>
    refine hpast _ ?_
    show RunQueue.Keeps _ w.queue
      (w.exec (Act.openGate (·.startGates) fun w q => { w with startGates := q })).queue
    cases hg : w.startGates.oldestClosed? with
    | none => rw [World.exec, Act.run_openStartGate_of_none w hg]; exact .refl _ _
    | some g =>
      rw [World.exec, Act.run_openStartGate_of_some w hg, finish_all_eq]
      exact RunQueue.keeps_finish_all _ (fun c hc => (h.fed c .startGate (.startGate ⟨g, hc⟩)).1) _
  | elapse t =>
    refine hpast _ ?_
    show RunQueue.Keeps _ w.queue (w.exec (Act.elapse t)).queue
    rcases h.elapse_cases t with he | ⟨s, c, -, -, -, hplain, he⟩
    · rw [he]
      exact .refl _ _
    · rw [he]
      exact w.queue.keeps_finish (.inr hplain) _
  | reportLaunch s =>
    refine hpast _ ?_
    show RunQueue.Keeps _ w.queue (w.exec (Act.handleLaunch s)).queue
    by_cases hs : w.life.server = some s
    · rw [World.exec, Act.run_handleLaunch_of_current w hs]
      exact keeps_beatCancelled.trans (RunQueue.keeps_spawn _ _)
    · rw [World.exec, Act.run_handleLaunch_of_ne w hs]
      exact .refl _ _
  | reportCrash s =>
    refine hpast _ ?_
    show RunQueue.Keeps _ w.queue (w.exec (Act.clearServer s)).queue
    by_cases hs : w.life.server = some s
    · rw [World.exec, Act.run_clearServer_of_current w hs]
      exact keeps_beatCancelled
    · rw [World.exec, Act.run_clearServer_of_ne w hs]
      exact .refl _ _

/-- A result, once given, stays through every event. -/
theorem Typed.result_step (h : w.Typed none) (e : Event) {c : CellId} {o : Outcome}
    (hc : (w.queue.cell c).result = some o) : ((w.step e).queue.cell c).result = some o := by
  obtain ⟨t, hk, -⟩ := h.keeps_step e
  exact hk.result c o hc

/-- A task's result changes only through an event that wakes it. -/
theorem Typed.task_result_step (h : w.Typed none) (e : Event) {d : CellId}
    (hd : (w.queue.cell d).point.isSome)
    (hne : ((w.step e).queue.cell d).result ≠ (w.queue.cell d).result) : w.Wakes e d := by
  obtain ⟨t, hk, hown⟩ := h.keeps_step e
  by_cases hdt : d = t
  · subst hdt
    exact hown hd hne
  · exact absurd (hk.task_result d hdt hd) hne

end World

end CompletionClient.Service
