import CompletionClient.Proofs.Service.ServerMoves
/-!
# One launch at a time, shared by its callers

A caller that needs a server while a launch is under way waits on a cell of its
own, a *shield*, that the launch relays its result to (`Act.shield`).  Three
facts about relays carry the sharing.  Every cell is fed in one role and
relayed to from one launch, and while the relay is registered the cell holds
nothing, a cancellation or what the launch holds (`World.FreshFed 0`, kept by
every event: `Typed.freshFed_step`).  A registered relay stays registered until
it runs (`Typed.relay_step`).  And once it has run the cell keeps what it got,
as every result does.  So a caller's shield echoes its launch for the rest of
the run (`Typed.echoes_run`): every caller of one launch gets the launch's
server or its fault, unless it is cancelled, and cancelling it cancels only its
shield, not the launch (`Typed.cancelTask_caller`).

`World.SingleLaunch` gathers what holds of the launches in every world a run
reaches, with `World.LaunchEvent` for what the next event may do to the server
and the launch under way.
-/

namespace CompletionClient.Service

namespace RunQueue

variable {Point : Type}

theorem registered_finish_all {q : RunQueue Point} (cs : List CellId) (o : Outcome) {l : Listener}
    {src : CellId} : (cs.foldl (fun q c => q.finish c o) q).Registered l src ↔ q.Registered l src := by
  induction cs generalizing q with
  | nil => exact Iff.rfl
  | cons c cs ih => exact ih.trans (q.registered_finish c o l src)

end RunQueue

namespace World

variable {w w' u : World} {n : Nat} {L : Prop}

/-! ## Relays kept by every change -/

theorem FreshFed.mono (h : w.FreshFed n) {m : Nat} (hnm : n ≤ m) : w.FreshFed m :=
  ⟨fun c r r' hc => h.role c r r' (Nat.le_trans hnm hc),
    fun c src src' hc => h.source c src src' (Nat.le_trans hnm hc),
    fun c src hc => h.held c src (Nat.le_trans hnm hc)⟩

/-- What a step keeps of the cells before it and of the cells it makes keeps the relays of all. -/
theorem Frame.freshFed_zero (hf : Frame n L w w') (h : w.FreshFed 0) : w'.FreshFed 0 := by
  have hnew := hf.fresh (h.mono (Nat.zero_le n))
  refine ⟨fun c r r' _ hr hr' => ?_, fun c src src' _ hs hs' => ?_, fun c src _ hs => ?_⟩
  · by_cases hc : c < n
    · exact h.role c r r' (Nat.zero_le _) (hf.feeds c r hc hr) (hf.feeds c r' hc hr')
    · exact hnew.role c r r' (Nat.le_of_not_lt hc) hr hr'
  · by_cases hc : c < n
    · exact h.source c src src' (Nat.zero_le _) (hf.relays c src hc hs) (hf.relays c src' hc hs')
    · exact hnew.source c src src' (Nat.le_of_not_lt hc) hs hs'
  · by_cases hc : c < n
    · exact (h.held c src (Nat.zero_le _) (hf.relays c src hc hs)).of_results hf.result
        fun o hp ho => hf.cancels c o hp ho
    · exact hnew.held c src (Nat.le_of_not_lt hc) hs

/-- A change that keeps every result, registers no listener anew and adds no gate's waiter keeps
the relays. -/
theorem FreshFed.of_sub (h : w.FreshFed 0)
    (hres : ∀ d, (w'.queue.cell d).result = (w.queue.cell d).result)
    (hreg : ∀ l src, w'.queue.Registered l src → w.queue.Registered l src)
    (hreply : ∀ c, w'.replyGates.Holds c → w.replyGates.Holds c)
    (hstart : ∀ c, w'.startGates.Holds c → w.startGates.Holds c) : w'.FreshFed 0 := by
  have hfeeds : ∀ c r, w'.Feeds c r → w.Feeds c r := by
    intro c r hf
    rcases hf with ⟨hr, hl⟩ | ⟨hg⟩ | ⟨hg⟩
    · exact .listener (hreg _ _ hr) hl
    · exact .replyGate (hreply _ hg)
    · exact .startGate (hstart _ hg)
  refine ⟨fun c r r' hc hr hr' => h.role c r r' hc (hfeeds c r hr) (hfeeds c r' hr'),
    fun c src src' hc hs hs' => h.source c src src' hc (hreg _ _ hs) (hreg _ _ hs'), fun c src hc hs => ?_⟩
  have he := h.held c src hc (hreg _ _ hs)
  unfold RunQueue.Echoes at he ⊢
  rw [hres, hres]
  exact he

/-- A change of the run queue that only cancels keeps the relays. -/
theorem FreshFed.of_onlyCancels (h : w.FreshFed 0) (hq : RunQueue.OnlyCancels w.queue w'.queue)
    (hreply : w'.replyGates = w.replyGates) (hstart : w'.startGates = w.startGates) :
    w'.FreshFed 0 := by
  have hfeeds : ∀ c r, w'.Feeds c r → w.Feeds c r := by
    intro c r hf
    rcases hf with ⟨hr, hl⟩ | ⟨hg⟩ | ⟨hg⟩
    · exact .listener ((hq.registered _ _).1 hr) hl
    · exact .replyGate (hreply ▸ hg)
    · exact .startGate (hstart ▸ hg)
  exact ⟨fun c r r' hc hr hr' => h.role c r r' hc (hfeeds c r hr) (hfeeds c r' hr'),
    fun c src src' hc hs hs' =>
      h.source c src src' hc ((hq.registered _ _).1 hs) ((hq.registered _ _).1 hs'),
    fun c src hc hs => hq.echoes (h.held c src hc ((hq.registered _ _).1 hs))⟩

/-- A listener that feeds no cell keeps the relays. -/
theorem FreshFed.listen (h : w.FreshFed 0) {c : CellId} (hc : c < w.queue.cells.size) {l : Listener}
    (hl : l.feed = none) : ({ w with queue := w.queue.listen c l } : World).FreshFed 0 := by
  have hres : ∀ d, ((w.queue.listen c l).cell d).result = (w.queue.cell d).result := fun d => by
    rw [RunQueue.cell_listen]; split <;> rfl
  -- every listener registered now was registered before, but the new one, which feeds nothing
  have hreg : ∀ l' src, l'.feed ≠ none → (w.queue.listen c l).Registered l' src →
      w.queue.Registered l' src := by
    intro l' src hl' hr
    rcases (RunQueue.registered_listen w.queue hc l l' src).1 hr with hr | ⟨rfl, -⟩
    · exact hr
    · exact absurd hl hl'
  have hfeeds : ∀ x r, ({ w with queue := w.queue.listen c l } : World).Feeds x r → w.Feeds x r := by
    intro x r hf
    rcases hf with ⟨hr, hl'⟩ | ⟨hg⟩ | ⟨hg⟩
    · exact .listener (hreg _ _ (by rw [hl']; nofun) hr) hl'
    · exact .replyGate hg
    · exact .startGate hg
  refine ⟨fun x r r' hx hr hr' => h.role x r r' hx (hfeeds x r hr) (hfeeds x r' hr'),
    fun x src src' hx hs hs' => h.source x src src' hx (hreg _ _ nofun hs) (hreg _ _ nofun hs'),
    fun x src hx hs => ?_⟩
  have he := h.held x src hx (hreg _ _ nofun hs)
  show (w.queue.listen c l).Echoes x src
  unfold RunQueue.Echoes at he ⊢
  rw [hres, hres]
  exact he

/-- Giving a cell a result keeps the relays, when a relay to that cell would pass on a cancellation
or what its launch holds. -/
theorem FreshFed.finish (h : w.FreshFed 0) (c : CellId) (o : Outcome)
    (hecho : ∀ src, w.queue.Registered (.relay c) src →
      o = .cancelled ∨ (w.queue.cell src).result = some o) :
    ({ w with queue := w.queue.finish c o } : World).FreshFed 0 := by
  have hreg := fun l src => RunQueue.registered_finish w.queue c o l src
  refine ⟨fun x r r' hx hr hr' => h.role x r r' hx (feeds_finish.1 hr) (feeds_finish.1 hr'),
    fun x src src' hx hs hs' => h.source x src src' hx ((hreg _ _).1 hs) ((hreg _ _).1 hs'),
    fun x src hx hs => ?_⟩
  have hs₀ := (hreg _ _).1 hs
  have he := h.held x src hx hs₀
  show (w.queue.finish c o).Echoes x src
  rcases w.queue.result_finish c o x with hx' | ⟨rfl, hpend, hnew⟩
  · -- the cell keeps what it held, and so does the launch if it held something
    refine he.of_results (fun d o' hd => RunQueue.result_finish_of_some hd c o) fun o' hp ho' => ?_
    rw [hx', hp] at ho'
    cases ho'
  · -- the cell is given `o`: a cancellation, or what the launch holds
    rcases hecho src hs₀ with rfl | hsrc
    · exact .inr (.inl hnew)
    · exact .inr (.inr (by rw [hnew, RunQueue.result_finish_of_some hsrc]))

/-- Giving cells that are fed in other roles than a shield's a result keeps the relays. -/
theorem FreshFed.finish_all (cs : List CellId) (o : Outcome) (h : w.FreshFed 0)
    (hcs : ∀ c ∈ cs, ∃ r, r ≠ .shield ∧ w.Feeds c r) :
    (cs.foldl (fun w c => w.exec (Act.finish c o)) w).FreshFed 0 := by
  induction cs generalizing w with
  | nil => exact h
  | cons c cs ih =>
    -- no relay feeds a cell fed in another role
    have hnone : ∀ src, ¬ w.queue.Registered (.relay c) src := by
      intro src hs
      obtain ⟨r, hr, hf⟩ := hcs c List.mem_cons_self
      exact hr (h.role c r .shield (Nat.zero_le _) hf (.listener hs rfl))
    refine ih (h.finish c o fun src hs => absurd hs (hnone src)) fun c' hc' => ?_
    obtain ⟨r, hr, hf⟩ := hcs c' (List.mem_cons_of_mem c hc')
    exact ⟨r, hr, feeds_finish.2 hf⟩

/-- A fresh service has no relay and feeds no cell. -/
theorem Fresh.freshFed (h : w.Fresh) : w.FreshFed 0 := by
  have hfeeds : ∀ c r, ¬ w.Feeds c r := by
    rintro c r (⟨hr, -⟩ | ⟨⟨i, hi⟩⟩ | ⟨⟨i, hi⟩⟩)
    · rcases hr with hl | hn
      · simp [RunQueue.cell, h.cells] at hl
      · simp [h.ready] at hn
    · simp [h.replyGates.1] at hi
    · simp [h.startGates.1] at hi
  exact ⟨fun c r _ _ hr => absurd hr (hfeeds c r),
    fun c _ _ _ hs => absurd (.listener hs rfl) (hfeeds c .shield),
    fun c _ _ hs => absurd (.listener hs rfl) (hfeeds c .shield)⟩

/-! ## Every event -/

section Event

variable {v : World} {t : CellId} {p : Point} {w₀ : World}

/-- Taking the first entry off the queue keeps the relays. -/
theorem FreshFed.pop (h : v.FreshFed 0) {e : Wake} {q : RunQueue Point}
    (hpop : v.queue.pop? = some (e, q)) : ({ v with queue := q } : World).FreshFed 0 :=
  h.of_sub (fun d => by rw [RunQueue.cell_of_pop? hpop]) (fun _ _ hr => RunQueue.registered_of_pop? hpop hr)
    (fun _ hc => hc) fun _ hc => hc

/-- Recording how a busy task left off keeps the relays: a task is no relay's cell, and a wait
registers a listener that feeds nothing. -/
theorem FreshFed.advance (h : w.FreshFed 0) (hR : w.Running w₀ t p) {pr : Progress}
    (hs : w.Settles t p.duty pr) : (w.exec (Act.advance t pr)).FreshFed 0 := by
  cases pr with
  | done o =>
    rw [exec_advance_done]
    refine h.finish t o fun src hsrc => absurd (hR.toTyped.fed t .shield (.listener hsrc rfl)).1 ?_
    rw [Plain, hR.point]
    exact Option.some_ne_none p
  | wait c next =>
    rw [exec_advance_wait]
    obtain ⟨-, -, -, -, -, hc, -⟩ := hs
    have h₁ : ({ w with queue := w.queue.modifyCell t fun cell =>
        { cell with point := some next, waitsFor := some c } } : World).FreshFed 0 :=
      h.of_onlyCancels (RunQueue.onlyCancels_modifyCell t fun _ => ⟨rfl, rfl⟩) rfl rfl
    exact h₁.listen (by rw [RunQueue.size_modifyCell]; exact hc) rfl

/-- Every event keeps the relays. -/
theorem Typed.freshFed_step (hT : v.Typed none) (h : v.FreshFed 0) (e : Event) : (v.step e).FreshFed 0 := by
  cases e with
  | wake =>
    refine hT.wake_cases (fun v' => v'.FreshFed 0) (fun _ => h) (fun _ _ hpop => h.pop hpop)
      (fun t q hpop _ _ => (h.pop hpop).finish t .cancelled fun _ _ => .inl rfl)
      (fun e t p input q w₀ hpop hpend _ _ hrun hin hcell _ hw₀ hreg => ?_)
      (fun l src c r o q hpop _ _ hf ho => ?_)
      (fun g src q hpop => (h.pop hpop).of_onlyCancels
        (RunQueue.onlyCancels_modifyCell g fun _ => ⟨rfl, rfl⟩) rfl rfl)
      (fun x src q hpop => (h.pop hpop).of_sub (fun _ => rfl) (fun _ _ hr => hr) (fun _ hc => hc)
        fun _ hc => hc)
    · -- the step begins where the wake left the queue, runs within its frame, and leaves off
      have h₀ : w₀.FreshFed 0 := by
        refine h.of_sub (fun d => ?_) (fun l src hr => RunQueue.registered_of_pop? hpop ((hreg l src).1 hr))
          (fun c hc => by rw [hw₀] at hc; exact hc) fun c hc => by rw [hw₀] at hc; exact hc
        by_cases hd : d = t
        · rw [hd, hrun.pending, hpend]
        · rw [hcell d hd]
      have hst := hrun.run input hin
      exact (hst.1.frame.freshFed_zero h₀).advance hst.1 hst.2
    · have hreg : ∀ src', ({ v with queue := q } : World).queue.Registered (.relay c) src' →
          v.queue.Registered (.relay c) src' := fun _ hs => RunQueue.registered_of_pop? hpop hs
      refine (h.pop hpop).finish c o fun src' hs' => ?_
      rcases ho with ⟨rfl, rfl⟩ | ⟨hr, -⟩
      · -- the entry was the relay from `src`, the only launch that relays to the cell, which ended
        have hready := (RunQueue.pop?_eq_some hpop).1
        have hin : v.queue.Registered (.relay c) src := .inr (by rw [hready]; exact List.mem_cons_self)
        have hsrc := h.source c src' src (Nat.zero_le _) (hreg src' hs') hin
        subst hsrc
        have hdone := hT.notify_done _ src' (by rw [hready]; exact List.mem_cons_self)
        obtain ⟨x, hx⟩ := Option.ne_none_iff_exists'.1 hdone
        right
        show (q.cell src').result = _
        rw [RunQueue.cell_of_pop? hpop, hx]
        rfl
      · exact absurd (h.role c r .shield (Nat.zero_le _) hf (.listener (hreg src' hs') rfl)) hr
  | call c => exact h.of_onlyCancels (RunQueue.onlyCancels_spawn _) rfl rfl
  | warmUp =>
    show (v.exec (Act.spawnBackground .warmUp)).FreshFed 0
    rw [World.exec, Act.run_spawnBackground]
    have h₁ : ({ v with queue := (v.queue.spawn .warmUp).1, background := v.background ++ [v.queue.cells.size] } :
        World).FreshFed 0 := h.of_onlyCancels (RunQueue.onlyCancels_spawn _) rfl rfl
    exact h₁.listen (by rw [RunQueue.size_spawn]; exact Nat.lt_succ_self _) rfl
  | holdReply =>
    exact h.of_sub (fun _ => rfl) (fun _ _ hr => hr) (fun c hc => (GateQueue.holds_hold _ c).1 hc)
      fun _ hc => hc
  | holdStart =>
    exact h.of_sub (fun _ => rfl) (fun _ _ hr => hr) (fun _ hc => hc)
      fun c hc => (GateQueue.holds_hold _ c).1 hc
  | releaseReply =>
    show (v.exec (Act.openGate (·.replyGates) fun w q => { w with replyGates := q })).FreshFed 0
    cases hg : v.replyGates.oldestClosed? with
    | none => rw [World.exec, Act.run_openReplyGate_of_none v hg]; exact h
    | some g =>
      rw [World.exec, Act.run_openReplyGate_of_some v hg]
      refine FreshFed.finish_all _ _ (h.of_sub (fun _ => rfl) (fun _ _ hr => hr)
        (fun c hc => (GateQueue.holds_open _ _ _ c).1 hc) fun _ hc => hc) fun c hc => ?_
      exact ⟨.replyGate, by decide, .replyGate ((GateQueue.holds_open _ _ _ c).2 ⟨g, hc⟩)⟩
  | releaseStart =>
    show (v.exec (Act.openGate (·.startGates) fun w q => { w with startGates := q })).FreshFed 0
    cases hg : v.startGates.oldestClosed? with
    | none => rw [World.exec, Act.run_openStartGate_of_none v hg]; exact h
    | some g =>
      rw [World.exec, Act.run_openStartGate_of_some v hg]
      refine FreshFed.finish_all _ _ (h.of_sub (fun _ => rfl) (fun _ _ hr => hr) (fun _ hc => hc)
        fun c hc => (GateQueue.holds_open _ _ _ c).1 hc) fun c hc => ?_
      exact ⟨.startGate, by decide, .startGate ((GateQueue.holds_open _ _ _ c).2 ⟨g, hc⟩)⟩
  | reportLaunch s =>
    show (v.exec (Act.handleLaunch s)).FreshFed 0
    by_cases hs : v.life.server = some s
    · rw [World.exec, Act.run_handleLaunch_of_current v hs]
      exact h.of_onlyCancels (onlyCancels_beatCancelled.trans (RunQueue.onlyCancels_spawn _)) rfl rfl
    · rw [World.exec, Act.run_handleLaunch_of_ne v hs]
      exact h
  | reportCrash s =>
    show (v.exec (Act.clearServer s)).FreshFed 0
    by_cases hs : v.life.server = some s
    · rw [World.exec, Act.run_clearServer_of_current v hs]
      exact h.of_onlyCancels onlyCancels_beatCancelled rfl rfl
    · rw [World.exec, Act.run_clearServer_of_ne v hs]
      exact h
  | script _ | credentials _ | installation _ | ideVersion _ | clearLog =>
    exact h.of_onlyCancels (.refl _) rfl rfl
  | elapse t =>
    show (v.exec (Act.elapse t)).FreshFed 0
    rcases hT.elapse_cases t with he | ⟨s, c, -, hr, hw, -, he⟩
    · rw [he]
      exact h
    rw [he]
    cases hdone : v.queue.isDone c
    case true =>
      rw [RunQueue.finish_of_isDone _ hdone]
      exact h
    case false =>
      -- no launch relays to the cell a heartbeat sleeps on: its waiter would wait for a shield
      refine h.finish c _ fun src hsrc => ?_
      have hpend : v.Pending c := pending_iff_isDone.2 hdone
      cases hr.unique ((hT.fed c .shield (.listener hsrc rfl)).2 t hpend hw)

/-- A listener registered before an event stays registered after it, unless the event is the wake
that runs it. -/
theorem Typed.registered_step (hT : v.Typed none) (e : Event) {l : Listener} {src : CellId}
    (hreg : v.queue.Registered l src) :
    (v.step e).queue.Registered l src ∨ ∃ q, e = .wake ∧ v.queue.pop? = some (.notify l src, q) := by
  cases e with
  | wake =>
    -- the wake takes its entry off the queue: that is the listener, or leaves it registered
    have hpopped : ∀ e q, v.queue.pop? = some (e, q) →
        q.Registered l src ∨ ∃ q, Event.wake = .wake ∧ v.queue.pop? = some (.notify l src, q) := by
      intro e q hpop
      rcases RunQueue.registered_pop? hpop hreg with rfl | hq
      · exact .inr ⟨q, rfl, hpop⟩
      · exact .inl hq
    refine hT.wake_cases (fun v' => v'.queue.Registered l src ∨
        ∃ q, Event.wake = .wake ∧ v.queue.pop? = some (.notify l src, q)) (fun _ => .inl hreg)
      (fun e q hpop => hpopped e q hpop)
      (fun t q hpop _ _ => (hpopped _ q hpop).imp_left (RunQueue.registered_finish q t _ l src).2)
      (fun e t p input q w₀ hpop _ _ _ hrun hin _ _ _ hreg₀ => (hpopped e q hpop).imp_left fun hq => ?_)
      (fun l' src' c r o q hpop _ _ _ _ =>
        (hpopped _ q hpop).imp_left (RunQueue.registered_finish q c o l src).2)
      (fun g src' q hpop => (hpopped _ q hpop).imp_left
        (q.registered_modifyCell g (fun cell => { cell with remaining := cell.remaining - 1 })
          (fun _ => rfl) l src).2)
      (fun x src' q hpop => hpopped _ q hpop)
    -- a step keeps what is registered, and so does recording how it left off
    have hst := hrun.run input hin
    have hr := hst.1.frame.registered l src ((hreg₀ l src).2 hq)
    generalize StateT.run (Act.run p input) w₀ = r at hst hr
    obtain ⟨_ | ⟨c, next⟩, W⟩ := r
    · rw [exec_advance_done]
      exact (RunQueue.registered_finish W.queue t _ l src).2 hr
    · obtain ⟨-, -, -, -, -, hc, -⟩ := hst.2
      rw [exec_advance_wait]
      refine (RunQueue.registered_listen _ (by rw [RunQueue.size_modifyCell]; exact hc) _ l src).2
        (.inl ?_)
      exact (W.queue.registered_modifyCell t
        (fun cell => { cell with point := some next, waitsFor := some c }) (fun _ => rfl) l src).2 hr
  | call c => exact .inl ((RunQueue.registered_spawn v.queue _ l src).2 hreg)
  | warmUp =>
    left
    show (v.exec (Act.spawnBackground .warmUp)).queue.Registered l src
    rw [World.exec, Act.run_spawnBackground]
    exact (RunQueue.registered_listen _ (by rw [RunQueue.size_spawn]; exact Nat.lt_succ_self _) _ l src).2
      (.inl ((RunQueue.registered_spawn v.queue _ l src).2 hreg))
  | holdReply | holdStart | script _ | credentials _ | installation _ | ideVersion _ | clearLog =>
    exact .inl hreg
  | elapse t =>
    left
    show (v.exec (Act.elapse t)).queue.Registered l src
    rcases hT.elapse_cases t with he | ⟨s, c, -, -, -, -, he⟩
    · rw [he]
      exact hreg
    · rw [he]
      exact (RunQueue.registered_finish _ c _ l src).2 hreg
  | releaseReply =>
    left
    show (v.exec (Act.openGate (·.replyGates) fun w q => { w with replyGates := q })).queue.Registered l src
    cases hg : v.replyGates.oldestClosed? with
    | none => rw [World.exec, Act.run_openReplyGate_of_none v hg]; exact hreg
    | some g =>
      rw [World.exec, Act.run_openReplyGate_of_some v hg, finish_all_eq]
      exact (RunQueue.registered_finish_all _ _).2 hreg
  | releaseStart =>
    left
    show (v.exec (Act.openGate (·.startGates) fun w q => { w with startGates := q })).queue.Registered l src
    cases hg : v.startGates.oldestClosed? with
    | none => rw [World.exec, Act.run_openStartGate_of_none v hg]; exact hreg
    | some g =>
      rw [World.exec, Act.run_openStartGate_of_some v hg, finish_all_eq]
      exact (RunQueue.registered_finish_all _ _).2 hreg
  | reportLaunch s =>
    left
    show (v.exec (Act.handleLaunch s)).queue.Registered l src
    by_cases hs : v.life.server = some s
    · rw [World.exec, Act.run_handleLaunch_of_current v hs]
      exact (RunQueue.registered_spawn _ _ l src).2 ((onlyCancels_beatCancelled.registered l src).2 hreg)
    · rw [World.exec, Act.run_handleLaunch_of_ne v hs]
      exact hreg
  | reportCrash s =>
    left
    show (v.exec (Act.clearServer s)).queue.Registered l src
    by_cases hs : v.life.server = some s
    · rw [World.exec, Act.run_clearServer_of_current v hs]
      exact (onlyCancels_beatCancelled.registered l src).2 hreg
    · rw [World.exec, Act.run_clearServer_of_ne v hs]
      exact hreg

/-- A registered relay stays registered, or has run: its cell then has its result, a cancellation or
what the launch holds. -/
theorem Typed.relay_step (hT : v.Typed none) (h : v.FreshFed 0) (e : Event) {c l : CellId}
    (hreg : v.queue.Registered (.relay c) l) :
    (v.step e).queue.Registered (.relay c) l ∨ (¬ (v.step e).Pending c ∧ (v.step e).queue.Echoes c l) := by
  rcases hT.registered_step e hreg with h' | ⟨q, rfl, hpop⟩
  · exact .inl h'
  right
  have hcell := RunQueue.cell_of_pop? hpop
  have hecho := h.held c l (Nat.zero_le _) hreg
  -- the relay runs after its launch ended
  have hdone := hT.notify_done _ l (by rw [(RunQueue.pop?_eq_some hpop).1]; exact List.mem_cons_self)
  obtain ⟨x, hx⟩ := Option.ne_none_iff_exists'.1 hdone
  have hwake : v.step .wake = ({ v with queue := q } : World).exec (Act.notify (.relay c) l) := by
    show v.wake = _
    unfold World.wake
    rw [hpop]
    rfl
  rw [hwake, World.exec, Act.run_notify_relay]
  split
  · rename_i hd
    refine ⟨fun hp => ?_, ?_⟩
    · rw [RunQueue.isDone_def] at hd
      rw [Pending] at hp
      rw [hp] at hd
      cases hd
    · show q.Echoes c l
      unfold RunQueue.Echoes at hecho ⊢
      rw [hcell, hcell]
      exact hecho
  · rename_i hnd
    have hlt : c < q.cells.size := by
      rw [(RunQueue.pop?_eq_some hpop).2]
      exact (hT.lt_size_of_registered hreg).1
    have hres : ((q.finish c ((q.cell l).result.getD .cancelled)).cell c).result = some x := by
      rw [q.cell_finish (Bool.eq_false_iff.2 hnd), if_pos ⟨rfl, hlt⟩]
      show some ((q.cell l).result.getD .cancelled) = some x
      rw [hcell l, hx]
      rfl
    refine ⟨fun hp => ?_, .inr (.inr ?_)⟩
    · change ((q.finish c _).cell c).result = none at hp
      rw [hres] at hp
      cases hp
    · show ((q.finish c _).cell c).result = ((q.finish c _).cell l).result
      rw [hres, RunQueue.result_finish_of_some (by rw [hcell]; exact hx)]

/-- What a registered relay leaves of its cell through an event: the relay stays registered, or
the cell keeps a result that echoes the launch. -/
theorem Typed.echo_step (hT : v.Typed none) (h : v.FreshFed 0) {c l : CellId}
    (hr : v.queue.Registered (.relay c) l ∨ (¬ v.Pending c ∧ v.queue.Echoes c l)) (e : Event) :
    (v.step e).queue.Registered (.relay c) l ∨ (¬ (v.step e).Pending c ∧ (v.step e).queue.Echoes c l) := by
  rcases hr with hr | ⟨hnp, he⟩
  · exact hT.relay_step h e hr
  · -- the cell has its result, which stays, and so does the launch's
    obtain ⟨x, hx⟩ := Option.ne_none_iff_exists'.1 hnp
    refine .inr ⟨fun hp => ?_, he.of_results (fun d o hd => hT.result_step e hd) fun o hp _ => absurd hp hnp⟩
    rw [Pending, hT.result_step e hx] at hp
    cases hp

/-- A relay from a launch to a cell, once registered, leaves the cell holding nothing, a
cancellation or what the launch holds, in every world the run reaches from there. -/
theorem Typed.echoes_run (hT : v.Typed none) (h : v.FreshFed 0) {c l : CellId}
    (hreg : v.queue.Registered (.relay c) l) (es : List Event) : (v.run es).queue.Echoes c l := by
  obtain ⟨-, hF, hr⟩ := run_induction (fun u => u.Typed none ∧ u.FreshFed 0 ∧
      (u.queue.Registered (.relay c) l ∨ (¬ u.Pending c ∧ u.queue.Echoes c l)))
    (fun _ e hu => ⟨hu.1.step e, hu.1.freshFed_step hu.2.1 e, hu.1.echo_step hu.2.1 hu.2.2 e⟩)
    es ⟨hT, h, .inl hreg⟩
  rcases hr with hr | ⟨-, he⟩
  · exact hF.held c l (Nat.zero_le _) hr
  · exact he

/-- Cancelling a caller that waits for a server cancels its shield, a plain cell, or marks the
caller: the cell of every launch task stays as it was, so the launch goes on for the others. -/
theorem Typed.cancelTask_caller {b : Option CellId} (hT : v.Typed b) {x c l : CellId} (hw : v.Waits x c)
    (hr : v.HasRole x .shield) (hl : v.HasDuty l .launch) :
    (v.queue.cancelTask x).cell l = v.queue.cell l := by
  obtain ⟨p, hp, hrp⟩ := hr
  -- the caller's shield is a plain cell
  have hplain : v.Plain c := by
    obtain ⟨r, hr', htg⟩ := hT.target x c hw
    cases hrp.symm.trans (hr'.eq_of_point hp)
    exact htg
  -- the launch is not the caller: no launch waits in a shield's role
  have hlx : l ≠ x := by
    rintro rfl
    obtain ⟨q, hq, hdq⟩ := hl
    rw [hp] at hq
    cases hq
    cases p <;> simp [Point.duty, Point.role] at hdq hrp
  have hx : v.queue.isDone x = false := by
    simp [RunQueue.isDone_def, show (v.queue.cell x).result = none from hw.1]
  have hpx : (v.queue.cell x).point.isSome := by rw [hp]; rfl
  cases hdc : v.queue.isDone c with
  | false =>
    rw [v.queue.cancelTask_of_waiting hx hpx hw.2 hdc hplain, v.queue.cell_finish hdc, if_neg]
    -- the shield is plain, the launch a task
    rintro ⟨rfl, -⟩
    obtain ⟨q, hq, -⟩ := hl
    rw [Plain] at hplain
    rw [hplain] at hq
    cases hq
  | true => rw [v.queue.cancelTask_of_woken hx hpx hw.2 hdc, v.queue.cell_modifyCell_of_ne (Ne.symm hlx)]

end Event

/-- Every world a run of a fresh service reaches keeps the relays. -/
theorem Fresh.freshFed_run (h : w.Fresh) (es : List Event) : (w.run es).FreshFed 0 :=
  (run_induction (fun v => v.Typed none ∧ v.FreshFed 0)
    (fun _ e hv => ⟨hv.1.step e, hv.1.freshFed_step hv.2 e⟩) es ⟨h.typed, h.freshFed⟩).2

/-! ## Every world a run reaches -/

/-- What holds of the launches in a world and of the event after it. -/
structure SingleLaunch (v : World) : Prop where
  /-- Every launch in progress is the launch under way, so at most one is. -/
  one : ∀ c, v.HasDuty c .launch → v.Pending c → v.life.launch = some c
  /-- A launch about to begin finds no server. -/
  fresh : ∀ c, (v.queue.cell c).point = some .launch → v.Pending c → v.life.server = none
  /-- The next event begins a launch only where no server is current and no launch is in
  progress. -/
  begins : ∀ e l, (v.step e).life.launch = some l → v.life.launch ≠ some l →
    v.life.server = none ∧ ∀ c, v.HasDuty c .launch → ¬ v.Pending c
  /-- A relay comes from a launch, and the cell it feeds holds nothing, a cancellation or exactly
  what the launch holds, from then on. -/
  relayed : ∀ c l, v.queue.Registered (.relay c) l →
    v.HasDuty l .launch ∧ ∀ es, (v.run es).queue.Echoes c l
  /-- Cancelling a caller that waits for a server leaves every launch task as it is. -/
  cancel_caller : ∀ x c l, v.Waits x c → v.HasRole x .shield → v.HasDuty l .launch →
    (v.queue.cancelTask x).cell l = v.queue.cell l
  /-- A server taken at once has started. -/
  ready : ∀ s, (StateT.run Act.ensureStarted v).1 = .ready s → (v.servers.getD s default).started = true
  /-- A launch ends with a started server or a fault. -/
  launch_result : ∀ c o, v.HasDuty c .launch → (v.queue.cell c).result = some o → v.LaunchOutcome o
  /-- A caller waiting for a server is woken with a cancellation, a started server or a fault. -/
  woken : ∀ x c o, v.Waits x c → v.HasRole x .shield → (v.queue.cell c).result = some o →
    o = .cancelled ∨ v.LaunchOutcome o
  /-- The next event keeps the server; or clears it, with its heartbeat, and with the counters
  reset where so configured; or, at the first step of the launch under way, makes current the
  server that step has just made, where none was. -/
  server : ∀ e, (v.step e).life.server = v.life.server ∨
    (∃ h, v.life.server = some h ∧ (v.step e).life.server = none ∧ (v.step e).life.heartbeat = none ∧
      (v.resetOnRestart = true → (v.step e).life.counters = {})) ∨
    (v.life.server = none ∧ (v.step e).life.server = some v.servers.size ∧
      ∃ l, v.life.launch = some l ∧ (v.queue.cell l).point = some .launch ∧ v.Wakes e l)
  /-- A report of a server that is not current changes nothing. -/
  stale : ∀ s, v.life.server ≠ some s → v.step (.reportLaunch s) = v ∧ v.step (.reportCrash s) = v

end World

/-- In every world a run of a fresh service reaches, at most one launch is in progress and none
begins while a server is current; the callers of a launch share its result, and cancelling one of
them leaves the launch alone; a caller gets only servers that started; and the current server
changes only to the server a launch has just made or, cleared, to none, while reports of other
servers change nothing. -/
theorem launch_single_and_shared (w : World) (hw : w.Fresh) (es : List Event) : (w.run es).SingleLaunch := by
  have hT := hw.typed_run es
  have hL := hw.lifeShape_run es
  have hS := hw.started_run es
  have hF := hw.freshFed_run es
  refine ⟨fun c hd hp => hL.one c nofun hd hp, fun c hp hpe => hL.fresh c nofun hp hpe,
    fun e l hl hne => ?_, fun c l hr => ⟨hT.relay_source c l hr, hT.echoes_run hF hr⟩,
    fun x c l hx hr hl => hT.cancelTask_caller hx hr hl, fun s h => hS.ready hT h, hT.launch_result,
    fun x c o hx hr ho => hT.woken x c .shield o hx hr ho, fun e => ?_, fun s hs => ⟨?_, ?_⟩⟩
  · -- a new launch finds no launch in progress: each would be the launch under way
    obtain ⟨hs, hn⟩ := (hT.launchEvent hL e).launch l hl hne
    refine ⟨hs, fun c hd hp => ?_⟩
    rw [hL.one c nofun hd hp] at hn
    cases hn
  · rcases (hT.launchEvent hL e).server with h₁ | ⟨h, hs, hn, hc⟩ | h₃
    · exact .inl h₁
    · exact .inr (.inl ⟨h, hs, hn, ((hL.step hT e).shape.of_no_server hn).1, hc⟩)
    · exact .inr (.inr h₃)
  · show (w.run es).exec (Act.handleLaunch s) = _
    rw [World.exec, Act.run_handleLaunch_of_ne _ hs]
  · show (w.run es).exec (Act.clearServer s) = _
    rw [World.exec, Act.run_clearServer_of_ne _ hs]

/-- A fresh service is warmed up twice, and both starts run. -/
theorem launch_single_and_shared_on_two_warm_ups :
    let w : World :=
      { projectRoot := "/project", credentials := ⟨.str "key"⟩,
        source := ⟨.str "vim", .str "9.1", none, .str "session"⟩, installation := .error .notSignedIn,
        resetOnRestart := false }
    w.Fresh ∧ (w.run [.warmUp, .warmUp, .wake, .wake]).SingleLaunch := by
  intro w
  have hw : w.Fresh :=
    { phase := rfl, server := rfl, heartbeat := rfl, launch := rfl, cells := rfl, ready := rfl, jobs := rfl,
      ongoing := rfl, background := rfl, servers := rfl, replyGates := ⟨rfl, rfl⟩,
      startGates := ⟨rfl, rfl⟩, installation := nofun }
  exact ⟨hw, launch_single_and_shared w hw [.warmUp, .warmUp, .wake, .wake]⟩

end CompletionClient.Service
