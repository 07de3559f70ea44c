import CompletionClient.Proofs.Service.Steps
/-!
# The steps of the service's activities

A step of a task runs one activity of the service from a program point to its
next wait or its end.  Run by a busy task from a point of its own duty, each
activity *steps* (`World.Stepped`): the task stays busy, and the progress it
ends in settles.  Each lemma here follows its activity action by action,
through the lemmas of `Steps` about the busy task; `Running.run` collects them
for every program point, for a wake-up input that fits the role the task
waited in.
-/

namespace CompletionClient.Service

namespace World

variable {w w' w₀ : World} {t : CellId} {p : Point}

/-- A step of the busy task `t` at `p` that leaves it busy and ends in a progress that
settles. -/
def Stepped (w₀ : World) (t : CellId) (p : Point) (r : Progress × World) : Prop :=
  r.2.Running w₀ t p ∧ r.2.Settles t p.duty r.1

/-- An end settles for every duty but a launch's. -/
theorem Settles.done {du : Duty} (hd : du ≠ .launch) (o : Outcome) : w.Settles t du (.done o) :=
  fun h => absurd h hd

/-- A wait for another task, in a role whose cell is a task, settles: no feeder feeds a task, and
any result fits such a role. -/
theorem Settles.of_task {b : Option CellId} (h : w.Typed b) {c : CellId} {r : Role} {next : Point}
    {du : Duty} (hr : next.role = some r) (hrt : ¬ r.Plain) (htg : w.Target r c)
    (hc : c < w.queue.cells.size) (hct : c ≠ t) (htask : ¬ w.Plain c) (hd : next.duty = du)
    (hsrv : ∀ previous s, next = .launchAwaitingStart previous s → s < w.servers.size) :
    w.Settles t du (.wait c next) := by
  refine ⟨hd, hsrv, r, hr, htg, hc, hct, fun hp => absurd hp htask,
    fun r' hf => absurd (h.fed c r' hf).1 htask, fun o _ => ?_⟩
  cases r <;> first | exact absurd trivial hrt | trivial

/-! ## Cells of a busy task's own, kept -/

theorem OwnCell.of_core {c : CellId} {r : Role} (hown : w.OwnCell t c r) (hc : SameCore w' w)
    (hsize : w'.queue.cells.size = w.queue.cells.size)
    (hfeeds : ∀ r', w'.Feeds c r' → w.Feeds c r') : w'.OwnCell t c r where
  bounded := hsize ▸ hown.bounded
  ne := hown.ne
  plain := (hc.plain c).2 hown.plain
  unwaited t' hw := hown.unwaited t' ((hc.waits t' c).1 hw)
  fed r' hf := hown.fed r' (hfeeds r' hf)
  pending := (hc.pending c).2 hown.pending

theorem OwnCell.setRemaining {c : CellId} {r : Role} (hown : w.OwnCell t c r) (g n : Nat) :
    ({ w with queue := w.queue.modifyCell g fun cell => { cell with remaining := n } } :
      World).OwnCell t c r := by
  generalize hw' : ({ w with queue := w.queue.modifyCell g fun cell => { cell with remaining := n } } :
    World) = w'
  have hq : w'.queue = w.queue.modifyCell g fun cell => { cell with remaining := n } := by rw [← hw']
  have hgates : w'.replyGates = w.replyGates ∧ w'.startGates = w.startGates := by
    rw [← hw']; exact ⟨rfl, rfl⟩
  refine hown.of_core ?_ (by rw [hq]; exact RunQueue.size_modifyCell _ _ _) fun r' hf =>
    Feeds.of_views hf (fun l src hr => ?_) (fun _ h => hgates.1 ▸ h) (fun _ h => hgates.2 ▸ h)
  · constructor <;> intro d <;> rw [hq, RunQueue.cell_modifyCell] <;> split <;> rfl
  · rw [hq] at hr
    exact (w.queue.registered_modifyCell g (fun cell => { cell with remaining := n }) (fun _ => rfl)
      l src).1 hr

/-! ## Cancelling and counting the background tasks -/

theorem hasDuty_cancelTask {x d : CellId} {du : Duty} :
    ({ w with queue := w.queue.cancelTask x } : World).HasDuty d du ↔ w.HasDuty d du := by
  simp only [HasDuty, RunQueue.point_cancelTask]

/-- Cancelling one cell after another changes the run queue only. -/
theorem foldl_cancel (l : List CellId) (w : World) :
    l.foldl (fun w x => w.exec (Act.cancel x)) w =
      { w with queue := l.foldl (fun q x => q.cancelTask x) w.queue } := by
  induction l generalizing w with
  | nil => rfl
  | cons x l ih => exact ih _

theorem size_foldl_cancelTask (l : List CellId) (q : RunQueue Point) :
    (l.foldl (fun q x => q.cancelTask x) q).cells.size = q.cells.size := by
  induction l generalizing q with
  | nil => rfl
  | cons x l ih => rw [List.foldl_cons, ih, RunQueue.size_cancelTask]

/-- Cancelling tasks of cancellable duties other than the busy task's keeps it busy. -/
theorem Running.cancel_all (h : w.Running w₀ t p) (l : List CellId)
    (hl : ∀ x ∈ l, ∃ du, w.HasDuty x du ∧ du.Cancellable ∧ p.duty ≠ du) :
    (l.foldl (fun w x => w.exec (Act.cancel x)) w).Running w₀ t p := by
  induction l generalizing w with
  | nil => exact h
  | cons x l ih =>
    obtain ⟨du, hx, hcan, hne⟩ := hl x List.mem_cons_self
    refine ih (h.cancelTask hx hcan (h.ne_of_duty hx hne)) fun y hy => ?_
    obtain ⟨du', hy', hcan', hne'⟩ := hl y (List.mem_cons_of_mem x hy)
    exact ⟨du', hasDuty_cancelTask.2 hy', hcan', hne'⟩

/-- Tallies of a list of cells in bounds towards a cell of the busy task's own, in the role of a
drain, keep the task busy and the cell its own. -/
theorem Running.tally_all {g : CellId} (cs : List CellId) (h : w.Running w₀ t p)
    (hown : w.OwnCell t g .drain) (hcs : ∀ x ∈ cs, x < w.queue.cells.size)
    (hg : w₀.queue.cells.size ≤ g) :
    (cs.foldl (fun w x => w.exec (Act.listen x (.tally g))) w).Running w₀ t p ∧
      (cs.foldl (fun w x => w.exec (Act.listen x (.tally g))) w).OwnCell t g .drain := by
  induction cs generalizing w with
  | nil => exact ⟨h, hown⟩
  | cons x cs ih =>
    have hx := hcs x List.mem_cons_self
    have htally : ∀ y r, (Listener.tally g).feed = some (y, r) → y = g ∧ r = .drain := by
      intro y r hy
      simp only [Listener.feed, Option.some.injEq, Prod.mk.injEq] at hy
      exact ⟨hy.1.symm, hy.2.symm⟩
    have hfeed : ∀ y r, (Listener.tally g).feed = some (y, r) →
        w.Plain y ∧ ∀ t', w.Pending y → w.Waits t' y → w.HasRole t' r := by
      intro y r hy
      obtain ⟨rfl, rfl⟩ := htally y r hy
      exact ⟨hown.plain, fun t' _ hw => absurd hw (hown.unwaited t')⟩
    have hnew : ∀ y r, (Listener.tally g).feed = some (y, r) →
        w₀.queue.cells.size ≤ y ∧ ∀ r', w.Feeds y r' → r' = r := by
      intro y r hy
      obtain ⟨rfl, rfl⟩ := htally y r hy
      exact ⟨hg, hown.fed⟩
    refine ih (h.listen hx hown.bounded hfeed (fun _ hy => by cases hy) hnew (fun _ hy => by cases hy))
      (hown.listen hx fun y r hy _ => (htally y r hy).2) fun y hy => ?_
    · show y < (w.queue.listen x (.tally g)).cells.size
      rw [RunQueue.size_listen]
      exact hcs y (List.mem_cons_of_mem x hy)

/-! ## Clearing the server -/

theorem point_clearServer (s : Nat) (d : CellId) :
    ((w.exec (Act.clearServer s)).queue.cell d).point = (w.queue.cell d).point := by
  by_cases hs : w.life.server = some s
  · rw [World.exec, Act.run_clearServer_of_current w hs]
    dsimp only
    unfold World.beatCancelled
    split
    · exact RunQueue.point_cancelTask _ _ _
    · rfl
  · rw [World.exec, Act.run_clearServer_of_ne w hs]

theorem size_clearServer (s : Nat) :
    (w.exec (Act.clearServer s)).queue.cells.size = w.queue.cells.size := by
  by_cases hs : w.life.server = some s
  · rw [World.exec, Act.run_clearServer_of_current w hs]
    dsimp only
    unfold World.beatCancelled
    split
    · exact RunQueue.size_cancelTask _ _
    · rfl
  · rw [World.exec, Act.run_clearServer_of_ne w hs]

theorem hasDuty_clearServer (s : Nat) {d : CellId} {du : Duty} :
    (w.exec (Act.clearServer s)).HasDuty d du ↔ w.HasDuty d du := by
  simp only [HasDuty, point_clearServer]

/-! ## Stopping -/

section Stop

variable {closing : Bool}

theorem stop_ne_launch : Duty.stop closing ≠ .launch := nofun

/-- The end of a stop: a closing one waits for a new cell of its own that a tally of every
background task, each cancelled first, feeds. -/
theorem Running.stopDrain (h : w.Running w₀ t p) (hd : p.duty = .stop closing) :
    Stepped w₀ t p (StateT.run (Act.stopDrain closing) w) := by
  have hne : p.duty ≠ .launch := hd ▸ stop_ne_launch
  cases closing with
  | false =>
    rw [Act.run_stopDrain_false]
    exact ⟨h, .done hne _⟩
  | true =>
    have hbg : ∀ x ∈ w.background, ∃ du, w.HasDuty x du ∧ du.Cancellable ∧ p.duty ≠ du := by
      intro x hx
      rcases h.background_ref x hx with hx' | hx'
      · exact ⟨_, hx', trivial, by rw [hd]; nofun⟩
      · exact ⟨_, hx', trivial, by rw [hd]; nofun⟩
    have h₁ := h.cancel_all w.background hbg
    rw [Act.run_stopDrain_true]
    dsimp only
    rw [foldl_cancel] at h₁ ⊢
    have hsize := size_foldl_cancelTask w.background w.queue
    generalize w.background.foldl (fun q x => q.cancelTask x) w.queue = q₁ at h₁ hsize ⊢
    split
    · exact ⟨h₁, .done hne _⟩
    · -- the drain cell is new; every background task is in bounds and tallies towards it
      have hown := (h₁.newCell_own .drain).setRemaining q₁.cells.size w.background.length
      have h₂ := h₁.newCell.setRemaining hown.ne w.background.length
      have hcs : ∀ x ∈ w.background, x < (q₁.newCell.1.modifyCell q₁.cells.size fun cell =>
          { cell with remaining := w.background.length }).cells.size := by
        intro x hx
        rw [RunQueue.size_modifyCell, RunQueue.size_newCell, hsize]
        exact Nat.lt_succ_of_lt (h.world_bounded x (.inr (.inr (.inr (.inl hx)))))
      obtain ⟨h₃, hown₃⟩ := h₂.tally_all w.background hown hcs (hsize ▸ h.keeps.size)
      exact ⟨h₃, Settles.of_own hown₃ rfl trivial (by rw [hd]; rfl) (fun _ _ hn => by cases hn)⟩

theorem started_terminated (S : Array Endpoint) (s s' : Nat) :
    ((S.modify s fun e => { e with terminated := true }).getD s' default).started =
      (S.getD s' default).started := by
  simp only [Array.getD_eq_getD_getElem?, Array.getElem?_modify]
  split <;> cases S[s']? <;> rfl

/-- Terminating the server clears it, and the stop ends as above. -/
theorem Running.stopTerminate (h : w.Running w₀ t p) (hd : p.duty = .stop closing) (s : Nat) :
    Stepped w₀ t p (StateT.run (Act.stopTerminate closing s) w) := by
  rw [Act.run_stopTerminate]
  have h₁ : ({ w with servers := w.servers.modify s fun e => { e with terminated := true } } :
      World).Running w₀ t p :=
    .of (h.toTyped.setServers _ (by simp) fun s' hs' => by rw [started_terminated]; exact hs')
      (h.toBusy.of_queue rfl rfl (.of_queue rfl (fun _ h => h) (fun _ h => h) (by simp)
        (fun s' hs' => by rw [started_terminated]; exact hs') (.inl rfl)))
  exact (h₁.clearServer (fun _ => by rw [hd]; nofun) s).stopDrain hd

/-- A stop with no launch under way clears the server and waits for its heartbeat, cancelled by
the clearing, unless that has ended. -/
theorem Running.stopAfterLaunch (h : w.Running w₀ t p) (hd : p.duty = .stop closing) :
    Stepped w₀ t p (StateT.run (Act.stopAfterLaunch closing) w) := by
  have hbeat : ∀ s, p.duty ≠ .heartbeat s := fun _ => by rw [hd]; nofun
  cases hs : w.life.server with
  | none =>
    rw [Act.run_stopAfterLaunch_of_none w closing hs]
    exact h.stopDrain hd
  | some s =>
    have h₁ := h.clearServer hbeat s
    cases hh : w.life.heartbeat with
    | none =>
      rw [Act.run_stopAfterLaunch_of_no_beat w closing hs hh]
      exact h₁.stopTerminate hd s
    | some c =>
      rw [Act.run_stopAfterLaunch_of_beat w closing hs hh]
      split
      · exact h₁.stopTerminate hd s
      · obtain ⟨s', hc⟩ := h.heartbeat_ref c hh
        have hc₁ : (w.exec (Act.clearServer s)).HasDuty c (.heartbeat s') :=
          (hasDuty_clearServer s).2 hc
        refine ⟨h₁, Settles.of_task h₁.toTyped rfl (fun h => h) ⟨s', hc₁⟩
          (by rw [size_clearServer]; exact lt_size_of_hasDuty hc) (h.ne_of_duty hc (hbeat s'))
          (fun hp => ?_) (by rw [hd]; rfl) (fun _ _ hn => by cases hn)⟩
        obtain ⟨p', hp', -⟩ := hc₁
        simp [Plain, hp'] at hp

/-- A stop supersedes the calls in flight if it closes, and then waits for the launch under way
through a new cell of its own that the launch's end signals, or goes on at once. -/
theorem Running.stopBegin (h : w.Running w₀ t p) (hd : p.duty = .stop closing) :
    Stepped w₀ t p (StateT.run (Act.stopBegin closing) w) := by
  have h₀ : (Act.stopStart w closing).Running w₀ t p := by
    cases closing
    · exact h
    · exact h.supersedeAll fun j => by rw [hd]; nofun
  cases hl : w.life.launch with
  | none =>
    rw [Act.run_stopBegin_of_none w closing hl]
    exact h₀.stopAfterLaunch hd
  | some l =>
    rw [Act.run_stopBegin_of_launch w closing hl]
    dsimp only
    have hl₀ : (Act.stopStart w closing).life.launch = some l := by rw [Act.life_stopStart, hl]
    have hown := h₀.newCell_own .signal
    have hsrc : l < (Act.stopStart w closing).queue.newCell.1.cells.size := by
      rw [RunQueue.size_newCell]
      exact Nat.lt_succ_of_lt (lt_size_of_hasDuty (h₀.launch_ref l hl₀).1)
    refine ⟨h₀.newCell.listen hsrc (by simp [Listener.cell]) ?_ (fun _ hx => by cases hx) ?_
        (fun _ hx => by cases hx),
      Settles.of_own (hown.listen hsrc ?_) rfl trivial (by rw [hd]; rfl) (fun _ _ hn => by cases hn)⟩
    · intro x r hf
      simp only [Listener.feed, Option.some.injEq, Prod.mk.injEq] at hf
      obtain ⟨rfl, rfl⟩ := hf
      exact ⟨hown.plain, fun t' _ hw => absurd hw (hown.unwaited t')⟩
    · intro x r hf
      simp only [Listener.feed, Option.some.injEq, Prod.mk.injEq] at hf
      obtain ⟨rfl, rfl⟩ := hf
      exact ⟨h₀.keeps.size, hown.fed⟩
    · intro x r hf _
      simp only [Listener.feed, Option.some.injEq, Prod.mk.injEq] at hf
      exact hf.2.symm

end Stop

/-! ## Launching -/

section Launch

theorem started_modify_started (S : Array Endpoint) (s s' : Nat)
    (h : s < S.size ∧ s = s' ∨ (S.getD s' default).started = true) :
    ((S.modify s fun e => { e with started := true }).getD s' default).started = true := by
  simp only [Array.getD_eq_getD_getElem?, Array.getElem?_modify] at h ⊢
  split
  · rename_i hss
    subst hss
    rcases h with ⟨hs, -⟩ | h
    · simp [hs]
    · cases hS : S[s]? <;> simp_all
  · rcases h with ⟨-, rfl⟩ | h
    · contradiction
    · exact h

theorem servers_handleLaunch (s : Nat) : (w.exec (Act.handleLaunch s)).servers = w.servers := by
  by_cases hs : w.life.server = some s
  · rw [World.exec, Act.run_handleLaunch_of_current w hs]
  · rw [World.exec, Act.run_handleLaunch_of_ne w hs]

theorem servers_claimStartGate : (StateT.run Act.claimStartGate w).2.servers = w.servers := by
  cases hu : w.startGates.untaken with
  | nil => rw [Act.run_claimStartGate_of_nil w hu]
  | cons g rest =>
    cases ho : (w.startGates.gates.getD g {}).isOpen
    · rw [Act.run_claimStartGate_of_closed w hu ho]
    · rw [Act.run_claimStartGate_of_open w hu ho]

theorem started_push (S : Array Endpoint) (e : Endpoint) (s' : Nat)
    (h : (S.getD s' default).started = true) : ((S.push e).getD s' default).started = true := by
  simp only [Array.getD_eq_getD_getElem?, Array.getElem?_push] at h ⊢
  split
  · rename_i hs
    subst hs
    simp at h
    exact absurd h (by decide)
  · exact h

variable (hd : p.duty = .launch)
include hd

theorem launch_ne_heartbeat (s : Nat) : p.duty ≠ .heartbeat s := by rw [hd]; nofun

omit hd in
/-- The end of a launch, with a server whose start went through or a fault: no launch is under
way any more. -/
theorem Running.launchEnd (h : w.Running w₀ t p) (previous : Phase) {o : Outcome}
    (ho : w.LaunchOutcome o) : Stepped w₀ t p (StateT.run (Act.launchEnd previous o) w) := by
  -- either way only the lifecycle changes, and its launch is cleared
  have hL : ∀ L : Lifecycle, L.launch = none → L.heartbeat = w.life.heartbeat →
      L.server = w.life.server → Stepped w₀ t p (.done o, { w with life := L }) := by
    intro L hl hb hs
    refine ⟨.of (h.toTyped.setLife L (fun l hl' => by rw [hl] at hl'; cases hl')
      fun c hc => h.heartbeat_ref c (hb ▸ hc))
      (h.toBusy.of_queue rfl rfl (.of_state rfl rfl rfl rfl (.inl hs))), fun _ => ⟨ho, ?_⟩⟩
    show L.launch ≠ some t
    rw [hl]
    nofun
  by_cases hv : ∃ r, o = .value r
  · obtain ⟨r, rfl⟩ := hv
    rw [Act.run_launchEnd_value]
    exact hL _ rfl rfl rfl
  · rw [Act.run_launchEnd_of_not_value w previous fun r hr => hv ⟨r, hr⟩]
    exact hL _ rfl rfl rfl

/-- A failed start clears the server and ends the launch with the fault. -/
theorem Running.launchAbort (h : w.Running w₀ t p) (previous : Phase) (s : Nat) (f : Fault) :
    Stepped w₀ t p (StateT.run (Act.launchAbort previous s (.failed f)) w) := by
  rw [Act.run_launchAbort]
  have h₁ := h.clearServer (launch_ne_heartbeat hd) s
  have h₂ : ({ w.exec (Act.clearServer s) with
      managerFolders := (w.exec (Act.clearServer s)).managerFolders - 1 } : World).Running w₀ t p :=
    h₁.of_queue rfl rfl (.of_fields rfl rfl rfl rfl rfl rfl rfl rfl) (.inl rfl)
  exact h₂.launchEnd previous (.inr ⟨f, rfl⟩)

/-- The start of a server that exists: it goes through, with the server marked started, or the
launch aborts. -/
theorem Running.launchStarted (h : w.Running w₀ t p) (previous : Phase) {s : Nat}
    (hs : s < w.servers.size) : Stepped w₀ t p (StateT.run (Act.launchStarted previous s) w) := by
  by_cases he : w.script.startError = .null
  · rw [Act.run_launchStarted_of_null w previous s he]
    dsimp only
    have h₁ : ({ w with servers := w.servers.modify s fun e => { e with started := true } } :
        World).Running w₀ t p :=
      .of (h.toTyped.setServers _ (by simp) fun s' hs' => started_modify_started _ _ _ (.inr hs'))
        (h.toBusy.of_queue rfl rfl (.of_queue rfl (fun _ h => h) (fun _ h => h) (by simp)
          (fun s' hs' => started_modify_started _ _ _ (.inr hs')) (.inl rfl)))
    have hst := started_modify_started w.servers s s (.inl ⟨hs, rfl⟩)
    split
    · refine (h₁.handleLaunch hd s).launchEnd previous (.inl ⟨s, rfl, ?_⟩)
      rw [servers_handleLaunch]
      exact hst
    · exact h₁.launchEnd previous (.inl ⟨s, rfl, hst⟩)
  · rw [Act.run_launchStarted_of_error w previous s he]
    split
    · have h₁ : ({ w with script := { w.script with startError := .null } } : World).Running w₀ t p :=
        h.of_queue rfl rfl (.of_fields rfl rfl rfl rfl rfl rfl rfl rfl) (.inl rfl)
      exact h₁.launchAbort hd previous s _
    · exact h.launchAbort hd previous s _

omit hd in
/-- Making the server of a launch, at its first point, keeps the busy task busy: the new server
is the one made current. -/
theorem Running.launchMade (h : w.Running w₀ t .launch) (v : Value) (md : Metadata) :
    (Act.launchMade w v md).Running w₀ t .launch := by
  have h₁ : (Act.launchChecked w (some v)).Running w₀ t .launch :=
    h.of_queue rfl rfl (.of_fields rfl rfl rfl rfl rfl rfl rfl rfl) (.inl rfl)
  have hT₂ : ({ Act.launchChecked w (some v) with
      servers := w.servers.push { launchMetadata := md } } : World).Typed (some t) :=
    h₁.toTyped.setServers _ (by simp [Act.launchChecked]) fun s' hs' => started_push _ _ _ hs'
  exact .of (hT₂.of_queue rfl (.of_fields rfl rfl rfl rfl rfl rfl rfl rfl))
    (h₁.toBusy.of_queue rfl rfl (.of_queue rfl (fun _ h => h) (fun _ h => h)
      (by simp [Act.launchMade]) (fun s' hs' => started_push _ _ _ hs')
      (.inr (.inr ⟨rfl, _, rfl, Nat.le_refl _⟩))))

omit hd in
/-- A launch: a failed check ends it with the fault; otherwise it makes its server and starts it,
after waiting for a new cell of its own that a closed start gate holds, if one is queued. -/
theorem Running.launchBegin (h : w.Running w₀ t .launch) :
    Stepped w₀ t .launch (StateT.run Act.launchBegin w) := by
  rcases Act.run_launchBegin_cases (w := w) with ⟨v, f, -, hrun⟩ | ⟨st, md, -, -, hrun⟩
  · rw [hrun]
    have hchecked : (Act.launchChecked w v).Running w₀ t .launch :=
      h.of_queue rfl rfl (.of_fields rfl rfl rfl rfl rfl rfl rfl rfl) (.inl rfl)
    exact hchecked.launchEnd _ (.inr ⟨f, rfl⟩)
  · rw [hrun, Act.run_bind']
    obtain ⟨h₂, hown⟩ := (h.launchMade st.version md).claimStartGate
    -- the new server is the last one, after the gate as before it
    have hsrv : (StateT.run Act.claimStartGate (Act.launchMade w st.version md)).2.servers.size =
        w.servers.size + 1 := by
      rw [servers_claimStartGate]
      simp [Act.launchMade, Act.launchChecked]
    cases hc : (StateT.run Act.claimStartGate (Act.launchMade w st.version md)).1 with
    | some c =>
      refine ⟨h₂, Settles.of_own (hown c hc) rfl trivial rfl fun _ s hn => ?_⟩
      cases hn
      show _ < (StateT.run Act.claimStartGate (Act.launchMade w st.version md)).2.servers.size
      rw [hsrv]
      exact Nat.lt_succ_self _
    | none => exact h₂.launchStarted rfl _ (by rw [hsrv]; exact Nat.lt_succ_self _)

end Launch

/-! ## The heartbeat and the notices -/

/-- A heartbeat sends its request and falls asleep on a new cell of its own. -/
theorem Running.heartbeatBegin (h : w.Running w₀ t p) {s : Nat} (md : Metadata)
    (hd : p.duty = .heartbeat s) : Stepped w₀ t p (StateT.run (Act.heartbeatBegin s md) w) := by
  rw [Act.run_heartbeatBegin]
  have h₁ := h.exec_receive s (.heartbeat md) hd
  exact ⟨h₁.newCell, Settles.of_own (h₁.newCell_own .sleep) rfl trivial (by rw [hd]; rfl)
    fun _ _ hn => by cases hn⟩

theorem Running.cancelNotice (h : w.Running w₀ t p) (rid : Nat) :
    (w.exec (Act.cancelNotice rid)).Running w₀ t p := by
  by_cases hr : ∃ s, w.life.server = some s ∧ w.life.phase = .running
  · obtain ⟨s, hs, hp⟩ := hr
    rw [World.exec, Act.run_cancelNotice_of_running w rid hs hp]
    refine Running.exec_receive ?_ _ _ trivial
    exact h.of_queue rfl rfl (.of_fields rfl rfl rfl rfl rfl rfl rfl rfl) (.inl rfl)
  · rw [World.exec, Act.run_cancelNotice_of_not_running w rid fun s hs hp => hr ⟨s, hs, hp⟩]
    exact h

theorem Running.acceptWith (h : w.Running w₀ t p) (hd : p.duty = .accept) (id : Value) (s : Nat) :
    Stepped w₀ t p (StateT.run (Act.acceptWith id s) w) := by
  rw [Act.run_acceptWith]
  refine ⟨?_, .done (by rw [hd]; nofun) _⟩
  split
  · exact h
  · exact h.exec_receive _ _ hd

/-- A change of the open documents keeps the busy task busy. -/
theorem Running.applyNotice (h : w.Running w₀ t p) (n : Notice) :
    (StateT.run (Act.applyNotice n) w).2.Running w₀ t p := by
  have hpool : ∀ pool, ({ w with pool } : World).Running w₀ t p := fun _ =>
    h.of_queue rfl rfl (.of_fields rfl rfl rfl rfl rfl rfl rfl rfl) (.inl rfl)
  cases n with
  | opened file content | changed file content =>
    dsimp only [Act.applyNotice, Act.run_bind', Act.run_get']
    split
    · exact h
    · exact hpool _
  | closed file =>
    dsimp only [Act.applyNotice, Act.run_bind', Act.run_get']
    split
    · exact h
    · exact hpool _
  | dropRequest => exact h.cancelNotice _

/-! ## Callers of a server -/

/-- A caller of a server that goes on with the server at hand, or waits at `next` in the role
of a shield for the cell it gets, steps. -/
theorem Running.ensured (h : w.Running w₀ t p) (next : Point) (hr : next.role = some .shield)
    (hd : next.duty = p.duty) (hask : p.duty.AsksServer) (k : Ensured → Act Progress)
    (hready : ∀ s, Stepped w₀ t p (StateT.run (k (.ready s)) w))
    (hwait : ∀ c W, StateT.run (k (.waitOn c)) W = (.wait c next, W)) :
    Stepped w₀ t p (StateT.run (Act.ensureStarted >>= k) w) := by
  rw [Act.run_bind']
  obtain ⟨h₁, ⟨s, hv, hw⟩ | ⟨c, hv, hown⟩⟩ := h.ensureStarted hask
  · rw [hv, hw]
    exact hready s
  · rw [hv, hwait]
    refine ⟨h₁, Settles.of_own hown hr trivial hd fun _ _ hn => ?_⟩
    subst hn
    cases hr

/-! ## Completion -/

section Job

variable {j : Nat} (hd : p.duty = .job j)
include hd

theorem job_ne_launch : p.duty ≠ .launch := by rw [hd]; nofun

/-- Reading a job's reply ends the job. -/
theorem Running.jobReply (h : w.Running w₀ t p) : Stepped w₀ t p (StateT.run (Act.jobReply j) w) := by
  rw [Act.run_jobReply]
  exact ⟨h, .done (job_ne_launch hd) _⟩

/-- A job with a server at hand sends its request and waits, if a closed reply gate is queued,
for a new cell of its own that the gate holds; otherwise it reads the reply. -/
theorem Running.jobWith (h : w.Running w₀ t p) (s : Nat) :
    Stepped w₀ t p (StateT.run (Act.jobWith j s) w) := by
  rw [Act.jobWith, Act.run_bind', Act.run_isSuperseded]
  dsimp only
  split
  · exact ⟨h, .done (job_ne_launch hd) _⟩
  · rw [Act.run_bind', Act.run_get']
    dsimp only
    rw [Act.run_bind']
    have h₁ := h.exec_receive s (.completions (w.jobs.getD j default).request) trivial
    split
    · exact ⟨h₁, .done (job_ne_launch hd) _⟩
    · rw [Act.run_bind']
      obtain ⟨h₂, hown⟩ := h₁.claimReplyGate
      split
      · rename_i c hc
        exact ⟨h₂, Settles.of_own (hown c hc) rfl trivial (by rw [hd]; rfl) fun _ _ hn => by cases hn⟩
      · exact h₂.jobReply hd

/-- A job not superseded asks for a server and goes on with it, or waits for it. -/
theorem Running.jobBegin (h : w.Running w₀ t p) : Stepped w₀ t p (StateT.run (Act.jobBegin j) w) := by
  rw [Act.jobBegin, Act.run_bind', Act.run_isSuperseded]
  dsimp only
  split
  · exact ⟨h, .done (job_ne_launch hd) _⟩
  · exact h.ensured (.jobAwaitingServer j) rfl (by rw [hd]; rfl) (by rw [hd]; trivial) _
      (fun s => h.jobWith hd s) fun _ _ => rfl

end Job

/-- A new job, run by a new task, keeps the busy task busy. -/
theorem Running.spawnJob (h : w.Running w₀ t p) (job : Job) (hjob : job.task = w.queue.cells.size) :
    ({ w with queue := (w.queue.spawn (.job w.jobs.size)).1, jobs := w.jobs.push job,
              ongoing := w.ongoing ++ [w.jobs.size] } : World).Running w₀ t p :=
  .of (h.toTyped.spawnJob job hjob)
    ((h.toBusy.spawn (.job _) trivial).of_queue rfl rfl (.of_state rfl rfl rfl rfl (.inl rfl)))

section Complete

variable (hd : p.duty = .complete)
include hd

theorem complete_ne_launch : p.duty ≠ .launch := by rw [hd]; nofun

theorem Running.completeStart (h : w.Running w₀ t p) : (Act.completeStart w).Running w₀ t p := by
  have h₁ : (w.exec Act.supersedeAll).Running w₀ t p := h.supersedeAll fun j => by rw [hd]; nofun
  have h₂ : ((w.exec Act.supersedeAll).exec (Act.spawnBackground
      (.cancelNotice (w.exec Act.supersedeAll).life.counters.requests))).Running w₀ t p :=
    h₁.spawnBackground rfl (.inr rfl)
  exact h₂.of_queue rfl rfl (.of_fields rfl rfl rfl rfl rfl rfl rfl rfl) (.inl rfl)

/-- A completion call runs a new job for its request and waits for the job's task. -/
theorem Running.completeBegin (h : w.Running w₀ t p) (call : CompletionCall) :
    Stepped w₀ t p (StateT.run (Act.completeBegin call) w) := by
  rw [Act.run_completeBegin]
  dsimp only
  have h₃ := h.completeStart hd
  generalize Act.completeStart w = w₃ at h₃ ⊢
  split
  · exact ⟨h₃, .done (complete_ne_launch hd) _⟩
  · rename_i request _
    have h₄ := h₃.spawnJob ⟨w₃.life.counters.requests, request, call.cursor, w₃.queue.cells.size, false⟩
      rfl
    refine ⟨h₄, Settles.of_task h₄.toTyped rfl (fun h => h) ⟨by simp, ?_⟩ (by simp)
      (fun he => ?_) (fun hp => ?_) (by rw [hd]; rfl) (fun _ _ hn => by cases hn)⟩
    · simp [Array.getD_eq_getD_getElem?]
    · have := lt_size_of_point h₃.point
      rw [← he] at this
      exact Nat.lt_irrefl _ this
    · simp [Plain, RunQueue.cell_spawn] at hp

/-- A completion call whose job ended: the call is no longer in flight. -/
theorem Running.completeEnd (h : w.Running w₀ t p) (j : Nat) (o : Outcome) :
    Stepped w₀ t p (StateT.run (Act.completeEnd j o) w) := by
  rw [Act.run_completeEnd]
  exact ⟨.of (h.toTyped.setOngoing _ fun _ hi => List.mem_of_mem_erase hi)
    (h.toBusy.of_queue rfl rfl (.of_state rfl rfl rfl rfl (.inl rfl))),
    .done (complete_ne_launch hd) _⟩

end Complete

/-! ## Every program point -/

/-- A busy task's step from its point, woken with an input that fits the role it waited in,
steps: its activity keeps it busy and ends in a progress that settles. -/
theorem Running.run (h : w.Running w₀ t p) (input : Outcome)
    (hin : ∀ r, p.role = some r → w.RoleResult r input) :
    Stepped w₀ t p (StateT.run (Act.run p input) w) := by
  cases p with
  | complete call => exact h.completeBegin rfl call
  | completeAwaitingJob j => exact h.completeEnd rfl j input
  | job j => exact h.jobBegin rfl
  | jobAwaitingServer j =>
    rcases input with (_ | s | _) | f | _
    case value.server => exact h.jobWith rfl s
    all_goals exact ⟨h, .done (by nofun) _⟩
  | jobAwaitingReply j =>
    rcases input with r | f | _
    case value => exact h.jobReply rfl
    all_goals exact ⟨h, .done (by nofun) _⟩
  | launch => exact h.launchBegin
  | launchAwaitingStart previous s =>
    -- a start gate lets its waiter through with an empty result, for a server that exists
    have hs := h.start_server t previous s h.point
    rcases input with r | f | _
    · exact h.launchStarted rfl previous hs
    · exact h.launchAbort rfl previous s f
    · exact absurd (hin _ rfl) nofun
  | heartbeat s md => exact h.heartbeatBegin md rfl
  | heartbeatAsleep s md =>
    rcases input with r | f | _
    case value => exact h.heartbeatBegin md rfl
    all_goals exact ⟨h, .done (by nofun) _⟩
  | cancelNotice rid =>
    show Stepped w₀ t _ (StateT.run (Act.cancelNotice rid *> pure (.done (.value .unit))) w)
    rw [Act.run_seqRight']
    exact ⟨h.cancelNotice rid, .done (by nofun) _⟩
  | warmUp =>
    exact h.ensured .warmUpAwaitingServer rfl rfl trivial _ (fun _ => ⟨h, .done (by nofun) _⟩) fun _ _ => rfl
  | warmUpAwaitingServer => rcases input with r | f | _ <;> exact ⟨h, .done (by nofun) _⟩
  | accept id =>
    exact h.ensured (.acceptAwaitingServer id) rfl rfl trivial _ (fun s => h.acceptWith rfl id s) fun _ _ => rfl
  | acceptAwaitingServer id =>
    rcases input with (_ | s | _) | f | _
    case value.server => exact h.acceptWith rfl id s
    all_goals exact ⟨h, .done (by nofun) _⟩
  | ensure =>
    exact h.ensured .ensureAwaitingServer rfl rfl trivial _ (fun _ => ⟨h, .done (by nofun) _⟩) fun _ _ => rfl
  | ensureAwaitingServer => exact ⟨h, .done (by nofun) _⟩
  | stop closing => exact h.stopBegin rfl
  | stopAwaitingLaunch closing =>
    rcases input with r | f | _
    case cancelled => exact ⟨h, .done (by nofun) _⟩
    all_goals exact h.stopAfterLaunch rfl
  | stopAwaitingHeartbeat closing s =>
    rcases input with r | f | _
    case failed => exact ⟨h, .done (by nofun) _⟩
    all_goals exact h.stopTerminate rfl s
  | stopAwaitingDrain => rcases input with r | f | _ <;> exact ⟨h, .done (by nofun) _⟩
  | notice n => exact ⟨h.applyNotice n, .done (by nofun) _⟩

end World

end CompletionClient.Service
