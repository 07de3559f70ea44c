import CompletionClient.Proofs.Service.Lifecycle
import CompletionClient.Proofs.Service.RequestContext
/-!
# What the routine work of a step keeps

The *ledger* of a world (`World.ledger`) is what the service keeps of its
launches and of its completion calls: the version of the language server it
holds and the launch metadata of every server made so far, and its *books*
(`World.books`), the record of every completion job, the jobs in flight and
what installation checks find.

Most of what a step does leaves the ledger alone: waking and cancelling
tasks, sending requests, taking and opening gates, starting, reporting and
clearing servers.  Four kinds of step do more (`Point.Routine`): the first
step of a launch records the version its check found and makes a server,
which keeps the books (`Act.books_launchBegin`); and a completion call's
first and last steps and the first step of a closing stop change the jobs.
Every other step keeps the ledger (`Act.ledger_run`).  The lemmas go action
by action, through the equations of `Effects`, in the order the activities
use them; the last ones say what superseding does to the job records.
-/

namespace CompletionClient.Service

namespace World

/-- The record of every completion job, the jobs in flight, and what installation checks find. -/
def books (w : World) : Array Job × List Nat × Except Fault InstallStatus :=
  (w.jobs, w.ongoing, w.installation)

/-- The version the service holds, the launch metadata of every server in order, and the books. -/
def ledger (w : World) :
    (Value × Array Metadata) × Array Job × List Nat × Except Fault InstallStatus :=
  ((w.life.serverVersion, w.servers.map (·.launchMetadata)), w.books)

variable {w : World}

theorem books_of_ledger {w' : World} (h : w'.ledger = w.ledger) : w'.books = w.books :=
  congrArg Prod.snd h

/-- Changing servers without touching their launch metadata keeps the ledger. -/
theorem ledger_modify_servers (s : Nat) {f : Endpoint → Endpoint}
    (hf : ∀ e, (f e).launchMetadata = e.launchMetadata) :
    ({ w with servers := w.servers.modify s f } : World).ledger = w.ledger := by
  simp only [ledger, books, Prod.mk.injEq, true_and, and_true]
  apply Array.ext
  · simp
  · intro i _ _
    simp only [Array.getElem_map, Array.getElem_modify]
    split <;> simp [hf]

/-- A fold of changes that each keep the ledger keeps it. -/
theorem ledger_foldl {β : Type} (l : List β) (f : World → β → World)
    (hf : ∀ w x, (f w x).ledger = w.ledger) : (l.foldl f w).ledger = w.ledger := by
  induction l generalizing w with
  | nil => rfl
  | cons x l ih => rw [List.foldl_cons, ih, hf]

/-- Marking the jobs of a list superseded, one after another, marks each job of the list that
exists and keeps every other record. -/
theorem getD_foldl_marked (l : List Nat) (js : Array Job) (j : Nat) :
    (l.foldl (fun js k => js.modify k fun job => { job with superseded := true }) js).getD j default =
      if j ∈ l ∧ j < js.size then { js.getD j default with superseded := true }
      else js.getD j default := by
  induction l generalizing js with
  | nil => simp
  | cons k l ih =>
    rw [List.foldl_cons, ih, Array.size_modify]
    simp only [Array.getD_eq_getD_getElem?, Array.getElem?_modify, List.mem_cons]
    by_cases hkj : k = j
    · subst hkj
      by_cases hk : k < js.size
      · simp [hk]
      · simp [hk]
    · simp only [hkj, if_false]
      by_cases hj : j ∈ l ∧ j < js.size
      · simp [hj]
      · have : ¬ ((j = k ∨ j ∈ l) ∧ j < js.size) := fun h => hj ⟨h.1.resolve_left (Ne.symm hkj), h.2⟩
        simp only [hj, this, if_false]

theorem size_foldl_marked (l : List Nat) (js : Array Job) :
    (l.foldl (fun js k => js.modify k fun job => { job with superseded := true }) js).size = js.size := by
  induction l generalizing js with
  | nil => rfl
  | cons k l ih => rw [List.foldl_cons, ih, Array.size_modify]

end World

/-- The points whose step does more than routine work: the first step of a launch, the first and
last steps of a completion call, and the first step of a closing stop. -/
def Point.Routine : Point → Prop
  | .launch | .complete _ | .completeAwaitingJob _ | .stop true => False
  | _ => True

namespace Act

open World

variable {w : World}

theorem ledger_clearServer (s : Nat) : (w.exec (clearServer s)).ledger = w.ledger := by
  by_cases hs : w.life.server = some s
  · rw [World.exec, run_clearServer_of_current w hs]; rfl
  · rw [World.exec, run_clearServer_of_ne w hs]

theorem ledger_handleLaunch (s : Nat) : (w.exec (handleLaunch s)).ledger = w.ledger := by
  by_cases hs : w.life.server = some s
  · rw [World.exec, run_handleLaunch_of_current w hs]; rfl
  · rw [World.exec, run_handleLaunch_of_ne w hs]

theorem ledger_receive (s : Nat) (r : Request) : (w.exec (receive s r)).ledger = w.ledger := by
  rw [exec_receive]
  split <;> rfl

theorem ledger_claimReplyGate : (StateT.run claimReplyGate w).2.ledger = w.ledger := by
  cases hu : w.replyGates.untaken with
  | nil => rw [run_claimReplyGate_of_nil w hu]
  | cons g rest =>
    cases ho : (w.replyGates.gates.getD g {}).isOpen
    · rw [run_claimReplyGate_of_closed w hu ho]; rfl
    · rw [run_claimReplyGate_of_open w hu ho]; rfl

theorem ledger_claimStartGate : (StateT.run claimStartGate w).2.ledger = w.ledger := by
  cases hu : w.startGates.untaken with
  | nil => rw [run_claimStartGate_of_nil w hu]
  | cons g rest =>
    cases ho : (w.startGates.gates.getD g {}).isOpen
    · rw [run_claimStartGate_of_closed w hu ho]; rfl
    · rw [run_claimStartGate_of_open w hu ho]; rfl

theorem ledger_ensureStarted : (StateT.run ensureStarted w).2.ledger = w.ledger := by
  by_cases hp : ∃ l, w.life.launch = some l ∧ w.queue.isDone l = false
  · obtain ⟨l, hl, hd⟩ := hp
    rw [run_ensureStarted_of_pending w hl hd]
    rfl
  · have hdone := launch_done_of_not_pending hp
    cases hs : w.life.server with
    | some s => rw [run_ensureStarted_of_ready w hdone hs]
    | none => rw [run_ensureStarted_of_absent w hdone hs]; rfl

theorem ledger_launchEnd (previous : Phase) (o : Outcome) :
    (StateT.run (launchEnd previous o) w).2.ledger = w.ledger := by
  cases o with
  | value r => rw [run_launchEnd_value]; rfl
  | failed f => rw [run_launchEnd_of_not_value _ _ fun _ h => by cases h]; rfl
  | cancelled => rw [run_launchEnd_of_not_value _ _ fun _ h => by cases h]; rfl

theorem ledger_launchAbort (previous : Phase) (s : Nat) (o : Outcome) :
    (StateT.run (launchAbort previous s o) w).2.ledger = w.ledger := by
  rw [run_launchAbort, ledger_launchEnd]
  exact ledger_clearServer s

theorem ledger_launchStarted (previous : Phase) (s : Nat) :
    (StateT.run (launchStarted previous s) w).2.ledger = w.ledger := by
  by_cases he : w.script.startError = .null
  · rw [run_launchStarted_of_null w previous s he]
    dsimp only
    rw [ledger_launchEnd]
    have h₁ := ledger_modify_servers (w := w) s (f := fun e => { e with started := true }) fun _ => rfl
    split
    · rw [ledger_handleLaunch, h₁]
    · exact h₁
  · rw [run_launchStarted_of_error w previous s he, ledger_launchAbort]
    split <;> rfl

/-- The first step of a launch keeps the books: it records a version and makes a server only. -/
theorem books_launchBegin : (StateT.run launchBegin w).2.books = w.books := by
  rcases run_launchBegin_cases (w := w) with ⟨v, f, -, hrun⟩ | ⟨st, md, -, -, hrun⟩
  · rw [hrun, books_of_ledger (ledger_launchEnd _ _)]
    rfl
  · rw [hrun, run_bind']
    have h₁ : (StateT.run claimStartGate (launchMade w st.version md)).2.books = w.books :=
      (books_of_ledger ledger_claimStartGate).trans rfl
    split
    · exact h₁
    · rw [books_of_ledger (ledger_launchStarted _ _)]
      exact h₁

theorem ledger_heartbeatBegin (s : Nat) (md : Metadata) :
    (StateT.run (heartbeatBegin s md) w).2.ledger = w.ledger := by
  rw [run_heartbeatBegin]
  exact ledger_receive s _

theorem ledger_cancelNotice (rid : Nat) : (w.exec (cancelNotice rid)).ledger = w.ledger := by
  by_cases hr : ∃ s, w.life.server = some s ∧ w.life.phase = .running
  · obtain ⟨s, hs, hp⟩ := hr
    rw [World.exec, run_cancelNotice_of_running w rid hs hp]
    exact ledger_receive s _
  · rw [World.exec, run_cancelNotice_of_not_running w rid fun s hs hp => hr ⟨s, hs, hp⟩]

theorem ledger_acceptWith (id : Value) (s : Nat) :
    (StateT.run (acceptWith id s) w).2.ledger = w.ledger := by
  rw [run_acceptWith]
  split
  · rfl
  · exact ledger_receive s _

theorem ledger_applyNotice (n : Notice) : (StateT.run (applyNotice n) w).2.ledger = w.ledger := by
  cases n with
  | opened file content | changed file content =>
    dsimp only [applyNotice, run_bind', run_get']
    split <;> rfl
  | closed file =>
    dsimp only [applyNotice, run_bind', run_get']
    split <;> rfl
  | dropRequest => exact ledger_cancelNotice _

theorem ledger_jobWith (j s : Nat) : (StateT.run (jobWith j s) w).2.ledger = w.ledger := by
  rw [jobWith, run_bind', run_isSuperseded]
  dsimp only
  split
  · rfl
  · rw [run_bind', run_get']
    dsimp only
    rw [run_bind']
    have h₁ := ledger_receive (w := w) s (.completions (w.jobs.getD j default).request)
    split
    · exact h₁
    · rw [run_bind']
      have h₂ := ledger_claimReplyGate.trans h₁
      split
      · exact h₂
      · rw [run_jobReply]
        exact h₂

theorem ledger_jobBegin (j : Nat) : (StateT.run (jobBegin j) w).2.ledger = w.ledger := by
  rw [jobBegin, run_bind', run_isSuperseded]
  dsimp only
  split
  · rfl
  · rw [run_bind']
    have h₁ := ledger_ensureStarted (w := w)
    split
    · exact (ledger_jobWith _ _).trans h₁
    · exact h₁

theorem ledger_stopDrain (closing : Bool) :
    (StateT.run (stopDrain closing) w).2.ledger = w.ledger := by
  cases closing with
  | false => rw [run_stopDrain_false]
  | true =>
    have h₁ : (w.background.foldl (fun w x => w.exec (cancel x)) w).ledger = w.ledger :=
      ledger_foldl _ _ fun _ _ => rfl
    rw [run_stopDrain_true]
    dsimp only
    split
    · exact h₁
    · exact (ledger_foldl w.background (fun w x => w.exec (listen x (.tally _))) fun _ _ => rfl).trans h₁

theorem ledger_stopTerminate (closing : Bool) (s : Nat) :
    (StateT.run (stopTerminate closing s) w).2.ledger = w.ledger := by
  rw [run_stopTerminate, ledger_stopDrain, ledger_clearServer]
  exact ledger_modify_servers s fun _ => rfl

theorem ledger_stopAfterLaunch (closing : Bool) :
    (StateT.run (stopAfterLaunch closing) w).2.ledger = w.ledger := by
  cases hs : w.life.server with
  | none => rw [run_stopAfterLaunch_of_none w closing hs, ledger_stopDrain]
  | some s =>
    cases hh : w.life.heartbeat with
    | none => rw [run_stopAfterLaunch_of_no_beat w closing hs hh, ledger_stopTerminate, ledger_clearServer]
    | some h =>
      rw [run_stopAfterLaunch_of_beat w closing hs hh]
      split
      · rw [ledger_stopTerminate, ledger_clearServer]
      · exact ledger_clearServer s

/-- A stop keeps the ledger of the world it starts from, where a closing one has superseded the
jobs in flight. -/
theorem ledger_stopBegin (closing : Bool) :
    (StateT.run (stopBegin closing) w).2.ledger = (stopStart w closing).ledger := by
  cases hl : w.life.launch with
  | some l => rw [run_stopBegin_of_launch w closing hl]; rfl
  | none => rw [run_stopBegin_of_none w closing hl, ledger_stopAfterLaunch]

/-- Every routine step of a task keeps the ledger. -/
theorem ledger_run {p : Point} (hp : p.Routine) (input : Outcome) :
    (StateT.run (run p input) w).2.ledger = w.ledger := by
  cases p with
  | complete call => exact hp.elim
  | completeAwaitingJob j => exact hp.elim
  | job j => exact ledger_jobBegin j
  | jobAwaitingServer j =>
    rcases input with (_ | s | _) | f | _
    case value.server => exact ledger_jobWith j s
    all_goals rfl
  | jobAwaitingReply j =>
    cases input
    case value r => show (StateT.run (jobReply j) w).2.ledger = _; rw [run_jobReply]
    all_goals rfl
  | launch => exact hp.elim
  | launchAwaitingStart previous s =>
    cases input
    case value r => exact ledger_launchStarted previous s
    all_goals exact ledger_launchAbort previous s _
  | heartbeat s md => exact ledger_heartbeatBegin s md
  | heartbeatAsleep s md =>
    cases input
    case value r => exact ledger_heartbeatBegin s md
    all_goals rfl
  | cancelNotice rid => exact ledger_cancelNotice rid
  | warmUp =>
    show (StateT.run (ensureStarted >>= _) w).2.ledger = _
    rw [run_bind']
    split <;> exact ledger_ensureStarted
  | warmUpAwaitingServer => cases input <;> rfl
  | accept id =>
    show (StateT.run (ensureStarted >>= _) w).2.ledger = _
    rw [run_bind']
    split
    · exact (ledger_acceptWith _ _).trans ledger_ensureStarted
    · exact ledger_ensureStarted
  | acceptAwaitingServer id =>
    rcases input with (_ | s | _) | f | _
    case value.server => exact ledger_acceptWith id s
    all_goals rfl
  | ensure =>
    show (StateT.run (ensureStarted >>= _) w).2.ledger = _
    rw [run_bind']
    split <;> exact ledger_ensureStarted
  | ensureAwaitingServer => rfl
  | stop closing =>
    cases closing with
    | false => exact ledger_stopBegin false
    | true => exact hp.elim
  | stopAwaitingLaunch closing =>
    cases input
    case cancelled => rfl
    all_goals exact ledger_stopAfterLaunch closing
  | stopAwaitingHeartbeat closing s =>
    cases input
    case failed f => rfl
    all_goals exact ledger_stopTerminate closing s
  | stopAwaitingDrain => cases input <;> rfl
  | notice n =>
    show (StateT.run (applyNotice n >>= _) w).2.ledger = _
    rw [run_bind']
    exact ledger_applyNotice n

/-- Superseding marks the jobs in flight, one after another. -/
theorem jobs_supersedeAll : (w.exec supersedeAll).jobs =
    w.ongoing.foldl (fun js j => js.modify j fun job => { job with superseded := true }) w.jobs := by
  simp only [World.exec, run_supersedeAll]
  have hfold : ∀ (l : List Nat) (w' : World), (l.foldl (fun w' j =>
      { w' with jobs := w'.jobs.modify j fun job => { job with superseded := true },
                queue := w'.queue.cancelTask (w.jobs.getD j default).task }) w').jobs =
      l.foldl (fun js j => js.modify j fun job => { job with superseded := true }) w'.jobs := by
    intro l
    induction l with
    | nil => intro _; rfl
    | cons j l ih => intro w'; exact ih _
  exact hfold _ _

theorem ledger_advance (t : CellId) (pr : Progress) : (w.exec (advance t pr)).ledger = w.ledger := by
  cases pr <;> rfl

end Act

end CompletionClient.Service
