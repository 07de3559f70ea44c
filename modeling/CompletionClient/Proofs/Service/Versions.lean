import CompletionClient.Proofs.Service.Lifecycle
import CompletionClient.Proofs.Service.RequestContext
/-!
# What the service's actions keep of the versions

The *versions* of a world (`World.versions`) are the version of the
language server that the service holds, as the last installation check
reported it, and the launch metadata of every server made so far.  Only the
first step of a launch changes them: it records the version its check found
and makes a server whose launch metadata it builds with that version.  Every
other step of a task keeps them (`Act.versions_run`), since what it does to
servers is to mark them started or terminated.

The lemmas here go action by action, through the equations of `Effects`,
in the order the activities use them.  The last ones say which version a
completion request carries: the one the service holds where the call builds
it (`Act.completeBegin_extensionVersion`).
-/

namespace CompletionClient.Service

namespace World

/-- The version the service holds, and the launch metadata of every server in order. -/
def versions (w : World) : Value × Array Metadata :=
  (w.life.serverVersion, w.servers.map (·.launchMetadata))

variable {w w' : World}

theorem launchMetadata_getD (S : Array Endpoint) (s : Nat) :
    (S.getD s default).launchMetadata =
      ((S.map (·.launchMetadata))[s]?).getD (default : Endpoint).launchMetadata := by
  rw [Array.getD_eq_getD_getElem?, Array.getElem?_map]
  cases S[s]? <;> rfl

/-- Worlds with the same versions hold the same version and as many servers, each with the same
launch metadata. -/
theorem versions_eq (h : w'.versions = w.versions) :
    w'.life.serverVersion = w.life.serverVersion ∧ w'.servers.size = w.servers.size ∧
      ∀ s, (w'.servers.getD s default).launchMetadata = (w.servers.getD s default).launchMetadata := by
  simp only [versions, Prod.mk.injEq] at h
  refine ⟨h.1, by simpa using congrArg Array.size h.2, fun s => ?_⟩
  rw [launchMetadata_getD, launchMetadata_getD, h.2]

/-- Changing servers without touching their launch metadata keeps the versions. -/
theorem versions_modify_servers (s : Nat) {f : Endpoint → Endpoint}
    (hf : ∀ e, (f e).launchMetadata = e.launchMetadata) :
    ({ w with servers := w.servers.modify s f } : World).versions = w.versions := by
  simp only [versions, Prod.mk.injEq, true_and]
  apply Array.ext
  · simp
  · intro i _ _
    simp only [Array.getElem_map, Array.getElem_modify]
    split <;> simp [hf]

/-- A fold of changes that each keep the versions keeps them. -/
theorem versions_foldl {β : Type} (l : List β) (f : World → β → World)
    (hf : ∀ w x, (f w x).versions = w.versions) : (l.foldl f w).versions = w.versions := by
  induction l generalizing w with
  | nil => rfl
  | cons x l ih => rw [List.foldl_cons, ih, hf]

end World

namespace Act

open World

variable {w : World}

theorem versions_clearServer (s : Nat) : (w.exec (clearServer s)).versions = w.versions := by
  by_cases hs : w.life.server = some s
  · rw [World.exec, run_clearServer_of_current w hs]; rfl
  · rw [World.exec, run_clearServer_of_ne w hs]

theorem versions_handleLaunch (s : Nat) : (w.exec (handleLaunch s)).versions = w.versions := by
  by_cases hs : w.life.server = some s
  · rw [World.exec, run_handleLaunch_of_current w hs]; rfl
  · rw [World.exec, run_handleLaunch_of_ne w hs]

theorem versions_receive (s : Nat) (r : Request) : (w.exec (receive s r)).versions = w.versions := by
  rw [exec_receive]
  split <;> rfl

theorem versions_claimReplyGate : (StateT.run claimReplyGate w).2.versions = w.versions := by
  cases hu : w.replyGates.untaken with
  | nil => rw [run_claimReplyGate_of_nil w hu]
  | cons g rest =>
    cases ho : (w.replyGates.gates.getD g {}).isOpen
    · rw [run_claimReplyGate_of_closed w hu ho]; rfl
    · rw [run_claimReplyGate_of_open w hu ho]; rfl

theorem versions_ensureStarted : (StateT.run ensureStarted w).2.versions = w.versions := by
  by_cases hp : ∃ l, w.life.launch = some l ∧ w.queue.isDone l = false
  · obtain ⟨l, hl, hd⟩ := hp
    rw [run_ensureStarted_of_pending w hl hd]
    rfl
  · have hdone : ∀ l, w.life.launch = some l → w.queue.isDone l = true := fun l hl => by
      simpa using fun hd => hp ⟨l, hl, hd⟩
    cases hs : w.life.server with
    | some s => rw [run_ensureStarted_of_ready w hdone hs]
    | none => rw [run_ensureStarted_of_absent w hdone hs]; rfl

theorem versions_launchEnd (previous : Phase) (o : Outcome) :
    (StateT.run (launchEnd previous o) w).2.versions = w.versions := by
  cases o with
  | value r => rw [run_launchEnd_value]; rfl
  | failed f => rw [run_launchEnd_of_not_value _ _ fun _ h => by cases h]; rfl
  | cancelled => rw [run_launchEnd_of_not_value _ _ fun _ h => by cases h]; rfl

theorem versions_launchAbort (previous : Phase) (s : Nat) (o : Outcome) :
    (StateT.run (launchAbort previous s o) w).2.versions = w.versions := by
  rw [run_launchAbort, versions_launchEnd]
  exact versions_clearServer s

theorem versions_launchStarted (previous : Phase) (s : Nat) :
    (StateT.run (launchStarted previous s) w).2.versions = w.versions := by
  by_cases he : w.script.startError = .null
  · rw [run_launchStarted_of_null w previous s he]
    dsimp only
    rw [versions_launchEnd]
    have h₁ := versions_modify_servers (w := w) s (f := fun e => { e with started := true }) fun _ => rfl
    split
    · rw [versions_handleLaunch, h₁]
    · exact h₁
  · rw [run_launchStarted_of_error w previous s he, versions_launchAbort]
    split <;> rfl

theorem versions_heartbeatBegin (s : Nat) (md : Metadata) :
    (StateT.run (heartbeatBegin s md) w).2.versions = w.versions := by
  rw [run_heartbeatBegin]
  exact versions_receive s _

theorem versions_cancelNotice (rid : Nat) : (w.exec (cancelNotice rid)).versions = w.versions := by
  by_cases hr : ∃ s, w.life.server = some s ∧ w.life.phase = .running
  · obtain ⟨s, hs, hp⟩ := hr
    rw [World.exec, run_cancelNotice_of_running w rid hs hp]
    exact versions_receive s _
  · rw [World.exec, run_cancelNotice_of_not_running w rid fun s hs hp => hr ⟨s, hs, hp⟩]

theorem versions_acceptWith (id : Value) (s : Nat) :
    (StateT.run (acceptWith id s) w).2.versions = w.versions := by
  rw [run_acceptWith]
  split
  · rfl
  · exact versions_receive s _

theorem versions_applyNotice (n : Notice) : (StateT.run (applyNotice n) w).2.versions = w.versions := by
  cases n with
  | opened file content | changed file content =>
    dsimp only [applyNotice, run_bind', run_get']
    split <;> rfl
  | closed file =>
    dsimp only [applyNotice, run_bind', run_get']
    split <;> rfl
  | dropRequest => exact versions_cancelNotice _

theorem versions_supersedeAll : (w.exec supersedeAll).versions = w.versions := by
  obtain ⟨jobs, queue, -, h⟩ := exec_supersedeAll_eq w
  rw [h]
  rfl

theorem versions_completeStart : (completeStart w).versions = w.versions := by
  unfold completeStart
  exact versions_supersedeAll

theorem versions_completeBegin (call : CompletionCall) :
    (StateT.run (completeBegin call) w).2.versions = w.versions := by
  rw [run_completeBegin]
  dsimp only
  split
  · exact versions_completeStart
  · exact versions_completeStart

theorem versions_jobWith (j s : Nat) : (StateT.run (jobWith j s) w).2.versions = w.versions := by
  rw [jobWith, run_bind', run_isSuperseded]
  dsimp only
  split
  · rfl
  · rw [run_bind', run_get']
    dsimp only
    rw [run_bind']
    have h₁ := versions_receive (w := w) s (.completions (w.jobs.getD j default).request)
    split
    · exact h₁
    · rw [run_bind']
      have h₂ := versions_claimReplyGate.trans h₁
      split
      · exact h₂
      · rw [run_jobReply]
        exact h₂

theorem versions_jobBegin (j : Nat) : (StateT.run (jobBegin j) w).2.versions = w.versions := by
  rw [jobBegin, run_bind', run_isSuperseded]
  dsimp only
  split
  · rfl
  · rw [run_bind']
    have h₁ := versions_ensureStarted (w := w)
    split
    · exact (versions_jobWith _ _).trans h₁
    · exact h₁

theorem versions_stopDrain (closing : Bool) :
    (StateT.run (stopDrain closing) w).2.versions = w.versions := by
  cases closing with
  | false => rw [run_stopDrain_false]
  | true =>
    have h₁ : (w.background.foldl (fun w x => w.exec (cancel x)) w).versions = w.versions :=
      versions_foldl _ _ fun _ _ => rfl
    rw [run_stopDrain_true]
    dsimp only
    split
    · exact h₁
    · exact (versions_foldl w.background (fun w x => w.exec (listen x (.tally _))) fun _ _ => rfl).trans h₁

theorem versions_stopTerminate (closing : Bool) (s : Nat) :
    (StateT.run (stopTerminate closing s) w).2.versions = w.versions := by
  rw [run_stopTerminate, versions_stopDrain, versions_clearServer]
  exact versions_modify_servers s fun _ => rfl

theorem versions_stopAfterLaunch (closing : Bool) :
    (StateT.run (stopAfterLaunch closing) w).2.versions = w.versions := by
  cases hs : w.life.server with
  | none => rw [run_stopAfterLaunch_of_none w closing hs, versions_stopDrain]
  | some s =>
    cases hh : w.life.heartbeat with
    | none => rw [run_stopAfterLaunch_of_no_beat w closing hs hh, versions_stopTerminate, versions_clearServer]
    | some h =>
      rw [run_stopAfterLaunch_of_beat w closing hs hh]
      split
      · rw [versions_stopTerminate, versions_clearServer]
      · exact versions_clearServer s

theorem versions_stopStart (closing : Bool) : (stopStart w closing).versions = w.versions := by
  cases closing
  · rfl
  · exact versions_supersedeAll

theorem versions_stopBegin (closing : Bool) :
    (StateT.run (stopBegin closing) w).2.versions = w.versions := by
  cases hl : w.life.launch with
  | some l => rw [run_stopBegin_of_launch w closing hl]; exact versions_stopStart closing
  | none => rw [run_stopBegin_of_none w closing hl, versions_stopAfterLaunch, versions_stopStart]

/-- Every step of a task keeps the versions, but the first step of a launch. -/
theorem versions_run {p : Point} (hp : p ≠ .launch) (input : Outcome) :
    (StateT.run (run p input) w).2.versions = w.versions := by
  cases p with
  | complete call => exact versions_completeBegin call
  | completeAwaitingJob j =>
    rw [show run (.completeAwaitingJob j) input = completeEnd j input from rfl, run_completeEnd]
    rfl
  | job j => exact versions_jobBegin j
  | jobAwaitingServer j =>
    rcases input with (_ | s | _) | f | _
    case value.server => exact versions_jobWith j s
    all_goals rfl
  | jobAwaitingReply j =>
    cases input
    case value r => show (StateT.run (jobReply j) w).2.versions = _; rw [run_jobReply]
    all_goals rfl
  | launch => exact absurd rfl hp
  | launchAwaitingStart previous s =>
    cases input
    case value r => exact versions_launchStarted previous s
    all_goals exact versions_launchAbort previous s _
  | heartbeat s md => exact versions_heartbeatBegin s md
  | heartbeatAsleep s md =>
    cases input
    case value r => exact versions_heartbeatBegin s md
    all_goals rfl
  | cancelNotice rid => exact versions_cancelNotice rid
  | warmUp =>
    show (StateT.run (ensureStarted >>= _) w).2.versions = _
    rw [run_bind']
    split <;> exact versions_ensureStarted
  | warmUpAwaitingServer => cases input <;> rfl
  | accept id =>
    show (StateT.run (ensureStarted >>= _) w).2.versions = _
    rw [run_bind']
    split
    · exact (versions_acceptWith _ _).trans versions_ensureStarted
    · exact versions_ensureStarted
  | acceptAwaitingServer id =>
    rcases input with (_ | s | _) | f | _
    case value.server => exact versions_acceptWith id s
    all_goals rfl
  | ensure =>
    show (StateT.run (ensureStarted >>= _) w).2.versions = _
    rw [run_bind']
    split <;> exact versions_ensureStarted
  | ensureAwaitingServer => rfl
  | stop closing => exact versions_stopBegin closing
  | stopAwaitingLaunch closing =>
    cases input
    case cancelled => rfl
    all_goals exact versions_stopAfterLaunch closing
  | stopAwaitingHeartbeat closing s =>
    cases input
    case failed f => rfl
    all_goals exact versions_stopTerminate closing s
  | stopAwaitingDrain => cases input <;> rfl
  | notice n =>
    show (StateT.run (applyNotice n >>= _) w).2.versions = _
    rw [run_bind']
    exact versions_applyNotice n

end Act

theorem MetadataSource.extensionVersion_of_build {src : MetadataSource} {c : Credentials} {id v : Value}
    {md : Metadata} (h : src.build c id v = .ok md) : md.extensionVersion = v := by
  unfold MetadataSource.build at h
  cases hk : c.key? with
  | none => simp [hk] at h
  | some k =>
    cases hv : src.ideVersion with
    | error f => simp [hk, hv, bind, Except.bind] at h
    | ok iv =>
      simp only [hk, hv, bind, Except.bind, pure, Except.pure, Except.ok.injEq] at h
      rw [← h]

/-- The request a completion call builds carries the version the service holds. -/
theorem Act.buildRequest_extensionVersion {w : World} {id : Nat} {call : CompletionCall}
    {req : CompletionRequest} (h : (StateT.run (Act.buildRequest id call) w).1 = .ok req) :
    req.metadata.extensionVersion = w.life.serverVersion := by
  simp only [Act.buildRequest, Act.run_bind', Act.run_get', StateT.run_pure] at h
  cases hf : call.file.toPath with
  | error f => simp [hf, bind, Except.bind] at h
  | ok file =>
    cases ho : w.pool.othersAt (.text file) with
    | error f => simp [hf, ho, bind, Except.bind] at h
    | ok others =>
      cases hm : w.source.build w.credentials (.int id) w.life.serverVersion with
      | error f => simp [hf, ho, hm, bind, Except.bind] at h
      | ok md =>
        cases hr : Locator.relativePath (.text file) (.text w.projectRoot) with
        | error f => simp [hf, ho, hm, hr, bind, Except.bind] at h
        | ok rel =>
          simp only [hf, ho, hm, hr, bind, Except.bind, pure, Except.pure, Except.ok.injEq] at h
          rw [← h]
          exact MetadataSource.extensionVersion_of_build hm

/-- A completion call that runs a job gives it a request carrying the version the service holds as
the call begins. -/
theorem Act.completeBegin_extensionVersion {w w' : World} {call : CompletionCall} {t j : Nat}
    (h : StateT.run (Act.completeBegin call) w = (.wait t (.completeAwaitingJob j), w')) :
    (w'.jobs.getD j default).request.metadata.extensionVersion = w.life.serverVersion := by
  rw [Act.run_completeBegin] at h
  dsimp only at h
  split at h
  · cases h
  · rename_i request hb
    cases h
    simp only [Array.getD_eq_getD_getElem?, Array.getElem?_push_size, Option.getD_some]
    rw [Act.buildRequest_extensionVersion hb, (completeStart_frame w).2.2.2.2.1]

end CompletionClient.Service
