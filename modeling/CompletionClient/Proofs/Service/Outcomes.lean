import CompletionClient.Proofs.Service.Ledger
import CompletionClient.Proofs.Service.ErrorPolicy
import CompletionClient.Proofs.Service.FailedLaunch
/-!
# How the steps of calls, jobs and launches end

A completion call that fails with `Fault.superseded` should fail so only because a newer call
superseded it.  Nothing else the service computes fails with that fault: reading a locator,
listing the other documents, building a request's metadata and decoding a reply all fail, if they
fail, with faults of their own (`NoSupersession`).  So a call's first step fails superseded never
(`Act.completeBegin_fault`), a launch only where an installation check reports a supersession
or where it was woken with one (`Act.launch_end`), and a job only where its record says it was
superseded or where it was woken with a supersession (`Act.job_end`).

A job that ends with a value ends with the suggestions, at its cursor, of the reply that its
server gives to its own request (`World.JobEnd`).  And a superseded job that is woken with a
cancellation, or that starts at all, ends cancelled or superseded (`Act.job_end_superseded`).
-/

namespace CompletionClient

/-- A computation that fails, if it fails, with a fault of its own, never with the supersession of
a request. -/
def NoSupersession {α : Type} (x : Except Fault α) : Prop := ∀ f, x = .error f → f ≠ .superseded

namespace NoSupersession

variable {α β : Type}

theorem ok (a : α) : NoSupersession (.ok a : Except Fault α) := fun _ h => by cases h

theorem error {f : Fault} (h : f ≠ .superseded) : NoSupersession (.error f : Except Fault α) :=
  fun _ he => by cases he; exact h

theorem pure (a : α) : NoSupersession (Pure.pure a : Except Fault α) := ok a

theorem bind {x : Except Fault α} {g : α → Except Fault β} (hx : NoSupersession x)
    (hg : ∀ a, NoSupersession (g a)) : NoSupersession (x >>= g) := by
  cases x with
  | error f =>
    intro e he
    cases he
    exact hx f rfl
  | ok a => exact hg a

theorem map {x : Except Fault α} (g : α → β) (hx : NoSupersession x) : NoSupersession (x.map g) := by
  cases x with
  | error f =>
    intro e he
    cases he
    exact hx f rfl
  | ok a => exact ok _

theorem mapM {g : α → Except Fault β} (hg : ∀ a, NoSupersession (g a)) :
    ∀ l : List α, NoSupersession (l.mapM g)
  | [] => pure _
  | a :: l => by
    rw [List.mapM_cons]
    exact (hg a).bind fun _ => (mapM hg l).bind fun _ => pure _

end NoSupersession

namespace Value

theorem get_noSupersession (v : Value) (key : String) : NoSupersession (v.get key) := by
  unfold get
  split
  · exact .ok _
  · exact .error (by simp)

theorem mem_noSupersession (v : Value) (key : String) : NoSupersession (v.mem key) := by
  unfold mem
  split
  · exact .ok _
  · exact .ok _
  · exact .ok _
  · exact .error (by simp)

theorem pick_noSupersession (v : Value) (camel snake : String) : NoSupersession (v.pick camel snake) := by
  unfold pick
  refine (v.mem_noSupersession camel).bind fun found => ?_
  split
  · split
    · exact .ok _
    · exact .error (by simp)
  · exact v.get_noSupersession snake

theorem elements_noSupersession (v : Value) : NoSupersession v.elements := by
  unfold elements
  split
  · exact .ok _
  · exact .ok _
  · exact .ok _
  · exact .error (by simp)

theorem toCoordinate_noSupersession (v : Value) : NoSupersession v.toCoordinate := by
  unfold toCoordinate
  split
  · exact .ok _
  · split
    · exact .error (by simp)
    · exact .ok _
  · split
    · exact .ok _
    · exact .ok _
  · exact .ok _

end Value

theorem WirePoint.decode_noSupersession (v : Value) : NoSupersession (WirePoint.decode v) := by
  unfold WirePoint.decode
  split
  · exact .ok _
  · exact (v.get_noSupersession "row").bind fun a => a.toCoordinate_noSupersession.bind fun _ =>
      (v.get_noSupersession "col").bind fun b => b.toCoordinate_noSupersession.bind fun _ => .pure _

theorem CompletionItem.decode_noSupersession (v : Value) : NoSupersession (CompletionItem.decode v) := by
  unfold CompletionItem.decode
  refine (v.get_noSupersession "completion").bind fun completion => ?_
  refine (v.get_noSupersession "range").bind fun range => ?_
  refine ((orEmpty completion).pick_noSupersession _ _).bind fun _ => ?_
  dsimp only
  -- the text is read from an object, and any other completion fails
  split <;> [refine (NoSupersession.pure _).bind fun _ => ?_;
    refine (NoSupersession.error (by simp)).bind fun _ => ?_]
  all_goals
    refine ((orEmpty range).pick_noSupersession _ _).bind fun a => ?_
    refine (WirePoint.decode_noSupersession a).bind fun _ => ?_
    refine ((orEmpty range).pick_noSupersession _ _).bind fun b => ?_
    exact (WirePoint.decode_noSupersession b).bind fun _ => .pure _

/-- Decoding a completion reply fails, if it fails, with a fault of the reply's shape. -/
theorem CompletionReply.decode_noSupersession (data : Value) :
    NoSupersession (CompletionReply.decode data) := by
  unfold CompletionReply.decode
  refine (data.pick_noSupersession _ _).bind fun items => ?_
  split
  · exact .pure _
  · exact items.elements_noSupersession.bind fun l =>
      (NoSupersession.mapM CompletionItem.decode_noSupersession l).bind fun _ => .pure _

namespace Locator

theorem toPath_noSupersession (l : Locator) : NoSupersession l.toPath := by
  intro f h
  cases l with
  | other v =>
    cases h
    simp
  | text s | path p =>
    have hm := toPath_error (fun _ hv => by cases hv) h
    intro hf
    rw [hf] at hm
    cases hm

theorem relativePath_noSupersession (file root : Locator) :
    NoSupersession (relativePath file root) := by
  unfold relativePath
  refine file.toPath_noSupersession.bind fun f => ?_
  split
  · rename_i e he
    split
    · exact .ok _
    · exact .error (root.toPath_noSupersession e he)
  · split <;> exact .ok _

end Locator

theorem DocumentPool.othersAt_noSupersession (pool : DocumentPool) (l : Locator) :
    NoSupersession (pool.othersAt l) :=
  l.toPath_noSupersession.bind fun _ => .ok _

/-- Building metadata fails, if it fails, without a key or with an IDE version that is no text. -/
theorem MetadataSource.build_noSupersession (s : MetadataSource) (creds : Credentials)
    (requestId extensionVersion : Value) : NoSupersession (s.build creds requestId extensionVersion) := by
  unfold MetadataSource.build
  split
  · refine NoSupersession.bind ?_ fun _ => .ok _
    unfold MetadataSource.ideVersion Version.textOf
    refine .map _ ?_
    split
    · exact .ok _
    · exact .error (by simp)
  · exact .error (by simp)

namespace Service

namespace World

/-- What a step of the job `j`, begun in `w` and woken with `input`, may end with: a supersession
only where the job was superseded or the step was woken with one, and a value only as the
suggestions, at the job's cursor, of the reply that its server gives to the job's request. -/
def JobEnd (w : World) (j : Nat) (input o : Outcome) : Prop :=
  (o = .failed .superseded → (w.jobs.getD j default).superseded = true ∨ input = .failed .superseded) ∧
    ∀ u, o = .value u → ∃ r, CompletionReply.decode (w.script.reply.getD
      (defaultReply (.int (w.jobs.getD j default).requestId))) = .ok r ∧
      u = .suggestions (r.suggestions (w.jobs.getD j default).cursor)

variable {w w' : World} {j : Nat} {input o : Outcome}

theorem JobEnd.of_eq (h : w'.JobEnd j input o) (hs : w'.script = w.script) (hj : w'.jobs = w.jobs) :
    w.JobEnd j input o := by
  unfold JobEnd at h ⊢
  rw [hs, hj] at h
  exact h

/-- A superseded job may end superseded. -/
theorem JobEnd.superseded (h : (w.jobs.getD j default).superseded = true) :
    w.JobEnd j input (.failed .superseded) :=
  ⟨fun _ => .inl h, fun _ hu => by cases hu⟩

/-- A job may end with a fault of its own. -/
theorem JobEnd.fault {f : Fault} (hf : f ≠ .superseded) : w.JobEnd j input (.failed f) :=
  ⟨fun h => (by cases h; exact absurd rfl hf), fun _ hu => by cases hu⟩

/-- A job may end with what it was woken with, if that is no value. -/
theorem JobEnd.passed (h : ∀ u, input ≠ .value u) : w.JobEnd j input input :=
  ⟨fun h => .inr h, fun u hu => absurd hu (h u)⟩

end World

namespace Act

open World

variable {w : World}

theorem script_receive (s : Nat) (r : Request) : (w.exec (receive s r)).script = w.script := by
  rw [exec_receive]
  split <;> rfl

theorem script_claimReplyGate : (StateT.run claimReplyGate w).2.script = w.script := by
  cases hu : w.replyGates.untaken with
  | nil => rw [run_claimReplyGate_of_nil w hu]
  | cons g rest =>
    cases ho : (w.replyGates.gates.getD g {}).isOpen
    · rw [run_claimReplyGate_of_closed w hu ho]
    · rw [run_claimReplyGate_of_open w hu ho]

theorem script_ensureStarted : (StateT.run ensureStarted w).2.script = w.script := by
  by_cases hp : ∃ l, w.life.launch = some l ∧ w.queue.isDone l = false
  · obtain ⟨l, hl, hd⟩ := hp
    rw [run_ensureStarted_of_pending w hl hd]
    rfl
  · have hdone := launch_done_of_not_pending hp
    cases hs : w.life.server with
    | some s => rw [run_ensureStarted_of_ready w hdone hs]
    | none => rw [run_ensureStarted_of_absent w hdone hs]; rfl

theorem jobs_of_ledger {w' : World} (h : w'.ledger = w.ledger) : w'.jobs = w.jobs :=
  congrArg (·.2.1) h

theorem receive_noSupersession (s : Nat) (r : Request) : NoSupersession (StateT.run (receive s r) w).1 := by
  rw [run_receive]
  split
  · split
    · exact .error (by simp)
    · exact .ok _
  · exact .error (by simp)

/-- Reading a job's reply ends as a job may. -/
theorem replyOutcome_end (j : Nat) (input : Outcome) : w.JobEnd j input (replyOutcome w j) := by
  unfold replyOutcome
  dsimp only
  split
  · rename_i f hf
    exact .fault (CompletionReply.decode_noSupersession _ f hf)
  · rename_i r hr
    split
    · exact .superseded ‹_›
    · exact ⟨fun h => (by cases h), fun u hu => ⟨r, hr, by cases hu; rfl⟩⟩

theorem jobWith_end (j s : Nat) (input : Outcome) {o : Outcome}
    (h : (StateT.run (jobWith j s) w).1 = .done o) : w.JobEnd j input o := by
  rw [jobWith, run_bind', run_isSuperseded] at h
  dsimp only at h
  split at h
  · cases h
    exact .superseded ‹_›
  · rw [run_bind', run_get'] at h
    dsimp only at h
    rw [run_bind'] at h
    split at h
    · rename_i f hf
      cases h
      exact .fault (receive_noSupersession s _ f hf)
    · rw [run_bind'] at h
      split at h
      · cases h
      · rw [run_jobReply] at h
        cases h
        -- the reply is read in a world with the same script and jobs
        refine (replyOutcome_end j input).of_eq (script_claimReplyGate.trans (script_receive s _))
          (jobs_of_ledger (ledger_claimReplyGate.trans (ledger_receive s _)))

theorem jobBegin_end (j : Nat) (input : Outcome) {o : Outcome}
    (h : (StateT.run (jobBegin j) w).1 = .done o) : w.JobEnd j input o := by
  rw [jobBegin, run_bind', run_isSuperseded] at h
  dsimp only at h
  split at h
  · cases h
    exact .superseded ‹_›
  · rw [run_bind'] at h
    split at h
    · exact (jobWith_end j _ input h).of_eq script_ensureStarted (jobs_of_ledger ledger_ensureStarted)
    · cases h

/-- A step of a job ends as a job may. -/
theorem job_end {p : Point} {j : Nat} (hp : p.duty = .job j) (input : Outcome) {o : Outcome}
    (h : (StateT.run (run p input) w).1 = .done o) : w.JobEnd j input o := by
  cases p
  case job j' =>
    cases hp
    exact jobBegin_end j input h
  case jobAwaitingServer j' =>
    cases hp
    rcases input with (_ | s | _) | f | _
    case value.server => exact jobWith_end j s _ h
    case failed => cases h; exact .passed fun _ hu => by cases hu
    case cancelled => cases h; exact .passed fun _ hu => by cases hu
    all_goals cases h; exact .fault (by simp)
  case jobAwaitingReply j' =>
    cases hp
    cases input
    case value r =>
      rw [show run (.jobAwaitingReply j) (.value r) = jobReply j from rfl, run_jobReply] at h
      cases h
      exact replyOutcome_end j _
    all_goals cases h; exact .passed fun _ hu => by cases hu
  all_goals cases hp

/-- A superseded job that starts, or that is woken with a cancellation, ends, cancelled or
superseded. -/
theorem job_end_superseded {p : Point} {j : Nat} (hp : p.duty = .job j)
    (hsup : (w.jobs.getD j default).superseded = true) {input : Outcome}
    (hwake : p = .job j ∨ input = .cancelled) :
    ∃ o, (StateT.run (run p input) w).1 = .done o ∧ (o = .cancelled ∨ o = .failed .superseded) := by
  have hbegin : (StateT.run (run (.job j) input) w).1 = .done (.failed .superseded) := by
    rw [show run (.job j) input = jobBegin j from rfl, jobBegin, run_bind', run_isSuperseded]
    dsimp only
    rw [if_pos hsup]
    rfl
  rcases hwake with rfl | rfl
  · exact ⟨_, hbegin, .inr rfl⟩
  · cases p
    case jobAwaitingServer => exact ⟨_, rfl, .inl rfl⟩
    case jobAwaitingReply => exact ⟨_, rfl, .inl rfl⟩
    case job => cases hp; exact ⟨_, hbegin, .inr rfl⟩
    all_goals cases hp

/-- A start ends with its server, or with its scripted fault. -/
theorem launchStarted_end (previous : Phase) (s : Nat) {o : Outcome}
    (h : (StateT.run (launchStarted previous s) w).1 = .done o) : o ≠ .failed .superseded := by
  by_cases he : w.script.startError = .null
  · rw [run_launchStarted_of_null w previous s he] at h
    dsimp only at h
    rw [fst_launchEnd] at h
    cases h
    simp
  · rw [run_launchStarted_of_error w previous s he, fst_launchAbort] at h
    cases h
    simp

/-- The first step of a launch ends superseded only where the installation check reports so. -/
theorem launchBegin_end (hi : w.installation ≠ .error .superseded) {o : Outcome}
    (h : (StateT.run launchBegin w).1 = .done o) : o ≠ .failed .superseded := by
  cases hinst : w.installation with
  | error f =>
    rw [run_launchBegin_of_error w hinst, fst_launchEnd] at h
    cases h
    intro hf
    cases hf
    exact hi hinst
  | ok st =>
    by_cases hn : st.kind = .notInstalled
    · rw [run_launchBegin_of_notInstalled w hinst hn, fst_launchEnd] at h
      cases h
      simp
    by_cases ho : st.kind = .outdated
    · rw [run_launchBegin_of_outdated w hinst ho, fst_launchEnd] at h
      cases h
      simp
    cases hm : (launchChecked w (some st.version)).source.build
        (launchChecked w (some st.version)).credentials (.int (Int.ofNat w.life.counters.requests))
        st.version with
    | error f =>
      rw [run_launchBegin_of_metadata w hinst ⟨hn, ho⟩ hm, fst_launchEnd] at h
      cases h
      intro hf
      cases hf
      exact MetadataSource.build_noSupersession _ _ _ _ _ hm rfl
    | ok md =>
      cases hf : w.folderError with
      | some e =>
        rw [run_launchBegin_of_folder w hinst ⟨hn, ho⟩ hm hf, fst_launchEnd] at h
        cases h
        simp
      | none =>
        rw [run_launchBegin_of_made w hinst ⟨hn, ho⟩ hm hf, run_bind'] at h
        split at h
        · cases h
        · exact launchStarted_end _ _ h

/-- A step of a launch ends superseded only where an installation check or the start gate it was
woken by reports so. -/
theorem launch_end (hi : w.installation ≠ .error .superseded) {p : Point} (hp : p.duty = .launch)
    {input : Outcome} (hin : input ≠ .failed .superseded) {o : Outcome}
    (h : (StateT.run (run p input) w).1 = .done o) : o ≠ .failed .superseded := by
  cases p
  case launch => exact launchBegin_end hi h
  case launchAwaitingStart previous s =>
    cases input
    case value r => exact launchStarted_end previous s h
    all_goals
      change (StateT.run (launchAbort previous s _) w).1 = _ at h
      rw [fst_launchAbort] at h
      cases h
      exact hin
  all_goals cases hp

theorem buildRequest_noSupersession (requestId : Nat) (call : CompletionCall) :
    NoSupersession (StateT.run (buildRequest requestId call) w).1 :=
  call.file.toPath_noSupersession.bind fun _ =>
    (w.pool.othersAt_noSupersession _).bind fun _ =>
      (w.source.build_noSupersession _ _ _).bind fun _ =>
        (Locator.relativePath_noSupersession _ _).bind fun _ => .ok _

/-- The first step of a completion call fails, if it fails, with a fault of its request. -/
theorem completeBegin_fault (call : CompletionCall) {o : Outcome}
    (h : (StateT.run (completeBegin call) w).1 = .done o) : ∃ f, o = .failed f ∧ f ≠ .superseded := by
  rw [run_completeBegin] at h
  dsimp only at h
  split at h
  · rename_i f hf
    cases h
    exact ⟨f, rfl, buildRequest_noSupersession _ call f hf⟩
  · cases h

/-- The first step of a completion call fails with a fault of its request, or runs a new job for
the request, at the call's cursor and with the id one above the counter's, and waits for the job's
task. -/
theorem completeBegin_cases (call : CompletionCall) :
    (∃ f, StateT.run (completeBegin call) w = (.done (.failed f), completeStart w) ∧
      f ≠ .superseded) ∨
    ∃ request, StateT.run (completeBegin call) w =
      (.wait (completeStart w).queue.cells.size (.completeAwaitingJob (completeStart w).jobs.size),
        { completeStart w with
          queue := ((completeStart w).queue.spawn (.job (completeStart w).jobs.size)).1,
          jobs := (completeStart w).jobs.push
            { requestId := (completeStart w).life.counters.requests, request,
              cursor := call.cursor, task := (completeStart w).queue.cells.size },
          ongoing := (completeStart w).ongoing ++ [(completeStart w).jobs.size] }) := by
  cases hb : (StateT.run (buildRequest (completeStart w).life.counters.requests call)
      (completeStart w)).1 with
  | error f =>
    refine .inl ⟨f, ?_, buildRequest_noSupersession _ call f hb⟩
    rw [run_completeBegin]
    dsimp only
    rw [hb]
  | ok request =>
    refine .inr ⟨request, ?_⟩
    rw [run_completeBegin]
    dsimp only
    rw [hb]

end Act

end Service

end CompletionClient
