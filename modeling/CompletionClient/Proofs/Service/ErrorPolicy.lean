import CompletionClient.Proofs.Service.CancelNotice
/-!
# Faults of a file locator

The service means every document notice to end normally, and every completion call to end with
suggestions or with one of the faults a user can act on.  A file named by a text, though, is read
as a URL first, and a text that is no well-formed URL (an opening bracket in the host with no
closing one, a bracketed host that is no address, a host that normalises into a delimiter) is
refused with a fault of its own, reported as a `ValueError` (`Locator.toPath_error`,
`Locator.malformedUrl_kind`).

Nothing catches that fault.  A document notice fails with it exactly when its locator cannot be
read (`Act.applyNotice_outcome`); the project root never stops a notice, since a root that is a
malformed URL stands for no root.  A completion call fails with it in its first step, after it has
already superseded the calls in flight, queued a cancel notice and taken the next request id
(`malformed_locator_faults`).
-/

namespace CompletionClient

namespace Host

/-- The text between a host's brackets is refused only as a malformed host. -/
theorem checkBracketed_error {host : String} {f : Fault} (h : checkBracketed host = .error f) :
    ∃ m, f = .badHost m := by
  unfold checkBracketed at h
  split at h
  · split at h
    · dsimp only at h
      split at h
      · cases h
      · cases h
        exact ⟨_, rfl⟩
    · cases h
      exact ⟨_, rfl⟩
  · split at h
    · cases h
      exact ⟨_, rfl⟩
    · split at h
      · cases h
      · cases h
        exact ⟨_, rfl⟩

end Host

namespace FileUrl

theorem checkBracketedHost_error {netloc : List Char} {f : Fault} (h : checkBracketedHost netloc = .error f) :
    Locator.malformedUrl f = true := by
  unfold checkBracketedHost at h
  dsimp only at h
  split at h
  · split at h
    · cases h
      rfl
    · split at h
      · cases h
        rfl
      · obtain ⟨m, rfl⟩ := Host.checkBracketed_error h
        rfl
  · obtain ⟨m, rfl⟩ := Host.checkBracketed_error h
    rfl

theorem checkHost_error {netloc : String} {f : Fault} (h : checkHost netloc = .error f) :
    Locator.malformedUrl f = true := by
  unfold checkHost at h
  by_cases hb : (netloc.toList.contains '[' != netloc.toList.contains ']') = true
  · simp only [hb, if_true] at h
    cases h
    rfl
  simp only [hb, Bool.false_eq_true, if_false] at h
  -- the last check refuses only an unsafe host
  have hnorm : ∀ e, (if (netloc.toList.any fun x => decide (x.toNat ≥ 128)) = true then
      Except.mapError (fun _ => Fault.unsafeHost netloc)
        (Host.checkNormalized (String.ofList (netloc.toList.filter fun c => c ∉ ['@', ':', '#', '?'])))
      else pure ()) = .error e → Locator.malformedUrl e = true := by
    intro e he
    split at he
    · cases hc : Host.checkNormalized (String.ofList (netloc.toList.filter fun c => c ∉ ['@', ':', '#', '?']))
      · rw [hc] at he
        cases he
        rfl
      · rw [hc] at he
        cases he
    · cases he
  split at h
  · cases hc : checkBracketedHost netloc.toList with
    | error e =>
      rw [hc] at h
      cases h
      exact checkBracketedHost_error hc
    | ok u => rw [hc] at h; exact hnorm f h
  · exact hnorm f h

/-- A file URL whose path cannot be read is malformed: its brackets, its host, or a character of
its host that normalises into a delimiter. -/
theorem path_error {url : String} {f : Fault} (h : path url = .error f) : Locator.malformedUrl f = true := by
  unfold path at h
  dsimp only at h
  cases hc : checkHost (String.ofList ((url.toList.filter fun c => c ∉ ['\t', '\r', '\n']).drop
      prefixText.length |>.takeWhile (· ∉ ['/', '?', '#']))) with
  | error e =>
    rw [hc] at h
    cases h
    exact checkHost_error hc
  | ok u =>
    rw [hc] at h
    cases h

end FileUrl

namespace Locator

/-- A text or a path that cannot be read as a path is a malformed file URL. -/
theorem toPath_error {l : Locator} (hl : ∀ v, l ≠ .other v) {f : Fault} (h : l.toPath = .error f) :
    malformedUrl f = true := by
  cases l with
  | text s =>
    simp only [toPath] at h
    split at h
    · exact FileUrl.path_error h
    · cases h
  | path p => cases h
  | other v => exact absurd rfl (hl v)

/-- A malformed URL is reported as a value error. -/
theorem malformedUrl_kind {f : Fault} (h : malformedUrl f = true) : f.kind = "ValueError" := by
  cases f <;> simp_all [malformedUrl, Fault.kind]

end Locator

namespace Service

/-- The locator of a document notice; a request to drop the current request names none. -/
def Notice.locator? : Notice → Option Locator
  | .opened file _ | .changed file _ | .closed file => some file
  | .dropRequest => none

namespace Act

variable {w : World}

/-- A document notice ends normally unless its locator cannot be read as a path, and then fails
with that fault; the project root never stops it, since a root that is a malformed URL stands
for no root. -/
theorem applyNotice_outcome (n : Notice) :
    (StateT.run (applyNotice n) w).1 =
      match n.locator? with
      | some l => match l.toPath with
        | .ok _ => .value .unit
        | .error f => .failed f
      | none => .value .unit := by
  cases n with
  | opened file content | changed file content =>
    dsimp only [applyNotice, run_bind', run_get', Notice.locator?]
    cases hf : file.toPath with
    | error f => simp [Locator.relativePath, hf, bind, Except.bind]; rfl
    | ok k =>
      -- the root's own fault, if any, is a malformed URL, which stands for no root
      have hrel : ∃ r, Locator.relativePath file (.text w.projectRoot) = .ok r := by
        cases hr : (Locator.text w.projectRoot).toPath with
        | error e =>
          have hm := Locator.toPath_error (l := .text w.projectRoot) (fun _ h => by cases h) hr
          exact ⟨k, by simp [Locator.relativePath, hf, hr, hm]⟩
        | ok r =>
          simp only [Locator.relativePath, hf, hr, bind, Except.bind]
          split
          · exact ⟨_, rfl⟩
          · exact ⟨k, rfl⟩
      obtain ⟨r, hr⟩ := hrel
      simp only [hr, DocumentPool.openAt, hf, bind, Except.bind, pure, Except.pure]
      rfl
  | closed file =>
    dsimp only [applyNotice, run_bind', run_get', Notice.locator?]
    cases hf : file.toPath with
    | error f => simp [DocumentPool.closeAt, hf, bind, Except.bind]; rfl
    | ok k => simp [DocumentPool.closeAt, hf, bind, Except.bind, pure, Except.pure]; rfl
  | dropRequest =>
    dsimp only [applyNotice, run_bind', run_get', Notice.locator?]
    rfl

/-- A completion call whose locator cannot be read as a path fails with that fault in its first
step, in the world where it has superseded the calls in flight, queued a cancel notice for the
previous request and taken the next request id. -/
theorem run_completeBegin_of_toPath_error {call : CompletionCall} {f : Fault}
    (h : call.file.toPath = .error f) :
    StateT.run (completeBegin call) w = (.done (.failed f), completeStart w) := by
  rw [run_completeBegin]
  dsimp only
  have hb : (StateT.run (buildRequest (completeStart w).life.counters.requests call) (completeStart w)).1 =
      .error f := by
    simp only [buildRequest, h]
    rfl
  rw [hb]

/-- Superseding marks every job it folds over, and keeps every mark. -/
theorem superseded_foldl (j : Nat) (l : List Nat) (tasks : Nat → CellId) :
    ∀ w' : World, (j ∈ l ∧ j < w'.jobs.size) ∨ (w'.jobs.getD j default).superseded = true →
      ((l.foldl (fun w' k =>
          { w' with jobs := w'.jobs.modify k fun job => { job with superseded := true },
                    queue := w'.queue.cancelTask (tasks k) }) w').jobs.getD j default).superseded = true := by
  induction l with
  | nil =>
    rintro w' (⟨hj, -⟩ | hm)
    · cases hj
    · exact hm
  | cons k l ih =>
    intro w' hw
    apply ih
    simp only [Array.getD_eq_getD_getElem?, Array.getElem?_modify, Array.size_modify]
    rcases hw with ⟨hj, hlt⟩ | hm
    · rcases List.mem_cons.1 hj with rfl | hj
      · right
        simp [hlt]
      · exact .inl ⟨hj, hlt⟩
    · right
      rw [Array.getD_eq_getD_getElem?] at hm
      split
      · rename_i hkj
        subst hkj
        revert hm
        cases w'.jobs[k]? <;> simp
      · exact hm

/-- A completion call marks every call in flight superseded before it builds its request. -/
theorem superseded_completeStart {j : Nat} (hj : j ∈ w.ongoing) (hlt : j < w.jobs.size) :
    ((completeStart w).jobs.getD j default).superseded = true := by
  show ((w.exec supersedeAll).jobs.getD j default).superseded = true
  rw [World.exec, run_supersedeAll]
  exact superseded_foldl j w.ongoing _ w (.inl ⟨hj, hlt⟩)

end Act

/-- Where a file's locator, a text or a path, cannot be read as a path, the fault is a malformed
URL, reported as a value error.  A document notice ends normally exactly when its locator, if it
has one, reads as a path, and fails with the fault otherwise.  A completion call fails with it
too, in its first step, but only after it has superseded every call in flight, queued a cancel
notice for the id the request counter held and taken the next id. -/
theorem malformed_locator_faults (w : World) :
    (∀ l : Locator, (∀ v, l ≠ .other v) → ∀ f, l.toPath = .error f →
        Locator.malformedUrl f = true ∧ f.kind = "ValueError") ∧
    (∀ n : Notice, (StateT.run (Act.applyNotice n) w).1 =
        match n.locator? with
        | some l => match l.toPath with
          | .ok _ => .value .unit
          | .error f => .failed f
        | none => .value .unit) ∧
    ∀ call f, call.file.toPath = .error f →
      StateT.run (Act.completeBegin call) w = (.done (.failed f), Act.completeStart w) ∧
      (∀ j ∈ w.ongoing, j < w.jobs.size → ((Act.completeStart w).jobs.getD j default).superseded = true) ∧
      ((Act.completeStart w).queue.cell w.queue.cells.size).point =
        some (.cancelNotice w.life.counters.requests) ∧
      (Act.completeStart w).life.counters.requests = w.life.counters.requests + 1 := by
  refine ⟨fun l hl f h => ?_, Act.applyNotice_outcome, fun call f h => ?_⟩
  · have hm := Locator.toPath_error hl h
    exact ⟨hm, Locator.malformedUrl_kind hm⟩
  · exact ⟨Act.run_completeBegin_of_toPath_error h, fun j hj hlt => Act.superseded_completeStart hj hlt,
      (Act.completeStart_notice w).1, (completeStart_frame w).2.2.2.2.2⟩

/-- Closing a document named by a URL with an unbalanced bracket fails with that fault, and a
completion call in the same world fails with it after taking request id 1. -/
theorem malformed_locator_faults_on_close :
    let w : World :=
      { projectRoot := "/project", credentials := ⟨.str "key"⟩,
        source := ⟨.str "xcode", .str "14.0.0", none, .str "session-test"⟩,
        installation := .ok { kind := .installed, version := .str "1.2.104" }, resetOnRestart := true }
    let call : CompletionCall := ⟨.text "file://[x/a.py", .str "", ⟨.int 0, .int 0⟩, .int 4, .bool false⟩
    (StateT.run (Act.applyNotice (.closed (.text "file://[x/a.py"))) w).1 = .failed .badBrackets ∧
      StateT.run (Act.completeBegin call) w = (.done (.failed .badBrackets), Act.completeStart w) ∧
      (Act.completeStart w).life.counters.requests = 1 := by
  intro w call
  -- faults have no decidable equality: the kernel evaluates the path to a tag first
  have hb : (match (Locator.text "file://[x/a.py").toPath with
      | .error .badBrackets => true
      | _ => false) = true := by decide +kernel
  have hp : (Locator.text "file://[x/a.py").toPath = .error .badBrackets := by
    split at hb
    · assumption
    · cases hb
  obtain ⟨-, hn, hc⟩ := malformed_locator_faults w
  obtain ⟨hrun, -, -, hid⟩ := hc call .badBrackets hp
  exact ⟨by rw [hn]; simp only [Notice.locator?, hp], hrun, hid⟩

/-- A service whose first call closes a document named by a URL with an unbalanced bracket, and
whose second asks for completions in it: both calls end with the malformed-URL fault, a value
error and none of the faults a user can act on, and the second has taken request id 1. -/
theorem malformed_url_escapes_calls :
    let w : World :=
      { projectRoot := "/project", credentials := ⟨.str "key"⟩,
        source := ⟨.str "xcode", .str "14.0.0", none, .str "session-test"⟩,
        installation := .ok { kind := .installed, version := .str "1.2.104" }, resetOnRestart := true }
    let call : CompletionCall := ⟨.text "file://[x/a.py", .str "", ⟨.int 0, .int 0⟩, .int 4, .bool false⟩
    let v := w.run [.call (.notice (.closed (.text "file://[x/a.py"))), .wake, .call (.complete call), .wake]
    (match (v.queue.cell 0).result with
      | some (.failed .badBrackets) => true
      | _ => false) = true ∧
    (match (v.queue.cell 1).result with
      | some (.failed .badBrackets) => true
      | _ => false) = true ∧
    v.life.counters.requests = 1 ∧ Fault.badBrackets.kind = "ValueError" ∧
      Fault.badBrackets.isSetup = false := by
  decide +kernel

end Service

end CompletionClient
