import CompletionClient.Proofs.Service.Flights
/-!
# Superseded completion calls

A completion call supersedes the calls in flight, and so does a closing stop.  Over a run of the
service from a fresh start in which no installation check reports a supersession, take a call
that the event at `i` begins and that ends, with `o`, at the event at `k`
(`World.Supersession`):

* if it returns suggestions, nothing superseded it in between, and they are the suggestions, at
  its own cursor, of the reply to its own request;
* if something superseded it in between, it ends superseded, or with the fault its job's task had
  already failed with;
* it ends superseded only if something superseded it in between.

`calls_superseded_exactly` proves the three from the invariant `World.Flights`, which holds at
every world of such a run (`Fresh.flights_at`), and from what each event does to the calls
(`World.CallMove`).  The job's mark carries the argument: it is unset when the call begins
(`CallMove.begins`), it is set by a supersession while the call is in flight (`CallMove.marks`,
`Fresh.flight_stays`), by nothing else (`CallMove.rise`), and it stays (`CallMove.kept`).  The
event that sets a mark, or that gives the job's task its result, is found by `exists_crossing`.
-/

namespace CompletionClient.Service

/-- A property that fails at `a` and holds at `b` starts to hold at some number between. -/
theorem exists_crossing {P : Nat → Prop} {a b : Nat} (hab : a ≤ b) (ha : ¬ P a) (hb : P b) :
    ∃ m, a ≤ m ∧ m < b ∧ ¬ P m ∧ P (m + 1) := by
  induction b, hab using Nat.le_induction with
  | base => exact absurd hb ha
  | succ b hab ih =>
    by_cases h : P b
    · obtain ⟨m, ham, hmb, hm, hm'⟩ := ih h
      exact ⟨m, ham, Nat.lt_succ_of_lt hmb, hm, hm'⟩
    · exact ⟨b, hab, Nat.lt_succ_self b, h, hb⟩

/-- A call ends with its job's fault, or, if the job's task did not fail, superseded when its job
was marked and as the task ended when it was not. -/
theorem Act.completeEnd_outcome {w : World} {j : Nat} {r o : Outcome}
    (h : (StateT.run (Act.completeEnd j r) w).1 = .done o) :
    (∃ f, r = .failed f ∧ o = .failed f) ∨ (∀ f, r ≠ .failed f) ∧
      (((w.jobs.getD j default).superseded = true ∧ o = .failed .superseded) ∨
        ((w.jobs.getD j default).superseded = false ∧ o = r)) := by
  rw [Act.run_completeEnd] at h
  cases r with
  | failed f =>
    injection h with h
    exact .inl ⟨f, rfl, h.symm⟩
  | value _ | cancelled =>
    refine .inr ⟨(fun f h => by cases h), ?_⟩
    injection h with h
    cases hs : (w.jobs.getD j default).superseded
    · simp only [hs] at h
      exact .inr ⟨rfl, h.symm⟩
    · simp only [hs] at h
      exact .inl ⟨rfl, h.symm⟩

namespace World

variable {v w : World} {es : List Event} {x c : CellId} {j a b m n : Nat}

/-! ## One event -/

/-- A supersession gives no job's task a result: the wake starts the superseding task, which is
no job's. -/
theorem Typed.pending_of_supersedes (h : v.Typed none) {e : Event} (hs : v.Supersedes e)
    (hj : j < v.jobs.size) (hpend : v.Pending (v.jobs.getD j default).task) :
    (v.step e).Pending (v.jobs.getD j default).task := by
  by_contra hne
  obtain ⟨-, q', hwake⟩ :=
    h.task_result_step e (h.job_task hj) fun heq => hne (by rw [Pending, heq]; exact hpend)
  -- the wake starts the task that supersedes, at a point that is no job's
  obtain ⟨t, q, hpop, p, hp, hd⟩ : ∃ t q, v.queue.pop? = some (.start t, q) ∧
      ∃ p, (v.queue.cell t).point = some p ∧ ∀ k, p.duty ≠ .job k := by
    obtain ⟨t, ⟨call, -, ⟨q, hpop⟩, -, hp⟩ | ⟨-, ⟨q, hpop⟩, -, hp⟩⟩ := hs
    · exact ⟨t, q, hpop, _, hp, fun k h => by cases h⟩
    · exact ⟨t, q, hpop, _, hp, fun k h => by cases h⟩
  obtain ⟨p', hp', hd'⟩ := h.job_ref j hj
  rcases hwake with hwake | ⟨src, hwake⟩
  · rw [hpop] at hwake
    simp only [Option.some.injEq, Prod.mk.injEq, Wake.start.injEq] at hwake
    rw [← hwake.1, hp] at hp'
    cases hp'
    exact hd j hd'
  · rw [hpop] at hwake
    simp at hwake

/-- A fresh service has no call, no job and no cell. -/
theorem Fresh.flights (hw : w.Fresh) : w.Flights := by
  have hcell : ∀ d, w.queue.cell d = {} := fun d => by simp [RunQueue.cell, hw.cells]
  have hjob : ∀ j, w.jobs.getD j default = default := fun j => by simp [hw.jobs]
  refine ⟨fun x y j hx _ => ?_, fun j h _ => ?_, fun j hj _ => ?_, fun d hd => ?_,
    fun d _ => ?_, hw.installation⟩
  · have hp := hx.2
    rw [hcell] at hp
    cases hp
  · rw [hjob] at h
    cases h
  · rw [hw.jobs] at hj
    cases hj
  · obtain ⟨p, hp, -⟩ := hd
    rw [hcell] at hp
    cases hp
  · rw [hcell]
    exact Option.some_ne_none _ |>.symm

/-! ## Events of a run -/

/-- The event at `m` of the run supersedes the calls in flight. -/
def SupersedesAt (w : World) (es : List Event) (m : Nat) : Prop :=
  ∃ e, es[m]? = some e ∧ (w.at es m).Supersedes e

/-- The event at `i` of the run begins the completion call `x` for `call`. -/
def BeginsAt (w : World) (es : List Event) (i : Nat) (x : CellId) (call : CompletionCall) : Prop :=
  ∃ e, es[i]? = some e ∧ (w.at es i).Begins e x (.complete call)

theorem at_succ_of_length_le (hn : es.length ≤ n) : w.at es (n + 1) = w.at es n := by
  simp only [«at», List.take_of_length_le hn, List.take_of_length_le (Nat.le_succ_of_le hn)]

theorem at_succ_of_getElem? {e : Event} (he : es[n]? = some e) :
    w.at es (n + 1) = (w.at es n).step e := by
  obtain ⟨hn, rfl⟩ := List.getElem?_eq_some_iff.1 he
  exact at_succ w hn

section Run

variable (hw : w.Fresh) (hes : ∀ e ∈ es, e.Honest)
include hw hes

/-- Every world of the run is typed and keeps its calls. -/
theorem Fresh.flights_at (n : Nat) : (w.at es n).Typed none ∧ (w.at es n).Flights :=
  run_induction_honest (fun v => v.Typed none ∧ v.Flights)
    (fun _ e he h => ⟨h.1.step e, (h.1.callMove h.2 he).flights⟩) (es.take n)
    (fun e he => hes e (List.mem_of_mem_take he)) ⟨hw.typed, hw.flights⟩

/-- Every event of the run moves the calls as `CallMove` says. -/
theorem Fresh.callMove_at {e : Event} (he : es[n]? = some e) :
    (w.at es n).CallMove (w.at es (n + 1)) e := by
  rw [at_succ_of_getElem? he]
  exact (hw.flights_at hes n).1.callMove (hw.flights_at hes n).2 (hes e (List.mem_of_getElem? he))

theorem Fresh.callMove_lt (hn : n < es.length) :
    ∃ e, es[n]? = some e ∧ (w.at es n).CallMove (w.at es (n + 1)) e :=
  ⟨_, List.getElem?_eq_getElem hn, hw.callMove_at hes (List.getElem?_eq_getElem hn)⟩

/-- A result, once given, stays for the rest of the run. -/
theorem Fresh.result_stays (hab : a ≤ b) {o : Outcome}
    (h : ((w.at es a).queue.cell c).result = some o) : ((w.at es b).queue.cell c).result = some o := by
  induction b, hab using Nat.le_induction with
  | base => exact h
  | succ b _ ih =>
    cases he : es[b]? with
    | none =>
      rw [at_succ_of_length_le (List.getElem?_eq_none_iff.1 he)]
      exact ih
    | some e =>
      rw [at_succ_of_getElem? he]
      exact (hw.flights_at hes b).1.result_step e ih

theorem Fresh.pending_before (hab : a ≤ b) (h : (w.at es b).Pending c) : (w.at es a).Pending c := by
  cases ho : ((w.at es a).queue.cell c).result with
  | none => exact ho
  | some o =>
    rw [Pending, hw.result_stays hes hab ho] at h
    cases h

/-- A cell pending at `a` that holds `r` at `b` was given `r` by an event between. -/
theorem Fresh.given_between (hab : a ≤ b) (hpend : (w.at es a).Pending c) {r : Outcome}
    (hr : ((w.at es b).queue.cell c).result = some r) :
    ∃ n, a ≤ n ∧ n < b ∧ (w.at es n).Pending c ∧ ((w.at es (n + 1)).queue.cell c).result = some r := by
  obtain ⟨n, han, hnb, hn, hn'⟩ := exists_crossing (P := fun n => (w.at es n).Pending c → False) hab
    (fun h => h hpend) fun h => by rw [Pending, hr] at h; cases h
  refine ⟨n, han, hnb, Classical.not_not.1 hn, ?_⟩
  cases hr' : ((w.at es (n + 1)).queue.cell c).result with
  | none => exact absurd hr' hn'
  | some r' =>
    rw [hw.result_stays hes hnb hr'] at hr
    exact hr

/-- A job keeps its request id, its cursor and its task for the rest of the run. -/
theorem Fresh.job_stays (hab : a ≤ b) (hb : b ≤ es.length) (hj : j < (w.at es a).jobs.size) :
    j < (w.at es b).jobs.size ∧
      ((w.at es b).jobs.getD j default).requestId = ((w.at es a).jobs.getD j default).requestId ∧
      ((w.at es b).jobs.getD j default).cursor = ((w.at es a).jobs.getD j default).cursor ∧
      ((w.at es b).jobs.getD j default).task = ((w.at es a).jobs.getD j default).task := by
  induction b, hab using Nat.le_induction with
  | base => exact ⟨hj, rfl, rfl, rfl⟩
  | succ b _ ih =>
    obtain ⟨hjb, hreq, hcur, htask⟩ := ih (Nat.le_of_succ_le hb)
    obtain ⟨e, -, hM⟩ := hw.callMove_lt hes hb
    obtain ⟨hreq', hcur', htask'⟩ := hM.same j hjb
    exact ⟨Nat.lt_of_lt_of_le hjb hM.size, hreq'.trans hreq, hcur'.trans hcur, htask'.trans htask⟩

/-- A mark stays for the rest of the run. -/
theorem Fresh.mark_stays (hab : a ≤ b) (hb : b ≤ es.length)
    (h : ((w.at es a).jobs.getD j default).superseded = true) :
    ((w.at es b).jobs.getD j default).superseded = true := by
  induction b, hab using Nat.le_induction with
  | base => exact h
  | succ b _ ih =>
    obtain ⟨e, -, hM⟩ := hw.callMove_lt hes hb
    exact hM.kept j (ih (Nat.le_of_succ_le hb))

/-- A job marked at `b` and not at `a` was marked by a supersession between. -/
theorem Fresh.supersedes_of_mark (hab : a ≤ b) (hb : b ≤ es.length)
    (ha : ¬ ((w.at es a).jobs.getD j default).superseded = true)
    (hmark : ((w.at es b).jobs.getD j default).superseded = true) :
    ∃ m, a ≤ m ∧ m < b ∧ w.SupersedesAt es m := by
  obtain ⟨m, ham, hmb, hm, hm'⟩ :=
    exists_crossing (P := fun n => ((w.at es n).jobs.getD j default).superseded = true) hab ha hmark
  obtain ⟨e, he, hM⟩ := hw.callMove_lt hes (Nat.lt_of_lt_of_le hmb hb)
  exact ⟨m, ham, hmb, e, he, (hM.rise j hm').resolve_left hm⟩

/-- A call in flight stays so while it is pending. -/
theorem Fresh.calls_stay (hab : a ≤ b) (hb : b ≤ es.length) (hx : (w.at es a).Calls x j)
    (hpend : (w.at es b).Pending x) : (w.at es b).Calls x j := by
  induction b, hab using Nat.le_induction with
  | base => exact hx
  | succ b hab ih =>
    obtain ⟨e, -, hM⟩ := hw.callMove_lt hes hb
    exact hM.stays x j (ih (Nat.le_of_succ_le hb) (hw.pending_before hes (Nat.le_succ b) hpend)) hpend

/-- The job a call in flight waits for keeps its request id, its cursor and its task. -/
theorem Fresh.called_job_stays (hab : a ≤ b) (hb : b ≤ es.length) (hx : (w.at es a).Calls x j) :
    j < (w.at es b).jobs.size ∧
      ((w.at es b).jobs.getD j default).requestId = ((w.at es a).jobs.getD j default).requestId ∧
      ((w.at es b).jobs.getD j default).cursor = ((w.at es a).jobs.getD j default).cursor ∧
      ((w.at es b).jobs.getD j default).task = ((w.at es a).jobs.getD j default).task :=
  hw.job_stays hes hab hb ((hw.flights_at hes a).1.calls_waits hx).1

/-- The job of a call in flight stays in flight, or marked, while the call is pending: it leaves
the flight only marked or as its call ends, and no other call waits for it. -/
theorem Fresh.flight_stays (hab : a ≤ b) (hb : b ≤ es.length) (hx : (w.at es a).Calls x j)
    (hon : j ∈ (w.at es a).ongoing ∨ ((w.at es a).jobs.getD j default).superseded = true)
    (hpend : (w.at es b).Pending x) :
    j ∈ (w.at es b).ongoing ∨ ((w.at es b).jobs.getD j default).superseded = true := by
  induction b, hab using Nat.le_induction with
  | base => exact hon
  | succ b hab ih =>
    have hpend₀ := hw.pending_before hes (Nat.le_succ b) hpend
    have hxb := hw.calls_stay hes hab (Nat.le_of_succ_le hb) hx hpend₀
    obtain ⟨e, -, hM⟩ := hw.callMove_lt hes hb
    rcases ih (Nat.le_of_succ_le hb) hpend₀ with hj | hmark
    · by_cases hj' : j ∈ (w.at es (b + 1)).ongoing
      · exact .inl hj'
      rcases hM.leaves j hj hj' with hmark' | ⟨y, hy, hny⟩
      · exact .inr hmark'
      · obtain rfl := (hw.flights_at hes b).2.caller y x j hy hxb
        exact absurd hpend hny
    · exact .inr (hM.kept j hmark)

/-- The task of a marked job, pending at `a`, ends cancelled or superseded. -/
theorem Fresh.doomed_end (hab : a ≤ b) (hb : b ≤ es.length)
    (hmark : ((w.at es a).jobs.getD j default).superseded = true) {T : CellId}
    (hT : ((w.at es a).jobs.getD j default).task = T) (hpend : (w.at es a).Pending T) {r : Outcome}
    (hr : ((w.at es b).queue.cell T).result = some r) : r = .cancelled ∨ r = .failed .superseded := by
  obtain ⟨n, han, hnb, hpn, hrn⟩ := hw.given_between hes hab hpend hr
  have hnl : n ≤ es.length := Nat.le_of_lt (Nat.lt_of_lt_of_le hnb hb)
  obtain ⟨e, -, hM⟩ := hw.callMove_lt hes (Nat.lt_of_lt_of_le hnb hb)
  have htask := (hw.job_stays hes han hnl (lt_size_of_superseded hmark)).2.2.2
  rw [← hT, ← htask] at hpn hrn
  exact hM.doomed j r (hw.mark_stays hes han hnl hmark) hpn hrn

/-- A supersession while a call is in flight marks the call's job. -/
theorem Fresh.marked_by (hm : w.SupersedesAt es m)
    (hon : j ∈ (w.at es m).ongoing ∨ ((w.at es m).jobs.getD j default).superseded = true) :
    ((w.at es (m + 1)).jobs.getD j default).superseded = true := by
  obtain ⟨e, he, hs⟩ := hm
  have hM := hw.callMove_at hes he
  rcases hon with hj | hmark
  · exact hM.marks hs j hj
  · exact hM.kept j hmark

end Run

/-! ## A call in flight -/

section Flight

variable {k : Nat} {o : Outcome} (hw : w.Fresh) (hes : ∀ e ∈ es, e.Honest)
include hw hes

/-- A call in flight from `a` that ends at `k` ends as its job's last step and its job's mark
say. -/
theorem Fresh.call_end (hak : a ≤ k) (hk : k < es.length) (hx : (w.at es a).Calls x j)
    (hpend : (w.at es k).Pending x) (hend : ((w.at es (k + 1)).queue.cell x).result = some o) :
    ∃ r, ((w.at es k).queue.cell ((w.at es a).jobs.getD j default).task).result = some r ∧
      (StateT.run (Act.completeEnd j r) (w.at es k)).1 = .done o := by
  have hxk := hw.calls_stay hes hak (Nat.le_of_lt hk) hx hpend
  obtain ⟨e, -, hM⟩ := hw.callMove_lt hes hk
  obtain ⟨r, hr, hdone⟩ := hM.ends x j o hxk hend
  rw [(hw.called_job_stays hes hak (Nat.le_of_lt hk) hx).2.2.2] at hr
  exact ⟨r, hr, hdone⟩

/-- A supersession while the call is in flight leaves its job marked when the call ends. -/
theorem Fresh.marked_after (hx : (w.at es a).Calls x j) (hon : j ∈ (w.at es a).ongoing)
    (ham : a ≤ m) (hmk : m < k) (hk : k < es.length) (hpend : (w.at es k).Pending x)
    (hm : w.SupersedesAt es m) : ((w.at es k).jobs.getD j default).superseded = true := by
  have hml : m ≤ es.length := Nat.le_of_lt (Nat.lt_trans hmk hk)
  have hon_m := hw.flight_stays hes ham hml hx (.inl hon)
    (hw.pending_before hes (Nat.le_of_lt hmk) hpend)
  exact hw.mark_stays hes hmk (Nat.le_of_lt hk) (hw.marked_by hes hm hon_m)

/-- A call ends superseded only if something superseded it while it was in flight: its job is
then marked, by its own task's supersession fault or by the call's end. -/
theorem Fresh.superseded_only (hak : a ≤ k) (hk : k < es.length) (hx : (w.at es a).Calls x j)
    (hpend : (w.at es k).Pending x) (hend : ((w.at es (k + 1)).queue.cell x).result = some o)
    (hfl : ((w.at es a).jobs.getD j default).superseded = false) (ho : o = .failed .superseded) :
    ∃ m, a ≤ m ∧ m < k ∧ w.SupersedesAt es m := by
  obtain ⟨r, hr, hdone⟩ := hw.call_end hes hak hk hx hpend hend
  have hmark : ((w.at es k).jobs.getD j default).superseded = true := by
    rcases Act.completeEnd_outcome hdone with ⟨f, rfl, rfl⟩ | ⟨hnf, ⟨hm, -⟩ | ⟨-, rfl⟩⟩
    · cases ho
      obtain ⟨hjk, -, -, htk⟩ := hw.called_job_stays hes hak (Nat.le_of_lt hk) hx
      refine (hw.flights_at hes k).2.job_fault j hjk ?_
      rw [htk]
      exact hr
    · exact hm
    · exact absurd ho (hnf _)
  exact hw.supersedes_of_mark hes hak (Nat.le_of_lt hk) (by rw [hfl]; decide) hmark

/-- The task of a job superseded while its call is in flight, if still pending at the
supersession, ends cancelled or superseded: the supersession starts another task, marks the job
and leaves its task pending. -/
theorem Fresh.superseded_task_end (hx : (w.at es a).Calls x j) (hon : j ∈ (w.at es a).ongoing)
    (ham : a ≤ m) (hmk : m < k) (hk : k < es.length) (hpend : (w.at es k).Pending x)
    (hm : w.SupersedesAt es m) (hrm : (w.at es m).Pending ((w.at es a).jobs.getD j default).task)
    {r : Outcome}
    (hr : ((w.at es k).queue.cell ((w.at es a).jobs.getD j default).task).result = some r) :
    r = .cancelled ∨ r = .failed .superseded := by
  have hml : m ≤ es.length := Nat.le_of_lt (Nat.lt_trans hmk hk)
  have hmark := hw.marked_by hes hm (hw.flight_stays hes ham hml hx (.inl hon)
    (hw.pending_before hes (Nat.le_of_lt hmk) hpend))
  obtain ⟨e, he, hs⟩ := hm
  obtain ⟨hjm, -, -, htm⟩ := hw.called_job_stays hes ham hml hx
  have hp₁ : (w.at es (m + 1)).Pending ((w.at es a).jobs.getD j default).task := by
    rw [← htm, at_succ_of_getElem? he]
    exact (hw.flights_at hes m).1.pending_of_supersedes hs hjm (by rw [htm]; exact hrm)
  have htm₁ := (hw.called_job_stays hes (Nat.le_succ_of_le ham)
    (Nat.le_of_lt (Nat.lt_of_le_of_lt hmk hk)) hx).2.2.2
  exact hw.doomed_end hes hmk (Nat.le_of_lt hk) hmark htm₁ hp₁ hr

/-- A call during whose flight something superseded it ends superseded, or with the fault its
job's task had failed with before. -/
theorem Fresh.superseded_after (hak : a ≤ k) (hk : k < es.length) (hx : (w.at es a).Calls x j)
    (hpend : (w.at es k).Pending x) (hend : ((w.at es (k + 1)).queue.cell x).result = some o)
    (hon : j ∈ (w.at es a).ongoing) (ham : a ≤ m) (hmk : m < k) (hm : w.SupersedesAt es m) :
    o = .failed .superseded ∨ ∃ f, f ≠ .superseded ∧ o = .failed f ∧
      ((w.at es m).queue.cell ((w.at es a).jobs.getD j default).task).result = some (.failed f) := by
  obtain ⟨r, hr, hdone⟩ := hw.call_end hes hak hk hx hpend hend
  have hmark := hw.marked_after hes hx hon ham hmk hk hpend hm
  rcases Act.completeEnd_outcome hdone with ⟨f, rfl, rfl⟩ | ⟨-, ⟨-, rfl⟩ | ⟨hm', -⟩⟩
  · by_cases hf : f = .superseded
    · exact .inl (by rw [hf])
    refine .inr ⟨f, hf, rfl, ?_⟩
    -- a task still pending at the supersession would not have failed with another fault
    cases hrm : ((w.at es m).queue.cell ((w.at es a).jobs.getD j default).task).result with
    | some r₀ =>
      rw [hw.result_stays hes (Nat.le_of_lt hmk) hrm] at hr
      exact hr
    | none =>
      rcases hw.superseded_task_end hes hx hon ham hmk hk hpend hm hrm hr with h | h
      · cases h
      · cases h
        exact absurd rfl hf
  · exact .inl rfl
  · rw [hmark] at hm'
    cases hm'

/-- A call that returns suggestions was superseded by nothing while it was in flight, and returns
the suggestions, at its job's cursor, of the reply to its job's request. -/
theorem Fresh.returned (hak : a ≤ k) (hk : k < es.length) (hx : (w.at es a).Calls x j)
    (hpend : (w.at es k).Pending x) (hend : ((w.at es (k + 1)).queue.cell x).result = some o)
    (hon : j ∈ (w.at es a).ongoing)
    (htask : (w.at es a).Pending ((w.at es a).jobs.getD j default).task) {u : Reply}
    (ho : o = .value u) :
    (∀ m, a ≤ m → m < k → ¬ w.SupersedesAt es m) ∧
      ∃ n r, a ≤ n ∧ n < k ∧ CompletionReply.decode ((w.at es n).script.reply.getD
          (defaultReply (.int ((w.at es a).jobs.getD j default).requestId))) = .ok r ∧
        u = .suggestions (r.suggestions ((w.at es a).jobs.getD j default).cursor) := by
  obtain ⟨r, hr, hdone⟩ := hw.call_end hes hak hk hx hpend hend
  -- the job stayed unmarked, so the call ended as its task did
  obtain ⟨hmk, rfl⟩ : ((w.at es k).jobs.getD j default).superseded = false ∧ o = r := by
    rcases Act.completeEnd_outcome hdone with ⟨f, -, rfl⟩ | ⟨-, ⟨-, rfl⟩ | h⟩
    · cases ho
    · cases ho
    · exact h
  refine ⟨fun m ham hmk' hm => ?_, ?_⟩
  · have h := hw.marked_after hes hx hon ham hmk' hk hpend hm
    rw [hmk] at h
    cases h
  · rw [ho] at hr
    obtain ⟨n, han, hnk, hpn, hrn⟩ := hw.given_between hes hak htask hr
    have hnl : n ≤ es.length := Nat.le_of_lt (Nat.lt_trans hnk hk)
    obtain ⟨e, -, hM⟩ := hw.callMove_lt hes (Nat.lt_trans hnk hk)
    obtain ⟨hjn, hreq, hcur, htn⟩ := hw.called_job_stays hes han hnl hx
    rw [← htn] at hpn hrn
    obtain ⟨rep, hdec, hu⟩ := hM.replies j u hjn hpn hrn
    rw [hreq] at hdec
    rw [hcur] at hu
    exact ⟨n, rep, han, hnk, hdec, hu⟩

end Flight

/-! ## The contract of supersession -/

/-- What supersession means for the completion call `x` that the event at `i` of the run began,
for `call`, and that ended with `o` at the event at `k`. -/
structure Supersession (w : World) (es : List Event) (i k : Nat) (x : CellId) (call : CompletionCall)
    (o : Outcome) : Prop where
  /-- A call that returns suggestions was superseded by nothing while it was in flight, and
  returns the suggestions, at its own cursor, of the reply to its own request. -/
  returns : ∀ u, o = .value u → (∀ m, i < m → m < k → ¬ w.SupersedesAt es m) ∧
    ∃ n r, i < n ∧ n < k ∧ CompletionReply.decode ((w.at es n).script.reply.getD
        (defaultReply (.int ((w.at es i).life.counters.requests + 1)))) = .ok r ∧
      u = .suggestions (r.suggestions call.cursor)
  /-- A call superseded while it was in flight ends superseded, or with the fault its job's task
  had already failed with. -/
  superseded : ∀ m, i < m → m < k → w.SupersedesAt es m → o = .failed .superseded ∨
    ∃ f, f ≠ .superseded ∧ o = .failed f ∧ ∃ j, (w.at es (i + 1)).Calls x j ∧
      ((w.at es m).queue.cell ((w.at es (i + 1)).jobs.getD j default).task).result = some (.failed f)
  /-- A call ends superseded only if something superseded it while it was in flight. -/
  only : o = .failed .superseded → ∃ m, i < m ∧ m < k ∧ w.SupersedesAt es m

/-- Over a run from a fresh service in which no installation check reports a supersession, every
completion call ends as supersession has it. -/
theorem calls_superseded_exactly (w : World) (hw : w.Fresh) (es : List Event)
    (hes : ∀ e ∈ es, e.Honest) {x : CellId} {call : CompletionCall} {i k : Nat} {o : Outcome}
    (hbegin : w.BeginsAt es i x call) (hik : i ≤ k) (hpend : (w.at es k).Pending x)
    (hend : ((w.at es (k + 1)).queue.cell x).result = some o) :
    w.Supersession es i k x call o := by
  -- the event that ends the call is one of the run
  have hk : k < es.length := by
    by_contra hk
    rw [at_succ_of_length_le (Nat.le_of_not_lt hk)] at hend
    rw [Pending, hend] at hpend
    cases hpend
  obtain ⟨e, he, hb⟩ := hbegin
  rcases (hw.callMove_at hes he).begins x call hb with ⟨f, hf, hres⟩ |
    ⟨j, hx, hon, hfl, hreq, hcur, htask⟩
  · -- the call failed in its first step, with a fault of its request
    obtain rfl : i = k := by
      refine (Nat.eq_or_lt_of_le hik).resolve_right fun hlt => ?_
      have h := hw.pending_before hes hlt hpend
      rw [Pending, hres] at h
      cases h
    rw [hres] at hend
    cases hend
    refine ⟨fun u h => ?_, fun m h₁ h₂ => absurd (Nat.lt_trans h₁ h₂) (Nat.lt_irrefl i), fun h => ?_⟩
    · cases h
    · cases h
      exact absurd rfl hf
  · -- the call waits for its job from the next event on
    have hak : i + 1 ≤ k := by
      refine (Nat.eq_or_lt_of_le hik).resolve_left fun hik => ?_
      have h := hx.1
      rw [hik, Pending, hend] at h
      cases h
    refine ⟨fun u ho => ?_, fun m him hmk hm => ?_, fun ho => ?_⟩
    · obtain ⟨hno, n, r, hn, hnk, hdec, hu⟩ := hw.returned hes hak hk hx hpend hend hon htask ho
      rw [hreq] at hdec
      rw [hcur] at hu
      exact ⟨hno, n, r, hn, hnk, hdec, hu⟩
    · rcases hw.superseded_after hes hak hk hx hpend hend hon him hmk hm with h | ⟨f, hf, ho, hr⟩
      · exact .inl h
      · exact .inr ⟨f, hf, ho, j, hx, hr⟩
    · exact hw.superseded_only hes hak hk hx hpend hend hfl ho

/-- Three runs of a fresh service.  A call for a document named by a URL with an unbalanced
bracket begins at the second event and fails in its first step, with the malformed-URL fault.  A
call for "/project/a.py" followed by nine wakes is pending after the ninth event and returns
suggestions at the tenth.  The same call followed by another one is superseded when the other
begins, at the fourth event, and ends superseded at the tenth.  Each ends as supersession has it. -/
theorem calls_superseded_exactly_on_three_calls :
    let w : World :=
      { projectRoot := "/project", credentials := ⟨.str "key"⟩,
        source := ⟨.str "xcode", .str "14.0.0", none, .str "session-test"⟩,
        installation := .ok { kind := .installed, version := .str "1.2.104" }, resetOnRestart := true }
    let bad : CompletionCall := ⟨.text "file://[x/a.py", .str "", ⟨.int 0, .int 0⟩, .int 4, .bool false⟩
    let call : CompletionCall := ⟨.text "/project/a.py", .str "", ⟨.int 0, .int 0⟩, .int 4, .bool false⟩
    let other : CompletionCall := ⟨.text "/project/b.py", .str "", ⟨.int 0, .int 0⟩, .int 4, .bool false⟩
    let failing : List Event := [.call (.complete bad), .wake]
    let alone : List Event := .call (.complete call) :: List.replicate 9 .wake
    let twice : List Event := .call (.complete call) :: .call (.complete other) :: List.replicate 8 .wake
    w.Fresh ∧
      (((w.at failing 2).queue.cell 0).result = some (.failed .badBrackets) ∧
        w.Supersession failing 1 1 0 bad (.failed .badBrackets)) ∧
      (∃ u, ((w.at alone 10).queue.cell 0).result = some (.value u) ∧
        w.Supersession alone 1 9 0 call (.value u)) ∧
      (w.SupersedesAt twice 3 ∧ ((w.at twice 10).queue.cell 0).result = some (.failed .superseded) ∧
        w.Supersession twice 2 9 0 call (.failed .superseded)) := by
  intro w bad call other failing alone twice
  have hw : w.Fresh :=
    { phase := rfl, server := rfl, heartbeat := rfl, launch := rfl, cells := rfl, ready := rfl,
      jobs := rfl, ongoing := rfl, background := rfl, servers := rfl, replyGates := ⟨rfl, rfl⟩,
      startGates := ⟨rfl, rfl⟩, installation := fun h => by cases h }
  -- only calls and wakes: no installation check reports a supersession
  have hes₀ : ∀ e ∈ failing, e.Honest := by simp [failing, Event.Honest]
  have hes₁ : ∀ e ∈ alone, e.Honest := by simp [alone, Event.Honest]
  have hes₂ : ∀ e ∈ twice, e.Honest := by simp [twice, Event.Honest]
  -- the malformed URL: the call's task is queued to start, and fails at its first point
  have hb₀ : (w.at failing 1).Begins .wake 0 (.complete bad) := ⟨rfl, ⟨_, rfl⟩, rfl, rfl⟩
  -- faults have no decidable equality: the kernel evaluates the path's fault to its tag first
  have htag₀ : bad.file.toPath.mapError Fault.ctorIdx = .error Fault.badBrackets.ctorIdx := by
    decide +kernel
  have hp : bad.file.toPath = .error .badBrackets := by
    cases h : bad.file.toPath with
    | ok a =>
      rw [h] at htag₀
      cases htag₀
    | error f =>
      rw [h] at htag₀
      injection htag₀ with htag₀
      cases f
      case badBrackets => rfl
      all_goals cases htag₀
  obtain ⟨w₀, hW₀⟩ := (hw.flights_at hes₀ 1).1.woken_of_begins hb₀ fun h => h.elim
  have hend₀ : ((w.at failing 2).queue.cell 0).result = some (.failed .badBrackets) := by
    rw [at_succ_of_getElem? (n := 1) (e := .wake) rfl]
    exact hW₀.result_of_done (congrArg Prod.fst (Act.run_completeBegin_of_toPath_error hp))
  -- the call alone: the reply to its request comes back at the tenth event
  have hb₁ : (w.at alone 1).Begins .wake 0 (.complete call) := ⟨rfl, ⟨_, rfl⟩, rfl, rfl⟩
  have hpend₁ : (w.at alone 9).Pending 0 := Option.isNone_iff_eq_none.1 (by decide +kernel)
  have htag₁ : ((w.at alone 10).queue.cell 0).result.map Outcome.ctorIdx = some 0 := by decide +kernel
  obtain ⟨u, hend₁⟩ : ∃ u, ((w.at alone 10).queue.cell 0).result = some (.value u) := by
    rcases h : ((w.at alone 10).queue.cell 0).result with _ | ((u | f | _))
    all_goals rw [h] at htag₁
    · cases htag₁
    · exact ⟨u, rfl⟩
    all_goals cases htag₁
  -- the call superseded: the other call starts at the fourth event, at the point its call gave it
  have hb₂ : (w.at twice 2).Begins .wake 0 (.complete call) := ⟨rfl, ⟨_, rfl⟩, rfl, rfl⟩
  have hsup : w.SupersedesAt twice 3 := by
    obtain ⟨w₂, hW₂⟩ := (hw.flights_at hes₂ 2).1.woken_of_begins hb₂ fun h => h.elim
    have hpt : ((w.at twice 3).queue.cell 1).point = some (.complete other) := by
      rw [at_succ_of_getElem? (n := 2) (e := .wake) rfl, hW₂.keeps.point 1 (by decide) (by decide +kernel)]
      rfl
    obtain ⟨rest, hready⟩ := List.head?_eq_some_iff.1
      (show (w.at twice 3).queue.ready.head? = some (.start 1) by decide +kernel)
    exact ⟨.wake, rfl, 1, .inl ⟨other, rfl, ⟨_, RunQueue.pop?_of_ready hready⟩,
      Option.isNone_iff_eq_none.1 (by decide +kernel), hpt⟩⟩
  have hpend₂ : (w.at twice 9).Pending 0 := Option.isNone_iff_eq_none.1 (by decide +kernel)
  have htag₂ : (((w.at twice 10).queue.cell 0).result.map fun o =>
      Outcome.rec (motive := fun _ => Nat) (fun _ => 0) (fun f => f.ctorIdx + 1) 0 o) =
        some (Fault.superseded.ctorIdx + 1) := by decide +kernel
  have hend₂ : ((w.at twice 10).queue.cell 0).result = some (.failed .superseded) := by
    rcases h : ((w.at twice 10).queue.cell 0).result with _ | ((u | f | _))
    all_goals rw [h] at htag₂
    · cases htag₂
    · cases htag₂
    · cases f
      case superseded => rfl
      all_goals cases htag₂
    · cases htag₂
  exact ⟨hw,
    ⟨hend₀, calls_superseded_exactly w hw failing hes₀ ⟨_, rfl, hb₀⟩ (Nat.le_refl 1) hb₀.2.2.1 hend₀⟩,
    ⟨u, hend₁, calls_superseded_exactly w hw alone hes₁ ⟨_, rfl, hb₁⟩ (by decide) hpend₁ hend₁⟩,
    hsup, hend₂, calls_superseded_exactly w hw twice hes₂ ⟨_, rfl, hb₂⟩ (by decide) hpend₂ hend₂⟩

end World

end CompletionClient.Service
