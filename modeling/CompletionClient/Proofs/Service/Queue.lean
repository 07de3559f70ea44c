import CompletionClient.Service.RunQueue
/-!
# What the operations of the run queue do

One lemma per operation of `RunQueue` says what it does to each cell and to
the queue of ready entries, so that later proofs never unfold the operations:
a new cell or task takes the next index and leaves every other cell alone;
finishing a pending cell gives it its result and moves its listeners to the
end of the queue; a listener on a pending cell is kept, on a finished one it
is queued at once; and cancelling a task whose wait is a plain cell either
marks it or cancels that cell.

A listener of a cell is *registered* (`RunQueue.Registered`) while it sits on
that cell or is queued to run for it.  No operation but `listen` and the queuing of a notice registers
one: finishing a cell moves its listeners without changing which are
registered, and taking an entry off the queue drops at most that one.
-/

namespace CompletionClient.Service

/-- The cell a listener names. -/
def Listener.cell : Listener → CellId
  | .resume t | .relay t | .signal t | .tally t | .forget t => t

/-- The cells an entry of the run queue names. -/
def Wake.cells : Wake → List CellId
  | .start t => [t]
  | .notify l src => [l.cell, src]

@[simp] theorem Wake.mem_cells_start {d t : CellId} : d ∈ (Wake.start t).cells ↔ d = t := by
  simp [Wake.cells]

@[simp] theorem Wake.mem_cells_notify {d src : CellId} {l : Listener} :
    d ∈ (Wake.notify l src).cells ↔ d = l.cell ∨ d = src := by
  simp [Wake.cells]

namespace RunQueue

variable {Point : Type} (q : RunQueue Point)

/-- The run queue names a cell: in one of its entries, as the cell of a listener, or as the
cell a task waits for. -/
def Names (d : CellId) : Prop :=
  (∃ e ∈ q.ready, d ∈ e.cells) ∨ (∃ c, ∃ l ∈ (q.cell c).listeners, l.cell = d) ∨
    ∃ c, (q.cell c).waitsFor = some d

/-- A listener of the cell `src` is registered: it sits on that cell, or it is queued to run
for it. -/
def Registered (l : Listener) (src : CellId) : Prop :=
  l ∈ (q.cell src).listeners ∨ Wake.notify l src ∈ q.ready

theorem cell_def (c : CellId) : q.cell c = q.cells[c]?.getD {} := by
  simp [cell]

theorem isDone_def (c : CellId) : q.isDone c = (q.cell c).result.isSome := rfl

@[simp] theorem result?_def (c : CellId) : q.result? c = (q.cell c).result := rfl

/-- A cell past the end is an empty pending cell. -/
theorem cell_of_size_le {c : CellId} (h : q.cells.size ≤ c) : q.cell c = {} := by
  simp [cell_def, Array.getElem?_eq_none h]

/-! ## Changing one cell -/

@[simp] theorem cells_modifyCell (c : CellId) (f : Cell Point → Cell Point) :
    (q.modifyCell c f).cells = q.cells.modify c f := rfl

@[simp] theorem ready_modifyCell (c : CellId) (f : Cell Point → Cell Point) :
    (q.modifyCell c f).ready = q.ready := rfl

theorem size_modifyCell (c : CellId) (f : Cell Point → Cell Point) :
    (q.modifyCell c f).cells.size = q.cells.size := by simp

/-- Changing one cell leaves every other cell as it was. -/
theorem cell_modifyCell (c d : CellId) (f : Cell Point → Cell Point) :
    (q.modifyCell c f).cell d = if c = d ∧ d < q.cells.size then f (q.cell d) else q.cell d := by
  simp only [cell_def, cells_modifyCell, Array.getElem?_modify]
  by_cases hcd : c = d
  · subst hcd
    by_cases hd : c < q.cells.size
    · simp [hd]
    · simp [hd]
  · simp [hcd]

@[simp] theorem cell_modifyCell_self {c : CellId} (h : c < q.cells.size) (f : Cell Point → Cell Point) :
    (q.modifyCell c f).cell c = f (q.cell c) := by
  simp [cell_modifyCell, h]

theorem cell_modifyCell_of_ne {c d : CellId} (h : c ≠ d) (f : Cell Point → Cell Point) :
    (q.modifyCell c f).cell d = q.cell d := by
  simp [cell_modifyCell, h]

/-! ## Queuing -/

@[simp] theorem cells_enqueue (w : Wake) : (q.enqueue w).cells = q.cells := rfl

@[simp] theorem cell_enqueue (w : Wake) (c : CellId) : (q.enqueue w).cell c = q.cell c := rfl

/-- Queuing the notices of a list of listeners puts them last, in order. -/
theorem foldl_enqueue_notify (ls : List Listener) (c : CellId) :
    ls.foldl (fun q l => q.enqueue (.notify l c)) q =
      { q with ready := q.ready ++ ls.map (Wake.notify · c) } := by
  induction ls generalizing q with
  | nil => simp
  | cons l ls ih => simp [ih, List.append_assoc]

/-! ## New cells and tasks -/

@[simp] theorem size_newCell : q.newCell.1.cells.size = q.cells.size + 1 := by
  simp [newCell]

@[simp] theorem ready_newCell : q.newCell.1.ready = q.ready := rfl

/-- A new cell is empty, as a cell past the end is: no cell looks different. -/
@[simp] theorem cell_newCell (d : CellId) : q.newCell.1.cell d = q.cell d := by
  simp only [newCell, cell_def, Array.getElem?_push]
  split
  · subst_vars
    simp
  · rfl

@[simp] theorem size_spawn (p : Point) : (q.spawn p).1.cells.size = q.cells.size + 1 := by
  simp [spawn]

/-- A new task is a fresh cell at its first program point. -/
theorem cell_spawn (p : Point) (d : CellId) :
    (q.spawn p).1.cell d = if d = q.cells.size then { point := some p } else q.cell d := by
  simp only [spawn, cell, enqueue, Array.getD_eq_getD_getElem?, Array.getElem?_push]
  split <;> rfl

/-! ## Results -/

/-- Finishing a pending cell gives it its result and no listeners. -/
theorem cells_finish {c : CellId} (h : q.isDone c = false) (o : Outcome) :
    (q.finish c o).cells = q.cells.modify c fun cell => { cell with result := some o, listeners := [] } := by
  simp [finish, h, foldl_enqueue_notify]

/-- Finishing a pending cell queues its listeners, in order. -/
theorem ready_finish {c : CellId} (h : q.isDone c = false) (o : Outcome) :
    (q.finish c o).ready = q.ready ++ (q.cell c).listeners.map (Wake.notify · c) := by
  simp [finish, h, foldl_enqueue_notify]

theorem size_finish (c : CellId) (o : Outcome) : (q.finish c o).cells.size = q.cells.size := by
  cases h : q.isDone c
  · simp [cells_finish q h]
  · simp [finish_of_isDone o h]

theorem cell_finish {c : CellId} (h : q.isDone c = false) (o : Outcome) (d : CellId) :
    (q.finish c o).cell d =
      if c = d ∧ d < q.cells.size then { q.cell d with result := some o, listeners := [] }
      else q.cell d := by
  have := cell_modifyCell q c d fun cell => { cell with result := some o, listeners := [] }
  simpa [cell_def, cells_finish q h] using this

/-! ## Listeners -/

/-- A listener on a finished cell is queued at once. -/
theorem listen_of_isDone {c : CellId} (h : q.isDone c = true) (l : Listener) :
    q.listen c l = q.enqueue (.notify l c) := by
  simp [listen, h]

/-- A listener on a pending cell is kept, after the others. -/
theorem listen_of_pending {c : CellId} (h : q.isDone c = false) (l : Listener) :
    q.listen c l = q.modifyCell c fun cell => { cell with listeners := cell.listeners ++ [l] } := by
  simp [listen, h]

theorem cell_listen (c : CellId) (l : Listener) (d : CellId) :
    (q.listen c l).cell d =
      if q.isDone c = false ∧ c = d ∧ d < q.cells.size then
        { q.cell d with listeners := (q.cell d).listeners ++ [l] }
      else q.cell d := by
  cases h : q.isDone c
  · rw [listen_of_pending q h, cell_modifyCell]
    simp
  · rw [listen_of_isDone q h]
    simp

/-- Listening never moves a cell's program point. -/
theorem point_listen (c : CellId) (l : Listener) (d : CellId) :
    ((q.listen c l).cell d).point = (q.cell d).point := by
  rw [cell_listen]
  split <;> rfl

theorem ready_listen (c : CellId) (l : Listener) :
    (q.listen c l).ready = if q.isDone c then q.ready ++ [.notify l c] else q.ready := by
  cases h : q.isDone c
  · rw [listen_of_pending q h]
    simp
  · rw [listen_of_isDone q h]
    simp

theorem size_listen (c : CellId) (l : Listener) : (q.listen c l).cells.size = q.cells.size := by
  cases h : q.isDone c
  · simp [listen_of_pending q h]
  · simp [listen_of_isDone q h]

/-! ## Cancelling -/

/-- Cancelling what has a result does nothing. -/
theorem cancel_of_isDone {c : CellId} (h : q.isDone c = true) (depth : Nat) : q.cancel c depth = q := by
  cases depth with
  | zero => rfl
  | succ depth => simp [cancel, h]

theorem cancelTask_of_isDone {c : CellId} (h : q.isDone c = true) : q.cancelTask c = q :=
  cancel_of_isDone q h 4

/-- Cancelling a pending task that waits for nothing marks it. -/
theorem cancelTask_of_idle {c : CellId} (h : q.isDone c = false) (ht : (q.cell c).point.isSome)
    (hw : (q.cell c).waitsFor = none) :
    q.cancelTask c = q.modifyCell c fun cell => { cell with cancelPending := true } := by
  simp [cancelTask, cancel, h, ht, hw]

/-- Cancelling a pending task whose cell has its result marks the task. -/
theorem cancelTask_of_woken {c w : CellId} (h : q.isDone c = false) (ht : (q.cell c).point.isSome)
    (hw : (q.cell c).waitsFor = some w) (hd : q.isDone w = true) :
    q.cancelTask c = q.modifyCell c fun cell => { cell with cancelPending := true } := by
  simp [cancelTask, cancel, h, ht, hw, hd]

/-- Cancelling a pending task that waits for a pending plain cell cancels that cell. -/
theorem cancelTask_of_waiting {c w : CellId} (h : q.isDone c = false) (ht : (q.cell c).point.isSome)
    (hw : (q.cell c).waitsFor = some w) (hd : q.isDone w = false) (hp : (q.cell w).point = none) :
    q.cancelTask c = q.finish w .cancelled := by
  simp [cancelTask, cancel, h, ht, hw, hd, hp]

/-- Cancelling changes results and marks, never where a task stands. -/
theorem point_finish (c : CellId) (o : Outcome) (d : CellId) :
    ((q.finish c o).cell d).point = (q.cell d).point := by
  cases h : q.isDone c
  · rw [cell_finish q h]; split <;> rfl
  · rw [finish_of_isDone o h]

theorem point_finish_all (cs : List CellId) (o : Outcome) (d : CellId) :
    ((cs.foldl (fun q c => q.finish c o) q).cell d).point = (q.cell d).point := by
  induction cs generalizing q with
  | nil => rfl
  | cons c cs ih => rw [List.foldl_cons, ih, point_finish]

theorem point_cancel (c : CellId) (depth : Nat) (d : CellId) :
    ((q.cancel c depth).cell d).point = (q.cell d).point := by
  induction depth generalizing q c with
  | zero => rfl
  | succ depth ih =>
    unfold cancel
    split
    · rfl
    · simp only []
      split
      · split
        · split
          · rw [cell_modifyCell]; split <;> rfl
          · split
            · exact ih _ _
            · exact point_finish _ _ _ _
        · rw [cell_modifyCell]; split <;> rfl
      · exact point_finish _ _ _ _

theorem point_cancelTask (c d : CellId) : ((q.cancelTask c).cell d).point = (q.cell d).point :=
  point_cancel q c 4 d

theorem size_cancel (c : CellId) (depth : Nat) : (q.cancel c depth).cells.size = q.cells.size := by
  induction depth generalizing q c with
  | zero => rfl
  | succ depth ih =>
    unfold cancel
    split
    · rfl
    · simp only []
      split
      · split
        · split
          · exact size_modifyCell _ _ _
          · split
            · exact ih _ _
            · exact size_finish _ _ _
        · exact size_modifyCell _ _ _
      · exact size_finish _ _ _

theorem size_cancelTask (c : CellId) : (q.cancelTask c).cells.size = q.cells.size :=
  size_cancel q c 4

/-! ## What a step of one task keeps -/

section Keeps

variable {t : CellId} {q₀ q₁ q₂ : RunQueue Point}

theorem lt_size_of_isSome {d : CellId} (h : (q.cell d).point.isSome) : d < q.cells.size := by
  rcases Nat.lt_or_ge d q.cells.size with hd | hd
  · exact hd
  · rw [q.cell_of_size_le hd] at h
    cases h

/-- What a step of the task `t` keeps of the queue it starts from: no cell is dropped and
no result taken back, and every other task keeps its result, its point, its wait and its mark. -/
structure Keeps (t : CellId) (q₀ q : RunQueue Point) : Prop where
  size : q₀.cells.size ≤ q.cells.size
  result : ∀ d o, (q₀.cell d).result = some o → (q.cell d).result = some o
  task_result : ∀ d, d ≠ t → (q₀.cell d).point.isSome → (q.cell d).result = (q₀.cell d).result
  point : ∀ d, d ≠ t → d < q₀.cells.size → (q.cell d).point = (q₀.cell d).point
  waitsFor : ∀ d, d ≠ t → (q.cell d).waitsFor = (q₀.cell d).waitsFor
  marked : ∀ d, d ≠ t → (q₀.cell d).cancelPending = true → (q.cell d).cancelPending = true

theorem Keeps.refl (t : CellId) (q : RunQueue Point) : Keeps t q q :=
  ⟨Nat.le_refl _, fun _ _ h => h, fun _ _ _ => rfl, fun _ _ _ => rfl, fun _ _ => rfl, fun _ _ h => h⟩

theorem Keeps.trans (h₁ : Keeps t q₀ q₁) (h₂ : Keeps t q₁ q₂) : Keeps t q₀ q₂ where
  size := Nat.le_trans h₁.size h₂.size
  result d o h := h₂.result d o (h₁.result d o h)
  task_result d hd ht := by
    have hd₀ := q₀.lt_size_of_isSome ht
    rw [h₂.task_result d hd (by rw [h₁.point d hd hd₀]; exact ht), h₁.task_result d hd ht]
  point d hd hs := (h₂.point d hd (Nat.lt_of_lt_of_le hs h₁.size)).trans (h₁.point d hd hs)
  waitsFor d hd := (h₂.waitsFor d hd).trans (h₁.waitsFor d hd)
  marked d hd h := h₂.marked d hd (h₁.marked d hd h)

/-- A change that keeps every cell's result, point, wait and mark keeps what a step keeps. -/
theorem Keeps.of_fields (hs : q₀.cells.size ≤ q₁.cells.size)
    (hres : ∀ d, (q₁.cell d).result = (q₀.cell d).result)
    (hpoint : ∀ d, (q₁.cell d).point = (q₀.cell d).point)
    (hwait : ∀ d, (q₁.cell d).waitsFor = (q₀.cell d).waitsFor)
    (hmark : ∀ d, (q₀.cell d).cancelPending = true → (q₁.cell d).cancelPending = true) :
    Keeps t q₀ q₁ :=
  ⟨hs, fun d _ h => (hres d).trans h, fun d _ _ => hres d, fun d _ _ => hpoint d,
    fun d _ => hwait d, fun d _ => hmark d⟩

theorem keeps_newCell : Keeps t q q.newCell.1 :=
  .of_fields (by simp) (by simp) (by simp) (by simp) (by simp)

/-- A new task takes a cell past the end of the queue. -/
theorem keeps_spawn (p : Point) : Keeps t q (q.spawn p).1 := by
  have hnew : q.cell q.cells.size = {} := q.cell_of_size_le (Nat.le_refl _)
  refine ⟨by simp, fun d o h => ?_, fun d _ ht => ?_, fun d _ hd => ?_, fun d _ => ?_, fun d _ h => ?_⟩
    <;> rw [cell_spawn] <;> split
  all_goals first
    | rfl
    | assumption
    | (subst_vars; rw [hnew] at *; contradiction)
    | (subst_vars; exact absurd hd (Nat.lt_irrefl _))
    | (subst_vars; rw [hnew])

theorem keeps_listen (c : CellId) (l : Listener) : Keeps t q (q.listen c l) := by
  have hcell := q.cell_listen c l
  exact .of_fields (Nat.le_of_eq (q.size_listen c l).symm) (fun d => by rw [hcell]; split <;> rfl)
    (fun d => by rw [hcell]; split <;> rfl) (fun d => by rw [hcell]; split <;> rfl)
    (fun d => by rw [hcell]; split <;> exact id)

/-- Changing a cell in a way that keeps its result, point and wait, and takes no mark away. -/
theorem keeps_modifyCell (g : CellId) {f : Cell Point → Cell Point}
    (hres : ∀ cell, (f cell).result = cell.result) (hpoint : ∀ cell, (f cell).point = cell.point)
    (hwait : ∀ cell, (f cell).waitsFor = cell.waitsFor)
    (hmark : ∀ cell, cell.cancelPending = true → (f cell).cancelPending = true) :
    Keeps t q (q.modifyCell g f) := by
  have hcell := q.cell_modifyCell g
  exact .of_fields (Nat.le_of_eq (q.size_modifyCell g f).symm) (fun d => by rw [hcell]; split <;> simp [hres])
    (fun d => by rw [hcell]; split <;> simp [hpoint]) (fun d => by rw [hcell]; split <;> simp [hwait])
    (fun d => by rw [hcell]; split <;> simp_all)

/-- Finishing the step's own task or a plain cell. -/
theorem keeps_finish {c : CellId} (hc : c = t ∨ (q.cell c).point = none) (o : Outcome) :
    Keeps t q (q.finish c o) := by
  cases hdone : q.isDone c
  case true => rw [finish_of_isDone o hdone]; exact .refl t q
  case false =>
    have hcell := q.cell_finish hdone o
    refine ⟨Nat.le_of_eq (q.size_finish c o).symm, fun d o' h => ?_, fun d hd ht => ?_, fun d _ _ => ?_, fun d _ => ?_,
      fun d _ h => ?_⟩ <;> rw [hcell] <;> split
    · rename_i hcd
      rw [← hcd.1] at h
      rw [isDone_def, h] at hdone
      cases hdone
    · exact h
    · rename_i hcd
      rcases hc with rfl | hc
      · exact absurd hcd.1.symm hd
      · rw [← hcd.1, hc] at ht
        cases ht
    · rfl
    all_goals first | rfl | exact h

/-- Cancelling marks tasks and cancels plain cells only, whichever task's step it is. -/
theorem keeps_cancel (c : CellId) (depth : Nat) : Keeps t q (q.cancel c depth) := by
  induction depth generalizing q c with
  | zero => exact .refl t q
  | succ depth ih =>
    have hmark : ∀ x, Keeps t q (q.modifyCell x fun cell => { cell with cancelPending := true }) :=
      fun x => keeps_modifyCell q x (fun _ => rfl) (fun _ => rfl) (fun _ => rfl) (fun _ _ => rfl)
    unfold cancel
    split
    · exact .refl t q
    · simp only []
      split
      · split
        · split
          · exact hmark c
          · split
            · exact ih _ _
            · exact keeps_finish q (.inr (by simp_all)) _
        · exact hmark c
      · exact keeps_finish q (.inr (by simp_all)) _

theorem keeps_cancelTask (c : CellId) : Keeps t q (q.cancelTask c) :=
  keeps_cancel q c 4

end Keeps

/-! ## Taking the first entry -/

theorem pop?_eq_some {q : RunQueue Point} {e : Wake} {q' : RunQueue Point}
    (h : q.pop? = some (e, q')) : q.ready = e :: q'.ready ∧ q'.cells = q.cells := by
  unfold pop? at h
  split at h
  · contradiction
  · injection h with h
    injection h with he hq
    subst he hq
    simp_all

theorem pop?_of_ready {q : RunQueue Point} {e : Wake} {rest : List Wake} (h : q.ready = e :: rest) :
    q.pop? = some (e, { q with ready := rest }) := by
  simp [pop?, h]

/-! ## Named cells -/

theorem names_enqueue (e : Wake) (d : CellId) : (q.enqueue e).Names d ↔ q.Names d ∨ d ∈ e.cells := by
  simp only [Names, ready_enqueue, cell_enqueue, List.mem_append, List.mem_singleton]
  grind

@[simp] theorem names_newCell (d : CellId) : q.newCell.1.Names d ↔ q.Names d := by
  simp [Names]

theorem names_spawn (p : Point) (d : CellId) :
    (q.spawn p).1.Names d ↔ q.Names d ∨ d = q.cells.size := by
  have hempty : q.cell q.cells.size = {} := cell_of_size_le q (Nat.le_refl _)
  simp only [Names, ready_spawn, cell_spawn, List.mem_append, List.mem_singleton]
  constructor
  · rintro (⟨e, he | rfl, hd⟩ | ⟨c, l, hl, hd⟩ | ⟨c, hc⟩)
    · exact .inl (.inl ⟨e, he, hd⟩)
    · exact .inr (by simpa using hd)
    · split at hl
      · simp at hl
      · exact .inl (.inr (.inl ⟨c, l, hl, hd⟩))
    · split at hc
      · simp at hc
      · exact .inl (.inr (.inr ⟨c, hc⟩))
  · rintro ((⟨e, he, hd⟩ | ⟨c, l, hl, hd⟩ | ⟨c, hc⟩) | rfl)
    · exact .inl ⟨e, .inl he, hd⟩
    · refine .inr (.inl ⟨c, l, ?_, hd⟩)
      split
      · subst_vars
        simp [hempty] at hl
      · exact hl
    · refine .inr (.inr ⟨c, ?_⟩)
      split
      · subst_vars
        simp [hempty] at hc
      · exact hc
    · exact .inl ⟨_, .inr rfl, by simp⟩

/-- A change of a cell that keeps its listeners and waits for nothing new names nothing new. -/
theorem names_modifyCell (c : CellId) (f : Cell Point → Cell Point)
    (hl : ∀ cell, (f cell).listeners = cell.listeners)
    (hw : ∀ cell d, (f cell).waitsFor = some d → cell.waitsFor = some d) {d : CellId}
    (h : (q.modifyCell c f).Names d) : q.Names d := by
  simp only [Names, ready_modifyCell, cell_modifyCell] at h ⊢
  rcases h with he | ⟨c', l, hl', hd⟩ | ⟨c', hc⟩
  · exact .inl he
  · refine .inr (.inl ⟨c', l, ?_, hd⟩)
    split at hl'
    · rename_i hcc
      obtain ⟨rfl, -⟩ := hcc
      rwa [hl] at hl'
    · exact hl'
  · refine .inr (.inr ⟨c', ?_⟩)
    split at hc
    · rename_i hcc
      obtain ⟨rfl, -⟩ := hcc
      exact hw _ _ hc
    · exact hc

/-- A task set to wait for `x` names `x` and nothing else new. -/
theorem names_modifyCell_wait (c : CellId) {x : CellId} (f : Cell Point → Cell Point)
    (hl : ∀ cell, (f cell).listeners = cell.listeners) (hw : ∀ cell, (f cell).waitsFor = some x)
    {d : CellId} (h : (q.modifyCell c f).Names d) : q.Names d ∨ d = x := by
  simp only [Names, ready_modifyCell, cell_modifyCell] at h ⊢
  rcases h with he | ⟨c', l, hl', hd⟩ | ⟨c', hc⟩
  · exact .inl (.inl he)
  · refine .inl (.inr (.inl ⟨c', l, ?_, hd⟩))
    split at hl'
    · rename_i hcc
      obtain ⟨rfl, -⟩ := hcc
      rwa [hl] at hl'
    · exact hl'
  · split at hc
    · rw [hw] at hc
      exact .inr (Option.some.inj hc).symm
    · exact .inl (.inr (.inr ⟨c', hc⟩))

/-- Finishing a cell names it, and otherwise only what was named. -/
theorem names_finish (c : CellId) (o : Outcome) {d : CellId} (h : (q.finish c o).Names d) :
    q.Names d ∨ d = c := by
  cases hc : q.isDone c
  case true => rw [finish_of_isDone o hc] at h; exact .inl h
  case false =>
    simp only [Names, ready_finish q hc, cell_finish q hc, List.mem_append, List.mem_map] at h
    rcases h with ⟨e, he | ⟨l, hl, rfl⟩, hd⟩ | ⟨c', l, hl', hd⟩ | ⟨c', hw⟩
    · exact .inl (.inl ⟨e, he, hd⟩)
    · simp only [Wake.mem_cells_notify] at hd
      rcases hd with rfl | rfl
      · exact .inl (.inr (.inl ⟨c, l, hl, rfl⟩))
      · exact .inr rfl
    · split at hl'
      · simp at hl'
      · exact .inl (.inr (.inl ⟨c', l, hl', hd⟩))
    · split at hw
      · rename_i hcc
        obtain ⟨rfl, -⟩ := hcc
        exact .inl (.inr (.inr ⟨_, hw⟩))
      · exact .inl (.inr (.inr ⟨c', hw⟩))

/-- Registering a listener names its cell and the cell it listens to. -/
theorem names_listen (c : CellId) (l : Listener) {d : CellId} (h : (q.listen c l).Names d) :
    q.Names d ∨ d = l.cell ∨ d = c := by
  cases hc : q.isDone c
  · rw [listen_of_pending q hc] at h
    simp only [Names, ready_modifyCell, cell_modifyCell] at h
    rcases h with he | ⟨c', l', hl', hd⟩ | ⟨c', hw⟩
    · exact .inl (.inl he)
    · split at hl'
      · rename_i hcc
        obtain ⟨rfl, -⟩ := hcc
        simp only [List.mem_append, List.mem_singleton] at hl'
        rcases hl' with hl' | rfl
        · exact .inl (.inr (.inl ⟨_, l', hl', hd⟩))
        · exact .inr (.inl hd.symm)
      · exact .inl (.inr (.inl ⟨c', l', hl', hd⟩))
    · split at hw
      · rename_i hcc
        obtain ⟨rfl, -⟩ := hcc
        exact .inl (.inr (.inr ⟨_, hw⟩))
      · exact .inl (.inr (.inr ⟨c', hw⟩))
  · rw [listen_of_isDone q hc, names_enqueue] at h
    rcases h with h | h
    · exact .inl h
    · simp only [Wake.mem_cells_notify] at h
      exact .inr h

/-- Taking the first entry off the queue names nothing new. -/
theorem names_of_pop? {e : Wake} {q' : RunQueue Point} (hp : q.pop? = some (e, q')) {d : CellId}
    (h : q'.Names d) : q.Names d := by
  obtain ⟨hr, hc⟩ := pop?_eq_some hp
  have hcell : ∀ c, q'.cell c = q.cell c := fun c => by simp [cell, hc]
  simp only [Names, hcell, hr, List.mem_cons] at h ⊢
  rcases h with ⟨e', he', hd⟩ | h
  · exact .inl ⟨e', .inr he', hd⟩
  · exact .inr h

/-! ## Registered listeners -/

theorem registered_enqueue (w : Wake) (l : Listener) (src : CellId) :
    (q.enqueue w).Registered l src ↔ q.Registered l src ∨ w = .notify l src := by
  simp only [Registered, cell_enqueue, ready_enqueue, List.mem_append, List.mem_singleton]
  constructor
  · rintro (h | h | h)
    · exact .inl (.inl h)
    · exact .inl (.inr h)
    · exact .inr h.symm
  · rintro ((h | h) | h)
    · exact .inl h
    · exact .inr (.inl h)
    · exact .inr (.inr h.symm)

@[simp] theorem registered_newCell (l : Listener) (src : CellId) :
    q.newCell.1.Registered l src ↔ q.Registered l src := by
  simp [Registered]

@[simp] theorem registered_spawn (p : Point) (l : Listener) (src : CellId) :
    (q.spawn p).1.Registered l src ↔ q.Registered l src := by
  simp only [Registered, cell_spawn, ready_spawn, List.mem_append, List.mem_singleton, reduceCtorEq,
    or_false]
  by_cases hs : src = q.cells.size
  · subst hs
    simp [cell_of_size_le q (Nat.le_refl _)]
  · simp [hs]

/-- A change of a cell that keeps its listeners keeps the registered ones. -/
theorem registered_modifyCell (c : CellId) (f : Cell Point → Cell Point)
    (hf : ∀ cell, (f cell).listeners = cell.listeners) (l : Listener) (src : CellId) :
    (q.modifyCell c f).Registered l src ↔ q.Registered l src := by
  simp only [Registered, ready_modifyCell, cell_modifyCell]
  split
  · rename_i hcs
    obtain ⟨rfl, -⟩ := hcs
    rw [hf]
  · exact Iff.rfl

/-- Finishing a cell moves its listeners to the queue: the registered ones stay. -/
theorem registered_finish (c : CellId) (o : Outcome) (l : Listener) (src : CellId) :
    (q.finish c o).Registered l src ↔ q.Registered l src := by
  cases h : q.isDone c
  case true => rw [finish_of_isDone o h]
  case false =>
    simp only [Registered, ready_finish q h, cell_finish q h, List.mem_append, List.mem_map]
    constructor
    · rintro (hl | hs | ⟨l', hl', he⟩)
      · split at hl
        · simp at hl
        · exact .inl hl
      · exact .inr hs
      · injection he with hl hs
        subst hl hs
        exact .inl hl'
    · rintro (hl | hs)
      · by_cases hcs : c = src
        · subst hcs
          exact .inr (.inr ⟨l, hl, rfl⟩)
        · exact .inl (by simpa [hcs] using hl)
      · exact .inr (.inl hs)

/-- Registering a listener on a cell in bounds adds exactly that listener. -/
theorem registered_listen {c : CellId} (hc : c < q.cells.size) (l l' : Listener) (src : CellId) :
    (q.listen c l).Registered l' src ↔ q.Registered l' src ∨ (l' = l ∧ src = c) := by
  cases h : q.isDone c
  · rw [listen_of_pending q h]
    simp only [Registered, ready_modifyCell, cell_modifyCell]
    by_cases hcs : c = src
    · subst hcs
      simp only [hc, and_self, if_true, List.mem_append, List.mem_singleton, and_true]
      grind
    · simp only [hcs, false_and, if_false]
      grind
  · rw [listen_of_isDone q h, registered_enqueue]
    simp only [Wake.notify.injEq]
    grind

end RunQueue

end CompletionClient.Service
