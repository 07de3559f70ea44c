import CompletionClient.Proofs.Service.Roles
/-!
# What a step keeps of the cells it found

A task's step works on the cells that were there when it began and on cells it
makes itself.  `World.Frame n L w w'` says what a change keeps of the cells
below `n`, the ones there before the step: a result, once given, stays; a
pending cell gets no result but a cancellation; every registered listener stays
registered; no relay and no other feeder is added for such a cell; no server
is lost and a server that started stays started; and the current server stays
or goes, or, where `L` holds, as it does for a launch's first step, becomes a
server made by the change.  Of the cells from `n` on it keeps what
`World.FreshFed` says: each is fed in one role and relayed to from one launch
only, and while a relay to it is registered holds nothing, a cancellation or
what the launch holds (`RunQueue.Echoes`).

A frame is what each action of a step keeps, so it composes (`Frame.trans`):
a run-queue change that only cancels (`RunQueue.OnlyCancels`, which covers
cancelling a task, `Frame.of_cells`), a new cell or task, a change of the
service's other state, and a new listener on a cell whose relay or feeding is
new (`Frame.listen`).
-/

namespace CompletionClient.Service

namespace RunQueue

variable {Point : Type} {q q' q'' : RunQueue Point}

/-- A change of the run queue that only cancels: each cell keeps its result or, pending, gets a
cancellation, and the same listeners are registered. -/
structure OnlyCancels (q q' : RunQueue Point) : Prop where
  result : ∀ d, (q'.cell d).result = (q.cell d).result ∨
    ((q.cell d).result = none ∧ (q'.cell d).result = some .cancelled)
  registered : ∀ l src, q'.Registered l src ↔ q.Registered l src

/-- The cell `c` holds nothing, a cancellation, or what `src` holds: what a relay from `src` may
have left in it. -/
def Echoes (q : RunQueue Point) (c src : CellId) : Prop :=
  (q.cell c).result = none ∨ (q.cell c).result = some .cancelled ∨
    (q.cell c).result = (q.cell src).result

/-- Echoing survives a change that keeps every result and gives a pending `c` no result but a
cancellation. -/
theorem Echoes.of_results {c src : CellId} (h : q.Echoes c src)
    (hres : ∀ d o, (q.cell d).result = some o → (q'.cell d).result = some o)
    (hcan : ∀ o, (q.cell c).result = none → (q'.cell c).result = some o → o = .cancelled) :
    q'.Echoes c src := by
  unfold Echoes
  cases hc : (q.cell c).result with
  | none =>
    cases hc' : (q'.cell c).result with
    | none => exact .inl rfl
    | some o => exact .inr (.inl (by rw [hcan o hc hc']))
  | some o =>
    rcases h with hn | hcan' | hsrc
    · rw [hc] at hn
      cases hn
    · rw [hc] at hcan'
      exact .inr (.inl (by rw [hres c o hc, hcan']))
    · -- the launch had given `c` its result, and both stay
      rw [hc] at hsrc
      exact .inr (.inr (by rw [hres c o hc, hres src o hsrc.symm]))

theorem OnlyCancels.refl (q : RunQueue Point) : OnlyCancels q q :=
  ⟨fun _ => .inl rfl, fun _ _ => Iff.rfl⟩

theorem OnlyCancels.trans (h₁ : OnlyCancels q q') (h₂ : OnlyCancels q' q'') : OnlyCancels q q'' where
  result d := by
    rcases h₂.result d with h₂d | ⟨hn, hc⟩
    · rw [h₂d]
      exact h₁.result d
    · -- a cell cancelled by the second change was pending after the first, so before it too
      rcases h₁.result d with h₁d | ⟨-, h₁c⟩
      · exact .inr ⟨h₁d ▸ hn, hc⟩
      · rw [h₁c] at hn
        cases hn
  registered l src := (h₂.registered l src).trans (h₁.registered l src)

theorem OnlyCancels.echoes (hq : OnlyCancels q q') {c src : CellId} (h : q.Echoes c src) :
    q'.Echoes c src := by
  refine h.of_results (fun d o ho => ?_) fun o hn ho => ?_
  · rcases hq.result d with h' | ⟨h', -⟩
    · rw [h']; exact ho
    · rw [h'] at ho; cases ho
  · rcases hq.result c with h' | ⟨-, h'⟩
    · rw [h', hn] at ho; cases ho
    · rw [h'] at ho; exact (Option.some.inj ho).symm

/-- A change of one cell that keeps its result and its listeners only cancels. -/
theorem onlyCancels_modifyCell (c : CellId) {f : Cell Point → Cell Point}
    (hf : ∀ cell, (f cell).result = cell.result ∧ (f cell).listeners = cell.listeners) :
    OnlyCancels q (q.modifyCell c f) where
  result d := by
    rw [cell_modifyCell]
    split
    · exact .inl (hf _).1
    · exact .inl rfl
  registered := registered_modifyCell q c f fun cell => (hf cell).2

theorem onlyCancels_newCell : OnlyCancels q q.newCell.1 :=
  ⟨fun d => .inl (by rw [cell_newCell]), fun l src => registered_newCell q l src⟩

theorem onlyCancels_spawn (p : Point) : OnlyCancels q (q.spawn p).1 where
  result d := by
    rw [cell_spawn]
    split
    · -- the new task is pending, as the cell past the end was
      rename_i hd
      rw [hd, cell_of_size_le _ (Nat.le_refl _)]
      exact .inl rfl
    · exact .inl rfl
  registered l src := registered_spawn q p l src

/-- Cancelling a cell only cancels. -/
theorem onlyCancels_finish (c : CellId) : OnlyCancels q (q.finish c .cancelled) := by
  cases h : q.isDone c
  case true =>
    rw [finish_of_isDone .cancelled h]
    exact .refl q
  case false =>
    refine ⟨fun d => ?_, registered_finish q c .cancelled⟩
    rw [cell_finish q h]
    split
    · rename_i hcd
      obtain ⟨rfl, -⟩ := hcd
      have hpend : (q.cell c).result = none := by simpa [isDone_def] using h
      exact .inr ⟨hpend, rfl⟩
    · exact .inl rfl

/-- Cancelling a task, through the tasks it waits for, only cancels. -/
theorem onlyCancels_cancel (c : CellId) (depth : Nat) : OnlyCancels q (q.cancel c depth) := by
  induction depth generalizing q c with
  | zero => exact .refl q
  | succ depth ih =>
    unfold cancel
    split
    · exact .refl q
    · simp only []
      split
      · split
        · split
          · exact onlyCancels_modifyCell c fun _ => ⟨rfl, rfl⟩
          · split
            · exact ih _
            · exact onlyCancels_finish _
        · exact onlyCancels_modifyCell c fun _ => ⟨rfl, rfl⟩
      · exact onlyCancels_finish c

theorem onlyCancels_cancelTask (c : CellId) : OnlyCancels q (q.cancelTask c) :=
  onlyCancels_cancel c 4

end RunQueue

namespace World

variable {w w' w'' : World} {n : Nat} {L : Prop}

/-- The cells from `n` on, made by the step under way, are fed in one role each and relayed to
from one launch each, and echo that launch while a relay to them is registered. -/
structure FreshFed (n : Nat) (w : World) : Prop where
  /-- A new cell is fed in one role. -/
  role : ∀ c r r', n ≤ c → w.Feeds c r → w.Feeds c r' → r = r'
  /-- A new cell is relayed to from one launch. -/
  source : ∀ c src src', n ≤ c → w.queue.Registered (.relay c) src →
    w.queue.Registered (.relay c) src' → src = src'
  /-- A new cell that a relay feeds echoes the relay's launch. -/
  held : ∀ c src, n ≤ c → w.queue.Registered (.relay c) src → w.queue.Echoes c src

/-- What a change that is part of a step keeps, with the cells below `n` made before the step
and `L` the leave of a launch's first step to make a new server current. -/
structure Frame (n : Nat) (L : Prop) (w w' : World) : Prop where
  /-- A result stays. -/
  result : ∀ c o, (w.queue.cell c).result = some o → (w'.queue.cell c).result = some o
  /-- A pending cell gets no result but a cancellation. -/
  cancels : ∀ c o, w.Pending c → (w'.queue.cell c).result = some o → o = .cancelled
  /-- A registered listener stays registered. -/
  registered : ∀ l src, w.queue.Registered l src → w'.queue.Registered l src
  /-- No relay is added for an old cell. -/
  relays : ∀ c src, c < n → w'.queue.Registered (.relay c) src → w.queue.Registered (.relay c) src
  /-- No feeder is added for an old cell. -/
  feeds : ∀ c r, c < n → w'.Feeds c r → w.Feeds c r
  /-- The new cells stay fed in one role. -/
  fresh : w.FreshFed n → w'.FreshFed n
  /-- No server is lost. -/
  servers_size : w.servers.size ≤ w'.servers.size
  /-- A started server stays started. -/
  started : ∀ s, (w.servers.getD s default).started = true → (w'.servers.getD s default).started = true
  /-- The current server stays or goes, or, if `L`, becomes one the change made. -/
  server : w'.life.server = w.life.server ∨ w'.life.server = none ∨
    (L ∧ ∃ s, w'.life.server = some s ∧ w.servers.size ≤ s)

theorem Frame.refl (n : Nat) (L : Prop) (w : World) : Frame n L w w where
  result _ _ h := h
  cancels _ _ hp ho := by rw [Pending] at hp; rw [hp] at ho; cases ho
  registered _ _ h := h
  relays _ _ _ h := h
  feeds _ _ _ h := h
  fresh h := h
  servers_size := Nat.le_refl _
  started _ h := h
  server := .inl rfl

theorem Frame.trans (h₁ : Frame n L w w') (h₂ : Frame n L w' w'') : Frame n L w w'' where
  result c o ho := h₂.result c o (h₁.result c o ho)
  cancels c o hp ho := by
    cases hmid : (w'.queue.cell c).result with
    | none => exact h₂.cancels c o hmid ho
    | some o' =>
      -- what the first change gave is a cancellation, and it stays
      have hc := h₁.cancels c o' hp hmid
      rw [h₂.result c o' hmid] at ho
      exact (Option.some.inj ho) ▸ hc
  registered l src h := h₂.registered l src (h₁.registered l src h)
  relays c src hc h := h₁.relays c src hc (h₂.relays c src hc h)
  feeds c r hc h := h₁.feeds c r hc (h₂.feeds c r hc h)
  fresh h := h₂.fresh (h₁.fresh h)
  servers_size := Nat.le_trans h₁.servers_size h₂.servers_size
  started s h := h₂.started s (h₁.started s h)
  server := by
    rcases h₂.server with h | h | ⟨hL, s, hs, hle⟩
    · rw [h]
      exact h₁.server
    · exact .inr (.inl h)
    · exact .inr (.inr ⟨hL, s, hs, Nat.le_trans h₁.servers_size hle⟩)

/-- A change that only cancels, feeds no old cell, feeds each new cell it feeds in one role,
keeps every server and every started server started, and the current server or none. -/
theorem Frame.of_cells (hq : RunQueue.OnlyCancels w.queue w'.queue)
    (hfeeds : ∀ c r, w'.Feeds c r → w.Feeds c r ∨ (n ≤ c ∧ ∀ r', w'.Feeds c r' → r' = r))
    (hsize : w.servers.size ≤ w'.servers.size)
    (hstarted : ∀ s, (w.servers.getD s default).started = true →
      (w'.servers.getD s default).started = true)
    (hserver : w'.life.server = w.life.server ∨ w'.life.server = none ∨
      (L ∧ ∃ s, w'.life.server = some s ∧ w.servers.size ≤ s)) : Frame n L w w' where
  result c o ho := by
    rcases hq.result c with h | ⟨h, -⟩
    · rw [h]; exact ho
    · rw [h] at ho; cases ho
  cancels c o hp ho := by
    rcases hq.result c with h | ⟨-, h⟩
    · rw [h, hp] at ho; cases ho
    · rw [h] at ho; exact (Option.some.inj ho).symm
  registered l src h := (hq.registered l src).2 h
  relays c src _ h := (hq.registered _ src).1 h
  feeds c r hc h := (hfeeds c r h).resolve_right fun hn => absurd hc (Nat.not_lt_of_le hn.1)
  fresh hF := by
    refine ⟨fun c r r' hc hr hr' => ?_, fun c src src' hc h h' =>
      hF.source c src src' hc ((hq.registered _ src).1 h) ((hq.registered _ src').1 h'),
      fun c src hc h => ?_⟩
    · rcases hfeeds c r hr with hr₀ | ⟨-, hall⟩
      · rcases hfeeds c r' hr' with hr₀' | ⟨-, hall'⟩
        · exact hF.role c r r' hc hr₀ hr₀'
        · exact hall' r hr
      · exact (hall r' hr').symm
    · exact hq.echoes (hF.held c src hc ((hq.registered _ src).1 h))
  servers_size := hsize
  started := hstarted
  server := hserver

/-- A change of the service's state that keeps its cells and listeners but not its gates or
servers. -/
theorem Frame.of_queue (hq : w'.queue = w.queue)
    (hreply : ∀ c, w'.replyGates.Holds c → w.replyGates.Holds c)
    (hstart : ∀ c, w'.startGates.Holds c → w.startGates.Holds c)
    (hsize : w.servers.size ≤ w'.servers.size)
    (hstarted : ∀ s, (w.servers.getD s default).started = true →
      (w'.servers.getD s default).started = true)
    (hserver : w'.life.server = w.life.server ∨ w'.life.server = none ∨
      (L ∧ ∃ s, w'.life.server = some s ∧ w.servers.size ≤ s)) : Frame n L w w' := by
  refine .of_cells (by rw [hq]; exact .refl _) (fun c r hf => .inl ?_) hsize hstarted hserver
  rcases hf with ⟨hr, hl⟩ | ⟨hg⟩ | ⟨hg⟩
  · rw [hq] at hr
    exact .listener hr hl
  · exact .replyGate (hreply c hg)
  · exact .startGate (hstart c hg)

/-- A step that leaves the cells, the gates and the servers as they were. -/
theorem Frame.of_state (hq : w'.queue = w.queue) (hreply : w'.replyGates = w.replyGates)
    (hstart : w'.startGates = w.startGates) (hservers : w'.servers = w.servers)
    (hserver : w'.life.server = w.life.server ∨ w'.life.server = none) : Frame n L w w' :=
  .of_queue hq (fun c hc => by rwa [hreply] at hc) (fun c hc => by rwa [hstart] at hc)
    (Nat.le_of_eq (by rw [hservers])) (fun s hs => by rwa [hservers]) (hserver.imp_right .inl)

/-- A change of the run queue alone that only cancels. -/
theorem Frame.onlyCancels {q : RunQueue Point} (hq : RunQueue.OnlyCancels w.queue q) :
    Frame n L w { w with queue := q } := by
  refine .of_cells hq (fun c r hf => .inl ?_) (Nat.le_refl _) (fun _ h => h) (.inl rfl)
  rcases hf with ⟨hr, hl⟩ | ⟨hg⟩ | ⟨hg⟩
  · exact .listener ((hq.registered _ _).1 hr) hl
  · exact .replyGate hg
  · exact .startGate hg

theorem frame_cancelTask (x : CellId) : Frame n L w { w with queue := w.queue.cancelTask x } :=
  .onlyCancels (RunQueue.onlyCancels_cancelTask x)

theorem frame_newCell : Frame n L w { w with queue := w.queue.newCell.1 } :=
  .onlyCancels RunQueue.onlyCancels_newCell

theorem frame_spawn (p : Point) : Frame n L w { w with queue := (w.queue.spawn p).1 } :=
  .onlyCancels (RunQueue.onlyCancels_spawn p)

/-- A listener on a cell in bounds: a feeder only of a new cell, none of whose feeders is of
another role, and a relay only to a pending cell that no relay feeds yet. -/
theorem Frame.listen {c : CellId} {l : Listener} (hc : c < w.queue.cells.size)
    (hfeed : ∀ x r, l.feed = some (x, r) → n ≤ x ∧ ∀ r', w.Feeds x r' → r' = r)
    (hrelay : ∀ x, l = .relay x → (∀ src', ¬ w.queue.Registered (.relay x) src') ∧ w.Pending x) :
    Frame n L w { w with queue := w.queue.listen c l } := by
  have hcell := w.queue.cell_listen c l
  have hres : ∀ d, ((w.queue.listen c l).cell d).result = (w.queue.cell d).result := fun d => by
    rw [hcell]; split <;> rfl
  have hreg := RunQueue.registered_listen w.queue hc l
  -- a feeding after the listener is one from before, or the listener's own
  have hfeeds : ∀ x r, ({ w with queue := w.queue.listen c l } : World).Feeds x r →
      w.Feeds x r ∨ l.feed = some (x, r) := by
    intro x r hf
    rcases hf with ⟨hr, hl⟩ | ⟨hg⟩ | ⟨hg⟩
    · rename_i l' src
      rcases (hreg l' src).1 hr with hr | ⟨rfl, -⟩
      · exact .inl (.listener hr hl)
      · exact .inr hl
    · exact .inl (.replyGate hg)
    · exact .inl (.startGate hg)
  have hcancels : ∀ d o, w.Pending d → ((w.queue.listen c l).cell d).result = some o →
      o = .cancelled := by
    intro d o hp ho
    rw [hres, hp] at ho
    cases ho
  refine ⟨fun d o ho => (hres d).trans ho, hcancels, fun l' src h => (hreg l' src).2 (.inl h),
    fun x src hx h => ?_, fun x r hx hf => ?_, fun hF => ?_, Nat.le_refl _, fun _ h => h, .inl rfl⟩
  · rcases (hreg _ src).1 h with h | ⟨rfl, -⟩
    · exact h
    · exact absurd (hfeed x .shield rfl).1 (Nat.not_le_of_lt hx)
  · rcases hfeeds x r hf with h | h
    · exact h
    · exact absurd (hfeed x r h).1 (Nat.not_le_of_lt hx)
  · refine ⟨fun x r r' hx hr hr' => ?_, fun x src src' hx h h' => ?_, fun x src hx h => ?_⟩
    · rcases hfeeds x r hr with hr | hr <;> rcases hfeeds x r' hr' with hr' | hr'
      · exact hF.role x r r' hx hr hr'
      · exact ((hfeed x r' hr').2 r hr)
      · exact ((hfeed x r hr).2 r' hr').symm
      · rw [hr] at hr'
        injection hr' with hr'
        exact (Prod.mk.inj hr').2
    · rcases (hreg _ src).1 h with hold | ⟨hl, hsrc⟩ <;>
        rcases (hreg _ src').1 h' with hold' | ⟨hl', hsrc'⟩
      · exact hF.source x src src' hx hold hold'
      · exact absurd hold ((hrelay x hl'.symm).1 src)
      · exact absurd hold' ((hrelay x hl.symm).1 src')
      · rw [hsrc, hsrc']
    · show (w.queue.listen c l).Echoes x src
      rw [RunQueue.Echoes, hres, hres]
      rcases (hreg _ src).1 h with h | ⟨hl, -⟩
      · exact hF.held x src hx h
      · exact .inl (hrelay x hl.symm).2

end World

end CompletionClient.Service
