import CompletionClient.DocumentPool
import Mathlib.Data.List.Basic
import Mathlib.Data.List.Find
import Mathlib.Data.List.Nodup
/-!
# The document pool is an insertion-ordered map

The pool keeps its documents in a list.  What the editor can observe of it is
an *insertion-ordered map* (`OrderedMap`): the keys in the order they were
first inserted, and a value for each key.  Storing under a present key keeps
its place, storing under a new key puts it last, erasing drops it, and the
values of all keys but one are listed in key order.

Every operation that names a document (`PoolOp`) first turns the locator it is
given into a key with `Locator.toPath`; if that fails, the operation answers
with the fault and changes nothing.  `DocumentPool.perform` runs an operation
on the pool, `OrderedMap.perform` on the map, and `PoolOp.run` runs a list of
them from a start.

Main statement: from a new pool, every list of operations gives the same
answers on the pool and on the empty map, and leaves a pool whose map is the
map the operations leave (`DocumentPool.run_refines`).  The proof is a
simulation: the pool's map (`DocumentPool.toMap`) is the key list of its
documents with `DocumentPool.find?` as values, and while no two documents
share a path (`DocumentPool.Keyed`) each operation on the pool is the same
operation on its map (`DocumentPool.perform_refines`).
-/

namespace CompletionClient

/-- A finite map that remembers the order in which its keys were first inserted. -/
structure OrderedMap (κ ν : Type) where
  /-- The keys, oldest first. -/
  keys : List κ
  /-- The value of each key. -/
  value : κ → Option ν

namespace OrderedMap

variable {κ ν : Type} [DecidableEq κ]

/-- The map without keys. -/
def empty : OrderedMap κ ν := ⟨[], fun _ => none⟩

/-- Sets the value of a key: a present key keeps its place, a new one goes last. -/
def set (m : OrderedMap κ ν) (k : κ) (v : ν) : OrderedMap κ ν :=
  ⟨if k ∈ m.keys then m.keys else m.keys ++ [k], fun k' => if k' = k then some v else m.value k'⟩

/-- Drops a key, if it is present. -/
def erase (m : OrderedMap κ ν) (k : κ) : OrderedMap κ ν :=
  ⟨m.keys.erase k, fun k' => if k' = k then none else m.value k'⟩

/-- The values of all keys but one, in the order of the keys. -/
def valuesExcept (m : OrderedMap κ ν) (k : κ) : List ν :=
  (m.keys.filter (· ≠ k)).filterMap m.value

end OrderedMap

/-- An operation on the open documents. -/
inductive PoolOp where
  /-- Open the document a locator names, with a relative path and a text. -/
  | openDocument (url : Locator) (relativePath content : Value)
  /-- Update the document a locator names, opening it if it is not open. -/
  | updateDocument (url : Locator) (relativePath content : Value)
  /-- Close the document a locator names. -/
  | closeDocument (url : Locator)
  /-- The document a locator names. -/
  | getDocument (url : Locator)
  /-- The documents other than the one a locator names. -/
  | otherDocuments (url : Locator)
  /-- The number of documents. -/
  | size
  /-- Whether the document a value names is open. -/
  | contains (url : Locator)

/-- What an operation on the open documents answers. -/
inductive PoolAnswer where
  /-- A change was made. -/
  | done
  /-- A document, if there is one. -/
  | document (d : Option Document)
  /-- Documents, in order. -/
  | documents (ds : List Document)
  /-- A number of documents. -/
  | count (n : Nat)
  /-- A truth value. -/
  | holds (b : Bool)

namespace PoolOp

/-- Runs operations one after the other from a start, with a way to perform one: the answers,
and the end. -/
def run {σ : Type} (perform : σ → PoolOp → σ × Except Fault PoolAnswer) (s : σ) :
    List PoolOp → List (Except Fault PoolAnswer) × σ
  | [] => ([], s)
  | op :: ops =>
    let (s', a) := perform s op
    let (as, e) := run perform s' ops
    (a :: as, e)

/-- Runs that perform each operation alike from related starts answer alike and end related:
the simulation of one run by another, from the simulation of one operation. -/
theorem run_simulates {σ τ : Type} {perform₁ : σ → PoolOp → σ × Except Fault PoolAnswer}
    {perform₂ : τ → PoolOp → τ × Except Fault PoolAnswer} (R : σ → τ → Prop)
    (hstep : ∀ s t op, R s t →
      R (perform₁ s op).1 (perform₂ t op).1 ∧ (perform₁ s op).2 = (perform₂ t op).2) :
    ∀ (ops : List PoolOp) {s : σ} {t : τ}, R s t →
      (run perform₁ s ops).1 = (run perform₂ t ops).1 ∧ R (run perform₁ s ops).2 (run perform₂ t ops).2
  | [], _, _, h => ⟨rfl, h⟩
  | op :: ops, s, t, h => by
    obtain ⟨hR, ha⟩ := hstep s t op h
    obtain ⟨has, hend⟩ := run_simulates R hstep ops hR
    simp only [run]
    exact ⟨by rw [ha, has], hend⟩

end PoolOp

namespace OrderedMap

/-- An operation on a map of documents keyed by their paths: the key is the path that the
locator names, and an operation whose locator names none answers with that fault and changes
nothing.  Storing puts the document of that path under its key. -/
def perform (m : OrderedMap String Document) : PoolOp → OrderedMap String Document × Except Fault PoolAnswer
  | .openDocument url rel content | .updateDocument url rel content =>
    match url.toPath with
    | .ok k => (m.set k ⟨k, rel, content⟩, .ok .done)
    | .error f => (m, .error f)
  | .closeDocument url =>
    match url.toPath with
    | .ok k => (m.erase k, .ok .done)
    | .error f => (m, .error f)
  | .getDocument url => (m, url.toPath.map fun k => .document (m.value k))
  | .otherDocuments url => (m, url.toPath.map fun k => .documents (m.valuesExcept k))
  | .size => (m, .ok (.count m.keys.length))
  | .contains url =>
    match url with
    | .other _ => (m, .ok (.holds false))
    | url => (m, url.toPath.map fun k => .holds (decide (k ∈ m.keys)))

end OrderedMap

namespace DocumentPool

/-- An operation on the pool; a failed one leaves the pool as it was. -/
def perform (pool : DocumentPool) : PoolOp → DocumentPool × Except Fault PoolAnswer
  | .openDocument url rel content | .updateDocument url rel content =>
    match pool.openAt url rel content with
    | .ok p => (p, .ok .done)
    | .error f => (pool, .error f)
  | .closeDocument url =>
    match pool.closeAt url with
    | .ok p => (p, .ok .done)
    | .error f => (pool, .error f)
  | .getDocument url => (pool, (pool.findAt url).map .document)
  | .otherDocuments url => (pool, (pool.othersAt url).map .documents)
  | .size => (pool, .ok (.count pool.size))
  | .contains url => (pool, (pool.containsAt url).map .holds)

/-- The map a pool stands for: the paths of its documents in order, and the document found
under each path. -/
def toMap (pool : DocumentPool) : OrderedMap String Document :=
  ⟨pool.documents.map (·.path), pool.find?⟩

/-- No two documents of the pool share a path. -/
def Keyed (pool : DocumentPool) : Prop := (pool.documents.map (·.path)).Nodup

/-! ## Finding, storing and erasing -/

theorem openAt_eq (pool : DocumentPool) (loc : Locator) (rel content : Value) :
    pool.openAt loc rel content = loc.toPath.map fun k => pool.store ⟨k, rel, content⟩ := by
  unfold openAt
  cases loc.toPath <;> rfl

theorem closeAt_eq (pool : DocumentPool) (loc : Locator) :
    pool.closeAt loc = loc.toPath.map pool.erase := by
  unfold closeAt
  cases loc.toPath <;> rfl

theorem findAt_eq (pool : DocumentPool) (loc : Locator) : pool.findAt loc = loc.toPath.map pool.find? := by
  unfold findAt
  cases loc.toPath <;> rfl

theorem othersAt_eq (pool : DocumentPool) (loc : Locator) :
    pool.othersAt loc = loc.toPath.map pool.others := by
  unfold othersAt
  cases loc.toPath <;> rfl

/-- In a keyed pool each document is the one found under its path. -/
theorem find?_of_mem {pool : DocumentPool} (h : pool.Keyed) {d : Document} (hd : d ∈ pool.documents) :
    pool.find? d.path = some d := by
  obtain ⟨docs⟩ := pool
  simp only [Keyed] at h
  simp only [find?] at hd ⊢
  induction docs with
  | nil => simp at hd
  | cons e rest ih =>
    rw [List.map_cons, List.nodup_cons] at h
    rcases List.mem_cons.1 hd with rfl | hd
    · simp
    · -- the head has another path than every later document
      have hne : e.path ≠ d.path := fun he => h.1 (he ▸ List.mem_map_of_mem hd)
      simp [hne, ih h.2 hd]

/-- A path is the path of a document exactly when a document is found under it. -/
theorem mem_paths_iff (pool : DocumentPool) (k : String) :
    k ∈ pool.documents.map (·.path) ↔ (pool.find? k).isSome := by
  simp [find?, List.find?_isSome]

/-- Storing a document finds nothing new under the other paths. -/
theorem find?_store_of_ne (pool : DocumentPool) (d : Document) {k : String} (hk : k ≠ d.path) :
    (pool.store d).find? k = pool.find? k := by
  unfold store find?
  split
  · rw [List.find?_map]
    -- a document is found under `k` after the replacement exactly when it was before
    have hp : ∀ e ∈ pool.documents,
        ((fun e : Document => e.path == k) ∘ fun e => if e.path == d.path then d else e) e =
          (e.path == k) := by
      intro e _
      by_cases he : e.path = d.path <;> simp [he]
    rw [List.find?_congr hp]
    cases hf : List.find? (fun e : Document => e.path == k) pool.documents with
    | none => rfl
    | some e =>
      -- what is found has the path `k`, so it was not replaced
      have he : e.path = k := by simpa using List.find?_some hf
      simp [he, hk]
  · rw [List.find?_append]
    simp [Ne.symm hk]

/-- The paths after storing: the old ones, and the stored path last if it is new. -/
theorem paths_store (pool : DocumentPool) (d : Document) :
    (pool.store d).documents.map (·.path) =
      if d.path ∈ pool.documents.map (·.path) then pool.documents.map (·.path)
      else pool.documents.map (·.path) ++ [d.path] := by
  unfold store
  by_cases h : pool.documents.any (·.path == d.path) = true
  · have hm : d.path ∈ pool.documents.map (·.path) := by simpa using h
    simp only [h, if_true, hm, List.map_map]
    -- a replacement keeps the path of what it replaces
    apply List.map_congr_left
    intro e _
    by_cases he : e.path = d.path <;> simp [he]
  · have hm : d.path ∉ pool.documents.map (·.path) := by simpa using h
    simp [h, hm]

/-- Storing keeps the paths distinct. -/
theorem Keyed.store {pool : DocumentPool} (h : pool.Keyed) (d : Document) : (pool.store d).Keyed := by
  unfold Keyed
  rw [paths_store]
  split
  · exact h
  · rename_i hm
    refine List.nodup_append.2 ⟨h, List.nodup_singleton _, fun a ha b hb hab => ?_⟩
    rw [List.mem_singleton] at hb
    subst hb hab
    exact hm ha

/-- Erasing a path keeps what is found under the others. -/
theorem find?_erase_of_ne (pool : DocumentPool) {k k' : String} (hk : k' ≠ k) :
    (pool.erase k).find? k' = pool.find? k' := by
  unfold erase find?
  rw [List.find?_filter]
  apply List.find?_congr
  intro e _
  by_cases he : e.path = k'
  · simp [he, hk]
  · simp [he]

/-- The paths after erasing one, from a keyed pool: the old ones without it. -/
theorem paths_erase {pool : DocumentPool} (h : pool.Keyed) (k : String) :
    (pool.erase k).documents.map (·.path) = (pool.documents.map (·.path)).erase k := by
  rw [List.Nodup.erase_eq_filter h, List.filter_map]
  rfl

/-- Erasing keeps the paths distinct. -/
theorem Keyed.erase {pool : DocumentPool} (h : pool.Keyed) (k : String) : (pool.erase k).Keyed := by
  unfold Keyed
  rw [paths_erase h]
  exact List.Nodup.erase k h

/-! ## The map of a pool -/

theorem toMap_store {pool : DocumentPool} (d : Document) :
    (pool.store d).toMap = pool.toMap.set d.path d := by
  simp only [toMap, OrderedMap.set, paths_store]
  congr 1
  funext k
  by_cases hk : k = d.path
  · subst hk
    simp [find?_store_self]
  · simp [hk, find?_store_of_ne pool d hk]

theorem toMap_erase {pool : DocumentPool} (h : pool.Keyed) (k : String) :
    (pool.erase k).toMap = pool.toMap.erase k := by
  simp only [toMap, OrderedMap.erase, paths_erase h]
  congr 1
  funext k'
  by_cases hk : k' = k
  · subst hk
    simp [find?_erase_self]
  · simp [hk, find?_erase_of_ne pool hk]

/-- The other documents of a path in a keyed pool are the values of the other keys of its map,
in order. -/
theorem others_eq_valuesExcept {pool : DocumentPool} (h : pool.Keyed) (k : String) :
    pool.others k = pool.toMap.valuesExcept k := by
  simp only [others, toMap, OrderedMap.valuesExcept, List.filter_map, List.filterMap_map,
    Function.comp_def]
  -- each document left is the one found under its path
  rw [List.filterMap_congr fun d hd => find?_of_mem h (List.mem_of_mem_filter hd), List.filterMap_some]
  apply List.filter_congr
  intro d _
  rw [Bool.eq_iff_iff, bne_iff_ne, decide_eq_true_iff]

/-! ## One operation, and every run -/

/-- On a keyed pool, an operation answers as it does on the pool's map, and leaves a keyed pool
whose map is the map it leaves. -/
theorem perform_refines {pool : DocumentPool} (h : pool.Keyed) (op : PoolOp) :
    ((pool.perform op).1.Keyed ∧ (pool.perform op).1.toMap = (pool.toMap.perform op).1) ∧
      (pool.perform op).2 = (pool.toMap.perform op).2 := by
  cases op with
  | openDocument url rel content | updateDocument url rel content =>
    simp only [perform, OrderedMap.perform, openAt_eq]
    cases url.toPath with
    | ok k => exact ⟨⟨h.store _, toMap_store _⟩, rfl⟩
    | error f => exact ⟨⟨h, rfl⟩, rfl⟩
  | closeDocument url =>
    simp only [perform, OrderedMap.perform, closeAt_eq]
    cases url.toPath with
    | ok k => exact ⟨⟨h.erase k, toMap_erase h k⟩, rfl⟩
    | error f => exact ⟨⟨h, rfl⟩, rfl⟩
  | getDocument url =>
    refine ⟨⟨h, rfl⟩, ?_⟩
    simp only [perform, OrderedMap.perform, findAt_eq]
    cases url.toPath <;> rfl
  | otherDocuments url =>
    refine ⟨⟨h, rfl⟩, ?_⟩
    simp only [perform, OrderedMap.perform, othersAt_eq]
    cases url.toPath with
    | ok k => simp only [Except.map, others_eq_valuesExcept h k]
    | error f => rfl
  | size => exact ⟨⟨h, rfl⟩, by simp [perform, OrderedMap.perform, size, toMap]⟩
  | contains url =>
    cases url with
    | other v => exact ⟨⟨h, rfl⟩, rfl⟩
    | text s | path p =>
      refine ⟨⟨h, rfl⟩, ?_⟩
      simp only [perform, OrderedMap.perform, containsAt]
      cases (Locator.toPath _) <;> simp [Except.map, mem_paths_iff, toMap]

/-- Every list of operations on a new pool answers as it does on the empty map, and leaves a
pool whose map is the map it leaves. -/
theorem run_refines (ops : List PoolOp) :
    (PoolOp.run perform {} ops).1 = (PoolOp.run OrderedMap.perform OrderedMap.empty ops).1 ∧
      (PoolOp.run perform {} ops).2.toMap = (PoolOp.run OrderedMap.perform OrderedMap.empty ops).2 := by
  have hnew : ({} : DocumentPool).Keyed ∧ ({} : DocumentPool).toMap = OrderedMap.empty :=
    ⟨List.nodup_nil, rfl⟩
  have hsim := PoolOp.run_simulates (fun (pool : DocumentPool) m => pool.Keyed ∧ pool.toMap = m)
    (fun pool m op ⟨hk, hm⟩ => by subst hm; exact perform_refines hk op) ops hnew
  exact ⟨hsim.1, hsim.2.2⟩

end DocumentPool

end CompletionClient
