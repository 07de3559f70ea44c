/-!
# POSIX paths

A path as a list of names under an optional anchor.  Reading a text splits it
at `/`, drops empty names and `.`, and keeps `..`; a backslash is an ordinary
character.  So no name of a path is empty or `.`, or holds a `/`
(`IsPathName`), and a path carries that as a field: reading, joining and
taking a relative path each prove it of what they build.  A text that starts with exactly two slashes keeps them as its
anchor, since POSIX leaves the meaning of such a path to the system; one slash
or more than two make the root.  The text of a path is its anchor and its
names joined by `/`, or `.` when it has neither.

`PosixPath.relativeTo` takes away a base path that the path starts with,
anchor and names alike, and fails when it does not start with it.
-/

namespace CompletionClient

/-- Where a path starts. -/
inductive Anchor where
  /-- Nowhere: the path is relative. -/
  | none
  /-- At the root `/`. -/
  | root
  /-- At the implementation-defined root `//`. -/
  | doubleRoot
  deriving DecidableEq, Inhabited

/-- The text of an anchor. -/
def Anchor.text : Anchor → String
  | .none => ""
  | .root => "/"
  | .doubleRoot => "//"

/-- A name of a path: neither empty nor `.`, and holding no `/`. -/
def IsPathName (n : String) : Prop := n ≠ "" ∧ n ≠ "." ∧ '/' ∉ n.toList

/-- A path: an anchor and names, none of them empty, `.` or holding a `/`. -/
@[ext]
structure PosixPath where
  /-- Where the path starts. -/
  anchor : Anchor
  /-- Its names, outermost first. -/
  names : List String
  /-- Every name is a name of a path. -/
  names_valid : ∀ n ∈ names, IsPathName n
  deriving DecidableEq

instance : Inhabited PosixPath := ⟨⟨.none, [], fun _ h => absurd h List.not_mem_nil⟩⟩

/-- A piece of a list split at `c` never holds `c`. -/
theorem not_mem_of_mem_splitOn {c : Char} :
    ∀ {l : List Char} {piece : List Char}, piece ∈ l.splitOn c → c ∉ piece
  | [], piece, h => by simp [List.splitOn_nil] at h; simp [h]
  | x :: xs, piece, h => by
    rw [List.splitOn_cons_eq_if_modifyHead] at h
    split at h
    · rcases List.mem_cons.1 h with rfl | h
      · simp
      · exact not_mem_of_mem_splitOn h
    · rename_i hx
      obtain ⟨first, rest, hfr⟩ := List.exists_cons_of_ne_nil (List.splitOn_ne_nil c xs)
      rw [hfr, List.modifyHead_cons] at h
      rcases List.mem_cons.1 h with rfl | h
      · have hmem : first ∈ xs.splitOn c := by rw [hfr]; exact List.mem_cons_self
        have hfirst := not_mem_of_mem_splitOn hmem
        simp only [beq_iff_eq] at hx
        simpa [Ne.symm hx] using hfirst
      · have hmem : piece ∈ xs.splitOn c := by rw [hfr]; exact List.mem_cons_of_mem _ h
        exact not_mem_of_mem_splitOn hmem

namespace PosixPath

/-- The names of a text without an anchor: its pieces between slashes, except
empty ones and `.`. -/
def namesOf (s : String) : List String :=
  ((s.toList.splitOn '/').map String.ofList).filter fun n => !n.isEmpty && n != "."

/-- The pieces that `namesOf` keeps are names of a path. -/
theorem namesOf_valid (s : String) : ∀ n ∈ namesOf s, IsPathName n := by
  intro n hn
  simp only [namesOf, List.mem_filter, List.mem_map, Bool.and_eq_true, Bool.not_eq_true',
    String.isEmpty_eq_false_iff, bne_iff_ne] at hn
  obtain ⟨⟨piece, hpiece, rfl⟩, hne, hdot⟩ := hn
  exact ⟨hne, hdot, by rw [String.toList_ofList]; exact not_mem_of_mem_splitOn hpiece⟩

/-- Reads a text as a path. -/
def parse (s : String) : PosixPath :=
  let cs := s.toList
  let rest := cs.dropWhile (· == '/')
  let slashes := cs.length - rest.length
  let anchor := if slashes = 0 then Anchor.none else if slashes = 2 then .doubleRoot else .root
  ⟨anchor, namesOf (String.ofList rest), namesOf_valid _⟩

/-- The text of a path. -/
def toText (p : PosixPath) : String :=
  let t := p.anchor.text ++ "/".intercalate p.names
  if t.isEmpty then "." else t

/-- The last name, or the empty text for a path without names. -/
def name (p : PosixPath) : String := p.names.getLast?.getD ""

/-- The suffix of a name: from its last dot to its end, when that dot is
neither its first nor its last character; otherwise empty. -/
def suffixOf (name : String) : String :=
  let cs := name.toList
  match (List.range cs.length).reverse.find? (fun i => cs[i]? == some '.') with
  | some i => if 0 < i ∧ i + 1 < cs.length then String.ofList (cs.drop i) else ""
  | none => ""

/-- The suffix of the last name. -/
def suffix (p : PosixPath) : String := suffixOf p.name

/-- The names of one path followed by those of another are names of a path. -/
theorem append_valid (p q : PosixPath) : ∀ n ∈ p.names ++ q.names, IsPathName n :=
  fun n hn => (List.mem_append.1 hn).elim (p.names_valid n) (q.names_valid n)

/-- The path extended by a relative path; an anchored one replaces it. -/
def join (p q : PosixPath) : PosixPath :=
  if q.anchor = .none then ⟨p.anchor, p.names ++ q.names, append_valid p q⟩ else q

/-- The path with a text appended as a path. -/
def child (p : PosixPath) (s : String) : PosixPath := p.join (parse s)

/-- The anchor and names of a path as one list: the anchor's text first, if it
has one. -/
def steps (p : PosixPath) : List String :=
  match p.anchor with
  | .none => p.names
  | a => a.text :: p.names

/-- Past the first step, the steps of a path are among its names. -/
theorem steps_drop_valid (p : PosixPath) {k : Nat} (hk : 0 < k) :
    ∀ n ∈ p.steps.drop k, IsPathName n := by
  intro n hn
  apply p.names_valid n
  unfold steps at hn
  split at hn
  · exact List.mem_of_mem_drop hn
  · -- the anchor's text is the first step, and `k` passes it
    obtain ⟨j, rfl⟩ := Nat.exists_eq_succ_of_ne_zero (Nat.pos_iff_ne_zero.1 hk)
    exact List.mem_of_mem_drop hn

/-- The path that leads from `base` to `p`, if `p` starts with `base`.  An
empty relative base leads to every relative path and to no anchored one. -/
def relativeTo (p base : PosixPath) : Option PosixPath :=
  let bs := base.steps
  if h : bs.isEmpty then
    if p.anchor = .none then some p else none
  else if p.steps.take bs.length = bs then
    some ⟨.none, p.steps.drop bs.length,
      p.steps_drop_valid (List.length_pos_iff.2 fun he => h (List.isEmpty_iff.2 he))⟩
  else none

end PosixPath

end CompletionClient
