import CompletionClient.Server
import CompletionClient.Proofs.Wire.Encoding
import CompletionClient.Proofs.Installation.Check
import CompletionClient.Proofs.Text.Tables
import Mathlib.Data.Nat.Digits.Defs
import Mathlib.Data.String.Basic
/-!
# Texts of digits

Two readers take the digits of a text and read them as a decimal integer: a
piece of a version keeps its characters that are digits
(`Version.pieceNumber`), and a manager folder announces its port by a name
made of digits only (`Server.findPort`).  A digit is meant in the wide sense
(`Text.isDigit`), which takes in superscripts and circled digits, while a
numeral is read only from decimal digits (`Text.decimalValue?`), and from at
most `Integer.digitLimit` of them.

Main statements.  A text of digits reads as an integer exactly when it is
`Text.Readable`, all its digits decimal and at most `Integer.digitLimit` of
them, and it then reads as the number its digits write (`Text.decimalNumber`,
by `Integer.read_digits_eq_ok_iff`).  So the numbers of a version are read,
one per piece between its dots, exactly when the digits of every piece are
readable (`Version.parse_eq_ok_iff`), and a port is read off the least name of
digits in code-point order exactly when that name is readable
(`Server.findPort_spec`).  A superscript `²` is a digit and no decimal digit:
`1.²` has no numbers (`Version.superscript_piece_has_no_number`), and a folder
whose least name of digits is `²` announces no port
(`Server.superscript_name_has_no_port`); both fail with a `ValueError`.

The argument: no digit is white space, a sign or an underscore, so a decimal
digit stands for its value and any other digit is a glyph that no numeral
holds (`Integer.glyph_of_decimal`, `Integer.glyph_of_nondecimal`); and a text
that reads as an integer holds no such glyph (`Integer.read_ok_no_other`).
-/

namespace CompletionClient

/-! ## Digits are no white space -/

namespace Ranges

/-- A code point in ranges that lie apart from other ranges is in none of the others. -/
theorem contains_eq_false_of_apart {rs ss : Ranges} (h : ∀ r ∈ rs, ∀ s ∈ ss, r.2 < s.1 ∨ s.2 < r.1)
    {n : Nat} (hn : rs.contains n = true) : ss.contains n = false := by
  simp only [contains, List.any_eq_true, Bool.and_eq_true, decide_eq_true_eq] at hn
  obtain ⟨r, hr, hlo, hhi⟩ := hn
  simp only [contains, List.any_eq_false, Bool.and_eq_true, decide_eq_true_eq, not_and, not_le]
  intro s hs hs1
  rcases h r hr s hs with h1 | h1 <;> omega

end Ranges

namespace Text

/-- A digit is no white space. -/
theorem isBlank_of_isDigit {c : Char} (h : isDigit c = true) : isBlank c = false :=
  Ranges.contains_eq_false_of_apart (by decide) h

/-- The number that decimal digits write, the first digit the most significant; `0` for none. -/
def decimalNumber (cs : List Char) : Nat :=
  Nat.ofDigits 10 (cs.reverse.map fun c => (decimalValue? c).getD 0)

/-- Digits that a numeral can be read from: all of them decimal, and at most
`Integer.digitLimit` of them. -/
def Readable (cs : List Char) : Prop :=
  (∀ c ∈ cs, (decimalValue? c).isSome) ∧ cs.length ≤ Integer.digitLimit

instance : DecidablePred Readable := fun cs =>
  decidable_of_iff
    (((cs.all fun c => (decimalValue? c).isSome) && Nat.ble cs.length Integer.digitLimit) = true)
    (by simp [Readable, Nat.ble_eq])

end Text

/-! ## Reading digits as an integer -/

namespace Integer

/-- White space around a numeral is white space. -/
theorem isBlank_of_isSpace {c : Char} (h : isSpace c = true) : Text.isBlank c = true := by
  unfold isSpace at h
  split at h
  · -- the ASCII white space: the space, and the tab up to the carriage return
    have hc : c.toNat = 32 ∨ (9 ≤ c.toNat ∧ c.toNat ≤ 13) := by
      simp only [Bool.or_eq_true, decide_eq_true_eq, Bool.and_eq_true] at h
      rcases h with h | ⟨h1, h2⟩
      · exact .inl (by rw [h]; rfl)
      · exact .inr ⟨Char.le_def.1 h1, Char.le_def.1 h2⟩
    simp only [Text.isBlank, Ranges.contains, Text.blankRanges, List.any_cons, List.any_nil]
    rcases hc with hc | ⟨h1, h2⟩
    · simp [hc]
    · simp [h1, h2]
  · exact h

/-- A digit is no white space around a numeral. -/
theorem isSpace_of_isDigit {c : Char} (h : Text.isDigit c = true) : isSpace c = false := by
  cases hs : isSpace c
  · rfl
  · have hblank := Text.isBlank_of_isDigit h
    rw [isBlank_of_isSpace hs] at hblank
    cases hblank

/-- A decimal digit, which is a digit, reads as its value. -/
theorem glyph_of_decimal {c : Char} {d : Nat} (hd : Text.decimalValue? c = some d) :
    glyph c = .digit d := by
  simp [glyph, isSpace_of_isDigit (Text.isDigit_of_decimalValue? hd).1, hd]

/-- A digit that is no decimal digit, such as a superscript, is no part of a numeral. -/
theorem glyph_of_nondecimal {c : Char} (hc : Text.isDigit c = true)
    (hd : Text.decimalValue? c = none) : glyph c = .other := by
  -- the underscore and the signs are no digits
  have hsym : ∀ x ∈ ['_', '+', '-'], c ≠ x := by
    rintro x hx rfl
    revert hc
    simp only [List.mem_cons, List.not_mem_nil, or_false] at hx
    rcases hx with rfl | rfl | rfl <;> decide
  simp [glyph, isSpace_of_isDigit hc, hd, hsym]

/-- An element that fails the test stays when the leading elements that pass it are dropped. -/
theorem mem_dropWhile_of_not {α : Type} {p : α → Bool} {l : List α} {x : α} (hx : x ∈ l)
    (hp : p x = false) : x ∈ l.dropWhile p := by
  rw [← List.takeWhile_append_dropWhile (p := p) (l := l), List.mem_append] at hx
  rcases hx with hx | hx
  · have htake := List.mem_takeWhile_imp hx
    rw [hp] at htake
    cases htake
  · exact hx

/-- Glyphs that hold one that belongs to no numeral hold more than white space after the numeral. -/
theorem any_after_numeral {gs : List Glyph} (h : Glyph.other ∈ gs) :
    (gs.dropWhile Glyph.inNumeral).any (· != .blank) = true :=
  List.any_eq_true.2 ⟨.other, mem_dropWhile_of_not h rfl, rfl⟩

/-- A text that reads as an integer holds white space, a sign, digits and underscores, and
nothing else. -/
theorem read_ok_no_other {s : String} {n : Int} (h : read s = .ok n) :
    ∀ c ∈ s.toList, glyph c ≠ .other := by
  intro c hc hother
  -- the other glyph is no white space, so it stays before the sign
  have h1 : Glyph.other ∈ (s.toList.map glyph).dropWhile (· == .blank) :=
    mem_dropWhile_of_not (List.mem_map.2 ⟨c, hc, hother⟩) rfl
  unfold read at h
  generalize (s.toList.map glyph).dropWhile (· == .blank) = gs at h h1
  simp only at h
  split at h
  · cases h
  · split at h
    · cases h
    · -- it is no sign either, so it follows the numeral
      split at h
      · simp [any_after_numeral (List.mem_of_ne_of_mem (by decide) h1)] at h
      · simp [any_after_numeral (List.mem_of_ne_of_mem (by decide) h1)] at h
      · simp [any_after_numeral h1] at h

/-- Digits alone, more than `digitLimit` of them, are refused. -/
theorem read_of_long_glyphs {s : String} {ds : List Nat} (hs : s.toList.map glyph = ds.map .digit)
    (hlen : digitLimit < ds.length) : read s = .error (.tooManyDigits digitLimit ds.length) := by
  obtain ⟨d, rest, rfl⟩ := List.exists_cons_of_ne_nil (l := ds) (by rintro rfl; simp at hlen)
  -- the digits make the whole numeral
  have hnum : ∀ g ∈ Glyph.digit d :: rest.map Glyph.digit, g.inNumeral = true := by
    simp [Glyph.inNumeral]
  have htake := List.takeWhile_eq_self_iff.2 hnum
  have hdigits : digitsOf (Glyph.digit d :: rest.map Glyph.digit) = some (d :: rest) :=
    digitsOf_map_digit (d :: rest)
  have hdrop : (Glyph.digit d :: rest.map Glyph.digit).dropWhile (· == .blank) =
      Glyph.digit d :: rest.map Glyph.digit := by
    rw [List.dropWhile_cons]
    rfl
  simp only [read, hs, List.map_cons, hdrop, htake, hdigits]
  rw [if_pos hlen]

/-- Folding digit values is reading them in base ten, the first the most significant. -/
theorem valueOf_eq_ofDigits (ds : List Nat) : valueOf ds = Nat.ofDigits 10 ds.reverse := by
  rw [valueOf, Nat.ofDigits_eq_foldr, List.foldr_reverse]
  congr 1
  funext n d
  simp only [Nat.cast_id]
  omega

/-- The values of decimal digits. -/
def digitValues (cs : List Char) : List Nat := cs.map fun c => (Text.decimalValue? c).getD 0

theorem decimalNumber_eq_valueOf (cs : List Char) : Text.decimalNumber cs = valueOf (digitValues cs) := by
  rw [valueOf_eq_ofDigits, digitValues, Text.decimalNumber, List.map_reverse]

/-- Decimal digits read as their values. -/
theorem glyphs_of_decimal {cs : List Char} (hdec : ∀ c ∈ cs, (Text.decimalValue? c).isSome) :
    cs.map glyph = (digitValues cs).map .digit := by
  rw [digitValues, List.map_map]
  refine List.map_congr_left fun c hc => ?_
  obtain ⟨d, hcd⟩ := Option.isSome_iff_exists.1 (hdec c hc)
  rw [glyph_of_decimal hcd]
  simp [hcd]

/-- A text of decimal digits reads as the number they write, unless there are too many of them. -/
theorem read_decimal_digits {cs : List Char} (hdec : ∀ c ∈ cs, (Text.decimalValue? c).isSome)
    (hne : cs ≠ []) :
    read (String.ofList cs) = if cs.length ≤ digitLimit then .ok (Text.decimalNumber cs : Int)
      else .error (.tooManyDigits digitLimit cs.length) := by
  have hs : (String.ofList cs).toList.map glyph = (digitValues cs).map .digit := by
    rw [String.toList_ofList, glyphs_of_decimal hdec]
  have hlen : (digitValues cs).length = cs.length := List.length_map _
  split
  · next hshort =>
    rw [read_of_glyphs (s := String.ofList cs) false (by rw [hs]; rfl)
      (by simpa [digitValues] using hne) (by rwa [hlen]), decimalNumber_eq_valueOf]
    rfl
  · next hlong =>
    rw [read_of_long_glyphs hs (by omega), hlen]

/-- A text of digits reads as an integer exactly when it is readable, and then as the number its
digits write. -/
theorem read_digits_eq_ok_iff {cs : List Char} (hd : ∀ c ∈ cs, Text.isDigit c = true) (hne : cs ≠ [])
    {n : Int} : read (String.ofList cs) = .ok n ↔ Text.Readable cs ∧ n = Text.decimalNumber cs := by
  constructor
  · intro h
    -- every digit is decimal, since any other digit is a glyph that no integer holds
    have hdec : ∀ c ∈ cs, (Text.decimalValue? c).isSome := by
      intro c hc
      cases hcd : Text.decimalValue? c with
      | some d => rfl
      | none =>
        exact absurd (glyph_of_nondecimal (hd c hc) hcd) (read_ok_no_other h c (by simpa using hc))
    rw [read_decimal_digits hdec hne] at h
    split at h
    · next hlen =>
      injection h with h
      exact ⟨⟨hdec, hlen⟩, h.symm⟩
    · cases h
  · rintro ⟨⟨hdec, hlen⟩, rfl⟩
    rw [read_decimal_digits hdec hne, if_pos hlen]

end Integer

/-! ## Results of steps -/

/-- A result that is known exactly under a condition, and then is `v`, is known through a map
exactly under the same condition, and then is the image of `v`. -/
theorem map_eq_ok_iff_of {ε α β : Type} {x : Except ε α} {P : Prop} {v : α} (f : α → β)
    (hx : ∀ a, x = .ok a ↔ P ∧ a = v) (b : β) : x.map f = .ok b ↔ P ∧ b = f v := by
  cases x with
  | ok a =>
    obtain ⟨hp, rfl⟩ := (hx a).1 rfl
    simp [Except.map, hp, eq_comm]
  | error e =>
    -- under the condition the result would have been known
    simp only [Except.map, reduceCtorEq, false_iff, not_and]
    intro hp _
    cases (hx v).2 ⟨hp, rfl⟩

/-- A mapped result fails exactly as the result does. -/
theorem error_of_map_eq_error {ε α β : Type} {x : Except ε α} {f : α → β} {e : ε}
    (h : x.map f = .error e) : x = .error e := by
  cases x with
  | ok a => cases h
  | error e' =>
    cases h
    rfl

/-- The faults of reading numbers are value errors. -/
theorem Fault.kind_of_ofNumber {e : Fault} (h : e.ofNumber = true) : e.kind = "ValueError" := by
  unfold Fault.ofNumber at h
  split at h
  · rfl
  · rfl
  · cases h

/-- Steps that each succeed exactly when their element passes a test, with a value that the
element determines, succeed together exactly when every element passes, with those values. -/
theorem mapM_eq_ok_iff {α β ε : Type} {f : α → Except ε β} {P : α → Prop} {g : α → β}
    (hf : ∀ a b, f a = .ok b ↔ P a ∧ b = g a) :
    ∀ (as : List α) (bs : List β), as.mapM f = .ok bs ↔ (∀ a ∈ as, P a) ∧ bs = as.map g
  | [], bs => by simp [pure, Except.pure, eq_comm]
  | a :: as, bs => by
    rw [List.mapM_cons]
    cases hfa : f a with
    | error e =>
      -- the first element fails the test
      have hpa : ¬ P a := fun hpa => by rw [(hf a (g a)).2 ⟨hpa, rfl⟩] at hfa; cases hfa
      simp [bind, Except.bind, hpa]
    | ok b =>
      obtain ⟨hpa, rfl⟩ := (hf a b).1 hfa
      cases hrest : as.mapM f with
      | error e =>
        -- some later element fails the test
        have hall : ¬ ∀ x ∈ as, P x := fun hall => by
          rw [(mapM_eq_ok_iff hf as (as.map g)).2 ⟨hall, rfl⟩] at hrest
          cases hrest
        simp only [bind, Except.bind, reduceCtorEq, false_iff, List.forall_mem_cons, not_and]
        rintro ⟨-, hall'⟩ -
        exact hall hall'
      | ok bs' =>
        obtain ⟨hall, rfl⟩ := (mapM_eq_ok_iff hf as bs').1 hrest
        simp only [bind, Except.bind, pure, Except.pure, Except.ok.injEq, List.map_cons,
          List.forall_mem_cons]
        exact ⟨fun h => ⟨⟨hpa, hall⟩, h.symm⟩, fun h => h.2.symm⟩

/-! ## The numbers of a version -/

namespace Version

/-- The digits of a piece of a version. -/
def pieceDigits (piece : String) : List Char := piece.toList.filter Text.isDigit

/-- A piece has a number exactly when its digits are readable, and the number is the one they
write, `0` when there are none. -/
theorem pieceNumber_eq_ok_iff {piece : String} {n : Nat} :
    pieceNumber piece = .ok n ↔
      Text.Readable (pieceDigits piece) ∧ n = Text.decimalNumber (pieceDigits piece) := by
  have hd : ∀ c ∈ pieceDigits piece, Text.isDigit c = true := fun _ hc => (List.mem_filter.1 hc).2
  change (if (pieceDigits piece).isEmpty then .ok 0
    else (Integer.read (String.ofList (pieceDigits piece))).map Int.toNat) = .ok n ↔ _
  by_cases hnil : pieceDigits piece = []
  · -- no digits: the number is `0`
    rw [hnil]
    simp only [List.isEmpty_nil, if_true, Except.ok.injEq]
    exact ⟨fun h => ⟨⟨by simp, Nat.zero_le _⟩, h.symm⟩, fun h => h.2.symm⟩
  · rw [if_neg (by simpa using hnil),
      map_eq_ok_iff_of Int.toNat (fun m => Integer.read_digits_eq_ok_iff hd hnil) n,
      Int.toNat_natCast]

/-- The numbers of a version are read exactly when the digits of every piece between the dots of
the trimmed text are readable.  They are then one number per piece, the number that the piece's
digits write, or `0` for a piece without digits; otherwise reading fails with a value error. -/
theorem parse_eq_ok_iff (v : String) :
    (∀ ns, parse v = .ok ns ↔
      (∀ piece ∈ splitDots (Text.trim v), Text.Readable (pieceDigits piece)) ∧
        ns = (splitDots (Text.trim v)).map fun piece => Text.decimalNumber (pieceDigits piece)) ∧
    (∀ e, parse v = .error e → e.kind = "ValueError") :=
  ⟨fun ns => mapM_eq_ok_iff (fun _ _ => pieceNumber_eq_ok_iff) _ ns,
    fun _ he => Fault.kind_of_ofNumber (parse_fault he)⟩

/-- A version with a suffix on a piece has the numbers of its digits. -/
theorem numbers_of_suffixed_version : parse " 1.2.3-beta " = .ok [1, 2, 3] :=
  (((parse_eq_ok_iff " 1.2.3-beta ").1 [1, 2, 3]).2 ⟨by decide, by decide⟩)

/-- `1.²` has no numbers: the superscript two is a digit but no decimal digit, and reading it
fails with a value error. -/
theorem superscript_piece_has_no_number :
    parse "1.²" = .error (Integer.notAnInteger "²") ∧ (Integer.notAnInteger "²").kind = "ValueError" :=
  ⟨by rfl, rfl⟩

end Version

/-! ## The port a manager folder announces -/

namespace Server

/-- The first element of a sorted list that passes a test is at most every element that passes
it. -/
theorem le_of_find?_sorted {p : String → Bool} :
    ∀ {l : List String}, l.Pairwise (· ≤ ·) → ∀ {m : String}, l.find? p = some m →
      ∀ x ∈ l, p x = true → m ≤ x
  | [], _, _, h => by simp at h
  | a :: l, hs, m, h => by
    intro x hx hpx
    obtain ⟨ha, hl⟩ := List.pairwise_cons.1 hs
    rw [List.find?_cons] at h
    cases hpa : p a with
    | false =>
      -- the first element fails the test, so the search goes on in the rest
      rw [hpa] at h
      rcases List.mem_cons.1 hx with rfl | hx
      · rw [hpa] at hpx
        cases hpx
      · exact le_of_find?_sorted hl h x hx hpx
    | true =>
      -- the first element passes and is at most every later one
      rw [hpa] at h
      cases h
      rcases List.mem_cons.1 hx with rfl | hx
      · exact le_refl _
      · exact ha x hx

/-- Sorting keeps the names. -/
theorem sortNames_perm (names : List String) : (sortNames names).Perm names :=
  List.mergeSort_perm _ _

/-- Sorted names are in code-point order. -/
theorem sortNames_sorted (names : List String) : (sortNames names).Pairwise (· ≤ ·) := by
  have h : (names.mergeSort fun a b => decide (a ≤ b)).Pairwise fun a b => decide (a ≤ b) = true :=
    List.pairwise_mergeSort
      (fun _ _ _ hab hbc => by simpa using le_trans (by simpa using hab) (by simpa using hbc))
      (fun a b => by simpa using le_total a b) names
  rw [sortNames]
  simpa using h

/-- The least name of digits is the first one once the names are sorted. -/
theorem find?_sortNames {names : List String} {n : String} (hn : n ∈ names)
    (hd : isDigits n = true) (hleast : ∀ m ∈ names, isDigits m = true → n ≤ m) :
    (sortNames names).find? isDigits = some n := by
  have hperm := sortNames_perm names
  cases hf : (sortNames names).find? isDigits with
  | none =>
    have hnot := List.find?_eq_none.1 hf n (hperm.mem_iff.2 hn)
    rw [hd] at hnot
    exact absurd rfl hnot
  | some m =>
    have hm : m ∈ names := hperm.mem_iff.1 (List.mem_of_find?_eq_some hf)
    have hmn : m ≤ n := le_of_find?_sorted (sortNames_sorted names) hf n (hperm.mem_iff.2 hn) hd
    rw [le_antisymm hmn (hleast m hm (List.find?_some hf))]

/-- A name of digits has digits only, and at least one. -/
theorem digits_of_isDigits {name : String} (h : isDigits name = true) :
    (∀ c ∈ name.toList, Text.isDigit c = true) ∧ name.toList ≠ [] := by
  simp only [isDigits, Bool.and_eq_true, Bool.not_eq_true', String.isEmpty_eq_false_iff,
    List.all_eq_true] at h
  exact ⟨h.2, by simpa using h.1⟩

/-- A folder announces no port exactly when none of its names is a name of digits. -/
theorem findPort_eq_ok_none_iff (names : List String) :
    findPort (some names) = .ok none ↔ ∀ n ∈ names, isDigits n = false := by
  have hperm := sortNames_perm names
  cases hf : (sortNames names).find? isDigits with
  | none =>
    simp only [findPort, hf, true_iff]
    intro n hn
    simpa using List.find?_eq_none.1 hf n (hperm.mem_iff.2 hn)
  | some name =>
    -- a name of digits is read into a port, or the reading fails
    have hname : name ∈ names := hperm.mem_iff.1 (List.mem_of_find?_eq_some hf)
    simp only [findPort, hf]
    constructor
    · intro h
      cases hr : Integer.read name <;> simp [hr, Except.map] at h
    · intro h
      have hdigits := List.find?_some hf
      rw [h name hname] at hdigits
      cases hdigits

/-- The port of a folder is read off its least name of digits. -/
theorem findPort_least {names : List String} {n : String} (hn : n ∈ names)
    (hd : isDigits n = true) (hleast : ∀ m ∈ names, isDigits m = true → n ≤ m) (r : Option Int) :
    findPort (some names) = .ok r ↔
      Text.Readable n.toList ∧ r = some (Text.decimalNumber n.toList : Int) := by
  obtain ⟨hdigits, hne⟩ := digits_of_isDigits hd
  have hread : ∀ m : Int, Integer.read n = .ok m ↔
      Text.Readable n.toList ∧ m = Text.decimalNumber n.toList := by
    intro m
    rw [← Integer.read_digits_eq_ok_iff hdigits hne, String.ofList_toList]
  simp only [findPort, find?_sortNames hn hd hleast]
  exact map_eq_ok_iff_of some hread r

/-- Looking for a port fails only as reading a name as an integer fails. -/
theorem findPort_fault {names : List String} {e : Fault} (he : findPort (some names) = .error e) :
    e.ofNumber := by
  simp only [findPort] at he
  split at he
  · exact Integer.read_fault (error_of_map_eq_error he)
  · cases he

/-- A missing folder announces no port, nor does a folder without a name of digits.  Otherwise
the port is read off the least name of digits in code-point order: it is announced exactly when
that name is readable, as the number its digits write, and the search fails with a value error
otherwise. -/
theorem findPort_spec (names : List String) :
    findPort none = .ok none ∧
    (findPort (some names) = .ok none ↔ ∀ n ∈ names, isDigits n = false) ∧
    (∀ n ∈ names, isDigits n = true → (∀ m ∈ names, isDigits m = true → n ≤ m) →
      ∀ r, findPort (some names) = .ok r ↔
        Text.Readable n.toList ∧ r = some (Text.decimalNumber n.toList : Int)) ∧
    (∀ e, findPort (some names) = .error e → e.kind = "ValueError") :=
  ⟨rfl, findPort_eq_ok_none_iff names, fun _ hn hd hleast => findPort_least hn hd hleast,
    fun _ he => Fault.kind_of_ofNumber (findPort_fault he)⟩

/-- A folder whose names are `notes` and `41234` announces the port 41234. -/
theorem port_of_numbered_name : findPort (some ["notes", "41234"]) = .ok (some 41234) :=
  ((findPort_spec ["notes", "41234"]).2.2.1 "41234" (by decide) (by decide) (by decide) _).2
    ⟨by decide, by decide⟩

/-- A folder whose least name of digits is a superscript two announces no port: the search fails
with a value error. -/
theorem superscript_name_has_no_port :
    findPort (some ["notes", "²"]) = .error (Integer.notAnInteger "²") := by
  have hfirst : (sortNames ["notes", "²"]).find? isDigits = some "²" :=
    find?_sortNames (by decide) (by decide) (by decide)
  simp only [findPort, hfirst]
  rfl

end Server

end CompletionClient
