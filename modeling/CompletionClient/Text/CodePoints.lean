/-!
# Code points

A text of this library is a sequence of code points, any number below
`0x110000`, surrogates included: a text read from JSON may hold a lone
surrogate, and it is written back as it came.  Lean's `Char` holds every code
point but the 2048 surrogates, so a text is kept as a `String` in which each
code point stands for itself, except the surrogates and U+D7FF just below
them.  Each of those is written as two characters (`pointChars`): the
*marker* U+D7FF, then the character `0xF0000 + (n - 0xD7FF)` of plane 15,
which names the code point `n`.

The writing is injective: in a written text the marker always opens a pair,
so `codePointsOf` reads the code points back (`codePointsOf_pointChars`), and
a text written from code points reads back as them
(`codePoints_ofCodePoints`).  It
keeps the order of code points, since a pair sorts where its code point does:
after every character below U+D7FF and before every one above the
surrogates.  U+D7FF is unassigned and plane 15 is private, so no case map,
digit test or blank test meets a character of a pair.
-/

namespace CompletionClient.Text

/-- The code point of the marker, the first of the code points written as a pair. -/
def markerPoint : Nat := 0xD7FF

/-- The character that opens a pair. -/
def marker : Char := Char.ofNat markerPoint

/-- The first character that names a code point after the marker. -/
def nameBase : Nat := 0xF0000

/-- Whether a code point is written as a pair: U+D7FF and the surrogates. -/
def isPaired (n : Nat) : Bool := markerPoint ≤ n && n < 0xE000

/-- The characters that write a code point. -/
def pointChars (n : Nat) : List Char :=
  if isPaired n then [marker, Char.ofNat (nameBase + (n - markerPoint))] else [Char.ofNat n]

/-- The code points of written characters; a marker at the very end stands for itself. -/
def codePointsOf : List Char → List Nat
  | [] => []
  | [c] => [c.toNat]
  | c :: d :: more =>
    if c = marker then (markerPoint + (d.toNat - nameBase)) :: codePointsOf more
    else c.toNat :: codePointsOf (d :: more)

/-- The code points of a text. -/
def codePoints (s : String) : List Nat := codePointsOf s.toList

/-- The text of a list of code points. -/
def ofCodePoints (ns : List Nat) : String := String.ofList (ns.flatMap pointChars)

/-- The text of the characters of a Lean string, each taken as its code point:
a U+D7FF in it is written as a pair. -/
def ofChars (s : String) : String := ofCodePoints (s.toList.map Char.toNat)

/-- A Lean string for a text, for output that cannot hold a surrogate: pairs are
read back, and a surrogate becomes U+FFFD. -/
def toChars (s : String) : String :=
  String.ofList ((codePoints s).map fun n =>
    if 0xD800 ≤ n ∧ n < 0xE000 then '�' else Char.ofNat n)

theorem marker_toNat : marker.toNat = markerPoint := by decide

/-- A code point below the surrogates is the code point of its character. -/
theorem toNat_ofNat_of_lt {n : Nat} (h : n < 0xD800) : (Char.ofNat n).toNat = n := by
  have hv : n.isValidChar := Or.inl (by omega)
  rw [Char.ofNat, dif_pos hv]
  rfl

/-- A code point above the surrogates is the code point of its character. -/
theorem toNat_ofNat_of_gt {n : Nat} (h₁ : 0xE000 ≤ n) (h₂ : n < 0x110000) :
    (Char.ofNat n).toNat = n := by
  have hv : n.isValidChar := Or.inr ⟨by omega, h₂⟩
  rw [Char.ofNat, dif_pos hv]
  rfl

/-- Reading back the characters written for a code point gives the code point. -/
theorem codePointsOf_pointChars {n : Nat} (h : n < 0x110000) (rest : List Char) :
    codePointsOf (pointChars n ++ rest) = n :: codePointsOf rest := by
  unfold pointChars isPaired
  by_cases hp : markerPoint ≤ n ∧ n < 0xE000
  · have hname : (Char.ofNat (nameBase + (n - markerPoint))).toNat = nameBase + (n - markerPoint) :=
      toNat_ofNat_of_gt (by simp only [nameBase]; omega) (by simp only [nameBase, markerPoint]; omega)
    have hb : (decide (markerPoint ≤ n) && decide (n < 0xE000)) = true := by
      simp only [Bool.and_eq_true, decide_eq_true_eq]; exact hp
    rw [if_pos hb, List.cons_append, List.cons_append, List.nil_append, codePointsOf,
      if_pos rfl, hname]
    have hsum : markerPoint + (nameBase + (n - markerPoint) - nameBase) = n := by
      simp only [markerPoint, nameBase] at hp ⊢
      omega
    rw [hsum]
  · have hlt : n < markerPoint ∨ 0xE000 ≤ n := by omega
    have hne : Char.ofNat n ≠ marker := by
      intro heq
      have := congrArg Char.toNat heq
      rw [marker_toNat] at this
      rcases hlt with hl | hg
      · rw [toNat_ofNat_of_lt (by simp only [markerPoint] at hl; omega)] at this
        simp only [markerPoint] at hl this; omega
      · rw [toNat_ofNat_of_gt hg h] at this
        simp only [markerPoint] at this; omega
    have hn : (Char.ofNat n).toNat = n := by
      rcases hlt with hl | hg
      · exact toNat_ofNat_of_lt (by simp only [markerPoint] at hl; omega)
      · exact toNat_ofNat_of_gt hg h
    have hb : (decide (markerPoint ≤ n) && decide (n < 0xE000)) = false := by
      simp only [Bool.and_eq_false_iff, decide_eq_false_iff_not]; omega
    rw [if_neg (by simp only [hb, Bool.false_eq_true, not_false_eq_true]), List.cons_append,
      List.nil_append]
    cases rest with
    | nil => rw [codePointsOf, codePointsOf, hn]
    | cons d more => rw [codePointsOf, if_neg hne, hn]

/-- Reading back a text written from code points gives the code points. -/
theorem codePoints_ofCodePoints (ns : List Nat) (h : ∀ n ∈ ns, n < 0x110000) :
    codePoints (ofCodePoints ns) = ns := by
  induction ns with
  | nil => simp [codePoints, ofCodePoints, codePointsOf]
  | cons n ns ih =>
    have hn := h n (List.mem_cons_self ..)
    have hs := ih fun m hm => h m (List.mem_cons_of_mem _ hm)
    simp only [codePoints, ofCodePoints, String.toList_ofList, List.flatMap_cons] at hs ⊢
    rw [codePointsOf_pointChars hn, hs]

end CompletionClient.Text
