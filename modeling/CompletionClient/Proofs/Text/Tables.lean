import CompletionClient.Text.Blank
import CompletionClient.Text.Digit
import CompletionClient.Text.Printable
import Mathlib.Order.Interval.Finset.Nat
/-!
# What the code-point tables hold

A character property is a table of ranges.  A well-formed table
(`Ranges.WellFormed`: ascending, non-empty and apart) is a union of disjoint
intervals, so it holds exactly `Ranges.count` code points
(`Ranges.card_filter_contains`).  The white-space table holds the 29 characters
its description names (`Text.card_blank`), the digit table 788
(`Text.card_digit`), and the table of unprintable characters 969596 of the
1114112 code points (`Text.card_unprintable`).

The decimal digits are given apart, by the first code point of each run of
ten.  Each run lies in one range of the digit table, so a decimal digit is a
digit, with a value below ten (`Text.isDigit_of_decimalValue?`).
-/

namespace CompletionClient

namespace Ranges

theorem contains_cons (r : Nat × Nat) (rs : Ranges) (n : Nat) :
    contains (r :: rs) n = (decide (r.1 ≤ n ∧ n ≤ r.2) || contains rs n) := by
  simp [contains]

theorem count_cons (r : Nat × Nat) (rs : Ranges) : count (r :: rs) = r.2 + 1 - r.1 + count rs := rfl

theorem wellFormed_head {r : Nat × Nat} {rs : Ranges} (h : WellFormed (r :: rs) = true) :
    r.1 ≤ r.2 := by
  cases rs with
  | nil => simpa [WellFormed] using h
  | cons s rs =>
    simp only [WellFormed, Bool.and_eq_true, decide_eq_true_eq] at h
    exact h.1.1

theorem wellFormed_tail {r : Nat × Nat} {rs : Ranges} (h : WellFormed (r :: rs) = true) :
    WellFormed rs = true := by
  cases rs with
  | nil => rfl
  | cons s rs =>
    simp only [WellFormed, Bool.and_eq_true] at h
    exact h.2

/-- In well-formed ranges, a range ends, with a code point to spare, before every later one
starts. -/
theorem lt_of_wellFormed : ∀ {r : Nat × Nat} {rs : Ranges}, WellFormed (r :: rs) = true →
    ∀ s ∈ rs, r.2 + 1 < s.1
  | _, [], _, _, hs => absurd hs List.not_mem_nil
  | r, t :: ts, h, s, hs => by
    have hrt : r.2 + 1 < t.1 := by
      simp only [WellFormed, Bool.and_eq_true, decide_eq_true_eq] at h
      exact h.1.2
    have ht := wellFormed_tail h
    rcases List.mem_cons.1 hs with rfl | hs
    · exact hrt
    · -- the next range lies between, and ends before `s` starts
      have hts := lt_of_wellFormed ht s hs
      have htt := wellFormed_head ht
      omega

/-- Well-formed ranges that end below `N` hold exactly `count` of the code points below `N`. -/
theorem card_filter_contains {N : Nat} : ∀ {rs : Ranges}, WellFormed rs = true →
    (∀ r ∈ rs, r.2 < N) → ((Finset.range N).filter fun n => contains rs n = true).card = count rs
  | [], _, _ => by simp [contains, count]
  | r :: rs, hw, hN => by
    have hrN := hN r List.mem_cons_self
    -- the first range is an interval below `N`, apart from the code points of the others
    have hsplit : (Finset.range N).filter (fun n => contains (r :: rs) n = true) =
        Finset.Icc r.1 r.2 ∪ (Finset.range N).filter fun n => contains rs n = true := by
      ext n
      simp only [Finset.mem_filter, Finset.mem_range, Finset.mem_union, Finset.mem_Icc,
        contains_cons, Bool.or_eq_true, decide_eq_true_eq]
      constructor
      · rintro ⟨hn, h | h⟩
        · exact .inl h
        · exact .inr ⟨hn, h⟩
      · rintro (h | ⟨hn, h⟩)
        · exact ⟨by omega, .inl h⟩
        · exact ⟨hn, .inr h⟩
    have hdisj : Disjoint (Finset.Icc r.1 r.2) ((Finset.range N).filter fun n => contains rs n = true) := by
      rw [Finset.disjoint_left]
      intro n hn hn'
      simp only [Finset.mem_filter, contains, List.any_eq_true, Bool.and_eq_true,
        decide_eq_true_eq] at hn'
      obtain ⟨-, s, hs, hs1, -⟩ := hn'
      have hapart := lt_of_wellFormed hw s hs
      rw [Finset.mem_Icc] at hn
      omega
    rw [hsplit, Finset.card_union_of_disjoint hdisj, Nat.card_Icc,
      card_filter_contains (wellFormed_tail hw) fun s hs => hN s (List.mem_cons_of_mem _ hs),
      count_cons]

end Ranges

namespace Text

/-- Of the code points, 29 are white space: the 25 of the property White_Space and the four
information separators. -/
theorem card_blank :
    ((Finset.range 0x110000).filter fun n => blankRanges.contains n = true).card = 29 := by
  rw [Ranges.card_filter_contains (by decide) (by decide)]
  decide

/-- Of the code points, 788 are digits. -/
theorem card_digit :
    ((Finset.range 0x110000).filter fun n => digitRanges.contains n = true).card = 788 := by
  rw [Ranges.card_filter_contains (by decide) (by decide)]
  decide

/-- Of the 1114112 code points, 969596 are unprintable. -/
theorem card_unprintable :
    ((Finset.range 0x110000).filter fun n => unprintableRanges.contains n = true).card = 969596 := by
  rw [Ranges.card_filter_contains (by decide +kernel) (by decide +kernel)]
  decide +kernel

/-- Each run of ten decimal digits lies in one range of digits. -/
theorem decimalZeros_digitRanges : ∀ z ∈ decimalZeros, ∃ r ∈ digitRanges, r.1 ≤ z ∧ z + 9 ≤ r.2 := by
  decide +kernel

/-- A decimal digit is a digit, and its value is below ten. -/
theorem isDigit_of_decimalValue? {c : Char} {d : Nat} (h : decimalValue? c = some d) :
    isDigit c = true ∧ d < 10 := by
  simp only [decimalValue?, Option.map_eq_some_iff] at h
  obtain ⟨z, hz, rfl⟩ := h
  have hrun : z ≤ c.toNat ∧ c.toNat < z + 10 := by simpa using List.find?_some hz
  obtain ⟨r, hr, hr1, hr2⟩ := decimalZeros_digitRanges z (List.mem_of_find?_eq_some hz)
  refine ⟨?_, by omega⟩
  simp only [isDigit, Ranges.contains, List.any_eq_true, Bool.and_eq_true, decide_eq_true_eq]
  exact ⟨r, hr, by omega, by omega⟩

end Text

end CompletionClient
