import CompletionClient.Proofs.Wire.Decoding
import Mathlib.Data.List.TakeWhile
import Mathlib.Tactic.IntervalCases
/-!
# Decoding undoes encoding

A server writes each completion it offers as an object with the completion's
id and text and the range it replaces.  It writes in one of two forms
(`WireForm`): the JSON form of its protocol, with keys in camel case and
64-bit integers as decimal text, or keys in snake case with integers as JSON
numbers.

Main statement (`CompletionReply.decode_encode_roundtrip`): a response written
in either form, for completions whose coordinates have at most
`Integer.digitLimit` digits, decodes to exactly one suggestion per completion,
in order, with the completion's id, text and range and the editor's cursor;
and a cursor written into a request's document decodes back to its line and
character.

The argument: decimal text reads back as the integer it writes
(`Integer.read_toString`), since its characters are an optional minus and
ASCII digits (`Integer.glyph_of_isDigit`) whose values fold back to the number
(`Integer.valueOf_toDigits`); so a written coordinate stands for its integer
(`WireForm.coordinate?_coordinate`).  A written completion has the shape that
servers send and no infinite coordinate, and stands for its own suggestion
(`WireForm.suggestionOf_item`), which the decoding lemmas of each item turn
into the decoded suggestion.
-/

namespace CompletionClient

/-! ## Decimal text reads back -/

namespace Integer

/-- An ASCII digit reads as its value. -/
theorem glyph_of_isDigit {c : Char} (h : c.isDigit = true) : glyph c = .digit (c.toNat - 48) := by
  have hc := Char.isDigit_iff_toNat.1 h
  -- an ASCII digit is the character of one of ten code points
  obtain ⟨d, hd, hcd⟩ : ∃ d, d < 10 ∧ c = Char.ofNat (48 + d) := by
    refine ⟨c.toNat - 48, by simp at hc; omega, ?_⟩
    conv_lhs => rw [← Char.ofNat_toNat c]
    congr 1
    simp at hc
    omega
  subst hcd
  interval_cases d <;> decide

/-- Digits alone, with no underscore, are read as they stand. -/
theorem digitsOf_map_digit : ∀ ds : List Nat, digitsOf (ds.map .digit) = some ds
  | [] => rfl
  | [_] => rfl
  | d :: e :: rest => by
    rw [List.map_cons, List.map_cons, digitsOf, ← List.map_cons, digitsOf_map_digit (e :: rest)]
    rfl

/-- The values of the decimal digits of a number fold back to the number. -/
theorem valueOf_toDigits (n : Nat) : valueOf ((Nat.toDigits 10 n).map (·.toNat - 48)) = n := by
  rw [valueOf, List.foldl_map]
  exact Nat.ofDigitChars_ten_toDigits

/-- The decimal digits of a number read as digits with their values. -/
theorem glyphs_toDigits (n : Nat) :
    (Nat.toDigits 10 n).map glyph = ((Nat.toDigits 10 n).map (·.toNat - 48)).map .digit := by
  rw [List.map_map]
  exact List.map_congr_left fun c hc =>
    glyph_of_isDigit (Nat.isDigit_of_mem_toDigits (by decide) (by decide) hc)

/-- A text of an optional minus and at most `digitLimit` digits reads as its value. -/
theorem read_of_glyphs {s : String} {ds : List Nat} (negative : Bool)
    (hs : s.toList.map glyph = (if negative then [Glyph.minus] else []) ++ ds.map .digit)
    (hne : ds ≠ []) (hlen : ds.length ≤ digitLimit) :
    read s = .ok (if negative then -(valueOf ds : Int) else valueOf ds) := by
  obtain ⟨d, rest, rfl⟩ := List.exists_cons_of_ne_nil hne
  -- the digits make the whole numeral, and nothing follows them
  have hnum : ∀ g ∈ Glyph.digit d :: rest.map Glyph.digit, g.inNumeral = true := by
    simp [Glyph.inNumeral]
  have htake := List.takeWhile_eq_self_iff.2 hnum
  have hdrop := List.dropWhile_eq_nil_iff.2 hnum
  have hdigits : digitsOf (Glyph.digit d :: rest.map Glyph.digit) = some (d :: rest) :=
    digitsOf_map_digit (d :: rest)
  have hfew : ¬ digitLimit < rest.length + 1 := by simpa using hlen
  cases negative <;> simp [read, hs, htake, hdrop, hdigits, hfew]

/-- The decimal writing of an integer of at most `digitLimit` digits reads back as the integer. -/
theorem read_toString (n : Int) (h : n.natAbs < 10 ^ digitLimit) : read (toString n) = .ok n := by
  have hlen : ∀ m, m < 10 ^ digitLimit → (Nat.toDigits 10 m).length ≤ digitLimit := fun m hm =>
    (Nat.length_toDigits_le_iff (by decide) (by decide)).2 hm
  cases n with
  | ofNat m =>
    have hs : (toString (Int.ofNat m)).toList.map glyph =
        (if false then [Glyph.minus] else []) ++ ((Nat.toDigits 10 m).map (·.toNat - 48)).map .digit := by
      simp only [toString, Int.repr, Nat.toList_repr, glyphs_toDigits]
      rfl
    rw [read_of_glyphs false hs (by simp) (by simpa using hlen m h), valueOf_toDigits]
    rfl
  | negSucc m =>
    have hs : (toString (Int.negSucc m)).toList.map glyph =
        (if true then [Glyph.minus] else []) ++
          ((Nat.toDigits 10 (m + 1)).map (·.toNat - 48)).map .digit := by
      simp only [toString, Int.repr, String.toList_append, Nat.toList_repr, List.map_append,
        glyphs_toDigits]
      rfl
    rw [read_of_glyphs true hs (by simp) (by simpa using hlen (m + 1) h), valueOf_toDigits]
    rfl

end Integer

/-! ## Completions in the two forms -/

/-- A completion as a server offers it: its id, its text and the range it replaces. -/
structure Completion where
  /-- The server's id of the completion. -/
  id : String
  /-- The text to insert. -/
  text : String
  /-- Where the replaced range starts. -/
  start : Point
  /-- Where the replaced range ends. -/
  stop : Point

namespace Completion

/-- The suggestion a completion stands for at a cursor. -/
def suggestion (c : Completion) (p : Cursor) : Suggestion :=
  { id := c.id, text := .str c.text, position := p, start := c.start, stop := c.stop }

/-- A completion whose coordinates have at most `Integer.digitLimit` digits. -/
def Fits (c : Completion) : Prop :=
  ∀ n ∈ [c.start.line, c.start.character, c.stop.line, c.stop.character],
    n.natAbs < 10 ^ Integer.digitLimit

end Completion

/-- How a server writes keys and integers. -/
inductive WireForm where
  /-- Keys in camel case and integers as decimal text: the JSON form of the protocol. -/
  | camel
  /-- Keys in snake case and integers as JSON numbers. -/
  | snake

namespace WireForm

/-- A key in the form, given its camel-case and snake-case spellings. -/
def key : WireForm → String → String → String
  | camel, c, _ => c
  | snake, _, s => s

/-- An integer in the form. -/
def coordinate : WireForm → Int → Value
  | camel, n => .str (toString n)
  | snake, n => .int n

/-- A point in the form. -/
def point (f : WireForm) (p : Point) : Value :=
  .obj [("row", f.coordinate p.line), ("col", f.coordinate p.character)]

/-- A completion in the form. -/
def item (f : WireForm) (c : Completion) : Value :=
  .obj [("completion", .obj [(f.key "completionId" "completion_id", .str c.id), ("text", .str c.text)]),
        ("range", .obj [(f.key "startPosition" "start_position", f.point c.start),
                        (f.key "endPosition" "end_position", f.point c.stop)])]

/-- A completion response in the form. -/
def response (f : WireForm) (cs : List Completion) : Value :=
  .obj [(f.key "completionItems" "completion_items", .list (cs.map f.item))]

/-- A written integer of at most `Integer.digitLimit` digits stands for itself. -/
theorem coordinate?_coordinate (f : WireForm) {n : Int} (h : n.natAbs < 10 ^ Integer.digitLimit) :
    (f.coordinate n).coordinate? = some n := by
  cases f with
  | camel =>
    simp only [coordinate, Value.coordinate?]
    rw [Integer.read_toString n h]
    rfl
  | snake => rfl

/-- A written point stands for its line and character. -/
theorem pointAt_point (f : WireForm) {p : Point} (hl : p.line.natAbs < 10 ^ Integer.digitLimit)
    (hc : p.character.natAbs < 10 ^ Integer.digitLimit) : (f.point p).pointAt = p := by
  change (⟨((f.coordinate p.line).coordinate?).getD 0, ((f.coordinate p.character).coordinate?).getD 0⟩
    : Point) = p
  rw [coordinate?_coordinate f hl, coordinate?_coordinate f hc]
  rfl

/-- A written completion has the shape that servers send. -/
theorem item_shaped (f : WireForm) (c : Completion) : CompletionItem.Shaped (f.item c) := by
  cases f <;> exact ⟨⟨_, rfl⟩, rfl, rfl, rfl, rfl⟩

/-- A written completion has no infinite coordinate. -/
theorem infiniteIn_item (f : WireForm) (c : Completion) : CompletionItem.infiniteIn (f.item c) = false := by
  cases f <;> rfl

/-- A written completion stands for its own suggestion. -/
theorem suggestionOf_item (f : WireForm) {c : Completion} (h : c.Fits) (p : Cursor) :
    CompletionItem.suggestionOf p (f.item c) = c.suggestion p := by
  have hstart := pointAt_point f (h c.start.line (by simp)) (h c.start.character (by simp))
  have hstop := pointAt_point f (h c.stop.line (by simp)) (h c.stop.character (by simp))
  have hid : ((if (Value.str c.id).truthy then Value.str c.id else .str "").display) = c.id := by
    by_cases hc : (Value.str c.id).truthy
    · simp [hc, Value.display]
    · -- an id that counts as false is the empty text, which the default repeats
      have hempty : c.id = "" := by simpa [Value.truthy] using hc
      simp [hempty, Value.display]
  cases f <;> simp only [CompletionItem.suggestionOf, Completion.suggestion] <;>
    rw [← hid, ← hstart, ← hstop] <;> rfl

end WireForm

namespace CompletionReply

/-- A response written in either form, for completions that fit, decodes to one suggestion per
completion, in order; a cursor written into a document decodes back to its line and
character. -/
theorem decode_encode_roundtrip :
    (∀ (f : WireForm) (cs : List Completion), (∀ c ∈ cs, c.Fits) → ∀ p : Cursor,
      (decode (f.response cs)).map (·.suggestions p) = .ok (cs.map (·.suggestion p))) ∧
    (∀ (d : DocumentPayload) (line character : Int), d.cursor = some ⟨.int line, .int character⟩ →
      (WirePoint.decode (d.toValue.entry "cursor_position")).map (·.map WirePoint.toPoint) =
        .ok (some ⟨line, character⟩)) := by
  refine ⟨fun f cs hfit p => ?_, fun d line character hd => ?_⟩
  · have hitems : ∀ x ∈ cs.map f.item, (CompletionItem.decode x).map (·.toSuggestion p) =
        if CompletionItem.infiniteIn x then .error .infiniteInteger
        else .ok (CompletionItem.suggestionOf p x) := by
      intro x hx
      obtain ⟨c, -, rfl⟩ := List.mem_map.1 hx
      exact CompletionItem.decode_toSuggestion (f.item_shaped c) p
    have heach := map_mapM CompletionItem.decode (·.toSuggestion p) (cs.map f.item)
    rw [mapM_of_each _ hitems] at heach
    have hnone : (cs.map f.item).any CompletionItem.infiniteIn = false := by
      simp [WireForm.infiniteIn_item]
    have hsugg : (cs.map f.item).map (CompletionItem.suggestionOf p) = cs.map (·.suggestion p) := by
      rw [List.map_map]
      exact List.map_congr_left fun c hc => f.suggestionOf_item (hfit c hc) p
    simp only [hnone, hsugg, Bool.false_eq_true, if_false] at heach
    have hlist : (f.response cs).pick "completionItems" "completion_items" = .ok (.list (cs.map f.item)) := by
      cases f <;> rfl
    simp only [decode, hlist, bind, Except.bind, Value.elements, pure, Except.pure]
    rw [← heach]
    cases (cs.map f.item).mapM CompletionItem.decode <;> rfl
  · have hentry : d.toValue.entry "cursor_position" = .obj [("row", .int line), ("col", .int character)] := by
      simp only [DocumentPayload.toValue, hd, List.cons_append, List.nil_append]
      rfl
    rw [hentry]
    rfl

/-- A completion with an empty id, a zero and a negative coordinate, written as text, comes back
as it was written; so does a cursor. -/
theorem decode_encode_of_empty_id :
    (∀ c ∈ [(⟨"", "x", ⟨0, -7⟩, ⟨12, 3⟩⟩ : Completion)], c.Fits) ∧
    (decode (WireForm.camel.response [⟨"", "x", ⟨0, -7⟩, ⟨12, 3⟩⟩])).map
        (·.suggestions ⟨.int 0, .int 0⟩) =
      .ok ([(⟨"", "x", ⟨0, -7⟩, ⟨12, 3⟩⟩ : Completion)].map (·.suggestion ⟨.int 0, .int 0⟩)) ∧
    (WirePoint.decode ((⟨.str "/a.py", .str "a.py", .str "", .str "python", .int 33,
        some ⟨.int 4, .int (-1)⟩⟩ : DocumentPayload).toValue.entry "cursor_position")).map
        (·.map WirePoint.toPoint) = .ok (some ⟨4, -1⟩) :=
  have hfit : ∀ c ∈ [(⟨"", "x", ⟨0, -7⟩, ⟨12, 3⟩⟩ : Completion)], c.Fits := by
    intro c hc
    rw [List.mem_singleton] at hc
    subst hc
    intro n hn
    -- the coordinates have at most two digits
    have hsmall : n.natAbs < 10 ^ 2 := by
      simp only [List.mem_cons, List.not_mem_nil, or_false] at hn
      rcases hn with h | h | h | h <;> rw [h] <;> decide
    exact Nat.lt_of_lt_of_le hsmall (Nat.pow_le_pow_right (by decide) (by decide))
  ⟨hfit, decode_encode_roundtrip.1 .camel _ hfit _, decode_encode_roundtrip.2 _ 4 (-1) rfl⟩

end CompletionReply

end CompletionClient
