import CompletionClient.Metadata
import CompletionClient.Proofs.Path.Normal
/-!
# IDE versions have three pieces

The editor's version goes into every request's metadata in three pieces
(`Version.normalize`): the non-empty pieces between the dots of the trimmed
text (`Version.givenPieces`), padded with `0` and cut after the third, with a
single `0` standing in when there are none.

Main statement (`Version.normalized_versions_have_three_pieces`): split again
at its dots, a normalised version gives back exactly the first three given
pieces, `0` filling the places of missing ones; so it has three pieces, none
empty and none holding a dot (`Version.ThreePieces`).  Every metadata that a
source builds carries such a version, and a source whose editor reports a
text or nothing and whose fallback is a text builds metadata whenever the
user is signed in.

The argument: splitting at a character undoes joining at it when no piece
holds the character (`Version.splitDots_intercalate`), pieces cut at dots hold
no dot (`Version.dot_not_mem_of_mem_splitDots`), so every place of the given
pieces read with `0` as default is a good piece (`Version.givenPieces_getD`),
and padding a list of pieces
with `0` and cutting it after the third is reading its first three places with
`0` as default (`Version.pad_take_three`).

Normalising is not idempotent: the text is trimmed as a whole before it is
split, so white space inside a kept piece stays, and once the pieces around it
are dropped as empty or cut after the third it stands at an end of the result.
Second statement (`Version.normalize_twice_eq_iff_trimmed`): normalising a
normalised version gives it back exactly when it has no white space at either
end.  Trimming three pieces joined by dots trims only the first at its start
and the last at its end (`Text.trim_join_three`), and three pieces normalise to
themselves exactly when that trimming leaves them as they are
(`Version.normalize_join_three_eq_iff`).
-/

namespace CompletionClient

namespace Version

/-- The non-empty pieces between the dots of a trimmed version text. -/
def givenPieces (v : String) : List String := (splitDots (Text.trim v)).filter (!·.isEmpty)

/-- A version of exactly three pieces between its dots, none empty and none holding a dot. -/
def ThreePieces (t : String) : Prop :=
  (splitDots t).length = 3 ∧ ∀ p ∈ splitDots t, p ≠ "" ∧ '.' ∉ p.toList

/-- Pieces cut at dots hold no dot. -/
theorem dot_not_mem_of_mem_splitDots {s p : String} (h : p ∈ splitDots s) : '.' ∉ p.toList := by
  obtain ⟨piece, hpiece, rfl⟩ := List.mem_map.1 h
  rw [String.toList_ofList]
  exact not_mem_of_mem_splitOn hpiece

/-- Splitting at dots undoes joining with dots, when no piece holds a dot. -/
theorem splitDots_intercalate {ps : List String} (hne : ps ≠ []) (h : ∀ p ∈ ps, '.' ∉ p.toList) :
    splitDots (".".intercalate ps) = ps := by
  have hchars : ∀ l ∈ ps.map String.toList, '.' ∉ l := by
    intro l hl
    obtain ⟨p, hp, rfl⟩ := List.mem_map.1 hl
    exact h p hp
  have hsplit := List.splitOn_intercalate '.' hchars (by simpa using hne)
  simp only [splitDots, String.toList_intercalate]
  rw [show ".".toList = ['.'] from rfl, hsplit, List.map_map]
  have hid : String.ofList ∘ String.toList = id := funext fun _ => String.ofList_toList
  rw [hid, List.map_id]

/-- Padding pieces with `0` and cutting after the third reads their first three places, `0`
standing in for a missing one; a single `0` for no pieces changes nothing. -/
theorem pad_take_three (ps : List String) :
    ((if ps.isEmpty then ["0"] else ps) ++ ["0", "0"]).take 3 =
      [ps.getD 0 "0", ps.getD 1 "0", ps.getD 2 "0"] := by
  rcases ps with _ | ⟨a, _ | ⟨b, _ | ⟨c, rest⟩⟩⟩ <;> simp

/-- Every place of the given pieces, `0` standing in for a missing one, holds a piece that is not
empty and holds no dot. -/
theorem givenPieces_getD (v : String) (i : Nat) :
    (givenPieces v).getD i "0" ≠ "" ∧ '.' ∉ ((givenPieces v).getD i "0").toList := by
  rw [List.getD_eq_getElem?_getD]
  cases hi : (givenPieces v)[i]? with
  | none => exact ⟨by decide, by decide⟩
  | some p =>
    -- a given piece was kept for not being empty, and was cut at dots
    obtain ⟨hmem, hne⟩ := List.mem_filter.1 (List.mem_of_getElem? hi)
    exact ⟨by simpa using hne, dot_not_mem_of_mem_splitDots hmem⟩

/-- A normalised version is its first three given pieces joined by dots, `0` filling the missing
places. -/
theorem normalize_eq_join (v : String) :
    normalize v = ".".intercalate
      [(givenPieces v).getD 0 "0", (givenPieces v).getD 1 "0", (givenPieces v).getD 2 "0"] := by
  rw [normalize, ← givenPieces, pad_take_three]

/-- A normalised version split at its dots gives the first three given pieces, `0` filling the
missing places. -/
theorem splitDots_normalize (v : String) :
    splitDots (normalize v) =
      [(givenPieces v).getD 0 "0", (givenPieces v).getD 1 "0", (givenPieces v).getD 2 "0"] := by
  rw [normalize_eq_join]
  refine splitDots_intercalate (by simp) fun p hp => ?_
  simp only [List.mem_cons, List.not_mem_nil, or_false] at hp
  rcases hp with h | h | h <;> rw [h] <;> exact (givenPieces_getD v _).2

example : normalize " 15..2 " = "15.2.0" := by decide

example : splitDots (normalize " . ") = ["0", "0", "0"] := by decide

/-- A normalised version has three pieces. -/
theorem threePieces_normalize (v : String) : ThreePieces (normalize v) := by
  refine ⟨by rw [splitDots_normalize]; rfl, fun p hp => ⟨?_, dot_not_mem_of_mem_splitDots hp⟩⟩
  rw [splitDots_normalize] at hp
  simp only [List.mem_cons, List.not_mem_nil, or_false] at hp
  rcases hp with h | h | h <;> rw [h] <;> exact (givenPieces_getD v _).1

end Version

namespace MetadataSource

/-- The IDE version a source gives is a normalised version. -/
theorem ideVersion_eq_normalize {s : MetadataSource} {t : String} (h : s.ideVersion = .ok t) :
    ∃ v, t = Version.normalize v := by
  simp only [ideVersion, Except.map] at h
  split at h
  · cases h
  · injection h with h
    exact ⟨_, h.symm⟩

/-- Metadata carries the IDE version of its source. -/
theorem ideVersion_of_build {s : MetadataSource} {creds : Credentials} {requestId extensionVersion : Value}
    {m : Metadata} (h : s.build creds requestId extensionVersion = .ok m) :
    ∃ t, s.ideVersion = .ok t ∧ m.ideVersion = .str t := by
  cases hk : creds.key? with
  | none => simp [build, hk] at h
  | some key =>
    cases hv : s.ideVersion with
    | error e => simp [build, hk, hv, bind, Except.bind] at h
    | ok t =>
      simp only [build, hk, hv, bind, Except.bind, pure, Except.pure, Except.ok.injEq] at h
      exact ⟨t, rfl, by rw [← h]⟩

/-- What the editor reports as its version is a text or nothing. -/
def ReportsTextOrNothing (s : MetadataSource) : Prop :=
  s.reportedIdeVersion = none ∨ s.reportedIdeVersion = some .null ∨
    ∃ r, s.reportedIdeVersion = some (.str r)

/-- A source that reports a text or nothing, with a text as fallback, always has an IDE version. -/
theorem ideVersion_ok {s : MetadataSource} (hr : s.ReportsTextOrNothing) {f : String}
    (hf : s.fallbackIdeVersion = .str f) : ∃ t, s.ideVersion = .ok t := by
  -- either the report or the fallback is chosen, and both are texts
  have hchosen : ∃ x, (if (s.reportedIdeVersion.getD .null).truthy then s.reportedIdeVersion.getD .null
      else s.fallbackIdeVersion) = .str x := by
    rcases hr with hr | hr | ⟨r, hr⟩ <;> simp only [hr, Option.getD_none, Option.getD_some]
    · exact ⟨f, by simp [Value.truthy, hf]⟩
    · exact ⟨f, by simp [Value.truthy, hf]⟩
    · by_cases ht : (Value.str r).truthy <;> simp only [ht] <;> simp [hf]
  obtain ⟨x, hx⟩ := hchosen
  exact ⟨Version.normalize x, by simp only [ideVersion, hx, Version.textOf, Except.map]⟩

end MetadataSource

namespace Version

/-- A normalised version splits at its dots into its first three given pieces, `0` filling the
missing places, so it has three pieces; every metadata carries such an IDE version, and a source
that reports a text or nothing, with a text as fallback, builds metadata for a signed-in user. -/
theorem normalized_versions_have_three_pieces :
    (∀ v : String,
      splitDots (normalize v) =
        [(givenPieces v).getD 0 "0", (givenPieces v).getD 1 "0", (givenPieces v).getD 2 "0"] ∧
      ThreePieces (normalize v)) ∧
    (∀ (s : MetadataSource) (creds : Credentials) (requestId extensionVersion : Value) (m : Metadata),
      s.build creds requestId extensionVersion = .ok m → ∃ t, m.ideVersion = .str t ∧ ThreePieces t) ∧
    (∀ (s : MetadataSource) (creds : Credentials) (requestId extensionVersion : Value) (f : String),
      s.ReportsTextOrNothing → s.fallbackIdeVersion = .str f → creds.key?.isSome →
        ∃ m, s.build creds requestId extensionVersion = .ok m) := by
  refine ⟨fun v => ⟨splitDots_normalize v, threePieces_normalize v⟩, ?_, ?_⟩
  · intro s creds requestId extensionVersion m h
    obtain ⟨t, hs, hm⟩ := MetadataSource.ideVersion_of_build h
    obtain ⟨v, hv⟩ := MetadataSource.ideVersion_eq_normalize hs
    exact ⟨t, hm, hv ▸ threePieces_normalize v⟩
  · intro s creds requestId extensionVersion f hr hf hkey
    obtain ⟨t, ht⟩ := MetadataSource.ideVersion_ok hr hf
    obtain ⟨key, hk⟩ := Option.isSome_iff_exists.1 hkey
    exact ⟨_, by simp only [MetadataSource.build, hk, ht, bind, Except.bind, pure, Except.pure]; rfl⟩

/-- An editor that reports nothing falls back to the configured version. -/
theorem builds_with_fallback_version :
    ∃ m, ({ ideName := .str "xcode", fallbackIdeVersion := .str "14", reportedIdeVersion := some .null,
            sessionId := .str "session" } : MetadataSource).build ⟨.str "key"⟩ (.int 1)
          (.str "1.2.104") = .ok m :=
  normalized_versions_have_three_pieces.2.2 _ _ _ _ "14" (.inr (.inl rfl)) rfl rfl

end Version

/-! ## Normalising twice -/

/-- Dropping the leading elements that pass a test stops at an element that fails it. -/
theorem dropWhile_append_cons {α : Type} {p : α → Bool} {x : α} (hx : p x = false)
    (l₁ l₂ : List α) : (l₁ ++ x :: l₂).dropWhile p = l₁.dropWhile p ++ x :: l₂ := by
  rw [List.dropWhile_append]
  split
  · rename_i h
    rw [List.isEmpty_iff.1 h, List.dropWhile_cons, hx]
    rfl
  · rfl

namespace Text

/-- A text with the white space at its start removed. -/
def trimStart (s : String) : String := String.ofList (s.toList.dropWhile isBlank)

/-- A text with the white space at its end removed. -/
def trimEnd (s : String) : String := String.ofList (s.toList.reverse.dropWhile isBlank).reverse

theorem mem_of_mem_trimStart {s : String} {x : Char} (h : x ∈ (trimStart s).toList) :
    x ∈ s.toList := by
  rw [trimStart, String.toList_ofList] at h
  exact (List.dropWhile_suffix _).subset h

theorem mem_of_mem_trimEnd {s : String} {x : Char} (h : x ∈ (trimEnd s).toList) : x ∈ s.toList := by
  rw [trimEnd, String.toList_ofList, List.mem_reverse] at h
  exact List.mem_reverse.1 ((List.dropWhile_suffix _).subset h)

/-- Trimming three pieces joined by dots trims the first piece at its start and the last at its
end: a dot is no white space, so trimming stops there. -/
theorem trim_join_three (a b c : String) :
    trim (".".intercalate [a, b, c]) = ".".intercalate [trimStart a, b, trimEnd c] := by
  have hdot : isBlank '.' = false := by decide
  rw [← String.toList_inj]
  simp only [trim, trimStart, trimEnd, String.toList_intercalate, String.toList_ofList]
  simp [hdot, dropWhile_append_cons]

end Text

namespace Version

/-- Joining pieces free of dots by dots is one-to-one. -/
theorem intercalate_inj {ps qs : List String} (hps : ps ≠ []) (hqs : qs ≠ [])
    (hp : ∀ p ∈ ps, '.' ∉ p.toList) (hq : ∀ q ∈ qs, '.' ∉ q.toList) :
    ".".intercalate ps = ".".intercalate qs ↔ ps = qs := by
  constructor
  · intro h
    calc ps = splitDots (".".intercalate ps) := (splitDots_intercalate hps hp).symm
      _ = splitDots (".".intercalate qs) := by rw [h]
      _ = qs := splitDots_intercalate hqs hq
  · rintro rfl
    rfl

/-- Trimming the outer pieces keeps them free of dots. -/
theorem dotFree_trim_pieces {a b c : String} (h : ∀ p ∈ [a, b, c], '.' ∉ p.toList) :
    ∀ p ∈ [Text.trimStart a, b, Text.trimEnd c], '.' ∉ p.toList := by
  simp only [List.mem_cons, List.not_mem_nil, or_false] at h ⊢
  rintro p (rfl | rfl | rfl)
  · exact fun hp => h a (.inl rfl) (Text.mem_of_mem_trimStart hp)
  · exact h p (.inr (.inl rfl))
  · exact fun hp => h c (.inr (.inr rfl)) (Text.mem_of_mem_trimEnd hp)

/-- A place of pieces free of dots, `0` standing in for a missing one, holds no dot. -/
theorem getD_dotFree {ps : List String} (h : ∀ p ∈ ps, '.' ∉ p.toList) (i : Nat) :
    '.' ∉ (ps.getD i "0").toList := by
  rw [List.getD_eq_getElem?_getD]
  cases hi : ps[i]? with
  | none => decide
  | some p => exact h p (List.mem_of_getElem? hi)

/-- The first three places of pieces free of dots, `0` standing in for missing ones, hold no
dot. -/
theorem dotFree_getD_three {ps : List String} (h : ∀ p ∈ ps, '.' ∉ p.toList) :
    ∀ p ∈ [ps.getD 0 "0", ps.getD 1 "0", ps.getD 2 "0"], '.' ∉ p.toList := by
  simp only [List.mem_cons, List.not_mem_nil, or_false]
  rintro p (rfl | rfl | rfl) <;> exact getD_dotFree h _

/-- The given pieces of a version hold no dot. -/
theorem dotFree_givenPieces (v : String) : ∀ p ∈ givenPieces v, '.' ∉ p.toList :=
  fun _ hp => dot_not_mem_of_mem_splitDots (List.mem_filter.1 hp).1

/-- Normalising three pieces joined by dots normalises the first piece trimmed at its start, the
second, and the last trimmed at its end. -/
theorem normalize_join_three {a b c : String} (h : ∀ p ∈ [a, b, c], '.' ∉ p.toList) :
    normalize (".".intercalate [a, b, c]) =
      let ps := [Text.trimStart a, b, Text.trimEnd c].filter (!·.isEmpty)
      ".".intercalate [ps.getD 0 "0", ps.getD 1 "0", ps.getD 2 "0"] := by
  rw [normalize, Text.trim_join_three, splitDots_intercalate (by simp) (dotFree_trim_pieces h),
    pad_take_three]

/-- Three pieces joined by dots, none of them empty, normalise to themselves exactly when the
first has no white space at its start and the last none at its end. -/
theorem normalize_join_three_eq_iff {a b c : String} (ha : a ≠ "") (hb : b ≠ "") (hc : c ≠ "")
    (h : ∀ p ∈ [a, b, c], '.' ∉ p.toList) :
    normalize (".".intercalate [a, b, c]) = ".".intercalate [a, b, c] ↔
      Text.trimStart a = a ∧ Text.trimEnd c = c := by
  rw [normalize_join_three h]
  -- the pieces of the two sides agree place by place
  have hps : ∀ p ∈ [Text.trimStart a, b, Text.trimEnd c].filter (!·.isEmpty), '.' ∉ p.toList :=
    fun p hp => dotFree_trim_pieces h p (List.mem_filter.1 hp).1
  rw [intercalate_inj (by simp) (by simp) (dotFree_getD_three hps) h]
  constructor
  · intro hsplit
    -- `0` trims to itself, so it cannot stand in the place of a piece that trims to nothing
    have hzero : Text.trimStart "0" = "0" ∧ Text.trimEnd "0" = "0" := by decide
    by_cases hA : Text.trimStart a = "" <;> by_cases hC : Text.trimEnd c = "" <;>
      simp [hA, hC, hb] at hsplit
    · -- both outer pieces trim to nothing: `0` fills the last place
      rw [← hsplit.2.2, hzero.2] at hC
      exact absurd hC (by decide)
    · -- the first piece trims to nothing: the others move up and `0` fills the last place
      obtain ⟨hba, hcb, hc0⟩ := hsplit
      rw [← hc0, hzero.2] at hcb
      rw [← hba, ← hcb, hzero.1] at hA
      exact absurd hA (by decide)
    · -- the last piece trims to nothing: `0` fills its place
      rw [← hsplit.2, hzero.2] at hC
      exact absurd hC (by decide)
    · exact hsplit
  · rintro ⟨hs, he⟩
    rw [hs, he]
    simp [ha, hb, hc]

/-- Three pieces free of dots joined by dots are trimmed exactly when the first has no white space
at its start and the last none at its end. -/
theorem trim_join_three_eq_iff {a b c : String} (h : ∀ p ∈ [a, b, c], '.' ∉ p.toList) :
    Text.trim (".".intercalate [a, b, c]) = ".".intercalate [a, b, c] ↔
      Text.trimStart a = a ∧ Text.trimEnd c = c := by
  rw [Text.trim_join_three, intercalate_inj (by simp) (by simp) (dotFree_trim_pieces h) h]
  simp

/-- Normalising a normalised version gives it back exactly when it has no white space at either
end.  White space inside a kept piece can end up at an end of the version when the pieces next
to it are dropped as empty or cut after the third, and normalising again trims it. -/
theorem normalize_twice_eq_iff_trimmed (v : String) :
    normalize (normalize v) = normalize v ↔ Text.trim (normalize v) = normalize v := by
  have hdots := dotFree_getD_three (dotFree_givenPieces v)
  rw [normalize_eq_join v, normalize_join_three_eq_iff (givenPieces_getD v 0).1
    (givenPieces_getD v 1).1 (givenPieces_getD v 2).1 hdots, trim_join_three_eq_iff hdots]

/-- `14.3.0 .1` is cut after its third piece, which keeps the white space before the cut, and
normalising again trims it. -/
theorem normalize_twice_trims_cut_piece :
    normalize "14.3.0 .1" = "14.3.0 " ∧ normalize (normalize "14.3.0 .1") = "14.3.0" := by
  decide

end Version

end CompletionClient
