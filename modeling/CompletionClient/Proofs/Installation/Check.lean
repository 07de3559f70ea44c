import CompletionClient.Installation
import Mathlib.Data.List.TakeWhile
/-!
# What an installation check finds

`Installation.check` looks at an executable folder and compares the version
written there with the supported range.

Main statement (`Installation.check_outcome`): the check fails with
`Fault.installing` exactly when the installation marker stands in the folder.
Without the marker and with the binary present, a version file whose bytes are
not UTF-8 makes the check fail with the decoding fault.  Otherwise nothing is
installed when the binary is missing or the version file is missing, a folder,
or all white space; and a version whose numbers and the bounds' numbers can be
read is outdated below the minimum, unsupported above the latest and installed
otherwise, the numbers compared as lists in lexicographic order
(`Installation.rangeOutcome`).

The steps: `Version.compare` is the lexicographic order of lists
(`Version.compare_eq`, with its two readings `Version.compare_eq_lt_iff` and
`Version.compare_eq_gt_iff`); a text of white
space trims to nothing, whatever its line ends (`Installation.trim_blank`); and
the faults of decoding and of reading numbers are never the marker's
(`Utf8.decodeFrom_fault`, `Version.parse_fault`).
-/

namespace CompletionClient

/-! ## Comparing versions -/

namespace Version

/-- Versions compare as their numbers in lexicographic order. -/
theorem compare_eq : ∀ a b : List Nat,
    compare a b = if a < b then .lt else if b < a then .gt else .eq
  | [], [] => by simp [compare]
  | [], _ :: _ => by simp [compare]
  | _ :: _, [] => by simp [compare]
  | x :: xs, y :: ys => by
    rw [compare]
    simp only [List.cons_lt_cons_iff]
    by_cases hxy : x < y
    · simp [hxy]
    · by_cases hyx : y < x
      · simp [hxy, hyx, Nat.ne_of_gt hyx]
      · -- equal first numbers: the rest decides
        have hxy' : x = y := by omega
        subst hxy'
        simp [compare_eq xs ys]

/-- A version is less than another in the lexicographic order of their numbers. -/
theorem compare_eq_lt_iff (a b : List Nat) : compare a b = .lt ↔ a < b := by
  rw [compare_eq]
  by_cases hab : a < b
  · simp [hab]
  · by_cases hba : b < a <;> simp [hab, hba]

/-- A version is greater than another in the lexicographic order of their numbers. -/
theorem compare_eq_gt_iff (a b : List Nat) : compare a b = .gt ↔ b < a := by
  rw [compare_eq]
  by_cases hab : a < b
  · simp [hab, List.lt_asymm hab]
  · by_cases hba : b < a <;> simp [hab, hba]

end Version

/-! ## Faults of reading -/

/-- Whether a fault is one of reading a decimal integer: a text that is no integer, or one of
too many digits. -/
def Fault.ofNumber : Fault → Bool
  | .notAnInteger _ | .tooManyDigits .. => true
  | _ => false

/-- A text read as an integer fails only as no integer or with too many digits. -/
theorem Integer.read_fault {s : String} {e : Fault} (h : Integer.read s = .error e) : e.ofNumber := by
  simp only [Integer.read] at h
  -- every way out of the reading is a value, a text that is no integer, or too many digits
  repeat' split at h
  all_goals cases h <;> rfl

namespace Version

/-- The numbers of a version fail to be read only as integers fail. -/
theorem parse_fault {v : String} {e : Fault} (h : parse v = .error e) : e.ofNumber := by
  -- some piece fails, and a piece fails only as its digits do
  have hpiece : ∀ piece, pieceNumber piece = .error e → e.ofNumber := by
    intro piece hp
    simp only [pieceNumber] at hp
    split at hp
    · cases hp
    · cases hr : Integer.read (String.ofList (piece.toList.filter Text.isDigit)) with
      | ok n => simp [hr, Except.map] at hp
      | error e' =>
        simp only [hr, Except.map, Except.error.injEq] at hp
        exact hp ▸ Integer.read_fault hr
  have hmapM : ∀ pieces : List String, pieces.mapM pieceNumber = .error e → e.ofNumber := by
    intro pieces
    induction pieces with
    | nil => intro h; cases h
    | cons piece rest ih =>
      intro h
      rw [List.mapM_cons] at h
      cases hp : pieceNumber piece with
      | error e' =>
        simp only [hp, bind, Except.bind, Except.error.injEq] at h
        exact hpiece piece (h ▸ hp)
      | ok n =>
        cases hr : rest.mapM pieceNumber with
        | error e' =>
          simp only [hp, hr, bind, Except.bind, Except.error.injEq] at h
          exact ih (h ▸ hr)
        | ok ns => simp [hp, hr, bind, Except.bind, pure, Except.pure] at h
  exact hmapM _ h

end Version

namespace Utf8

/-- Decoding fails only on bytes that are not UTF-8, with a fault that names them. -/
theorem decodeFrom_fault {pos : Nat} {acc : List Char} {bs : List UInt8} {e : Fault}
    (h : decodeFrom pos acc bs = .error e) : ∃ byte start stop reason, e = .notUtf8 byte start stop reason := by
  fun_induction decodeFrom pos acc bs with
  | case1 => cases h
  | case2 pos acc b rest n w hstep ih => exact ih h
  | case3 pos acc b rest n reason hstep =>
    injection h with h
    exact ⟨_, _, _, _, h.symm⟩

end Utf8

namespace Installation

/-! ## The version file -/

/-- Line ends are white space, so unifying them keeps a text of white space one. -/
theorem unifyLineEnds_blank {cs : List Char} (h : ∀ c ∈ cs, Text.isBlank c) :
    ∀ c ∈ unifyLineEnds cs, Text.isBlank c := by
  fun_induction unifyLineEnds cs with
  | case1 rest ih =>
    intro c hc
    rcases List.mem_cons.1 hc with rfl | hc
    · decide
    · exact ih (fun c hc => h c (by simp [hc])) c hc
  | case2 rest _ ih =>
    intro c hc
    rcases List.mem_cons.1 hc with rfl | hc
    · decide
    · exact ih (fun c hc => h c (by simp [hc])) c hc
  | case3 d rest _ _ ih =>
    intro c hc
    rcases List.mem_cons.1 hc with rfl | hc
    · exact h c List.mem_cons_self
    · exact ih (fun c hc => h c (by simp [hc])) c hc
  | case4 => intro c hc; cases hc

/-- A text of white space trims to nothing, whatever its line ends. -/
theorem trim_blank {t : String} (h : ∀ c ∈ t.toList, Text.isBlank c) :
    Text.trim (String.ofList (unifyLineEnds t.toList)) = "" := by
  have hdrop : (unifyLineEnds t.toList).dropWhile Text.isBlank = [] :=
    List.dropWhile_eq_nil_iff.2 (unifyLineEnds_blank h)
  simp [Text.trim, hdrop]

/-- A version file that is missing, a folder, or a text of white space holds no version. -/
theorem readVersion_blank {entry : Entry}
    (h : entry = .absent ∨ entry = .folder ∨
      ∃ bytes t, entry = .file bytes ∧ Utf8.decode bytes = .ok t ∧ ∀ c ∈ t.toList, Text.isBlank c) :
    readVersion entry = .ok none := by
  rcases h with rfl | rfl | ⟨bytes, t, rfl, hdecode, hblank⟩
  · rfl
  · rfl
  · simp [readVersion, hdecode, trim_blank hblank, bind, Except.bind, pure, Except.pure]

/-- Reading a version file fails only on bytes that are not UTF-8, with the decoding fault. -/
theorem readVersion_fault {entry : Entry} {e : Fault} (h : readVersion entry = .error e) :
    ∃ bytes, entry = .file bytes ∧ Utf8.decode bytes = .error e := by
  cases entry with
  | file bytes =>
    cases hdecode : Utf8.decode bytes with
    | error e' =>
      simp only [readVersion, hdecode, bind, Except.bind, Except.error.injEq] at h
      exact ⟨bytes, rfl, h ▸ hdecode⟩
    | ok t => simp [readVersion, hdecode, bind, Except.bind, pure, Except.pure] at h
  | absent => cases h
  | folder => cases h

/-! ## Outcomes of a check -/

/-- The outcome of a version text against the supported range, from its numbers and the numbers
of the minimum and the latest version: outdated below the minimum, unsupported above the latest
and installed otherwise, an outdated or unsupported version naming the latest as required. -/
def rangeOutcome (v : String) (found lo hi : List Nat) (latest : Value) : InstallStatus :=
  if found < lo then { kind := .outdated, version := .str v, required := latest }
  else if hi < found then { kind := .unsupported, version := .str v, required := latest }
  else { kind := .installed, version := .str v }

section

variable {folder : ExecutableFolder} {latest minimum : String}

/-- The marker of an installation in progress fails the check. -/
theorem check_of_marker (h : folder.marker ≠ .absent) :
    check folder (.str latest) (.str minimum) = .error .installing := by
  simp only [check, bne_iff_ne, ne_eq, h, not_false_eq_true, if_true]
  rfl

/-- Without the binary nothing is installed. -/
theorem check_of_no_binary (hm : folder.marker = .absent) (hb : folder.binary = .absent) :
    check folder (.str latest) (.str minimum) = .ok { kind := .notInstalled } := by
  simp only [check, hm, hb, bne_self_eq_false, Bool.false_eq_true, if_false, BEq.rfl, if_true]
  rfl

/-- Without a version in the version file nothing is installed. -/
theorem check_of_no_version (hm : folder.marker = .absent) (hb : folder.binary ≠ .absent)
    (hr : readVersion folder.versionFile = .ok none) :
    check folder (.str latest) (.str minimum) = .ok { kind := .notInstalled } := by
  simp only [check, hm, hb, hr, bne_self_eq_false, Bool.false_eq_true, if_false, beq_iff_eq]
  rfl

/-- A version file whose bytes are not UTF-8 fails the check with the decoding fault. -/
theorem check_of_undecodable (hm : folder.marker = .absent) (hb : folder.binary ≠ .absent)
    {bytes : List UInt8} (hf : folder.versionFile = .file bytes) {e : Fault}
    (hd : Utf8.decode bytes = .error e) : check folder (.str latest) (.str minimum) = .error e := by
  have hr : readVersion folder.versionFile = .error e := by
    simp [readVersion, hf, hd, bind, Except.bind]
  simp only [check, hm, hb, hr, bne_self_eq_false, Bool.false_eq_true, if_false, beq_iff_eq]
  rfl

/-- A version whose numbers and the bounds' numbers can be read gets its outcome in the range. -/
theorem check_of_version (hm : folder.marker = .absent) (hb : folder.binary ≠ .absent) {v : String}
    (hr : readVersion folder.versionFile = .ok (some v)) {found lo hi : List Nat}
    (hv : Version.parse v = .ok found) (hlo : Version.parse minimum = .ok lo)
    (hhi : Version.parse latest = .ok hi) :
    check folder (.str latest) (.str minimum) = .ok (rangeOutcome v found lo hi (.str latest)) := by
  have hb' : (folder.binary == .absent) = false := by simpa using hb
  simp only [check, hm, hb', hr, hv, hlo, hhi, Version.textOf, rangeOutcome, bind, Except.bind, pure,
    Except.pure, bne_self_eq_false, Bool.false_eq_true, if_false, beq_iff_eq,
    Version.compare_eq_lt_iff, Version.compare_eq_gt_iff]
  -- the two comparisons decide the outcome
  by_cases hlow : found < lo <;> by_cases hhigh : hi < found <;> simp [hlow, hhigh]

/-- Without the marker, a check fails only with the fault of decoding the version file or of
reading the numbers of a version. -/
theorem fault_of_check (hm : folder.marker = .absent) {e : Fault}
    (h : check folder (.str latest) (.str minimum) = .error e) :
    (∃ bytes, folder.versionFile = .file bytes ∧ Utf8.decode bytes = .error e) ∨ e.ofNumber := by
  by_cases hb : folder.binary = .absent
  · rw [check_of_no_binary hm hb] at h
    cases h
  have hb' : (folder.binary == .absent) = false := by simpa using hb
  cases hr : readVersion folder.versionFile with
  | error e' =>
    have he : e' = e := by simpa [check, hm, hb', hr, bind, Except.bind] using h
    exact .inl (he ▸ readVersion_fault hr)
  | ok found? =>
    cases found? with
    | none =>
      rw [check_of_no_version hm hb hr] at h
      cases h
    | some v =>
      right
      simp only [check, hm, hb', hr, Version.textOf, bind, Except.bind, pure, Except.pure,
        bne_self_eq_false, Bool.false_eq_true, if_false] at h
      -- the check stops at the first of the three versions whose numbers cannot be read
      repeat' split at h
      all_goals cases h <;> exact Version.parse_fault (by assumption)

/-- The check fails with the marker's fault exactly when the marker stands in the folder. -/
theorem check_eq_installing_iff :
    check folder (.str latest) (.str minimum) = .error .installing ↔ folder.marker ≠ .absent := by
  refine ⟨fun h hm => ?_, check_of_marker⟩
  rcases fault_of_check hm h with ⟨bytes, -, hd⟩ | hnum
  · obtain ⟨byte, start, stop, reason, heq⟩ := Utf8.decodeFrom_fault hd
    cases heq
  · cases hnum

end

/-- An installation check fails with the marker's fault exactly when the marker stands in the
folder.  Without the marker and with the binary present, a version file whose bytes are not UTF-8
fails the check with the decoding fault.  Nothing is installed when the binary is missing or the
version file is missing, a folder or white space; and a version whose numbers and the bounds'
numbers can be read gets its outcome in the supported range. -/
theorem check_outcome (folder : ExecutableFolder) (latest minimum : String) :
    (check folder (.str latest) (.str minimum) = .error .installing ↔ folder.marker ≠ .absent) ∧
    (folder.marker = .absent → folder.binary ≠ .absent → ∀ bytes e, folder.versionFile = .file bytes →
      Utf8.decode bytes = .error e → check folder (.str latest) (.str minimum) = .error e) ∧
    (folder.marker = .absent →
      (folder.binary = .absent ∨ folder.versionFile = .absent ∨ folder.versionFile = .folder ∨
        ∃ bytes t, folder.versionFile = .file bytes ∧ Utf8.decode bytes = .ok t ∧
          ∀ c ∈ t.toList, Text.isBlank c) →
      check folder (.str latest) (.str minimum) = .ok { kind := .notInstalled }) ∧
    (folder.marker = .absent → folder.binary ≠ .absent → ∀ v found lo hi,
      readVersion folder.versionFile = .ok (some v) → Version.parse v = .ok found →
      Version.parse minimum = .ok lo → Version.parse latest = .ok hi →
      check folder (.str latest) (.str minimum) = .ok (rangeOutcome v found lo hi (.str latest))) := by
  refine ⟨check_eq_installing_iff, fun hm hb bytes e hf hd => check_of_undecodable hm hb hf hd,
    fun hm hnone => ?_, fun hm hb v found lo hi hr hv hlo hhi => check_of_version hm hb hr hv hlo hhi⟩
  by_cases hb : folder.binary = .absent
  · exact check_of_no_binary hm hb
  · exact check_of_no_version hm hb (readVersion_blank (hnone.resolve_left hb))

/-- A version file holding `1`, below the minimum `1.2.9`, is outdated, and the check names the
latest version as required. -/
theorem check_outcome_of_old_version :
    check { binary := .file [], versionFile := .file [0x31] } (.str latestSupported)
        (.str minimumSupported) = .ok (rangeOutcome "1" [1] [1, 2, 9] [1, 2, 104] (.str latestSupported)) ∧
      (rangeOutcome "1" [1] [1, 2, 9] [1, 2, 104] (.str latestSupported)).kind = .outdated :=
  have hr : readVersion (.file [0x31]) = .ok (some "1") := by
    simp [readVersion, Utf8.decode, Utf8.decodeFrom, Utf8.step]
    decide
  ⟨(check_outcome _ _ _).2.2.2 rfl (by simp) "1" [1] [1, 2, 9] [1, 2, 104] hr rfl rfl rfl, by decide⟩

/-- Without any marker, a version file holding the byte `0xFF`, which starts no UTF-8 sequence,
fails the check with a decoding fault. -/
theorem undecodable_version_file_fails :
    ({ binary := .file [], versionFile := .file [0xFF] } : ExecutableFolder).marker = .absent ∧
      check { binary := .file [], versionFile := .file [0xFF] } (.str latestSupported)
        (.str minimumSupported) = .error (.notUtf8 255 0 1 "invalid start byte") ∧
      (Fault.notUtf8 255 0 1 "invalid start byte").kind = "UnicodeDecodeError" :=
  have hd : Utf8.decode [0xFF] = .error (.notUtf8 255 0 1 "invalid start byte") := by
    simp [Utf8.decode, Utf8.decodeFrom, Utf8.step]
  ⟨rfl, check_of_undecodable rfl (by simp) rfl hd, rfl⟩

end Installation

end CompletionClient
