import CompletionClient.Proofs.Path.Normal
/-!
# Relative paths go by whole steps

The steps of a path (`PosixPath.steps`) are its anchor, if it has one, and
its names.  A path lies under a base (`PosixPath.Under`) when the base's steps
start the path's steps and the base is anchored or the path is not: so
`/a/bc/x` is not under `/a/b`, whose last name `b` is not `bc`, and no path is
under the empty relative path but a relative one.

Main statement (`Locator.relativePath_by_steps`): the relative path of a file
under a root is what is left of the file's steps after the root's, joined by
slashes, or `.` when nothing is left (`PosixPath.stepsAfter`); the root
extended by it is the file again, and it does not start with a slash.  A file
that is not under the root keeps its path as the locator names it.

The argument: since no name of a path holds a slash and an anchor's text does,
lying under a base is having the base's anchor and its names first
(`PosixPath.under_iff`), which is what `PosixPath.relativeTo` tests
(`PosixPath.relativeTo_of_under`, `PosixPath.relativeTo_of_not_under`).  The
text of a path reads back as the path (`PosixPath.parse_toText`), since names
joined by slashes split back into the names (`PosixPath.namesOf_intercalate`).
-/

namespace CompletionClient

namespace PosixPath

/-- Whether a path lies under a base step by step: the base's steps start the path's, and the
base is anchored or the path is relative. -/
def Under (p base : PosixPath) : Prop :=
  base.steps <+: p.steps ∧ (base.anchor ≠ .none ∨ p.anchor = .none)

instance (p base : PosixPath) : Decidable (p.Under base) :=
  inferInstanceAs (Decidable (_ ∧ _))

/-- The steps of a path after those of a base, joined by slashes, or `.` when none are left. -/
def stepsAfter (p base : PosixPath) : String :=
  let rest := p.steps.drop base.steps.length
  if rest = [] then "." else "/".intercalate rest

/-! ## Texts of paths read back -/

/-- A text that starts with no slash loses nothing when leading slashes are dropped. -/
theorem dropWhile_slash {cs : List Char} (h : cs.head? ≠ some '/') :
    cs.dropWhile (· == '/') = cs := by
  cases cs with
  | nil => rfl
  | cons c cs =>
    have hc : (c == '/') = false := by simpa using h
    simp [hc]

/-- Names of a path joined by slashes split back into the names. -/
theorem namesOf_intercalate {ns : List String} (h : ∀ n ∈ ns, IsPathName n) :
    namesOf ("/".intercalate ns) = ns := by
  by_cases hne : ns = []
  · subst hne
    rfl
  have hchars : ∀ l ∈ ns.map String.toList, '/' ∉ l := by
    intro l hl
    obtain ⟨n, hn, rfl⟩ := List.mem_map.1 hl
    exact (h n hn).2.2
  have hsplit := List.splitOn_intercalate '/' hchars (by simpa using hne)
  have hid : String.ofList ∘ String.toList = id := funext fun _ => String.ofList_toList
  rw [namesOf, String.toList_intercalate, show "/".toList = ['/'] from rfl, hsplit, List.map_map,
    hid, List.map_id]
  exact List.filter_eq_self.2 fun n hn => by simp [(h n hn).1, (h n hn).2.1]

/-- Reading a text of slashes followed by a text that starts with no slash: as many slashes as
there are make the anchor, and the rest gives the names. -/
theorem parse_slashes_append (k : Nat) {body : List Char} (h : body.head? ≠ some '/') :
    parse (String.ofList (List.replicate k '/' ++ body)) =
      ⟨if k = 0 then .none else if k = 2 then .doubleRoot else .root, namesOf (String.ofList body),
        namesOf_valid _⟩ := by
  have hdrop : (List.replicate k '/' ++ body).dropWhile (· == '/') = body := by
    induction k with
    | zero => exact dropWhile_slash h
    | succ k ih => simpa [List.replicate_succ] using ih
  simp only [parse, String.toList_ofList, hdrop, List.length_append, List.length_replicate,
    Nat.add_sub_cancel]

/-- The text of a relative path is its names joined by slashes, or `.` when it has none. -/
theorem toText_of_anchor_none {p : PosixPath} (h : p.anchor = .none) :
    p.toText = if p.names = [] then "." else "/".intercalate p.names := by
  obtain ⟨anchor, ns, hv⟩ := p
  simp only at h
  subst h
  cases ns with
  | nil => rfl
  | cons n rest =>
    have hn : n.toList ≠ [] := by simpa using (hv n List.mem_cons_self).1
    have hjoined : "/".intercalate (n :: rest) ≠ "" := by
      rw [ne_eq, ← String.toList_inj, String.toList_intercalate]
      cases rest <;> simp [hn]
    simp only [toText, Anchor.text, String.empty_append, reduceCtorEq, if_false]
    rw [if_neg (by simpa using hjoined)]

/-- Names taken from a path are, as characters, non-empty and free of slashes. -/
theorem chars_of_subset {p : PosixPath} {ns : List String} (hns : ns ⊆ p.names) :
    ∀ l ∈ ns.map String.toList, l ≠ [] ∧ '/' ∉ l := by
  intro l hl
  obtain ⟨n, hn, rfl⟩ := List.mem_map.1 hl
  have hname := p.names_valid n (hns hn)
  exact ⟨by simpa using hname.1, hname.2.2⟩

/-- The text of a path reads back as the path. -/
theorem parse_toText (p : PosixPath) : parse p.toText = p := by
  have hchars := chars_of_subset (List.Subset.refl p.names)
  obtain ⟨anchor, ns, hv⟩ := p
  -- the names joined by slashes start with no slash and split back into the names
  have hhead : ("/".intercalate ns).toList.head? ≠ some '/' := by
    rw [String.toList_intercalate]
    exact (singleSlashes_intercalate hchars).2
  have hread : ∀ k, parse (String.ofList (List.replicate k '/' ++ ("/".intercalate ns).toList)) =
      ⟨if k = 0 then .none else if k = 2 then .doubleRoot else .root, ns, hv⟩ := fun k => by
    rw [parse_slashes_append k hhead]
    refine PosixPath.ext rfl ?_
    simp only [String.ofList_toList, namesOf_intercalate hv]
  -- the anchor is written as as many slashes as it has
  cases anchor with
  | none =>
    by_cases hne : ns = []
    · subst hne
      -- the empty relative path is written `.`, which names nothing
      have hdot : toText ⟨.none, [], hv⟩ = "." := rfl
      rw [hdot]
      exact PosixPath.ext (show (parse ".").anchor = .none by decide)
        (show (parse ".").names = [] by decide)
    · have htext : toText ⟨.none, ns, hv⟩ =
          String.ofList (List.replicate 0 '/' ++ ("/".intercalate ns).toList) := by
        rw [toText_of_anchor_none rfl, if_neg hne, List.replicate_zero, List.nil_append,
          String.ofList_toList]
      rw [htext, hread]
      rfl
  | root =>
    have htext : toText ⟨.root, ns, hv⟩ =
        String.ofList (List.replicate 1 '/' ++ ("/".intercalate ns).toList) := by
      rw [← String.toList_inj]
      simp [toText, Anchor.text]
    rw [htext, hread]
    rfl
  | doubleRoot =>
    have htext : toText ⟨.doubleRoot, ns, hv⟩ =
        String.ofList (List.replicate 2 '/' ++ ("/".intercalate ns).toList) := by
      rw [← String.toList_inj]
      simp [toText, Anchor.text]
    rw [htext, hread]
    rfl

/-! ## Lying under a base -/

/-- Lying under a base is having the base's anchor and the base's names first: an anchor's text
holds a slash, so it matches no name. -/
theorem under_iff {p base : PosixPath} :
    p.Under base ↔ base.anchor = p.anchor ∧ base.names <+: p.names := by
  have hname : ∀ a : Anchor, a ≠ .none → a.text ∉ p.names := by
    intro a ha hmem
    have hslash := (p.names_valid _ hmem).2.2
    cases a <;> simp_all [Anchor.text]
  obtain ⟨pa, pn, hpv⟩ := p
  obtain ⟨ba, bn, hbv⟩ := base
  cases ba <;> cases pa <;> simp [Under, steps, Anchor.text]
  -- what is left: an anchored base never starts the names of a relative path
  · exact fun h => hname .root (by decide) (h.subset List.mem_cons_self)
  · exact fun h => hname .doubleRoot (by decide) (h.subset List.mem_cons_self)

/-- A path's steps after a base with its anchor are its names after the base's. -/
theorem steps_drop {p base : PosixPath} (h : base.anchor = p.anchor) :
    p.steps.drop base.steps.length = p.names.drop base.names.length := by
  obtain ⟨pa, pn, hpv⟩ := p
  obtain ⟨ba, bn, hbv⟩ := base
  simp only at h
  subst h
  cases ba <;> simp [steps]

/-- A path without steps has no anchor. -/
theorem anchor_of_steps_eq_nil {p : PosixPath} (h : p.steps = []) : p.anchor = .none := by
  obtain ⟨pa, pn, hpv⟩ := p
  cases pa <;> simp_all [steps]

/-- A path under a base leads from the base to a relative path: its steps after the base. -/
theorem relativeTo_of_under {p base : PosixPath} (h : p.Under base) :
    ∃ q, p.relativeTo base = some q ∧ q.anchor = .none ∧
      q.names = p.steps.drop base.steps.length := by
  obtain ⟨hpre, hanchor⟩ := h
  simp only [relativeTo]
  by_cases hbs : base.steps = []
  · -- the empty base holds the relative paths, as they are
    have hpa : p.anchor = .none := by simpa [anchor_of_steps_eq_nil hbs] using hanchor
    refine ⟨p, ?_, hpa, ?_⟩
    · rw [dif_pos (by simpa using hbs), if_pos hpa]
    · rw [hbs]
      simp [steps, hpa]
  · rw [dif_neg (by simpa using hbs), if_pos (List.prefix_iff_eq_take.1 hpre).symm]
    exact ⟨_, rfl, rfl, rfl⟩

/-- A path that is not under a base leads nowhere from it. -/
theorem relativeTo_of_not_under {p base : PosixPath} (h : ¬ p.Under base) :
    p.relativeTo base = none := by
  simp only [relativeTo]
  by_cases hbs : base.steps = []
  · -- under the empty base lies every relative path
    have hpa : p.anchor ≠ .none := fun hpa => h ⟨by simp [hbs], .inr hpa⟩
    rw [dif_pos (by simpa using hbs), if_neg hpa]
  · rw [dif_neg (by simpa using hbs)]
    by_cases htake : p.steps.take base.steps.length = base.steps
    · -- a relative base starts no anchored path, since an anchor's text is no name
      have hpre : base.steps <+: p.steps := List.prefix_iff_eq_take.2 htake.symm
      have hba : base.anchor = .none := Decidable.byContradiction fun hba => h ⟨hpre, .inl hba⟩
      have hpa : p.anchor ≠ .none := fun hpa => h ⟨hpre, .inr hpa⟩
      obtain ⟨ba, bn, hbv⟩ := base
      obtain ⟨pa, pn, hpv⟩ := p
      simp only at hba hpa
      subst hba
      obtain ⟨n, rest, hbn⟩ := List.exists_cons_of_ne_nil (by simpa [steps] using hbs)
      have hhead : n = pa.text := by
        cases pa <;> simp_all [steps]
      have hslash := (hbv n (by simp [hbn])).2.2
      cases pa <;> simp_all [Anchor.text]
    · rw [if_neg htake]

/-! ## The steps after a base -/

/-- A relative path whose names are the steps of a path after a base is written as those
steps. -/
theorem toText_eq_stepsAfter {p base q : PosixPath} (hq : q.anchor = .none)
    (hn : q.names = p.steps.drop base.steps.length) : q.toText = p.stepsAfter base := by
  rw [toText_of_anchor_none hq, hn]
  rfl

/-- A base extended by the steps of a path after it is the path again. -/
theorem child_stepsAfter {p base : PosixPath} (h : p.Under base) :
    base.child (p.stepsAfter base) = p := by
  obtain ⟨hanchor, hpre⟩ := under_iff.1 h
  obtain ⟨q, -, hqa, hqn⟩ := relativeTo_of_under h
  rw [← toText_eq_stepsAfter hqa hqn, child, parse_toText, join, if_pos hqa]
  refine PosixPath.ext hanchor ?_
  -- the base's names and the names after them are the path's names
  show base.names ++ q.names = p.names
  rw [hqn, steps_drop hanchor]
  exact List.prefix_iff_eq_append.1 hpre

/-- The steps of a path after a base start with no slash. -/
theorem stepsAfter_head {p base : PosixPath} (h : p.Under base) :
    (p.stepsAfter base).toList.head? ≠ some '/' := by
  have hanchor := (under_iff.1 h).1
  have hchars := chars_of_subset (List.drop_subset base.names.length p.names)
  simp only [stepsAfter, steps_drop hanchor]
  split
  · decide
  · rw [String.toList_intercalate]
    exact (singleSlashes_intercalate hchars).2

end PosixPath

namespace Locator

/-- The relative path of a file under a root is the file's steps after the root's, joined by
slashes or `.`; the root extended by it is the file, and it starts with no slash.  A file that is
not under the root keeps its path. -/
theorem relativePath_by_steps {f r : Locator} {F R : String} (hf : f.toPath = .ok F)
    (hr : r.toPath = .ok R) :
    ((PosixPath.parse F).Under (PosixPath.parse R) →
      relativePath f r = .ok ((PosixPath.parse F).stepsAfter (PosixPath.parse R)) ∧
      (PosixPath.parse R).child ((PosixPath.parse F).stepsAfter (PosixPath.parse R)) =
        PosixPath.parse F ∧
      ((PosixPath.parse F).stepsAfter (PosixPath.parse R)).toList.head? ≠ some '/') ∧
    (¬ (PosixPath.parse F).Under (PosixPath.parse R) → relativePath f r = .ok F) := by
  refine ⟨fun h => ⟨?_, PosixPath.child_stepsAfter h, PosixPath.stepsAfter_head h⟩, fun h => ?_⟩
  · obtain ⟨q, hq, hqa, hqn⟩ := PosixPath.relativeTo_of_under h
    simp only [relativePath, hf, hr, bind, Except.bind, hq]
    rw [PosixPath.toText_eq_stepsAfter hqa hqn]
    rfl
  · simp only [relativePath, hf, hr, bind, Except.bind, PosixPath.relativeTo_of_not_under h]
    rfl

/-- A text that starts with a slash is no URL: it names the path it spells. -/
theorem toPath_of_slash {s : String} (h : s.toList.head? = some '/') : (text s).toPath = .ok s := by
  have hurl : FileUrl.isFileUrl s = false := by
    rw [FileUrl.isFileUrl, String.startsWith_string_eq_false_iff]
    rintro ⟨t, ht⟩
    rw [← ht] at h
    simp [FileUrl.prefixText] at h
  simp [toPath, hurl]

/-- `/a/bc/x` is not under `/a/b`, whose names start its own only letter by letter, so it keeps
its path; `/a/b/c/d.go` is under `/a/b`, and its relative path is `c/d.go`. -/
theorem relativePath_by_whole_names :
    relativePath (.text "/a/bc/x") (.text "/a/b") = .ok "/a/bc/x" ∧
      relativePath (.text "/a/b/c/d.go") (.text "/a/b") = .ok "c/d.go" :=
  have hroot := toPath_of_slash (s := "/a/b") (by decide)
  ⟨(relativePath_by_steps (toPath_of_slash (by decide)) hroot).2 (by decide),
    ((relativePath_by_steps (toPath_of_slash (s := "/a/b/c/d.go") (by decide)) hroot).1
      (by decide)).1.trans (congrArg Except.ok (by decide))⟩

end Locator

end CompletionClient