import CompletionClient.Path.Locator
/-!
# The path a locator names names itself

`Locator.toPath` turns a locator into the text of a path.  Read again as a text
locator, that path names itself (`Locator.toPath_text`), so normalising a
locator twice is normalising it once, and everything computed from the path
of a locator (its relative path, its key in the pool) is the same whether it
is computed from the locator or from its path (`Locator.relativePath_text`).

The path of a text that is no file URL is that text.  The path of a file URL
is empty or starts with a slash, since the URL's path part does and decoding
keeps a leading slash (`FileUrl.path_head`); so it is no file URL.  The text of
a path never holds two slashes in a row after its anchor (`SingleSlashes`),
since no name of a path is empty or holds a slash, and a file URL does; so it
is no file URL either.

Main statement (`Locator.toPath_idempotent`): taking the path of a locator is
idempotent, the second reading never failing, together with the two facts it
rests on.
-/

namespace CompletionClient

/-! ## Decoding keeps what comes first -/

namespace Utf8

/-- Decoding with replacement writes the characters decoded so far first. -/
theorem decodeLossy_toList (acc : List Char) (bs : List UInt8) :
    ∃ rest, (decodeLossy acc bs).toList = acc.reverse ++ rest := by
  fun_induction decodeLossy acc bs with
  | case1 acc => exact ⟨[], by simp⟩
  | case2 acc b rest n w _ ih =>
    obtain ⟨r, hr⟩ := ih
    exact ⟨Text.pointChars n ++ r, by rw [hr]; simp⟩
  | case3 acc b rest n _ _ ih =>
    obtain ⟨r, hr⟩ := ih
    exact ⟨'�' :: r, by rw [hr]; simp⟩

/-- Bytes that start with a slash decode to a text that starts with a slash. -/
theorem decodeLossy_slash (bs : List UInt8) : (decodeLossy [] (47 :: bs)).toList.head? = some '/' := by
  have hstep : decodeLossy [] (47 :: bs) = decodeLossy ['/'] bs := by
    rw [decodeLossy]
    rfl
  obtain ⟨r, hr⟩ := decodeLossy_toList ['/'] bs
  rw [hstep, hr]
  rfl

end Utf8

/-! ## The path of a file URL -/

/-- What is left after dropping the leading elements that pass a test starts with one that fails it. -/
theorem head_of_dropWhile_eq_cons {α : Type} {p : α → Bool} :
    ∀ {l : List α} {x : α} {xs : List α}, l.dropWhile p = x :: xs → p x = false
  | [], _, _, h => by simp at h
  | y :: ys, x, xs, h => by
    rw [List.dropWhile_cons] at h
    split at h
    · exact head_of_dropWhile_eq_cons h
    · rename_i hy
      injection h with h
      subst h
      simpa using hy

namespace FileUrl

/-- The first run of a text holds its first character, flagged by whether it is ASCII. -/
theorem runs_cons (c : Char) (cs : List Char) :
    ∃ r rest, runs (c :: cs) = (decide (c.toNat < 128), c :: r) :: rest := by
  simp only [runs, List.foldr_cons]
  split
  · rename_i a r rest _
    split
    · rename_i ha
      have hadec : a = decide (c.toNat < 128) := by cases a <;> simp at ha <;> simp [ha]
      exact ⟨r, rest, by rw [hadec]⟩
    · exact ⟨[], _, rfl⟩
  · exact ⟨[], [], rfl⟩

/-- Decoding a text that starts with a slash gives a text that starts with a slash. -/
theorem unquote_head (cs : List Char) : (unquote (String.ofList ('/' :: cs))).toList.head? = some '/' := by
  unfold unquote
  split
  · simp
  · obtain ⟨r, rest, hr⟩ := runs_cons '/' cs
    rw [String.toList_ofList, hr]
    -- the first run is ASCII and decodes first
    have hfirst : (Utf8.decodeLossy [] (percentBytes ('/' :: r))).toList.head? = some '/' :=
      Utf8.decodeLossy_slash _
    simp only [List.map_cons, String.toList_join, List.flatMap_cons]
    simp only [show decide ((Char.toNat '/') < 128) = true from rfl, if_true]
    cases h : (Utf8.decodeLossy [] (percentBytes ('/' :: r))).toList with
    | nil => rw [h] at hfirst; cases hfirst
    | cons x xs => rw [h] at hfirst; simpa using hfirst

/-- The path of a file URL is empty or starts with a slash. -/
theorem path_head {url p : String} (h : path url = .ok p) : p.toList.head? = none ∨ p.toList.head? = some '/' := by
  unfold path at h
  simp only [bind, Except.bind] at h
  split at h
  · contradiction
  · injection h with h
    subst h
    -- the path part runs from the first `/`, `?` or `#` to the first `?` or `#`
    generalize hrest : List.dropWhile (fun c => decide (c ∉ ['/', '?', '#']))
      ((url.toList.filter fun c => decide (c ∉ ['\t', '\r', '\n'])).drop prefixText.length) = rest
    cases rest with
    | nil => simp [unquote]
    | cons x xs =>
      -- the path part starts at the first `/`, `?` or `#`
      have hx : x ≠ '/' → x ≠ '?' → x = '#' := by simpa using head_of_dropWhile_eq_cons hrest
      by_cases h1 : x = '/'
      · subst h1
        right
        rw [List.takeWhile_cons]
        simp only [List.mem_cons, List.not_mem_nil, or_false]
        exact unquote_head _
      · by_cases h2 : x = '?'
        · subst h2; left; simp [unquote]
        · rw [hx h1 h2]; left; simp [unquote]

end FileUrl

/-! ## Texts of paths -/

/-- No slash is followed by another. -/
def SingleSlashes : List Char → Prop
  | [] => True
  | c :: rest => (c = '/' → rest.head? ≠ some '/') ∧ SingleSlashes rest

theorem singleSlashes_of_not_mem {l : List Char} (h : '/' ∉ l) : SingleSlashes l := by
  induction l with
  | nil => trivial
  | cons c rest ih =>
    rw [List.mem_cons, not_or] at h
    exact ⟨fun hc => absurd hc.symm h.1, ih h.2⟩

/-- A name with no slash, a slash, and a text that starts with no slash. -/
theorem singleSlashes_sep {n t : List Char} (hn : '/' ∉ n) (ht : t.head? ≠ some '/')
    (h : SingleSlashes t) : SingleSlashes (n ++ '/' :: t) := by
  induction n with
  | nil => exact ⟨fun _ => ht, h⟩
  | cons c n ih =>
    rw [List.mem_cons, not_or] at hn
    exact ⟨fun hc => absurd hc.symm hn.1, ih hn.2⟩

/-- A file URL has two slashes in a row. -/
theorem not_singleSlashes_of_fileUrl {l : List Char} (h : FileUrl.prefixText.toList <+: l) :
    ¬ SingleSlashes l := by
  obtain ⟨t, rfl⟩ := h
  simp [FileUrl.prefixText, SingleSlashes]

/-- Names that are neither empty nor hold a slash, joined by slashes, have single slashes and do
not start with one. -/
theorem singleSlashes_intercalate :
    ∀ {names : List (List Char)}, (∀ n ∈ names, n ≠ [] ∧ '/' ∉ n) →
      SingleSlashes (['/'].intercalate names) ∧ (['/'].intercalate names).head? ≠ some '/'
  | [], _ => ⟨trivial, by simp⟩
  | [n], h => by
    obtain ⟨hne, hn⟩ := h n (by simp)
    rw [List.intercalate_singleton]
    refine ⟨singleSlashes_of_not_mem hn, ?_⟩
    cases n with
    | nil => exact absurd rfl hne
    | cons c n =>
      have hc : c ≠ '/' := fun hc => hn (hc ▸ (List.mem_cons_self : c ∈ c :: n))
      simpa using hc
  | n :: m :: ms, h => by
    obtain ⟨hne, hn⟩ := h n (by simp)
    obtain ⟨hs, hh⟩ := @singleSlashes_intercalate (m :: ms) fun x hx => h x (by simp [hx])
    rw [List.intercalate_cons_cons, List.append_assoc, List.singleton_append]
    refine ⟨singleSlashes_sep hn hh hs, ?_⟩
    cases n with
    | nil => exact absurd rfl hne
    | cons c n =>
      have hc : c ≠ '/' := fun hc => hn (hc ▸ (List.mem_cons_self : c ∈ c :: n))
      simpa using hc

namespace PosixPath

/-- The text of a path is no file URL. -/
theorem isFileUrl_toText (p : PosixPath) : FileUrl.isFileUrl p.toText = false := by
  rw [FileUrl.isFileUrl, String.startsWith_string_eq_false_iff]
  intro hpre
  have hhead : ∀ l : List Char, FileUrl.prefixText.toList <+: l → l.head? = some 'f' := by
    rintro l ⟨t, rfl⟩
    rfl
  rw [toText] at hpre
  split at hpre
  · exact absurd (hhead _ hpre) (by simp)
  · rcases hanchor : p.anchor with _ | _ | _ <;> simp only [hanchor, Anchor.text] at hpre
    · -- a relative path's text is its names joined by slashes
      rw [String.empty_append, String.toList_intercalate] at hpre
      refine not_singleSlashes_of_fileUrl hpre (singleSlashes_intercalate fun n hn => ?_).1
      obtain ⟨m, hm, rfl⟩ := List.mem_map.1 hn
      obtain ⟨hne, -, hslash⟩ := p.names_valid m hm
      exact ⟨by simpa using hne, hslash⟩
    · exact absurd (hhead _ hpre) (by simp)
    · exact absurd (hhead _ hpre) (by simp)

end PosixPath

/-! ## Locators -/

namespace Locator

/-- The path a locator names, read as a text locator, names itself. -/
theorem toPath_text {u : Locator} {k : String} (h : u.toPath = .ok k) :
    (Locator.text k).toPath = .ok k := by
  have hk : FileUrl.isFileUrl k = false := by
    cases u with
    | text s =>
      simp only [toPath] at h
      split at h
      · rename_i hs
        rw [FileUrl.isFileUrl, String.startsWith_string_eq_false_iff]
        rintro ⟨t, ht⟩
        rcases FileUrl.path_head h with h' | h' <;> rw [← ht] at h' <;> simp [FileUrl.prefixText] at h'
      · rename_i hs
        injection h with h
        subst h
        exact Bool.eq_false_iff.2 hs
    | path p =>
      simp only [toPath] at h
      injection h with h
      subst h
      exact PosixPath.isFileUrl_toText p
    | other v => simp [toPath] at h
  simp [toPath, hk]

/-- The relative path of a locator is the relative path of the path it names. -/
theorem relativePath_text {u : Locator} {k : String} (h : u.toPath = .ok k)
    (root : Locator) : relativePath (.text k) root = relativePath u root := by
  simp only [relativePath, toPath_text h, h]

/-- The path of a file URL is empty or absolute. -/
theorem toPath_fileUrl_absolute {url k : String} (hurl : FileUrl.isFileUrl url = true)
    (h : (Locator.text url).toPath = .ok k) : k = "" ∨ k.startsWith "/" = true := by
  simp only [toPath, hurl, if_true] at h
  rcases FileUrl.path_head h with hk | hk
  · exact .inl (String.toList_eq_nil_iff.1 (List.head?_eq_none_iff.1 hk))
  · right
    obtain ⟨rest, hrest⟩ := List.head?_eq_some_iff.1 hk
    rw [String.startsWith_string_iff, hrest]
    exact ⟨rest, rfl⟩

/-- Taking the path of a locator is idempotent: the path of a locator reads again as a text
locator without failing, and as itself.  It rests on two facts: the path of a file URL is empty or
starts with a slash, and the text of a path is no file URL. -/
theorem toPath_idempotent :
    (∀ (u : Locator) k, u.toPath = .ok k → (Locator.text k).toPath = .ok k) ∧
    (∀ url k, FileUrl.isFileUrl url = true → (Locator.text url).toPath = .ok k →
      k = "" ∨ k.startsWith "/" = true) ∧
    (∀ p : PosixPath, FileUrl.isFileUrl p.toText = false) :=
  ⟨fun _ _ h => toPath_text h, fun _ _ hurl h => toPath_fileUrl_absolute hurl h,
    PosixPath.isFileUrl_toText⟩

/-- A file URL names the path between its host and its query, and that path names itself. -/
theorem toPath_idempotent_on_url :
    (Locator.text "file://host/a/b.py?q#f").toPath = .ok "/a/b.py" ∧
      (Locator.text "/a/b.py").toPath = .ok "/a/b.py" :=
  have hurl : (Locator.text "file://host/a/b.py?q#f").toPath = .ok "/a/b.py" := by
    have hfile : FileUrl.isFileUrl "file://host/a/b.py?q#f" = true := by
      rw [FileUrl.isFileUrl, String.startsWith_string_iff]
      decide
    simp only [toPath, hfile, if_true]
    rfl
  ⟨hurl, toPath_idempotent.1 (.text "file://host/a/b.py?q#f") _ hurl⟩

end Locator

end CompletionClient
