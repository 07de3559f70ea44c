import CompletionClient.Path.Locator
/-!
# Open documents

The language server has no channel for opening and changing documents;
instead every completion request carries the other open documents as
context.  The client therefore keeps the latest text of each open document,
in the order the documents were first opened.

A document is keyed by its path (`Locator.toPath`), so a URL and the plain
path it decodes to name the same document.  Storing a document that is
already open replaces it where it stands; closing one that is not open does
nothing.  The relative path and the text of a document are kept as they were
given, whatever they are.
-/

namespace CompletionClient

/-- An open document. -/
structure Document where
  /-- Its path, the key in the pool. -/
  path : String
  /-- Its path relative to the project root. -/
  relativePath : Value
  /-- Its latest full text. -/
  content : Value
  deriving Inhabited

/-- The open documents, in the order they were first opened, one per path. -/
structure DocumentPool where
  /-- The documents. -/
  documents : List Document := []
  deriving Inhabited

namespace DocumentPool

/-- The document stored under a path. -/
def find? (pool : DocumentPool) (path : String) : Option Document :=
  pool.documents.find? (·.path == path)

/-- Stores a document: in place of the one with its path, or at the end. -/
def store (pool : DocumentPool) (d : Document) : DocumentPool :=
  if pool.documents.any (·.path == d.path) then
    ⟨pool.documents.map fun e => if e.path == d.path then d else e⟩
  else ⟨pool.documents ++ [d]⟩

/-- Removes the document of a path, if there is one. -/
def erase (pool : DocumentPool) (path : String) : DocumentPool :=
  ⟨pool.documents.filter (·.path != path)⟩

/-- The documents of all other paths, in order. -/
def others (pool : DocumentPool) (path : String) : List Document :=
  pool.documents.filter (·.path != path)

/-- The number of open documents. -/
def size (pool : DocumentPool) : Nat := pool.documents.length

/-- Opens or updates the document that a locator names. -/
def openAt (pool : DocumentPool) (loc : Locator) (relativePath content : Value) :
    Except Fault DocumentPool := do
  pure (pool.store ⟨← loc.toPath, relativePath, content⟩)

/-- Closes the document that a locator names. -/
def closeAt (pool : DocumentPool) (loc : Locator) : Except Fault DocumentPool := do
  pure (pool.erase (← loc.toPath))

/-- The document that a locator names, if it is open. -/
def findAt (pool : DocumentPool) (loc : Locator) : Except Fault (Option Document) := do
  pure (pool.find? (← loc.toPath))

/-- The documents other than the one a locator names. -/
def othersAt (pool : DocumentPool) (loc : Locator) : Except Fault (List Document) := do
  pure (pool.others (← loc.toPath))

/-- Whether the document that a locator names is open; a value that is no
text and no path names none. -/
def containsAt (pool : DocumentPool) (loc : Locator) : Except Fault Bool :=
  match loc with
  | .other _ => .ok false
  | loc => do pure (pool.find? (← loc.toPath)).isSome

/-- Replacing the documents of a path by `d`, in a list that has one, makes
`d` the first document of that path. -/
theorem find?_map_replace (xs : List Document) (d : Document) (h : xs.any (·.path == d.path)) :
    (xs.map fun e => if e.path == d.path then d else e).find? (·.path == d.path) = some d := by
  induction xs with
  | nil => simp at h
  | cons e rest ih =>
    by_cases he : e.path = d.path
    · simp [he]
    · simp [he] at h ⊢
      simpa using ih (by simpa using h)

/-- A stored document is the one found under its path. -/
theorem find?_store_self (pool : DocumentPool) (d : Document) :
    (pool.store d).find? d.path = some d := by
  unfold store find?
  split
  · exact find?_map_replace _ _ (by assumption)
  · rename_i h
    simp at h
    rw [List.find?_append, List.find?_eq_none.mpr (by simpa using h)]
    simp

/-- Nothing is found under an erased path. -/
theorem find?_erase_self (pool : DocumentPool) (path : String) :
    (pool.erase path).find? path = none := by
  simp [find?, erase, List.find?_filter]

end DocumentPool

end CompletionClient
