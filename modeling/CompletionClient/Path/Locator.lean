import CompletionClient.Path.FileUrl
import CompletionClient.Path.Posix
import CompletionClient.Data.Value
/-!
# Locators

A caller names a document by a *locator*: a text, which is a `file://` URL or a
path, or a structured path.  `Locator.path` turns a locator into the text of a
path: a URL into its decoded path, a structured path into its text, and any
other text is kept as it is (so `/a//b` stays `/a//b`).  A value of another
kind is no locator, and fails as having no `startswith`.

`Locator.toPosixPath` takes a locator as a path without decoding: a text is
parsed as it stands, and a value of another kind is no path.

`Locator.relativePath` is the path of a document relative to a project root,
or the document's own path when it lies outside the root or the root is a
malformed URL.
-/

namespace CompletionClient

/-- How a caller names a document or folder. -/
inductive Locator where
  /-- A text: a file URL or a path. -/
  | text (s : String)
  /-- A structured path. -/
  | path (p : PosixPath)
  /-- Any other value. -/
  | other (v : Value)
  deriving Inhabited

namespace Locator

/-- The text of the path that a locator names. -/
def toPath : Locator → Except Fault String
  | text s => if FileUrl.isFileUrl s then FileUrl.path s else .ok s
  | path p => .ok p.toText
  | other v => .error (.noMember v.kind "startswith")

/-- The path that a locator spells, without decoding a URL. -/
def toPosixPath : Locator → Except Fault PosixPath
  | text s => .ok (PosixPath.parse s)
  | path p => .ok p
  | other v => .error (.notPathLike v.kind)

/-- Whether a fault comes from a malformed URL. -/
def malformedUrl : Fault → Bool
  | .badBrackets | .badHost _ | .unsafeHost _ => true
  | _ => false

/-- The path of a file relative to a root.  The file's own path, as
`toPath` gives it, stands when the file lies outside the root, when one path
is anchored and the other not, or when the root is a malformed URL. -/
def relativePath (file root : Locator) : Except Fault String := do
  let f ← file.toPath
  match root.toPath with
  | .error e => if malformedUrl e then pure f else throw e
  | .ok r =>
    match (PosixPath.parse f).relativeTo (PosixPath.parse r) with
    | some p => pure p.toText
    | none => pure f

end Locator

end CompletionClient
