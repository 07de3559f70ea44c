import CompletionClient.Wire.Request
import CompletionClient.Data.Access
import CompletionClient.Data.Display
/-!
# Completion responses

The language server answers in the JSON form of its protocol: keys in camel
case, and 64-bit integers often as decimal text.  Decoding takes both
spellings of a key, the camel-case one first when present, and both forms of
an integer (`Value.toCoordinate`).  It fills in what is missing: an item
without a completion or range has an empty one, a missing id is empty, a
missing text is empty.  A completion id that is not a text is shown as text
(`Value.display`).  A value of the wrong kind where an object or list is
expected fails as `CompletionClient.Value` describes.

A decoded item becomes a suggestion at the editor's cursor; a missing
coordinate of its range counts as 0.
-/

namespace CompletionClient

/-- A row and column as the server reports them; either may be missing. -/
structure WirePoint where
  /-- The row, if reported. -/
  row : Option Int := none
  /-- The column, if reported. -/
  col : Option Int := none
  deriving Inhabited, DecidableEq

/-- A point of a document: line and character. -/
structure Point where
  /-- The line. -/
  line : Int
  /-- The character. -/
  character : Int
  deriving Inhabited, DecidableEq

/-- The point of a reported row and column; a missing one counts as 0. -/
def WirePoint.toPoint (p : WirePoint) : Point := ⟨p.row.getD 0, p.col.getD 0⟩

/-- One item of a completion response. -/
structure CompletionItem where
  /-- The server's id of the completion. -/
  completionId : String
  /-- The completion's text, as sent. -/
  text : Value
  /-- The start of the range that the completion replaces, if sent. -/
  start : Option WirePoint := none
  /-- The end of that range, if sent. -/
  stop : Option WirePoint := none
  deriving Inhabited

/-- A suggestion for the editor. -/
structure Suggestion where
  /-- The id to report when the suggestion is taken. -/
  id : String
  /-- The text to insert. -/
  text : Value
  /-- The cursor that the suggestion was asked for at. -/
  position : Cursor
  /-- Where the replaced range starts. -/
  start : Point
  /-- Where the replaced range ends. -/
  stop : Point
  deriving Inhabited

/-- A point as an object with the keys `line` and `character`. -/
def Point.toValue (p : Point) : Value := .obj [("line", .int p.line), ("character", .int p.character)]

/-- A suggestion as an object. -/
def Suggestion.toValue (s : Suggestion) : Value :=
  .obj [("id", .str s.id), ("text", s.text), ("position", s.position.toValue),
        ("range", .obj [("start", s.start.toValue), ("end", s.stop.toValue)])]

/-- A reported point as an object with the keys `row` and `col`. -/
def WirePoint.toValue (p : WirePoint) : Value :=
  let coord (c : Option Int) : Value := match c with | some n => .int n | none => .null
  .obj [("row", coord p.row), ("col", coord p.col)]

/-- A decoded item as an object. -/
def CompletionItem.toValue (i : CompletionItem) : Value :=
  let point (p : Option WirePoint) : Value := match p with | some p => p.toValue | none => .null
  .obj [("completion_id", .str i.completionId), ("text", i.text),
        ("start_position", point i.start), ("end_position", point i.stop)]

namespace CompletionItem

/-- The suggestion of an item at a cursor. -/
def toSuggestion (i : CompletionItem) (cursor : Cursor) : Suggestion :=
  { id := i.completionId, text := i.text, position := cursor,
    start := (i.start.getD {}).toPoint, stop := (i.stop.getD {}).toPoint }

end CompletionItem

namespace WirePoint

/-- Decodes a reported point; `null` is none. -/
def decode (v : Value) : Except Fault (Option WirePoint) :=
  match v with
  | .null => .ok none
  | v => do
    let row ← (← v.get "row").toCoordinate
    let col ← (← v.get "col").toCoordinate
    pure (some ⟨row, col⟩)

end WirePoint

/-- A value, or an empty object in place of one that counts as false. -/
def orEmpty (v : Value) : Value := if v.truthy then v else .obj []

namespace CompletionItem

/-- Decodes one item. -/
def decode (v : Value) : Except Fault CompletionItem := do
  let completion := orEmpty (← v.get "completion")
  let range := orEmpty (← v.get "range")
  let id ← completion.pick "completionId" "completion_id"
  let text ← match completion with
    | .obj fields => pure ((fields.lookup "text").getD (.str ""))
    | c => throw (.noMember c.kind "get")
  let start ← WirePoint.decode (← range.pick "startPosition" "start_position")
  let stop ← WirePoint.decode (← range.pick "endPosition" "end_position")
  pure { completionId := (if id.truthy then id else .str "").display, text, start, stop }

end CompletionItem

/-- A decoded completion response: its items, if it has any list of them. -/
structure CompletionReply where
  /-- The items, or none when the response has none. -/
  items : Option (List CompletionItem)
  deriving Inhabited

namespace CompletionReply

/-- Decodes a completion response. -/
def decode (data : Value) : Except Fault CompletionReply := do
  match ← data.pick "completionItems" "completion_items" with
  | .null => pure ⟨none⟩
  | items => pure ⟨some (← (← items.elements).mapM CompletionItem.decode)⟩

/-- The suggestions of a response at a cursor. -/
def suggestions (r : CompletionReply) (cursor : Cursor) : List Suggestion :=
  (r.items.getD []).map (·.toSuggestion cursor)

end CompletionReply

end CompletionClient
