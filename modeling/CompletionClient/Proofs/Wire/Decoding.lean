import CompletionClient.Wire.Response
import CompletionClient.Service.Endpoint
/-!
# Decoding completion responses

A language server answers a completion request with an object that holds its
items, each with a completion and a range.  Decoding reads what it finds and
fills in what is missing, and on responses of the shape servers send it
fails in one way only.  The shape (`CompletionReply.Shaped`): the response is
an object whose item list is missing, `null` or a list of items; an item is an
object whose completion and range are objects, `null` or missing, and whose
range's start and end are objects, `null` or missing.  The rows, columns, ids
and texts may be any values.

Main statement (`CompletionReply.suggestions_of_shape`): on such a response,
decoding and taking the suggestions at a cursor fails exactly when a row or a
column of some item is an infinite number, with the fault of an infinity that
has no integer part (an overflow, which the coordinate reader does not
catch).  Otherwise it gives one suggestion per item, in order
(`CompletionItem.suggestionOf`): at the cursor, with the completion id shown
as text (an id that counts as false shows as the empty text), and with every
coordinate that stands for no integer (`Value.coordinate?`: `null`, a truth
value, a NaN, a text that is no integer, a list or an object) read as 0.  A
camel-case key that is present wins over its snake-case twin even when its
value is `null` (`Value.twin`).

The argument follows the decoder: reading a field of an object is looking it
up (`Value.pick_obj`); an object or `null` where an object is expected stands
for an object with its fields (`Value.orEmpty_of_isObjectOrNull`); a point
decodes unless one of its coordinates is infinite (`WirePoint.decode_eq`); so
an item does (`CompletionItem.decode_toSuggestion`), and a list of items
fails together exactly when one item fails (`mapM_of_each`).
-/

namespace CompletionClient

namespace Value

/-! ## Reading an object -/

/-- The value of a key of an object; `null` when the key is missing or the value is no
object. -/
def entry (v : Value) (key : String) : Value := (v.field? key).getD .null

/-- A field under its camel-case key when the object has that key, whatever its value, else
under its snake-case key. -/
def twin (v : Value) (camel snake : String) : Value :=
  match v.field? camel with
  | some x => x
  | none => v.entry snake

/-- Whether a value is an object or `null`. -/
def isObjectOrNull : Value → Bool
  | null | obj _ => true
  | _ => false

/-- Whether a value is an infinite number. -/
def isInfinite : Value → Bool
  | float x =>
    match x.shape with
    | .infinite _ => true
    | _ => false
  | _ => false

/-- The integer a coordinate stands for: a number, truncated toward zero, or a decimal text.
`null`, a truth value, a NaN, a text that is no integer, a list and an object stand for
none. -/
def coordinate? : Value → Option Int
  | int n => some n
  | float x => x.truncate
  | str s => (Integer.read s).toOption
  | _ => none

/-- Whether a reported point has an infinite row or column. -/
def pointInfinite (v : Value) : Bool := (v.entry "row").isInfinite || (v.entry "col").isInfinite

/-- A reported point as the decoder keeps it: none for `null`, else its row and column as
coordinates. -/
def wirePoint? : Value → Option WirePoint
  | null => none
  | v => some ⟨(v.entry "row").coordinate?, (v.entry "col").coordinate?⟩

/-- The point of a reported point, a coordinate that stands for no integer counting as 0. -/
def pointAt (v : Value) : Point :=
  ⟨((v.entry "row").coordinate?).getD 0, ((v.entry "col").coordinate?).getD 0⟩

theorem any_key_eq_isSome_lookup (fs : List (String × Value)) (key : String) :
    fs.any (·.1 == key) = (fs.lookup key).isSome := by
  rw [Bool.eq_iff_iff, List.lookup_isSome_iff, List.any_eq_true]
  exact exists_congr fun p => and_congr_right fun _ => by rw [beq_iff_eq, beq_iff_eq, eq_comm]

theorem get_obj (fs : List (String × Value)) (key : String) :
    (obj fs).get key = .ok ((obj fs).entry key) := rfl

/-- Reading a field of an object under two spellings takes its twin. -/
theorem pick_obj (fs : List (String × Value)) (camel snake : String) :
    (obj fs).pick camel snake = .ok ((obj fs).twin camel snake) := by
  cases h : fs.lookup camel with
  | none =>
    have hany : fs.any (·.1 == camel) = false := by rw [any_key_eq_isSome_lookup, h]; rfl
    simp only [pick, mem, hany, twin, field?, h, get, entry]
    rfl
  | some x =>
    have hany : fs.any (·.1 == camel) = true := by rw [any_key_eq_isSome_lookup, h]; rfl
    simp only [pick, mem, hany, twin, field?, h]
    rfl

theorem twin_congr {v v' : Value} (h : ∀ k, v'.field? k = v.field? k) (camel snake : String) :
    v'.twin camel snake = v.twin camel snake := by
  simp only [twin, entry, h]

/-- An object or `null` where an object is expected stands for an object with its fields. -/
theorem orEmpty_of_isObjectOrNull {v : Value} (hv : v.isObjectOrNull = true) :
    ∃ fs, orEmpty v = obj fs ∧ ∀ k, (obj fs).field? k = v.field? k := by
  cases v with
  | null => exact ⟨[], rfl, fun _ => rfl⟩
  | obj fs =>
    cases fs with
    | nil => exact ⟨[], rfl, fun _ => rfl⟩
    | cons f fs => exact ⟨f :: fs, rfl, fun _ => rfl⟩
  | _ => cases hv

/-! ## Coordinates and points -/

/-- A coordinate fails only when it is infinite; otherwise it reads as its integer, if any. -/
theorem toCoordinate_eq (v : Value) :
    v.toCoordinate = if v.isInfinite then .error .infiniteInteger else .ok v.coordinate? := by
  cases v with
  | float x =>
    cases hx : x.shape <;> simp [toCoordinate, isInfinite, coordinate?, hx, Binary64.truncate]
  | str s =>
    cases hs : Integer.read s <;> simp [toCoordinate, isInfinite, coordinate?, hs, Except.toOption]
  | _ => rfl

theorem toPoint_wirePoint? (v : Value) : (v.wirePoint?.getD {}).toPoint = v.pointAt := by
  cases v <;> rfl

end Value

/-- A reported point that is an object or `null` decodes unless a coordinate is infinite. -/
theorem WirePoint.decode_eq {v : Value} (hv : v.isObjectOrNull = true) :
    WirePoint.decode v = if v.pointInfinite then .error .infiniteInteger else .ok v.wirePoint? := by
  cases v with
  | null => rfl
  | obj fs =>
    cases hr : ((Value.obj fs).entry "row").isInfinite <;>
      cases hc : ((Value.obj fs).entry "col").isInfinite <;>
      simp [WirePoint.decode, Value.get_obj, Value.toCoordinate_eq, Value.pointInfinite,
        Value.wirePoint?, hr, hc, bind, Except.bind, pure, Except.pure]
  | _ => cases hv

/-! ## Items -/

namespace CompletionItem

/-- An item of the shape servers send: an object whose completion and range are objects,
`null` or missing, and whose range's start and end are objects, `null` or missing. -/
structure Shaped (v : Value) : Prop where
  object : ∃ fs, v = .obj fs
  completion : (v.entry "completion").isObjectOrNull = true
  range : (v.entry "range").isObjectOrNull = true
  start : ((v.entry "range").twin "startPosition" "start_position").isObjectOrNull = true
  stop : ((v.entry "range").twin "endPosition" "end_position").isObjectOrNull = true

/-- Whether a point of an item's range has an infinite coordinate. -/
def infiniteIn (item : Value) : Bool :=
  ((item.entry "range").twin "startPosition" "start_position").pointInfinite ||
    ((item.entry "range").twin "endPosition" "end_position").pointInfinite

/-- The suggestion an item stands for at a cursor: its id shown as text (an id that counts as
false shows as the empty text), its text (the empty text when missing), the cursor, and the
points of its range. -/
def suggestionOf (p : Cursor) (item : Value) : Suggestion :=
  let completion := item.entry "completion"
  let range := item.entry "range"
  let id := completion.twin "completionId" "completion_id"
  { id := (if id.truthy then id else .str "").display
    text := (completion.field? "text").getD (.str "")
    position := p
    start := (range.twin "startPosition" "start_position").pointAt
    stop := (range.twin "endPosition" "end_position").pointAt }

/-- An item of the shape decodes unless a coordinate is infinite, to its suggestion. -/
theorem decode_toSuggestion {v : Value} (h : Shaped v) (p : Cursor) :
    (decode v).map (·.toSuggestion p) =
      if infiniteIn v then .error .infiniteInteger else .ok (suggestionOf p v) := by
  obtain ⟨fs, rfl⟩ := h.object
  obtain ⟨cs, hc, hcf⟩ := Value.orEmpty_of_isObjectOrNull h.completion
  obtain ⟨rs, hr, hrf⟩ := Value.orEmpty_of_isObjectOrNull h.range
  have hstart := WirePoint.decode_eq h.start
  have hstop := WirePoint.decode_eq h.stop
  have htext : cs.lookup "text" = ((Value.obj fs).entry "completion").field? "text" := hcf "text"
  simp only [decode, Value.get_obj, bind, Except.bind, hc, hr, Value.pick_obj,
    Value.twin_congr hrf, Value.twin_congr hcf, hstart, hstop, infiniteIn, suggestionOf]
  -- the two points decide whether the item decodes
  by_cases hs : ((Value.obj fs).entry "range" |>.twin "startPosition" "start_position").pointInfinite <;>
    by_cases he : ((Value.obj fs).entry "range" |>.twin "endPosition" "end_position").pointInfinite <;>
    simp [hs, he, pure, Except.pure, Except.map, toSuggestion, Value.toPoint_wirePoint?, htext]

end CompletionItem

/-! ## Lists of items -/

/-- Mapping the results of a list's steps is mapping each step's result. -/
theorem map_mapM {α β γ ε : Type} (f : α → Except ε β) (g : β → γ) :
    ∀ xs : List α, (xs.mapM f).map (List.map g) = xs.mapM fun x => (f x).map g
  | [] => rfl
  | x :: xs => by
    rw [List.mapM_cons, List.mapM_cons, ← map_mapM f g xs]
    cases f x <;> cases xs.mapM f <;> rfl

/-- Steps that fail with one fault exactly on the bad elements fail together exactly when some
element is bad. -/
theorem mapM_of_each {α β ε : Type} {f : α → Except ε β} {bad : α → Bool} {e : ε} {spec : α → β} :
    ∀ xs : List α, (∀ x ∈ xs, f x = if bad x then .error e else .ok (spec x)) →
      xs.mapM f = if xs.any bad then .error e else .ok (xs.map spec)
  | [], _ => rfl
  | x :: xs, h => by
    rw [List.mapM_cons, h x List.mem_cons_self,
      mapM_of_each xs fun y hy => h y (List.mem_cons_of_mem x hy)]
    by_cases hb : bad x <;> by_cases hbs : xs.any bad <;>
      simp [hb, hbs, bind, Except.bind, pure, Except.pure]

namespace CompletionReply

/-- A completion response of the shape servers send: an object whose item list, under
`completionItems` or else `completion_items`, is missing, `null` or a list of items of the
shape. -/
structure Shaped (data : Value) : Prop where
  object : ∃ fs, data = .obj fs
  items : data.twin "completionItems" "completion_items" = .null ∨
    ∃ xs, data.twin "completionItems" "completion_items" = .list xs ∧
      ∀ x ∈ xs, CompletionItem.Shaped x

/-- The items of a response: none under a missing or `null` list. -/
def itemsOf (data : Value) : List Value :=
  match data.twin "completionItems" "completion_items" with
  | .list xs => xs
  | _ => []

/-- On a response of the shape, decoding and taking the suggestions fails exactly when a
coordinate of some item is infinite; otherwise it gives each item's suggestion, in order. -/
theorem suggestions_of_shape {data : Value} (h : Shaped data) (p : Cursor) :
    (decode data).map (·.suggestions p) =
      if (itemsOf data).any CompletionItem.infiniteIn then .error .infiniteInteger
      else .ok ((itemsOf data).map (CompletionItem.suggestionOf p)) := by
  obtain ⟨fs, rfl⟩ := h.object
  rcases h.items with hnull | ⟨xs, hxs, hshape⟩
  · simp [decode, Value.pick_obj, hnull, itemsOf, bind, Except.bind, pure, Except.pure,
      Except.map, suggestions]
  · have heach := map_mapM CompletionItem.decode (·.toSuggestion p) xs
    rw [mapM_of_each xs fun x hx => CompletionItem.decode_toSuggestion (hshape x hx) p] at heach
    simp only [decode, Value.pick_obj, hxs, itemsOf, bind, Except.bind, pure, Except.pure,
      Value.elements]
    rw [← heach]
    cases xs.mapM CompletionItem.decode <;> rfl

/-- The default reply of a server has the shape, and gives its one suggestion. -/
theorem suggestions_of_default_reply :
    Shaped (Service.defaultReply (.int 3)) ∧
      (decode (Service.defaultReply (.int 3))).map (·.suggestions ⟨.int 0, .int 0⟩) =
        if (itemsOf (Service.defaultReply (.int 3))).any CompletionItem.infiniteIn then
          .error .infiniteInteger
        else .ok ((itemsOf (Service.defaultReply (.int 3))).map
          (CompletionItem.suggestionOf ⟨.int 0, .int 0⟩)) :=
  have hshape : Shaped (Service.defaultReply (.int 3)) :=
    ⟨⟨_, rfl⟩, .inr ⟨_, rfl, fun x hx => by
      rw [List.mem_singleton] at hx
      subst hx
      exact ⟨⟨_, rfl⟩, rfl, rfl, rfl, rfl⟩⟩⟩
  ⟨hshape, suggestions_of_shape hshape _⟩

/-- A response whose one item starts at an infinite row fails to decode, with an overflow. -/
theorem infinite_row_overflows :
    (decode (.obj [("completionItems", .list [.obj [
        ("completion", .obj [("completionId", .str "a"), ("text", .str "x")]),
        ("range", .obj [("startPosition",
          .obj [("row", .float (Binary64.infinity false)), ("col", .int 0)])])]])])).map
        (·.suggestions ⟨.int 0, .int 0⟩) = .error .infiniteInteger ∧
      Fault.infiniteInteger.kind = "OverflowError" := ⟨rfl, rfl⟩

end CompletionReply

end CompletionClient
