import CompletionClient.Data.Value
import CompletionClient.Numeral.Integer
import CompletionClient.Fault
/-!
# Reading values of unknown shape

A response from the language server is a value whose shape the client
expects but cannot count on.  The operations here read such a value and say
how it fails when its shape is wrong:

* `Value.mem` asks whether a key is in a value: a key of an object, an item
  of a list, a part of a text; other kinds cannot be searched.
* `Value.get` looks a key up in an object, giving `null` when it is missing;
  other kinds have no such lookup.
* `Value.pick` reads a field under its camel-case key when the object has
  that key at all, else under its snake-case key.  A list or text that holds
  the camel-case key is indexed by it, which fails.
* `Value.elements` walks a value: the items of a list, the keys of an object,
  the code points of a text; other kinds cannot be walked.
* `Value.setElements` makes a set of what `Value.elements` meets: every member
  is hashed, and a list or an object cannot be.
* `Value.toCoordinate` reads an integer that the server may also send as a
  decimal text: `null`, a truth value and anything unreadable give none, a
  number is truncated.
-/

namespace CompletionClient.Value

/-- Whether `part` occurs in `whole`. -/
def occursIn (part : List Char) : List Char → Bool
  | [] => part.isEmpty
  | c :: rest => part.isPrefixOf (c :: rest) || occursIn part rest

/-- Whether a key is in a value. -/
def mem (v : Value) (key : String) : Except Fault Bool :=
  match v with
  | obj fields => .ok (fields.any (·.1 == key))
  | list items => .ok (items.any (·.isText key))
  | str s => .ok (occursIn key.toList s.toList)
  | v => .error (.notSearchable v.kind)

/-- The value of a key in an object, `null` when it is missing. -/
def get (v : Value) (key : String) : Except Fault Value :=
  match v with
  | obj fields => .ok ((fields.lookup key).getD .null)
  | v => .error (.noMember v.kind "get")

/-- A field under its camel-case key if present, else under its snake-case key. -/
def pick (v : Value) (camel snake : String) : Except Fault Value := do
  if ← v.mem camel then
    match v with
    | obj fields => pure ((fields.lookup camel).getD .null)
    | v => throw (.badIndex v.kind "str")
  else v.get snake

/-- The values met when walking a value. -/
def elements (v : Value) : Except Fault (List Value) :=
  match v with
  | list items => .ok items
  | obj fields => .ok (fields.map fun f => str f.1)
  | str s => .ok ((Text.codePoints s).map fun n => str (Text.ofCodePoints [n]))
  | v => .error (.notIterable v.kind)

/-- Whether a value can be hashed: lists and objects cannot. -/
def hashable : Value → Bool
  | list _ | obj _ => false
  | _ => true

/-- The members of the set of the values met when walking a value, in the
order they were met; the first member that cannot be hashed fails. -/
def setElements (v : Value) : Except Fault (List Value) := do
  let items ← v.elements
  match items.find? (!·.hashable) with
  | some bad => throw (.unhashable bad.kind)
  | none => pure items

/-- An integer sent as a number or as decimal text, if there is one.  Only an
infinity fails. -/
def toCoordinate (v : Value) : Except Fault (Option Int) :=
  match v with
  | int n => .ok (some n)
  | float x =>
    match x.shape with
    | .infinite _ => .error .infiniteInteger
    | _ => .ok x.truncate
  | str s =>
    match Integer.read s with
    | .ok n => .ok (some n)
    | .error _ => .ok none
  | _ => .ok none

end CompletionClient.Value
