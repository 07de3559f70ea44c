import CompletionClient.Numeral.Binary64
/-!
# Values

`Value` is the dynamic data that the client exchanges with the language
server and accepts from its callers: the values of JSON, with integers of any
size kept apart from binary64 numbers, and objects as lists of fields in the
order they were first written.

Besides the constructors this module gives what the client asks of a value
whose shape it does not know: its kind (`Value.kind`, named as the messages
name it), whether it counts as true (`Value.truthy`), a field of an object
(`Value.field?`), and membership in it.
-/

namespace CompletionClient

/-- A JSON value, with integers and binary64 numbers apart. -/
inductive Value where
  /-- The absent value. -/
  | null
  /-- A truth value. -/
  | bool (b : Bool)
  /-- An integer of any size. -/
  | int (n : Int)
  /-- A binary64 number. -/
  | float (x : Binary64)
  /-- A text. -/
  | str (s : String)
  /-- A list of values. -/
  | list (items : List Value)
  /-- An object: its fields in the order they were first written, keys unique. -/
  | obj (fields : List (String × Value))
  deriving Inhabited

namespace Value

/-- The name of the kind of a value, as error messages give it. -/
def kind : Value → String
  | null => "NoneType"
  | bool _ => "bool"
  | int _ => "int"
  | float _ => "float"
  | str _ => "str"
  | list _ => "list"
  | obj _ => "dict"

/-- Whether a value counts as true: all do except `null`, `false`, a zero, the
empty text, the empty list and the empty object. -/
def truthy : Value → Bool
  | null => false
  | bool b => b
  | int n => n != 0
  | float x => !x.isZero
  | str s => !s.isEmpty
  | list items => !items.isEmpty
  | obj fields => !fields.isEmpty

/-- The value of the field `key` of an object, if the value is an object that has it. -/
def field? (v : Value) (key : String) : Option Value :=
  match v with
  | obj fields => fields.lookup key
  | _ => none

/-- Whether the value is the text `s`. -/
def isText (v : Value) (s : String) : Bool :=
  match v with
  | str t => t == s
  | _ => false

/-- Sets the field `key` of a list of fields: in place if it is there, else at the end. -/
def setField (fields : List (String × Value)) (key : String) (v : Value) :
    List (String × Value) :=
  if fields.any (·.1 == key) then fields.map fun f => if f.1 == key then (key, v) else f
  else fields ++ [(key, v)]

/-- An object from fields that may repeat a key: the last value of a key is
kept, at the place where the key first stood. -/
def ofFields (fields : List (String × Value)) : Value :=
  obj (fields.foldl (fun acc f => setField acc f.1 f.2) [])

end Value

end CompletionClient
