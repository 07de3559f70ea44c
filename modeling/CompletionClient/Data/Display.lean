import CompletionClient.Data.Value
import CompletionClient.Text.Quoted
/-!
# The text of a value

Two texts belong to each value.  Its *display* is what a message or an
identifier shows: a text as it is, anything else as its *written form*.  The
written form quotes texts (`CompletionClient.Text.quote`), spells the absent
value `None` and the truth values `True` and `False`, writes numbers in
decimal (binary64 numbers by `Binary64.text`), and lists and objects between
brackets and braces, items separated by a comma and a space, a key and its
value by a colon and a space.
-/

namespace CompletionClient.Value

mutual
/-- The written form of a value. -/
def written : Value → String
  | null => "None"
  | bool b => if b then "True" else "False"
  | int n => toString n
  | float x => x.text
  | str s => Text.quote s
  | list items => "[" ++ writtenItems items ++ "]"
  | obj fields => "\x7b" ++ writtenFields fields ++ "\x7d"

/-- The written forms of list items, separated by a comma and a space. -/
def writtenItems : List Value → String
  | [] => ""
  | [v] => written v
  | v :: rest => written v ++ ", " ++ writtenItems rest

/-- The written forms of fields, separated by a comma and a space. -/
def writtenFields : List (String × Value) → String
  | [] => ""
  | [(k, v)] => Text.quote k ++ ": " ++ written v
  | (k, v) :: rest => Text.quote k ++ ": " ++ written v ++ ", " ++ writtenFields rest
end

/-- The display of a value: a text as it is, any other value as its written form. -/
def display : Value → String
  | str s => s
  | v => v.written

end CompletionClient.Value
