import CompletionClient.Data.Value
import CompletionClient.Text.Quoted
/-!
# JSON text

Reading and writing values as JSON text (RFC 8259).

Reading keeps the kind of a number: digits alone make an integer, digits with
a fraction or an exponent a binary64 number, the nearest one to the decimal.
Beyond RFC 8259, the names `NaN`, `Infinity` and `-Infinity` are read as those
binary64 values, the same names that writing gives them.
An object that repeats a key keeps the last value at the first place.

Writing produces ASCII only: a code point outside ASCII is written as a `\u`
escape, by a surrogate pair above U+FFFF.

A text in JSON may hold a `\u` escape of a lone surrogate, which names no
character.  Texts are read as code points (`CompletionClient.Text.pointChars`),
so a lone surrogate is kept as one and written back as the lone escape: every
text read is written back as it came.
-/

namespace CompletionClient.Json

/-- The JSON white space. -/
def isSpace (c : Char) : Bool := c = ' ' || c = '\t' || c = '\n' || c = '\r'

/-- Drops leading JSON white space. -/
def skipSpace (cs : List Char) : List Char := cs.dropWhile isSpace

/-- The value of a hexadecimal digit. -/
def hexValue? (c : Char) : Option Nat :=
  if '0' ≤ c ∧ c ≤ '9' then some (c.toNat - 48)
  else if 'a' ≤ c ∧ c ≤ 'f' then some (c.toNat - 87)
  else if 'A' ≤ c ∧ c ≤ 'F' then some (c.toNat - 55)
  else none

/-- Four hexadecimal digits at the front. -/
def readHex4 : List Char → Option (Nat × List Char)
  | a :: b :: c :: d :: rest => do
    let va ← hexValue? a
    let vb ← hexValue? b
    let vc ← hexValue? c
    let vd ← hexValue? d
    pure (((va * 16 + vb) * 16 + vc) * 16 + vd, rest)
  | _ => none

/-- Reads the escape after a backslash inside a text, as a code point: a high
surrogate followed by the escape of a low one make one code point, any other
surrogate stands alone. -/
def readEscape : List Char → Except String (Nat × List Char)
  | '"' :: rest => .ok (0x22, rest)
  | '\\' :: rest => .ok (0x5C, rest)
  | '/' :: rest => .ok (0x2F, rest)
  | 'b' :: rest => .ok (8, rest)
  | 'f' :: rest => .ok (12, rest)
  | 'n' :: rest => .ok (10, rest)
  | 'r' :: rest => .ok (13, rest)
  | 't' :: rest => .ok (9, rest)
  | 'u' :: rest =>
    match readHex4 rest with
    | none => .error "bad unicode escape"
    | some (u, rest) =>
      if 0xD800 ≤ u ∧ u < 0xDC00 then
        match rest with
        | '\\' :: 'u' :: more =>
          match readHex4 more with
          | some (l, after) =>
            if 0xDC00 ≤ l ∧ l < 0xE000 then
              .ok (0x10000 + (u - 0xD800) * 0x400 + (l - 0xDC00), after)
            else .ok (u, rest)
          | none => .ok (u, rest)
        | _ => .ok (u, rest)
      else .ok (u, rest)
  | _ => .error "bad escape"

/-- Reads the rest of a text after its opening quote; the characters read so
far are kept reversed.  Every step consumes at least one character, so `fuel`
at least the length of the input suffices. -/
def readText : Nat → List Char → List Char → Except String (String × List Char)
  | 0, _, _ => .error "input too deep"
  | _ + 1, _, [] => .error "unterminated string"
  | _ + 1, acc, '"' :: rest => .ok (String.ofList acc.reverse, rest)
  | fuel + 1, acc, '\\' :: rest =>
    match readEscape rest with
    | .ok (n, after) => readText fuel ((Text.pointChars n).reverse ++ acc) after
    | .error e => .error e
  | fuel + 1, acc, c :: rest => readText fuel ((Text.pointChars c.toNat).reverse ++ acc) rest

/-- Whether a character is an ASCII digit. -/
def isDigit (c : Char) : Bool := '0' ≤ c && c ≤ '9'

/-- The natural number written by ASCII digits. -/
def digitsValue (ds : List Char) : Nat := ds.foldl (fun n d => 10 * n + (d.toNat - 48)) 0

/-- Reads an optional exponent part: `e` or `E`, an optional sign and digits. -/
def readExponent : List Char → Except String (Option Int × List Char)
  | e :: rest =>
    if e = 'e' ∨ e = 'E' then
      let (negative, rest) := match rest with
        | '+' :: r => (false, r)
        | '-' :: r => (true, r)
        | r => (false, r)
      let ds := rest.takeWhile isDigit
      if ds.isEmpty then .error "bad exponent"
      else
        let n : Int := digitsValue ds
        .ok (some (if negative then -n else n), rest.dropWhile isDigit)
    else .ok (none, e :: rest)
  | [] => .ok (none, [])

/-- Reads a number: an optional minus, an integer part without leading zeros,
then an optional fraction and an optional exponent. -/
def readNumber (cs : List Char) : Except String (Value × List Char) := do
  let (negative, cs) := match cs with
    | '-' :: rest => (true, rest)
    | _ => (false, cs)
  let intPart := cs.takeWhile isDigit
  let cs := cs.dropWhile isDigit
  if intPart.isEmpty then throw "bad number"
  if intPart.length > 1 && intPart.head? == some '0' then throw "leading zero"
  let (frac, cs) ← match cs with
    | '.' :: rest =>
      let ds := rest.takeWhile isDigit
      if ds.isEmpty then throw "bad fraction" else pure (some ds, rest.dropWhile isDigit)
    | _ => pure (none, cs)
  let (expo, cs) ← readExponent cs
  match frac, expo with
  | none, none =>
    let n : Int := digitsValue intPart
    pure (.int (if negative then -n else n), cs)
  | _, _ =>
    let fracDigits := frac.getD []
    let digits := digitsValue (intPart ++ fracDigits)
    pure (.float (Binary64.ofDecimal negative digits (expo.getD 0 - fracDigits.length)), cs)

mutual
/-- Reads one value after optional white space. -/
def readValue : Nat → List Char → Except String (Value × List Char)
  | 0, _ => .error "input too deep"
  | fuel + 1, cs =>
    match skipSpace cs with
    | '{' :: rest => readFields fuel [] true rest
    | '[' :: rest => readItems fuel [] true rest
    | '"' :: rest => do
      let (s, rest) ← readText (rest.length + 1) [] rest
      pure (.str s, rest)
    | 't' :: 'r' :: 'u' :: 'e' :: rest => .ok (.bool true, rest)
    | 'f' :: 'a' :: 'l' :: 's' :: 'e' :: rest => .ok (.bool false, rest)
    | 'n' :: 'u' :: 'l' :: 'l' :: rest => .ok (.null, rest)
    | 'N' :: 'a' :: 'N' :: rest => .ok (.float Binary64.nan, rest)
    | 'I' :: 'n' :: 'f' :: 'i' :: 'n' :: 'i' :: 't' :: 'y' :: rest =>
      .ok (.float (Binary64.infinity false), rest)
    | '-' :: 'I' :: 'n' :: 'f' :: 'i' :: 'n' :: 'i' :: 't' :: 'y' :: rest =>
      .ok (.float (Binary64.infinity true), rest)
    | cs => readNumber cs

/-- Reads the items of a list after `[`; `first` says that no item was read yet. -/
def readItems : Nat → List Value → Bool → List Char → Except String (Value × List Char)
  | 0, _, _, _ => .error "input too deep"
  | fuel + 1, acc, first, cs =>
    match skipSpace cs with
    | ']' :: rest => .ok (.list acc.reverse, rest)
    | cs' =>
      let cs'' : Except String (List Char) := if first then .ok cs' else
        match cs' with
        | ',' :: rest => .ok rest
        | _ => .error "expected ,"
      match cs'' with
      | .error e => .error e
      | .ok cs'' =>
        match readValue fuel cs'' with
        | .error e => .error e
        | .ok (v, rest) => readItems fuel (v :: acc) false rest

/-- Reads the fields of an object after `{`; `first` says that no field was read yet. -/
def readFields : Nat → List (String × Value) → Bool → List Char → Except String (Value × List Char)
  | 0, _, _, _ => .error "input too deep"
  | fuel + 1, acc, first, cs =>
    match skipSpace cs with
    | '}' :: rest => .ok (Value.ofFields acc.reverse, rest)
    | cs' =>
      let cs'' : Except String (List Char) := if first then .ok cs' else
        match cs' with
        | ',' :: rest => .ok (skipSpace rest)
        | _ => .error "expected ,"
      match cs'' with
      | .error e => .error e
      | .ok ('"' :: rest) =>
        match readText (rest.length + 1) [] rest with
        | .error e => .error e
        | .ok (key, rest) =>
          match skipSpace rest with
          | ':' :: rest =>
            match readValue fuel rest with
            | .error e => .error e
            | .ok (v, rest) => readFields fuel ((key, v) :: acc) false rest
          | _ => .error "expected :"
      | .ok _ => .error "expected key"
end

/-- Reads a whole text as one value, with nothing but white space after it. -/
def read (s : String) : Except String Value :=
  let cs := s.toList
  match readValue (2 * cs.length + 2) cs with
  | .ok (v, rest) => if (skipSpace rest).isEmpty then .ok v else .error "extra data"
  | .error e => .error e

/-- The escape of a code point inside a written text. -/
def escapePoint (n : Nat) : String :=
  if n = 0x22 then "\\\""
  else if n = 0x5C then "\\\\"
  else if n = 10 then "\\n"
  else if n = 13 then "\\r"
  else if n = 9 then "\\t"
  else if n = 8 then "\\b"
  else if n = 12 then "\\f"
  else if n < 0x20 then "\\u" ++ Text.hexDigits 4 n
  else if n < 0x7F then String.singleton (Char.ofNat n)
  else if n < 0x10000 then "\\u" ++ Text.hexDigits 4 n
  else
    let m := n - 0x10000
    "\\u" ++ Text.hexDigits 4 (0xD800 + m / 0x400) ++ "\\u" ++ Text.hexDigits 4 (0xDC00 + m % 0x400)

/-- A written text, between double quotes. -/
def writeText (s : String) : String :=
  "\"" ++ String.join ((Text.codePoints s).map escapePoint) ++ "\""

/-- A written binary64 number; JSON has no infinities and no NaN, which are
written as the names that common readers accept. -/
def writeFloat (x : Binary64) : String :=
  match x.shape with
  | .nan => "NaN"
  | .infinite negative => if negative then "-Infinity" else "Infinity"
  | .finite .. => x.text

mutual
/-- The JSON text of a value. -/
def write : Value → String
  | .null => "null"
  | .bool b => if b then "true" else "false"
  | .int n => toString n
  | .float x => writeFloat x
  | .str s => writeText s
  | .list items => "[" ++ writeItems items ++ "]"
  | .obj fields => "\x7b" ++ writeFields fields ++ "\x7d"

/-- Written list items, separated by commas. -/
def writeItems : List Value → String
  | [] => ""
  | [v] => write v
  | v :: rest => write v ++ "," ++ writeItems rest

/-- Written fields, separated by commas. -/
def writeFields : List (String × Value) → String
  | [] => ""
  | [(k, v)] => writeText k ++ ":" ++ write v
  | (k, v) :: rest => writeText k ++ ":" ++ write v ++ "," ++ writeFields rest
end

/-- A line break followed by the indentation of nesting `depth`, at `step`
spaces a level. -/
def lineBreak (step depth : Nat) : String :=
  "\n" ++ String.ofList (List.replicate (step * depth) ' ')

mutual
/-- The JSON text of a value laid out over lines: every item of a non-empty
list or object on a line of its own, indented by `step` spaces a level,
starting at nesting `depth`.  Empty lists and objects stay on one line. -/
def writeIndented (step depth : Nat) : Value → String
  | .list [] => "[]"
  | .obj [] => "\x7b\x7d"
  | .list items => "[" ++ writeIndentedItems step (depth + 1) items ++ lineBreak step depth ++ "]"
  | .obj fields =>
    "\x7b" ++ writeIndentedFields step (depth + 1) fields ++ lineBreak step depth ++ "\x7d"
  | v => write v

/-- Laid-out list items, each on a line of its own. -/
def writeIndentedItems (step depth : Nat) : List Value → String
  | [] => ""
  | [v] => lineBreak step depth ++ writeIndented step depth v
  | v :: rest =>
    lineBreak step depth ++ writeIndented step depth v ++ "," ++ writeIndentedItems step depth rest

/-- Laid-out fields, each on a line of its own. -/
def writeIndentedFields (step depth : Nat) : List (String × Value) → String
  | [] => ""
  | [(k, v)] => lineBreak step depth ++ writeText k ++ ": " ++ writeIndented step depth v
  | (k, v) :: rest =>
    lineBreak step depth ++ writeText k ++ ": " ++ writeIndented step depth v ++ "," ++
      writeIndentedFields step depth rest
end

end CompletionClient.Json
