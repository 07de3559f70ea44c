import CompletionClient.Fault
import CompletionClient.Text.Blank
import CompletionClient.Text.Digit
import CompletionClient.Text.Quoted
/-!
# Integers written in decimal

`Integer.read` reads a whole text as a decimal integer: white space around it,
an optional sign, then digits, where single underscores may separate two
digits.  White space here is narrower than `Text.isBlank`: of ASCII only the
space, tab, line feed, vertical tab, form feed and carriage return count, so
the separators `\x1c` to `\x1f` do not; beyond ASCII every blank counts.  A digit is any decimal digit of Unicode (`Text.decimalValue?`), so
`٣` reads as 3, but a superscript `²` is no decimal digit and fails.

A text of more than `Integer.digitLimit` digits is refused before its value is
computed, whatever follows the digits; a misplaced underscore is refused first.
The message of a text that is no integer quotes the text, cut to 200
characters.
-/

namespace CompletionClient.Integer

/-- The most digits that are read. -/
def digitLimit : Nat := 4300

/-- One character of a text being read as an integer. -/
inductive Glyph where
  /-- White space. -/
  | blank
  /-- A decimal digit with its value. -/
  | digit (value : Nat)
  /-- An underscore. -/
  | underscore
  /-- A plus sign. -/
  | plus
  /-- A minus sign. -/
  | minus
  /-- Anything else. -/
  | other
  deriving DecidableEq, Inhabited

/-- Whether a character is white space around a numeral. -/
def isSpace (c : Char) : Bool :=
  if c.toNat < 128 then c = ' ' || ('\t' ≤ c && c ≤ '\r') else Text.isBlank c

/-- The glyph of a character. -/
def glyph (c : Char) : Glyph :=
  if isSpace c then .blank
  else match Text.decimalValue? c with
    | some d => .digit d
    | none =>
      if c = '_' then .underscore
      else if c = '+' then .plus
      else if c = '-' then .minus
      else .other

/-- Whether a glyph is a digit or an underscore. -/
def Glyph.inNumeral : Glyph → Bool
  | .digit _ | .underscore => true
  | _ => false

/-- The digit values of a numeral, or `none` if an underscore stands first,
last or next to another. -/
def digitsOf : List Glyph → Option (List Nat)
  | [] => some []
  | [.digit d] => some [d]
  | .digit d :: .underscore :: .digit e :: rest => (digitsOf (.digit e :: rest)).map (d :: ·)
  | .digit d :: .digit e :: rest => (digitsOf (.digit e :: rest)).map (d :: ·)
  | _ => none

/-- The value of a list of decimal digit values. -/
def valueOf (ds : List Nat) : Nat := ds.foldl (fun n d => 10 * n + d) 0

/-- The fault of a text that is no integer. -/
def notAnInteger (s : String) : Fault :=
  .notAnInteger (String.ofList ((Text.quote s).toList.take 200))

/-- Reads a whole text as a decimal integer. -/
def read (s : String) : Except Fault Int :=
  let gs := (s.toList.map glyph).dropWhile (· == .blank)
  let (negative, gs) := match gs with
    | .plus :: rest => (false, rest)
    | .minus :: rest => (true, rest)
    | _ => (false, gs)
  let numeral := gs.takeWhile Glyph.inNumeral
  let rest := gs.dropWhile Glyph.inNumeral
  match digitsOf numeral with
  | none => .error (notAnInteger s)
  | some ds =>
    if ds.length > digitLimit then .error (.tooManyDigits digitLimit ds.length)
    else if ds.isEmpty || rest.any (· != .blank) then .error (notAnInteger s)
    else
      let n : Int := valueOf ds
      .ok (if negative then -n else n)

end CompletionClient.Integer
