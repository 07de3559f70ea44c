import CompletionClient.Fault
import CompletionClient.Text.CodePoints
/-!
# UTF-8

Encoding the code points of a text as UTF-8 bytes, and decoding bytes,
strictly or with replacement, into the code points of a text
(`CompletionClient.Text.pointChars`).  A surrogate, which UTF-8 cannot hold,
is encoded by the same arithmetic as its neighbours.

Decoding reads one sequence at a time.  A sequence that goes wrong is a *bad
span*: a byte that cannot start a sequence (`invalid start byte`), the bytes
before a byte that cannot continue the sequence (`invalid continuation
byte`), or a valid beginning cut off by the end of the input (`unexpected end
of data`), which spans to the end.  A second byte that would lead to an
overlong form, a surrogate or a code point above U+10FFFF cannot continue the
sequence.  Strict decoding fails at the first bad span; decoding with
replacement writes U+FFFD for each bad span and goes on after it.
-/

namespace CompletionClient.Utf8

/-- The UTF-8 bytes of a code point. -/
def encodePoint (n : Nat) : List UInt8 :=
  if n < 0x80 then [n.toUInt8]
  else if n < 0x800 then [(0xC0 + n / 64).toUInt8, (0x80 + n % 64).toUInt8]
  else if n < 0x10000 then
    [(0xE0 + n / 4096).toUInt8, (0x80 + n / 64 % 64).toUInt8, (0x80 + n % 64).toUInt8]
  else
    [(0xF0 + n / 262144).toUInt8, (0x80 + n / 4096 % 64).toUInt8,
     (0x80 + n / 64 % 64).toUInt8, (0x80 + n % 64).toUInt8]

/-- The UTF-8 bytes of a text. -/
def encode (s : String) : List UInt8 := (Text.codePoints s).flatMap encodePoint

/-- What one step of decoding finds at the front of the input. -/
inductive Step where
  /-- A code point, and how many bytes it took. -/
  | point (n : Nat) (width : Nat)
  /-- A bad span of the given length, and why. -/
  | bad (length : Nat) (reason : String)

/-- Whether a byte continues a sequence. -/
def isContinuation (b : UInt8) : Bool := 0x80 ≤ b.toNat && b.toNat < 0xC0

/-- Whether the second byte of a sequence led by `b0` is acceptable: a
continuation byte that keeps the code point from being overlong, a surrogate
or above U+10FFFF. -/
def secondOk (b0 b1 : UInt8) : Bool :=
  let x := b0.toNat
  let y := b1.toNat
  isContinuation b1 &&
    (if x = 0xE0 then y ≥ 0xA0
     else if x = 0xED then y < 0xA0
     else if x = 0xF0 then y ≥ 0x90
     else if x = 0xF4 then y < 0x90
     else true)

/-- The payload bits of a continuation byte. -/
def low (b : UInt8) : Nat := b.toNat % 64

/-- One step of decoding at the front of a non-empty input. -/
def step : List UInt8 → Step
  | [] => .bad 0 "unexpected end of data"
  | b0 :: rest =>
    let x := b0.toNat
    let endOfData := Step.bad (rest.length + 1) "unexpected end of data"
    let badNext (k : Nat) := Step.bad k "invalid continuation byte"
    if x < 0x80 then .point x 1
    else if x < 0xC2 ∨ x ≥ 0xF5 then .bad 1 "invalid start byte"
    else if x < 0xE0 then
      match rest with
      | [] => endOfData
      | b1 :: _ =>
        if isContinuation b1 then .point ((x % 32) * 64 + low b1) 2 else badNext 1
    else if x < 0xF0 then
      match rest with
      | [] => endOfData
      | [b1] => if secondOk b0 b1 then endOfData else badNext 1
      | b1 :: b2 :: _ =>
        if !secondOk b0 b1 then badNext 1
        else if !isContinuation b2 then badNext 2
        else .point ((x % 16) * 4096 + low b1 * 64 + low b2) 3
    else
      match rest with
      | [] => endOfData
      | [b1] => if secondOk b0 b1 then endOfData else badNext 1
      | [b1, b2] =>
        if !secondOk b0 b1 then badNext 1
        else if !isContinuation b2 then badNext 2
        else endOfData
      | b1 :: b2 :: b3 :: _ =>
        if !secondOk b0 b1 then badNext 1
        else if !isContinuation b2 then badNext 2
        else if !isContinuation b3 then badNext 3
        else .point ((x % 8) * 262144 + low b1 * 4096 + low b2 * 64 + low b3) 4

/-- Decodes strictly; `pos` is the position of the input's first byte in the
whole input, and the characters decoded so far are kept reversed.  Each step consumes at least one byte, so the recursion ends. -/
def decodeFrom (pos : Nat) (acc : List Char) (bs : List UInt8) : Except Fault String :=
  match bs with
  | [] => .ok (String.ofList acc.reverse)
  | b :: rest =>
    match step (b :: rest) with
    | .point n w =>
      decodeFrom (pos + max w 1) ((Text.pointChars n).reverse ++ acc) ((b :: rest).drop (max w 1))
    | .bad n reason => .error (.notUtf8 b.toNat pos (pos + max n 1) reason)
termination_by bs.length
decreasing_by simp only [List.length_drop, List.length_cons]; omega

/-- Decodes bytes strictly: the text, or the fault of the first bad span. -/
def decode (bs : List UInt8) : Except Fault String := decodeFrom 0 [] bs

/-- Decodes with replacement: U+FFFD for each bad span. -/
def decodeLossy (acc : List Char) (bs : List UInt8) : String :=
  match bs with
  | [] => String.ofList acc.reverse
  | b :: rest =>
    match step (b :: rest) with
    | .point n w => decodeLossy ((Text.pointChars n).reverse ++ acc) ((b :: rest).drop (max w 1))
    | .bad n _ => decodeLossy ('�' :: acc) ((b :: rest).drop (max n 1))
termination_by bs.length
decreasing_by all_goals simp only [List.length_drop, List.length_cons]; omega

end CompletionClient.Utf8
