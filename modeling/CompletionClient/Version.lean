import CompletionClient.Numeral.Integer
import CompletionClient.Data.Value
/-!
# Versions

Two readings of a dotted version text, each after trimming white space.

* `Version.parse` reads the numbers of a version: each piece between dots
  keeps its digits (in the wide sense of `Text.isDigit`) and reads them as a
  decimal integer, or counts as 0 when it has none.  Versions compare as lists
  of numbers, piece by piece, a version being less than its own extensions
  (`Version.compare`).
* `Version.normalize` gives an IDE version exactly three pieces: the non-empty
  pieces, padded with `0` or cut after the third, and `0.0.0` when there are none.

A value that is not a text has no version; it fails as having no `strip`.
-/

namespace CompletionClient.Version

/-- The pieces of a text between dots; a text without dots is one piece. -/
def splitDots (s : String) : List String := (s.toList.splitOn '.').map String.ofList

/-- The number of one piece of a version. -/
def pieceNumber (piece : String) : Except Fault Nat :=
  let digits := piece.toList.filter Text.isDigit
  if digits.isEmpty then .ok 0 else (Integer.read (String.ofList digits)).map Int.toNat

/-- The numbers of a version text. -/
def parse (v : String) : Except Fault (List Nat) :=
  (splitDots (Text.trim v)).mapM pieceNumber

/-- Compares two versions as lists of numbers. -/
def compare : List Nat → List Nat → Ordering
  | [], [] => .eq
  | [], _ :: _ => .lt
  | _ :: _, [] => .gt
  | a :: as, b :: bs => if a < b then .lt else if b < a then .gt else compare as bs

/-- An IDE version with exactly three pieces. -/
def normalize (v : String) : String :=
  let pieces := (splitDots (Text.trim v)).filter (!·.isEmpty)
  let pieces := if pieces.isEmpty then ["0"] else pieces
  ".".intercalate ((pieces ++ ["0", "0"]).take 3)

/-- The text of a value that should be a version. -/
def textOf (v : Value) : Except Fault String :=
  match v with
  | .str s => .ok s
  | v => .error (.noMember v.kind "strip")

end CompletionClient.Version
