/-!
# Binary64 numbers

A double-precision number is kept as its 64 bits, so that two of them are
equal exactly when their bits are, and every question about one is a question
about natural numbers.  A finite value decodes to `m * 2^q` (`Binary64.shape`).

Three operations are defined here on the decoded form, in exact arithmetic:

* reading a decimal `digits * 10^exp`, rounded to nearest with ties to even
  (`Binary64.ofDecimal`);
* truncation toward zero to an integer (`Binary64.truncate`);
* the shortest decimal that reads back to the same number
  (`Binary64.shortest`): the fewest significant digits whose value lies in the
  interval of reals that round to the number, and of two such the nearer.

The text of a number (`Binary64.text`) lays out the shortest decimal: the
point inside or after the digits when the leading digit stands at `10^-4` to
`10^15`, with at least one digit after the point, and otherwise one digit,
a point and the rest, then `e`, a sign and at least two exponent digits.
-/

namespace CompletionClient

/-- A double-precision binary floating-point number, held as its bits. -/
structure Binary64 where
  /-- The IEEE 754 encoding: sign, eleven exponent bits, 52 fraction bits. -/
  bits : UInt64
  deriving DecidableEq, Inhabited

namespace Binary64

/-- The decoded form of a number. -/
inductive Shape where
  /-- `(-1)^negative * mantissa * 2^exponent`. -/
  | finite (negative : Bool) (mantissa : Nat) (exponent : Int)
  /-- An infinity of the given sign. -/
  | infinite (negative : Bool)
  /-- Not a number. -/
  | nan
  deriving DecidableEq, Inhabited

/-- Whether the sign bit is set. -/
def signBit (x : Binary64) : Bool := (x.bits >>> 63) == 1

/-- The biased exponent field. -/
def exponentField (x : Binary64) : Nat := ((x.bits >>> 52) &&& 0x7FF).toNat

/-- The fraction field. -/
def fractionField (x : Binary64) : Nat := (x.bits &&& 0xFFFFFFFFFFFFF).toNat

/-- Decodes the bits; subnormals have exponent `-1074` and no hidden bit. -/
def shape (x : Binary64) : Shape :=
  let e := x.exponentField
  let f := x.fractionField
  if e = 0 then .finite x.signBit f (-1074)
  else if e = 2047 then (if f = 0 then .infinite x.signBit else .nan)
  else .finite x.signBit (f + Nat.pow 2 52) ((e : Int) - 1075)

/-- Positive zero. -/
def zero : Binary64 := ⟨0⟩

/-- The infinity of the given sign. -/
def infinity (negative : Bool) : Binary64 :=
  ⟨if negative then 0xFFF0000000000000 else 0x7FF0000000000000⟩

/-- The quiet NaN with no payload. -/
def nan : Binary64 := ⟨0x7FF8000000000000⟩

/-- Whether the number is a zero of either sign. -/
def isZero (x : Binary64) : Bool := (x.bits &&& 0x7FFFFFFFFFFFFFFF) == 0

/-- The number with the sign bit flipped. -/
def neg (x : Binary64) : Binary64 := ⟨x.bits ^^^ 0x8000000000000000⟩

/-- Encodes a non-negative mantissa and exponent that are already in range. -/
def encode (negative : Bool) (m : Nat) (q : Int) : Binary64 :=
  let sign : UInt64 := if negative then 0x8000000000000000 else 0
  if m < Nat.pow 2 52 then ⟨sign ||| (m.toUInt64)⟩
  else ⟨sign ||| (((q + 1075).toNat.toUInt64) <<< 52) ||| ((m - Nat.pow 2 52).toUInt64)⟩

/-- `2^k` for an integer `k ≥ 0`, and `1` below. -/
def pow2 (k : Int) : Nat := Nat.pow 2 k.toNat

/-- `10^k` for an integer `k ≥ 0`, and `1` below. -/
def pow10 (k : Int) : Nat := Nat.pow 10 k.toNat

/-- The number of decimal digits of a positive natural number. -/
def decimalLength (n : Nat) : Nat :=
  if h : n < 10 then 1 else decimalLength (n / 10) + 1
termination_by n
decreasing_by omega

/-- `⌊log₁₀ (num / den)⌋` for positive `num` and `den`: the quotient lies in
`(10^(c-1), 10^(c+1))` for the difference `c` of the digit counts. -/
def floorLog10 (num den : Nat) : Int :=
  let c : Int := (decimalLength num : Int) - decimalLength den
  if num * pow10 (-c) ≥ den * pow10 c then c else c - 1

/-- `⌊log₂ (num / den)⌋` for positive `num` and `den`. -/
def floorLog2 (num den : Nat) : Int :=
  let c : Int := (num.log2 : Int) - den.log2
  if num * pow2 (-c) ≥ den * pow2 c then c else c - 1

/-- `num / den` rounded to the nearest natural number, a tie to the even one. -/
def roundHalfEven (num den : Nat) : Nat :=
  let q := num / den
  let r := num % den
  if 2 * r < den then q
  else if 2 * r > den then q + 1
  else if q % 2 = 0 then q else q + 1

/-- The number nearest to `num / den` (ties to even) with the given sign.
The mantissa is chosen on the grid of the binade of the quotient, or of the
subnormal grid below the least normal binade; a mantissa that rounds up to
`2^53` moves to the next binade, and one past the greatest finite binade is an
infinity. -/
def ofRatio (negative : Bool) (num den : Nat) : Binary64 :=
  if num = 0 ∨ den = 0 then (if negative then neg zero else zero)
  else
    let q0 := max (floorLog2 num den - 52) (-1074)
    let m := roundHalfEven (num * pow2 (-q0)) (den * pow2 q0)
    let (m, q) := if m = Nat.pow 2 53 then (Nat.pow 2 52, q0 + 1) else (m, q0)
    if q > 971 then ⟨(if negative then 0xFFF0000000000000 else 0x7FF0000000000000)⟩
    else encode negative m q

/-- The number nearest to `digits * 10^exp`.  Exponents far outside the range
of the format go straight to infinity or zero, so that no huge power is built. -/
def ofDecimal (negative : Bool) (digits : Nat) (exp : Int) : Binary64 :=
  if digits = 0 then (if negative then neg zero else zero)
  else
    let scale : Int := exp + decimalLength digits
    if scale > 400 then infinity negative
    else if scale < -400 then (if negative then neg zero else zero)
    else ofRatio negative (digits * pow10 exp) (pow10 (-exp))

/-- Truncation toward zero; `none` for an infinity or a NaN. -/
def truncate (x : Binary64) : Option Int :=
  match x.shape with
  | .finite negative m q =>
    let magnitude : Nat := if q ≥ 0 then m * pow2 q else m / pow2 (-q)
    some (if negative then -(magnitude : Int) else magnitude)
  | _ => none

/-- The integer a number equals, if it is finite and has no fractional part. -/
def exactInt (x : Binary64) : Option Int :=
  match x.shape with
  | .finite negative m q =>
    let magnitude? : Option Nat :=
      if q ≥ 0 then some (m * pow2 q)
      else if m % pow2 (-q) = 0 then some (m / pow2 (-q)) else none
    magnitude?.map fun n => if negative then -(n : Int) else n
  | _ => none

/-- A decimal `digits * 10^exp`. -/
structure Decimal where
  /-- The significant digits. -/
  digits : Nat
  /-- The power of ten of the last digit. -/
  exp : Int
  deriving DecidableEq, Inhabited

/-- Moves trailing zeros of the digits into the exponent. -/
def Decimal.strip (d : Decimal) : Decimal :=
  if h : d.digits ≠ 0 ∧ d.digits % 10 = 0 then
    Decimal.strip ⟨d.digits / 10, d.exp + 1⟩
  else d
termination_by d.digits
decreasing_by omega

/-- The interval of reals that round to the finite positive value `m * 2^q`,
scaled by `2^scaleExp` so that all its parts are natural numbers: its centre,
its lower and upper half-gaps, and whether its ends belong to it (an even
mantissa wins a tie when read back). -/
structure Interval where
  /-- The value times the scale. -/
  centre : Nat
  /-- Half the distance to the number below, times the scale. -/
  below : Nat
  /-- Half the distance to the number above, times the scale. -/
  above : Nat
  /-- Whether the two ends read back to the value. -/
  closed : Bool
  /-- The scale as a power of two. -/
  scaleExp : Nat

/-- The interval of the positive value `m * 2^q`, scaled by `2^(2 - q)` when
`q < 2`.  Below a power of two that is not the least normal one, the gap to the
number below is half the gap above. -/
def interval (m : Nat) (q : Int) : Interval :=
  let s : Nat := (2 - q).toNat
  let unit : Nat := pow2 (q + s)
  let narrow := m = Nat.pow 2 52 ∧ q > -1074
  { centre := m * unit
    below := if narrow then unit / 4 else unit / 2
    above := unit / 2
    closed := m % 2 = 0
    scaleExp := s }

/-- Whether the decimal `d * 10^e` reads back to the positive value `m * 2^q`. -/
def readsBack (m : Nat) (q : Int) (d : Nat) (e : Int) : Bool :=
  let iv := interval m q
  -- compare d * 10^e * 2^s with the interval, all multiplied by 10^(-e)
  let lhs := d * pow10 e * Nat.pow 2 iv.scaleExp
  let k := pow10 (-e)
  let lo := iv.centre * k - iv.below * k
  let hi := iv.centre * k + iv.above * k
  if iv.closed then decide (lo ≤ lhs ∧ lhs ≤ hi) else decide (lo < lhs ∧ lhs < hi)

/-- The candidates on the grid `10^e` next to the positive value `m * 2^q`,
that read back; of two, the nearer, and of two equally near, the even one. -/
def nearestOnGrid (m : Nat) (q : Int) (e : Int) : Option Nat :=
  -- the value and the grid, both over the common denominator 2^(-q) * 10^(-e)
  let v := m * pow2 q * pow10 (-e)
  let g := pow10 e * pow2 (-q)
  let lo := v / g
  let hi := lo + 1
  let loOk := lo ≠ 0 && readsBack m q lo e
  let hiOk := readsBack m q hi e
  match loOk, hiOk with
  | true, true =>
    let dLo := v - lo * g
    let dHi := hi * g - v
    if dLo < dHi then some lo
    else if dHi < dLo then some hi
    else if lo % 2 = 0 then some lo else some hi
  | true, false => some lo
  | false, true => some hi
  | false, false => none

/-- The first grid, from one significant digit to seventeen, on which a
neighbour of the positive value `m * 2^q` reads back. -/
def shortestPositive (m : Nat) (q : Int) : Decimal :=
  let lead := floorLog10 (m * pow2 q) (pow2 (-q))
  let found := (List.range 17).findSome? fun (n : Nat) =>
    let e := lead - (n : Int)
    (nearestOnGrid m q e).map fun d => Decimal.mk d e
  match found with
  | some d => d.strip
  | none =>
    -- the exact value; seventeen digits always suffice, so this is not reached
    if q ≥ 0 then (Decimal.mk (m * pow2 q) 0).strip
    else (Decimal.mk (m * Nat.pow 5 (-q).toNat) q).strip

/-- The shortest decimal of a finite number, with its sign; zero is `0 * 10^0`. -/
def shortest (negative : Bool) (m : Nat) (q : Int) : Bool × Decimal :=
  if m = 0 then (negative, ⟨0, 0⟩) else (negative, shortestPositive m q)

/-- `n` in decimal, with at least `width` digits. -/
def padded (width : Nat) (n : Nat) : String :=
  let s := toString n
  String.ofList (List.replicate (width - s.length) '0') ++ s

/-- Lays out the digit string `ds` of a decimal whose leading digit stands at
`10^lead`: positionally for `-4 ≤ lead ≤ 15`, otherwise in exponent form. -/
def layout (ds : String) (lead : Int) : String :=
  let n := ds.length
  if -4 ≤ lead ∧ lead ≤ 15 then
    if lead ≥ (n : Int) - 1 then
      ds ++ String.ofList (List.replicate (lead.toNat + 1 - n) '0') ++ ".0"
    else if lead ≥ 0 then
      String.ofList (ds.toList.take (lead.toNat + 1)) ++ "." ++
        String.ofList (ds.toList.drop (lead.toNat + 1))
    else
      "0." ++ String.ofList (List.replicate ((-lead).toNat - 1) '0') ++ ds
  else
    let first := String.ofList (ds.toList.take 1)
    let rest := String.ofList (ds.toList.drop 1)
    let mantissa := if rest.isEmpty then first else first ++ "." ++ rest
    mantissa ++ "e" ++ (if lead < 0 then "-" else "+") ++ padded 2 lead.natAbs

/-- The text of a number: its shortest decimal laid out by `layout`, a zero as
`0.0`, the infinities as `inf` and NaN as `nan`, with a minus sign before a
negative value or a negative zero. -/
def text (x : Binary64) : String :=
  match x.shape with
  | .nan => "nan"
  | .infinite negative => if negative then "-inf" else "inf"
  | .finite negative m q =>
    let sign := if negative then "-" else ""
    if m = 0 then sign ++ "0.0"
    else
      let d := shortestPositive m q
      let ds := toString d.digits
      sign ++ layout ds (d.exp + ds.length - 1)

end Binary64

end CompletionClient
