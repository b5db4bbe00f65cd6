/-!
# Doubles by their bits

A double is kept as its sixty-four bits, so two doubles are equal exactly when
their bits are.  Every operation is computed in exact integer arithmetic: a
finite double is a ratio of natural numbers, and {lit}`Binary64.ofRatio` rounds a
ratio to the nearest double, a tie going to the even significand.
-/

namespace EngineLink

/-- The sixty-four bits of a double. -/
structure Binary64 where
  bits : UInt64
  deriving DecidableEq, Inhabited

/-- The thirty-two bits of a single-precision value. -/
structure Binary32 where
  bits : UInt32
  deriving DecidableEq, Inhabited

/-- A binary floating-point format: {lit}`fractionBits` stored bits of the
significand, {lit}`lowest` the exponent of the last bit of a subnormal, and
{lit}`infinity` the bits of positive infinity. -/
structure BinaryFormat where
  fractionBits : Nat
  lowest : Int
  infinity : Nat

namespace BinaryFormat

/-- Double precision. -/
def double : BinaryFormat := ⟨52, -1074, 0x7ff0000000000000⟩

/-- Single precision. -/
def single : BinaryFormat := ⟨23, -149, 0x7f800000⟩

/-- The quotient {lit}`num / den` divided by {lit}`2 ^ e`, again as a ratio. -/
def scale (num den : Nat) (e : Int) : Nat × Nat :=
  if 0 ≤ e then (num, den * Nat.pow 2 e.toNat) else (num * Nat.pow 2 (-e).toNat, den)

/-- The integer nearest to {lit}`num / den`; a half goes to the even neighbour. -/
def roundHalfEven (num den : Nat) : Nat :=
  let q := num / den
  let twice := 2 * (num % den)
  if twice < den then q else if den < twice then q + 1 else q + q % 2

/-- The bits of the value of the format nearest to the ratio {lit}`num / den`,
without a sign.  The exponent is chosen so that the significand has one bit more
than is stored, and never below that of a subnormal; a carry out of the
significand runs into the exponent field, and anything past the last finite
value is infinity. -/
def magnitude (f : BinaryFormat) (num den : Nat) : Nat :=
  if num = 0 then 0
  else
    let estimate : Int := (num.log2 : Int) - den.log2 - f.fractionBits - 1
    let trial := scale num den estimate
    let fitted :=
      if trial.1 / trial.2 < Nat.pow 2 (f.fractionBits + 1) then estimate else estimate + 1
    let e := max f.lowest fitted
    let scaled := scale num den e
    let significand := roundHalfEven scaled.1 scaled.2
    min ((e - f.lowest).toNat * Nat.pow 2 f.fractionBits + significand) f.infinity

/-- Significand and exponent of the finite value with the given bits (no sign):
the value is {lit}`m * 2 ^ q`. -/
def parts (f : BinaryFormat) (bits : Nat) : Nat × Int :=
  let fraction := bits % Nat.pow 2 f.fractionBits
  let exponent := bits / Nat.pow 2 f.fractionBits
  if exponent = 0 then (fraction, f.lowest)
  else (fraction + Nat.pow 2 f.fractionBits, f.lowest + exponent - 1)

/-- The finite value with the given bits (no sign) as a ratio. -/
def ratio (f : BinaryFormat) (bits : Nat) : Nat × Nat :=
  let (m, q) := f.parts bits
  if 0 ≤ q then (m * Nat.pow 2 q.toNat, 1) else (m, Nat.pow 2 (-q).toNat)

end BinaryFormat

namespace Binary64

/-- Whether the sign bit is set. -/
def negative (x : Binary64) : Bool := 0x8000000000000000 ≤ x.bits

/-- The bits without the sign. -/
def magnitude (x : Binary64) : Nat := x.bits.toNat % Nat.pow 2 63

/-- Not a number: all exponent bits set and a fraction that is not zero. -/
def isNaN (x : Binary64) : Bool := BinaryFormat.double.infinity < x.magnitude

/-- Positive or negative infinity. -/
def isInfinite (x : Binary64) : Bool := x.magnitude = BinaryFormat.double.infinity

/-- Neither infinite nor not-a-number. -/
def isFinite (x : Binary64) : Bool := x.magnitude < BinaryFormat.double.infinity

/-- Positive or negative zero. -/
def isZero (x : Binary64) : Bool := x.magnitude = 0

/-- The double with the given sign and magnitude bits. -/
def signed (negative : Bool) (magnitude : Nat) : Binary64 :=
  ⟨UInt64.ofNat (if negative then Nat.pow 2 63 + magnitude else magnitude)⟩

/-- The quiet not-a-number with no payload. -/
def nan : Binary64 := ⟨0x7ff8000000000000⟩

/-- Infinity of the given sign. -/
def infinity (negative : Bool) : Binary64 := signed negative BinaryFormat.double.infinity

/-- Zero of the given sign. -/
def zero (negative : Bool) : Binary64 := signed negative 0

/-- The double nearest to the ratio {lit}`num / den` with the given sign. -/
def ofRatio (negative : Bool) (num den : Nat) : Binary64 :=
  signed negative (BinaryFormat.double.magnitude num den)

/-- The double nearest to an integer. -/
def ofInt (i : Int) : Binary64 := ofRatio (i < 0) i.natAbs 1

/-- Significand and exponent of a finite double: its size is {lit}`m * 2 ^ q`. -/
def parts (x : Binary64) : Nat × Int := BinaryFormat.double.parts x.magnitude

/-- The size of a finite double as a ratio. -/
def ratio (x : Binary64) : Nat × Nat := BinaryFormat.double.ratio x.magnitude

/-- The double nearest to {lit}`digits * 10 ^ exponent`.  Exponents that can only
give infinity or zero are answered without raising ten to them. -/
def ofDecimal (negative : Bool) (digits : Nat) (exponent : Int) : Binary64 :=
  if digits = 0 then zero negative
  else if 400 < exponent then infinity negative
  else if exponent < -(digits.log2 + 400) then zero negative
  else if 0 ≤ exponent then ofRatio negative (digits * Nat.pow 10 exponent.toNat) 1
  else ofRatio negative digits (Nat.pow 10 (-exponent).toNat)

/-- The rounded product of two finite doubles. -/
def mul (x y : Binary64) : Binary64 :=
  let (a, b) := x.ratio
  let (c, d) := y.ratio
  ofRatio (x.negative != y.negative) (a * c) (b * d)

/-- The rounded quotient of a finite double by a finite double that is not zero. -/
def div (x y : Binary64) : Binary64 :=
  let (a, b) := x.ratio
  let (c, d) := y.ratio
  ofRatio (x.negative != y.negative) (a * d) (b * c)

/-- The double with its sign turned. -/
def neg (x : Binary64) : Binary64 := signed (!x.negative) x.magnitude

/-- The integer part of a double, kept within sixty-four bits: what is too large
gives the end of the range on its side, and not-a-number gives zero. -/
def toInt64 (x : Binary64) : Int64 :=
  if x.isNaN then 0
  else if x.isInfinite then if x.negative then Int64.minValue else Int64.maxValue
  else
    let (num, den) := x.ratio
    let whole : Int := (num / den : Nat)
    Int64.ofInt (max Int64.minValue.toInt
      (min Int64.maxValue.toInt (if x.negative then -whole else whole)))

/-- The single-precision value nearest to a double. -/
def toBinary32 (x : Binary64) : Binary32 :=
  let size : Nat :=
    if x.isNaN then 0x7fc00000
    else if x.isInfinite then BinaryFormat.single.infinity
    else
      let (num, den) := x.ratio
      BinaryFormat.single.magnitude num den
  ⟨UInt32.ofNat (if x.negative then Nat.pow 2 31 + size else size)⟩

end Binary64

namespace Binary32

/-- Whether the sign bit is set. -/
def negative (x : Binary32) : Bool := 0x80000000 ≤ x.bits

/-- The bits without the sign. -/
def magnitude (x : Binary32) : Nat := x.bits.toNat % Nat.pow 2 31

/-- Not a number. -/
def isNaN (x : Binary32) : Bool := BinaryFormat.single.infinity < x.magnitude

/-- The double of the same value. -/
def toBinary64 (x : Binary32) : Binary64 :=
  if x.isNaN then Binary64.nan
  else if x.magnitude = BinaryFormat.single.infinity then Binary64.infinity x.negative
  else
    let (num, den) := BinaryFormat.single.ratio x.magnitude
    Binary64.ofRatio x.negative num den

end Binary32

end EngineLink
