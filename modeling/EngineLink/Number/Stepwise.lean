import EngineLink.Number.Binary64

/-!
# Decimals read in steps

A decimal is read from its leading digits, as many as an unsigned integer of sixty-four
bits takes, and brought to its power of ten in steps of a hundred, ten and one.  Every
step rounds to sixty-four significant bits, so the outcome can differ from the nearest
double.

- {lit}`Stepwise.double` is the double read from a decimal.
-/

namespace EngineLink

/-- Extended precision: sixty-four significant bits. -/
def BinaryFormat.extended : BinaryFormat := ⟨63, -16445, 0x7fff * Nat.pow 2 63⟩

namespace Stepwise

/-- A number with this many units takes no further digit. -/
def fullFrom : Nat := (UInt64.size - 10) / 10

/-- The leading digits of a number, and the exponent raised by the number of digits left
out.  The fuel bounds the number of digits. -/
def leading : (fuel : Nat) → (digits : Nat) → (exponent : Int) → Nat × Int
  | 0, digits, exponent => (digits, exponent)
  | fuel + 1, digits, exponent =>
    if fullFrom ≤ digits / 10 then leading fuel (digits / 10) (exponent + 1)
    else (digits, exponent)

/-- Bring the exponent nearer to zero as long as the digits stay exact.  The fuel bounds
the number of digits moved. -/
def settle : (fuel : Nat) → (digits : Nat) → (exponent : Int) → Nat × Int
  | 0, digits, exponent => (digits, exponent)
  | fuel + 1, digits, exponent =>
    if 0 < exponent ∧ digits < (UInt64.size - 1) / 10 then settle fuel (digits * 10) (exponent - 1)
    else if exponent < 0 ∧ digits % 10 = 0 then settle fuel (digits / 10) (exponent + 1)
    else (digits, exponent)

/-- A power of ten, or its inverse, in extended precision as a ratio. -/
def factor (up : Bool) (power : Nat) : Nat × Nat :=
  BinaryFormat.extended.ratio
    (if up then BinaryFormat.extended.magnitude (Nat.pow 10 power) 1
    else BinaryFormat.extended.magnitude 1 (Nat.pow 10 power))

/-- Multiply by a ratio a number of times, rounding every time. -/
def times (ratio : Nat × Nat) : (count : Nat) → (bits : Nat) → Nat
  | 0, bits => bits
  | count + 1, bits =>
    let (num, den) := BinaryFormat.extended.ratio bits
    times ratio count (BinaryFormat.extended.magnitude (num * ratio.1) (den * ratio.2))

/-- The greatest finite double. -/
def greatest : Nat := (Nat.pow 2 53 - 1) * Nat.pow 2 971

/-- No decimal with an exponent beyond this one is finite and not zero. -/
def farthest : Nat := 20000

/-- The double read from {lit}`digits * 10 ^ exponent`. -/
def double (negative : Bool) (digits : Nat) (exponent : Int) : Binary64 :=
  if digits = 0 then Binary64.zero negative
  else
    let (front, raised) := leading (digits.log2 + 1) digits exponent
    let (start, rest) := settle 20 front raised
    if rest = 0 then Binary64.ofRatio negative start 1
    else
      let up : Bool := 0 < rest
      let count := min rest.natAbs farthest
      let hundreds := times (factor up 100) (count / 100) (BinaryFormat.extended.magnitude start 1)
      let tens := times (factor up 10) (count / 10 % 10) hundreds
      let (num, den) := BinaryFormat.extended.ratio (times (factor up 1) (count % 10) tens)
      if greatest * den < num then Binary64.infinity negative
      else Binary64.ofRatio negative num den

end Stepwise
end EngineLink
