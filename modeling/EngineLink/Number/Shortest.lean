import EngineLink.Number.Binary64

/-!
# The shortest decimal of a double

A decimal {lit}`digits * 10 ^ exponent` reads back as a given double exactly when
it lies in the interval of reals that round to it.  The decimal grids are tried
from coarse to fine; on each one only the two neighbours of the value matter, and
the first grid with a neighbour inside the interval gives the fewest digits.

A {lit}`DoubleStyle` says how such a decimal is laid out as text.
-/

namespace EngineLink

/-- A positive decimal {lit}`digits * 10 ^ exponent`. -/
structure Decimal where
  digits : Nat
  exponent : Int
  deriving DecidableEq, Inhabited

/-- Which of two equally near decimals is taken. -/
inductive Tie where
  | up
  | even
  deriving DecidableEq

namespace Decimal

/-- Move the trailing zeros of the digits into the exponent, at most
{lit}`limit` of them. -/
def trim : (limit : Nat) → Decimal → Decimal
  | 0, d => d
  | limit + 1, d =>
    if d.digits ≠ 0 ∧ d.digits % 10 = 0 then trim limit ⟨d.digits / 10, d.exponent + 1⟩ else d

end Decimal

namespace Shortest

/-- The reals that round to {lit}`m * 2 ^ q`, in quarters of the last place.  The
lower neighbour of a power of two is half as far away.  The ends belong to the
interval exactly when the significand is even. -/
structure Interval where
  low : Nat
  value : Nat
  high : Nat
  exponent : Int
  closed : Bool

/-- The interval around a finite double that is not zero. -/
def interval (x : Binary64) : Interval :=
  let (m, q) := x.parts
  { low := if m = Nat.pow 2 52 ∧ q ≠ BinaryFormat.double.lowest then 4 * m - 1 else 4 * m - 2
    value := 4 * m
    high := 4 * m + 2
    exponent := q - 2
    closed := m % 2 = 0 }

/-- The neighbour of the value on the grid of multiples of {lit}`10 ^ k` that lies
in the interval, the nearer one if both do. -/
def onGrid (tie : Tie) (i : Interval) (k : Int) : Option Nat :=
  let unit := Nat.pow 10 k.toNat * Nat.pow 2 (-i.exponent).toNat
  let weight := Nat.pow 2 i.exponent.toNat * Nat.pow 10 (-k).toNat
  let low := i.low * weight
  let value := i.value * weight
  let high := i.high * weight
  let inside (c : Nat) : Bool :=
    if i.closed then low ≤ c * unit ∧ c * unit ≤ high else low < c * unit ∧ c * unit < high
  let below := value / unit
  let above := below + 1
  match inside below, inside above with
  | true, true =>
    let toBelow := value - below * unit
    let toAbove := above * unit - value
    if toBelow < toAbove then some below
    else if toAbove < toBelow then some above
    else
      match tie with
      | .up => some above
      | .even => some (if below % 2 = 0 then below else above)
  | true, false => some below
  | false, true => some above
  | false, false => none

/-- Try the grids {lit}`10 ^ k`, {lit}`10 ^ (k - 1)`, and so on, at most
{lit}`count` of them. -/
def search (tie : Tie) (i : Interval) : (count : Nat) → (k : Int) → Decimal
  | 0, k => ⟨i.value, k⟩
  | count + 1, k =>
    match onGrid tie i k with
    | some c => ⟨c, k⟩
    | none => search tie i count (k - 1)

/-- The shortest decimal that reads back as a finite double that is not zero,
without its sign and without trailing zeros.  Twenty-two grids starting two above
the estimated leading digit reach seventeen significant digits. -/
def decimal (tie : Tie) (x : Binary64) : Decimal :=
  let (m, q) := x.parts
  let estimate : Int := ((m.log2 : Int) + q) * 30103 / 100000
  (search tie (interval x) 22 (estimate + 2)).trim 24

end Shortest

/-- How a double is written: the tie of {lit}`Shortest.decimal`, the least and the
greatest place of the decimal point for which the text has no exponent, and the
texts of the values that have no digits.  A place {lit}`p` means that the value is
{lit}`0.d₁d₂… * 10 ^ p`.  An exponent that is not negative can have a plus. -/
structure DoubleStyle where
  tie : Tie
  lowest : Int
  highest : Int
  plus : Bool
  infinity : String
  nan : String

namespace DoubleStyle

/-- The text of a positive decimal.  Positional text keeps one digit after the
point; text with an exponent has one digit before the point and no point after a
single digit. -/
def positive (style : DoubleStyle) (d : Decimal) : List Char :=
  let digits := (toString d.digits).toList
  let place : Int := digits.length + d.exponent
  if style.lowest ≤ place ∧ place ≤ style.highest then
    if place ≤ 0 then '0' :: '.' :: (List.replicate (-place).toNat '0' ++ digits)
    else if digits.length ≤ place.toNat then
      digits ++ List.replicate (place.toNat - digits.length) '0' ++ ['.', '0']
    else digits.take place.toNat ++ '.' :: digits.drop place.toNat
  else
    let mantissa :=
      match digits with
      | first :: second :: rest => first :: '.' :: second :: rest
      | short => short
    let mark := if style.plus ∧ 0 < place then ['+'] else []
    mantissa ++ 'e' :: (mark ++ (toString (place - 1)).toList)

/-- The text of a double. -/
def write (style : DoubleStyle) (x : Binary64) : String :=
  if x.isNaN then style.nan
  else
    let body :=
      if x.isInfinite then style.infinity.toList
      else if x.isZero then ['0', '.', '0']
      else style.positive (Shortest.decimal style.tie x)
    String.ofList (if x.negative then '-' :: body else body)

end DoubleStyle

end EngineLink
