import EngineLink.Value.Basic

/-!
# Order of values

Null comes first, then numbers by size, then texts by their characters, then blobs by
their bytes.  An integer and a double are compared exactly.
-/

namespace EngineLink

namespace Binary64

/-- A number that grows with a double that is not not-a-number; both zeros have the
same. -/
def orderKey (x : Binary64) : Int := if x.negative then -(x.magnitude : Int) else x.magnitude

/-- Compare an integer with a double. -/
def compareInt (i : Int) (x : Binary64) : Ordering :=
  if x.isFinite then
    let (num, den) := x.ratio
    compare (i * den) (if x.negative then -(num : Int) else num)
  else if x.negative then .gt
  else .lt

end Binary64

namespace Value

/-- The place of a value's storage class in the order. -/
def rank : Value → Nat
  | .null => 0
  | .integer _ => 1
  | .real _ => 1
  | .text _ => 2
  | .blob _ => 3

/-- Compare two blobs byte by byte. -/
def compareBytes : Bytes → Bytes → Ordering
  | [], [] => .eq
  | [], _ :: _ => .lt
  | _ :: _, [] => .gt
  | a :: as, b :: bs => (compare a.toNat b.toNat).then (compareBytes as bs)

/-- Compare two values. -/
def order : Value → Value → Ordering
  | .integer a, .integer b => compare a.toInt b.toInt
  | .integer a, .real b => Binary64.compareInt a.toInt b
  | .real a, .integer b => (Binary64.compareInt b.toInt a).swap
  | .real a, .real b => compare a.orderKey b.orderKey
  | .text a, .text b => compare a b
  | .blob a, .blob b => compareBytes a b
  | a, b => compare a.rank b.rank

/-- Whether two values stand for the same thing; null does not even stand for itself. -/
def same (a b : Value) : Bool := !a.isNull && a.order b == .eq

end Value
end EngineLink
