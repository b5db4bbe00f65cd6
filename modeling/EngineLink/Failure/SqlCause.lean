import EngineLink.Number.Leading
import EngineLink.Text.Digit
import EngineLink.Text.Search

/-!
# Causes of failed statements

Why a statement failed is only told in the message of the failure.  A wrong number
of arguments is told with both numbers; the leftmost place where the message tells
them counts.
-/

namespace EngineLink

/-- Why a statement failed. -/
inductive SqlCause where
  | argumentCount (given expected : UInt64)
  | constraint
  | diskFull
  | corrupt
  | other
  deriving DecidableEq

namespace SqlCause

/-- What stands in front of the two numbers. -/
def countMark : List Char := "InvalidParameterCount(".toList

/-- The text after a given beginning. -/
def after? : (start cs : List Char) → Option (List Char)
  | [], cs => some cs
  | s :: start, c :: cs => if s = c then after? start cs else none
  | _ :: _, [] => none

/-- The two runs of digits of a count that begins here. -/
def countsHere (cs : List Char) : Option (List Char × List Char) := do
  let inside ← after? countMark cs
  let second ← after? [',', ' '] (inside.dropWhile Text.isDecimalDigit)
  let _ ← after? [')'] (second.dropWhile Text.isDecimalDigit)
  return (inside.takeWhile Text.isDecimalDigit, second.takeWhile Text.isDecimalDigit)

/-- The two runs of digits of the leftmost count. -/
def counts : List Char → Option (List Char × List Char)
  | [] => none
  | c :: cs =>
    match countsHere (c :: cs) with
    | some found => some found
    | none => counts cs

/-- The number of a run of digits.  An empty run, one with a digit that is not ASCII
and a number above sixty-four bits count as zero. -/
def countValue (digits : List Char) : UInt64 :=
  if digits.all Char.isDigit then
    let n := Leading.ofDigits 10 digits
    if n < UInt64.size then UInt64.ofNat n else 0
  else 0

/-- The cause told by a message. -/
def ofMessage (message : String) : SqlCause :=
  match counts message.toList with
  | some (given, expected) => .argumentCount (countValue given) (countValue expected)
  | none =>
    if Text.contains message "ConstraintViolation" then .constraint
    else if Text.contains message "DiskFull" then .diskFull
    else if Text.contains message "DatabaseCorrupt" then .corrupt
    else .other

/-- The name of a cause. -/
def name : SqlCause → String
  | .argumentCount _ _ => "BindIndexOutOfRange"
  | .constraint => "Constraint"
  | .diskFull => "DiskFull"
  | .corrupt => "Corrupt"
  | .other => "Other"

/-- The text of a cause. -/
def text : SqlCause → String
  | .argumentCount given expected =>
    "Cannot bind argument at index " ++ toString given.toNat ++
      " because the index is out of range.  The statement has " ++ toString expected.toNat ++
      " parameters."
  | .constraint => "constraint failed"
  | .diskFull => "database or disk is full"
  | .corrupt => "database disk image is malformed"
  | .other => "SQL error"

end SqlCause
end EngineLink
