import EngineLink.Number.Leading
import EngineLink.Number.Shortest
import EngineLink.Value.Basic

/-!
# Reading a value as another type

Null reads as zero or as nothing.  Text reads as the number at its front and as
its bytes.  A number has no bytes, and a blob is neither text nor a number.
-/

namespace EngineLink

/-- A reading that a value does not have. -/
inductive CoercionFault where
  | blobToText
  | blobToInteger
  | blobToReal
  | numberToBlob
  deriving DecidableEq

namespace CoercionFault

/-- The text of a fault. -/
def message : CoercionFault → String
  | .blobToText => "unknown error (code 0): Unable to convert BLOB to string"
  | .blobToInteger => "unknown error (code 0): Unable to convert BLOB to long"
  | .blobToReal => "unknown error (code 0): Unable to convert BLOB to double"
  | .numberToBlob => "unknown error (code 0): Unable to convert number to blob"

end CoercionFault

namespace Value

/-- A column double is written with the fewest digits that read back, a tie going
up; without an exponent from {lit}`0.0001` to below {lit}`1e16`. -/
def doubleStyle : DoubleStyle :=
  { tie := .up, lowest := -3, highest := 16, plus := false, infinity := "inf", nan := "NaN" }

/-- The text of an integer. -/
def integerText (v : Int64) : String := toString v.toInt

/-- A value read as an integer. -/
def asInteger : Value → Except CoercionFault Int64
  | .null => .ok 0
  | .integer v => .ok v
  | .real v => .ok v.toInt64
  | .text s => .ok (Leading.integer s)
  | .blob _ => .error .blobToInteger

/-- A value read as a double. -/
def asReal : Value → Except CoercionFault Binary64
  | .null => .ok (Binary64.zero false)
  | .integer v => .ok (Binary64.ofInt v.toInt)
  | .real v => .ok v
  | .text s => .ok (Leading.double s)
  | .blob _ => .error .blobToReal

/-- A value read as text; null is none. -/
def asText : Value → Except CoercionFault (Option String)
  | .null => .ok none
  | .integer v => .ok (some (integerText v))
  | .real v => .ok (some (doubleStyle.write v))
  | .text s => .ok (some s)
  | .blob _ => .error .blobToText

/-- A value read as bytes; null is none. -/
def asBlob : Value → Except CoercionFault (Option Bytes)
  | .null => .ok none
  | .integer _ => .error .numberToBlob
  | .real _ => .error .numberToBlob
  | .text s => .ok (some (Utf8.encode s))
  | .blob bytes => .ok (some bytes)

end Value
end EngineLink
