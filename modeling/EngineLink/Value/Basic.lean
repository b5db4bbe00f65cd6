import EngineLink.Number.Binary64
import EngineLink.Text.Utf8

/-!
# SQL values

The five storage classes of a column value.  The size of a value is what it counts
for when a result is cut into pages.
-/

namespace EngineLink

/-- One column value. -/
inductive Value where
  | null
  | integer (v : Int64)
  | real (v : Binary64)
  | text (s : String)
  | blob (bytes : Bytes)
  deriving DecidableEq, Inhabited

/-- The values of one result row. -/
abbrev Row := List Value

namespace Value

/-- Whether a value is the null value. -/
def isNull : Value → Bool
  | .null => true
  | _ => false

/-- The name of a value's storage class in SQL. -/
def typeName : Value → String
  | .null => "null"
  | .integer _ => "integer"
  | .real _ => "real"
  | .text _ => "text"
  | .blob _ => "blob"

/-- The name of a value's column type. -/
def columnType : Value → String
  | .null => "Null"
  | .integer _ => "Integer"
  | .real _ => "Float"
  | .text _ => "String"
  | .blob _ => "Blob"

/-- The bytes a value counts for against a page budget. -/
def size : Value → Nat
  | .null => 1
  | .integer _ => 8
  | .real _ => 8
  | .text s => s.utf8ByteSize
  | .blob bytes => bytes.length

/-- A boolean is kept as the integer one or zero. -/
def ofBool (b : Bool) : Value := .integer (if b then 1 else 0)

/-- An absent value is null. -/
def ofOption {α : Type} (make : α → Value) : Option α → Value
  | some a => make a
  | none => .null

end Value

/-- The bytes a row counts for against a page budget. -/
def Row.size (row : Row) : Nat := row.foldr (fun value size => value.size + size) 0

end EngineLink
