import EngineLink.Text.Entries
import EngineLink.Value.Basic

/-!
# JSON values

Rows of a query can travel as one JSON text: an array with an array for each row.
Integers and doubles are kept apart, as in the text.
-/

namespace EngineLink

/-- A JSON value. -/
inductive Json where
  | null
  | bool (b : Bool)
  | integer (i : Int)
  | real (x : Binary64)
  | text (s : String)
  | array (items : List Json)
  | object (entries : List (String × Json))
  deriving Inhabited

namespace Json

/-- The array of a list of rows. -/
def ofRows (rows : List (List Json)) : Json := .array (rows.map .array)

/-- The items of an array. -/
def items? : Json → Option (List Json)
  | .array items => some items
  | _ => none

/-- The rows of an array of arrays. -/
def rows? (json : Json) : Option (List (List Json)) :=
  json.items?.bind fun items => items.mapM items?

/-- The text of a JSON text value. -/
def text? : Json → Option String
  | .text s => some s
  | _ => none

/-- An object of entries in the order they were read; of repeated names the last
one counts. -/
def ofEntries (entries : List (String × Json)) : Json :=
  .object (entries.foldl (fun sorted e => Entries.insert e.1 e.2 sorted) [])

end Json

/-- The JSON value of a column value.  A blob is the list of its bytes, and a double
that is not finite is null. -/
def Value.toJson : Value → Json
  | .null => .null
  | .integer v => .integer v.toInt
  | .real v => if v.isFinite then .real v else .null
  | .text s => .text s
  | .blob bytes => .array (bytes.map fun b => .integer b.toNat)

end EngineLink
