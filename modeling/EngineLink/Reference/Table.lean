import EngineLink.Number.Leading
import EngineLink.Number.Stepwise
import EngineLink.Reference.Fault
import EngineLink.Reference.Sql
import EngineLink.Value.Order

/-!
# Tables

A table has columns and numbered rows.  The number of a row can itself be a column.
Unique columns and row numbers refuse a second row with the same value; what happens
then is up to the statement.

- {lit}`Table.put` puts a row into a table under the rule for conflicts.
- {lit}`Table.matching` are the rows under a condition.
- {lit}`Table.visited` are those rows in the order in which a selection comes to them.
-/

namespace EngineLink
namespace Reference

/-- A row with its number. -/
structure NumberedRow where
  id : Int64
  values : Row
  deriving DecidableEq

/-- A table with its rows in the order of their numbers. -/
structure Table where
  name : String
  columns : List ColumnDefinition
  rows : List NumberedRow
  deriving DecidableEq

/-- The tables of a database. -/
abbrev Catalog := List Table

/-- The table with a name. -/
def Catalog.find? (catalog : Catalog) (name : Name) : Option Table :=
  List.find? (fun table => name.matches? table.name) catalog

/-- Put a changed table in the place of the one with its name. -/
def Catalog.replace (catalog : Catalog) (table : Table) : Catalog :=
  catalog.map fun t => if t.name = table.name then table else t

/-- A number that a text consists of, blanks around it apart. -/
def numberOf? (text : String) : Option Value :=
  let body := ((text.toList.dropWhile Leading.isBlank).reverse.dropWhile Leading.isBlank).reverse
  match Leading.decimalText body with
  | none => none
  | some decimal =>
    if decimal ≠ body then none
    else
      let (mark, digits) := Leading.sign decimal
      let i := Leading.applySign mark (Leading.ofDigits 10 digits)
      if digits.all Char.isDigit ∧ Int64.minValue.toInt ≤ i ∧ i ≤ Int64.maxValue.toInt then
        some (.integer (Int64.ofInt i))
      else
        (Leading.decimalParts decimal).map fun (negative, digits, exponent) =>
          .real (Stepwise.double negative digits exponent)

/-- A value as an integer column takes it: a text that is a number becomes one. -/
def integerAffinity : Value → Value
  | .text s => (numberOf? s).getD (.text s)
  | v => v

/-- The row number that a value gives, if it gives one.  A double gives the integer that
it equals, but neither the least nor the greatest one. -/
def rowIdOf? (v : Value) : Option Int64 :=
  match integerAffinity v with
  | .integer i => some i
  | .real x =>
    let i := x.toInt64
    if Value.order (.integer i) (.real x) = .eq ∧ i ≠ Int64.minValue ∧ i ≠ Int64.maxValue then
      some i
    else
      none
  | _ => none

namespace Table

/-- The place of a column. -/
def columnIndex? (table : Table) (name : Name) : Option Nat :=
  table.columns.findIdx? fun column => name.matches? column.name

/-- Whether the column at a place is the row number. -/
def isRowId (table : Table) (index : Nat) : Bool :=
  ((table.columns[index]?).map ColumnDefinition.isRowId).getD false

/-- Whether the column at a place is unique. -/
def isUnique (table : Table) (index : Nat) : Bool :=
  ((table.columns[index]?).map ColumnDefinition.isUnique).getD false

/-- The number of the next row. -/
def nextId (table : Table) : Int64 :=
  match table.rows.getLast? with
  | some row => row.id + 1
  | none => 1

/-- The table with a row in the place of its number. -/
def insertRow (table : Table) (row : NumberedRow) : Table :=
  { table with
    rows := table.rows.filter (·.id.toInt < row.id.toInt) ++
      row :: table.rows.filter (row.id.toInt < ·.id.toInt) }

/-- The table without some rows. -/
def eraseRows (table : Table) (ids : List Int64) : Table :=
  { table with rows := table.rows.filter fun row => !ids.contains row.id }

/-! ## Conflicts -/

/-- The fault of a second row with the same value in a column. -/
def uniqueFault (table : Table) (column : ColumnDefinition) : Fault :=
  .failure .constraint (if column.isRowId then 1555 else 2067)
    ("UNIQUE constraint failed: " ++ table.name ++ "." ++ column.name)

/-- The rows that have the row's value in the column at a place. -/
def sharing (table : Table) (row : NumberedRow) (index : Nat) : List Int64 :=
  let value := row.values.getD index .null
  (table.rows.filter fun other => Value.same value (other.values.getD index .null)).map (·.id)

/-- The columns in which a row conflicts with others, with the numbers of those rows. -/
def conflicts (table : Table) (row : NumberedRow) : List (ColumnDefinition × List Int64) :=
  table.columns.zipIdx.filterMap fun (column, index) =>
    if column.isUnique || column.isRowId then
      match table.sharing row index with
      | [] => none
      | ids => some (column, ids)
    else none

/-- What came of putting a row into a table. -/
inductive PutOutcome where
  | done (table : Table)
  | skipped
  | refused (fault : Fault)

/-- Put a row into a table.  A conflict refuses the row, skips it, or removes the rows
in its way. -/
def put (table : Table) (conflict : Conflict) (row : NumberedRow) : PutOutcome :=
  match table.conflicts row with
  | [] => .done (table.insertRow row)
  | (column, ids) :: more =>
    match conflict with
    | .ignore => .skipped
    | .replace => .done ((table.eraseRows (ids ++ more.flatMap (·.2))).insertRow row)
    | _ => .refused (table.uniqueFault column)

/-! ## Conditions -/

/-- Whether a row is under a condition on the column at a place.  Null is under none, and
a row number equals only what gives a row number. -/
def satisfies (table : Table) (index : Nat) (comparison : Comparison) (value : Value)
    (row : NumberedRow) : Bool :=
  if table.isRowId index ∧ comparison = .equal then rowIdOf? value = some row.id
  else
    let value := if table.isRowId index then integerAffinity value else value
    let own := row.values.getD index .null
    !own.isNull && !value.isNull && comparison.holds (Value.order own value)

/-- The rows under a condition in the order of their numbers. -/
def matching (table : Table) (args : List Value) (condition : Option (Nat × Comparison × Term)) :
    List NumberedRow :=
  match condition with
  | none => table.rows
  | some (index, comparison, term) =>
    table.rows.filter (table.satisfies index comparison (term.eval args))

/-! ## Orders -/

/-- Rows in the order of a column. -/
def sortRows (index : Nat) (rows : List NumberedRow) : List NumberedRow :=
  rows.mergeSort fun a b =>
    Value.order (a.values.getD index .null) (b.values.getD index .null) != .gt

/-- Rows in the falling order of a column; rows with the same value stay in order. -/
def sortRowsDown (index : Nat) (rows : List NumberedRow) : List NumberedRow :=
  rows.mergeSort fun a b =>
    Value.order (a.values.getD index .null) (b.values.getD index .null) != .lt

/-- Whether the rows hold more than one value and the row number, so that going through
the values of one column alone is less work. -/
def isWide (table : Table) : Bool :=
  let numbers := if table.columns.any ColumnDefinition.isRowId then 0 else 1
  2 < table.columns.length + numbers

/-- The unique column along whose values a selection goes, if it does not go along the row
numbers: one with a condition on it, or one that without any condition tells all the
columns that are read. -/
def guide? (table : Table) (read : List Nat) (condition : Option (Nat × Comparison × Term)) :
    Option Nat :=
  match condition with
  | some (index, _, _) => if table.isUnique index then some index else none
  | none =>
    (List.range table.columns.length).find? fun index =>
      table.isUnique index && table.isWide && read.all fun i => i = index || table.isRowId i

/-- The rows under a condition in the order in which a selection that reads some columns
comes to them. -/
def visited (table : Table) (args : List Value) (read : List Nat)
    (condition : Option (Nat × Comparison × Term)) : List NumberedRow :=
  match table.guide? read condition with
  | some index => sortRows index (table.matching args condition)
  | none => table.matching args condition

/-- Rows in the order asked for.  Falling order of a unique column is its rising order
backwards. -/
def arrange (table : Table) (sorting : Option (Nat × Bool)) (rows : List NumberedRow) :
    List NumberedRow :=
  match sorting with
  | none => rows
  | some (index, descending) =>
    if !descending then sortRows index rows
    else if table.isUnique index || table.isRowId index then (sortRows index rows).reverse
    else sortRowsDown index rows

end Table
end Reference
end EngineLink
