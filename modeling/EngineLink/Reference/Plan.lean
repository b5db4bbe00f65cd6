import EngineLink.Reference.Grammar
import EngineLink.Reference.Table

/-!
# Plans

A plan is a statement whose names have been found among the tables of a database.  A
statement is prepared by reading it and making its plan; after that only its values can
be at fault.  A refusal tells whether a name was missing, because a name that is missing
among the tables known so far may have come in the meantime.
-/

namespace EngineLink
namespace Reference

/-- A condition on the column at a place. -/
abbrev PlannedCondition := Nat × Comparison × Term

/-- What a planned selection shows. -/
inductive Shown where
  | term (term : Term)
  | zeroBlob (size : Term)
  | column (index : Nat)
  | count

/-- A statement whose names have been found. -/
inductive Plan where
  | empty
  | select (shown : List Shown)
  | selectFrom (shown : List Shown) (table : Table) (condition : Option PlannedCondition)
      (sorting : Option (Nat × Bool))
  | values (rows : List (List Term))
  | countUp (start : Int) (limit : Option Term) (outputs : List CountOutput)
  | createTable (table : Table)
  | insert (conflict : Conflict) (table : Table) (columns : List Nat) (rows : List (List Term))
  | update (conflict : Conflict) (table : Table) (changes : List (Nat × Term))
      (condition : Option PlannedCondition)
  | delete (table : Table) (condition : Option PlannedCondition)
  | integrityCheck
  | busyTimeout (milliseconds : Int)

/-- A plan with the names of its columns and the number of its arguments. -/
structure Prepared where
  plan : Plan
  columns : List String
  arguments : Nat

/-- Why a statement has no plan: a table or column is missing, or the statement does not
fit what is there. -/
inductive Refusal where
  | missing (fault : Fault)
  | unfit (fault : Fault)

/-- The fault behind a refusal. -/
def Refusal.fault : Refusal → Fault
  | .missing fault => fault
  | .unfit fault => fault

namespace Plan

/-- The place of a column that a statement reads. -/
def readColumn (sql : String) (table : Table) (name : Name) : Except Refusal Nat :=
  match table.columnIndex? name with
  | some index => .ok index
  | none => .error (.missing (.input ("no such column: " ++ name.text) sql name.offset))

/-- The table that a statement is about. -/
def findTable (catalog : Catalog) (name : Name) : Except Refusal Table :=
  match catalog.find? name with
  | some table => .ok table
  | none => .error (.missing (Fault.noTable name.text))

/-- A planned condition. -/
def condition (sql : String) (table : Table) :
    Option Condition → Except Refusal (Option PlannedCondition)
  | none => .ok none
  | some c => do return some (← readColumn sql table c.column, c.comparison, c.term)

/-- A planned order. -/
def sorting (sql : String) (table : Table) : Option Sorting → Except Refusal (Option (Nat × Bool))
  | none => .ok none
  | some s => do return some (← readColumn sql table s.column, s.descending)

/-- What an output of a selection without a table shows, with its name. -/
def output (sql : String) (column : OutputColumn) : Except Refusal (Shown × String) :=
  let name := column.label.getD column.span
  match column.output with
  | .term term => .ok (.term term, name)
  | .zeroBlob size => .ok (.zeroBlob size, name)
  | .count => .ok (.count, name)
  | .column c => .error (.missing (.input ("no such column: " ++ c.text) sql c.offset))
  | .all => .error (.unfit (Fault.plain "no tables specified"))

/-- What an output of a selection from a table shows, with its names.  A column has the
name it was defined with. -/
def tableOutput (sql : String) (table : Table) (column : OutputColumn) :
    Except Refusal (List (Shown × String)) :=
  let name := column.label.getD column.span
  match column.output with
  | .term term => .ok [(.term term, name)]
  | .zeroBlob size => .ok [(.zeroBlob size, name)]
  | .count => .ok [(.count, name)]
  | .all => .ok (table.columns.zipIdx.map fun (c, index) => (.column index, c.name))
  | .column c => do
    let index ← readColumn sql table c
    let defined := ((table.columns[index]?).map ColumnDefinition.name).getD c.text
    return [(.column index, column.label.getD defined)]

/-- The columns that an insertion fills. -/
def insertColumn (table : Table) (name : Name) : Except Refusal Nat :=
  match table.columnIndex? name with
  | some index => .ok index
  | none =>
    .error (.missing
      (Fault.plain ("table " ++ table.name ++ " has no column named " ++ name.text)))

/-- The column that a change is about. -/
def changedColumn (table : Table) (change : Name × Term) : Except Refusal (Nat × Term) :=
  match table.columnIndex? change.1 with
  | some index => .ok (index, change.2)
  | none => .error (.missing (Fault.plain ("no such column: " ++ change.1.text)))

/-- A name that comes twice. -/
def repeated? : List String → Option String
  | [] => none
  | name :: rest =>
    if (rest.map Name.key).contains (Name.key name) then some name else repeated? rest

/-- The plan of a statement with the names of its columns. -/
def ofStatement (sql : String) (catalog : Catalog) :
    Statement → Except Refusal (Plan × List String)
  | .empty => .ok (.empty, [])
  | .select outputs none _ _ => do
    let shown ← outputs.mapM (output sql)
    return (.select (shown.map (·.1)), shown.map (·.2))
  | .select outputs (some name) c s => do
    let table ← findTable catalog name
    let shown := (← outputs.mapM (tableOutput sql table)).flatten
    let condition ← condition sql table c
    return (.selectFrom (shown.map (·.1)) table condition (← sorting sql table s), shown.map (·.2))
  | .values rows =>
    let width := (rows.head?.map List.length).getD 0
    if rows.all (·.length = width) then
      .ok (.values rows, (List.range width).map fun i => "column" ++ toString (i + 1))
    else .error (.unfit (Fault.plain "all VALUES must have the same number of terms"))
  | .countUp start limit outputs =>
    .ok (.countUp start limit (outputs.map (·.1)), outputs.map (·.2))
  | .createTable name columns =>
    match catalog.find? name, repeated? (columns.map (·.name)) with
    | some _, _ =>
      .error (.unfit (.input ("table " ++ name.text ++ " already exists") sql name.offset))
    | none, some column => .error (.unfit (Fault.plain ("duplicate column name: " ++ column)))
    | none, none => .ok (.createTable ⟨name.text, columns, []⟩, [])
  | .insert conflict name columns rows => do
    let table ← findTable catalog name
    let indexes ← columns.mapM (insertColumn table)
    match rows.find? (·.length ≠ columns.length) with
    | some row =>
      throw (.unfit (Fault.plain (toString row.length ++ " values for " ++
        toString columns.length ++ " columns")))
    | none => return (.insert conflict table indexes rows, [])
  | .update conflict name changes c => do
    let table ← findTable catalog name
    let changes ← changes.mapM (changedColumn table)
    return (.update conflict table changes (← condition sql table c), [])
  | .delete name c => do
    let table ← findTable catalog name
    return (.delete table (← condition sql table c), [])
  | .integrityCheck => .ok (.integrityCheck, ["integrity_check"])
  | .busyTimeout milliseconds => .ok (.busyTimeout milliseconds, ["timeout"])

/-- Whether a plan may change a table. -/
def writes : Plan → Bool
  | .createTable _ => true
  | .insert _ _ _ _ => true
  | .update _ _ _ _ => true
  | .delete _ _ => true
  | _ => false

/-- Whether a plan looks at the tables of the database. -/
def readsTables : Plan → Bool
  | .selectFrom _ _ _ _ => true
  | .integrityCheck => true
  | plan => plan.writes

end Plan

/-- Make the plan of a statement with a number of arguments. -/
def prepare (catalog : Catalog) (sql : String) (statement : Statement) (arguments : Nat) :
    Except Refusal Prepared := do
  let (plan, columns) ← Plan.ofStatement sql catalog statement
  return ⟨plan, columns, arguments⟩

end Reference
end EngineLink
