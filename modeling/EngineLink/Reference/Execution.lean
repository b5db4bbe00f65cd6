import EngineLink.Reference.Plan

/-!
# Running plans

A plan is run on the tables of a database with its arguments.  The outcome tells the
rows, the tables after it, the number of changed rows and the number of the row inserted
last.  A plan that fails halfway says what is to be done with its changes.

- {lit}`Plan.run` runs a plan.
-/

namespace EngineLink
namespace Reference

/-- What is to be done with the changes of a failed statement: they stay, they are taken
back, or the whole transaction is rolled back. -/
inductive Recovery where
  | keep
  | revert
  | rollback
  deriving DecidableEq

/-- What is to be done after a conflict that refuses a row. -/
def Recovery.ofConflict : Conflict → Recovery
  | .fail => .keep
  | .rollback => .rollback
  | _ => .revert

/-- The outcome of a plan. -/
structure Execution where
  rows : List Row
  catalog : Catalog
  changed : Nat
  lastId : Option Int64
  failure : Option (Fault × Recovery)

namespace Execution

/-- The outcome of a plan that only shows rows. -/
def showing (catalog : Catalog) (rows : List Row) : Execution := ⟨rows, catalog, 0, none, none⟩

/-- The outcome of a plan that cannot be run. -/
def failed (catalog : Catalog) (fault : Fault) : Execution :=
  ⟨[], catalog, 0, none, some (fault, .revert)⟩

end Execution

/-- Whether an output is about all rows together. -/
def Shown.isTotal : Shown → Bool
  | .count => true
  | _ => false

/-- The place of the column that an output shows. -/
def Shown.column? : Shown → Option Nat
  | .column index => some index
  | _ => none

namespace Plan

/-- An argument as the database keeps it: not-a-number is null. -/
def bound : Value → Value
  | .real x => if x.isNaN then .null else .real x
  | v => v

/-- A blob of zeros. -/
def zeros : Value → Value
  | .integer n => .blob (List.replicate n.toInt.toNat 0)
  | _ => .blob []

/-! ## Selections -/

/-- What a selection shows of a row, out of a number of rows. -/
def shownValue (args : List Value) (rowCount : Nat) (row : Row) : Shown → Value
  | .term term => term.eval args
  | .zeroBlob size => zeros (size.eval args)
  | .column index => row.getD index .null
  | .count => .integer (Int64.ofNat rowCount)

/-- The rows of a selection: one for each row found, or one for all together. -/
def selected (args : List Value) (shown : List Shown) (found : List Row) : List Row :=
  if shown.any Shown.isTotal then
    [shown.map (shownValue args found.length (found.head?.getD []))]
  else found.map fun row => shown.map (shownValue args found.length row)

/-- The integers from a number on that a recursive count comes to, or none if it never
ends. -/
def countedUpTo (start : Int) : Option Value → Option (List Int)
  | none => none
  | some (.text _) => none
  | some (.blob _) => none
  | some .null => some [start]
  | some (.integer n) => some (upTo n.toInt)
  | some (.real x) =>
    if x.isFinite then
      let (num, den) := x.ratio
      some (upTo (if x.negative then -((num / den : Nat) : Int) else ((num + den - 1) / den : Nat)))
    else if x.negative then some [start]
    else none
where
  /-- The integers up to a limit, the first one in any case. -/
  upTo (limit : Int) : List Int :=
    (List.range ((limit - start).toNat + 1)).map fun (i : Nat) => start + (i : Int)

/-- The rows of a recursive count. -/
def countRows (outputs : List CountOutput) (numbers : List Int) : List Row :=
  let cell (x : Int) : CountOutput → Value
    | .number => .integer (Int64.ofInt x)
    | .multiple factor => .integer (Int64.ofInt (x * factor))
    | .count => .integer (Int64.ofNat numbers.length)
  if outputs.contains .count then [outputs.map (cell (numbers.head?.getD 0))]
  else numbers.map fun x => outputs.map (cell x)

/-! ## Changes -/

/-- A table in the middle of a change. -/
structure Progress where
  table : Table
  changed : Nat
  lastId : Option Int64

/-- The fault of a value that is no row number. -/
def mismatch : Fault := .failure .typeMismatch 20 "datatype mismatch"

/-- The row number among the values of a row, if one is given. -/
def givenId (table : Table) (values : Row) : Except Fault (Option Int64) :=
  match table.columns.findIdx? ColumnDefinition.isRowId with
  | none => .ok none
  | some index =>
    match values.getD index .null with
    | .null => .ok none
    | v =>
      match rowIdOf? v with
      | some id => .ok (some id)
      | none => .error mismatch

/-- A row with its number in the column for it. -/
def numbered (table : Table) (values : Row) (id : Int64) : NumberedRow :=
  match table.columns.findIdx? ColumnDefinition.isRowId with
  | some index => ⟨id, values.set index (.integer id)⟩
  | none => ⟨id, values⟩

/-- Insert rows one after the other until one is refused. -/
def insertRows (conflict : Conflict) :
    Progress → List Row → Progress × Option (Fault × Recovery)
  | p, [] => (p, none)
  | p, first :: rest =>
    match givenId p.table first with
    | .error fault => (p, some (fault, .revert))
    | .ok given =>
      let row := numbered p.table first (given.getD p.table.nextId)
      match p.table.put conflict row with
      | .done table => insertRows conflict ⟨table, p.changed + 1, some row.id⟩ rest
      | .skipped => insertRows conflict p rest
      | .refused fault => (p, some (fault, Recovery.ofConflict conflict))

/-- The values of a row after some changes. -/
def changedValues (args : List Value) (changes : List (Nat × Term)) (values : Row) : Row :=
  changes.foldl (fun values (index, term) => values.set index (term.eval args)) values

/-- Change rows, given by their numbers, one after the other until one is refused.  A
row that is gone is passed over. -/
def updateRows (conflict : Conflict) (args : List Value) (changes : List (Nat × Term)) :
    Progress → List Int64 → Progress × Option (Fault × Recovery)
  | p, [] => (p, none)
  | p, id :: rest =>
    match p.table.rows.find? (·.id = id) with
    | none => updateRows conflict args changes p rest
    | some old =>
      let values := changedValues args changes old.values
      match givenId p.table values with
      | .error fault => (p, some (fault, .revert))
      | .ok given =>
        if given.isNone && p.table.columns.any ColumnDefinition.isRowId then
          (p, some (mismatch, .revert))
        else
          let row := numbered p.table values (given.getD id)
          match (p.table.eraseRows [id]).put conflict row with
          | .done table =>
            updateRows conflict args changes { p with table, changed := p.changed + 1 } rest
          | .skipped => updateRows conflict args changes p rest
          | .refused fault => (p, some (fault, Recovery.ofConflict conflict))

/-- The values of a row that an insertion fills in some columns.  Of several terms for one
column the first counts, but for the row number the last. -/
def filled (args : List Value) (table : Table) (columns : List Nat) (terms : List Term) : Row :=
  (List.range table.columns.length).map fun index =>
    let given := (columns.zip terms).filterMap fun (i, term) =>
      if i = index then some term else none
    let term := if table.isRowId index then given.getLast? else given.head?
    (term.map (·.eval args)).getD .null

/-- The outcome of a change of a table. -/
def changing (catalog : Catalog) (outcome : Progress × Option (Fault × Recovery)) : Execution :=
  ⟨[], catalog.replace outcome.1.table, outcome.1.changed, outcome.1.lastId, outcome.2⟩

/-- Run a plan on the tables it was made for. -/
def run (catalog : Catalog) (args : List Value) : Plan → Execution
  | .empty => .failed catalog (.failure .misuse 21 "not an error")
  | .select shown => .showing catalog (selected args shown [[]])
  | .selectFrom shown table condition sorting =>
    let read := shown.filterMap Shown.column? ++ (sorting.map (·.1)).toList
    let found := table.arrange sorting (table.visited args read condition)
    .showing catalog (selected args shown (found.map (·.values)))
  | .values rows => .showing catalog (rows.map fun row => row.map (·.eval args))
  | .countUp start limit outputs =>
    match countedUpTo start (limit.map (·.eval args)) with
    | some numbers => .showing catalog (countRows outputs numbers)
    | none => .failed catalog Fault.interrupted
  | .createTable table => ⟨[], catalog ++ [table], 0, none, none⟩
  | .insert conflict table columns rows =>
    changing catalog
      (insertRows conflict ⟨table, 0, none⟩ (rows.map (filled args table columns)))
  | .update conflict table changes condition =>
    changing catalog
      (updateRows conflict args changes ⟨table, 0, none⟩
        ((table.matching args condition).map (·.id)))
  | .delete table condition =>
    let ids := (table.matching args condition).map (·.id)
    ⟨[], catalog.replace (table.eraseRows ids), ids.length, none, none⟩
  | .integrityCheck => .showing catalog [[.text "ok"]]
  | .busyTimeout milliseconds => .showing catalog [[.integer (Int64.ofInt (max 0 milliseconds))]]

/-- Whether a plan counts changed rows. -/
def countsChanges : Plan → Bool
  | .insert _ _ _ _ => true
  | .update _ _ _ _ => true
  | .delete _ _ => true
  | _ => false

end Plan
end Reference
end EngineLink
