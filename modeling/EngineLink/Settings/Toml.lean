import EngineLink.Number.Binary64

/-!
# Settings documents

A settings file is a tree of named values.  Values are written under keys, tables are
opened by headers, and a key with dots opens tables on its way.  A table opened by a
header can be opened by no second one, a table opened by dots can be filled by dots
only, and no key is given twice.

- {lit}`Toml.Table.setValue` gives a key its value.
- {lit}`Toml.Table.openTable` and {lit}`Toml.Table.openTables` open what a header names.
-/

namespace EngineLink
namespace Toml

/-- A value in a settings file. -/
inductive Value where
  | text (s : String)
  | integer (i : Int)
  | real (x : Binary64)
  | bool (b : Bool)
  | moment (written : String)
  | array (items : List Value)
  | table (entries : List (String × Value))

/-- What stands under a key: a value, a table, or a list of tables of which the last one
is open.  A table is implicit if it was only opened on the way to another one, and
dotted if that was done by a key with dots. -/
inductive Node where
  | leaf (value : Value)
  | table (isImplicit isDotted : Bool) (entries : List (String × Node))
  | tables (items : List (List (String × Node)))

/-- The nodes of a table by their keys. -/
abbrev Table := List (String × Node)

namespace Table

/-- The node under a key. -/
def find? (table : Table) (key : String) : Option Node :=
  (List.find? (fun entry => entry.1 = key) table).map (·.2)

/-- Put a node in the place of the one under its key. -/
def replace (table : Table) (key : String) (node : Node) : Table :=
  table.map fun entry => if entry.1 = key then (key, node) else entry

/-- Change the table at the end of a path, opening tables on the way.  The change also
learns whether the table is dotted; {lit}`here` tells that of the first table.  Dots may
only go through tables that no header has opened. -/
def alter (byDots : Bool) (change : Bool → Table → Option Table) :
    (path : List String) → (here : Bool) → Table → Option Table
  | [], here, table => change here table
  | key :: path, _, table =>
    match table.find? key with
    | none => do
      let inner ← alter byDots change path byDots []
      return table ++ [(key, .table true byDots inner)]
    | some (.leaf _) => none
    | some (.table isImplicit isDotted inner) =>
      if byDots && !isImplicit then none
      else do
        let changed ← alter byDots change path isDotted inner
        return table.replace key (.table isImplicit isDotted changed)
    | some (.tables items) =>
      match items.getLast? with
      | none => none
      | some last => do
        let changed ← alter byDots change path false last
        return table.replace key (.tables (items.dropLast ++ [changed]))

/-- Give a key its value in a table.  The key must be new, and a table is filled by dots
exactly if it was opened by dots. -/
def addLeaf (key : String) (value : Value) (byDots : Bool) (isDotted : Bool) (table : Table) :
    Option Table :=
  if isDotted ≠ byDots then none
  else if (table.find? key).isSome then none
  else some (table ++ [(key, .leaf value)])

/-- Give a key, after some dots, its value in the table that a header has opened. -/
def setValue (header path : List String) (key : String) (value : Value) (root : Table) :
    Option Table :=
  alter false (fun here table => alter true (addLeaf key value (path ≠ [])) path here table) header
    false root

/-- Open the table that a header names. -/
def openTable (path : List String) (key : String) (root : Table) : Option Table :=
  alter false (fun _ table =>
    match table.find? key with
    | none => some (table ++ [(key, .table false false [])])
    | some (.table true false inner) => some (table.replace key (.table false false inner))
    | some _ => none) path false root

/-- Open another table in the list of tables that a header names. -/
def openTables (path : List String) (key : String) (root : Table) : Option Table :=
  alter false (fun _ table =>
    match table.find? key with
    | none => some (table ++ [(key, .tables [[]])])
    | some (.tables items) => some (table.replace key (.tables (items ++ [[]])))
    | some _ => none) path false root

end Table
end Toml
end EngineLink
