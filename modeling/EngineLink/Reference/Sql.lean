import EngineLink.Message.Conflict
import EngineLink.Reference.Token
import EngineLink.Value.Basic

/-!
# Statements of the reference engine

A small part of SQL: selections of terms or of one table's columns, lists of values, a
recursive count, the definition and the change of tables, and two pragmas.
-/

namespace EngineLink
namespace Reference

/-- A name in a statement with the byte it begins at. -/
structure Name where
  text : String
  offset : Nat
  deriving DecidableEq

namespace Name

/-- A name in small letters; names are the same in either case. -/
def key (text : String) : String := String.ofList (text.toList.map Char.toLower)

/-- Whether a name is that of something named so. -/
def matches? (n : Name) (text : String) : Bool := key n.text = key text

end Name

/-- A value given in the statement or as its argument with a number, from zero on. -/
inductive Term where
  | argument (index : Nat)
  | literal (value : Value)
  deriving DecidableEq

namespace Term

/-- The value of a term; a missing argument is null. -/
def eval (args : List Value) : Term → Value
  | .argument index => args.getD index .null
  | .literal value => value

end Term

/-- What a selection can show. -/
inductive Output where
  | term (term : Term)
  | zeroBlob (size : Term)
  | column (name : Name)
  | all
  | count
  deriving DecidableEq

/-- What a selection shows, with the name it is given and the text it was written as. -/
structure OutputColumn where
  output : Output
  label : Option String
  span : String
  deriving DecidableEq

/-- How a column is compared with a term. -/
inductive Comparison where
  | equal
  | above
  | atLeast
  | below
  | atMost
  deriving DecidableEq

namespace Comparison

/-- Whether a comparison holds for an order of its sides. -/
def holds : Comparison → Ordering → Bool
  | .equal, o => o == .eq
  | .above, o => o == .gt
  | .atLeast, o => o != .lt
  | .below, o => o == .lt
  | .atMost, o => o != .gt

end Comparison

/-- A condition on one column. -/
structure Condition where
  column : Name
  comparison : Comparison
  term : Term
  deriving DecidableEq

/-- The column that rows are put in order by. -/
structure Sorting where
  column : Name
  descending : Bool
  deriving DecidableEq

/-- A column of a table definition.  The row number itself can be a column. -/
structure ColumnDefinition where
  name : String
  isUnique : Bool
  isRowId : Bool
  deriving DecidableEq

/-- What a recursive count shows of each number. -/
inductive CountOutput where
  | number
  | multiple (factor : Int)
  | count
  deriving DecidableEq

/-- A statement. -/
inductive Statement where
  | empty
  | select (outputs : List OutputColumn) (table : Option Name) (condition : Option Condition)
      (sorting : Option Sorting)
  | values (rows : List (List Term))
  /-- Count from a number on, as long as the number is below the limit. -/
  | countUp (start : Int) (limit : Option Term) (outputs : List (CountOutput × String))
  | createTable (name : Name) (columns : List ColumnDefinition)
  | insert (conflict : Conflict) (table : Name) (columns : List Name) (rows : List (List Term))
  | update (conflict : Conflict) (table : Name) (changes : List (Name × Term))
      (condition : Option Condition)
  | delete (table : Name) (condition : Option Condition)
  | integrityCheck
  | busyTimeout (milliseconds : Int)
  deriving DecidableEq

namespace Statement

/-- Whether a statement may change a table. -/
def writes : Statement → Bool
  | .createTable _ _ => true
  | .insert _ _ _ _ => true
  | .update _ _ _ _ => true
  | .delete _ _ => true
  | _ => false

/-- Whether a statement has to look at the tables of the database. -/
def needsTables : Statement → Bool
  | .select _ table _ _ => table.isSome
  | .integrityCheck => true
  | s => s.writes

end Statement
end Reference
end EngineLink
