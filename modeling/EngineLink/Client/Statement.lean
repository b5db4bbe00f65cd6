import EngineLink.Client.Database

/-!
# Statements

A statement that is run again and again with other arguments.  Arguments are bound by
their number, from one on; nothing is sent before the statement is run, and a number
without a binding below the greatest bound one stands for null.
-/

namespace EngineLink

/-- A statement with its bindings, latest first. -/
structure Statement where
  sql : String
  bindings : List (Nat × Value)
  deriving DecidableEq

namespace Statement

/-- A statement without bindings. -/
def create (sql : String) : Statement := ⟨sql, []⟩

/-- Bind a value to a number. -/
def bind (s : Statement) (index : Nat) (value : Value) : Except Error Statement :=
  if index = 0 then .error (.invalidArgument "bind indices start at 1")
  else .ok { s with bindings := (index, value) :: s.bindings.filter (·.1 ≠ index) }

/-- Forget all bindings. -/
def clear (s : Statement) : Statement := { s with bindings := [] }

/-- The value bound to a number; null without a binding. -/
def bound (s : Statement) (index : Nat) : Value :=
  ((s.bindings.find? fun binding => binding.1 = index).map (·.2)).getD .null

/-- The greatest bound number. -/
def size (s : Statement) : Nat := (s.bindings.map (·.1)).foldl max 0

/-- The arguments of the statement. -/
def args (s : Statement) : List Value := (List.range s.size).map fun i => s.bound (i + 1)

variable {σ : Type} [Engine σ]

/-- Run the statement and ignore its rows. -/
def execute (s : Statement) : LinkM σ Unit := Database.exec s.sql s.args

/-- Run the statement and answer the new row's number. -/
def executeInsert (s : Statement) : LinkM σ Int64 := Database.insertForId s.sql s.args

/-- Run the statement and answer the number of changed rows. -/
def executeUpdate (s : Statement) : LinkM σ Int64 := Database.execute s.sql s.args

/-- The first value of a cursor's first row, after which the cursor is closed. -/
def takeFirst : CursorM σ Value := do
  unless ← Cursor.moveToFirst do throw .noRows
  let c : Cursor ← getThe Cursor
  match c.read 0 with
  | .error fault => throw fault
  | .ok value =>
    Cursor.close
    return value

/-- The first value of the first row.  The cursor goes in any case. -/
def firstValue (s : Statement) (recentPages : Nat) : LinkM σ Value := do
  let cursor ← Database.query s.sql s.args recentPages
  fun link =>
    let ((result, cursor), link) := takeFirst cursor link
    (result, cursor.discard link)

/-- The first value in another reading. -/
def firstAs {α : Type} (reading : Value → Except CoercionFault α) (s : Statement)
    (recentPages : Nat) : LinkM σ α := do
  match reading (← s.firstValue recentPages) with
  | .ok value => return value
  | .error fault => throw (.coercion fault)

/-- The first value as an integer. -/
def firstInteger (s : Statement) (recentPages : Nat) : LinkM σ Int64 :=
  s.firstAs Value.asInteger recentPages

/-- The first value as text. -/
def firstText (s : Statement) (recentPages : Nat) : LinkM σ (Option String) :=
  s.firstAs Value.asText recentPages

end Statement
end EngineLink
