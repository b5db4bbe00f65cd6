import EngineLink.Client.Cursor
import EngineLink.Client.Session
import EngineLink.Message.Conflict

/-!
# Databases

The calls of a client in terms of statements and tables.  A database failure is given
the statement that caused it.
-/

namespace EngineLink

namespace Database

/-! ## Statement texts -/

/-- The condition of a statement; an empty one is none. -/
def conditionText : Option String → String
  | none => ""
  | some condition => if condition = "" then "" else " WHERE " ++ condition

/-- The statement that inserts a row. -/
def insertText (table : String) (conflict : Conflict) (columns : List String) : String :=
  "INSERT" ++ conflict.clause ++ " INTO " ++ table ++ "(" ++ ",".intercalate columns ++
    ") VALUES (" ++ ",".intercalate (columns.map fun _ => "?") ++ ")"

/-- The statement that changes the rows under a condition. -/
def updateText (table : String) (conflict : Conflict) (columns : List String)
    (condition : Option String) : String :=
  "UPDATE" ++ conflict.clause ++ " " ++ table ++ " SET " ++
    ",".intercalate (columns.map (· ++ "=?")) ++ conditionText condition

/-- The statement that deletes the rows under a condition. -/
def deleteText (table : String) (condition : Option String) : String :=
  "DELETE FROM " ++ table ++ conditionText condition

/-! ## Calls -/

variable {σ : Type} [Engine σ]

/-- A call whose database failures are given the statement. -/
def annotated {α : Type} (sql : String) (call : LinkM σ α) : LinkM σ α := fun link =>
  let (result, link) := call link
  (result.mapError (Error.annotate sql), link)

/-- A cursor over the rows of a query. -/
def query (sql : String) (args : List Value) (recentPages : Nat) : LinkM σ Cursor :=
  annotated sql (Cursor.openQuery sql args recentPages)

/-- All rows of a query. -/
def fullQuery (sql : String) (args : List Value) : LinkM σ (List (List Json)) :=
  annotated sql (Link.fullQuery sql args)

/-- Run a statement and ignore its rows. -/
def exec (sql : String) (args : List Value) : LinkM σ Unit := do
  let _ ← fullQuery sql args

/-- Run a statement and answer the number of changed rows. -/
def execute (sql : String) (args : List Value) : LinkM σ Int64 :=
  annotated sql (Link.execute sql args)

/-- Run an insertion and answer the new row's number. -/
def insertForId (sql : String) (args : List Value) : LinkM σ Int64 :=
  annotated sql (Link.insert sql args)

/-- Insert a row and answer its number. -/
def insert (table : String) (conflict : Conflict) (values : List (String × Value)) :
    LinkM σ Int64 :=
  if values = [] then throw (.invalidArgument "insert requires at least one column")
  else insertForId (insertText table conflict (values.map (·.1))) (values.map (·.2))

/-- Change the rows under a condition and answer their number. -/
def update (table : String) (conflict : Conflict) (values : List (String × Value))
    (condition : Option String) (args : List Value) : LinkM σ Int64 :=
  if values = [] then throw (.invalidArgument "update requires at least one column")
  else execute (updateText table conflict (values.map (·.1)) condition) (values.map (·.2) ++ args)

/-- Delete the rows under a condition and answer their number. -/
def delete (table : String) (condition : Option String) (args : List Value) : LinkM σ Int64 :=
  execute (deleteText table condition) args

/-- Whether the database checks itself to be sound: the check answers one row that
begins with the text {lit}`ok`. -/
def integrityOk : LinkM σ Bool := do
  match ← fullQuery "pragma integrity_check" [] with
  | [row] => return (row.head?.bind Json.text?) = some "ok"
  | _ => return false

end Database
end EngineLink
