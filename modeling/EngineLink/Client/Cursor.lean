import EngineLink.Client.Calls
import EngineLink.Page.Recent

/-!
# Cursors

A cursor walks over the rows of a paged query.  It holds one page, and some recent
ones if the client keeps them, and asks the engine for another page when it comes to
a row that is on none of them.  Its position is a row, minus one before the first
row, or the number of rows after the last.

- {lit}`Cursor.moveTo` moves to a row; the other moves are made of it.
- {lit}`Cursor.read` is the value of a column at the position.
-/

namespace EngineLink

/-- A cursor over the rows of a paged query. -/
structure Cursor where
  sql : String
  sequence : Int32
  total : Int64
  position : Int
  page : Page
  recent : Option RecentPages
  names : Option (List String)
  fetched : Nat
  closed : Bool
  deriving DecidableEq

/-- A call by a cursor. -/
abbrev CursorM (σ α : Type) := ObjectM Cursor σ α

namespace Cursor

/-- The cursor of a query whose first page is there, before the first row. -/
def create (sql : String) (recentPages : Nat) (page : Page) : Cursor :=
  { sql
    sequence := page.sequence
    total := page.total
    position := -1
    page
    recent := RecentPages.create recentPages
    names := none
    fetched := 0
    closed := false }

/-! ## Positions -/

/-- Whether the cursor stands before the first row; without rows it does. -/
def isBeforeFirst (c : Cursor) : Bool := c.total = 0 || c.position = -1

/-- Whether the cursor stands after the last row; without rows it does. -/
def isAfterLast (c : Cursor) : Bool := c.total = 0 || c.position = c.total.toInt

/-- Whether the cursor stands on the first row. -/
def isFirst (c : Cursor) : Bool := c.total ≠ 0 && c.position = 0

/-- Whether the cursor stands on the last row.  The difference is the exact one: for the least count
of sixty-four bits it lies below them and is no position. -/
def isLast (c : Cursor) : Bool := c.total ≠ 0 && c.position = c.total.toInt - 1

/-- The row an offset leads to, kept within sixty-four bits. -/
def shifted (c : Cursor) (offset : Int) : Int :=
  max Int64.minValue.toInt (min Int64.maxValue.toInt (c.position + offset))

/-- The text of a cursor. -/
def text (c : Cursor) : String :=
  "PagedCursor \x7b sequence_number: " ++ toString c.sequence.toInt ++ ", row_count: " ++
    toString c.total.toInt ++ ", position: " ++ toString c.position ++ ", page_start: " ++
    toString c.page.start.toInt ++ ", page_rows: " ++ toString c.page.rows.length ++ ", closed: " ++
    toString c.closed ++ " \x7d"

/-! ## Pages -/

/-- Whether the page is the whole result. -/
def holdsAll (c : Cursor) : Bool := c.page.start = 0 && c.page.rows.length = c.total.toInt

/-- Put another page in place of the current one, which becomes the most recent. -/
def showPage (c : Cursor) (page : Page) : Cursor :=
  { c with page, recent := c.recent.map (·.insert c.page) }

/-- Take a row's page out of the recent pages and show it. -/
def showRecent? (c : Cursor) (position : Int) : Option Cursor := do
  let recent ← c.recent
  let (found, rest) := recent.take position
  return { c with recent := some rest }.showPage (← found)

/-- Whether a fetched page is of the cursor's query and has the row asked for. -/
def checkPage (c : Cursor) (position : Int) (page : Page) : Except Error Unit :=
  if page.sequence ≠ c.sequence then .error (.sequenceMismatch c.sequence page.sequence)
  else if page.contains position then .ok ()
  else .error (.malformed (.rowNotOnPage page.start.toInt page.rows.length position))

section Calls

variable {σ : Type} [Engine σ]

/-- The cursor of a new paged query. -/
def openQuery (sql : String) (args : List Value) (recentPages : Nat) : LinkM σ Cursor := do
  return create sql recentPages (← Link.firstPage sql args)

/-- Show the page of a row: a recent one, or one from the engine.  Nothing but the
count of fetched pages changes when this fails. -/
def load (position : Int) : CursorM σ Unit := do
  let c : Cursor ← getThe Cursor
  match c.showRecent? position with
  | some shown => set shown
  | none =>
    let page ← onLink (Link.nextPage c.sequence (Int64.ofInt position))
    let counted := { c with fetched := c.fetched + 1 }
    set counted
    match c.checkPage position page with
    | .ok () => set (counted.showPage page)
    | .error fault => throw fault

/-- Refuse every use of a closed cursor. -/
def ensureOpen : CursorM σ Unit := do
  if (← getThe Cursor).closed then throw .cursorClosed

/-- Move to a row.  A target outside the rows moves before the first or after the
last one and answers false, without a call. -/
def moveTo (target : Int) : CursorM σ Bool := do
  ensureOpen
  let c : Cursor ← getThe Cursor
  if target < 0 then
    set { c with position := -1 }
    return false
  else if c.total.toInt ≤ target then
    set { c with position := c.total.toInt }
    return false
  else
    unless c.page.contains target || c.holdsAll do load target
    modifyThe Cursor fun c => { c with position := target }
    return true

/-- Move by a number of rows. -/
def moveBy (offset : Int) : CursorM σ Bool := do moveTo ((← getThe Cursor).shifted offset)

/-- Move to the first row. -/
def moveToFirst : CursorM σ Bool := moveTo 0

/-- Move to the last row.  The difference is the exact one, so without rows, and for every negative
count an engine may tell, the cursor moves before the first row. -/
def moveToLast : CursorM σ Bool := do moveTo ((← getThe Cursor).total.toInt - 1)

/-- Move to the next row. -/
def moveToNext : CursorM σ Bool := moveBy 1

/-- Move to the row before. -/
def moveToPrevious : CursorM σ Bool := moveBy (-1)

/-! ## Columns -/

/-- The names of the columns, asked for once. -/
def columnNames : CursorM σ (List String) := do
  ensureOpen
  let c : Cursor ← getThe Cursor
  match c.names with
  | some names => return names
  | none =>
    let names ← onLink (Link.columnNames c.sql)
    set { c with names := some names }
    return names

/-- The index of the first column with a name. -/
def columnIndex? (name : String) : CursorM σ (Option Nat) := do
  return (← columnNames).findIdx? (· = name)

/-- The index of the first column with a name, which must exist. -/
def columnIndex (name : String) : CursorM σ Nat := do
  match ← columnIndex? name with
  | some index => return index
  | none => throw (.columnNotFound name)

/-- The name of a column. -/
def columnName (index : Nat) : CursorM σ String := do
  let names ← columnNames
  match names[index]? with
  | some name => return name
  | none => throw (.columnOutOfRange index names.length)

/-- Give the result back to the engine, once. -/
def close : CursorM σ Unit := do
  let c : Cursor ← getThe Cursor
  unless c.closed do
    set { c with closed := true, recent := c.recent.map RecentPages.clear }
    onLink (Link.cancelQuery c.sequence)

/-- Give the result back without a word about failures, when the cursor goes. -/
def discard (c : Cursor) (link : Link σ) : Link σ := ((close : CursorM σ Unit) c link).2

end Calls

/-! ## Values -/

/-- The row at the position.  The offset on the page is the exact difference, which lies above
sixty-four bits if the page starts near their least number; there is no row at such an offset. -/
def row (c : Cursor) : Except Error Row :=
  if c.closed then .error .cursorClosed
  else
    let offset := c.position - c.page.start.toInt
    if offset < 0 then .error (.rowOutOfRange offset c.page.rows.length)
    else
      match c.page.rows[offset.toNat]? with
      | some row => .ok row
      | none => .error (.rowOutOfRange offset c.page.rows.length)

/-- The value of a column at the position. -/
def read (c : Cursor) (column : Nat) : Except Error Value := do
  let row ← c.row
  match row[column]? with
  | some value => return value
  | none => throw (.columnOutOfRange column row.length)

/-- The value of a column in another reading. -/
def readAs {α : Type} (reading : Value → Except CoercionFault α) (c : Cursor) (column : Nat) :
    Except Error α := do
  match reading (← c.read column) with
  | .ok value => return value
  | .error fault => throw (.coercion fault)

/-- The value of a column as an integer. -/
def readInteger (c : Cursor) (column : Nat) : Except Error Int64 := c.readAs Value.asInteger column

/-- The low thirty-two bits of a column as an integer. -/
def readInt32 (c : Cursor) (column : Nat) : Except Error Int32 :=
  (c.readInteger column).map Int64.toInt32

/-- The low sixteen bits of a column as an integer. -/
def readInt16 (c : Cursor) (column : Nat) : Except Error Int16 :=
  (c.readInteger column).map Int64.toInt16

/-- The value of a column as a double. -/
def readReal (c : Cursor) (column : Nat) : Except Error Binary64 := c.readAs Value.asReal column

/-- The value of a column as a single-precision number. -/
def readSingle (c : Cursor) (column : Nat) : Except Error Binary32 :=
  (c.readReal column).map Binary64.toBinary32

/-- The value of a column as text. -/
def readText (c : Cursor) (column : Nat) : Except Error (Option String) :=
  c.readAs Value.asText column

/-- The value of a column as bytes. -/
def readBlob (c : Cursor) (column : Nat) : Except Error (Option Bytes) :=
  c.readAs Value.asBlob column

end Cursor
end EngineLink
