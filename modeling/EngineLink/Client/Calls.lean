import EngineLink.Client.Link
import EngineLink.Json.Parser

/-!
# Typed calls

The calls of a client, each a request to one method with a response of its own type.
A paged query makes its sequence number the active one; only the active query is
ever discarded.
-/

namespace EngineLink
namespace Link

variable {σ : Type} [Engine σ]

/-! ## Queries -/

/-- The rows of a JSON text. -/
def readRows (bytes : Bytes) : Except CodecFault (List (List Json)) :=
  match (Utf8.decode? bytes).bind fun text => (Json.read? text.toList).bind Json.rows? with
  | some rows => .ok rows
  | none => .error .invalidJson

/-- Run a request and answer the rows as JSON values. -/
def jsonQuery (request : Message.DbRequest) : LinkM σ (List (List Json)) := do
  match readRows (← send .query request) with
  | .ok rows => return rows
  | .error fault => throw (.codec fault)

/-- All rows of a query. -/
def fullQuery (sql : String) (args : List Value) : LinkM σ (List (List Json)) :=
  jsonQuery (.query sql args)

/-- The first row of a query, after which the engine stops. -/
def firstRow (sql : String) (args : List Value) : LinkM σ (Option (List Json)) := do
  return (← jsonQuery (.firstRow sql args)).head?

/-- Run a statement and answer the number of changed rows. -/
def execute (sql : String) (args : List Value) : LinkM σ Int64 := do
  let changed : Message.IntegerValue ← ask .execute (Message.DbRequest.query sql args)
  return changed.val

/-- Run an insertion and answer the new row's number. -/
def insert (sql : String) (args : List Value) : LinkM σ Int64 := do
  let row : Message.IntegerValue ← ask .insert (Message.DbRequest.query sql args)
  return row.val

/-- The column names of a statement. -/
def columnNames (sql : String) : LinkM σ (List String) := do
  let names : Message.TextList ← ask .columnNames (Message.ColumnNamesRequest.mk sql)
  return names.vals

/-! ## Paged queries -/

/-- Start a paged query, which becomes the active one, and answer its first page. -/
def firstPage (sql : String) (args : List Value) : LinkM σ Page := do
  let page : Page ← ask .pagedQuery (Message.DbRequest.query sql args)
  setHandle fun handle => { handle with active := some page.sequence }
  return page

/-- The page of a query that begins at a row. -/
def nextPage (sequence : Int32) (start : Int64) : LinkM σ Page :=
  ask .nextPage (Message.PageRequest.mk sequence start)

/-- Discard the result of a query if it is the active one. -/
def cancelQuery (sequence : Int32) : LinkM σ Unit := do
  if (← get).handle.active = some sequence then
    setHandle fun handle => { handle with active := none }
    tell .flush (Message.FlushRequest.mk sequence)

/-- Discard every result. -/
def cancelAll : LinkM σ Unit := do
  setHandle fun handle => { handle with active := none }
  tell .flushAll Message.Empty.mk

/-- Set the bytes of a page. -/
def setPageSize (bytes : UInt64) : LinkM σ Unit :=
  tell .setPageSize (Message.PageSizeRequest.mk bytes)

/-! ## Collections -/

/-- Open the collection at a path. -/
def openCollection (path : String) : LinkM σ Unit :=
  tell .openCollection (Message.OpenCollectionRequest.mk path)

/-- Close the collection after discarding every result. -/
def closeCollection : LinkM σ Unit := do
  cancelAll
  tell .closeCollection Message.Empty.mk

/-! ## Transactions -/

/-- Send a transaction control; what the engine says on success is ignored. -/
def control (kind : Message.RequestKind) : LinkM σ Unit := do
  let _ ← send .query (Message.DbRequest.control kind)

/-- Take the lock and begin a transaction.  The lock is kept on success only. -/
def beginTransaction : LinkM σ Unit := do
  control .begin
  setHandle fun handle => { handle with holds := handle.holds + 1 }

/-- End a transaction by a commit or a rollback and release the lock, whatever comes
of the request. -/
def finishTransaction (kind : Message.RequestKind) : LinkM σ Unit := fun link =>
  let (result, link) := control kind link
  (result, { link with handle := { link.handle with holds := link.handle.holds - 1 } })

/-! ## Other calls -/

/-- A translated text. -/
def translate (moduleIndex messageIndex : UInt32) (args : TextMap) : LinkM σ String := do
  let text : Message.TextValue ←
    ask .translate (Message.TranslateRequest.mk moduleIndex messageIndex args)
  return text.val

/-- How far a long operation has come. -/
def progress : LinkM σ Message.Progress := ask .progress Message.Empty.mk

/-- Ask a long operation to stop. -/
def abort : LinkM σ Unit := tell .abort Message.Empty.mk

end Link
end EngineLink
