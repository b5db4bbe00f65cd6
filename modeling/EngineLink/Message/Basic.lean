import EngineLink.Text.Entries
import EngineLink.Value.Basic

/-!
# Messages

The requests a client sends to an engine and the responses it gets back.  A page
is part of a query result: the rows from {lit}`start` on, out of {lit}`total` rows,
under the sequence number of the query.
-/

namespace EngineLink

/-- Texts by name, in increasing order of their names. -/
structure TextMap where
  entries : List (String × String)
  ordered : entries.Pairwise (fun a b => a.1 < b.1)

namespace TextMap

/-- No texts. -/
def empty : TextMap := ⟨[], .nil⟩

/-- Put a text under a name, replacing the one that stood there. -/
def insert (m : TextMap) (name text : String) : TextMap :=
  ⟨Entries.insert name text m.entries, Entries.ordered_insert name text m.ordered⟩

/-- The texts of a list of entries; of repeated names the last one counts. -/
def ofList (entries : List (String × String)) : TextMap :=
  entries.foldl (fun m e => m.insert e.1 e.2) empty

end TextMap

namespace Message

/-- The languages a new instance prefers, best first. -/
structure Init where
  languages : List String
  deriving DecidableEq

/-- What a database request asks for. -/
inductive RequestKind where
  | query
  | begin
  | commit
  | rollback
  deriving DecidableEq

/-- A statement with its arguments, or a transaction control. -/
structure DbRequest where
  kind : RequestKind
  sql : String
  args : List Value
  firstRowOnly : Bool
  deriving DecidableEq

/-- Ask for the page of a query that begins at a row. -/
structure PageRequest where
  sequence : Int32
  start : Int64
  deriving DecidableEq

/-- Ask to discard the result of a query. -/
structure FlushRequest where
  sequence : Int32
  deriving DecidableEq

/-- Ask for pages of about this many bytes. -/
structure PageSizeRequest where
  bytes : UInt64
  deriving DecidableEq

/-- Ask for the column names of a statement. -/
structure ColumnNamesRequest where
  sql : String
  deriving DecidableEq

/-- Ask to open the collection at a path. -/
structure OpenCollectionRequest where
  path : String
  deriving DecidableEq

/-- Ask for a translated text. -/
structure TranslateRequest where
  moduleIndex : UInt32
  messageIndex : UInt32
  args : TextMap

/-- Nothing. -/
structure Empty where
  deriving DecidableEq

/-- Why an engine refused a request. -/
structure Envelope where
  kind : Int32
  message : String
  help : Option String
  deriving DecidableEq

/-- One integer. -/
structure IntegerValue where
  val : Int64
  deriving DecidableEq

/-- One text. -/
structure TextValue where
  val : String
  deriving DecidableEq

/-- Some texts. -/
structure TextList where
  vals : List String
  deriving DecidableEq

/-- How far a long operation has come. -/
inductive Progress where
  | idle
  | working (stage : String) (current total : UInt64)
  deriving DecidableEq

namespace DbRequest

/-- Run a statement. -/
def query (sql : String) (args : List Value) : DbRequest := ⟨.query, sql, args, false⟩

/-- Run a statement and stop after its first row. -/
def firstRow (sql : String) (args : List Value) : DbRequest := ⟨.query, sql, args, true⟩

/-- A transaction control, which has no statement. -/
def control (kind : RequestKind) : DbRequest := ⟨kind, "", [], false⟩

end DbRequest
end Message

/-- Part of a query result. -/
structure Page where
  sequence : Int32
  start : Int64
  total : Int64
  rows : List Row
  deriving DecidableEq, Inhabited

namespace Page

/-- The row after the last one of the page. -/
def stop (p : Page) : Int := p.start.toInt + p.rows.length

/-- Whether a row is on the page. -/
def contains (p : Page) (position : Int) : Bool :=
  p.start.toInt ≤ position && position < p.stop

end Page
end EngineLink
