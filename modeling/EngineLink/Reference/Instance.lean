import EngineLink.Json.Printer
import EngineLink.Page.Store
import EngineLink.Reference.Connection

/-!
# Instances of the reference engine

An instance has at most one open collection and at most one stored result.  Here are its
operations on messages; the bytes come with the engine.
-/

namespace EngineLink
namespace Reference

/-- An instance of the reference engine. -/
structure Instance where
  languages : List String
  connection : Option Connection
  results : ResultStore
  pageSize : UInt64
  deriving DecidableEq

/-- An operation of an instance, which may end with an envelope. -/
abbrev InstanceM (α : Type) := ExceptT Message.Envelope (StateM (Instance × Disk)) α

namespace Instance

/-- The bytes of a page if a client asks for nothing else. -/
def standardPageSize : UInt64 := 2 * 1024 * 1024

/-- A new instance. -/
def create (languages : List String) : Instance :=
  ⟨languages, none, ResultStore.empty, standardPageSize⟩

/-- An operation that nothing is open for. -/
def notOpen : Message.Envelope := Fault.envelopeOf .invalidInput "CollectionNotOpen"

/-- Change the instance. -/
def change (f : Instance → Instance) : InstanceM Unit := modify fun (i, disk) => (f i, disk)

/-- Work with the open collection. -/
def onCollection {α : Type} (work : ConnectionM α) : InstanceM α := fun (i, disk) =>
  match i.connection with
  | none => (.error notOpen, (i, disk))
  | some connection =>
    let (result, connection, disk) := work (connection, disk)
    (result.mapError Fault.envelope, ({ i with connection := some connection }, disk))

/-! ## Collections -/

/-- Open the collection at a path for the instance with the given handle. -/
def openCollection (owner : Int64) (request : Message.OpenCollectionRequest) :
    InstanceM Message.Empty := do
  let (i, disk) ← get
  match i.connection, Location.ofText owner request.path with
  | some _, _ => throw (Fault.envelopeOf .invalidInput "CollectionAlreadyOpen")
  | none, .error fault => throw fault.envelope
  | none, .ok (location, access) =>
    if access.needsFile && !disk.contains location then
      throw (Fault.unreachable request.path).envelope
    else
      set ({ i with connection := some (Connection.create owner location access.isReadOnly) },
        disk.put (disk.get location))
      return {}

/-- Give the collection up: an open transaction is lost, and so is a database in memory. -/
def disconnect (i : Instance) (disk : Disk) : Disk :=
  match i.connection with
  | none => disk
  | some c =>
    match c.location with
    | .memory _ => disk.erase c.location
    | .file _ _ => c.unlock disk

/-- Close the collection and drop the stored result. -/
def closeCollection : InstanceM Message.Empty := do
  let (i, disk) ← get
  match i.connection with
  | none => throw notOpen
  | some _ =>
    set ({ i with connection := none, results := i.results.clear }, i.disconnect disk)
    return {}

/-! ## Statements -/

/-- The rows of a statement; only the first one if no more are wanted. -/
def rowsOf (request : Message.DbRequest) : InstanceM (List Row) := do
  let rows ← onCollection (Connection.execute request.sql request.args)
  return if request.firstRowOnly then rows.take 1 else rows

/-- Control a transaction, or run a statement and answer its rows, as JSON. -/
def query (request : Message.DbRequest) : InstanceM Json := do
  match request.kind with
  | .begin =>
    onCollection Connection.begin
    return .null
  | .commit =>
    onCollection Connection.commit
    return .null
  | .rollback =>
    onCollection Connection.rollback
    return .null
  | .query => return Json.ofRows ((← rowsOf request).map fun row => row.map Value.toJson)

/-- Run a statement, store its rows and answer the first page. -/
def pagedQuery (request : Message.DbRequest) : InstanceM Page := do
  let rows ← rowsOf request
  let (i, disk) ← get
  let (page, results) := i.results.store rows i.pageSize.toNat
  set ({ i with results }, disk)
  return page

/-- Run a statement and answer the number of changed rows. -/
def execute (request : Message.DbRequest) : InstanceM Message.IntegerValue := do
  onCollection do
    Connection.executeSilently request.sql request.args
    return ⟨Int64.ofNat (← get).1.changes⟩

/-- Run a statement and answer the number of the row inserted last. -/
def insert (request : Message.DbRequest) : InstanceM Message.IntegerValue := do
  onCollection do
    Connection.executeSilently request.sql request.args
    return ⟨(← get).1.lastId⟩

/-- The column names of a statement. -/
def columnNames (request : Message.ColumnNamesRequest) : InstanceM Message.TextList := do
  return ⟨← onCollection (Connection.columnNames request.sql)⟩

/-! ## Stored results -/

/-- The page of the stored result that begins at a row, whichever query it is of. -/
def nextPage (request : Message.PageRequest) : InstanceM Page := do
  let (i, _) ← get
  match i.results.page? request.start with
  | some page => return page
  | none =>
    throw (Fault.envelopeOf .invalidInput
      ("query " ++ toString request.sequence.toInt ++ " has no outstanding result"))

/-- Drop the stored result if it is of the given query. -/
def flush (request : Message.FlushRequest) : InstanceM Message.Empty := do
  change fun i => { i with results := i.results.flush request.sequence }
  return {}

/-- Drop the stored result. -/
def flushAll (_ : Message.Empty) : InstanceM Message.Empty := do
  change fun i => { i with results := i.results.clear }
  return {}

/-- Set the bytes of a page, at least one. -/
def setPageSize (request : Message.PageSizeRequest) : InstanceM Message.Empty := do
  change fun i => { i with pageSize := max request.bytes 1 }
  return {}

/-! ## Other operations -/

/-- A translated text: the language, the numbers and the arguments. -/
def translate (request : Message.TranslateRequest) : InstanceM Message.TextValue := do
  let (i, _) ← get
  let args := String.join (request.args.entries.map fun (name, text) => " " ++ name ++ "=" ++ text)
  return ⟨i.languages.head?.getD "en" ++ ":" ++ toString request.moduleIndex.toNat ++ "." ++
    toString request.messageIndex.toNat ++ args⟩

/-- Nothing takes long enough to have come only part of its way. -/
def progress : InstanceM Message.Progress := return .idle

/-- Stop a running statement; none is running between calls. -/
def abort (_ : Message.Empty) : InstanceM Message.Empty := return {}

end Instance
end Reference
end EngineLink
