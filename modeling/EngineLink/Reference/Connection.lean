import EngineLink.Reference.Disk
import EngineLink.Reference.Execution

/-!
# Connections

A connection runs statements on one database, each by itself or several in a
transaction.  Changes inside a transaction are seen by the connection alone until the
commit.

A connection knows the tables from when it looked at them last.  Tables are only ever
added, so the tables it knows are the first ones that there are.  It looks again when a
statement is about a name that it does not know, and when a statement that it has
prepared turns out to run among more tables.

- {lit}`Connection.execute` runs a statement.
- {lit}`Connection.begin`, {lit}`Connection.commit` and {lit}`Connection.rollback`
  control transactions.
-/

namespace EngineLink
namespace Reference

/-- A connection of an instance to a database.  Inside a transaction it may have tables
of its own, which are not committed yet.  It remembers how many tables it knows, if it
has looked at them, how many rows the last change was about, and the number of the row
inserted last. -/
structure Connection where
  owner : Int64
  location : Location
  isReadOnly : Bool
  inTransaction : Bool
  working : Option Catalog
  known : Option Nat
  changes : Nat
  lastId : Int64
  deriving DecidableEq

/-- A computation with a connection and the disk, which may fail; what it did stays
either way. -/
abbrev ConnectionM (α : Type) := ExceptT Fault (StateM (Connection × Disk)) α

namespace Connection

/-- A connection to a place. -/
def create (owner : Int64) (location : Location) (isReadOnly : Bool) : Connection :=
  ⟨owner, location, isReadOnly, false, none, none, 0, 0⟩

/-- The tables that a connection sees, if there is a database. -/
def visible? (c : Connection) (disk : Disk) : Option Catalog :=
  c.working <|> (disk.get c.location).contents.catalog?

/-- The tables that a connection sees. -/
def visible (c : Connection) (disk : Disk) : Catalog := (c.visible? disk).getD []

/-- The tables that a connection knows. -/
def knownTables (c : Connection) (disk : Disk) : Catalog :=
  (c.visible disk).take (c.known.getD 0)

/-- Whether tables have come since a connection looked at them. -/
def isStale (c : Connection) (disk : Disk) : Bool :=
  match c.known with
  | some n => n ≠ (c.visible disk).length
  | none => false

/-- Whether a connection has tables that are not committed. -/
def hasNewTables (c : Connection) (disk : Disk) : Bool :=
  (c.visible disk).length ≠ ((disk.get c.location).contents.catalog?.getD []).length

/-- Give up all holds on the database. -/
def unlock (c : Connection) (disk : Disk) : Disk :=
  let file := disk.get c.location
  disk.put
    { file with
      writer := file.writer.filter (· ≠ c.owner)
      readers := file.readers.filter (· ≠ c.owner)
      isWaiting := file.isWaiting && file.writer ≠ some c.owner }

/-- Leave the transaction. -/
def leave (c : Connection) : Connection := { c with inTransaction := false, working := none }

/-- Whether the connection is the writer. -/
def isWriter (c : Connection) (disk : Disk) : Bool :=
  (disk.get c.location).writer = some c.owner

/-- Whether another connection is the writer. -/
def isBlocked (c : Connection) (disk : Disk) : Bool :=
  (disk.get c.location).writer.any (· ≠ c.owner)

/-- Whether another connection is a reader. -/
def isObserved (c : Connection) (disk : Disk) : Bool :=
  (disk.get c.location).readers.any (· ≠ c.owner)

/-- Whether the connection has no hold on the database and may not get one, because the
writer waits for the readers to leave. -/
def isShutOut (c : Connection) (disk : Disk) : Bool :=
  let file := disk.get c.location
  file.isWaiting && !c.isWriter disk && !file.readers.contains c.owner

/-! ## Transactions -/

/-- Begin a transaction. -/
def begin : ConnectionM Unit := do
  let (c, disk) ← get
  if c.inTransaction then
    throw (Fault.plain "cannot start a transaction within a transaction")
  else set ({ c with inTransaction := true }, disk)

/-- Commit the transaction, if there is one.  A writer cannot commit while there are other
readers, whether or not it has changed anything; the transaction then stays open and
waits. -/
def commit : ConnectionM Unit := do
  let (c, disk) ← get
  if c.isWriter disk && c.isObserved disk then
    set (c, disk.put { disk.get c.location with isWaiting := true })
    throw Fault.locked
  else
    let stored :=
      match c.working with
      | some catalog => disk.put { disk.get c.location with contents := .database catalog }
      | none => disk
    set (c.leave, c.unlock stored)

/-- Roll the transaction back, if there is one.  If it had new tables the connection has to
look at the tables again. -/
def rollback : ConnectionM Unit := do
  let (c, disk) ← get
  let known := if c.hasNewTables disk then none else c.known
  set ({ c.leave with known }, c.unlock disk)

/-! ## Preparation -/

/-- Look at the tables, unless the connection knows them from before. -/
def learnTables : ConnectionM Unit := do
  let (c, disk) ← get
  if c.known.isNone then
    if c.isShutOut disk then throw Fault.locked
    else
      match c.visible? disk with
      | some catalog => set ({ c with known := some catalog.length }, disk)
      | none => throw Fault.notADatabase

/-- Forget what the connection knows of the tables. -/
def forgetTables : ConnectionM Unit := modify fun (c, disk) => ({ c with known := none }, disk)

/-- Plan a statement on the tables that the connection knows. -/
def plan (sql : String) (statement : Statement) (arguments : Nat) :
    ConnectionM (Except Refusal Prepared) := do
  if statement.needsTables then learnTables
  let (c, disk) ← get
  return prepare (c.knownTables disk) sql statement arguments

/-- Prepare a statement.  If a name is missing and there are more tables by now, it is looked
for among them. -/
def prepareText (sql : String) : ConnectionM Prepared := do
  let (statement, arguments) ← liftExcept (Grammar.read sql)
  match ← plan sql statement arguments with
  | .ok prepared => return prepared
  | .error (.unfit fault) => throw fault
  | .error (.missing fault) =>
    let (c, disk) ← get
    if c.isStale disk && !c.isShutOut disk then
      forgetTables
      liftExcept ((← plan sql statement arguments).mapError Refusal.fault)
    else throw fault

/-- Prepare a statement again if there are more tables than when it was prepared. -/
def renew (sql : String) (prepared : Prepared) : ConnectionM Prepared := do
  let (c, disk) ← get
  if c.isStale disk then
    forgetTables
    ExceptT.adapt Fault.withoutPlace (prepareText sql)
  else return prepared

/-- Refuse a wrong number of arguments.  One argument too many is enough to know. -/
def checkArguments (expected : Nat) (args : List Value) : ConnectionM Unit := do
  unless args.length = expected do
    throw (.argumentCount (min args.length (expected + 1)) expected)

/-! ## Statements -/

/-- Take hold of the database to read it, which lasts as long as the transaction. -/
def observe : ConnectionM Unit := do
  let (c, disk) ← get
  let file := disk.get c.location
  if c.isShutOut disk then throw Fault.locked
  else if c.inTransaction && !file.readers.contains c.owner then
    set (c, disk.put { file with readers := c.owner :: file.readers })

/-- Take hold of the database to change it, which lasts as long as the transaction.  A
connection that is kept from it gets no hold at all. -/
def seize : ConnectionM Unit := do
  let (c, disk) ← get
  if c.isReadOnly then throw Fault.readOnly
  else if c.isBlocked disk then throw Fault.locked
  else if !c.location.hasJournal then throw Fault.notOpened
  else
    observe
    if c.inTransaction then
      modify fun (c, disk) => (c, disk.put { disk.get c.location with writer := some c.owner })

/-- Keep the tables after a change: as the connection's own inside a transaction, else for
all, unless there are other readers. -/
def keep (catalog : Catalog) : ConnectionM Unit := do
  let (c, disk) ← get
  if c.inTransaction then
    set ({ c with working := some catalog, known := some catalog.length }, disk)
  else if c.isObserved disk then
    if catalog.length ≠ (c.visible disk).length then forgetTables
    throw Fault.locked
  else
    set ({ c with known := some catalog.length },
      disk.put { disk.get c.location with contents := .database catalog })

/-- Run a prepared statement that changes tables. -/
def runChange (sql : String) (prepared : Prepared) (args : List Value) : ConnectionM Unit := do
  let setChanges (n : Nat) : ConnectionM Unit :=
    modify fun (c, disk) =>
      (if prepared.plan.countsChanges then { c with changes := n } else c, disk)
  setChanges 0
  seize
  let prepared ← renew sql prepared
  let (c, disk) ← get
  let done := prepared.plan.run (c.visible disk) args
  set ({ c with lastId := done.lastId.getD c.lastId }, disk)
  match done.failure with
  | none =>
    keep done.catalog
    setChanges done.changed
  | some (fault, .keep) =>
    ExceptT.adapt (fun _ => fault.unkept) (keep done.catalog)
    setChanges done.changed
    throw fault
  | some (fault, .revert) => throw fault
  | some (fault, .rollback) =>
    rollback
    throw fault

/-- Run a prepared statement and answer its rows. -/
def runPrepared (sql : String) (prepared : Prepared) (args : List Value) :
    ConnectionM (List Row) := do
  if prepared.plan.writes then
    runChange sql prepared args
    return []
  else
    let prepared ← do
      if prepared.plan.readsTables then
        observe
        renew sql prepared
      else pure prepared
    let (c, disk) ← get
    let done := prepared.plan.run (c.visible disk) args
    match done.failure with
    | none => return done.rows
    | some (fault, _) => throw fault

/-- Run a statement with arguments and answer its rows. -/
def execute (sql : String) (args : List Value) : ConnectionM (List Row) := do
  let prepared ← prepareText sql
  checkArguments prepared.arguments args
  runPrepared sql prepared (args.map Plan.bound)

/-- Run a statement that must not answer rows. -/
def executeSilently (sql : String) (args : List Value) : ConnectionM Unit := do
  unless (← execute sql args).isEmpty do throw .returnedRows

/-- The names of a statement's columns. -/
def columnNames (sql : String) : ConnectionM (List String) := do
  return (← prepareText sql).columns

end Connection
end Reference
end EngineLink
