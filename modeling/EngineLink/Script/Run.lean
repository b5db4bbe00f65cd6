import EngineLink.Script.Answer
import EngineLink.Script.World

/-!
# Running a script

Every step is done on the world left by the steps before it.  After the last step all
objects go.

- {lit}`Script.runStep` does one step and answers it.
- {lit}`Script.run` does a whole script.
-/

namespace EngineLink
namespace Script

variable {σ : Type} [Hosted σ]

/-- A step about an object that does not exist. -/
def missing {α : Type} : Except Error α := .error (.invalidArgument "no such object")

/-- Take the events since they were taken last. -/
def takeEvents : ScriptM σ (List Event) := modifyGet World.takeEvents

/-! ## Objects and their links -/

/-- Make a call on the link of a handle. -/
def onHandle {α : Type} (link : Nat) (call : LinkM (Journaled σ) α) : ScriptM σ (Except Error α) :=
  modifyGet fun w => w.withLink link call

/-- Make a call by an object. -/
def onObject {ω α : Type} (shelf : Shelf σ ω) (name : String) (call : ObjectM ω (Journaled σ) α) :
    ScriptM σ (Except Error α) := do
  match Entries.find? name (shelf.entries (← get)) with
  | none => return missing
  | some held =>
    let (result, object) ← modifyGet fun w => w.withLink held.link (call held.object)
    modify fun w => shelf.replace (Entries.insert name ⟨held.link, object⟩ (shelf.entries w)) w
    return result

/-- A call by the session of a database. -/
def bySession {α : Type} (call : SessionM (Journaled σ) α) :
    ObjectM DatabaseObject (Journaled σ) α := fun database link =>
  let ((result, session), link) := call database.session link
  ((result, { database with session }), link)

/-- Make a call by a cursor. -/
def onCursor {α : Type} (name : String) (call : CursorM (Journaled σ) α) :
    ScriptM σ (Except Error α) :=
  onObject Shelf.cursors name call

/-- Make a call by a session. -/
def onSession {α : Type} (name : String) (call : SessionM (Journaled σ) α) :
    ScriptM σ (Except Error α) :=
  onObject Shelf.sessions name call

/-- Make a call by the session of a database. -/
def onDatabase {α : Type} (name : String) (call : SessionM (Journaled σ) α) :
    ScriptM σ (Except Error α) :=
  onObject Shelf.databases name (bySession call)

/-! ## Steps of a client -/

/-- Whether an errand of another thread has to wait. -/
def Errand.mustWait (h : Handle) : Errand → Bool
  | .call service method _ => h.mustWait service method
  | .close => 0 < h.holds
  | .beginCommit => 0 < h.holds

/-- Run an errand. -/
def runErrand (link : Nat) : Errand → ScriptM σ (Except Error (Option Bytes))
  | .call service method payload => do
    return (← onHandle link (Link.invoke service method payload)).map some
  | .close => do
    modify fun w => (w.withLink link fun l => ((), l.close)).2
    return .ok none
  | .beginCommit =>
    onHandle link do
      Link.beginTransaction
      Link.finishTransaction .commit
      return none

/-- Run the errand that waits longest, and let it go. -/
def runFirst (held : Held Errand) : ScriptM σ (Except Error (Option Bytes)) := do
  let outcome ← runErrand held.link held.object
  modify fun w => { w with waiting := w.waiting.drop 1 }.release held.link
  return outcome

/-- Run the errands that wait, in the order they came. -/
def runWaiting : ScriptM σ (List (Except Error (Option Bytes))) := do
  (← get).waiting.mapM runFirst

/-- Add a new handle and a client of it. -/
def addClient (name : String) (recentPages : Nat)
    (opening : Bootstrap (Journaled σ) → Except Error Handle × Bootstrap (Journaled σ)) :
    ScriptM σ (Except Error Result) := do
  let w ← get
  let (opened, boot) := opening w.boot
  match opened with
  | .error fault =>
    set { w with boot }
    return .error fault
  | .ok handle =>
    set (Shelf.clients.put name ⟨w.handles.length, recentPages⟩
      { w with boot, handles := w.handles ++ [handle] })
    return .ok .nothing

/-- The text of a client. -/
def clientText (handle : Handle) (recentPages : Nat) : String :=
  "Backend \x7b handle: " ++ handle.text ++ ", recent_pages: " ++ toString recentPages ++ " \x7d"

/-- A step of a client that belongs to a handle. -/
def runClient (name : String) (held : Held Nat) : ClientStep → ScriptM σ (Except Error Result)
  | .copy target recentPages => do
    modify (Shelf.clients.put target ⟨held.link, recentPages.getD held.object⟩)
    return .ok .nothing
  | .drop => do
    modify (Shelf.clients.drop name)
    return .ok .nothing
  | .close => do
    let _ ← runErrand held.link .close
    return .ok .nothing
  | .state => do
    let handle := (← get).handle held.link
    return .ok (.handle handle held.object (clientText handle held.object))
  | .openCollection path => onHandle held.link do
    Link.openCollection path
    return .nothing
  | .closeCollection => onHandle held.link do
    Link.closeCollection
    return .nothing
  | .fullQuery sql args => onHandle held.link do return .rows (← Link.fullQuery sql args)
  | .firstRow sql args => onHandle held.link do return .row (← Link.firstRow sql args)
  | .execute sql args => onHandle held.link do return .integer (← Link.execute sql args).toInt
  | .insert sql args => onHandle held.link do return .integer (← Link.insert sql args).toInt
  | .columnNames sql => onHandle held.link do return .texts (← Link.columnNames sql)
  | .firstPage sql args => onHandle held.link do return .page (← Link.firstPage sql args)
  | .nextPage sequence start => onHandle held.link do return .page (← Link.nextPage sequence start)
  | .cancelQuery sequence => onHandle held.link do
    Link.cancelQuery sequence
    return .nothing
  | .cancelAll => onHandle held.link do
    Link.cancelAll
    return .nothing
  | .setPageSize bytes => onHandle held.link do
    Link.setPageSize bytes
    return .nothing
  | .translate moduleIndex messageIndex args => onHandle held.link do
    return .text (some (← Link.translate moduleIndex messageIndex args))
  | .progress => onHandle held.link do return .progress (← Link.progress)
  | .abort => onHandle held.link do
    Link.abort
    return .nothing
  | .call service method payload => onHandle held.link do
    return .bytes (some (← Link.invoke service method payload))
  | .begin guard => do
    match ← onHandle held.link Link.beginTransaction with
    | .error fault => return .error fault
    | .ok () =>
      modify (Shelf.guards.put guard ⟨held.link, ()⟩)
      return .ok .nothing
  | .newSession session => do
    modify (Shelf.sessions.put session ⟨held.link, Session.empty⟩)
    return .ok .nothing
  | .newDatabase database => do
    modify (Shelf.databases.put database ⟨held.link, ⟨held.object, Session.empty⟩⟩)
    return .ok .nothing
  | .newCursor cursor sql args => do
    match ← onHandle held.link (Cursor.openQuery sql args held.object) with
    | .error fault => return .error fault
    | .ok c =>
      modify (Shelf.cursors.put cursor ⟨held.link, c⟩)
      return .ok .nothing
  | .contend errand => do
    if errand.mustWait ((← get).handle held.link) then
      modify fun w => { w with waiting := w.waiting ++ [⟨held.link, errand⟩] }
      return .ok (.errand none)
    else return .ok (.errand (some (← runErrand held.link errand)))
  | .interruptedQuery sql => do
    let result ← onHandle held.link do return .rows (← Link.fullQuery sql [])
    let _ ← takeEvents
    return result

/-! ## Steps of guards, sessions and cursors -/

/-- A step of a guard that belongs to a handle. -/
def runGuard (name : String) (held : Held Unit) : GuardStep → ScriptM σ (Except Error Result)
  | .commit => finish .commit
  | .rollback => finish .rollback
  | .drop => do
    modify (Shelf.guards.drop name)
    return .ok .nothing
  | .text => do
    let handle := (← get).handle held.link
    return .ok (.text (some
      ("TransactionGuard \x7b handle: " ++ toString handle.raw.toInt ++ ", active: true \x7d")))
where
  /-- End the transaction and let the guard go. -/
  finish (kind : Message.RequestKind) : ScriptM σ (Except Error Result) := do
    modify fun w => { w with guards := World.without name w.guards }
    let result ← onHandle held.link (Link.finishTransaction kind)
    modify fun w => w.release held.link
    return result.map fun _ => .nothing

/-- A step of a session. -/
def runSession (name : String) : SessionStep → ScriptM σ (Except Error Result)
  | .begin => onSession name do
    Session.begin
    return .nothing
  | .mark => onSession name do
    Session.mark
    return .nothing
  | .finish => onSession name do
    Session.finish
    return .nothing
  | .drop => do
    modify (Shelf.sessions.drop name)
    return .ok .nothing
  | .state => onSession name do return .session (← getThe Session)

/-- A column of a cursor in a reading. -/
def readColumn (c : Cursor) (column : Nat) : Reading → Except Error Result
  | .value => (c.read column).map .value
  | .type => (c.read column).map fun v => .text (some v.columnType)
  | .null => (c.read column).map fun v => .bool v.isNull
  | .integer => (c.readInteger column).map fun i => .integer i.toInt
  | .int32 => (c.readInt32 column).map fun i => .integer i.toInt
  | .int16 => (c.readInt16 column).map fun i => .integer i.toInt
  | .real => (c.readReal column).map .real
  | .single => (c.readSingle column).map .single
  | .text => (c.readText column).map .text
  | .blob => (c.readBlob column).map .bytes

/-- A column of a cursor in every reading. -/
def readAll (c : Cursor) (column : Nat) : Readings :=
  { value := c.read column
    type := (c.read column).map Value.columnType
    null := (c.read column).map Value.isNull
    integer := c.readInteger column
    int32 := c.readInt32 column
    int16 := c.readInt16 column
    real := c.readReal column
    single := c.readSingle column
    text := c.readText column
    blob := c.readBlob column }

/-- The values of the first column at the positions that a repeated move comes to, until
it fails to move.  The fuel bounds the number of moves. -/
def scan (move : CursorM (Journaled σ) Bool) : (fuel : Nat) → CursorM (Journaled σ) (List Value)
  | 0 => return []
  | fuel + 1 => do
    if ← move then
      match (← getThe Cursor).read 0 with
      | .ok value => return value :: (← scan move fuel)
      | .error fault => throw fault
    else return []

/-- A step of a cursor. -/
def runCursor (name : String) : CursorStep → ScriptM σ (Except Error Result)
  | .moveTo position => onCursor name do return .bool (← Cursor.moveTo position.toInt)
  | .moveBy offset => onCursor name do return .bool (← Cursor.moveBy offset.toInt)
  | .first => onCursor name do return .bool (← Cursor.moveToFirst)
  | .last => onCursor name do return .bool (← Cursor.moveToLast)
  | .next => onCursor name do return .bool (← Cursor.moveToNext)
  | .previous => onCursor name do return .bool (← Cursor.moveToPrevious)
  | .state => onCursor name do return .cursor (← getThe Cursor)
  | .names => onCursor name do return .texts (← Cursor.columnNames)
  | .columnCount => onCursor name do return .integer (← Cursor.columnNames).length
  | .columnIndex? column => onCursor name do return .index (← Cursor.columnIndex? column)
  | .columnIndex column => onCursor name do return .integer (← Cursor.columnIndex column)
  | .columnName column => onCursor name do return .text (some (← Cursor.columnName column))
  | .get column reading => onCursor name do
    match readColumn (← getThe Cursor) column reading with
    | .ok result => return result
    | .error fault => throw fault
  | .row column => onCursor name do return .readings (readAll (← getThe Cursor) column)
  | .scan forward => onCursor name do
    let c ← getThe Cursor
    let move := if forward then Cursor.moveToNext else Cursor.moveToPrevious
    return .values (← scan move (c.total.toInt.toNat + c.position.toNat + 2))
  | .close => onCursor name do
    Cursor.close
    return .nothing
  | .drop => do
    modify (Shelf.cursors.drop name)
    return .ok .nothing

/-! ## Steps of databases and statements -/

/-- A step of a database that belongs to a handle. -/
def runDatabase (name : String) (held : Held DatabaseObject) :
    DatabaseStep → ScriptM σ (Except Error Result)
  | .drop => do
    modify (Shelf.databases.drop name)
    return .ok .nothing
  | .query cursor sql args => do
    match ← onHandle held.link (Database.query sql args held.object.recentPages) with
    | .error fault => return .error fault
    | .ok c =>
      modify (Shelf.cursors.put cursor ⟨held.link, c⟩)
      return .ok .nothing
  | .exec sql args => onHandle held.link do
    Database.exec sql args
    return .nothing
  | .execute sql args => onHandle held.link do return .integer (← Database.execute sql args).toInt
  | .insertForId sql args => onHandle held.link do
    return .integer (← Database.insertForId sql args).toInt
  | .fullQuery sql args => onHandle held.link do return .rows (← Database.fullQuery sql args)
  | .setPageSize bytes => onHandle held.link do
    Link.setPageSize bytes
    return .nothing
  | .insert table conflict values => onHandle held.link do
    return .integer (← Database.insert table conflict values).toInt
  | .update table conflict values condition args => onHandle held.link do
    return .integer (← Database.update table conflict values condition args).toInt
  | .delete table condition args => onHandle held.link do
    return .integer (← Database.delete table condition args).toInt
  | .integrity => onHandle held.link do return .bool (← Database.integrityOk)
  | .begin => onDatabase name do
    Session.begin
    return .nothing
  | .mark => onDatabase name do
    Session.mark
    return .nothing
  | .finish => onDatabase name do
    Session.finish
    return .nothing
  | .state => onDatabase name do return .depth (← getThe Session)

/-- A step of a statement, which may change its bindings. -/
def runStatementStep (held : Held DatabaseObject) (s : Statement) :
    StatementStep → ScriptM σ (Except Error Result × Statement)
  | .bind index value =>
    match s.bind index value with
    | .ok bound => return (.ok .nothing, bound)
    | .error fault => return (.error fault, s)
  | .clear => return (.ok .nothing, s.clear)
  | .execute => do
    let result ← onHandle held.link do
      s.execute
      return .nothing
    return (result, s)
  | .executeInsert => do
    return (← onHandle held.link do return .integer (← s.executeInsert).toInt, s)
  | .executeUpdate => do
    return (← onHandle held.link do return .integer (← s.executeUpdate).toInt, s)
  | .firstInteger => do
    return (← onHandle held.link do
      return .integer (← s.firstInteger held.object.recentPages).toInt, s)
  | .firstText => do
    return (← onHandle held.link do return .text (← s.firstText held.object.recentPages), s)

/-- The steps of a statement, each answered. -/
def runStatement (held : Held DatabaseObject) :
    Statement → List StatementStep → ScriptM σ (List Answer)
  | _, [] => return []
  | s, step :: rest => do
    let (result, after) ← runStatementStep held s step
    let events ← takeEvents
    return .plain result events :: (← runStatement held after rest)

/-! ## Scripts -/

/-- What a block has to tell about its body: the events of its beginning, once the body
runs, and the answers so far, latest first. -/
structure BlockLog where
  begun : Option (List Event)
  answers : List Answer

/-- A computation inside a block. -/
abbrev BlockM (σ α : Type) := StateT BlockLog (ScriptM σ) α

/-- A computation on the world inside a block. -/
def inBlock {α : Type} (act : ScriptM σ α) : BlockM σ α := StateT.lift act

/-- An answer of a step that has only a result. -/
def answered (step : ScriptM σ (Except Error Result)) : ScriptM σ Answer := do
  let result ← step
  return .plain result (← takeEvents)

/-- Ask the engine directly. -/
def askEngine (call : Journaled σ → Option Reply × Journaled σ) :
    ScriptM σ (Except Error Result) := do
  let w ← get
  let (reply, engine) := call w.boot.engine
  set { w with boot := { w.boot with engine } }
  match Outcome.ofReply reply with
  | .ok outcome => return .ok (.outcome outcome)
  | .error fault => return .error (.malformed fault)

/-- Change the engine directly. -/
def changeEngine (change : Journaled σ → Journaled σ) : ScriptM σ (Except Error Result) := do
  modify fun w => { w with boot := { w.boot with engine := change w.boot.engine } }
  return .ok .nothing

/-- Do the body of a block, whose log begins with it. -/
def runBody {α : Type} (body : BlockM σ α) : BlockM σ α := do
  let begun ← inBlock takeEvents
  set (BlockLog.mk (some begun) [])
  body

/-- Do a block: a body in a transaction of a database. -/
def runTransaction (name : String) (body : BlockM σ (Except Error Unit)) : ScriptM σ Answer := do
  let (result, log) ← (Session.within (inBlock (onDatabase name Session.begin))
    (inBlock (onDatabase name Session.mark)) (inBlock (onDatabase name Session.finish))
    (runBody body)).run ⟨none, []⟩
  return .mk (result.map fun _ => .text (some "done")) (← takeEvents) none
    (some log.answers.reverse) (some log.begun)

mutual

/-- Do a step and answer it.  Inside a block all databases are the block's own. -/
def runStep (own : Option String) : Step → ScriptM σ Answer
  | .ensureSetUp => answered do
    let w ← get
    let (result, boot) := w.boot.ensureSetUp
    set { w with boot }
    return result.map fun _ => .nothing
  | .openClient client languages => answered (addClient client 0 (·.openHandle languages))
  | .openWith client settings =>
    answered (addClient client settings.recentPages.toNat (·.openWith settings))
  | .instanceCount => answered do
    return .ok (.integer (Hosted.instanceCount (← get).boot.engine))
  | .engineOpen init => answered (askEngine (Engine.openInstance init))
  | .engineRun handle service method payload =>
    answered (askEngine (Engine.run handle service method payload))
  | .engineClose handle => answered (changeEngine (Engine.closeInstance handle))
  | .writeFile name content => answered (changeEngine (Hosted.writeFile name content))
  | .client name step => answered do
    match Entries.find? name (← get).clients with
    | some held => runClient name held step
    | none => return missing
  | .guard name step => answered do
    match Entries.find? name (← get).guards with
    | some held => runGuard name held step
    | none => return missing
  | .session name step => answered (runSession name step)
  | .cursor name step => answered (runCursor name step)
  | .database name step => answered do
    let name := own.getD name
    match Entries.find? name (← get).databases with
    | some held => runDatabase name held step
    | none => return missing
  | .statement database sql steps => do
    match Entries.find? (own.getD database) (← get).databases with
    | some held =>
      let answers ← runStatement held (Statement.create sql) steps
      return .mk (.ok (.text (some sql))) (← takeEvents) none (some answers) none
    | none => return .plain missing []
  | .block database steps =>
    runTransaction (own.getD database) (runBlock (own.getD database) steps)
  | .raise => answered do return .error (.invalidArgument "raised")
  | .catching step => runStep own step
  | .joining step => do
    let answer ← runStep own step
    let joined ← runWaiting
    return answer.join joined (← takeEvents)

/-- Do the steps of a block until one fails that is not caught. -/
def runBlock (name : String) : List Step → BlockM σ (Except Error Unit)
  | [] => return .ok ()
  | step :: rest => do
    let answer ← inBlock (runStep (some name) step)
    modify fun log => { log with answers := answer :: log.answers }
    match answer.result, step with
    | .ok _, _ => runBlock name rest
    | .error _, .catching _ => runBlock name rest
    | .error fault, _ => return .error fault

end

/-- Do a script: the answers of its steps and the events of letting all objects go. -/
def run (engine : σ) (steps : List Step) : List Answer × List Event :=
  let (answers, w) := (steps.mapM (runStep none)).run (World.start engine)
  (answers, w.dropAll.takeEvents.1)

end Script
end EngineLink
