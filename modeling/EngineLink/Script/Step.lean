import EngineLink.Client.Database
import EngineLink.Settings.Basic

/-!
# Steps of a script

A script is a list of steps over named objects: clients of engine instances, cursors,
guards of transactions, sessions and databases.  Objects of one kind have names of
their own.
-/

namespace EngineLink
namespace Script

/-- What another thread can do with a client. -/
inductive Errand where
  | call (service method : UInt32) (payload : Bytes)
  | close
  | beginCommit

/-- What can be done with a client.  Steps that make an object name it. -/
inductive ClientStep where
  | copy (target : String) (recentPages : Option Nat)
  | drop
  | close
  | state
  | openCollection (path : String)
  | closeCollection
  | fullQuery (sql : String) (args : List Value)
  | firstRow (sql : String) (args : List Value)
  | execute (sql : String) (args : List Value)
  | insert (sql : String) (args : List Value)
  | columnNames (sql : String)
  | firstPage (sql : String) (args : List Value)
  | nextPage (sequence : Int32) (start : Int64)
  | cancelQuery (sequence : Int32)
  | cancelAll
  | setPageSize (bytes : UInt64)
  | translate (moduleIndex messageIndex : UInt32) (args : TextMap)
  | progress
  | abort
  | call (service method : UInt32) (payload : Bytes)
  | begin (guard : String)
  | newSession (session : String)
  | newDatabase (database : String)
  | newCursor (cursor : String) (sql : String) (args : List Value)
  | contend (errand : Errand)
  | interruptedQuery (sql : String)

/-- What can be done with a guard. -/
inductive GuardStep where
  | commit
  | rollback
  | drop
  | text

/-- What can be done with a session. -/
inductive SessionStep where
  | begin
  | mark
  | finish
  | drop
  | state

/-- How a column is read. -/
inductive Reading where
  | value
  | type
  | null
  | integer
  | int32
  | int16
  | real
  | single
  | text
  | blob

/-- What can be done with a cursor. -/
inductive CursorStep where
  | moveTo (position : Int64)
  | moveBy (offset : Int64)
  | first
  | last
  | next
  | previous
  | state
  | names
  | columnCount
  | columnIndex? (name : String)
  | columnIndex (name : String)
  | columnName (column : Nat)
  | get (column : Nat) (reading : Reading)
  | row (column : Nat)
  | scan (forward : Bool)
  | close
  | drop

/-- What can be done with a database. -/
inductive DatabaseStep where
  | drop
  | query (cursor : String) (sql : String) (args : List Value)
  | exec (sql : String) (args : List Value)
  | execute (sql : String) (args : List Value)
  | insertForId (sql : String) (args : List Value)
  | fullQuery (sql : String) (args : List Value)
  | setPageSize (bytes : UInt64)
  | insert (table : String) (conflict : Conflict) (values : List (String × Value))
  | update (table : String) (conflict : Conflict) (values : List (String × Value))
      (condition : Option String) (args : List Value)
  | delete (table : String) (condition : Option String) (args : List Value)
  | integrity
  | begin
  | mark
  | finish
  | state

/-- What can be done with a statement. -/
inductive StatementStep where
  | bind (index : Nat) (value : Value)
  | clear
  | execute
  | executeInsert
  | executeUpdate
  | firstInteger
  | firstText

/-- A step of a script. -/
inductive Step where
  | ensureSetUp
  | openClient (client : String) (languages : List String)
  | openWith (client : String) (settings : Settings)
  | instanceCount
  | engineOpen (init : Bytes)
  | engineRun (handle : Int64) (service method : UInt32) (payload : Bytes)
  | engineClose (handle : Int64)
  | writeFile (name : String) (content : Bytes)
  | client (name : String) (step : ClientStep)
  | guard (name : String) (step : GuardStep)
  | session (name : String) (step : SessionStep)
  | cursor (name : String) (step : CursorStep)
  | database (name : String) (step : DatabaseStep)
  | statement (database sql : String) (steps : List StatementStep)
  /-- A transaction of a database around some steps. -/
  | block (database : String) (steps : List Step)
  | raise
  /-- A step whose error does not end the block around it. -/
  | catching (step : Step)
  /-- A step after which all waiting errands are waited for. -/
  | joining (step : Step)
  deriving Inhabited

end Script
end EngineLink
