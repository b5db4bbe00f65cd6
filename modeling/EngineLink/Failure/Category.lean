import EngineLink.Message.Basic
import EngineLink.Text.Search

/-!
# Categories of engine failures

An engine reports a failure as a number and a message.  Most numbers name one
category.  A database failure is split further by what its message says about its
kind, and two messages of invalid input have categories of their own.
-/

namespace EngineLink

/-- The failure numbers an engine uses. -/
inductive FailureCode where
  | invalidInput
  | templateParse
  | database
  | io
  | network
  | syncAuth
  | syncOther
  | syncServerMessage
  | json
  | proto
  | interrupted
  | notFound
  | exists
  | filteredDeck
  | search
  | deleted
  | os
  | panic
  deriving DecidableEq

namespace FailureCode

/-- All failure codes in the order of their numbers. -/
def all : List FailureCode :=
  [invalidInput, templateParse, database, io, network, syncAuth, syncOther, syncServerMessage, json,
    proto, interrupted, notFound, «exists», filteredDeck, search, deleted, os, panic]

/-- The number of a failure code. -/
def number : FailureCode → Int32
  | .invalidInput => 0
  | .templateParse => 1
  | .database => 2
  | .io => 3
  | .network => 4
  | .syncAuth => 5
  | .syncOther => 6
  | .syncServerMessage => 7
  | .json => 8
  | .proto => 9
  | .interrupted => 10
  | .notFound => 11
  | .exists => 12
  | .filteredDeck => 13
  | .search => 14
  | .deleted => 15
  | .os => 16
  | .panic => 17

/-- The failure code with a number. -/
def ofNumber? (n : Int32) : Option FailureCode := all.find? fun code => code.number = n

end FailureCode

/-- What kind of failure a client sees. -/
inductive Category where
  | invalidInput
  | templateError
  | dbFileTooNew
  | dbFileTooOld
  | dbMissingEntity
  | dbLocked
  | dbCorrupt
  | dbOther
  | io
  | network
  | syncAuthFailed
  | syncOther
  | syncServerMessage
  | json
  | proto
  | interrupted
  | collectionNotOpen
  | collectionAlreadyOpen
  | notFound
  | existing
  | filteredDeck
  | search
  | deleted
  | osError
  | unrecognized
  | fatal
  deriving DecidableEq

namespace Category

/-- The name of a category. -/
def name : Category → String
  | .invalidInput => "invalid_input"
  | .templateError => "template_error"
  | .dbFileTooNew => "db_file_too_new"
  | .dbFileTooOld => "db_file_too_old"
  | .dbMissingEntity => "db_missing_entity"
  | .dbLocked => "db_locked"
  | .dbCorrupt => "db_corrupt"
  | .dbOther => "db_other"
  | .io => "io"
  | .network => "network"
  | .syncAuthFailed => "sync_auth_failed"
  | .syncOther => "sync_other"
  | .syncServerMessage => "sync_server_message"
  | .json => "json"
  | .proto => "proto"
  | .interrupted => "interrupted"
  | .collectionNotOpen => "collection_not_open"
  | .collectionAlreadyOpen => "collection_already_open"
  | .notFound => "not_found"
  | .existing => "existing"
  | .filteredDeck => "filtered_deck"
  | .search => "search"
  | .deleted => "deleted"
  | .osError => "os_error"
  | .unrecognized => "unrecognized"
  | .fatal => "fatal"

/-- Failures of the database behind the engine. -/
def isDatabase : Category → Bool
  | .dbFileTooNew | .dbFileTooOld | .dbMissingEntity | .dbLocked | .dbCorrupt | .dbOther => true
  | _ => false

/-- Failures of synchronisation. -/
def isSync : Category → Bool
  | .syncAuthFailed | .syncOther | .syncServerMessage => true
  | _ => false

/-- Refused input, with the two states of a collection that refuse it. -/
def isInvalidInput : Category → Bool
  | .invalidInput | .collectionNotOpen | .collectionAlreadyOpen => true
  | _ => false

/-- The failure after which an instance cannot be used. -/
def isFatal : Category → Bool
  | .fatal => true
  | _ => false

/-- What a message says about the kind of a database failure: the first of these
signs that it bears. -/
def databaseSigns : List ((String → Bool) × Category) :=
  [(fun m => Text.contains m "kind: FileTooNew", .dbFileTooNew),
    (fun m => Text.contains m "kind: FileTooOld", .dbFileTooOld),
    (fun m => Text.contains m "kind: MissingEntity", .dbMissingEntity),
    (fun m => Text.contains m "kind: Locked", .dbLocked),
    (fun m => Text.beginsWith m "Collection already open", .dbLocked),
    (fun m => Text.contains m "kind: Corrupt", .dbCorrupt),
    (fun m => Text.contains m "DatabaseCorrupt", .dbCorrupt),
    (fun m => Text.contains m "kind: Other", .dbOther)]

/-- The category of a database failure. -/
def ofDatabaseMessage (message : String) : Category :=
  match databaseSigns.find? fun sign => sign.1 message with
  | some sign => sign.2
  | none => .dbOther

/-- The category of refused input. -/
def ofInvalidInputMessage (message : String) : Category :=
  if message = "CollectionAlreadyOpen" then .collectionAlreadyOpen
  else if message = "CollectionNotOpen" then .collectionNotOpen
  else .invalidInput

/-- The category of a failure code with a message. -/
def ofCode (message : String) : FailureCode → Category
  | .invalidInput => ofInvalidInputMessage message
  | .templateParse => .templateError
  | .database => ofDatabaseMessage message
  | .io => .io
  | .network => .network
  | .syncAuth => .syncAuthFailed
  | .syncOther => .syncOther
  | .syncServerMessage => .syncServerMessage
  | .json => .json
  | .proto => .proto
  | .interrupted => .interrupted
  | .notFound => .notFound
  | .exists => .existing
  | .filteredDeck => .filteredDeck
  | .search => .search
  | .deleted => .deleted
  | .os => .osError
  | .panic => .fatal

end Category

/-- The category of an envelope. -/
def classify (envelope : Message.Envelope) : Category :=
  match FailureCode.ofNumber? envelope.kind with
  | some code => Category.ofCode envelope.message code
  | none => .unrecognized

/-- A failure reported by an engine, with its category. -/
structure Failure where
  category : Category
  code : Int32
  message : String
  help : Option String
  deriving DecidableEq

namespace Failure

/-- The failure in an envelope. -/
def ofEnvelope (envelope : Message.Envelope) : Failure :=
  { category := classify envelope, code := envelope.kind, message := envelope.message,
    help := envelope.help }

/-- A fatal failure noticed by the client itself. -/
def fatal (message : String) : Failure := ⟨.fatal, -1, message, none⟩

end Failure
end EngineLink
