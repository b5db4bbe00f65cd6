import EngineLink.Failure.Category
import EngineLink.Text.Printable

/-!
# Faults of statements

Why the database behind the reference engine refuses a statement, and the envelope in
which the engine reports it.  The envelope's message shows the fault in full and its
kind, which is where a client finds it again.
-/

namespace EngineLink
namespace Reference

/-- Result codes of the database. -/
inductive ResultCode where
  | internal
  | permissionDenied
  | aborted
  | busy
  | locked
  | outOfMemory
  | readOnly
  | interrupted
  | systemIo
  | corrupt
  | notFound
  | full
  | cannotOpen
  | lockProtocol
  | schemaChanged
  | tooBig
  | constraint
  | typeMismatch
  | misuse
  | noLargeFiles
  | denied
  | outOfRange
  | notADatabase
  | unknown
  deriving DecidableEq

namespace ResultCode

/-- The name of a result code. -/
def name : ResultCode → String
  | .internal => "InternalMalfunction"
  | .permissionDenied => "PermissionDenied"
  | .aborted => "OperationAborted"
  | .busy => "DatabaseBusy"
  | .locked => "DatabaseLocked"
  | .outOfMemory => "OutOfMemory"
  | .readOnly => "ReadOnly"
  | .interrupted => "OperationInterrupted"
  | .systemIo => "SystemIoFailure"
  | .corrupt => "DatabaseCorrupt"
  | .notFound => "NotFound"
  | .full => "DiskFull"
  | .cannotOpen => "CannotOpen"
  | .lockProtocol => "FileLockingProtocolFailed"
  | .schemaChanged => "SchemaChanged"
  | .tooBig => "TooBig"
  | .constraint => "ConstraintViolation"
  | .typeMismatch => "TypeMismatch"
  | .misuse => "ApiMisuse"
  | .noLargeFiles => "NoLargeFileSupport"
  | .denied => "AuthorizationForStatementDenied"
  | .outOfRange => "ParameterOutOfRange"
  | .notADatabase => "NotADatabase"
  | .unknown => "Unknown"

end ResultCode

/-- Why a statement is refused.  A fault of the statement's text is told with the text
and the byte at which it shows. -/
inductive Fault where
  | failure (code : ResultCode) (extended : Nat) (detail : String)
  | input (detail sql : String) (offset : Nat)
  | argumentCount (given expected : Nat)
  | returnedRows
  /-- Any other fault, known by its text. -/
  | other (text : String)
  deriving DecidableEq

namespace Fault

/-- A fault without a code of its own. -/
def plain (detail : String) : Fault := .failure .unknown 1 detail

/-- A table that does not exist. -/
def noTable (name : String) : Fault := plain ("no such table: " ++ name)

/-- Another connection has written and not committed. -/
def locked : Fault := .failure .busy 5 "database is locked"

/-- A file that cannot be opened. -/
def notOpened : Fault := .failure .cannotOpen 14 "unable to open database file"

/-- A path at which no database can be opened. -/
def unreachable (path : String) : Fault :=
  .failure .cannotOpen 14 ("unable to open database file: " ++ path)

/-- A change through a connection that may only read. -/
def readOnly : Fault := .failure .readOnly 8 "attempt to write a readonly database"

/-- A file that is no database. -/
def notADatabase : Fault := .failure .notADatabase 26 "file is not a database"

/-- A statement that was stopped. -/
def interrupted : Fault := .failure .interrupted 9 "interrupted"

/-- The fault as it is told when it shows only while the statement runs: without its place
in the text. -/
def withoutPlace : Fault → Fault
  | .input detail _ _ => plain detail
  | fault => fault

/-- The fault of a statement that failed and whose changes so far could not be kept
because of another connection.  Its detail stays. -/
def unkept : Fault → Fault
  | .failure _ _ detail => .failure .busy 5 detail
  | fault => fault

/-- A hexadecimal number without leading zeros. -/
def hexText (n : Nat) : List Char := Nat.toDigits 16 n

/-- A character inside a quoted text.  One that cannot be shown is written by its number. -/
def escaped (c : Char) : List Char :=
  if c = '"' then ['\\', '"']
  else if c = '\\' then ['\\', '\\']
  else if c = '\n' then ['\\', 'n']
  else if c = '\r' then ['\\', 'r']
  else if c = '\t' then ['\\', 't']
  else if c = '\x00' then ['\\', '0']
  else if !Text.isPrintable c then
    '\\' :: 'u' :: '\x7b' :: (hexText c.toNat ++ ['\x7d'])
  else [c]

/-- A text between quotes. -/
def quoted (s : String) : String := String.ofList ('"' :: (s.toList.flatMap escaped ++ ['"']))

/-- The text of a result code with its extended number. -/
def codeText (code : ResultCode) (extended : Nat) : String :=
  "Error \x7b code: " ++ code.name ++ ", extended_code: " ++ toString extended ++ " \x7d"

/-- The fault in full. -/
def text : Fault → String
  | .failure code extended detail =>
    "SqliteFailure(" ++ codeText code extended ++ ", Some(" ++ quoted detail ++ "))"
  | .input detail sql offset =>
    "SqlInputError \x7b error: " ++ codeText .unknown 1 ++ ", msg: " ++ quoted detail ++
      ", sql: " ++ quoted sql ++ ", offset: " ++ toString offset ++ " \x7d"
  | .argumentCount given expected =>
    "InvalidParameterCount(" ++ toString given ++ ", " ++ toString expected ++ ")"
  | .returnedRows => "ExecuteReturnedResults"
  | .other text => text

/-- The result code of a fault with what the database says to it, where it has one. -/
def failure? : Fault → Option (ResultCode × String)
  | .failure code _ detail => some (code, detail)
  | _ => none

/-- The name of the kind of a fault, by its result code. -/
def kindName : Option ResultCode → String
  | some .busy => "Locked"
  | some .locked => "Locked"
  | some .corrupt => "Corrupt"
  | some .notADatabase => "Corrupt"
  | _ => "Other"

/-- An envelope with a failure code and a message. -/
def envelopeOf (code : FailureCode) (message : String) : Message.Envelope :=
  ⟨code.number, message, none⟩

/-- The message about a fault with its text in full and the name of its kind. -/
def messageOf (full kind : String) : String :=
  "DbError \x7b info: " ++ "\"" ++ full ++ "\"" ++ (", kind: " ++ kind ++ " \x7d")

/-- The envelope for a fault with a result code, if it has one, and its text in full. -/
def report (failure : Option (ResultCode × String)) (full : String) : Message.Envelope :=
  match failure with
  | some (.interrupted, detail) => envelopeOf .interrupted detail
  | _ => envelopeOf .database (messageOf full (kindName (failure.map Prod.fst)))

/-- The envelope in which a fault is reported. -/
def envelope (fault : Fault) : Message.Envelope := report fault.failure? fault.text

end Fault
end Reference
end EngineLink
