import EngineLink.Failure.Category
import EngineLink.Failure.SqlCause
import EngineLink.Message.Codec
import EngineLink.Value.Coercion

/-!
# Errors of the client

Every call of the client ends with a value or with one of these errors; their
wording is {lit}`Error.message`.
-/

namespace EngineLink

/-- A reply that no engine should give. -/
inductive MalformedReply where
  | missing
  | undecodableEnvelope
  | bothSides
  | neitherSide
  | nullHandle
  | rowNotOnPage (start : Int) (rows : Nat) (position : Int)
  deriving DecidableEq

namespace MalformedReply

/-- The text of a malformed reply. -/
def message : MalformedReply → String
  | .missing => "null return from backend method"
  | .undecodableEnvelope => "undecodable error envelope"
  | .bothSides => "both ok and err cases present"
  | .neitherSide => "both ok and err cases null"
  | .nullHandle => "engine returned a null handle"
  | .rowNotOnPage start rows position =>
    "page starting at " ++ toString start ++ " with " ++ toString rows ++
      " rows does not hold row " ++ toString position

end MalformedReply

/-- A step that the frames of a session do not allow. -/
inductive TransactionFault where
  | noTransaction
  | noGuard
  deriving DecidableEq

namespace TransactionFault

/-- The text of a transaction fault. -/
def message : TransactionFault → String
  | .noTransaction => "No active transaction"
  | .noGuard => "Session has frames but no open transaction"

end TransactionFault

/-- Why settings were refused. -/
inductive SettingsFault where
  | zeroPageSize
  | notText
  | malformed
  | illTyped
  deriving DecidableEq

namespace SettingsFault

/-- The text of a settings fault. -/
def message : SettingsFault → String
  | .zeroPageSize => "page_size_bytes must be greater than zero"
  | .notText => "the document is not text"
  | .malformed => "the document is malformed"
  | .illTyped => "a setting has the wrong type"

end SettingsFault

/-- An error of the client. -/
inductive Error where
  | engine (failure : Failure)
  | closed
  | malformed (reply : MalformedReply)
  | sequenceMismatch (expected actual : Int32)
  | codec (fault : CodecFault)
  | rowOutOfRange (index : Int) (size : Nat)
  | columnOutOfRange (index count : Nat)
  | columnNotFound (name : String)
  | coercion (fault : CoercionFault)
  | cursorClosed
  | transaction (fault : TransactionFault)
  | invalidArgument (detail : String)
  | noRows
  | sql (query : String) (cause : SqlCause) (failure : Failure)
  | setup (detail : String)
  | settings (fault : SettingsFault)
  deriving DecidableEq

namespace Error

/-- The text of an error. -/
def message : Error → String
  | .engine failure => failure.message
  | .closed => "Backend has been closed"
  | .malformed reply => "Malformed response: " ++ reply.message
  | .sequenceMismatch expected actual =>
    "Sequence mismatch: cursor reads query " ++ toString expected.toInt ++
      ", page belongs to query " ++ toString actual.toInt
  | .codec fault => "Codec error: " ++ fault.message
  | .rowOutOfRange index size =>
    "Index " ++ toString index ++ " requested, with a size of " ++ toString size
  | .columnOutOfRange index count =>
    "Column index " ++ toString index ++ " out of range, row has " ++ toString count ++ " columns"
  | .columnNotFound name => "Column '" ++ name ++ "' does not exist"
  | .coercion fault => fault.message
  | .cursorClosed => "Cursor is closed"
  | .transaction fault => "Transaction error: " ++ fault.message
  | .invalidArgument detail => "Invalid argument: " ++ detail
  | .noRows => "Query returned no rows"
  | .sql query _ failure => failure.message ++ " (query: " ++ query ++ ")"
  | .setup detail => "Bootstrap failed: " ++ detail
  | .settings fault => "Configuration error: " ++ fault.message

/-- The engine failure behind an error. -/
def failure? : Error → Option Failure
  | .engine failure => some failure
  | .sql _ _ failure => some failure
  | _ => none

/-- A database failure is given the statement that caused it; every other error
stays as it is. -/
def annotate (query : String) : Error → Error
  | .engine failure =>
    if failure.category.isDatabase then .sql query (SqlCause.ofMessage failure.message) failure
    else .engine failure
  | error => error

end Error
end EngineLink
