import EngineLink.Engine.Method
import EngineLink.Failure.Error

/-!
# Engines

An engine is a state machine behind a boundary of bytes: it is set up once, it opens
and closes instances, and it runs methods of an instance.  A call answers with
nothing at all or with a reply, which should have a success side or a failure side.
-/

namespace EngineLink

/-- What came back from an engine. -/
structure Reply where
  ok : Option Bytes
  err : Option Bytes
  deriving DecidableEq

namespace Reply

/-- A reply of success. -/
def success (bytes : Bytes) : Reply := ⟨some bytes, none⟩

/-- A reply of failure.  An envelope that is too large to be written leaves nothing. -/
def failure (envelope : Message.Envelope) : Reply := ⟨none, (encode envelope).toOption⟩

end Reply

/-- A well-formed reply. -/
inductive Outcome where
  | success (bytes : Bytes)
  | failure (envelope : Message.Envelope)
  deriving DecidableEq

namespace Outcome

/-- The outcome in what came back: exactly one side must be there, and the failure
side must hold an envelope. -/
def ofReply : Option Reply → Except MalformedReply Outcome
  | none => .error .missing
  | some ⟨some bytes, none⟩ => .ok (.success bytes)
  | some ⟨none, some bytes⟩ =>
    match (decode? bytes : Option Message.Envelope) with
    | some envelope => .ok (.failure envelope)
    | none => .error .undecodableEnvelope
  | some ⟨some _, some _⟩ => .error .bothSides
  | some ⟨none, none⟩ => .error .neitherSide

end Outcome

/-- Types whose values are states of an engine. -/
class Engine (σ : Type) where
  /-- One-time setup, which may fail with a text. -/
  setUp : σ → Except String Unit × σ
  /-- Open an instance from an encoded {lit}`Message.Init`; the success side holds an
  encoded {lit}`Message.IntegerValue` with its handle. -/
  openInstance : (init : Bytes) → σ → Option Reply × σ
  /-- Close an instance. -/
  closeInstance : (handle : Int64) → σ → σ
  /-- Run a method of an instance. -/
  run : (handle : Int64) → (service method : UInt32) → (payload : Bytes) → σ → Option Reply × σ

end EngineLink
