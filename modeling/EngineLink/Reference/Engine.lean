import EngineLink.Engine.Basic
import EngineLink.Reference.Instance

/-!
# The reference engine

Instances behind the boundary of bytes.  A request is read from its bytes, given to the
operation of its method, and the response is written as bytes again; whatever goes wrong
on the way is reported in an envelope.
-/

namespace EngineLink
namespace Reference

/-- The bytes of a response. -/
def respond {α : Type} [Wired α] (response : α) : InstanceM Bytes :=
  match encode response with
  | .ok bytes => return bytes
  | .error fault => throw (Fault.envelopeOf .proto (Error.message (.codec fault)))

/-- An operation from the bytes of its request. -/
def request {α β : Type} [Wired α] (input : Bytes) (operation : α → InstanceM β) : InstanceM β :=
  match decode input with
  | .ok message => operation message
  | .error fault => throw (Fault.envelopeOf .proto (Error.message (.codec fault)))

/-- An operation from the bytes of its request to those of its response. -/
def served {α β : Type} [Wired α] [Wired β] (operation : α → InstanceM β) (input : Bytes) :
    InstanceM Bytes := do
  respond (← request input operation)

/-- Run a method of the instance with the given handle.  The JSON text of a query is
sent as it is. -/
def dispatch (owner : Int64) (method : Method) (input : Bytes) : InstanceM Bytes :=
  match method with
  | .translate => served Instance.translate input
  | .progress => do respond (← Instance.progress)
  | .abort => served Instance.abort input
  | .openCollection => served (Instance.openCollection owner) input
  | .closeCollection => served (fun (_ : Message.Empty) => Instance.closeCollection) input
  | .query => do return Utf8.encode (← request input Instance.query).write
  | .pagedQuery => served Instance.pagedQuery input
  | .execute => served Instance.execute input
  | .insert => served Instance.insert input
  | .nextPage => served Instance.nextPage input
  | .flush => served Instance.flush input
  | .flushAll => served Instance.flushAll input
  | .setPageSize => served Instance.setPageSize input
  | .columnNames => served Instance.columnNames input

/-- The reply to a call. -/
def replyOf : Except Message.Envelope Bytes → Reply
  | .ok bytes => .success bytes
  | .error envelope => .failure envelope

/-- The reference engine: its instances by their handles, the next handle and the
databases. -/
structure World where
  instances : List (Int64 × Instance)
  next : Int64
  disk : Disk
  deriving DecidableEq

namespace World

/-- The engine before anything was opened. -/
def empty : World := ⟨[], 1, []⟩

/-- The instance with a handle. -/
def find? (w : World) (handle : Int64) : Option Instance :=
  (w.instances.find? fun entry => entry.1 = handle).map (·.2)

/-- Put an instance in the place of the one with its handle. -/
def replace (w : World) (handle : Int64) (i : Instance) (disk : Disk) : World :=
  { w with
    instances := w.instances.map fun entry => if entry.1 = handle then (handle, i) else entry
    disk }

/-- Open an instance. -/
def openInstance (init : Bytes) (w : World) : Option Reply × World :=
  match (decode init : Except CodecFault Message.Init) with
  | .error fault =>
    (some (.failure (Fault.envelopeOf .proto (Error.message (.codec fault)))), w)
  | .ok message =>
    (some (replyOf ((encode (Message.IntegerValue.mk w.next)).mapError fun fault =>
      Fault.envelopeOf .proto (Error.message (.codec fault)))),
      { w with
        instances := w.instances ++ [(w.next, Instance.create message.languages)]
        next := w.next + 1 })

/-- Close an instance. -/
def closeInstance (handle : Int64) (w : World) : World :=
  match w.find? handle with
  | none => w
  | some i =>
    { w with instances := w.instances.filter (·.1 ≠ handle), disk := i.disconnect w.disk }

/-- Run a method of an instance. -/
def run (handle : Int64) (service method : UInt32) (payload : Bytes) (w : World) :
    Option Reply × World :=
  match w.find? handle, Method.ofIds? service method with
  | none, _ =>
    (some (.failure (Fault.envelopeOf .invalidInput
      ("unknown backend handle " ++ toString handle.toInt))), w)
  | some _, none =>
    (some (.failure (Fault.envelopeOf .invalidInput
      ("unknown method " ++ toString service.toNat ++ "." ++ toString method.toNat))), w)
  | some i, some method =>
    let (result, i, disk) := dispatch handle method payload (i, w.disk)
    (some (replyOf result), w.replace handle i disk)

instance : Engine World where
  setUp w := (.ok (), w)
  openInstance := openInstance
  closeInstance := closeInstance
  run := run

end World
end Reference
end EngineLink
