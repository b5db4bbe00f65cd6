import EngineLink.Engine.Basic

/-!
# Links to an engine instance

A handle is the client's side of one engine instance.  It is closed once its number
is zero.  The first fatal failure poisons it, and after that nothing reaches the
engine.  It knows the sequence number of the paged query that is still live, and how
often the thread that owns its lock has taken it.

A link is a handle together with its engine.  Calls are computations on a link that
end with a value or an error; what they did to the link stays either way.

- {lit}`Link.invoke` is the one way to the engine.
- {lit}`Link.ask` sends a request message and reads the response message.
- {lit}`Link.close` gives the instance back.
-/

namespace EngineLink

/-- The client's side of one engine instance. -/
structure Handle where
  raw : Int64
  poison : Option String
  active : Option Int32
  holds : Nat
  deriving DecidableEq

namespace Handle

/-- The handle of a new instance. -/
def create (raw : Int64) : Handle := ⟨raw, none, none, 0⟩

/-- Whether the instance has not been given back. -/
def isOpen (h : Handle) : Bool := h.raw ≠ 0

/-- Whether a fatal failure has been seen. -/
def isPoisoned (h : Handle) : Bool := h.poison.isSome

/-- Whether a call by another thread than the owner of the lock has to wait. -/
def mustWait (h : Handle) (service method : UInt32) : Bool :=
  0 < h.holds && !Method.idsExempt service method

/-- The text of a handle. -/
def text (h : Handle) : String :=
  "BackendHandle \x7b raw: " ++ toString h.raw.toInt ++ ", poisoned: " ++ toString h.isPoisoned ++
    " \x7d"

end Handle

/-- A handle together with its engine. -/
structure Link (σ : Type) where
  handle : Handle
  engine : σ

/-- A call on a link. -/
abbrev LinkM (σ α : Type) := ExceptT Error (StateM (Link σ)) α

/-- A call on a link by an object with a state of its own, which stays after an error,
too. -/
abbrev ObjectM (ω σ α : Type) := ExceptT Error (StateT ω (StateM (Link σ))) α

/-- A call on the link by an object, which stays as it is. -/
def onLink {ω σ α : Type} (call : LinkM σ α) : ObjectM ω σ α := fun object link =>
  let (result, link) := call link
  ((result, object), link)

namespace Link

variable {σ : Type} [Engine σ]

/-- Run a method by its numbers.  A closed or poisoned handle refuses without asking
the engine, and a fatal failure poisons the handle. -/
def invoke (service method : UInt32) (payload : Bytes) : LinkM σ Bytes := fun link =>
  if link.handle.raw = 0 then (.error .closed, link)
  else
    match link.handle.poison with
    | some reason =>
      (.error (.engine (.fatal ("backend unusable after fatal error: " ++ reason))), link)
    | none =>
      let (reply, engine) := Engine.run link.handle.raw service method payload link.engine
      match Outcome.ofReply reply with
      | .ok (.success bytes) => (.ok bytes, { link with engine })
      | .ok (.failure envelope) =>
        let failure := Failure.ofEnvelope envelope
        let poison := if failure.category.isFatal then some failure.message else none
        (.error (.engine failure), ⟨{ link.handle with poison }, engine⟩)
      | .error fault => (.error (.malformed fault), { link with engine })

/-- Change the handle. -/
def setHandle (change : Handle → Handle) : LinkM σ Unit :=
  modify fun link => { link with handle := change link.handle }

/-- Send a request to a method and answer the bytes of success. -/
def send {α : Type} [Wired α] (method : Method) (request : α) : LinkM σ Bytes := do
  match encode request with
  | .ok payload => invoke method.ids.1 method.ids.2 payload
  | .error fault => throw (.codec fault)

/-- Send a request to a method and answer the response. -/
def ask {α β : Type} [Wired α] [Wired β] (method : Method) (request : α) : LinkM σ β := do
  match decode (← send method request) with
  | .ok response => return response
  | .error fault => throw (.codec fault)

/-- Send a request to a method that has nothing to say. -/
def tell {α : Type} [Wired α] (method : Method) (request : α) : LinkM σ Unit := do
  let _ : Message.Empty ← ask method request

/-- Give the instance back, once. -/
def close (link : Link σ) : Link σ :=
  if link.handle.raw = 0 then link
  else
    { handle := { link.handle with raw := 0, active := none }
      engine := Engine.closeInstance link.handle.raw link.engine }

end Link
end EngineLink
