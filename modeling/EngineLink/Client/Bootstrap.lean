import EngineLink.Client.Calls
import EngineLink.Settings.Basic

/-!
# Opening engine instances

An engine is set up before its first instance is opened.  The setup runs once and what
came of it is remembered, so a failed setup fails every later opening the same way.
-/

namespace EngineLink

/-- An engine and what came of its setup, if it has run. -/
structure Bootstrap (σ : Type) where
  outcome : Option (Except String Unit)
  engine : σ

namespace Bootstrap

variable {σ : Type} [Engine σ]

/-- An engine that is not set up yet. -/
def create (engine : σ) : Bootstrap σ := ⟨none, engine⟩

/-- An error of the setup. -/
def setUpResult : Except String Unit → Except Error Unit := Except.mapError Error.setup

/-- Set the engine up if that has not happened. -/
def ensureSetUp (b : Bootstrap σ) : Except Error Unit × Bootstrap σ :=
  match b.outcome with
  | some outcome => (setUpResult outcome, b)
  | none =>
    let (outcome, engine) := Engine.setUp b.engine
    (setUpResult outcome, ⟨some outcome, engine⟩)

/-- The handle in what came back from opening an instance.  A failure is fatal, and
zero is no handle. -/
def handleOf (reply : Option Reply) : Except Error Handle :=
  match Outcome.ofReply reply with
  | .error fault => .error (.malformed fault)
  | .ok (.failure envelope) => .error (.engine (.fatal envelope.message))
  | .ok (.success bytes) =>
    match (decode bytes : Except CodecFault Message.IntegerValue) with
    | .error fault => .error (.codec fault)
    | .ok ⟨raw⟩ => if raw = 0 then .error (.malformed .nullHandle) else .ok (Handle.create raw)

/-- Open an instance that prefers the given languages. -/
def openHandle (languages : List String) (b : Bootstrap σ) : Except Error Handle × Bootstrap σ :=
  match b.ensureSetUp with
  | (.error fault, b) => (.error fault, b)
  | (.ok (), b) =>
    match encode (Message.Init.mk languages) with
    | .error fault => (.error (.codec fault), b)
    | .ok init =>
      let (reply, engine) := Engine.openInstance init b.engine
      (handleOf reply, { b with engine })

/-- Open an instance with settings.  If the page size is refused the instance is given
back. -/
def openWith (settings : Settings) (b : Bootstrap σ) : Except Error Handle × Bootstrap σ :=
  match settings.validate with
  | .error fault => (.error (.settings fault), b)
  | .ok () =>
    match b.openHandle settings.languages, settings.pageSize with
    | (.ok handle, b), some bytes =>
      match Link.setPageSize bytes ⟨handle, b.engine⟩ with
      | (.ok (), link) => (.ok link.handle, { b with engine := link.engine })
      | (.error fault, link) => (.error fault, { b with engine := link.close.engine })
    | opened, _ => opened

end Bootstrap
end EngineLink
