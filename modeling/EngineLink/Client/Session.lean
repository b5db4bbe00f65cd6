import EngineLink.Client.Calls

/-!
# Sessions

A session nests transactions on top of the one an engine has.  Every beginning puts a
frame on a stack and every end takes one off; only the outermost frame begins and ends
the engine's transaction.  A frame succeeds when it was marked and no frame inside it
failed, and the engine's transaction is committed exactly when the outermost frame
succeeds.

- {lit}`Session.begin`, {lit}`Session.mark` and {lit}`Session.finish` are the steps of
  a session.
- {lit}`Session.within` puts a computation between a beginning and an end.
-/

namespace EngineLink

/-- One level of nesting. -/
structure Frame where
  marked : Bool
  failed : Bool
  deriving DecidableEq

namespace Frame

/-- A frame at its beginning. -/
def fresh : Frame := ⟨false, false⟩

/-- Whether a frame succeeds if it ends now. -/
def succeeds (f : Frame) : Bool := f.marked && !f.failed

end Frame

/-- The open frames, innermost first, and whether the engine's transaction is held. -/
structure Session where
  frames : List Frame
  guarded : Bool
  deriving DecidableEq

/-- A call by a session. -/
abbrev SessionM (σ α : Type) := ObjectM Session σ α

namespace Session

/-- A session without frames. -/
def empty : Session := ⟨[], false⟩

/-- The number of open frames. -/
def depth (s : Session) : Nat := s.frames.length

/-- Whether a frame is open. -/
def inTransaction (s : Session) : Bool := s.frames ≠ []

section Calls

variable {σ : Type} [Engine σ]

/-- Open a frame.  The outermost one begins the engine's transaction first. -/
def begin : SessionM σ Unit := do
  let s : Session ← getThe Session
  match s.frames with
  | [] =>
    onLink Link.beginTransaction
    set (Session.mk [Frame.fresh] true)
  | frames => set { s with frames := Frame.fresh :: frames }

/-- Mark the innermost frame. -/
def mark : SessionM σ Unit := do
  let s : Session ← getThe Session
  match s.frames with
  | [] => throw (.transaction .noTransaction)
  | frame :: outer => set { s with frames := { frame with marked := true } :: outer }

/-- Close the innermost frame.  A frame that does not succeed fails the one around it;
the outermost one commits or rolls back. -/
def finish : SessionM σ Unit := do
  let s : Session ← getThe Session
  match s.frames with
  | [] => throw (.transaction .noTransaction)
  | frame :: parent :: outer =>
    set { s with frames := { parent with failed := parent.failed || !frame.succeeds } :: outer }
  | [frame] =>
    set Session.empty
    if s.guarded then
      onLink (Link.finishTransaction (if frame.succeeds then .commit else .rollback))
    else throw (.transaction .noGuard)

/-- A session that goes rolls back what it still holds, without a word about
failures. -/
def discard (s : Session) (link : Link σ) : Link σ :=
  if s.guarded then (Link.finishTransaction .rollback link).2 else link

end Calls

/-- Put a computation between a beginning and an end.  It is marked when it ends well;
its own error goes before one of the end. -/
def within {m : Type → Type} [Monad m] {α : Type} (begin mark finish : m (Except Error Unit))
    (body : m (Except Error α)) : m (Except Error α) := do
  match ← begin with
  | .error fault => return .error fault
  | .ok () =>
    match ← body with
    | .error fault =>
      let _ ← finish
      return .error fault
    | .ok value =>
      match ← mark with
      | .error fault => return .error fault
      | .ok () =>
        match ← finish with
        | .error fault => return .error fault
        | .ok () => return .ok value

end Session
end EngineLink
