import EngineLink.Engine.Basic

/-!
# Journals

Any engine can be watched: it does what it did, and something is noted of every contact.
What is noted is a matter of the watcher.  A journal notes the events at the boundary of
the engine.

- {lit}`Noted` is an engine state with notes, and its instance of {lit}`Engine` writes them.
- {lit}`Journaled` is an engine state with a journal.
-/

namespace EngineLink

/-- What reached an engine, and what came of it. -/
inductive Contact where
  | setUp (outcome : Except String Unit)
  | opened (init : Bytes) (reply : Option Reply)
  | closed (raw : Int64)
  | ran (raw : Int64) (service method : UInt32) (payload : Bytes) (reply : Option Reply)

/-- An engine state with notes about its contacts so far.  The notes after one more contact are
told by {lit}`note`. -/
structure Noted {ε : Type} (note : Contact → List ε → List ε) (σ : Type) where
  engine : σ
  notes : List ε

section Notes

variable {ε : Type} {note : Contact → List ε → List ε} {σ : Type}

/-- A state without notes. -/
def Noted.start (engine : σ) : Noted note σ := ⟨engine, []⟩

/-- The engine that does what it did and notes every contact. -/
instance [Engine σ] : Engine (Noted note σ) where
  setUp n :=
    let (outcome, engine) := Engine.setUp n.engine
    (outcome, ⟨engine, note (.setUp outcome) n.notes⟩)
  openInstance init n :=
    let (reply, engine) := Engine.openInstance init n.engine
    (reply, ⟨engine, note (.opened init reply) n.notes⟩)
  closeInstance handle n :=
    ⟨Engine.closeInstance handle n.engine, note (.closed handle) n.notes⟩
  run handle service method payload n :=
    let (reply, engine) := Engine.run handle service method payload n.engine
    (reply, ⟨engine, note (.ran handle service method payload reply) n.notes⟩)

end Notes

/-! ## Events -/

/-- What can reach an engine. -/
inductive Event where
  | setUp
  | opened (init : Bytes)
  | closed (handle : Int64)
  | ran (handle : Int64) (service method : UInt32) (payload : Bytes)
  deriving DecidableEq

/-- The event of a contact. -/
def Contact.event : Contact → Event
  | .setUp _ => .setUp
  | .opened init _ => .opened init
  | .closed raw => .closed raw
  | .ran raw service method payload _ => .ran raw service method payload

/-- An engine state with the events so far, latest first. -/
abbrev Journaled (σ : Type) := Noted (fun c events => c.event :: events) σ

namespace Journaled

variable {σ : Type}

/-- The events so far, latest first. -/
abbrev events (j : Journaled σ) : List Event := j.notes

/-- The events so far in the order they came, and the state with an empty journal. -/
def drain (j : Journaled σ) : List Event × Journaled σ := (j.events.reverse, .start j.engine)

end Journaled

end EngineLink
