import EngineLink.Engine.Basic

/-!
# Scripted engines

An engine that answers from prepared lists of replies, whatever it is asked.
-/

namespace EngineLink

/-- Prepared replies.  {lit}`replies` are used first, one for each call of a method;
after them {lit}`byMethod` answers, and a method without an entry gets nothing. -/
structure Scripted where
  setUpError : Option String
  opens : List (Option Reply)
  replies : List (Option Reply)
  byMethod : List ((UInt32 × UInt32) × Option Reply)

namespace Scripted

/-- The handle of an instance that was opened without a prepared reply. -/
def handle : Message.IntegerValue := ⟨7⟩

/-- The reply that opens an instance without a prepared reply. -/
def openReply : Reply := ⟨(encode handle).toOption, none⟩

/-- The reply to a method after the prepared replies are used up. -/
def replyTo (s : Scripted) (service method : UInt32) : Option Reply :=
  ((s.byMethod.find? fun entry => entry.1 = (service, method)).map (·.2)).join

instance : Engine Scripted where
  setUp s :=
    match s.setUpError with
    | some detail => (.error detail, s)
    | none => (.ok (), s)
  openInstance _ s :=
    match s.opens with
    | reply :: rest => (reply, { s with opens := rest })
    | [] => (some openReply, s)
  closeInstance _ s := s
  run _ service method _ s :=
    match s.replies with
    | reply :: rest => (reply, { s with replies := rest })
    | [] => (s.replyTo service method, s)

end Scripted
end EngineLink
