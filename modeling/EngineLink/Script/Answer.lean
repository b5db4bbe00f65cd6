import EngineLink.Client.Cursor
import EngineLink.Client.Session
import EngineLink.Engine.Journal
import EngineLink.Json.Basic

/-!
# Answers of a script

Every step answers with a result or an error and with the events that reached the
engine during the step.
-/

namespace EngineLink
namespace Script

/-- One column of a cursor's row in every reading. -/
structure Readings where
  value : Except Error Value
  type : Except Error String
  null : Except Error Bool
  integer : Except Error Int64
  int32 : Except Error Int32
  int16 : Except Error Int16
  real : Except Error Binary64
  single : Except Error Binary32
  text : Except Error (Option String)
  blob : Except Error (Option Bytes)

/-- What a step answers when it does not fail. -/
inductive Result where
  | nothing
  | bool (b : Bool)
  | integer (i : Int)
  | text (s : Option String)
  | texts (l : List String)
  | bytes (b : Option Bytes)
  | value (v : Value)
  | values (l : List Value)
  | real (x : Binary64)
  | single (x : Binary32)
  | rows (l : List (List Json))
  | row (r : Option (List Json))
  | page (p : Page)
  | progress (p : Message.Progress)
  | outcome (o : Outcome)
  | index (i : Option Nat)
  | handle (h : Handle) (recentPages : Nat) (text : String)
  | cursor (c : Cursor)
  | readings (r : Readings)
  | session (s : Session)
  | depth (s : Session)
  /-- What came of an errand, or nothing if it has to wait. -/
  | errand (outcome : Option (Except Error (Option Bytes)))

/-- The answer of a step.  Only a step that waits for errands has answers of theirs,
only a statement or a block has inner answers, and only a block has events of its
beginning, which are missing if its body never ran. -/
inductive Answer where
  | mk (result : Except Error Result) (events : List Event)
      (joined : Option (List (Except Error (Option Bytes)))) (inner : Option (List Answer))
      (begun : Option (Option (List Event)))

namespace Answer

/-- The answer of a step without further parts. -/
def plain (result : Except Error Result) (events : List Event) : Answer :=
  .mk result events none none none

/-- The result of an answer. -/
def result : Answer → Except Error Result
  | .mk result _ _ _ _ => result

/-- Add the answers of errands and the events they caused. -/
def join (joined : List (Except Error (Option Bytes))) (later : List Event) : Answer → Answer
  | .mk result events _ inner begun => .mk result (events ++ later) (some joined) inner begun

end Answer
end Script
end EngineLink
