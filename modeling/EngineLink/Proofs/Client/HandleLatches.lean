import EngineLink.Client.Link
import EngineLink.Engine.Journal
import EngineLink.Engine.Scripted
import EngineLink.Proofs.Failure.Classification

/-!
# The two latches of a handle

A handle has two latches, and neither is ever released.  Closing it sets the one, and the first
reply that reports a panic sets the other.  To speak of what reached the engine and what came
back, any engine can be listened to: it does what it did and writes down every method that was
run with its reply.  The state of both latches, and with it what every call does, can then be
told from the calls made so far and the replies that were heard.

Main results:

- Theorem {lit}`invoke_unheard`: an engine that is listened to answers as it did.
- Theorem {lit}`invoke_cases`: what one call does, on a handle in any state.
- Theorem {lit}`Listening.runAll`: what every run of calls preserves.
- Theorem {lit}`handle_latches`: what every call does, after any calls.
-/

namespace EngineLink

/-! ## Fatal replies -/

namespace Reply

/-- What came back is a failure envelope of kind 17. -/
def IsFatal (reply : Option Reply) : Prop :=
  ∃ envelope, Outcome.ofReply reply = .ok (.failure envelope) ∧ envelope.kind = 17

/-- The message of a fatal reply. -/
def fatalMessage? (reply : Option Reply) : Option String :=
  match Outcome.ofReply reply with
  | .ok (.failure envelope) => if envelope.kind = 17 then some envelope.message else none
  | _ => none

theorem fatalMessage?_eq_none_iff (reply : Option Reply) :
    fatalMessage? reply = none ↔ ¬ IsFatal reply := by
  unfold fatalMessage? IsFatal
  rcases Outcome.ofReply reply with fault | bytes | envelope
  · simp
  · simp
  · by_cases hkind : envelope.kind = 17 <;> simp [hkind]

end Reply

/-! ## Engines that are listened to -/

/-- A method that was run, with what came back. -/
structure Exchange where
  handle : Int64
  service : UInt32
  method : UInt32
  payload : Bytes
  reply : Option Reply

/-- The message of the first fatal reply. -/
def firstFatal? (exchanges : List Exchange) : Option String :=
  exchanges.findSome? fun e => Reply.fatalMessage? e.reply

theorem firstFatal?_eq_none_iff (exchanges : List Exchange) :
    firstFatal? exchanges = none ↔ ∀ e ∈ exchanges, ¬ Reply.IsFatal e.reply := by
  simp only [firstFatal?, List.findSome?_eq_none_iff, Reply.fatalMessage?_eq_none_iff]

/-- One more exchange matters only as long as none was fatal. -/
theorem firstFatal?_append_of_none {exchanges : List Exchange} (e : Exchange)
    (hnone : firstFatal? exchanges = none) :
    firstFatal? (exchanges ++ [e]) = Reply.fatalMessage? e.reply := by
  unfold firstFatal? at hnone ⊢
  rw [List.findSome?_append, hnone, Option.none_or]
  simp

/-- The exchange of a contact in which a method was run. -/
def Contact.exchange? : Contact → Option Exchange
  | .ran raw service method payload reply => some ⟨raw, service, method, payload, reply⟩
  | _ => none

/-- An engine state with all methods that were run, the first one first. -/
abbrev Overheard (σ : Type) :=
  Noted (fun c exchanges => match c.exchange? with
    | some e => exchanges ++ [e]
    | none => exchanges) σ

/-- What was heard so far, the first exchange first. -/
abbrev Overheard.exchanges {σ : Type} (o : Overheard σ) : List Exchange := o.notes

/-- A state of an engine nothing was heard of yet. -/
abbrev Overheard.start {σ : Type} (engine : σ) : Overheard σ := Noted.start engine

/-- A method does what it did, and its reply is heard. -/
theorem run_overheard {σ : Type} [Engine σ] {engine engine' : σ} {reply : Option Reply}
    {handle : Int64} {service method : UInt32} {payload : Bytes}
    (hrun : Engine.run handle service method payload engine = (reply, engine'))
    (exchanges : List Exchange) :
    Engine.run handle service method payload (⟨engine, exchanges⟩ : Overheard σ) =
      (reply, ⟨engine', exchanges ++ [⟨handle, service, method, payload, reply⟩]⟩) := by
  simp only [Engine.run] at hrun ⊢
  rw [hrun]
  rfl

/-- A link to an engine without what was heard. -/
def Link.unheard {σ : Type} (link : Link (Overheard σ)) : Link σ :=
  ⟨link.handle, link.engine.engine⟩

/-! ## Calls of a handle -/

/-- What can be asked of a handle: a call by numbers, or that it is closed. -/
inductive HandleCall where
  | call (service method : UInt32) (payload : Bytes)
  | close

namespace HandleCall

variable {σ : Type} [Engine σ]

/-- What a handle does; only a call by numbers has an answer. -/
def run : HandleCall → Link σ → Option (Except Error Bytes) × Link σ
  | .call service method payload, link =>
    (some (Link.invoke service method payload link).1,
      (Link.invoke service method payload link).2)
  | .close, link => (none, link.close)

/-- The link after some calls. -/
def runAll (link : Link σ) (calls : List HandleCall) : Link σ :=
  calls.foldl (fun link request => (run request link).2) link

/-- What some calls answer. -/
def answers (link : Link σ) : List HandleCall → List (Option (Except Error Bytes))
  | [] => []
  | request :: rest => (run request link).1 :: answers (run request link).2 rest

end HandleCall

/-! ## Listening changes nothing -/

section Listening

variable {σ : Type} [Engine σ]

/-- A call answers and does the same whether or not the engine is listened to. -/
theorem invoke_unheard (service method : UInt32) (payload : Bytes) (link : Link (Overheard σ)) :
    Link.invoke service method payload link.unheard =
      ((Link.invoke service method payload link).1,
        (Link.invoke service method payload link).2.unheard) := by
  obtain ⟨⟨raw, poison, active, holds⟩, engine, exchanges⟩ := link
  unfold Link.invoke Link.unheard
  by_cases hraw : raw = 0
  · simp only [if_pos hraw]
  · cases poison with
    | some reason => simp only [if_neg hraw]
    | none =>
      rcases hrun : Engine.run raw service method payload engine with ⟨reply, engine'⟩
      have hheard := run_overheard hrun exchanges
      simp only [if_neg hraw, hheard]
      rcases Outcome.ofReply reply with fault | bytes | envelope <;> rfl

/-- Every call of a handle does. -/
theorem HandleCall.run_unheard (call : HandleCall) (link : Link (Overheard σ)) :
    call.run link.unheard = ((call.run link).1, (call.run link).2.unheard) := by
  cases call with
  | call service method payload =>
    simp only [HandleCall.run, invoke_unheard]
  | close =>
    have hclose : link.unheard.close = link.close.unheard := by
      unfold Link.close Link.unheard
      by_cases hraw : link.handle.raw = 0
      · rw [if_pos hraw, if_pos hraw]
      · rw [if_neg hraw, if_neg hraw]
        rfl
    simp only [HandleCall.run, hclose]

theorem HandleCall.runAll_unheard (calls : List HandleCall) (link : Link (Overheard σ)) :
    HandleCall.runAll link.unheard calls = (HandleCall.runAll link calls).unheard := by
  induction calls generalizing link with
  | nil => rfl
  | cons call rest ih =>
    simp only [HandleCall.runAll, List.foldl_cons, HandleCall.run_unheard]
    exact ih _

theorem HandleCall.answers_unheard (calls : List HandleCall) (link : Link (Overheard σ)) :
    HandleCall.answers link.unheard calls = HandleCall.answers link calls := by
  induction calls generalizing link with
  | nil => rfl
  | cons call rest ih =>
    simp only [HandleCall.answers, HandleCall.run_unheard, ih]

/-! ## What one call does -/

/-- The latch a failure sets: its message, if it is of kind 17, whatever its message says. -/
theorem poison_of_envelope (envelope : Message.Envelope) :
    (if (Failure.ofEnvelope envelope).category.isFatal then
      some (Failure.ofEnvelope envelope).message else none) =
      if envelope.kind = 17 then some envelope.message else none := by
  have hfatal : (Failure.ofEnvelope envelope).category.isFatal = true ↔ envelope.kind = 17 :=
    isFatal_classify_iff envelope
  by_cases hkind : envelope.kind = 17
  · rw [if_pos hkind, if_pos (hfatal.mpr hkind)]
    rfl
  · rw [if_neg hkind, if_neg (fun h => hkind (hfatal.mp h))]

/-- What one call does: a closed handle refuses it, and so does a poisoned one; any other runs
the method once, and takes the fatal message there is in the reply. -/
theorem invoke_cases (service method : UInt32) (payload : Bytes) (link : Link (Overheard σ)) :
    (link.handle.raw = 0 ∧ Link.invoke service method payload link = (.error .closed, link)) ∨
    (link.handle.raw ≠ 0 ∧ ∃ reason, link.handle.poison = some reason ∧
      Link.invoke service method payload link =
        (.error (.engine (.fatal ("backend unusable after fatal error: " ++ reason))), link)) ∨
    (link.handle.raw ≠ 0 ∧ link.handle.poison = none ∧ ∃ reply,
      (Link.invoke service method payload link).2.engine.exchanges =
        link.engine.exchanges ++ [⟨link.handle.raw, service, method, payload, reply⟩] ∧
      (Link.invoke service method payload link).2.handle =
        { link.handle with poison := Reply.fatalMessage? reply }) := by
  obtain ⟨⟨raw, poison, active, holds⟩, engine, exchanges⟩ := link
  by_cases hraw : raw = 0
  · left
    simp only [Link.invoke, if_pos hraw, and_true]
    exact hraw
  · cases poison with
    | some reason =>
      right
      left
      refine ⟨hraw, reason, rfl, ?_⟩
      simp only [Link.invoke, if_neg hraw]
    | none =>
      right
      right
      rcases hrun : Engine.run raw service method payload engine with ⟨reply, engine'⟩
      have hheard := run_overheard hrun exchanges
      refine ⟨hraw, rfl, reply, ?_⟩
      simp only [Link.invoke, if_neg hraw, hheard, Reply.fatalMessage?]
      rcases Outcome.ofReply reply with fault | bytes | envelope
      · exact ⟨rfl, rfl⟩
      · exact ⟨rfl, rfl⟩
      · simp only [poison_of_envelope]
        exact ⟨trivial, trivial⟩

/-! ## What every call preserves -/

/-- A handle is open until it is closed, and its poison is the first fatal message heard. -/
structure Listening (link : Link (Overheard σ)) (isClosed : Prop) : Prop where
  closed : isClosed → link.handle.raw = 0
  opened : ¬ isClosed → link.handle.raw ≠ 0
  poison : link.handle.poison = firstFatal? link.engine.exchanges

variable {link : Link (Overheard σ)} {isClosed : Prop}

/-- A call by numbers leaves the first latch as it is; if its method is run while the second one
is not set, the reply decides about it. -/
theorem Listening.call (hlistening : Listening link isClosed) (service method : UInt32)
    (payload : Bytes) :
    Listening (Link.invoke service method payload link).2 isClosed := by
  rcases invoke_cases service method payload link with
    ⟨-, hinvoke⟩ | ⟨-, reason, -, hinvoke⟩ | ⟨-, hhealthy, reply, hexchanges, hhandle⟩
  · rw [hinvoke]
    exact hlistening
  · rw [hinvoke]
    exact hlistening
  · have hnone : firstFatal? link.engine.exchanges = none := by
      rw [← hlistening.poison, hhealthy]
    refine ⟨?_, ?_, ?_⟩
    · rw [hhandle]
      exact hlistening.closed
    · rw [hhandle]
      exact hlistening.opened
    · rw [hhandle, hexchanges, firstFatal?_append_of_none _ hnone]

/-- Closing sets the first latch and nothing else. -/
theorem Listening.close (hlistening : Listening link isClosed) : Listening link.close True := by
  unfold Link.close
  by_cases hraw : link.handle.raw = 0
  · rw [if_pos hraw]
    exact ⟨fun _ => hraw, fun hopen => absurd trivial hopen, hlistening.poison⟩
  · rw [if_neg hraw]
    exact ⟨fun _ => rfl, fun hopen => absurd trivial hopen, hlistening.poison⟩

/-- What every run preserves: the handle is closed if it was, or if a close is among the
calls. -/
theorem Listening.runAll (hlistening : Listening link isClosed) (calls : List HandleCall) :
    Listening (HandleCall.runAll link calls) (isClosed ∨ .close ∈ calls) := by
  induction calls generalizing link isClosed with
  | nil => simpa [HandleCall.runAll] using hlistening
  | cons call rest ih =>
    simp only [HandleCall.runAll, List.foldl_cons]
    cases call with
    | call service method payload =>
      simpa [HandleCall.runAll, HandleCall.run] using ih (hlistening.call service method payload)
    | close => simpa [HandleCall.runAll, HandleCall.run] using ih hlistening.close

/-! ## What every call does -/

/-- What a handle does at one point, told from whether it was closed and what was heard. -/
structure Latched (link : Link (Overheard σ)) (isClosed : Prop) : Prop where
  /-- A call runs a method exactly if the handle was not closed and no reply was fatal. -/
  runs_iff : ∀ service method payload,
    (Link.invoke service method payload link).2.engine.exchanges ≠ link.engine.exchanges ↔
      ¬ isClosed ∧ ∀ e ∈ link.engine.exchanges, ¬ Reply.IsFatal e.reply
  /-- If it runs one, then the one asked for, once. -/
  runs_once : ∀ service method payload,
    (Link.invoke service method payload link).2.engine.exchanges ≠ link.engine.exchanges →
      ∃ reply, (Link.invoke service method payload link).2.engine.exchanges =
        link.engine.exchanges ++ [⟨link.handle.raw, service, method, payload, reply⟩]
  /-- After a fatal reply and before the close, a call ends with a fatal failure that repeats the
  message of the first one. -/
  refused_fatal : ¬ isClosed → ∀ message,
    firstFatal? link.engine.exchanges = some message → ∀ service method payload,
      Link.invoke service method payload link.unheard =
        (.error (.engine (.fatal ("backend unusable after fatal error: " ++ message))),
          link.unheard)
  /-- After the close every call is refused for it, poisoned or not. -/
  refused_closed : isClosed → ∀ service method payload,
    Link.invoke service method payload link.unheard = (.error .closed, link.unheard)
  /-- Nothing but a fatal reply has set the second latch. -/
  poisoned_iff : link.handle.isPoisoned = true ↔ ∃ e ∈ link.engine.exchanges, Reply.IsFatal e.reply

/-- A call that is not refused runs its method. -/
theorem Listening.runs_of_open (hlistening : Listening link isClosed) (hopen : ¬ isClosed)
    (hnone : firstFatal? link.engine.exchanges = none) (service method : UInt32)
    (payload : Bytes) :
    ∃ reply, (Link.invoke service method payload link).2.engine.exchanges =
      link.engine.exchanges ++ [⟨link.handle.raw, service, method, payload, reply⟩] := by
  have hraw := hlistening.opened hopen
  have hhealthy : link.handle.poison = none := hlistening.poison.trans hnone
  rcases invoke_cases service method payload link with
    ⟨hzero, -⟩ | ⟨-, reason, hreason, -⟩ | ⟨-, -, reply, hexchanges, -⟩
  · exact absurd hzero hraw
  · rw [hhealthy] at hreason
    cases hreason
  · exact ⟨reply, hexchanges⟩

theorem Listening.refused_fatal (hlistening : Listening link isClosed) (hopen : ¬ isClosed)
    {message : String} (hfirst : firstFatal? link.engine.exchanges = some message)
    (service method : UInt32) (payload : Bytes) :
    Link.invoke service method payload link =
      (.error (.engine (.fatal ("backend unusable after fatal error: " ++ message))), link) := by
  have hraw := hlistening.opened hopen
  have hpoison : link.handle.poison = some message := hlistening.poison.trans hfirst
  rcases invoke_cases service method payload link with
    ⟨hzero, -⟩ | ⟨-, reason, hreason, hinvoke⟩ | ⟨-, hhealthy, -⟩
  · exact absurd hzero hraw
  · rw [hpoison, Option.some.injEq] at hreason
    rw [hinvoke, hreason]
  · rw [hpoison] at hhealthy
    cases hhealthy

theorem Listening.refused_closed (hlistening : Listening link isClosed) (hclosed : isClosed)
    (service method : UInt32) (payload : Bytes) :
    Link.invoke service method payload link = (.error .closed, link) := by
  have hraw := hlistening.closed hclosed
  rcases invoke_cases service method payload link with ⟨-, hinvoke⟩ | ⟨hopen, -⟩ | ⟨hopen, -⟩
  · exact hinvoke
  · exact absurd hraw hopen
  · exact absurd hraw hopen

/-- What is preserved decides what every call does. -/
theorem Listening.latched (hlistening : Listening link isClosed) : Latched link isClosed where
  runs_iff := by
    intro service method payload
    constructor
    · intro hruns
      have hopen : ¬ isClosed := by
        intro hclosed
        rw [hlistening.refused_closed hclosed] at hruns
        exact hruns rfl
      refine ⟨hopen, (firstFatal?_eq_none_iff _).mp ?_⟩
      cases hfirst : firstFatal? link.engine.exchanges with
      | none => rfl
      | some message =>
        rw [hlistening.refused_fatal hopen hfirst] at hruns
        exact absurd rfl hruns
    · rintro ⟨hopen, hcalm⟩ hsame
      have hnone := (firstFatal?_eq_none_iff _).mpr hcalm
      obtain ⟨reply, hruns⟩ := hlistening.runs_of_open hopen hnone service method payload
      rw [hsame] at hruns
      have hlength := congrArg List.length hruns
      rw [List.length_append, List.length_singleton] at hlength
      omega
  runs_once := by
    intro service method payload hruns
    rcases invoke_cases service method payload link with
      ⟨-, hinvoke⟩ | ⟨-, reason, -, hinvoke⟩ | ⟨-, -, reply, hexchanges, -⟩
    · rw [hinvoke] at hruns
      exact absurd rfl hruns
    · rw [hinvoke] at hruns
      exact absurd rfl hruns
    · exact ⟨reply, hexchanges⟩
  refused_fatal := by
    intro hopen message hfirst service method payload
    rw [invoke_unheard, hlistening.refused_fatal hopen hfirst]
  refused_closed := by
    intro hclosed service method payload
    rw [invoke_unheard, hlistening.refused_closed hclosed]
  poisoned_iff := by
    have hnone := firstFatal?_eq_none_iff link.engine.exchanges
    rw [Handle.isPoisoned, hlistening.poison, Option.isSome_iff_ne_none, ne_eq, hnone]
    simp only [Classical.not_forall, Classical.not_not, exists_prop]

end Listening

/-- Poison and close are latches.  On a handle as it is opened, of any engine, and after any calls
by numbers and closes, the engine being listened to without any difference: a call runs its method
exactly if the handle was not closed and no reply so far was a failure of kind 17; after such a
reply it ends with a fatal failure that repeats the message of the first one, and after a close it
ends as closed; and nothing else sets the latches. -/
theorem handle_latches {σ : Type} [Engine σ] (engine : σ) {raw : Int64} (hraw : raw ≠ 0)
    (calls : List HandleCall) :
    let start : Link (Overheard σ) := ⟨Handle.create raw, Overheard.start engine⟩
    HandleCall.answers ⟨Handle.create raw, engine⟩ calls = HandleCall.answers start calls ∧
      HandleCall.runAll ⟨Handle.create raw, engine⟩ calls =
        (HandleCall.runAll start calls).unheard ∧
      Latched (HandleCall.runAll start calls) (.close ∈ calls) := by
  intro start
  have hstart : Listening start False :=
    ⟨fun hclosed => hclosed.elim, fun _ => hraw, rfl⟩
  have hlatched := (hstart.runAll calls).latched
  rw [false_or] at hlatched
  exact ⟨HandleCall.answers_unheard calls start, HandleCall.runAll_unheard calls start, hlatched⟩

/-- An engine with a malformed reply, a refusal that only speaks of a panic, and then a panic. -/
def panicking : Scripted :=
  ⟨none, [], [none, some (.failure ⟨3, "panic: kind 17", none⟩), some (.failure ⟨17, "boom", none⟩),
    some (.failure ⟨17, "bang", none⟩)], []⟩

/-- The third call on it is the last one that reaches it. -/
theorem third_call_panics :
    let start : Link (Overheard Scripted) := ⟨Handle.create 7, Overheard.start panicking⟩
    let calls := [.call 9 9 [], .call 2 0 [1], .call 0 1 []]
    (7 : Int64) ≠ 0 ∧
      firstFatal? (HandleCall.runAll start calls).engine.exchanges = some "boom" ∧
      (Link.invoke 2 5 [] (HandleCall.runAll start calls).unheard).1 =
        .error (.engine (.fatal "backend unusable after fatal error: boom")) ∧
      (Link.invoke 2 5 [] (HandleCall.runAll start (calls ++ [.close])).unheard).1 =
        .error .closed := by
  intro start calls
  have hraw : (7 : Int64) ≠ 0 := by decide
  have hfirst : firstFatal? (HandleCall.runAll start calls).engine.exchanges =
      some "boom" := by decide +kernel
  have hfatal := (handle_latches panicking hraw calls).2.2.refused_fatal (by simp [calls]) "boom"
    hfirst 2 5 []
  have hclosed := (handle_latches panicking hraw (calls ++ [.close])).2.2.refused_closed
    (by simp) 2 5 []
  exact ⟨hraw, hfirst, congrArg Prod.fst hfatal, congrArg Prod.fst hclosed⟩

end EngineLink
