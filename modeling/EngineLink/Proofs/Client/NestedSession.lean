import EngineLink.Client.Session
import EngineLink.Proofs.Client.HandleLatches
import EngineLink.Proofs.Effects
import EngineLink.Proofs.Message.RoundTrip

/-!
# Nested transactions

A session keeps two flags for every open frame and forgets a frame when it ends.  Here its
calls are told apart from a ledger that forgets nothing: one entry for every frame begun since
the outermost one, marked or not, open or ended.  Over any engine and any sequence of calls the
session sends exactly the controls the ledger asks for: the outermost end commits if every frame
was marked before it ended, however deep it was, and rolls back otherwise.  An engine that is
listened to hears each of these controls once, if the handle lets it through, and nothing else.

Main results:

- Theorem {lit}`Nested.succeeds_eq`: the flags of the outermost frame tell what the ledger says.
- Theorem {lit}`Nest.Kept.step`: what every call preserves.
- Theorem {lit}`Sends.heard`: a control that is sent is heard once.
- Theorem {lit}`nested_transactions`: what every call does, after any calls.
-/

namespace EngineLink

open Effects

/-! ## The calls of a session -/

/-- A call of a session. -/
inductive SessionCall where
  | begin
  | mark
  | finish

section Calls

variable {σ : Type} [Engine σ]

/-- Make a call. -/
def SessionCall.run : SessionCall → SessionM σ Unit
  | .begin => Session.begin
  | .mark => Session.mark
  | .finish => Session.finish

namespace Session

/-- The outermost beginning waits for the engine, an inner one does not ask it. -/
theorem begin_apply (s : Session) (link : Link σ) :
    begin s link =
      match s.frames with
      | [] =>
        match Link.beginTransaction link with
        | (.ok (), link') => ((.ok (), ⟨[Frame.fresh], true⟩), link')
        | (.error fault, link') => ((.error fault, s), link')
      | frame :: outer => ((.ok (), { s with frames := Frame.fresh :: frame :: outer }), link) := by
  simp only [begin, object_bind_apply, object_get_apply]
  cases s.frames with
  | nil =>
    simp only [object_bind_apply, onLink_apply]
    rcases Link.beginTransaction link with ⟨fault | ⟨⟩, link'⟩ <;> rfl
  | cons frame outer => rfl

omit [Engine σ] in
/-- A mark does not ask the engine. -/
theorem mark_apply (s : Session) (link : Link σ) :
    mark s link =
      match s.frames with
      | [] => ((.error (.transaction .noTransaction), s), link)
      | frame :: outer =>
        ((.ok (), { s with frames := { frame with marked := true } :: outer }), link) := by
  simp only [mark, object_bind_apply, object_get_apply]
  cases s.frames <;> rfl

/-- The outermost end empties the session before it asks the engine, an inner one does not ask
it. -/
theorem finish_apply (s : Session) (link : Link σ) :
    finish s link =
      match s.frames with
      | [] => ((.error (.transaction .noTransaction), s), link)
      | frame :: parent :: outer =>
        ((.ok (), { s with
          frames := { parent with failed := parent.failed || !frame.succeeds } :: outer }), link)
      | [frame] =>
        if s.guarded then
          let kind := if frame.succeeds then .commit else .rollback
          (((Link.finishTransaction kind link).1, empty), (Link.finishTransaction kind link).2)
        else ((.error (.transaction .noGuard), empty), link) := by
  simp only [finish, object_bind_apply, object_get_apply]
  rcases s.frames with _ | ⟨frame, _ | ⟨parent, outer⟩⟩
  · rfl
  · simp only [object_bind_apply, object_set_apply]
    split
    · exact onLink_apply _ _ _
    · rfl
  · rfl

end Session

end Calls

/-! ## The ledger -/

/-- A frame in the ledger. -/
structure Entry where
  isOpen : Bool
  marked : Bool

/-- The frames begun since the outermost one, the latest first. -/
abbrev Ledger := List Entry

namespace Ledger

/-- The number of open frames. -/
def depth (ledger : Ledger) : Nat := ledger.countP Entry.isOpen

/-- Begin a frame; the outermost one begins a new ledger. -/
def begin (ledger : Ledger) : Ledger :=
  ⟨true, false⟩ :: if ledger.depth = 0 then [] else ledger

/-- Change the open frame begun last. -/
def onInnermost (change : Entry → Entry) : Ledger → Ledger
  | [] => []
  | entry :: ledger =>
    if entry.isOpen then change entry :: ledger else entry :: onInnermost change ledger

/-- Mark the open frame begun last. -/
def mark (ledger : Ledger) : Ledger := ledger.onInnermost fun entry => { entry with marked := true }

/-- End the open frame begun last. -/
def finish (ledger : Ledger) : Ledger :=
  ledger.onInnermost fun entry => { entry with isOpen := false }

/-- The ledger after a call.  Only a beginning that fails leaves no trace. -/
def after (ledger : Ledger) : SessionCall → Except Error Unit → Ledger
  | .begin, .ok () => ledger.begin
  | .begin, .error _ => ledger
  | .mark, _ => ledger.mark
  | .finish, _ => ledger.finish

/-- How the outermost end has to end the transaction. -/
def verdict (ledger : Ledger) : Message.RequestKind :=
  if ledger.all Entry.marked then .commit else .rollback

/-- A change of the open frame begun last leaves as many open frames, or one less if it ends
that frame. -/
theorem depth_onInnermost {change : Entry → Entry} (stays : Bool)
    (hchange : ∀ entry, entry.isOpen = true → (change entry).isOpen = stays) (ledger : Ledger) :
    (ledger.onInnermost change).depth = if stays then ledger.depth else ledger.depth - 1 := by
  unfold depth
  induction ledger with
  | nil => cases stays <;> rfl
  | cons entry ledger ih =>
    rw [onInnermost]
    by_cases hopen : entry.isOpen = true
    · rw [if_pos hopen, List.countP_cons, List.countP_cons, hchange entry hopen]
      cases stays <;> simp [hopen]
    · rw [if_neg hopen, List.countP_cons_of_neg hopen, List.countP_cons_of_neg hopen]
      exact ih

/-- A mark leaves the open frames open. -/
theorem depth_mark (ledger : Ledger) : ledger.mark.depth = ledger.depth := by
  rw [mark, depth_onInnermost true, if_pos rfl]
  exact fun _ hopen => hopen

/-- An end leaves one open frame less. -/
theorem depth_finish (ledger : Ledger) : ledger.finish.depth = ledger.depth - 1 := by
  rw [finish, depth_onInnermost false, if_neg Bool.false_ne_true]
  exact fun _ _ => rfl

end Ledger

/-! ## Frames and their ledger -/

/-- The open frames that belong to a ledger, innermost first.  An ended frame that was not marked
has failed the open frame it was begun in. -/
inductive Nested : List Frame → Ledger → Prop where
  | none : Nested [] []
  | begun {frames : List Frame} {ledger : Ledger} (marked : Bool) (hnested : Nested frames ledger) :
      Nested (⟨marked, false⟩ :: frames) (⟨true, marked⟩ :: ledger)
  | ended {frame : Frame} {outer : List Frame} {ledger : Ledger} (marked : Bool)
      (hnested : Nested (frame :: outer) ledger) :
      Nested ({ frame with failed := frame.failed || !marked } :: outer) (⟨false, marked⟩ :: ledger)

namespace Nested

variable {frame parent : Frame} {frames outer : List Frame} {ledger : Ledger}

/-- The open frames are those open in the ledger. -/
theorem length_eq (hnested : Nested frames ledger) : frames.length = ledger.depth := by
  induction hnested with
  | none => rfl
  | begun marked hnested ih => simp_all [Ledger.depth]
  | ended marked hnested ih => simp_all [Ledger.depth]

/-- All open frames succeed exactly when every frame was marked. -/
theorem all_succeeds_eq (hnested : Nested frames ledger) :
    frames.all Frame.succeeds = ledger.all Entry.marked := by
  induction hnested with
  | none => rfl
  | begun marked hnested ih => simp [Frame.succeeds, ih]
  | ended marked hnested ih =>
    rw [List.all_cons, List.all_cons, ← ih, List.all_cons]
    cases marked <;> simp [Frame.succeeds]

/-- The outermost frame succeeds exactly when every frame was marked. -/
theorem succeeds_eq (hnested : Nested [frame] ledger) :
    frame.succeeds = ledger.all Entry.marked := by
  simpa using hnested.all_succeeds_eq

/-- A mark on the innermost frame. -/
theorem mark (hnested : Nested (frame :: outer) ledger) :
    Nested ({ frame with marked := true } :: outer) ledger.mark := by
  generalize hframes : frame :: outer = frames at hnested
  induction hnested generalizing frame with
  | none => cases hframes
  | begun marked hnested ih =>
    cases hframes
    exact .begun true hnested
  | ended marked hnested ih =>
    cases hframes
    exact .ended marked (ih rfl)

/-- The end of an inner frame: if it does not succeed, the one around it has failed. -/
theorem finish (hnested : Nested (frame :: parent :: outer) ledger) :
    Nested ({ parent with failed := parent.failed || !frame.succeeds } :: outer)
      ledger.finish := by
  generalize hframes : frame :: parent :: outer = frames at hnested
  induction hnested generalizing frame with
  | none => cases hframes
  | begun marked hnested ih =>
    cases hframes
    have hended := Nested.ended marked hnested
    simpa [Frame.succeeds, Ledger.finish, Ledger.onInnermost] using hended
  | ended marked hnested ih =>
    cases hframes
    have hended := Nested.ended marked (ih rfl)
    cases marked <;> simpa [Frame.succeeds, Ledger.finish, Ledger.onInnermost] using hended

end Nested

/-! ## Runs -/

/-- A session on a link, with the ledger of its frames. -/
structure Nest (σ : Type) where
  session : Session
  ledger : Ledger
  link : Link σ

section Controls

variable {σ : Type} [Engine σ]

/-- A call answers what one control answers, and does to the engine what the control does. -/
def Sends (kind : Message.RequestKind) (link : Link σ)
    (outcome : (Except Error Unit × Session) × Link σ) : Prop :=
  outcome.1.1 = (Link.control kind link).1 ∧ outcome.2.engine = (Link.control kind link).2.engine

/-- A call by numbers fails for the sake of the engine or the handle, never for that of frames. -/
theorem invoke_ne_transaction (service method : UInt32) (payload : Bytes) (link : Link σ)
    (fault : TransactionFault) :
    (Link.invoke service method payload link).1 ≠ .error (.transaction fault) := by
  unfold Link.invoke
  repeat' split
  all_goals simp

theorem control_ne_transaction (kind : Message.RequestKind) (link : Link σ)
    (fault : TransactionFault) : (Link.control kind link).1 ≠ .error (.transaction fault) := by
  have hsend : (Link.send .query (Message.DbRequest.control kind) link).1 ≠
      .error (.transaction fault) := by
    cases hencode : encode (Message.DbRequest.control kind) with
    | error codec =>
      rw [send_of_error .query hencode]
      simp
    | ok payload =>
      rw [send_of_ok .query hencode]
      exact invoke_ne_transaction _ _ payload link fault
  simp only [Link.control, bind_apply]
  rcases hrun : Link.send .query (Message.DbRequest.control kind) link with ⟨e | bytes, link'⟩ <;>
    rw [hrun] at hsend <;> simp_all

/-- The outermost beginning sends one control, and keeps the session as it is if that fails. -/
theorem Session.begin_of_nil {s : Session} (hframes : s.frames = []) (link : Link σ) :
    Sends .begin link (Session.begin s link) ∧
      ∀ fault, (Session.begin s link).1.1 = .error fault → (Session.begin s link).1.2 = s := by
  rw [begin_apply, hframes]
  simp only [Sends, Link.beginTransaction, bind_apply]
  rcases Link.control .begin link with ⟨e | ⟨⟩, link'⟩
  · exact ⟨⟨rfl, rfl⟩, fun _ _ => rfl⟩
  · exact ⟨⟨rfl, rfl⟩, fun fault hfault => by cases hfault⟩

/-- The outermost end sends one control and empties the session. -/
theorem Session.finish_of_single {s : Session} {frame : Frame} (hframes : s.frames = [frame])
    (hguarded : s.guarded = true) (link : Link σ) :
    Sends (if frame.succeeds then .commit else .rollback) link (Session.finish s link) ∧
      (Session.finish s link).1.2 = Session.empty := by
  rw [finish_apply, hframes]
  simp only [hguarded, if_true, Sends, Link.finishTransaction]
  rcases Link.control (if frame.succeeds then .commit else .rollback) link with ⟨answer, link'⟩
  exact ⟨⟨rfl, rfl⟩, trivial⟩

/-! ## What the engine hears -/

/-- The request of a control on a handle. -/
def Exchange.IsControl (raw : Int64) (kind : Message.RequestKind) (e : Exchange) : Prop :=
  e.handle = raw ∧ (e.service, e.method) = Method.query.ids ∧
    encode (Message.DbRequest.control kind) = .ok e.payload

/-- What is heard of a control between two states of a link. -/
structure ControlHeard (kind : Message.RequestKind) (link after : Link (Overheard σ)) : Prop where
  /-- If the handle lets calls through, the control is heard once. -/
  once : link.handle.isOpen = true → link.handle.isPoisoned = false →
    ∃ e : Exchange, e.IsControl link.handle.raw kind ∧
      after.engine.exchanges = link.engine.exchanges ++ [e]
  /-- Otherwise it is not heard. -/
  never : link.handle.isOpen = false ∨ link.handle.isPoisoned = true →
    after.engine.exchanges = link.engine.exchanges

/-- A control is heard once, if the handle lets it through. -/
theorem controlHeard_control (kind : Message.RequestKind) (link : Link (Overheard σ)) :
    ControlHeard kind link (Link.control kind link).2 := by
  rw [control_link, send_of_ok .query (encode_control kind)]
  rcases invoke_cases Method.query.ids.1 Method.query.ids.2 _ link with
    ⟨hraw, hinvoke⟩ | ⟨-, reason, hpoison, hinvoke⟩ | ⟨hraw, hpoison, reply, hexchanges, -⟩
  · rw [hinvoke]
    exact ⟨fun hopen => absurd hraw (of_decide_eq_true hopen), fun _ => rfl⟩
  · rw [hinvoke]
    refine ⟨fun _ hhealthy => ?_, fun _ => rfl⟩
    rw [Handle.isPoisoned, hpoison] at hhealthy
    cases hhealthy
  · refine ⟨fun _ _ => ⟨_, ⟨rfl, rfl, encode_control kind⟩, hexchanges⟩, ?_⟩
    rintro (hclosed | hpoisoned)
    · exact absurd hraw (of_decide_eq_false hclosed)
    · rw [Handle.isPoisoned, hpoison] at hpoisoned
      cases hpoisoned

/-- A call that sends a control is heard as the control is. -/
theorem Sends.heard {kind : Message.RequestKind} {link : Link (Overheard σ)}
    {outcome : (Except Error Unit × Session) × Link (Overheard σ)}
    (hsends : Sends kind link outcome) : ControlHeard kind link outcome.2 := by
  have hcontrol := controlHeard_control kind link
  have hexchanges := congrArg Overheard.exchanges hsends.2
  constructor
  · rw [hexchanges]
    exact hcontrol.once
  · rw [hexchanges]
    exact hcontrol.never

end Controls

namespace Nest

variable {σ : Type}

/-- A new session. -/
def start (link : Link σ) : Nest σ := ⟨Session.empty, [], link⟩

/-- The guard is held exactly while frames are open, and the frames belong to the ledger. -/
structure Kept (n : Nest σ) : Prop where
  guarded : n.session.guarded = n.session.inTransaction
  nested : Nested n.session.frames n.ledger ∨ n.session.frames = [] ∧ n.ledger.depth = 0

variable {n : Nest σ}

theorem kept_start (link : Link σ) : (start link).Kept := ⟨rfl, .inl .none⟩

theorem Kept.depth_eq (hkept : n.Kept) : n.session.depth = n.ledger.depth := by
  rcases hkept.nested with hnested | ⟨hframes, hdepth⟩
  · exact hnested.length_eq
  · rw [Session.depth, hframes, hdepth]
    rfl

/-- While frames are open, they belong to the ledger. -/
theorem Kept.nested_of_cons (hkept : n.Kept) {frame : Frame} {outer : List Frame}
    (hframes : n.session.frames = frame :: outer) : Nested (frame :: outer) n.ledger := by
  rcases hkept.nested with hnested | ⟨hnone, -⟩
  · rwa [hframes] at hnested
  · rw [hframes] at hnone
    cases hnone

theorem Kept.guarded_of_cons (hkept : n.Kept) {frame : Frame} {outer : List Frame}
    (hframes : n.session.frames = frame :: outer) : n.session.guarded = true := by
  rw [hkept.guarded, Session.inTransaction, hframes]
  rfl

theorem Kept.depth_of_nil (hkept : n.Kept) (hframes : n.session.frames = []) :
    n.ledger.depth = 0 := by
  rw [← hkept.depth_eq, Session.depth, hframes]
  rfl

variable [Engine σ]

/-- Make a call. -/
def step (n : Nest σ) (call : SessionCall) : Nest σ :=
  let ((answer, session), link) := call.run n.session n.link
  ⟨session, n.ledger.after call answer, link⟩

/-- Make some calls. -/
def run (n : Nest σ) (calls : List SessionCall) : Nest σ := calls.foldl step n

theorem Kept.begin (hkept : n.Kept) : (n.step .begin).Kept := by
  simp only [step, SessionCall.run, Session.begin_apply]
  cases hframes : n.session.frames with
  | nil =>
    have hdepth := hkept.depth_of_nil hframes
    rcases Link.beginTransaction n.link with ⟨fault | ⟨⟩, link'⟩
    · exact ⟨hkept.guarded, .inr ⟨hframes, hdepth⟩⟩
    · refine ⟨rfl, .inl ?_⟩
      simp only [Ledger.after, Ledger.begin, hdepth]
      exact .begun false .none
  | cons frame outer =>
    have hnested := hkept.nested_of_cons hframes
    have hdepth : n.ledger.depth ≠ 0 := by simp [← hnested.length_eq]
    refine ⟨hkept.guarded_of_cons hframes, .inl ?_⟩
    simp only [Ledger.after, Ledger.begin, if_neg hdepth]
    exact .begun false hnested

theorem Kept.mark (hkept : n.Kept) : (n.step .mark).Kept := by
  simp only [step, SessionCall.run, Session.mark_apply]
  cases hframes : n.session.frames with
  | nil =>
    refine ⟨hkept.guarded, .inr ⟨hframes, ?_⟩⟩
    simp only [Ledger.after, Ledger.depth_mark, hkept.depth_of_nil hframes]
  | cons frame outer =>
    exact ⟨hkept.guarded_of_cons hframes, .inl (hkept.nested_of_cons hframes).mark⟩

theorem Kept.finish (hkept : n.Kept) : (n.step .finish).Kept := by
  simp only [step, SessionCall.run, Session.finish_apply]
  rcases hframes : n.session.frames with _ | ⟨frame, _ | ⟨parent, outer⟩⟩
  · refine ⟨hkept.guarded, .inr ⟨hframes, ?_⟩⟩
    simp [Ledger.after, Ledger.depth_finish, hkept.depth_of_nil hframes]
  · have hdepth := (hkept.nested_of_cons hframes).length_eq
    simp only [hkept.guarded_of_cons hframes, if_true]
    refine ⟨rfl, .inr ⟨rfl, ?_⟩⟩
    simp [Ledger.after, Ledger.depth_finish, ← hdepth]
  · exact ⟨hkept.guarded_of_cons hframes, .inl (hkept.nested_of_cons hframes).finish⟩

/-- What every call preserves. -/
theorem Kept.step (hkept : n.Kept) (call : SessionCall) : (n.step call).Kept := by
  cases call with
  | begin => exact hkept.begin
  | mark => exact hkept.mark
  | finish => exact hkept.finish

/-- What every run preserves. -/
theorem Kept.run (hkept : n.Kept) (calls : List SessionCall) : (n.run calls).Kept := by
  induction calls generalizing n with
  | nil => exact hkept
  | cons call rest ih => exact ih (hkept.step call)

/-! ## What every call does -/

/-- What the calls of a session do at one point. -/
structure Lawful (n : Nest σ) : Prop where
  /-- The guard is held exactly while frames are open. -/
  guarded_iff : n.session.guarded = true ↔ n.session.frames ≠ []
  /-- The open frames are those open in the ledger. -/
  depth_eq : n.session.depth = n.ledger.depth
  /-- The outermost beginning sends one control. -/
  begin_outermost : n.session.depth = 0 → Sends .begin n.link (Session.begin n.session n.link)
  /-- If that fails, the session stays as it is. -/
  begin_refused : n.session.depth = 0 → ∀ fault, (Session.begin n.session n.link).1.1 =
    .error fault → (Session.begin n.session n.link).1.2 = n.session
  /-- An inner beginning sends nothing. -/
  begin_inner : 0 < n.session.depth →
    (Session.begin n.session n.link).1.1 = .ok () ∧ (Session.begin n.session n.link).2 = n.link
  /-- Without a frame there is nothing to mark. -/
  mark_outside : n.session.depth = 0 → Session.mark n.session n.link =
    ((.error (.transaction .noTransaction), n.session), n.link)
  /-- A mark sends nothing. -/
  mark_inside : 0 < n.session.depth →
    (Session.mark n.session n.link).1.1 = .ok () ∧ (Session.mark n.session n.link).2 = n.link
  /-- Without a frame there is nothing to end. -/
  finish_outside : n.session.depth = 0 → Session.finish n.session n.link =
    ((.error (.transaction .noTransaction), n.session), n.link)
  /-- An inner end sends nothing. -/
  finish_inner : 1 < n.session.depth →
    (Session.finish n.session n.link).1.1 = .ok () ∧ (Session.finish n.session n.link).2 = n.link
  /-- The outermost end sends one control: a commit if every frame was marked before it ended,
  and a rollback otherwise.  The session is empty whatever comes of it. -/
  finish_outermost : n.session.depth = 1 →
    Sends n.ledger.verdict n.link (Session.finish n.session n.link) ∧
      (Session.finish n.session n.link).1.2 = Session.empty
  /-- No call finds frames without a guard. -/
  guard_found : ∀ call : SessionCall,
    (call.run n.session n.link).1.1 ≠ .error (.transaction .noGuard)

/-- No call finds frames without a guard. -/
theorem Kept.guard_found (hkept : n.Kept) (call : SessionCall) :
    (call.run n.session n.link).1.1 ≠ .error (.transaction .noGuard) := by
  cases call with
  | begin =>
    rw [SessionCall.run]
    cases hframes : n.session.frames with
    | nil =>
      rw [(Session.begin_of_nil hframes n.link).1.1]
      exact control_ne_transaction .begin n.link .noGuard
    | cons frame outer => simp [Session.begin_apply, hframes]
  | mark =>
    rw [SessionCall.run, Session.mark_apply]
    cases n.session.frames <;> simp
  | finish =>
    rw [SessionCall.run]
    rcases hframes : n.session.frames with _ | ⟨frame, _ | ⟨parent, outer⟩⟩
    · simp [Session.finish_apply, hframes]
    · rw [(Session.finish_of_single hframes (hkept.guarded_of_cons hframes) n.link).1.1]
      exact control_ne_transaction _ n.link .noGuard
    · simp [Session.finish_apply, hframes]

/-- What is kept makes every call lawful. -/
theorem Kept.lawful (hkept : n.Kept) : n.Lawful where
  guarded_iff := by simp [hkept.guarded, Session.inTransaction]
  depth_eq := hkept.depth_eq
  begin_outermost hdepth := (Session.begin_of_nil (List.length_eq_zero_iff.mp hdepth) n.link).1
  begin_refused hdepth := (Session.begin_of_nil (List.length_eq_zero_iff.mp hdepth) n.link).2
  begin_inner hdepth := by
    obtain ⟨frame, outer, hframes⟩ := List.exists_cons_of_length_pos hdepth
    simp [Session.begin_apply, hframes]
  mark_outside hdepth := by
    rw [Session.mark_apply, List.length_eq_zero_iff.mp hdepth]
  mark_inside hdepth := by
    obtain ⟨frame, outer, hframes⟩ := List.exists_cons_of_length_pos hdepth
    simp [Session.mark_apply, hframes]
  finish_outside hdepth := by
    rw [Session.finish_apply, List.length_eq_zero_iff.mp hdepth]
  finish_inner hdepth := by
    rcases hframes : n.session.frames with _ | ⟨frame, _ | ⟨parent, outer⟩⟩
    · simp [Session.depth, hframes] at hdepth
    · simp [Session.depth, hframes] at hdepth
    · simp [Session.finish_apply, hframes]
  finish_outermost hdepth := by
    obtain ⟨frame, hframes⟩ := List.length_eq_one_iff.mp hdepth
    have hverdict : n.ledger.verdict = if frame.succeeds then .commit else .rollback := by
      rw [Ledger.verdict, (hkept.nested_of_cons hframes).succeeds_eq]
    rw [hverdict]
    exact Session.finish_of_single hframes (hkept.guarded_of_cons hframes) n.link
  guard_found := hkept.guard_found

/-- What an engine hears of the calls of a session at one point. -/
structure Heard (n : Nest (Overheard σ)) : Prop where
  /-- The outermost beginning is heard once. -/
  begin_outermost : n.session.depth = 0 →
    ControlHeard .begin n.link (Session.begin n.session n.link).2
  /-- The outermost end is heard once: as a commit if every frame was marked before it ended, and
  as a rollback otherwise. -/
  finish_outermost : n.session.depth = 1 →
    ControlHeard n.ledger.verdict n.link (Session.finish n.session n.link).2
  /-- Nothing is heard of any other call. -/
  otherwise : ∀ call : SessionCall, ¬ (call = .begin ∧ n.session.depth = 0) →
    ¬ (call = .finish ∧ n.session.depth = 1) →
      (call.run n.session n.link).2.engine.exchanges = n.link.engine.exchanges

/-- A lawful call is heard as what it sends. -/
theorem Lawful.heard {n : Nest (Overheard σ)} (hlawful : n.Lawful) : n.Heard where
  begin_outermost hdepth := (hlawful.begin_outermost hdepth).heard
  finish_outermost hdepth := (hlawful.finish_outermost hdepth).1.heard
  otherwise call hbegin hfinish := by
    have hsilent : (call.run n.session n.link).2 = n.link := by
      cases call with
      | begin => exact (hlawful.begin_inner (Nat.pos_of_ne_zero fun h => hbegin ⟨rfl, h⟩)).2
      | mark =>
        rcases Nat.eq_zero_or_pos n.session.depth with hdepth | hdepth
        · exact congrArg Prod.snd (hlawful.mark_outside hdepth)
        · exact (hlawful.mark_inside hdepth).2
      | finish =>
        have hdepth : n.session.depth ≠ 1 := fun h => hfinish ⟨rfl, h⟩
        rcases Nat.lt_or_gt_of_ne hdepth with houtside | hinner
        · exact congrArg Prod.snd (hlawful.finish_outside (Nat.lt_one_iff.mp houtside))
        · exact (hlawful.finish_inner hinner).2
    rw [hsilent]

end Nest

/-- Nested transactions commit exactly when every frame succeeded.  After any calls of a new
session on any engine, whatever it replied, the calls are lawful: only the outermost beginning and
the outermost end send a control, the latter a commit exactly if every frame begun since the
former was marked before it ended.  An engine that is listened to hears these controls, each once
and only if the handle lets it through, and nothing of any other call. -/
theorem nested_transactions {σ : Type} [Engine σ] (calls : List SessionCall) :
    (∀ link : Link σ, ((Nest.start link).run calls).Lawful) ∧
      ∀ link : Link (Overheard σ), ((Nest.start link).run calls).Heard :=
  ⟨fun link => ((Nest.kept_start link).run calls).lawful,
    fun link => ((Nest.kept_start link).run calls).lawful.heard⟩

/-- An engine that answers every control. -/
def obliging : Scripted := ⟨none, [], [], [(Method.query.ids, some (.success []))]⟩

/-- A frame is begun inside another one and ended without a mark, and only the outer one is marked:
the engine has heard of one beginning, and of the outermost end it hears as a rollback. -/
theorem unmarked_inner_frame_is_rolled_back :
    let start : Link (Overheard Scripted) := ⟨Handle.create 7, Overheard.start obliging⟩
    let n := (Nest.start start).run [.begin, .begin, .finish, .mark]
    n.session.depth = 1 ∧ n.link.engine.exchanges.length = 1 ∧ n.Lawful ∧
      ∃ e : Exchange, e.IsControl 7 .rollback ∧
        (Session.finish n.session n.link).2.engine.exchanges = n.link.engine.exchanges ++ [e] := by
  intro start n
  have hdepth : n.session.depth = 1 := by decide +kernel
  have hverdict : n.ledger.verdict = .rollback := by decide +kernel
  have hlawful : n.Lawful := (nested_transactions _).1 start
  have hheard : n.Heard := (nested_transactions _).2 start
  have hend := hheard.finish_outermost hdepth
  rw [hverdict] at hend
  exact ⟨hdepth, by decide +kernel, hlawful, hend.once (by decide +kernel) (by decide +kernel)⟩

end EngineLink
