import EngineLink.Proofs.Client.SessionTruth

/-!
# What a thread does with the lock

A handle has a lock, which a thread that holds it may take once more.  A call takes it around the
engine's work unless its method is exempt, a guard keeps it from the beginning of its transaction
to the end, and closing the handle takes it, too.  Here these calls are written out as routines,
one deed after the other: the lock is taken or released, the engine is called, the instance is
given back, and what comes next may depend on what the engine answered.

The calls of a link leave out the deeds that do not show while a single thread is at work.  They
do to the link what the routines do.

Main results:

- Theorem {lit}`Routine.exec_call`: a call by numbers, with and without the lock.
- Theorem {lit}`Guard.exec_begin`: the beginning of a guard keeps the lock exactly if it succeeds.
- Theorem {lit}`Guard.exec_spend`: the end of a guard is one request and one release.
- Theorem {lit}`SessionCall.exec_routine`: the calls of a session.
-/

namespace EngineLink

open Effects

/-! ## Requests -/

/-- The end of a transaction that a request asks for, if it does, as an engine reads it. -/
def requestedEnd? (service method : UInt32) (payload : Bytes) : Option Message.RequestKind :=
  if (service, method) = Method.query.ids then
    match (decode payload : Except CodecFault Message.DbRequest) with
    | .ok request => if request.kind ∈ [.commit, .rollback] then some request.kind else none
    | .error _ => none
  else none

/-- A request message is read as what it is. -/
theorem requestedEnd?_of_encode {request : Message.DbRequest} {payload : Bytes}
    (hencode : encode request = .ok payload) :
    requestedEnd? Method.query.ids.1 Method.query.ids.2 payload =
      if request.kind ∈ [.commit, .rollback] then some request.kind else none := by
  rw [requestedEnd?, if_pos rfl, decode_encode hencode]

/-- A request message takes the lock. -/
theorem idsExempt_query : Method.idsExempt Method.query.ids.1 Method.query.ids.2 = false := by
  decide

/-! ## Routines -/

/-- What the engine is called for: on behalf of nobody, or to begin or end the transaction of a
guard. -/
inductive Purpose where
  | plain
  | begins
  | ends
  deriving DecidableEq

/-- One deed of a thread on a handle. -/
inductive Deed where
  | acquire
  | release
  | invoke (purpose : Purpose) (service method : UInt32) (payload : Bytes)
  | close
  deriving DecidableEq

/-- What a thread has still to do on a handle until it has a value. -/
inductive Routine (α : Type) where
  | done (value : α)
  | acquire (rest : Routine α)
  | release (rest : Routine α)
  | invoke (purpose : Purpose) (service method : UInt32) (payload : Bytes)
      (rest : Except Error Bytes → Routine α)
  | close (rest : Routine α)

namespace Routine

/-- Go on with another routine. -/
def andThen {α β : Type} : Routine α → (α → Routine β) → Routine β
  | .done value, next => next value
  | .acquire rest, next => .acquire (rest.andThen next)
  | .release rest, next => .release (rest.andThen next)
  | .invoke purpose service method payload rest, next =>
    .invoke purpose service method payload fun answer => (rest answer).andThen next
  | .close rest, next => .close (rest.andThen next)

instance : Monad Routine where
  pure := .done
  bind := andThen

/-- Take the lock. -/
def lock : Routine Unit := .acquire (.done ())

/-- Give the lock up. -/
def unlock : Routine Unit := .release (.done ())

/-- Call the engine. -/
def ask (purpose : Purpose) (service method : UInt32) (payload : Bytes) :
    Routine (Except Error Bytes) :=
  .invoke purpose service method payload .done

/-- A call by numbers holds the lock while the engine works, unless it is exempt. -/
def call (purpose : Purpose) (service method : UInt32) (payload : Bytes) :
    Routine (Except Error Bytes) := do
  if Method.idsExempt service method then ask purpose service method payload
  else
    lock
    let answer ← ask purpose service method payload
    unlock
    return answer

/-- Send a transaction control. -/
def control (purpose : Purpose) (kind : Message.RequestKind) : Routine (Except Error Unit) := do
  match encode (Message.DbRequest.control kind) with
  | .ok payload =>
    let answer ← call purpose Method.query.ids.1 Method.query.ids.2 payload
    return answer.map fun _ => ()
  | .error fault => return .error (.codec fault)

/-- Give the instance back, holding the lock. -/
def closeHandle : Routine Unit := do
  lock
  .close (.done ())
  unlock

end Routine

/-! ## Guards -/

/-- A guard, and whether it still has its hold on the lock. -/
structure Guard where
  held : Bool
  deriving DecidableEq

namespace Guard

/-- Take the lock and begin a transaction.  If it does not begin, the lock is given up. -/
def begin : Routine (Except Error Guard) := do
  Routine.lock
  match ← Routine.control .begins .begin with
  | .ok () => return .ok ⟨true⟩
  | .error fault =>
    Routine.unlock
    return .error fault

/-- Ask for the end of the transaction, and give the hold on the lock up whatever comes of it. -/
def finish (kind : Message.RequestKind) (g : Guard) : Routine (Except Error Unit × Guard) := do
  let answer ← Routine.control .ends kind
  if g.held then Routine.unlock
  return (answer, ⟨false⟩)

/-- A guard that goes rolls back if it still has its hold. -/
def discard (g : Guard) : Routine Unit := do
  if g.held then
    let _ ← g.finish .rollback

/-- Commit or roll back, after which the guard goes. -/
def spend (kind : Message.RequestKind) (g : Guard) : Routine (Except Error Unit) := do
  let (answer, g) ← g.finish kind
  g.discard
  return answer

end Guard

/-- How a guard ends. -/
inductive Ending where
  | commit
  | rollback
  | drop
  deriving DecidableEq

namespace Ending

/-- What the engine is asked for.  A guard that just goes rolls back. -/
def kind : Ending → Message.RequestKind
  | .commit => .commit
  | .rollback | .drop => .rollback

/-- What is done with the guard. -/
def routine (g : Guard) : Ending → Routine Unit
  | .commit => do let _ ← g.spend .commit
  | .rollback => do let _ ← g.spend .rollback
  | .drop => g.discard

end Ending

/-! ## Sessions -/

/-- A call of a session.  Its guard has its hold on the lock as long as the session has the
guard. -/
def SessionCall.routine (s : Session) : SessionCall → Routine (Except Error Unit × Session)
  | .begin =>
    match s.frames with
    | [] => do
      match ← Guard.begin with
      | .ok _ => return (.ok (), ⟨[Frame.fresh], true⟩)
      | .error fault => return (.error fault, s)
    | frames => return (.ok (), { s with frames := Frame.fresh :: frames })
  | .mark =>
    match s.frames with
    | [] => return (.error (.transaction .noTransaction), s)
    | frame :: outer => return (.ok (), { s with frames := { frame with marked := true } :: outer })
  | .finish =>
    match s.frames with
    | [] => return (.error (.transaction .noTransaction), s)
    | frame :: parent :: outer =>
      return (.ok (), { s with
        frames := { parent with failed := parent.failed || !frame.succeeds } :: outer })
    | [frame] => do
      if s.guarded then
        let answer ← Guard.spend (if frame.succeeds then .commit else .rollback) ⟨true⟩
        return (answer, Session.empty)
      else return (.error (.transaction .noGuard), Session.empty)

/-- A session that goes lets its guard go. -/
def Session.leave (s : Session) : Routine Unit :=
  if s.guarded then Guard.discard ⟨true⟩ else return ()

/-! ## The holds of a link -/

namespace Link

variable {σ : Type}

/-- The link with its lock held a number of times. -/
def withHolds (holds : Nat) (link : Link σ) : Link σ :=
  { link with handle := { link.handle with holds } }

/-- The link after its lock was taken. -/
def acquire (link : Link σ) : Link σ := link.withHolds (link.handle.holds + 1)

/-- The link after its lock was released once. -/
def release (link : Link σ) : Link σ := link.withHolds (link.handle.holds - 1)

@[simp]
theorem holds_withHolds (holds : Nat) (link : Link σ) :
    (link.withHolds holds).handle.holds = holds :=
  rfl

theorem withHolds_withHolds (holds holds' : Nat) (link : Link σ) :
    (link.withHolds holds').withHolds holds = link.withHolds holds :=
  rfl

@[simp]
theorem withHolds_self (link : Link σ) : link.withHolds link.handle.holds = link :=
  rfl

@[simp]
theorem holds_acquire (link : Link σ) : link.acquire.handle.holds = link.handle.holds + 1 :=
  rfl

@[simp]
theorem holds_release (link : Link σ) : link.release.handle.holds = link.handle.holds - 1 :=
  rfl

/-- A release gives one hold back. -/
@[simp]
theorem release_withHolds (holds : Nat) (link : Link σ) :
    (link.withHolds (holds + 1)).release = link.withHolds holds := by
  rw [release, holds_withHolds, Nat.add_sub_cancel, withHolds_withHolds]

variable [Engine σ]

/-- A call by numbers does not care how often the lock is held, and leaves the holds as they
are. -/
theorem invoke_withHolds (holds : Nat) (service method : UInt32) (payload : Bytes)
    (link : Link σ) :
    invoke service method payload (link.withHolds holds) =
      ((invoke service method payload link).1,
        (invoke service method payload link).2.withHolds holds) := by
  obtain ⟨⟨raw, poison, active, before⟩, engine⟩ := link
  unfold invoke withHolds
  by_cases hraw : raw = 0
  · simp only [if_pos hraw]
  · cases poison with
    | some reason => simp only [if_neg hraw]
    | none =>
      rcases Engine.run raw service method payload engine with ⟨reply, engine'⟩
      simp only [if_neg hraw]
      rcases Outcome.ofReply reply with fault | bytes | envelope <;> rfl

@[simp]
theorem withHolds_invoke (service method : UInt32) (payload : Bytes) (link : Link σ) :
    (invoke service method payload link).2.withHolds link.handle.holds =
      (invoke service method payload link).2 := by
  have hkept := invoke_withHolds link.handle.holds service method payload link
  rw [withHolds_self] at hkept
  exact (congrArg Prod.snd hkept).symm

@[simp]
theorem holds_invoke (service method : UInt32) (payload : Bytes) (link : Link σ) :
    (invoke service method payload link).2.handle.holds = link.handle.holds := by
  rw [← withHolds_invoke, holds_withHolds]

/-- Giving the instance back does not care how often the lock is held. -/
theorem close_withHolds (holds : Nat) (link : Link σ) :
    (link.withHolds holds).close = link.close.withHolds holds := by
  unfold close withHolds
  by_cases hraw : link.handle.raw = 0
  · simp only [if_pos hraw]
  · simp only [if_neg hraw]

@[simp]
theorem withHolds_close (link : Link σ) :
    link.close.withHolds link.handle.holds = link.close := by
  rw [← close_withHolds, withHolds_self]

@[simp]
theorem holds_close (link : Link σ) : link.close.handle.holds = link.handle.holds := by
  rw [← withHolds_close, holds_withHolds]

end Link

/-! ## A routine alone -/

/-- What came of a routine: what was done, the value, and the link. -/
structure Performance (σ α : Type) where
  deeds : List Deed
  value : α
  link : Link σ

namespace Performance

variable {σ α : Type}

/-- One deed more, before the others. -/
def after (deed : Deed) (p : Performance σ α) : Performance σ α :=
  { p with deeds := deed :: p.deeds }

end Performance

namespace Routine

variable {σ α β : Type} [Engine σ]

/-- Do all there is to do, without another thread in between. -/
def exec : Routine α → Link σ → Performance σ α
  | .done value, link => ⟨[], value, link⟩
  | .acquire rest, link => (rest.exec link.acquire).after .acquire
  | .release rest, link => (rest.exec link.release).after .release
  | .invoke purpose service method payload rest, link =>
    let (answer, link) := Link.invoke service method payload link
    ((rest answer).exec link).after (.invoke purpose service method payload)
  | .close rest, link => (rest.exec link.close).after .close

/-- One routine after the other. -/
theorem exec_bind (r : Routine α) (next : α → Routine β) (link : Link σ) :
    (r >>= next).exec link =
      let first := r.exec link
      let second := (next first.value).exec first.link
      ⟨first.deeds ++ second.deeds, second.value, second.link⟩ := by
  induction r generalizing link with
  | done value => rfl
  | acquire rest ih => exact congrArg (Performance.after .acquire) (ih link.acquire)
  | release rest ih => exact congrArg (Performance.after .release) (ih link.release)
  | invoke purpose service method payload rest ih =>
    exact congrArg (Performance.after _) (ih _ _)
  | close rest ih => exact congrArg (Performance.after .close) (ih link.close)

@[simp]
theorem exec_pure (value : α) (link : Link σ) :
    (pure value : Routine α).exec link = ⟨[], value, link⟩ :=
  rfl

@[simp]
theorem exec_lock (link : Link σ) : lock.exec link = ⟨[.acquire], (), link.acquire⟩ :=
  rfl

@[simp]
theorem exec_unlock (link : Link σ) : unlock.exec link = ⟨[.release], (), link.release⟩ :=
  rfl

@[simp]
theorem exec_ask (purpose : Purpose) (service method : UInt32) (payload : Bytes)
    (link : Link σ) :
    (ask purpose service method payload).exec link =
      ⟨[.invoke purpose service method payload], (Link.invoke service method payload link).1,
        (Link.invoke service method payload link).2⟩ :=
  rfl

/-- What is done in a call by numbers. -/
def callDeeds (purpose : Purpose) (service method : UInt32) (payload : Bytes) : List Deed :=
  if Method.idsExempt service method then [.invoke purpose service method payload]
  else [.acquire, .invoke purpose service method payload, .release]

/-- A call by numbers does what it does without the lock. -/
theorem exec_call (purpose : Purpose) (service method : UInt32) (payload : Bytes)
    (link : Link σ) :
    (call purpose service method payload).exec link =
      ⟨callDeeds purpose service method payload, (Link.invoke service method payload link).1,
        (Link.invoke service method payload link).2⟩ := by
  unfold call callDeeds
  by_cases hexempt : Method.idsExempt service method = true
  · simp [hexempt]
  · simp [hexempt, exec_bind, Link.acquire, Link.invoke_withHolds]

/-- Closing the handle does what it does without the lock. -/
theorem exec_closeHandle (link : Link σ) :
    closeHandle.exec link = ⟨[.acquire, .close, .release], (), link.close⟩ := by
  have hclose (link : Link σ) : (Routine.close (.done ())).exec link = ⟨[.close], (), link.close⟩ :=
    rfl
  simp [closeHandle, exec_bind, hclose, Link.acquire, Link.close_withHolds]

/-- The engine is called with a transaction control. -/
def controlDeed (purpose : Purpose) (kind : Message.RequestKind) : Deed :=
  .invoke purpose Method.query.ids.1 Method.query.ids.2
    (Wired.toItem (Message.DbRequest.control kind)).write

/-- A transaction control does what it does without the lock. -/
theorem exec_control (purpose : Purpose) (kind : Message.RequestKind) (link : Link σ) :
    (control purpose kind).exec link =
      ⟨[.acquire, controlDeed purpose kind, .release], (Link.control kind link).1,
        (Link.control kind link).2⟩ := by
  simp only [control, encode_control, exec_bind, exec_call, exec_pure, callDeeds, idsExempt_query,
    Link.control, bind_apply, send_of_ok .query (encode_control kind), List.append_nil]
  rcases Link.invoke Method.query.ids.1 Method.query.ids.2
    (Wired.toItem (Message.DbRequest.control kind)).write link with ⟨fault | bytes, link'⟩ <;> rfl

end Routine

section Transactions

variable {σ : Type} [Engine σ]

/-- A transaction control leaves the holds as they are. -/
@[simp]
theorem Link.holds_control (kind : Message.RequestKind) (link : Link σ) :
    (Link.control kind link).2.handle.holds = link.handle.holds := by
  rw [control_link, send_of_ok .query (encode_control kind), Link.holds_invoke]

/-- A transaction control does not care how often the lock is held. -/
theorem Link.control_withHolds (holds : Nat) (kind : Message.RequestKind) (link : Link σ) :
    Link.control kind (link.withHolds holds) =
      ((Link.control kind link).1, (Link.control kind link).2.withHolds holds) := by
  simp only [Link.control, bind_apply, send_of_ok .query (encode_control kind),
    Link.invoke_withHolds]
  rcases Link.invoke Method.query.ids.1 Method.query.ids.2
    (Wired.toItem (Message.DbRequest.control kind)).write link with ⟨fault | bytes, link'⟩ <;> rfl

/-- A transaction that begins takes the lock. -/
theorem Link.beginTransaction_eq (link : Link σ) :
    Link.beginTransaction link =
      match Link.control .begin link with
      | (.ok (), link') => (.ok (), link'.acquire)
      | (.error fault, link') => (.error fault, link') := by
  simp only [Link.beginTransaction, bind_apply]
  rcases Link.control .begin link with ⟨fault | ⟨⟩, link'⟩ <;> rfl

/-- A transaction that ends releases the lock once. -/
theorem Link.finishTransaction_eq (kind : Message.RequestKind) (link : Link σ) :
    Link.finishTransaction kind link =
      ((Link.control kind link).1, (Link.control kind link).2.release) := by
  unfold Link.finishTransaction
  generalize Link.control kind link = answer
  rfl

end Transactions

namespace Guard

variable {σ : Type} [Engine σ]

/-- What is done at the beginning of a guard, given whether it succeeds. -/
def beginDeeds (succeeds : Bool) : List Deed :=
  [.acquire, .acquire, Routine.controlDeed .begins .begin, .release] ++
    if succeeds then [] else [.release]

/-- What is done at the end of a guard. -/
def endDeeds (kind : Message.RequestKind) : List Deed :=
  [.acquire, Routine.controlDeed .ends kind, .release, .release]

/-- The beginning of a guard does to the link what beginning a transaction does. -/
theorem exec_begin (link : Link σ) :
    Guard.begin.exec link =
      ⟨beginDeeds (Link.beginTransaction link).1.isOk,
        (Link.beginTransaction link).1.map fun _ => ⟨true⟩, (Link.beginTransaction link).2⟩ := by
  have hholds := Link.holds_control .begin link
  simp only [Guard.begin, Routine.exec_bind, Routine.exec_lock, Routine.exec_control,
    Link.beginTransaction_eq, Link.acquire, Link.control_withHolds]
  generalize Link.control .begin link = answer at hholds
  obtain ⟨fault | ⟨⟩, link'⟩ := answer
  · simp [beginDeeds, Routine.exec_bind, Except.map, Except.isOk, Except.toBool, hholds.symm]
  · simp [beginDeeds, Except.map, Except.isOk, Except.toBool, hholds.symm]

/-- The end of a guard that has its hold does to the link what ending a transaction does, and the
guard that goes after it does nothing more. -/
theorem exec_spend (kind : Message.RequestKind) (link : Link σ) :
    (Guard.spend kind ⟨true⟩).exec link =
      ⟨endDeeds kind, (Link.finishTransaction kind link).1,
        (Link.finishTransaction kind link).2⟩ := by
  simp [spend, finish, discard, Routine.exec_bind, Routine.exec_control, endDeeds,
    Link.finishTransaction_eq]

/-- A guard that goes with its hold rolls back. -/
theorem exec_discard (link : Link σ) :
    (Guard.discard ⟨true⟩).exec link =
      ⟨endDeeds .rollback, (), (Link.finishTransaction .rollback link).2⟩ := by
  simp [finish, discard, Routine.exec_bind, Routine.exec_control, endDeeds,
    Link.finishTransaction_eq]

end Guard

/-- However a guard with a hold ends, the same deeds are done. -/
theorem Ending.exec_routine {σ : Type} [Engine σ] (ending : Ending) (link : Link σ) :
    (ending.routine ⟨true⟩).exec link =
      ⟨Guard.endDeeds ending.kind, (), (Link.finishTransaction ending.kind link).2⟩ := by
  cases ending with
  | commit => simp [routine, kind, Routine.exec_bind, Guard.exec_spend]
  | rollback => simp [routine, kind, Routine.exec_bind, Guard.exec_spend]
  | drop => exact Guard.exec_discard link

namespace SessionCall

variable {σ : Type} [Engine σ]

/-- A call of a session does what its routine does. -/
theorem exec_routine (call : SessionCall) (s : Session) (link : Link σ) :
    ((call.routine s).exec link).value = (call.run s link).1 ∧
      ((call.routine s).exec link).link = (call.run s link).2 := by
  cases call with
  | begin =>
    rw [SessionCall.run, Session.begin_apply, routine]
    cases s.frames with
    | nil =>
      simp only [Routine.exec_bind, Guard.exec_begin]
      rcases Link.beginTransaction link with ⟨fault | ⟨⟩, link'⟩ <;> exact ⟨rfl, rfl⟩
    | cons frame outer => exact ⟨rfl, rfl⟩
  | mark =>
    rw [SessionCall.run, Session.mark_apply, routine]
    cases s.frames <;> exact ⟨rfl, rfl⟩
  | finish =>
    rw [SessionCall.run, Session.finish_apply, routine]
    rcases s.frames with _ | ⟨frame, _ | ⟨parent, outer⟩⟩
    · exact ⟨rfl, rfl⟩
    · by_cases hguarded : s.guarded = true
      · simp [hguarded, Routine.exec_bind, Guard.exec_spend]
      · simp [hguarded]
    · exact ⟨rfl, rfl⟩

end SessionCall

/-- A session that goes does to the link what its guard does. -/
theorem Session.exec_leave {σ : Type} [Engine σ] (s : Session) (link : Link σ) :
    (s.leave.exec link).link = s.discard link := by
  unfold Session.leave Session.discard
  by_cases hguarded : s.guarded = true
  · rw [if_pos hguarded, if_pos hguarded, Guard.exec_discard]
  · rw [if_neg hguarded, if_neg hguarded, Routine.exec_pure]

end EngineLink
