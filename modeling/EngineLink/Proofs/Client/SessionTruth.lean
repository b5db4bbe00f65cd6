import EngineLink.Proofs.Client.NestedSession
import EngineLink.Proofs.Reference.LinkCalls

/-!
# Frames and the transaction of the engine

A session has frames on its stack for the sake of the one transaction of its engine.  Over an
engine that is inside a transaction or not, enters one by a beginning and leaves it by a commit
or a rollback, where beginnings and commits may be refused, the stack tells whether the engine
is inside a transaction, with one exception.  The outermost end empties the stack and gives the
guard away before it asks for the commit.  If the commit is refused, nobody is left to roll back,
and the engine is stranded inside the transaction.

Main results:

- Theorem {lit}`Attended.Kept.step`: what every call of a session preserves.
- Theorem {lit}`stack_tells_truth_iff_not_stranded`: what the stack tells after any calls, and what
  becomes of the engine when the session goes.
- Theorem {lit}`Reference.singleTransaction`: the reference engine is such an engine.
- Theorem {lit}`refused_commit_strands_engine`: a stack that does not tell the truth.
-/

namespace EngineLink

open Effects

/-! ## Engines with one transaction -/

section Engines

variable {σ : Type} [Engine σ]

/-- Whether a reply is one of success. -/
def accepted (reply : Option Reply) : Bool :=
  match Outcome.ofReply reply with
  | .ok (.success _) => true
  | _ => false

/-- Send a transaction control to an instance of the engine. -/
def sendControl (raw : Int64) (kind : Message.RequestKind) (e : σ) : Option Reply × σ :=
  Engine.run raw Method.query.ids.1 Method.query.ids.2
    (Wired.toItem (Message.DbRequest.control kind)).write e

/-- An engine that is inside a transaction or not, as far as an instance is concerned.  It enters
by a beginning and leaves by a commit or a rollback; beginnings and commits may be refused without
a change, but a rollback inside a transaction is never refused. -/
structure SingleTransaction (raw : Int64) (inside : σ → Bool) : Prop where
  begin_accepted : ∀ e, accepted (sendControl raw .begin e).1 = true →
    inside (sendControl raw .begin e).2 = true
  begin_refused : ∀ e, accepted (sendControl raw .begin e).1 = false →
    inside (sendControl raw .begin e).2 = inside e
  commit_accepted : ∀ e, accepted (sendControl raw .commit e).1 = true →
    inside (sendControl raw .commit e).2 = false
  commit_refused : ∀ e, accepted (sendControl raw .commit e).1 = false →
    inside (sendControl raw .commit e).2 = inside e
  rollback : ∀ e, inside e = true → accepted (sendControl raw .rollback e).1 = true ∧
    inside (sendControl raw .rollback e).2 = false

end Engines

/-! ## Controls on a link -/

section Controls

variable {σ : Type} [Engine σ] {link : Link σ}

/-- Whether a handle lets calls through to the engine. -/
def Handle.LetsThrough (handle : Handle) : Prop := handle.raw ≠ 0 ∧ handle.poison = none

/-- How a control can end: it is not let through, it is accepted, or it is refused, after which
the handle may be poisoned. -/
inductive ControlEnd (kind : Message.RequestKind) (link : Link σ) :
    Except Error Unit × Link σ → Prop where
  | kept (fault : Error) (hhandle : ¬ link.handle.LetsThrough) :
      ControlEnd kind link (.error fault, link)
  | accepted (hhandle : link.handle.LetsThrough)
      (hreply : accepted (sendControl link.handle.raw kind link.engine).1 = true) :
      ControlEnd kind link
        (.ok (), { link with engine := (sendControl link.handle.raw kind link.engine).2 })
  | refused (fault : Error) (poison : Option String) (hhandle : link.handle.LetsThrough)
      (hreply : EngineLink.accepted (sendControl link.handle.raw kind link.engine).1 = false) :
      ControlEnd kind link (.error fault,
        ⟨{ link.handle with poison }, (sendControl link.handle.raw kind link.engine).2⟩)

theorem control_ends (kind : Message.RequestKind) (link : Link σ) :
    ControlEnd kind link (Link.control kind link) := by
  obtain ⟨⟨raw, poison, active, holds⟩, engine⟩ := link
  simp only [Link.control, bind_apply, send_of_ok .query (encode_control kind)]
  by_cases hraw : raw = 0
  · simp only [Link.invoke, if_pos hraw]
    exact .kept _ fun h => h.1 hraw
  · cases poison with
    | some reason =>
      simp only [Link.invoke, if_neg hraw]
      exact .kept _ fun h => Option.some_ne_none reason h.2
    | none =>
      have hhandle : Handle.LetsThrough ⟨raw, none, active, holds⟩ := ⟨hraw, rfl⟩
      rcases hsent : sendControl raw kind engine with ⟨reply, engine'⟩
      have hrun : Engine.run raw Method.query.ids.1 Method.query.ids.2
          (Wired.toItem (Message.DbRequest.control kind)).write engine = (reply, engine') := hsent
      obtain ⟨hreply, hengine⟩ := Prod.ext_iff.mp hsent
      simp only [Link.invoke, if_neg hraw, hrun, ← hengine]
      rcases houtcome : Outcome.ofReply reply with fault | bytes | envelope
      · exact .refused _ none hhandle (by rw [hreply, accepted, houtcome])
      · exact .accepted hhandle (by rw [hreply, accepted, houtcome])
      · exact .refused _ _ hhandle (by rw [hreply, accepted, houtcome])

end Controls

/-! ## Runs -/

/-- A session on a link, and whether it has left the engine stranded inside a transaction. -/
structure Attended (σ : Type) where
  session : Session
  link : Link σ
  stranded : Bool

namespace Attended

variable {σ : Type}

/-- A new session. -/
def start (link : Link σ) : Attended σ := ⟨Session.empty, link, false⟩

/-- The engine is stranded by an outermost end that fails, until another beginning succeeds. -/
def strandedAfter (n : Attended σ) : SessionCall → Except Error Unit → Bool
  | .begin, .ok () => false
  | .finish, .error _ => n.stranded || n.session.depth = 1
  | _, _ => n.stranded

/-- Without frames the engine is inside a transaction only if it is stranded there.  With frames
it is inside one, which the session guards on a handle that lets calls through. -/
structure Kept (raw : Int64) (inside : σ → Bool) (n : Attended σ) : Prop where
  raw_eq : n.link.handle.raw = raw
  guarded : n.session.guarded = n.session.inTransaction
  outside : n.session.frames = [] → inside n.link.engine = n.stranded
  within : n.session.frames ≠ [] →
    inside n.link.engine = true ∧ n.stranded = false ∧ n.link.handle.LetsThrough

variable {raw : Int64} {inside : σ → Bool} {n : Attended σ}

theorem kept_start {link : Link σ} (houtside : inside link.engine = false) :
    (start link).Kept link.handle.raw inside :=
  ⟨rfl, rfl, fun _ => houtside, fun hframes => absurd rfl hframes⟩

theorem Kept.guarded_of_cons (hkept : n.Kept raw inside) {frame : Frame} {outer : List Frame}
    (hframes : n.session.frames = frame :: outer) : n.session.guarded = true := by
  rw [hkept.guarded, Session.inTransaction, hframes]
  rfl

theorem Kept.within_of_cons (hkept : n.Kept raw inside) {frame : Frame} {outer : List Frame}
    (hframes : n.session.frames = frame :: outer) :
    inside n.link.engine = true ∧ n.stranded = false ∧ n.link.handle.LetsThrough := by
  apply hkept.within
  rw [hframes]
  exact List.cons_ne_nil frame outer

/-- Nothing changes for the engine while frames stay open and nothing is sent. -/
theorem Kept.of_cons (hkept : n.Kept raw inside) {frame frame' : Frame}
    {outer outer' : List Frame} (hframes : n.session.frames = frame :: outer) {stranded : Bool}
    (hstranded : stranded = false) :
    Kept raw inside ⟨{ n.session with frames := frame' :: outer' }, n.link, stranded⟩ where
  raw_eq := hkept.raw_eq
  guarded := hkept.guarded_of_cons hframes
  outside hnone := absurd hnone (List.cons_ne_nil frame' outer')
  within _ :=
    have hwithin := hkept.within_of_cons hframes
    ⟨hwithin.1, hstranded, hwithin.2.2⟩

variable [Engine σ]

/-- Make a call. -/
def step (n : Attended σ) (call : SessionCall) : Attended σ :=
  let ((answer, session), link) := call.run n.session n.link
  ⟨session, link, n.strandedAfter call answer⟩

/-- Make some calls. -/
def run (n : Attended σ) (calls : List SessionCall) : Attended σ := calls.foldl step n

/-- A beginning enters the transaction of the engine, or changes nothing. -/
theorem Kept.begin (hsingle : SingleTransaction raw inside) (hkept : n.Kept raw inside) :
    (n.step .begin).Kept raw inside := by
  simp only [step, SessionCall.run, Session.begin_apply]
  cases hframes : n.session.frames with
  | nil =>
    have houtside := hkept.outside hframes
    have hraw := hkept.raw_eq
    have hends := control_ends .begin n.link
    simp only [Link.beginTransaction, bind_apply]
    generalize Link.control .begin n.link = answer at hends ⊢
    cases hends with
    | kept fault hhandle =>
      exact ⟨hraw, hkept.guarded, fun _ => houtside, fun hopen => absurd hframes hopen⟩
    | accepted hhandle hreply =>
      rw [hraw] at hreply
      have hinside := hsingle.begin_accepted _ hreply
      rw [← hraw] at hinside
      refine ⟨hraw, rfl, fun hnone => ?_, fun _ => ⟨hinside, rfl, hhandle⟩⟩
      exact absurd hnone (List.cons_ne_nil _ _)
    | refused fault poison hhandle hreply =>
      rw [hraw] at hreply
      have hinside := (hsingle.begin_refused _ hreply).trans houtside
      rw [← hraw] at hinside
      exact ⟨hraw, hkept.guarded, fun _ => hinside, fun hopen => absurd hframes hopen⟩
  | cons frame outer =>
    exact hkept.of_cons hframes rfl

/-- A mark is no matter of the engine. -/
theorem Kept.mark (hkept : n.Kept raw inside) : (n.step .mark).Kept raw inside := by
  simp only [step, SessionCall.run, Session.mark_apply]
  cases hframes : n.session.frames with
  | nil =>
    exact ⟨hkept.raw_eq, hkept.guarded, fun _ => hkept.outside hframes,
      fun hopen => absurd hframes hopen⟩
  | cons frame outer =>
    obtain ⟨-, hstranded, -⟩ := hkept.within_of_cons hframes
    exact hkept.of_cons hframes hstranded

/-- What a commit or a rollback does when frames are open: it leaves the transaction, or is refused
and leaves the engine where it is. -/
theorem Kept.finishTransaction (hsingle : SingleTransaction raw inside)
    (hkept : n.Kept raw inside) {frame : Frame} {outer : List Frame}
    (hframes : n.session.frames = frame :: outer) {kind : Message.RequestKind}
    (hkind : kind = .commit ∨ kind = .rollback) :
    (Link.finishTransaction kind n.link).2.handle.raw = raw ∧
      (inside (Link.finishTransaction kind n.link).2.engine = true ↔
        ∃ fault, (Link.finishTransaction kind n.link).1 = .error fault) ∧
      (kind = .rollback → (Link.finishTransaction kind n.link).1 = .ok ()) := by
  obtain ⟨hinside, -, hhandle⟩ := hkept.within_of_cons hframes
  have hraw := hkept.raw_eq
  have hends := control_ends kind n.link
  simp only [Link.finishTransaction]
  generalize Link.control kind n.link = answer at hends ⊢
  cases hends with
  | kept fault hkeeps => exact absurd hhandle hkeeps
  | accepted _ hreply =>
    rw [hraw] at hreply
    have hleft : inside (sendControl raw kind n.link.engine).2 = false := by
      rcases hkind with rfl | rfl
      · exact hsingle.commit_accepted _ hreply
      · exact (hsingle.rollback _ hinside).2
    simp [hraw, hleft]
  | refused fault poison _ hreply =>
    rw [hraw] at hreply
    rcases hkind with rfl | rfl
    · have hstays := (hsingle.commit_refused _ hreply).trans hinside
      simp [hraw, hstays]
    · rw [(hsingle.rollback _ hinside).1] at hreply
      cases hreply

/-- The outermost end leaves the transaction of the engine, or strands the engine there. -/
theorem Kept.finish (hsingle : SingleTransaction raw inside) (hkept : n.Kept raw inside) :
    (n.step .finish).Kept raw inside := by
  simp only [step, SessionCall.run, Session.finish_apply]
  rcases hframes : n.session.frames with _ | ⟨frame, _ | ⟨parent, outer⟩⟩
  · refine ⟨hkept.raw_eq, hkept.guarded, fun _ => ?_, fun hopen => absurd hframes hopen⟩
    simp only [strandedAfter, Session.depth, hframes, hkept.outside hframes]
    simp
  · obtain ⟨-, hstranded, -⟩ := hkept.within_of_cons hframes
    simp only [hkept.guarded_of_cons hframes, if_true]
    have hkind : ∀ b : Bool, (if b then Message.RequestKind.commit else .rollback) = .commit ∨
        (if b then Message.RequestKind.commit else .rollback) = .rollback := by decide
    obtain ⟨hraw', hinside', -⟩ := hkept.finishTransaction hsingle hframes (hkind frame.succeeds)
    refine ⟨hraw', rfl, fun _ => ?_, fun hopen => absurd rfl hopen⟩
    generalize Link.finishTransaction _ n.link = answer at hinside' ⊢
    rw [Bool.eq_iff_iff, hinside']
    rcases answer with ⟨fault | ⟨⟩, link'⟩
    · simp [strandedAfter, Session.depth, hframes]
    · simp [strandedAfter, hstranded]
  · obtain ⟨-, hstranded, -⟩ := hkept.within_of_cons hframes
    exact hkept.of_cons hframes hstranded

/-- What every call preserves. -/
theorem Kept.step (hsingle : SingleTransaction raw inside) (hkept : n.Kept raw inside)
    (call : SessionCall) : (n.step call).Kept raw inside := by
  cases call with
  | begin => exact hkept.begin hsingle
  | mark => exact hkept.mark
  | finish => exact hkept.finish hsingle

/-- What every run preserves. -/
theorem Kept.run (hsingle : SingleTransaction raw inside) (hkept : n.Kept raw inside)
    (calls : List SessionCall) : (n.run calls).Kept raw inside := by
  induction calls generalizing n with
  | nil => exact hkept
  | cons call rest ih => exact ih (hkept.step hsingle call)

/-- A session that goes rolls back what it guards, but knows nothing of a stranded engine. -/
theorem Kept.discard (hsingle : SingleTransaction raw inside) (hkept : n.Kept raw inside) :
    inside (n.session.discard n.link).engine = n.stranded := by
  unfold Session.discard
  cases hframes : n.session.frames with
  | nil =>
    have hguarded : ¬ n.session.guarded = true := by
      rw [hkept.guarded, Session.inTransaction, hframes]
      decide
    rw [if_neg hguarded]
    exact hkept.outside hframes
  | cons frame outer =>
    obtain ⟨-, hstranded, -⟩ := hkept.within_of_cons hframes
    obtain ⟨-, hinside, hok⟩ := hkept.finishTransaction hsingle hframes (.inr rfl)
    rw [if_pos (hkept.guarded_of_cons hframes), hstranded, Bool.eq_false_iff, ne_eq, hinside,
      hok rfl]
    rintro ⟨fault, hfault⟩
    cases hfault

end Attended

/-- The stack tells the truth about the engine, unless the session has left the engine stranded:
an outermost end has failed, and no beginning has succeeded since.  Then the stack is empty, the
engine is inside a transaction, and it stays there when the session goes; in all other cases it
is outside then. -/
theorem stack_tells_truth_iff_not_stranded {σ : Type} [Engine σ] {link : Link σ}
    {inside : σ → Bool} (hsingle : SingleTransaction link.handle.raw inside)
    (houtside : inside link.engine = false) (calls : List SessionCall) :
    let n := (Attended.start link).run calls
    ((n.session.frames = [] ↔ inside n.link.engine = false) ↔ n.stranded = false) ∧
      (n.stranded = true → n.session.frames = [] ∧ inside n.link.engine = true) ∧
      inside (n.session.discard n.link).engine = n.stranded := by
  intro n
  have hkept : n.Kept link.handle.raw inside :=
    (Attended.kept_start houtside).run hsingle calls
  refine ⟨?_, ?_, hkept.discard hsingle⟩
  · cases hframes : n.session.frames with
    | nil => simp [hkept.outside hframes]
    | cons frame outer =>
      obtain ⟨hinside, hstranded, -⟩ := hkept.within_of_cons hframes
      simp [hinside, hstranded]
  · intro hstranded
    cases hframes : n.session.frames with
    | nil => exact ⟨rfl, (hkept.outside hframes).trans hstranded⟩
    | cons frame outer =>
      obtain ⟨-, hnot, -⟩ := hkept.within_of_cons hframes
      rw [hstranded] at hnot
      cases hnot

/-! ## The reference engine -/

namespace Reference

/-- Whether an instance is inside a transaction. -/
def World.isInTransaction (raw : Int64) (w : World) : Bool :=
  ((w.find? raw).bind (·.connection)).any (·.inTransaction)

/-- What a transaction control does to a connection. -/
def Connection.controlled : Message.RequestKind → ConnectionM Unit
  | .begin => Connection.begin
  | .commit => Connection.commit
  | .rollback => Connection.rollback
  | .query => return ()

section Controls

variable {raw : Int64} {w : World} {i : Instance} {c : Connection}

/-- A reply that comes of a failure is no reply of success. -/
theorem accepted_failure (envelope : Message.Envelope) :
    accepted (some (Reply.failure envelope)) = false := by
  unfold accepted Reply.failure
  cases encode envelope with
  | error fault => rfl
  | ok bytes =>
    simp only [Except.toOption, Outcome.ofReply]
    cases (decode? bytes : Option Message.Envelope) <;> rfl

/-- A control is a matter of the collection of the instance. -/
theorem sendControl_of_instance {kind : Message.RequestKind} (hkind : kind ≠ .query)
    (hfound : w.find? raw = some i) :
    sendControl raw kind w =
      let (answer, i', disk') := Instance.onCollection (Connection.controlled kind) (i, w.disk)
      (some (replyOf (answer.map fun _ => Utf8.encode Json.null.write)),
        w.replace raw i' disk') := by
  have hdecode : decode (Wired.toItem (Message.DbRequest.control kind)).write =
      .ok (Message.DbRequest.control kind) := decode_encode (encode_control kind)
  have hquery : Instance.query (.control kind) =
      (do Instance.onCollection (Connection.controlled kind); return .null) := by
    cases kind with
    | query => exact absurd rfl hkind
    | begin => rfl
    | commit => rfl
    | rollback => rfl
  have hmethod := Method.ofIds?_ids .query
  have hrun : sendControl raw kind w = World.run raw Method.query.ids.1 Method.query.ids.2
    (Wired.toItem (Message.DbRequest.control kind)).write w := rfl
  simp only [hrun, World.run, hfound, hmethod, dispatch, request, hdecode, hquery, bind_apply]
  rcases Instance.onCollection (Connection.controlled kind) (i, w.disk) with
    ⟨envelope | ⟨⟩, i', disk'⟩ <;> rfl

/-- Without a collection every control is refused and nothing changes.  With one it is accepted if
the connection does as it is told. -/
theorem sendControl_cases (kind : Message.RequestKind) (hkind : kind ≠ .query) (raw : Int64)
    (w : World) :
    (accepted (sendControl raw kind w).1 = false ∧ World.isInTransaction raw w = false ∧
      World.isInTransaction raw (sendControl raw kind w).2 = false) ∨
    ∃ c, accepted (sendControl raw kind w).1 = (Connection.controlled kind (c, w.disk)).1.isOk ∧
      World.isInTransaction raw w = c.inTransaction ∧
      World.isInTransaction raw (sendControl raw kind w).2 =
        (Connection.controlled kind (c, w.disk)).2.1.inTransaction := by
  cases hfound : w.find? raw with
  | none =>
    have hrun : sendControl raw kind w = World.run raw Method.query.ids.1 Method.query.ids.2
      (Wired.toItem (Message.DbRequest.control kind)).write w := rfl
    left
    simp only [hrun, World.run, World.isInTransaction, hfound]
    exact ⟨accepted_failure _, rfl, rfl⟩
  | some i =>
    simp only [sendControl_of_instance hkind hfound, Instance.onCollection, World.isInTransaction]
    cases hconnection : i.connection with
    | none =>
      left
      simp only [World.find?_replace, hfound, Option.map_some, Option.bind_some, hconnection]
      exact ⟨accepted_failure _, rfl, rfl⟩
    | some c =>
      right
      refine ⟨c, ?_⟩
      rcases hdone : Connection.controlled kind (c, w.disk) with ⟨fault | ⟨⟩, c', disk'⟩ <;>
        simp only [World.find?_replace, hfound, Option.map_some, Option.bind_some, hconnection,
          hdone]
      · exact ⟨accepted_failure _, rfl, rfl⟩
      · exact ⟨rfl, rfl, rfl⟩

end Controls

section Connections

variable {c : Connection} {disk : Disk}

/-- After a beginning there is a transaction, the new one or the one that made it fail. -/
theorem begin_inTransaction : (Connection.begin (c, disk)).2.1.inTransaction = true ∧
    ((Connection.begin (c, disk)).1.isOk = false → c.inTransaction = true) := by
  simp only [Connection.begin, bind_apply, get_apply]
  by_cases hinside : c.inTransaction = true
  · simp only [if_pos hinside, throw_apply]
    exact ⟨hinside, fun _ => hinside⟩
  · simp only [if_neg hinside, set_apply]
    exact ⟨trivial, fun hfails => nomatch hfails⟩

/-- A commit that is made leaves the transaction, one that is not stays there. -/
theorem commit_inTransaction : (Connection.commit (c, disk)).2.1.inTransaction =
    if (Connection.commit (c, disk)).1.isOk then false else c.inTransaction := by
  simp only [Connection.commit, bind_apply, get_apply]
  by_cases hkept : (c.isWriter disk && c.isObserved disk) = true
  · simp only [if_pos hkept, bind_apply, set_apply, throw_apply]
    rfl
  · simp only [if_neg hkept, set_apply]
    rfl

/-- A rollback always leaves the transaction. -/
theorem rollback_inTransaction : (Connection.rollback (c, disk)).1.isOk = true ∧
    (Connection.rollback (c, disk)).2.1.inTransaction = false :=
  ⟨rfl, rfl⟩

end Connections

/-- The reference engine is inside a transaction or not. -/
theorem singleTransaction (raw : Int64) : SingleTransaction raw (World.isInTransaction raw) where
  begin_accepted w haccepted := by
    rcases sendControl_cases .begin (by decide) raw w with ⟨hrefused, -⟩ | ⟨c, -, -, hafter⟩
    · rw [hrefused] at haccepted
      cases haccepted
    · exact hafter.trans begin_inTransaction.1
  begin_refused w hrefused := by
    rcases sendControl_cases .begin (by decide) raw w with
      ⟨-, hbefore, hafter⟩ | ⟨c, hanswer, hbefore, hafter⟩
    · exact hafter.trans hbefore.symm
    · rw [hafter, hbefore, begin_inTransaction.2 (hanswer.symm.trans hrefused)]
      exact begin_inTransaction.1
  commit_accepted w haccepted := by
    rcases sendControl_cases .commit (by decide) raw w with ⟨hrefused, -⟩ | ⟨c, hanswer, -, hafter⟩
    · rw [hrefused] at haccepted
      cases haccepted
    · exact hafter.trans (commit_inTransaction.trans (if_pos (hanswer.symm.trans haccepted)))
  commit_refused w hrefused := by
    rcases sendControl_cases .commit (by decide) raw w with
      ⟨-, hbefore, hafter⟩ | ⟨c, hanswer, hbefore, hafter⟩
    · exact hafter.trans hbefore.symm
    · have hfails : ¬ (Connection.commit (c, w.disk)).1.isOk = true := by
        have hcommit := hanswer.symm.trans hrefused
        exact Bool.eq_false_iff.mp hcommit
      exact hafter.trans ((commit_inTransaction.trans (if_neg hfails)).trans hbefore.symm)
  rollback w hinside := by
    rcases sendControl_cases .rollback (by decide) raw w with
      ⟨-, hbefore, -⟩ | ⟨c, hanswer, -, hafter⟩
    · rw [hbefore] at hinside
      cases hinside
    · exact ⟨hanswer.trans rollback_inTransaction.1, hafter.trans rollback_inTransaction.2⟩

end Reference

open Reference

/-- A session that goes while a frame is open leaves the reference engine outside, although the
frame inside it was marked and ended. -/
theorem abandoned_session_rolls_back :
    let n := (Attended.start inMemory).run [.begin, .begin, .mark, .finish]
    World.isInTransaction 1 n.link.engine = true ∧
      World.isInTransaction 1 (n.session.discard n.link).engine = false := by
  intro n
  have hstranded : n.stranded = false := by decide +kernel
  have hframes : n.session.frames ≠ [] := by decide +kernel
  obtain ⟨htruth, -, hdropped⟩ := stack_tells_truth_iff_not_stranded
    (singleTransaction inMemory.handle.raw) rfl [.begin, .begin, .mark, .finish]
  have hinside := mt (htruth.mpr hstranded).mpr hframes
  exact ⟨Bool.not_eq_false _ ▸ hinside, hdropped.trans hstranded⟩

/-! ## A stranded engine -/

/-- An engine that is inside a transaction or not and refuses every commit. -/
structure Stubborn where
  inside : Bool

/-- The answer to a request of the given kind. -/
def Stubborn.answer (e : Stubborn) : Message.RequestKind → Option Reply × Stubborn
  | .begin => if e.inside then (none, e) else (some (.success []), ⟨true⟩)
  | .rollback => (some (.success []), ⟨false⟩)
  | _ => (none, e)

instance : Engine Stubborn where
  setUp e := (.ok (), e)
  openInstance _ e := (some (.success []), e)
  closeInstance _ e := e
  run _ _ _ payload e :=
    match (decode payload : Except CodecFault Message.DbRequest) with
    | .ok request => e.answer request.kind
    | .error _ => (none, e)

theorem Stubborn.sendControl_eq (raw : Int64) (kind : Message.RequestKind) (e : Stubborn) :
    sendControl raw kind e = e.answer kind := by
  have hdecode : decode (Wired.toItem (Message.DbRequest.control kind)).write =
      .ok (Message.DbRequest.control kind) := decode_encode (encode_control kind)
  simp only [sendControl, Engine.run, hdecode]
  rfl

/-- It is one of those engines. -/
theorem Stubborn.singleTransaction (raw : Int64) : SingleTransaction raw Stubborn.inside := by
  constructor <;> intro e <;> rw [sendControl_eq] <;> rcases e with ⟨_ | _⟩ <;> decide

/-- Instances with the handles 1 and 2 of the reference engine have the same file open.  The
second one is inside a transaction and has read the table. -/
def observed : Link World :=
  let file := Location.file Location.directory "x.db"
  let table : Table := ⟨"t", [⟨"a", false, false⟩, ⟨"b", false, false⟩], []⟩
  let instanceOf (connection : Connection) : Instance :=
    { Instance.create [] with connection := some connection }
  { handle := Handle.create 1
    engine :=
      { instances :=
          [(1, instanceOf (Connection.create 1 file false)),
            (2, instanceOf { Connection.create 2 file false with
              inTransaction := true, known := some 1 })]
        next := 3
        disk := [{ Disk.fresh file (.database [table]) with readers := [2] }] } }

/-- The session of the first instance begins, a row is inserted, and the marked frame ends. -/
def endedWhileObserved : Session × Link World :=
  let ((_, session), link) := Session.begin Session.empty observed
  let (_, link) := Link.execute "insert into t (a) values (1)" [] link
  let ((_, session), link) := Session.mark session link
  let ((_, session), link) := Session.finish session link
  (session, link)

/-- An engine outside a transaction that refuses every commit, on a link. -/
def stubborn : Link Stubborn := ⟨Handle.create 1, ⟨false⟩⟩

/-- A refused commit strands the engine: the stack is empty, the engine is inside a transaction, and
it stays there when the session goes.  So it is with an engine that refuses every commit, and
with the reference engine when another connection has read what the session wants to change. -/
theorem refused_commit_strands_engine :
    (SingleTransaction 1 Stubborn.inside ∧
      ((Attended.start stubborn).run [.begin, .mark, .finish]).session.frames = [] ∧
      ((Attended.start stubborn).run [.begin, .mark, .finish]).link.engine.inside = true) ∧
    endedWhileObserved.1.frames = [] ∧
      World.isInTransaction 1 endedWhileObserved.2.engine = true ∧
      World.isInTransaction 1 (endedWhileObserved.1.discard endedWhileObserved.2).engine =
        true := by
  constructor
  · exact ⟨Stubborn.singleTransaction 1, by decide +kernel, by decide +kernel⟩
  · decide +kernel

end EngineLink
