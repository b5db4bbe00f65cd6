import EngineLink.Proofs.Client.EveryCall
import EngineLink.Proofs.Client.HandleLatches
import EngineLink.Proofs.Client.LockRoutine

/-!
# Blocks inside blocks

A block is a closure put between the beginning and the end of a transaction.  The closure runs
statements and blocks inside it in any order, deals with their errors as it likes, and returns a
value or an error.  Here a closure is played a second time without a session: its statements are
run one after the other, and all that is kept is whether the closures of the blocks inside it
returned a value.  What the session does on top of that is to begin before, and to end after: with a
commit exactly if every closure returned a value, and a rollback otherwise.

Main results:

- Theorem {lit}`Closure.run_inside`: a closure in an open frame does what it does without a session,
  and the frame fails with the blocks inside it.
- Theorem {lit}`DatabaseCall.asks_noEnd`: no statement asks for the end of a transaction.
- Theorem {lit}`blocks_commit_iff_all_return`: what a block does, at any depth and on any engine.
-/

namespace EngineLink

open Effects

/-! ## Statements -/

/-- A call of an object with the object, which goes on whatever the call answers. -/
def withObject {ω σ α : Type} (call : ObjectM ω σ α) (o : ω) : LinkM σ (Except Error α × ω) :=
  fun link => (.ok (call o link).1, (call o link).2)

/-- A call of a database that has nothing to do with its transactions, or of one of its statements
and cursors, by the type of what it answers. -/
inductive DatabaseCall : Type → Type where
  | query (sql : String) (args : List Value) (recentPages : Nat) : DatabaseCall Cursor
  | fullQuery (sql : String) (args : List Value) : DatabaseCall (List (List Json))
  | exec (sql : String) (args : List Value) : DatabaseCall Unit
  | execute (sql : String) (args : List Value) : DatabaseCall Int64
  | insertForId (sql : String) (args : List Value) : DatabaseCall Int64
  | insert (table : String) (conflict : Conflict) (values : List (String × Value)) :
      DatabaseCall Int64
  | update (table : String) (conflict : Conflict) (values : List (String × Value))
      (condition : Option String) (args : List Value) : DatabaseCall Int64
  | delete (table : String) (condition : Option String) (args : List Value) : DatabaseCall Int64
  | integrityOk : DatabaseCall Bool
  | setPageSize (bytes : UInt64) : DatabaseCall Unit
  | firstInteger (s : Statement) (recentPages : Nat) : DatabaseCall Int64
  | firstText (s : Statement) (recentPages : Nat) : DatabaseCall (Option String)
  | move (step : Move) (c : Cursor) : DatabaseCall (Except Error Bool × Cursor)
  | columnNames (c : Cursor) : DatabaseCall (Except Error (List String) × Cursor)
  | closeCursor (c : Cursor) : DatabaseCall (Except Error Unit × Cursor)

/-- Make a call. -/
def DatabaseCall.run {σ : Type} [Engine σ] {α : Type} : DatabaseCall α → LinkM σ α
  | .query sql args recentPages => Database.query sql args recentPages
  | .fullQuery sql args => Database.fullQuery sql args
  | .exec sql args => Database.exec sql args
  | .execute sql args => Database.execute sql args
  | .insertForId sql args => Database.insertForId sql args
  | .insert table conflict values => Database.insert table conflict values
  | .update table conflict values condition args =>
    Database.update table conflict values condition args
  | .delete table condition args => Database.delete table condition args
  | .integrityOk => Database.integrityOk
  | .setPageSize bytes => Link.setPageSize bytes
  | .firstInteger s recentPages => s.firstInteger recentPages
  | .firstText s recentPages => s.firstText recentPages
  | .move step c => withObject step.run c
  | .columnNames c => withObject Cursor.columnNames c
  | .closeCursor c => withObject Cursor.close c

/-! ## Closures -/

/-- Put a computation into a transaction of a session. -/
def Session.withTransaction {σ : Type} [Engine σ] {α : Type} (body : SessionM σ α) : SessionM σ α :=
  Session.within (m := StateT Session (StateM (Link σ))) Session.begin Session.mark Session.finish
    body

/-- What a closure does: it returns a value or an error, or runs a statement or a block and goes on
with what comes of it, be it an error. -/
inductive Closure : Type → Type 1 where
  | result {α : Type} (r : Except Error α) : Closure α
  | statement {α β : Type} (call : DatabaseCall β) (next : Except Error β → Closure α) : Closure α
  | block {α β : Type} (inner : Closure β) (next : Except Error β → Closure α) : Closure α

/-- What comes of a closure without a session: what it returns, the link, and whether the closures
of the blocks inside it returned a value, one after the other. -/
structure Played (σ α : Type) where
  value : Except Error α
  link : Link σ
  blocks : List Bool

/-- Whether the closure and those of the blocks inside it returned a value. -/
def Played.allReturn {σ α : Type} (p : Played σ α) : Bool := p.value.isOk && p.blocks.all id

/-- How the transaction of an outermost block is ended. -/
def Played.verdict {σ α : Type} (p : Played σ α) : Message.RequestKind :=
  if p.allReturn then .commit else .rollback

namespace Closure

variable {σ : Type} [Engine σ]

/-- Run a closure in a session. -/
def run {α : Type} : Closure α → SessionM σ α
  | .result r => fun s link => ((r, s), link)
  | .statement call next => fun s link =>
    let (answer, link) := call.run link
    (next answer).run s link
  | .block inner next => fun s link =>
    let ((answer, s), link) := Session.withTransaction inner.run s link
    (next answer).run s link

/-- Play a closure without a session. -/
def play {α : Type} : Closure α → Link σ → Played σ α
  | .result r, link => ⟨r, link, []⟩
  | .statement call next, link => (next (call.run link).1).play (call.run link).2
  | .block inner next, link =>
    let p := inner.play link
    let q := (next p.value).play p.link
    { q with blocks := p.blocks ++ p.value.isOk :: q.blocks }

end Closure

/-! ## Inside a frame -/

section Frames

variable {σ : Type} [Engine σ] {α : Type}

/-- A computation in a transaction: it is run between the beginning and the end, and marked before
the end if it returns a value. -/
theorem Session.withTransaction_apply (body : SessionM σ α) (s : Session) (link : Link σ) :
    withTransaction body s link =
      match begin s link with
      | ((.error fault, s₁), link₁) => ((.error fault, s₁), link₁)
      | ((.ok (), s₁), link₁) =>
        match body s₁ link₁ with
        | ((.error fault, s₂), link₂) =>
          ((.error fault, (finish s₂ link₂).1.2), (finish s₂ link₂).2)
        | ((.ok value, s₂), link₂) =>
          match mark s₂ link₂ with
          | ((.error fault, s₃), link₃) => ((.error fault, s₃), link₃)
          | ((.ok (), s₃), link₃) =>
            (((finish s₃ link₃).1.1.map fun _ => value, (finish s₃ link₃).1.2),
              (finish s₃ link₃).2) := by
  have hbind {β γ : Type} (x : StateT Session (StateM (Link σ)) β)
      (f : β → StateT Session (StateM (Link σ)) γ) (s : Session) (link : Link σ) :
      (x >>= f) s link = f (x s link).1.1 (x s link).1.2 (x s link).2 := rfl
  simp only [withTransaction, within, hbind]
  rcases begin s link with ⟨⟨fault | ⟨⟩, s₁⟩, link₁⟩
  · rfl
  · simp only [hbind]
    rcases body s₁ link₁ with ⟨⟨fault | value, s₂⟩, link₂⟩
    · rfl
    · simp only [hbind]
      rcases mark s₂ link₂ with ⟨⟨fault | ⟨⟩, s₃⟩, link₃⟩
      · rfl
      · simp only [hbind]
        rcases finish s₃ link₃ with ⟨⟨fault | ⟨⟩, s₄⟩, link₄⟩ <;> rfl

/-- A computation in a transaction inside another one: the frame around it fails if the
computation does not succeed, and nothing else is done on top of it. -/
theorem Session.withTransaction_inside {body : SessionM σ α} {frame : Frame} {outer : List Frame}
    {guarded : Bool} {link link' : Link σ} {value : Except Error α} {failed : Bool}
    (hbody : body ⟨Frame.fresh :: frame :: outer, guarded⟩ link =
      ((value, ⟨⟨false, failed⟩ :: frame :: outer, guarded⟩), link')) :
    withTransaction body ⟨frame :: outer, guarded⟩ link =
      ((value,
        ⟨{ frame with failed := frame.failed || !(value.isOk && !failed) } :: outer, guarded⟩),
        link') := by
  rw [withTransaction_apply, begin_apply]
  simp only [hbody]
  cases value with
  | error fault =>
    simp only [finish_apply]
    rfl
  | ok value =>
    simp only [mark_apply, finish_apply]
    rfl

namespace Closure

/-- A closure in an open frame does what it does without a session, and the frame fails unless the
closures of all blocks inside it return a value. -/
theorem run_inside (c : Closure α) (frame : Frame) (outer : List Frame) (guarded : Bool)
    (link : Link σ) :
    c.run ⟨frame :: outer, guarded⟩ link =
      (((c.play link).value,
        ⟨{ frame with failed := frame.failed || !(c.play link).blocks.all id } :: outer, guarded⟩),
        (c.play link).link) := by
  induction c generalizing frame outer link with
  | result r => simp [run, play]
  | statement call next ih => exact ih _ frame outer _
  | block inner next ihInner ihNext =>
    -- the block inside is entered with a fresh frame, which fails with the blocks inside it
    have hblock := Session.withTransaction_inside (ihInner Frame.fresh (frame :: outer) link)
    simp only [run, play, hblock, ihNext]
    simp [Frame.fresh, Bool.or_assoc, Bool.or_left_comm]

/-- A block inside another one. -/
theorem withTransaction_of_cons (c : Closure α) {s : Session} {frame : Frame} {outer : List Frame}
    (hframes : s.frames = frame :: outer) (link : Link σ) :
    Session.withTransaction c.run s link =
      (((c.play link).value,
        { s with frames :=
          { frame with failed := frame.failed || !(c.play link).allReturn } :: outer }),
        (c.play link).link) := by
  obtain ⟨frames, guarded⟩ := s
  obtain rfl : frames = frame :: outer := hframes
  rw [Session.withTransaction_inside (c.run_inside Frame.fresh (frame :: outer) guarded link)]
  simp [Frame.fresh, Played.allReturn]

/-- An outermost block that does not begin does nothing else. -/
theorem withTransaction_of_refused (c : Closure α) {s : Session} (hframes : s.frames = [])
    {link link' : Link σ} {fault : Error}
    (hbegin : Link.beginTransaction link = (.error fault, link')) :
    Session.withTransaction c.run s link = ((.error fault, s), link') := by
  rw [Session.withTransaction_apply, Session.begin_apply]
  simp only [hframes, hbegin]

/-- An outermost block that begins ends the transaction once, after all that its closure does. -/
theorem withTransaction_of_begun (c : Closure α) {s : Session} (hframes : s.frames = [])
    {link link' : Link σ} (hbegin : Link.beginTransaction link = (.ok (), link')) :
    let p := c.play link'
    let ended := Link.finishTransaction p.verdict p.link
    Session.withTransaction c.run s link =
      ((p.value.bind fun value => ended.1.map fun _ => value, Session.empty), ended.2) := by
  intro p ended
  have hrun : c.run ⟨[Frame.fresh], true⟩ link' =
      ((p.value, ⟨[⟨false, !p.blocks.all id⟩], true⟩), p.link) :=
    c.run_inside Frame.fresh [] true link'
  rw [Session.withTransaction_apply, Session.begin_apply]
  simp only [hframes, hbegin, hrun]
  cases hvalue : p.value with
  | error fault =>
    have hverdict : p.verdict = .rollback := by
      simp [Played.verdict, Played.allReturn, hvalue, Except.isOk, Except.toBool]
    simp only [Session.finish_apply, if_true, ended, hverdict]
    rfl
  | ok value =>
    have hverdict : p.verdict = if p.blocks.all id then .commit else .rollback := by
      simp [Played.verdict, Played.allReturn, hvalue, Except.isOk, Except.toBool]
    simp only [Session.mark_apply, Session.finish_apply, if_true, ended, hverdict, Frame.succeeds,
      Bool.not_not, Bool.true_and]
    rfl

end Closure

end Frames

/-! ## What the engine hears -/

section Hearing

open Allowance

variable {σ α : Type} [Engine σ]

/-- The ends of transactions an engine was asked for, the first one first. -/
def endsHeard {σ : Type} (link : Link (Overheard σ)) : List Message.RequestKind :=
  link.engine.exchanges.filterMap fun e => requestedEnd? e.service e.method e.payload

/-- A call by numbers is heard if the handle lets it through. -/
theorem endsHeard_invoke (service method : UInt32) (payload : Bytes) (link : Link (Overheard σ)) :
    endsHeard (Link.invoke service method payload link).2 =
      endsHeard link ++
        if link.handle.isOpen && !link.handle.isPoisoned then
          (requestedEnd? service method payload).toList
        else [] := by
  rcases invoke_cases service method payload link with
    ⟨hraw, hinvoke⟩ | ⟨-, reason, hpoison, hinvoke⟩ | ⟨hraw, hpoison, reply, hexchanges, -⟩
  · simp [hinvoke, Handle.isOpen, hraw]
  · simp [hinvoke, Handle.isPoisoned, hpoison]
  · cases hread : requestedEnd? service method payload <;>
      simp [endsHeard, hexchanges, Handle.isOpen, hraw, Handle.isPoisoned, hpoison, hread]

/-- Anything may be asked that no engine reads as the end of a transaction. -/
def Allowance.noEnd : Allowance := fun service method payload =>
  requestedEnd? service method payload = none

/-- Only one method knows of transactions. -/
theorem Allowance.allows_noEnd {method : Method} (hmethod : method ≠ .query) :
    noEnd.Allows method := by
  intro payload
  have hids : (method.ids.1, method.ids.2) ≠ Method.query.ids := by
    revert hmethod
    cases method <;> decide
  rw [noEnd, requestedEnd?, if_neg hids]

/-- A request for rows asks for the end of no transaction. -/
theorem Allowance.admits_noEnd (sql : String) (args : List Value) :
    noEnd.Admits .query (Message.DbRequest.query sql args) := by
  intro payload hencode
  rw [noEnd, requestedEnd?_of_encode hencode]
  rfl

/-- No end is heard of as long as none is asked for. -/
theorem stable_endsHeard (ends : List Message.RequestKind) :
    Stable .noEnd fun link : Link (Overheard σ) => endsHeard link = ends where
  invoke service method payload link hnone hlink := by
    rw [endsHeard_invoke, hnone, hlink]
    simp
  note _ _ _ hlink := hlink

/-- No statement asks for the end of a transaction. -/
theorem DatabaseCall.asks_noEnd (call : DatabaseCall α) :
    Asks .noEnd (call.run : LinkM σ α) := by
  cases call with
  | query sql args recentPages =>
    exact asks_databaseQuery sql args recentPages (allows_noEnd (by decide))
  | fullQuery sql args => exact asks_fullQuery sql args (admits_noEnd sql args)
  | exec sql args => exact asks_databaseExec sql args (admits_noEnd sql args)
  | execute sql args => exact asks_databaseExecute sql args (allows_noEnd (by decide))
  | insertForId sql args => exact asks_insertForId sql args (allows_noEnd (by decide))
  | insert table conflict values =>
    exact asks_databaseInsert table conflict values (allows_noEnd (by decide))
  | update table conflict values condition args =>
    exact asks_databaseUpdate table conflict values condition args (allows_noEnd (by decide))
  | delete table condition args => exact asks_delete table condition args (allows_noEnd (by decide))
  | integrityOk => exact asks_integrityOk (admits_noEnd _ _)
  | setPageSize bytes => exact asks_tell _ _ ((allows_noEnd (by decide)).admits _)
  | firstInteger s recentPages =>
    exact asks_firstAs _ s recentPages (allows_noEnd (by decide)) (allows_noEnd (by decide))
      (allows_noEnd (by decide))
  | firstText s recentPages =>
    exact asks_firstAs _ s recentPages (allows_noEnd (by decide)) (allows_noEnd (by decide))
      (allows_noEnd (by decide))
  | move step c => exact (asks_move step (allows_noEnd (by decide)) c).of_link_eq fun _ => rfl
  | columnNames c => exact (asks_cursorNames (allows_noEnd (by decide)) c).of_link_eq fun _ => rfl
  | closeCursor c => exact (asks_closeCursor (allows_noEnd (by decide)) c).of_link_eq fun _ => rfl

/-- Nor does a closure without a session. -/
theorem endsHeard_play (c : Closure α) (link : Link (Overheard σ)) :
    endsHeard (c.play link).link = endsHeard link := by
  induction c generalizing link with
  | result r => rfl
  | statement call next ih =>
    exact (ih _ _).trans (call.asks_noEnd _ (stable_endsHeard _) link rfl)
  | block inner next ihInner ihNext => exact (ihNext _ _).trans (ihInner link)

/-- A transaction control is heard if the handle lets it through. -/
theorem endsHeard_control (kind : Message.RequestKind) (link : Link (Overheard σ)) :
    endsHeard (Link.control kind link).2 =
      endsHeard link ++
        if link.handle.isOpen && !link.handle.isPoisoned && kind ∈ [.commit, .rollback] then [kind]
        else [] := by
  rw [control_link, send_of_ok .query (encode_control kind), endsHeard_invoke,
    requestedEnd?_of_encode (encode_control kind)]
  cases link.handle.isOpen <;> cases link.handle.isPoisoned <;> cases kind <;> rfl

omit [Engine σ] in
@[simp]
theorem endsHeard_release (link : Link (Overheard σ)) : endsHeard link.release = endsHeard link :=
  rfl

/-- A beginning is not heard as an end. -/
theorem endsHeard_beginTransaction (link : Link (Overheard σ)) :
    endsHeard (Link.beginTransaction link).2 = endsHeard link := by
  have hcontrol := endsHeard_control .begin link
  have hnot : decide (Message.RequestKind.begin ∈ [.commit, .rollback]) = false := rfl
  rw [hnot, Bool.and_false, if_neg Bool.false_ne_true, List.append_nil] at hcontrol
  rw [Link.beginTransaction_eq]
  generalize Link.control .begin link = answer at hcontrol ⊢
  obtain ⟨fault | ⟨⟩, link'⟩ := answer
  · exact hcontrol
  · exact hcontrol

end Hearing

/-! ## What a block does -/

namespace Closure

variable {σ : Type} [Engine σ] {α : Type}

/-- What a block does, at any depth and on any link. -/
structure Lawful (c : Closure α) (s : Session) (link : Link σ) : Prop where
  /-- As many frames are open after a block as before it, on success or error. -/
  depth_eq : (Session.withTransaction c.run s link).1.2.depth = s.depth
  /-- If an outermost block does not begin, its closure is not run and no frame is opened. -/
  refused : s.depth = 0 → ∀ fault link', Link.beginTransaction link = (.error fault, link') →
    Session.withTransaction c.run s link = ((.error fault, s), link')
  /-- If it begins, one end is asked for after all that the closure does, a commit exactly if the
  closures of all blocks returned a value. -/
  begun : s.depth = 0 → ∀ link', Link.beginTransaction link = (.ok (), link') →
    (Session.withTransaction c.run s link).2 =
      (Link.finishTransaction
        (if (c.play link').value.isOk ∧ ∀ returned ∈ (c.play link').blocks, returned = true
          then .commit else .rollback) (c.play link').link).2
  /-- It fails exactly if its closure does, and then with the same error, or if its closure returns
  a value and the end fails. -/
  error_iff : s.depth = 0 → ∀ link', Link.beginTransaction link = (.ok (), link') → ∀ fault,
    (Session.withTransaction c.run s link).1.1 = .error fault ↔
      (c.play link').value = .error fault ∨ (c.play link').value.isOk = true ∧
        (Link.finishTransaction (c.play link').verdict (c.play link').link).1 = .error fault
  /-- An inner block does what its closure does and fails exactly if that does.  The frame around it
  fails unless the closures of all blocks returned a value. -/
  inner : ∀ frame outer, s.frames = frame :: outer →
    Session.withTransaction c.run s link =
      (((c.play link).value,
        { s with frames :=
          { frame with failed := frame.failed || !(c.play link).allReturn } :: outer }),
        (c.play link).link)

/-- Which ends of transactions an engine hears of in a block. -/
structure HeardOnce (c : Closure α) (s : Session) (link : Link (Overheard σ)) : Prop where
  /-- An outermost block that begins is heard to ask for one end, the one it is to ask for, if the
  handle still lets calls through by then. -/
  begun : s.depth = 0 → ∀ link', Link.beginTransaction link = (.ok (), link') →
    endsHeard (Session.withTransaction c.run s link).2 =
      endsHeard link ++
        if (c.play link').link.handle.isOpen && !(c.play link').link.handle.isPoisoned then
          [(c.play link').verdict]
        else []
  /-- Any other block is heard to ask for none. -/
  otherwise : (0 < s.depth ∨ ∃ fault, (Link.beginTransaction link).1 = .error fault) →
    endsHeard (Session.withTransaction c.run s link).2 = endsHeard link

/-- The verdict in the words of the closures. -/
theorem verdict_play (c : Closure α) (link : Link σ) :
    (c.play link).verdict =
      if (c.play link).value.isOk ∧ ∀ returned ∈ (c.play link).blocks, returned = true
        then .commit else .rollback := by
  simp [Played.verdict, Played.allReturn]

theorem lawful (c : Closure α) (s : Session) (link : Link σ) : c.Lawful s link where
  depth_eq := by
    cases hframes : s.frames with
    | nil =>
      rcases hbegin : Link.beginTransaction link with ⟨fault | ⟨⟩, link'⟩
      · rw [c.withTransaction_of_refused hframes hbegin]
      · rw [c.withTransaction_of_begun hframes hbegin, Session.depth, Session.depth, hframes]
        rfl
    | cons frame outer =>
      rw [c.withTransaction_of_cons hframes, Session.depth, Session.depth, hframes]
      rfl
  refused hdepth fault link' hbegin :=
    c.withTransaction_of_refused (List.length_eq_zero_iff.mp hdepth) hbegin
  begun hdepth link' hbegin := by
    rw [c.withTransaction_of_begun (List.length_eq_zero_iff.mp hdepth) hbegin, verdict_play]
  error_iff hdepth link' hbegin fault := by
    rw [c.withTransaction_of_begun (List.length_eq_zero_iff.mp hdepth) hbegin]
    cases (c.play link').value with
    | error fault' => simp [Except.bind, Except.isOk, Except.toBool]
    | ok value =>
      cases (Link.finishTransaction (c.play link').verdict (c.play link').link).1 <;>
        simp [Except.bind, Except.map, Except.isOk, Except.toBool]
  inner frame outer hframes := c.withTransaction_of_cons hframes link

theorem heardOnce (c : Closure α) (s : Session) (link : Link (Overheard σ)) :
    c.HeardOnce s link where
  begun hdepth link' hbegin := by
    have hbegun : endsHeard link' = endsHeard link := by
      simpa only [hbegin] using endsHeard_beginTransaction link
    have hkind : (c.play link').verdict ∈ [Message.RequestKind.commit, .rollback] := by
      unfold Played.verdict
      split <;> simp
    rw [c.withTransaction_of_begun (List.length_eq_zero_iff.mp hdepth) hbegin,
      Link.finishTransaction_eq, ← hbegun, ← endsHeard_play c link']
    simp only [endsHeard_release, endsHeard_control, decide_eq_true hkind, Bool.and_true]
  otherwise hother := by
    cases hframes : s.frames with
    | cons frame outer =>
      rw [c.withTransaction_of_cons hframes]
      exact endsHeard_play c link
    | nil =>
      have hbegun := endsHeard_beginTransaction link
      rcases hbegin : Link.beginTransaction link with ⟨fault | ⟨⟩, link'⟩
      · rw [hbegin] at hbegun
        rw [c.withTransaction_of_refused hframes hbegin]
        exact hbegun
      · rw [Session.depth, hframes, hbegin] at hother
        simp at hother

end Closure

/-- Blocks over any nesting.  For every closure, at every depth and whatever the engine replies: the
depth is the same afterwards; an outermost block that begins asks for one end, a commit exactly if
the closures of all blocks entered returned a value and a rollback otherwise; a block fails exactly
if it does not begin, if its closure fails, or if its closure returns a value and the end fails. -/
theorem blocks_commit_iff_all_return {σ : Type} [Engine σ] {α : Type} (c : Closure α)
    (s : Session) :
    (∀ link : Link σ, c.Lawful s link) ∧ ∀ link : Link (Overheard σ), c.HeardOnce s link :=
  ⟨c.lawful s, c.heardOnce s⟩

-- an error of an inner block costs the commit, even if the closure around it does not care
example (link : Link Stubborn) :
    ((Closure.block (.result (.error .closed) : Closure Unit) fun _ => .result (.ok ())).play
      link).verdict = .rollback :=
  rfl

end EngineLink
