import EngineLink.Client.Statement
import EngineLink.Proofs.Client.CursorPages

/-!
# What every call keeps

A call of a client, and of its cursors, sessions, databases and statements, does three things to a
link and no others: it asks the engine by numbers, it notes the active query, and it counts how
often the lock is taken.  Which methods it asks for, and with which requests, is said once for every
call here.  A property of links that survives everything that a call may ask, and that does not
depend on the active query and the lock, survives the call.

Main results:

- Definition {lit}`Asks`: a call that asks the engine for nothing but what is allowed.
- Theorem {lit}`Asks.bind` and {lit}`ObjectAsks.bind`: one call after another.
- Theorem {lit}`asks_send`: a request; every typed call is made of it.
- Theorem {lit}`asks_moveTo`, {lit}`asks_firstValue` and others: the calls of objects.
-/

namespace EngineLink

open Effects

/-! ## What may be asked -/

/-- What may be asked of an engine, by the numbers of a method and the payload. -/
abbrev Allowance := UInt32 → UInt32 → Bytes → Prop

namespace Allowance

/-- Anything may be asked. -/
def any : Allowance := fun _ _ _ => True

/-- Everything may be asked under a method. -/
def Allows (A : Allowance) (method : Method) : Prop :=
  ∀ payload, A method.ids.1 method.ids.2 payload

/-- A request may be sent under a method. -/
def Admits (A : Allowance) {α : Type} [Wired α] (method : Method) (request : α) : Prop :=
  ∀ payload, encode request = .ok payload → A method.ids.1 method.ids.2 payload

/-- A method that is allowed is allowed with any request. -/
theorem Allows.admits {A : Allowance} {α : Type} [Wired α] {method : Method}
    (hmethod : A.Allows method) (request : α) : A.Admits method request :=
  fun payload _ => hmethod payload

end Allowance

/-- A property of links that is kept by what calls are made of, if they ask for nothing but what is
allowed. -/
structure Stable {σ : Type} [Engine σ] (A : Allowance) (P : Link σ → Prop) : Prop where
  /-- A call by numbers that is allowed keeps it. -/
  invoke : ∀ service method payload link, A service method payload → P link →
    P (Link.invoke service method payload link).2
  /-- It does not depend on the active query, nor on the lock. -/
  note : ∀ link active holds, P link →
    P { link with handle := { link.handle with active, holds } }

section Calls

variable {σ ω α β : Type} [Engine σ] {A : Allowance}

/-- A computation on a link that asks for nothing but what is allowed: it keeps every property that
this keeps. -/
def Asks (A : Allowance) (call : Link σ → α × Link σ) : Prop :=
  ∀ P, Stable A P → ∀ link, P link → P (call link).2

/-- A call by an object that asks for nothing but what is allowed, whatever the object. -/
def ObjectAsks (A : Allowance) (call : ObjectM ω σ α) : Prop := ∀ o, Asks A (call o)

/-- A computation on a link that may ask for anything. -/
abbrev Ordinary (call : Link σ → α × Link σ) : Prop := Asks .any call

/-- A call by an object that may ask for anything. -/
abbrev OrdinaryObject (call : ObjectM ω σ α) : Prop := ObjectAsks .any call

/-! ## One call after another -/

theorem asks_pure (a : α) : Asks A (pure a : LinkM σ α) := fun _ _ _ hlink => hlink

theorem asks_throw (fault : Error) : Asks A (throw fault : LinkM σ α) := fun _ _ _ hlink => hlink

/-- A call whose answer is an error ends the calls after it, and any other one goes on. -/
theorem Asks.bind {call : LinkM σ α} {next : α → LinkM σ β} (hcall : Asks A call)
    (hnext : ∀ a, Asks A (next a)) : Asks A (call >>= next) := by
  intro P hstable link hlink
  have hfirst := hcall P hstable link hlink
  rw [bind_apply]
  generalize call link = answer at hfirst ⊢
  obtain ⟨fault | a, link'⟩ := answer
  · exact hfirst
  · exact hnext a P hstable link' hfirst

/-- What a call answers does not matter. -/
theorem Asks.answering {call : LinkM σ α} (hcall : Asks A call) (f : α → β) :
    Asks A (call >>= fun a => pure (f a)) :=
  hcall.bind fun a => asks_pure (f a)

/-- Nor do the words of its errors. -/
theorem Asks.annotated {call : LinkM σ α} (hcall : Asks A call) (sql : String) :
    Asks A (Database.annotated sql call) := hcall

/-- Only what a call does to the link matters. -/
theorem Asks.of_link_eq {call : Link σ → α × Link σ} {call' : Link σ → β × Link σ}
    (hcall' : Asks A call') (hlink : ∀ link, (call link).2 = (call' link).2) : Asks A call := by
  intro P hstable link hP
  rw [hlink]
  exact hcall' P hstable link hP

theorem objectAsks_pure (a : α) : ObjectAsks A (pure a : ObjectM ω σ α) :=
  fun _ _ _ _ hlink => hlink

theorem objectAsks_throw (fault : Error) : ObjectAsks A (throw fault : ObjectM ω σ α) :=
  fun _ _ _ _ hlink => hlink

theorem objectAsks_get : ObjectAsks A (getThe ω : ObjectM ω σ ω) :=
  fun _ _ _ _ hlink => hlink

theorem objectAsks_set (o : ω) : ObjectAsks A (set o : ObjectM ω σ PUnit) :=
  fun _ _ _ _ hlink => hlink

/-- An object makes a call on its link. -/
theorem Asks.onLink {call : LinkM σ α} (hcall : Asks A call) :
    ObjectAsks A (EngineLink.onLink call : ObjectM ω σ α) := fun _ => hcall

/-- One call of an object after another. -/
theorem ObjectAsks.bind {call : ObjectM ω σ α} {next : α → ObjectM ω σ β}
    (hcall : ObjectAsks A call) (hnext : ∀ a, ObjectAsks A (next a)) :
    ObjectAsks A (call >>= next) := by
  intro o P hstable link hlink
  have hfirst := hcall o P hstable link hlink
  rw [object_bind_apply]
  generalize call o link = answer at hfirst ⊢
  obtain ⟨⟨fault | a, o'⟩, link'⟩ := answer
  · exact hfirst
  · exact hnext a o' P hstable link' hfirst

/-- What a call of an object answers does not matter. -/
theorem ObjectAsks.answering {call : ObjectM ω σ α} (hcall : ObjectAsks A call) (f : α → β) :
    ObjectAsks A (call >>= fun a => pure (f a)) :=
  hcall.bind fun a => objectAsks_pure (f a)

/-! ## Typed calls

What a call asks for stands last among its arguments.  It need not be given if anything is
allowed. -/

/-- The call by numbers itself, which every other call comes down to. -/
theorem asks_invoke (service method : UInt32) (payload : Bytes)
    (hallowed : A service method payload := by exact trivial) :
    Asks A (Link.invoke service method payload : LinkM σ Bytes) :=
  fun _ hstable link => hstable.invoke service method payload link hallowed

/-- The active query is noted, or the lock is counted. -/
theorem asks_setHandle {change : Handle → Handle}
    (hchange : ∀ h, ∃ active holds, change h = { h with active, holds }) :
    Asks A (Link.setHandle change : LinkM σ Unit) := by
  intro P hstable link hlink
  obtain ⟨active, holds, hnoted⟩ := hchange link.handle
  have hnote := hstable.note link active holds hlink
  rw [← hnoted] at hnote
  exact hnote

/-- A request is one call by numbers, if it can be written at all. -/
theorem asks_send [Wired α] (method : Method) (request : α)
    (hrequest : A.Admits method request := by exact fun _ _ => trivial) :
    Asks A (Link.send method request : LinkM σ Bytes) := by
  cases hencode : encode request with
  | error fault =>
    exact (asks_throw (.codec fault)).of_link_eq fun _ =>
      congrArg Prod.snd (send_of_error method hencode)
  | ok payload =>
    exact (asks_invoke _ _ payload (hrequest payload hencode)).of_link_eq fun _ =>
      congrArg Prod.snd (send_of_ok method hencode)

/-- Reading a response does nothing to the link. -/
theorem asks_ask [Wired α] [Wired β] (method : Method) (request : α)
    (hrequest : A.Admits method request := by exact fun _ _ => trivial) :
    Asks A (Link.ask method request : LinkM σ β) :=
  (asks_send method request hrequest).of_link_eq fun _ => ask_link method request

/-- Nor does passing over a response. -/
theorem asks_tell [Wired α] (method : Method) (request : α)
    (hrequest : A.Admits method request := by exact fun _ _ => trivial) :
    Asks A (Link.tell method request : LinkM σ Unit) :=
  (asks_send method request hrequest).of_link_eq fun _ => tell_link method request

/-- A query whose rows come at once, in one text. -/
theorem asks_jsonQuery (request : Message.DbRequest)
    (hrequest : A.Admits .query request := by exact fun _ _ => trivial) :
    Asks A (Link.jsonQuery request : LinkM σ _) :=
  (asks_send .query request hrequest).of_link_eq fun _ => jsonQuery_link request

/-- A request that begins or ends a transaction. -/
theorem asks_control (kind : Message.RequestKind)
    (hkind : A.Admits .query (Message.DbRequest.control kind) := by exact fun _ _ => trivial) :
    Asks A (Link.control kind : LinkM σ Unit) :=
  (asks_send .query _ hkind).of_link_eq fun _ => control_link kind

theorem asks_execute (sql : String) (args : List Value)
    (hexecute : A.Allows .execute := by exact fun _ => trivial) :
    Asks A (Link.execute sql args : LinkM σ Int64) :=
  (asks_ask _ _ (hexecute.admits _)).answering Message.IntegerValue.val

theorem asks_insert (sql : String) (args : List Value)
    (hinsert : A.Allows .insert := by exact fun _ => trivial) :
    Asks A (Link.insert sql args : LinkM σ Int64) :=
  (asks_ask _ _ (hinsert.admits _)).answering Message.IntegerValue.val

theorem asks_columnNames (sql : String)
    (hnames : A.Allows .columnNames := by exact fun _ => trivial) :
    Asks A (Link.columnNames sql : LinkM σ (List String)) :=
  (asks_ask _ _ (hnames.admits _)).answering Message.TextList.vals

/-- The first page of a query: its number is noted. -/
theorem asks_firstPage (sql : String) (args : List Value)
    (hquery : A.Allows .pagedQuery := by exact fun _ => trivial) :
    Asks A (Link.firstPage sql args : LinkM σ Page) := by
  apply (asks_ask _ _ (hquery.admits _)).bind
  intro page
  exact (asks_setHandle fun h => ⟨some page.sequence, h.holds, rfl⟩).answering fun _ => page

/-- A result is given back if it is that of the active query. -/
theorem asks_cancelQuery (sequence : Int32)
    (hflush : A.Allows .flush := by exact fun _ => trivial) :
    Asks A (Link.cancelQuery sequence : LinkM σ Unit) := by
  intro P hstable link hlink
  rw [cancelQuery_link]
  by_cases hactive : link.handle.active = some sequence
  · rw [if_pos hactive]
    have hnoted := hstable.note link none link.handle.holds hlink
    exact asks_send _ _ (hflush.admits _) P hstable _ hnoted
  · rw [if_neg hactive]
    exact hlink

/-- Every result is given back, whichever query is active. -/
theorem asks_cancelAll (hflush : A.Allows .flushAll := by exact fun _ => trivial) :
    Asks A (Link.cancelAll : LinkM σ Unit) :=
  (asks_setHandle fun h => ⟨none, h.holds, rfl⟩).bind fun _ => asks_tell _ _ (hflush.admits _)

/-- A collection is closed after every result was given back. -/
theorem asks_closeCollection (hflush : A.Allows .flushAll := by exact fun _ => trivial)
    (hclose : A.Allows .closeCollection := by exact fun _ => trivial) :
    Asks A (Link.closeCollection : LinkM σ Unit) :=
  (asks_cancelAll hflush).bind fun _ => asks_tell _ _ (hclose.admits _)

/-- A transaction that begins takes the lock. -/
theorem asks_beginTransaction
    (hbegin : A.Admits .query (Message.DbRequest.control .begin) := by
      exact fun _ _ => trivial) :
    Asks A (Link.beginTransaction : LinkM σ Unit) :=
  (asks_control .begin hbegin).bind fun _ =>
    asks_setHandle fun h => ⟨h.active, h.holds + 1, rfl⟩

/-- A transaction that ends releases the lock, whatever comes of the end. -/
theorem asks_finishTransaction (kind : Message.RequestKind)
    (hkind : A.Admits .query (Message.DbRequest.control kind) := by exact fun _ _ => trivial) :
    Asks A (Link.finishTransaction kind : LinkM σ Unit) := by
  intro P hstable link hlink
  exact hstable.note _ _ _ (asks_control kind hkind P hstable link hlink)

/-- A translation is one request, and its text is the answer. -/
theorem asks_translate (moduleIndex messageIndex : UInt32) (args : TextMap)
    (htranslate : A.Allows .translate := by exact fun _ => trivial) :
    Asks A (Link.translate moduleIndex messageIndex args : LinkM σ String) :=
  (asks_ask _ _ (htranslate.admits _)).answering Message.TextValue.val

/-! ## Cursors -/

/-- The cursor of a query is made of its first page. -/
theorem asks_openQuery (sql : String) (args : List Value) (recentPages : Nat)
    (hquery : A.Allows .pagedQuery := by exact fun _ => trivial) :
    Asks A (Cursor.openQuery sql args recentPages : LinkM σ Cursor) :=
  (asks_firstPage sql args hquery).answering (Cursor.create sql recentPages)

/-- Whether a cursor is open is known without the engine. -/
theorem asks_ensureOpen : ObjectAsks A (Cursor.ensureOpen : CursorM σ Unit) := by
  refine objectAsks_get.bind fun c => ?_
  by_cases hclosed : c.closed = true
  · simp only [hclosed, if_true]
    exact objectAsks_throw _
  · simp only [hclosed, Bool.false_eq_true, if_false]
    exact objectAsks_pure _

/-- A move asks for one page at most. -/
theorem asks_moveTo (target : Int) (hpage : A.Allows .nextPage := by exact fun _ => trivial) :
    ObjectAsks A (Cursor.moveTo target : CursorM σ Bool) := by
  intro c P hstable link hlink
  rcases Cursor.moveTo_link target c link with hmove | hmove
  · rw [hmove]
    exact hlink
  · rw [hmove]
    exact asks_ask _ _ (hpage.admits _) P hstable link hlink

/-- Moves that start from the present row are moves to a row. -/
theorem asks_moveBy (offset : Int) (hpage : A.Allows .nextPage := by exact fun _ => trivial) :
    ObjectAsks A (Cursor.moveBy offset : CursorM σ Bool) :=
  objectAsks_get.bind fun _ => asks_moveTo _ hpage

theorem asks_moveToLast (hpage : A.Allows .nextPage := by exact fun _ => trivial) :
    ObjectAsks A (Cursor.moveToLast : CursorM σ Bool) :=
  objectAsks_get.bind fun _ => asks_moveTo _ hpage

/-- Every navigation call is a move to some row. -/
theorem asks_move (step : Move) (hpage : A.Allows .nextPage := by exact fun _ => trivial) :
    ObjectAsks A (step.run : CursorM σ Bool) :=
  fun c => (asks_moveTo (step.target c) hpage c).of_link_eq fun link => by rw [Move.run_apply]

/-- The names of the columns are asked for once. -/
theorem asks_cursorNames (hnames : A.Allows .columnNames := by exact fun _ => trivial) :
    ObjectAsks A (Cursor.columnNames : CursorM σ (List String)) := by
  refine asks_ensureOpen.bind fun _ => objectAsks_get.bind fun c => ?_
  cases c.names with
  | some names => exact objectAsks_pure names
  | none =>
    apply (asks_columnNames c.sql hnames).onLink.bind
    intro names
    exact (objectAsks_set _).answering fun _ => names

/-- A column is looked for among the names, without asking for more. -/
theorem asks_columnIndex? (name : String)
    (hnames : A.Allows .columnNames := by exact fun _ => trivial) :
    ObjectAsks A (Cursor.columnIndex? name : CursorM σ (Option Nat)) :=
  (asks_cursorNames hnames).answering _

theorem asks_columnIndex (name : String)
    (hnames : A.Allows .columnNames := by exact fun _ => trivial) :
    ObjectAsks A (Cursor.columnIndex name : CursorM σ Nat) := by
  apply (asks_columnIndex? name hnames).bind
  intro index
  cases index with
  | some index => exact objectAsks_pure index
  | none => exact objectAsks_throw _

theorem asks_columnName (index : Nat)
    (hnames : A.Allows .columnNames := by exact fun _ => trivial) :
    ObjectAsks A (Cursor.columnName index : CursorM σ String) := by
  apply (asks_cursorNames hnames).bind
  intro names
  cases names[index]? with
  | some name => exact objectAsks_pure name
  | none => exact objectAsks_throw _

/-- A cursor that is closed gives its result back, once. -/
theorem asks_closeCursor (hflush : A.Allows .flush := by exact fun _ => trivial) :
    ObjectAsks A (Cursor.close : CursorM σ Unit) := by
  intro c P hstable link hlink
  rw [Cursor.close_apply]
  by_cases hclosed : c.closed = true
  · rw [if_pos hclosed]
    exact hlink
  · rw [if_neg hclosed]
    exact asks_cancelQuery c.sequence hflush P hstable link hlink

/-- A cursor that goes is closed. -/
theorem asks_discardCursor (c : Cursor) (hflush : A.Allows .flush := by exact fun _ => trivial) :
    Asks A fun link : Link σ => ((), c.discard link) :=
  (asks_closeCursor hflush c).of_link_eq fun _ => rfl

/-! ## Sessions -/

/-- Only the outermost frame begins a transaction. -/
theorem asks_beginSession
    (hbegin : A.Admits .query (Message.DbRequest.control .begin) := by
      exact fun _ _ => trivial) :
    ObjectAsks A (Session.begin : SessionM σ Unit) := by
  refine objectAsks_get.bind fun s => ?_
  cases s.frames with
  | nil => exact (asks_beginTransaction hbegin).onLink.bind fun _ => objectAsks_set _
  | cons frame outer => exact objectAsks_set _

/-- A mark is made without the engine. -/
theorem asks_markSession : ObjectAsks A (Session.mark : SessionM σ Unit) := by
  refine objectAsks_get.bind fun s => ?_
  cases s.frames with
  | nil => exact objectAsks_throw _
  | cons frame outer => exact objectAsks_set _

/-- Only the outermost frame ends a transaction. -/
theorem asks_finishSession
    (hcontrol : ∀ kind, A.Admits .query (Message.DbRequest.control kind) := by
      exact fun _ _ _ => trivial) :
    ObjectAsks A (Session.finish : SessionM σ Unit) := by
  refine objectAsks_get.bind fun s => ?_
  rcases s.frames with _ | ⟨frame, _ | ⟨parent, outer⟩⟩
  · exact objectAsks_throw _
  · -- the outermost frame ends the engine's transaction
    refine (objectAsks_set _).bind fun _ => ?_
    by_cases hguarded : s.guarded = true
    · simp only [hguarded, if_true]
      exact (asks_finishTransaction _ (hcontrol _)).onLink
    · simp only [hguarded, Bool.false_eq_true, if_false]
      exact objectAsks_throw _
  · exact objectAsks_set _

/-- A session that goes rolls back, or does nothing. -/
theorem asks_discardSession (s : Session)
    (hrollback : A.Admits .query (Message.DbRequest.control .rollback) := by
      exact fun _ _ => trivial) :
    Asks A fun link : Link σ => ((), s.discard link) := by
  unfold Session.discard
  by_cases hguarded : s.guarded = true
  · simp only [hguarded, if_true]
    exact (asks_finishTransaction .rollback hrollback).of_link_eq fun _ => rfl
  · simp only [hguarded, Bool.false_eq_true, if_false]
    exact fun P _ link hlink => hlink

/-! ## Databases and statements -/

/-- The text of a statement is added to its failures without the engine. -/
theorem asks_databaseQuery (sql : String) (args : List Value) (recentPages : Nat)
    (hquery : A.Allows .pagedQuery := by exact fun _ => trivial) :
    Asks A (Database.query sql args recentPages : LinkM σ Cursor) :=
  (asks_openQuery sql args recentPages hquery).annotated sql

theorem asks_fullQuery (sql : String) (args : List Value)
    (hquery : A.Admits .query (Message.DbRequest.query sql args) := by
      exact fun _ _ => trivial) :
    Asks A (Database.fullQuery sql args : LinkM σ _) :=
  (asks_jsonQuery _ hquery).annotated sql

theorem asks_databaseExec (sql : String) (args : List Value)
    (hquery : A.Admits .query (Message.DbRequest.query sql args) := by
      exact fun _ _ => trivial) :
    Asks A (Database.exec sql args : LinkM σ Unit) :=
  (asks_fullQuery sql args hquery).answering fun _ => ()

theorem asks_databaseExecute (sql : String) (args : List Value)
    (hexecute : A.Allows .execute := by exact fun _ => trivial) :
    Asks A (Database.execute sql args : LinkM σ Int64) :=
  (asks_execute sql args hexecute).annotated sql

theorem asks_insertForId (sql : String) (args : List Value)
    (hinsert : A.Allows .insert := by exact fun _ => trivial) :
    Asks A (Database.insertForId sql args : LinkM σ Int64) :=
  (asks_insert sql args hinsert).annotated sql

theorem asks_delete (table : String) (condition : Option String) (args : List Value)
    (hexecute : A.Allows .execute := by exact fun _ => trivial) :
    Asks A (Database.delete table condition args : LinkM σ Int64) :=
  asks_databaseExecute _ args hexecute

/-- An insertion of no columns is refused before anything is asked. -/
theorem asks_databaseInsert (table : String) (conflict : Conflict)
    (values : List (String × Value)) (hinsert : A.Allows .insert := by exact fun _ => trivial) :
    Asks A (Database.insert table conflict values : LinkM σ Int64) := by
  unfold Database.insert
  by_cases hvalues : values = []
  · rw [if_pos hvalues]
    exact asks_throw _
  · rw [if_neg hvalues]
    exact asks_insertForId _ _ hinsert

/-- A change of no columns is refused before anything is asked. -/
theorem asks_databaseUpdate (table : String) (conflict : Conflict)
    (values : List (String × Value)) (condition : Option String) (args : List Value)
    (hexecute : A.Allows .execute := by exact fun _ => trivial) :
    Asks A (Database.update table conflict values condition args : LinkM σ Int64) := by
  unfold Database.update
  by_cases hvalues : values = []
  · rw [if_pos hvalues]
    exact asks_throw _
  · rw [if_neg hvalues]
    exact asks_databaseExecute _ _ hexecute

/-- The check of a database is a query of its own. -/
theorem asks_integrityOk
    (hquery : A.Admits .query (Message.DbRequest.query "pragma integrity_check" []) := by
      exact fun _ _ => trivial) :
    Asks A (Database.integrityOk : LinkM σ Bool) := by
  apply (asks_fullQuery _ _ hquery).bind
  intro rows
  rcases rows with _ | ⟨row, _ | ⟨second, rest⟩⟩
  · exact asks_pure _
  · exact asks_pure _
  · exact asks_pure _

/-- The first value of a cursor: it is moved and closed. -/
theorem asks_takeFirst (hpage : A.Allows .nextPage := by exact fun _ => trivial)
    (hflush : A.Allows .flush := by exact fun _ => trivial) :
    ObjectAsks A (Statement.takeFirst : CursorM σ Value) := by
  apply (asks_moveTo 0 hpage).bind
  intro moved
  cases moved with
  | false => exact objectAsks_throw _
  | true =>
    simp only [if_true]
    refine objectAsks_get.bind fun c => ?_
    cases c.read 0 with
    | error fault => exact objectAsks_throw fault
    | ok value => exact (asks_closeCursor hflush).answering fun _ => value

/-- The first value of a cursor, which goes in any case. -/
theorem asks_takeFirst_discard (c : Cursor)
    (hpage : A.Allows .nextPage := by exact fun _ => trivial)
    (hflush : A.Allows .flush := by exact fun _ => trivial) :
    Asks A fun link : Link σ =>
      ((Statement.takeFirst c link).1.1,
        (Statement.takeFirst c link).1.2.discard (Statement.takeFirst c link).2) := by
  intro P hstable link hlink
  exact asks_discardCursor _ hflush P hstable _ (asks_takeFirst hpage hflush c P hstable link hlink)

/-- The first value of a statement: a cursor is opened for it. -/
theorem asks_firstValue (s : Statement) (recentPages : Nat)
    (hquery : A.Allows .pagedQuery := by exact fun _ => trivial)
    (hpage : A.Allows .nextPage := by exact fun _ => trivial)
    (hflush : A.Allows .flush := by exact fun _ => trivial) :
    Asks A (s.firstValue recentPages : LinkM σ Value) :=
  (asks_databaseQuery _ _ recentPages hquery).bind fun cursor =>
    asks_takeFirst_discard cursor hpage hflush

/-- Another reading of the first value. -/
theorem asks_firstAs (reading : Value → Except CoercionFault α) (s : Statement)
    (recentPages : Nat) (hquery : A.Allows .pagedQuery := by exact fun _ => trivial)
    (hpage : A.Allows .nextPage := by exact fun _ => trivial)
    (hflush : A.Allows .flush := by exact fun _ => trivial) :
    Asks A (s.firstAs reading recentPages : LinkM σ α) := by
  apply (asks_firstValue s recentPages hquery hpage hflush).bind
  intro value
  cases reading value with
  | ok a => exact asks_pure a
  | error fault => exact asks_throw _

end Calls
end EngineLink
