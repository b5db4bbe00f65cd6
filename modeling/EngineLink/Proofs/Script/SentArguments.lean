import EngineLink.Proofs.Client.SafeMoves
import EngineLink.Proofs.Message.RoundTrip
import EngineLink.Proofs.Script.Bindings
import EngineLink.Proofs.Script.TidySteps

/-!
# What a statement sends

Running a statement sends one request with its arguments.  Reading a first value also moves a cursor
and closes it, so pages may be asked for and a result may be given back after that; no other
statement is sent.  The arguments are those that the steps before leave bound, so running the
statement in between changes nothing about them.

Main results:

- Theorem {lit}`RunsStatement.bind`: a request, and what goes on with its response.
- Theorem {lit}`runs_execute`, {lit}`runs_firstAs` and others: each way to run a statement.
- Theorem {lit}`runStatementStep_answered`: what one step answers and sends.
- Theorem {lit}`arguments_are_last_bound`: what every run of steps answers and sends.
-/

namespace EngineLink

open Effects

section Calls

variable {σ ω α β : Type} [Engine σ]

/-! ## Requests for pages -/

/-- Pages may be asked for and results may be given back, and nothing else. -/
def Allowance.paging : Allowance := fun service method _ =>
  ∃ m ∈ [Method.nextPage, Method.flush], service = m.ids.1 ∧ method = m.ids.2

theorem Allowance.allows_paging {method : Method}
    (hmethod : method ∈ [Method.nextPage, Method.flush]) : paging.Allows method :=
  fun _ => ⟨method, hmethod, rfl, rfl⟩

/-- A page is asked for, or a result is given back. -/
def Event.IsPaging (event : Event) : Prop :=
  ∃ method ∈ [Method.nextPage, Method.flush], ∃ raw payload,
    event = .ran raw method.ids.1 method.ids.2 payload

/-- What is written down while pages are asked for is that they are. -/
theorem stable_isPaging (before : List Event) :
    Stable .paging fun link : Link (Journaled σ) =>
      ∃ added, link.engine.events = added ++ before ∧ ∀ event ∈ added, event.IsPaging where
  invoke := by
    rintro _ _ payload link ⟨m, hm, rfl, rfl⟩ ⟨added, hevents, hadded⟩
    rcases events_invoke m.ids.1 m.ids.2 payload link with hnone | hone
    · exact ⟨added, hnone.trans hevents, hadded⟩
    · refine ⟨.ran link.handle.raw m.ids.1 m.ids.2 payload :: added, ?_, ?_⟩
      · rw [hone, hevents, List.cons_append]
      · exact List.forall_mem_cons.mpr ⟨⟨m, hm, link.handle.raw, payload, rfl⟩, hadded⟩
  note _ _ _ hlink := hlink

/-- A call that at most asks for pages and gives results back. -/
theorem Asks.events_eq {call : Link (Journaled σ) → α × Link (Journaled σ)}
    (hcall : Asks .paging call) (link : Link (Journaled σ)) :
    ∃ added, (call link).2.engine.events = added ++ link.engine.events ∧
      ∀ event ∈ added, event.IsPaging :=
  hcall _ (stable_isPaging link.engine.events) link ⟨[], rfl, by simp⟩

/-! ## Requests for statements -/

/-- Why a request is not sent, and the error that tells so. -/
inductive Refuses (h : Handle) (request : Message.DbRequest) : Error → Prop
  | closed (hraw : h.raw = 0) : Refuses h request .closed
  | poisoned (reason : String) (hpoison : h.poison = some reason) :
    Refuses h request (.engine (.fatal ("backend unusable after fatal error: " ++ reason)))
  | unwritable (fault : CodecFault) (hencode : encode request = .error fault) :
    Refuses h request (.codec fault)

/-- A refusal is no failure of the database, so no statement is added to it. -/
theorem Refuses.annotate_eq {h : Handle} {request : Message.DbRequest} {fault : Error}
    (hrefuses : Refuses h request fault) (sql : String) : fault.annotate sql = fault := by
  cases hrefuses with
  | closed => rfl
  | poisoned => rfl
  | unwritable => rfl

/-- A call that sends a request under a method and after that at most asks for pages and gives
results back, or that is refused and sends nothing. -/
def RunsStatement (method : Method) (request : Message.DbRequest)
    (call : LinkM (Journaled σ) α) : Prop :=
  ∀ link,
    (∃ fault, Refuses link.handle request fault ∧ call link = (.error fault, link)) ∨
      ∃ payload added, encode request = .ok payload ∧ (∀ event ∈ added, event.IsPaging) ∧
        (call link).2.engine.events =
          added ++ .ran link.handle.raw method.ids.1 method.ids.2 payload :: link.engine.events

/-- A request is sent once, or refused for one of three reasons. -/
theorem runs_send (method : Method) (request : Message.DbRequest) :
    RunsStatement method request (Link.send method request : LinkM (Journaled σ) Bytes) := by
  intro link
  cases hencode : encode request with
  | error fault => exact .inl ⟨_, .unwritable fault hencode, send_of_error method hencode⟩
  | ok payload =>
    rw [send_of_ok method hencode]
    by_cases hraw : link.handle.raw = 0
    · refine .inl ⟨_, .closed hraw, ?_⟩
      rw [Link.invoke, if_pos hraw]
    · cases hpoison : link.handle.poison with
      | some reason =>
        refine .inl ⟨_, .poisoned reason hpoison, ?_⟩
        rw [Link.invoke, if_neg hraw, hpoison]
      | none =>
        refine .inr ⟨payload, [], rfl, by simp, ?_⟩
        exact events_invoke_of_open hraw hpoison method.ids.1 method.ids.2 payload

section Requests

variable {method : Method} {request : Message.DbRequest} {call : LinkM (Journaled σ) α}

/-- What goes on with the response may ask for pages. -/
theorem RunsStatement.bind {next : α → LinkM (Journaled σ) β}
    (hcall : RunsStatement method request call) (hnext : ∀ a, Asks .paging (next a)) :
    RunsStatement method request (call >>= next) := by
  intro link
  rcases hcall link with ⟨fault, hrefuses, hrefused⟩ | ⟨payload, added, hencode, hadded, hevents⟩
  · left
    refine ⟨fault, hrefuses, ?_⟩
    rw [bind_apply, hrefused]
  · right
    rw [bind_apply]
    generalize call link = answer at hevents ⊢
    obtain ⟨fault | a, link'⟩ := answer
    · exact ⟨payload, added, hencode, hadded, hevents⟩
    · obtain ⟨more, hmore, hpaging⟩ := (hnext a).events_eq link'
      refine ⟨payload, more ++ added, hencode, List.forall_mem_append.mpr ⟨hpaging, hadded⟩, ?_⟩
      rw [hmore, hevents, List.append_assoc]

/-- What is answered in the end does not matter. -/
theorem RunsStatement.answering (hcall : RunsStatement method request call) (f : α → β) :
    RunsStatement method request (call >>= fun a => pure (f a)) :=
  hcall.bind fun a => asks_pure (f a)

omit [Engine σ] in
/-- Adding the text of the statement to its failures sends nothing. -/
theorem RunsStatement.annotated (hcall : RunsStatement method request call) (sql : String) :
    RunsStatement method request (Database.annotated sql call) := by
  intro link
  rcases hcall link with ⟨fault, hrefuses, hrefused⟩ | hsent
  · left
    refine ⟨fault, hrefuses, ?_⟩
    simp only [Database.annotated, hrefused]
    show (Except.error (fault.annotate sql), link) = _
    rw [hrefuses.annotate_eq]
  · exact .inr hsent

/-- Reading a response sends nothing. -/
theorem runs_ask [Wired β] (method : Method) (request : Message.DbRequest) :
    RunsStatement method request (Link.ask method request : LinkM (Journaled σ) β) := by
  apply (runs_send method request).bind
  intro bytes
  cases (decode bytes : Except CodecFault β) with
  | ok response => exact asks_pure response
  | error fault => exact asks_throw _

end Requests

/-! ## Running a statement -/

section Statements

variable (s : Statement)

/-- A statement whose rows are passed over is sent as a query. -/
theorem runs_execute :
    RunsStatement .query (.query s.sql s.args) (s.execute : LinkM (Journaled σ) Unit) := by
  have hquery : RunsStatement .query (.query s.sql s.args)
      (Link.fullQuery s.sql s.args : LinkM (Journaled σ) _) := by
    apply (runs_send .query (.query s.sql s.args)).bind
    intro bytes
    cases Link.readRows bytes with
    | ok rows => exact asks_pure rows
    | error fault => exact asks_throw _
  exact (hquery.annotated s.sql).answering fun _ => ()

/-- An insertion is sent under a method of its own. -/
theorem runs_executeInsert :
    RunsStatement .insert (.query s.sql s.args) (s.executeInsert : LinkM (Journaled σ) Int64) :=
  ((runs_ask _ _).answering Message.IntegerValue.val).annotated s.sql

theorem runs_executeUpdate :
    RunsStatement .execute (.query s.sql s.args) (s.executeUpdate : LinkM (Journaled σ) Int64) :=
  ((runs_ask _ _).answering Message.IntegerValue.val).annotated s.sql

/-- The first value: after the query a cursor is moved, and it goes in any case. -/
theorem runs_firstValue (recentPages : Nat) :
    RunsStatement .pagedQuery (.query s.sql s.args)
      (s.firstValue recentPages : LinkM (Journaled σ) Value) := by
  have hopen : RunsStatement .pagedQuery (.query s.sql s.args)
      (Cursor.openQuery s.sql s.args recentPages : LinkM (Journaled σ) Cursor) := by
    apply RunsStatement.answering
    apply (runs_ask _ _).bind
    intro page
    exact (asks_setHandle fun h => ⟨some page.sequence, h.holds, rfl⟩).answering fun _ => page
  apply (hopen.annotated s.sql).bind
  intro cursor
  exact asks_takeFirst_discard cursor (Allowance.allows_paging (by simp))
    (Allowance.allows_paging (by simp))

/-- Another reading of the first value sends the same. -/
theorem runs_firstAs (reading : Value → Except CoercionFault α) (recentPages : Nat) :
    RunsStatement .pagedQuery (.query s.sql s.args)
      (s.firstAs reading recentPages : LinkM (Journaled σ) α) := by
  apply (runs_firstValue s recentPages).bind
  intro value
  cases reading value with
  | ok a => exact asks_pure a
  | error fault => exact asks_throw _

end Statements
end Calls

namespace Script

/-! ## What steps answer -/

/-- The method that a step runs the statement by. -/
def method? : StatementStep → Option Method
  | .bind _ _ | .clear => none
  | .execute => some .query
  | .executeInsert => some .insert
  | .executeUpdate => some .execute
  | .firstInteger | .firstText => some .pagedQuery

/-- What a step answers after others, and what it sends.  Numbers are bound and forgotten without a
word, and zero cannot be bound.  Running the statement sends it with the arguments that the steps
before leave, unless the request is refused. -/
inductive Answered (h : Handle) (sql : String) (before : List StatementStep) :
    StatementStep → Except Error Result → List Event → Prop
  | bindZero (value : Value) :
    Answered h sql before (.bind 0 value) (.error (.invalidArgument "bind indices start at 1")) []
  | bind (index : Nat) (value : Value) (hindex : 0 < index) :
    Answered h sql before (.bind index value) (.ok .nothing) []
  | clear : Answered h sql before .clear (.ok .nothing) []
  | refused {step : StatementStep} {method : Method} {args : List Value} {fault : Error}
    (hmethod : method? step = some method) (hargs : ArgsOf before args)
    (hrefuses : Refuses h (.query sql args) fault) : Answered h sql before step (.error fault) []
  | sent {step : StatementStep} {method : Method} {args : List Value}
    {result : Except Error Result} {payload : Bytes} {rest : List Event}
    (hmethod : method? step = some method) (hargs : ArgsOf before args)
    (hpayload : decode payload = .ok (Message.DbRequest.query sql args))
    (hrest : ∀ event ∈ rest, event.IsPaging) :
    Answered h sql before step result
      (.ran h.raw method.ids.1 method.ids.2 payload :: rest)

variable {σ : Type} [Hosted σ] {before : List StatementStep} {s : Statement} {w : World σ}

omit [Hosted σ] in
/-- A call that runs the statement on the handle of its database. -/
theorem answered_of_runs {link : Nat} {step : StatementStep} {method : Method}
    {call : LinkM (Journaled σ) Result} (hcall : RunsStatement method (.query s.sql s.args) call)
    (hmethod : method? step = some method) (hrecalls : Recalls before s)
    (hempty : w.boot.engine.events = []) :
    Answered (w.handle link) s.sql before step (onHandle link call w).1
      (onHandle link call w).2.takeEvents.1 := by
  rw [onHandle_apply]
  show Answered _ _ _ _ (call ⟨w.handle link, w.boot.engine⟩).1
    (call ⟨w.handle link, w.boot.engine⟩).2.engine.events.reverse
  rcases hcall ⟨w.handle link, w.boot.engine⟩ with
    ⟨fault, hrefuses, hrefused⟩ | ⟨payload, added, hencode, hadded, hevents⟩
  · rw [hrefused, hempty]
    exact .refused hmethod hrecalls.argsOf hrefuses
  · rw [hevents, hempty, List.reverse_append]
    refine .sent hmethod hrecalls.argsOf (decode_encode hencode) ?_
    intro event hevent
    exact hadded event (List.mem_reverse.mp hevent)

omit [Hosted σ] in
theorem paired_apply {α β : Type} (act : ScriptM σ α) (b : β) (w : World σ) :
    (act >>= fun a => pure (a, b)) w = (((act w).1, b), (act w).2) :=
  rfl

/-- A step that runs the statement makes one call on the handle and leaves the statement alone. -/
theorem runStatementStep_of_method {step : StatementStep} {method : Method}
    (hmethod : method? step = some method) (held : Held DatabaseObject) (s : Statement) :
    ∃ call : LinkM (Journaled σ) Result, RunsStatement method (.query s.sql s.args) call ∧
      ∀ w, runStatementStep held s step w =
        (((onHandle held.link call w).1, s), (onHandle held.link call w).2) := by
  cases step with
  | bind => cases hmethod
  | clear => cases hmethod
  | execute =>
    cases hmethod
    refine ⟨_, (runs_execute s).answering fun _ => .nothing, fun w => ?_⟩
    rw [runStatementStep]
    exact paired_apply _ s w
  | executeInsert =>
    cases hmethod
    refine ⟨_, (runs_executeInsert s).answering fun id => .integer id.toInt, fun w => ?_⟩
    rw [runStatementStep]
    exact paired_apply _ s w
  | executeUpdate =>
    cases hmethod
    refine ⟨_, (runs_executeUpdate s).answering fun count => .integer count.toInt, fun w => ?_⟩
    rw [runStatementStep]
    exact paired_apply _ s w
  | firstInteger =>
    cases hmethod
    refine ⟨_, (runs_firstAs s Value.asInteger held.object.recentPages).answering
      fun value => .integer value.toInt, fun w => ?_⟩
    rw [runStatementStep]
    exact paired_apply _ s w
  | firstText =>
    cases hmethod
    refine ⟨_, (runs_firstAs s Value.asText held.object.recentPages).answering .text, fun w => ?_⟩
    rw [runStatementStep]
    exact paired_apply _ s w

/-- Running the statement leaves its bindings as they are. -/
theorem next_of_method {step : StatementStep} {method : Method}
    (hmethod : method? step = some method) (s : Statement) : next s step = s := by
  cases step with
  | bind => cases hmethod
  | clear => cases hmethod
  | _ => rfl

/-- Only binding and forgetting change the statement. -/
theorem runStatementStep_statement (held : Held DatabaseObject) (s : Statement)
    (step : StatementStep) (w : World σ) : (runStatementStep held s step w).1.2 = next s step := by
  cases hmethod : method? step with
  | some method =>
    obtain ⟨call, -, hstep⟩ := runStatementStep_of_method (σ := σ) hmethod held s
    rw [hstep w, next_of_method hmethod]
  | none =>
    cases step with
    | bind index value =>
      rcases Nat.eq_zero_or_pos index with rfl | hindex
      · rfl
      · simp only [runStatementStep, next, Statement.bind, if_neg (Nat.ne_of_gt hindex)]
        rfl
    | clear => rfl
    | _ => cases hmethod

/-- What one step answers and sends. -/
theorem runStatementStep_answered (held : Held DatabaseObject) (step : StatementStep)
    (hrecalls : Recalls before s) (hempty : w.boot.engine.events = []) :
    Answered (w.handle held.link) s.sql before step (runStatementStep held s step w).1.1
      (runStatementStep held s step w).2.takeEvents.1 := by
  cases hmethod : method? step with
  | some method =>
    obtain ⟨call, hcall, hstep⟩ := runStatementStep_of_method (σ := σ) hmethod held s
    rw [hstep w]
    exact answered_of_runs hcall hmethod hrecalls hempty
  | none =>
    have hnothing : w.takeEvents.1 = [] := by
      show w.boot.engine.events.reverse = []
      rw [hempty, List.reverse_nil]
    cases step with
    | bind index value =>
      rcases Nat.eq_zero_or_pos index with rfl | hindex
      · show Answered _ _ _ _ _ w.takeEvents.1
        rw [hnothing]
        exact .bindZero value
      · simp only [runStatementStep, Statement.bind, if_neg (Nat.ne_of_gt hindex)]
        show Answered _ _ _ _ _ w.takeEvents.1
        rw [hnothing]
        exact .bind index value hindex
    | clear =>
      show Answered _ _ _ _ _ w.takeEvents.1
      rw [hnothing]
      exact .clear
    | _ => cases hmethod

/-! ## What runs of steps answer -/

/-- The first step and the others: each answers with the events since the one before. -/
theorem runStatement_cons (held : Held DatabaseObject) (s : Statement) (step : StatementStep)
    (rest : List StatementStep) (w : World σ) :
    runStatement held s (step :: rest) w =
      (.plain (runStatementStep held s step w).1.1
          (runStatementStep held s step w).2.takeEvents.1 ::
        (runStatement held (next s step) rest (runStatementStep held s step w).2.takeEvents.2).1,
      (runStatement held (next s step) rest
        (runStatementStep held s step w).2.takeEvents.2).2) := by
  rw [← runStatementStep_statement held s step w]
  rfl

theorem runStatement_append (held : Held DatabaseObject) (s : Statement)
    (before rest : List StatementStep) (w : World σ) :
    runStatement held s (before ++ rest) w =
      ((runStatement held s before w).1 ++
        (runStatement held (before.foldl next s) rest (runStatement held s before w).2).1,
      (runStatement held (before.foldl next s) rest (runStatement held s before w).2).2) := by
  induction before generalizing s w with
  | nil => rfl
  | cons step before ih =>
    rw [List.cons_append, runStatement_cons, runStatement_cons, ih, List.foldl_cons]
    rfl

theorem length_runStatement (held : Held DatabaseObject) (s : Statement)
    (steps : List StatementStep) (w : World σ) :
    (runStatement held s steps w).1.length = steps.length := by
  induction steps generalizing s w with
  | nil => rfl
  | cons step steps ih => rw [runStatement_cons, List.length_cons, ih, List.length_cons]

/-- Events are taken after every step. -/
theorem events_runStatement (held : Held DatabaseObject) (s : Statement)
    (steps : List StatementStep) {w : World σ} (hempty : w.boot.engine.events = []) :
    (runStatement held s steps w).2.boot.engine.events = [] := by
  induction steps generalizing s w with
  | nil => exact hempty
  | cons step steps ih =>
    rw [runStatement_cons]
    exact ih _ rfl

/-- No step changes the text of the statement. -/
theorem sql_foldl_next (s : Statement) (steps : List StatementStep) :
    (steps.foldl next s).sql = s.sql := by
  induction steps generalizing s with
  | nil => rfl
  | cons step steps ih => rw [List.foldl_cons, ih, sql_next]

/-- Whatever steps a statement makes, each step answers and sends what the steps before it leave
bound. -/
theorem arguments_are_last_bound (held : Held DatabaseObject) (sql : String)
    (before later : List StatementStep) (step : StatementStep) (w : World σ) :
    ∃ result events,
      (runStatement held (.create sql) (before ++ step :: later) w.takeEvents.2).1[before.length]? =
        some (.plain result events) ∧
      Answered ((runStatement held (.create sql) before w.takeEvents.2).2.handle held.link) sql
        before step result events := by
  have hempty := events_runStatement held (.create sql) before (w := w.takeEvents.2) rfl
  have hanswered := runStatementStep_answered held step (recalls_steps sql before) hempty
  rw [sql_foldl_next] at hanswered
  refine ⟨_, _, ?_, hanswered⟩
  rw [runStatement_append, List.getElem?_append_right (Nat.le_of_eq (length_runStatement ..)),
    length_runStatement, Nat.sub_self, runStatement_cons]
  rfl

end Script
end EngineLink
