import EngineLink.Proofs.Script.Ownership
import EngineLink.Script.Run

/-!
# Steps that leave a world tidy

Every step of a client, a guard, a session, a cursor, a database or a statement leaves a tidy
world tidy: it makes calls on the handle of its object, it names objects and lets them go, and it
does nothing else.

Main results:

- Theorem {lit}`keepsTidy_onHandle` and {lit}`keepsTidy_onObject`: the calls of objects.
- Theorem {lit}`keepsTidy_put` and {lit}`keepsTidy_drop`: objects that come and go.
- Theorem {lit}`runWaiting_keeps`: the errands that waited.
- Theorem {lit}`runClient_keeps`, {lit}`runGuard_keeps`, {lit}`runCursor_keeps` and others: the
  steps of each kind of object.
-/

namespace EngineLink
namespace Script

open World (Tidy)

/-! ## Computations on a tidy world -/

section Computations

variable {σ α β : Type}

theorem bind_apply_world (act : ScriptM σ α) (next : α → ScriptM σ β) (w : World σ) :
    (act >>= next) w = next (act w).1 (act w).2 :=
  rfl

theorem pure_apply_world (a : α) (w : World σ) : (pure a : ScriptM σ α) w = (a, w) :=
  rfl

theorem onHandle_apply (link : Nat) (call : LinkM (Journaled σ) α) (w : World σ) :
    onHandle link call w = w.withLink link call :=
  rfl

theorem get_apply_world (w : World σ) : (get : ScriptM σ (World σ)) w = (w, w) :=
  rfl

theorem modify_apply_world (change : World σ → World σ) (w : World σ) :
    (modify change : ScriptM σ PUnit) w = ((), change w) :=
  rfl

/-- A computation that leaves a tidy world tidy, whatever is known of the setup. -/
def KeepsTidy (act : ScriptM (Recorded σ) α) : Prop :=
  ∀ known w, Tidy known none w → Tidy known none (act w).2

theorem keepsTidy_pure (a : α) : KeepsTidy (pure a : ScriptM (Recorded σ) α) :=
  fun _ _ htidy => htidy

theorem KeepsTidy.bind {act : ScriptM (Recorded σ) α} {next : α → ScriptM (Recorded σ) β}
    (hact : KeepsTidy act) (hnext : ∀ a, KeepsTidy (next a)) : KeepsTidy (act >>= next) :=
  fun known w htidy => hnext _ known _ (hact known w htidy)

theorem KeepsTidy.answering {act : ScriptM (Recorded σ) α} (hact : KeepsTidy act) (f : α → β) :
    KeepsTidy (act >>= fun a => pure (f a)) :=
  hact.bind fun a => keepsTidy_pure (f a)

/-- A computation that looks at the world first. -/
theorem keepsTidy_get_bind {next : World (Recorded σ) → ScriptM (Recorded σ) β}
    (hnext : ∀ known w, Tidy known none w → Tidy known none (next w w).2) :
    KeepsTidy (get >>= next) :=
  hnext

theorem keepsTidy_takeEvents : KeepsTidy (takeEvents : ScriptM (Recorded σ) (List Event)) :=
  fun _ _ htidy => htidy.of_contacts rfl

theorem KeepsTidy.answered {step : ScriptM (Recorded σ) (Except Error Result)}
    (hstep : KeepsTidy step) : KeepsTidy (answered step) :=
  hstep.bind fun _ => keepsTidy_takeEvents.answering _

/-- One computation for each element of a list. -/
theorem mapM_cons_apply {σ : Type} (f : α → ScriptM σ β) (a : α) (rest : List α) (w : World σ) :
    (a :: rest).mapM f w =
      ((f a w).1 :: (rest.mapM f (f a w).2).1, (rest.mapM f (f a w).2).2) := by
  rw [List.mapM_cons]
  rfl

/-! ## Calls and names of objects -/

variable [Hosted σ]

theorem keepsTidy_onHandle {call : LinkM (Journaled (Recorded σ)) α} (link : Nat)
    (hcall : Ordinary call) : KeepsTidy (onHandle link call) :=
  fun _ _ htidy => htidy.withLink link hcall

variable {ω : Type} {shelf : Shelf (Recorded σ) ω} {view : Objects → List (String × Held ω)}
  {update : List (String × Held ω) → Objects → Objects}

/-- An object makes a call, and its new state takes the place of the old one. -/
theorem keepsTidy_onObject (hshelf : shelf.Lawful view update) (name : String)
    {call : ObjectM ω (Journaled (Recorded σ)) α} (hcall : OrdinaryObject call) :
    KeepsTidy (onObject shelf name call) := by
  apply keepsTidy_get_bind
  intro known w htidy
  cases hfound : Entries.find? name (shelf.entries w) with
  | none => exact htidy
  | some held =>
    have hafter := htidy.withLink held.link (hcall held.object)
    apply hshelf.renew hafter
    rw [hshelf.entries_eq]
    rw [hshelf.entries_eq] at hfound
    exact hfound

/-- An object is named on a handle that belongs to another one. -/
theorem keepsTidy_put (hshelf : shelf.Lawful view update) (name : String) (held : Held ω) :
    KeepsTidy (modify (shelf.put name held)) :=
  fun _ _ htidy => hshelf.put (htidy.loosen held.link) name

theorem keepsTidy_drop (hshelf : shelf.Lawful view update) (name : String) :
    KeepsTidy (modify (shelf.drop name)) :=
  fun _ _ htidy => hshelf.drop htidy name

theorem ObjectAsks.bySession {A : Allowance} {call : SessionM (Journaled (Recorded σ)) α}
    (hcall : ObjectAsks A call) : ObjectAsks A (bySession call) :=
  fun database => (hcall database.session).of_link_eq fun _ => rfl

end Computations

/-! ## Steps of objects -/

section Objects

variable {σ : Type} [Hosted σ]

theorem runErrand_keeps (link : Nat) (errand : Errand) :
    KeepsTidy (runErrand link errand : ScriptM (Recorded σ) _) := by
  cases errand with
  | call service method payload =>
    exact (keepsTidy_onHandle link (asks_invoke service method payload)).answering _
  | close => exact KeepsTidy.answering (fun _ _ htidy => htidy.close link) fun _ => _
  | beginCommit =>
    apply keepsTidy_onHandle
    exact (asks_beginTransaction).bind fun _ =>
      (asks_finishTransaction .commit).answering fun _ => none

theorem waiting_runErrand (link : Nat) (errand : Errand) (w : World (Recorded σ)) :
    (runErrand link errand w).2.waiting = w.waiting := by
  cases errand <;> rfl

/-- The errand that waits longest is run and goes. -/
theorem runFirst_keeps {known : Option (Except String Unit)} {w : World (Recorded σ)}
    (htidy : Tidy known none w) {held : Held Errand} {rest : List (Held Errand)}
    (hwaiting : w.waiting = held :: rest) :
    Tidy known none (runFirst held w).2 ∧ (runFirst held w).2.waiting = rest := by
  generalize hrun : (runErrand held.link held.object w).2 = w'
  have htidy' : Tidy known none w' := hrun ▸ runErrand_keeps _ _ known w htidy
  have hwaiting' : w'.waiting = held :: rest := by
    rw [← hrun, waiting_runErrand, hwaiting]
  have hfirst : (runFirst held w).2 =
      { w' with waiting := w'.waiting.drop 1 }.release held.link := by
    rw [← hrun]
    rfl
  rw [hfirst, hwaiting', List.drop_one, List.tail_cons]
  constructor
  · apply Tidy.release
    apply htidy'.setWaiting
    intro link hlink
    rw [hwaiting', List.map_cons, List.mem_cons] at hlink
    rcases hlink with rfl | hlink
    · exact .inr rfl
    · exact .inl hlink
  · exact congrArg Objects.waiting (World.objects_release _ _)

/-- Every errand that waits is run and goes. -/
theorem runWaiting_keeps : KeepsTidy (runWaiting : ScriptM (Recorded σ) _) := by
  apply keepsTidy_get_bind
  intro known w htidy
  generalize hwaiting : w.waiting = waiting
  induction waiting generalizing w with
  | nil => exact htidy
  | cons held rest ih =>
    obtain ⟨htidy', hrest⟩ := runFirst_keeps htidy hwaiting
    rw [mapM_cons_apply]
    exact ih _ htidy' hrest

/-- A step of a client. -/
theorem runClient_keeps (name : String) (held : Held Nat) (step : ClientStep) :
    KeepsTidy (runClient name held step : ScriptM (Recorded σ) _) := by
  cases step with
  | copy target recentPages => exact (keepsTidy_put Shelf.lawful_clients _ _).answering _
  | drop => exact (keepsTidy_drop Shelf.lawful_clients name).answering _
  | close => exact (runErrand_keeps held.link .close).answering _
  | state => exact keepsTidy_get_bind fun _ _ htidy => htidy
  | openCollection path => exact keepsTidy_onHandle _ ((asks_tell _ _).answering _)
  | closeCollection => exact keepsTidy_onHandle _ ((asks_closeCollection).answering _)
  | fullQuery sql args => exact keepsTidy_onHandle _ ((asks_jsonQuery _).answering _)
  | firstRow sql args =>
    exact keepsTidy_onHandle _ (((asks_jsonQuery _).answering _).answering _)
  | execute sql args => exact keepsTidy_onHandle _ ((asks_execute sql args).answering _)
  | insert sql args => exact keepsTidy_onHandle _ ((asks_insert sql args).answering _)
  | columnNames sql => exact keepsTidy_onHandle _ ((asks_columnNames sql).answering _)
  | firstPage sql args => exact keepsTidy_onHandle _ ((asks_firstPage sql args).answering _)
  | nextPage sequence start => exact keepsTidy_onHandle _ ((asks_ask _ _).answering _)
  | cancelQuery sequence =>
    exact keepsTidy_onHandle _ ((asks_cancelQuery sequence).answering _)
  | cancelAll => exact keepsTidy_onHandle _ ((asks_cancelAll).answering _)
  | setPageSize bytes => exact keepsTidy_onHandle _ ((asks_tell _ _).answering _)
  | translate moduleIndex messageIndex args =>
    exact keepsTidy_onHandle _ ((asks_translate _ _ args).answering _)
  | progress => exact keepsTidy_onHandle _ ((asks_ask _ _).answering _)
  | abort => exact keepsTidy_onHandle _ ((asks_tell _ _).answering _)
  | call service method payload =>
    exact keepsTidy_onHandle _ ((asks_invoke service method payload).answering _)
  | begin guard =>
    apply (keepsTidy_onHandle held.link asks_beginTransaction).bind
    intro begun
    cases begun with
    | error fault => exact keepsTidy_pure _
    | ok value => exact (keepsTidy_put Shelf.lawful_guards guard _).answering _
  | newSession session => exact (keepsTidy_put Shelf.lawful_sessions session _).answering _
  | newDatabase database => exact (keepsTidy_put Shelf.lawful_databases database _).answering _
  | newCursor cursor sql args =>
    apply (keepsTidy_onHandle held.link (asks_openQuery sql args held.object)).bind
    intro opened
    cases opened with
    | error fault => exact keepsTidy_pure _
    | ok c => exact (keepsTidy_put Shelf.lawful_cursors cursor _).answering _
  | contend errand =>
    apply keepsTidy_get_bind
    intro known w htidy
    by_cases hwait : errand.mustWait (w.handle held.link) = true
    · simp only [hwait, if_true]
      apply htidy.setWaiting
      intro link hlink
      rw [List.map_append]
      exact .inl (List.mem_append_left _ hlink)
    · simp only [hwait, Bool.false_eq_true, if_false]
      exact (runErrand_keeps held.link errand).answering _ known w htidy
  | interruptedQuery sql =>
    apply (keepsTidy_onHandle held.link ((asks_jsonQuery _).answering _)).bind
    intro result
    exact keepsTidy_takeEvents.answering _

/-- A step of a guard.  One that is ended is taken away first, and then its handle is released. -/
theorem runGuard_keeps {known : Option (Except String Unit)} {w : World (Recorded σ)}
    (htidy : Tidy known none w) {name : String} {held : Held Unit}
    (hfound : Entries.find? name w.guards = some held) (step : GuardStep) :
    Tidy known none (runGuard name held step w).2 := by
  have hfinish (kind : Message.RequestKind) :
      Tidy known none (runGuard.finish name held kind w).2 := by
    have htaken := Shelf.lawful_guards.takeAway htidy hfound
    simp only [runGuard.finish, bind_apply_world, modify_apply_world, onHandle_apply,
      pure_apply_world]
    exact (htaken.withLink held.link (asks_finishTransaction kind)).release
  cases step with
  | commit => exact hfinish .commit
  | rollback => exact hfinish .rollback
  | drop => exact Shelf.lawful_guards.drop htidy name
  | text => exact htidy

/-- A step of a session. -/
theorem runSession_keeps (name : String) (step : SessionStep) :
    KeepsTidy (runSession name step : ScriptM (Recorded σ) _) := by
  cases step with
  | begin => exact keepsTidy_onObject Shelf.lawful_sessions name ((asks_beginSession).answering _)
  | mark => exact keepsTidy_onObject Shelf.lawful_sessions name (asks_markSession.answering _)
  | finish =>
    exact keepsTidy_onObject Shelf.lawful_sessions name ((asks_finishSession).answering _)
  | drop => exact (keepsTidy_drop Shelf.lawful_sessions name).answering _
  | state => exact keepsTidy_onObject Shelf.lawful_sessions name (objectAsks_get.answering _)

/-- A repeated move. -/
theorem asks_scan {move : CursorM (Journaled (Recorded σ)) Bool} (hmove : OrdinaryObject move)
    (fuel : Nat) : OrdinaryObject (scan move fuel) := by
  induction fuel with
  | zero => exact objectAsks_pure _
  | succ fuel ih =>
    refine hmove.bind fun moved => ?_
    cases moved with
    | false => exact objectAsks_pure _
    | true =>
      simp only [if_true]
      refine objectAsks_get.bind fun c => ?_
      cases c.read 0 with
      | error fault => exact objectAsks_throw _
      | ok value => exact ih.answering _

/-- A step of a cursor. -/
theorem runCursor_keeps (name : String) (step : CursorStep) :
    KeepsTidy (runCursor name step : ScriptM (Recorded σ) _) := by
  have hcall {α : Type} {call : CursorM (Journaled (Recorded σ)) α} (hcall : OrdinaryObject call) :
      KeepsTidy (onCursor name call) := keepsTidy_onObject Shelf.lawful_cursors name hcall
  cases step with
  | moveTo position => exact hcall ((asks_moveTo _).answering _)
  | moveBy offset => exact hcall ((asks_moveBy _).answering _)
  | first => exact hcall ((asks_moveTo 0).answering _)
  | last => exact hcall ((asks_moveToLast).answering _)
  | next => exact hcall ((asks_moveBy 1).answering _)
  | previous => exact hcall ((asks_moveBy (-1)).answering _)
  | state => exact hcall (objectAsks_get.answering _)
  | names => exact hcall ((asks_cursorNames).answering _)
  | columnCount => exact hcall ((asks_cursorNames).answering _)
  | columnIndex? column => exact hcall ((asks_columnIndex? column).answering _)
  | columnIndex column => exact hcall ((asks_columnIndex column).answering _)
  | columnName column => exact hcall ((asks_columnName column).answering _)
  | get column reading =>
    apply hcall
    refine objectAsks_get.bind fun c => ?_
    cases readColumn c column reading with
    | ok result => exact objectAsks_pure result
    | error fault => exact objectAsks_throw fault
  | row column => exact hcall (objectAsks_get.answering _)
  | scan forward =>
    apply hcall
    refine objectAsks_get.bind fun c => ?_
    cases forward with
    | true => exact (asks_scan (asks_moveBy 1) _).answering _
    | false => exact (asks_scan (asks_moveBy (-1)) _).answering _
  | close => exact hcall ((asks_closeCursor).answering _)
  | drop => exact (keepsTidy_drop Shelf.lawful_cursors name).answering _

theorem keepsTidy_onDatabase {α : Type} {call : SessionM (Journaled (Recorded σ)) α}
    (name : String) (hcall : OrdinaryObject call) : KeepsTidy (onDatabase name call) :=
  keepsTidy_onObject Shelf.lawful_databases name (ObjectAsks.bySession hcall)

/-- A step of a database. -/
theorem runDatabase_keeps (name : String) (held : Held DatabaseObject) (step : DatabaseStep) :
    KeepsTidy (runDatabase name held step : ScriptM (Recorded σ) _) := by
  cases step with
  | drop => exact (keepsTidy_drop Shelf.lawful_databases name).answering _
  | query cursor sql args =>
    apply (keepsTidy_onHandle held.link
      ((asks_openQuery sql args held.object.recentPages).annotated sql)).bind
    intro opened
    cases opened with
    | error fault => exact keepsTidy_pure _
    | ok c => exact (keepsTidy_put Shelf.lawful_cursors cursor _).answering _
  | exec sql args => exact keepsTidy_onHandle _ ((asks_databaseExec sql args).answering _)
  | execute sql args =>
    exact keepsTidy_onHandle _ ((asks_databaseExecute sql args).answering _)
  | insertForId sql args =>
    exact keepsTidy_onHandle _ ((asks_insertForId sql args).answering _)
  | fullQuery sql args =>
    exact keepsTidy_onHandle _ (((asks_jsonQuery _).annotated sql).answering _)
  | setPageSize bytes => exact keepsTidy_onHandle _ ((asks_tell _ _).answering _)
  | insert table conflict values =>
    exact keepsTidy_onHandle _ ((asks_databaseInsert table conflict values).answering _)
  | update table conflict values condition args =>
    exact keepsTidy_onHandle _
      ((asks_databaseUpdate table conflict values condition args).answering _)
  | delete table condition args =>
    exact keepsTidy_onHandle _ ((asks_delete table condition args).answering _)
  | integrity => exact keepsTidy_onHandle _ ((asks_integrityOk).answering _)
  | begin => exact keepsTidy_onDatabase name ((asks_beginSession).answering _)
  | mark => exact keepsTidy_onDatabase name (asks_markSession.answering _)
  | finish => exact keepsTidy_onDatabase name ((asks_finishSession).answering _)
  | state => exact keepsTidy_onDatabase name (objectAsks_get.answering _)

/-- A step of a statement. -/
theorem runStatementStep_keeps (held : Held DatabaseObject) (s : Statement) (step : StatementStep) :
    KeepsTidy (runStatementStep held s step : ScriptM (Recorded σ) _) := by
  cases step with
  | bind index value =>
    simp only [runStatementStep]
    cases s.bind index value with
    | ok bound => exact keepsTidy_pure _
    | error fault => exact keepsTidy_pure _
  | clear => exact keepsTidy_pure _
  | execute =>
    exact (keepsTidy_onHandle _ ((asks_databaseExec _ _).answering _)).answering _
  | executeInsert =>
    exact (keepsTidy_onHandle held.link ((asks_insertForId s.sql s.args).answering _)).answering _
  | executeUpdate =>
    exact (keepsTidy_onHandle held.link
      ((asks_databaseExecute s.sql s.args).answering _)).answering _
  | firstInteger => exact (keepsTidy_onHandle _ ((asks_firstAs _ s _).answering _)).answering _
  | firstText => exact (keepsTidy_onHandle _ ((asks_firstAs _ s _).answering _)).answering _

theorem runStatement_keeps (held : Held DatabaseObject) (s : Statement)
    (steps : List StatementStep) :
    KeepsTidy (runStatement held s steps : ScriptM (Recorded σ) _) := by
  induction steps generalizing s with
  | nil => exact keepsTidy_pure _
  | cons step rest ih =>
    apply (runStatementStep_keeps held s step).bind
    intro answer
    exact keepsTidy_takeEvents.bind fun _ => (ih answer.2).answering _

end Objects

end Script
end EngineLink
