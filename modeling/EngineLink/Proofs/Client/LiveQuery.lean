import EngineLink.Proofs.Client.ActiveQuery
import EngineLink.Proofs.Page.Numbering

/-!
# Client and engine on the live query

The handle of a client has the number of the active query and the instance has its result, and
every call of the client brings both up to date.  They agree after all calls that succeed and
after most that fail.  Only a paged query whose first page does not fit the wire leaves a result
behind that the client does not know of, a stray one; the two agree again once another query is
answered or all results are discarded.

Main results:

- Theorem {lit}`InStep.run`: how far the stored result is ahead of the client, after one call.
- Theorem {lit}`agrees_iff_no_stray`: when the two agree, after all calls of a client.
- Theorem {lit}`oversized_first_page_goes_unnoticed`: a result the client does not know of.
-/

namespace EngineLink

open Effects Reference

/-! ## Calls of a client -/

/-- A typed call of a client, or one of its cursors. -/
inductive ClientCall where
  | openCollection (path : String)
  | closeCollection
  | fullQuery (sql : String) (args : List Value)
  | firstRow (sql : String) (args : List Value)
  | execute (sql : String) (args : List Value)
  | insert (sql : String) (args : List Value)
  | columnNames (sql : String)
  | firstPage (sql : String) (args : List Value)
  | openCursor (sql : String) (args : List Value) (recentPages : Nat)
  | nextPage (sequence : Int32) (start : Int64)
  | move (cursor : Cursor) (step : Move)
  | cancelQuery (sequence : Int32)
  | closeCursor (cursor : Cursor)
  | cancelAll
  | setPageSize (bytes : UInt64)
  | begin
  | finish (kind : Message.RequestKind)
  | translate (moduleIndex messageIndex : UInt32) (args : TextMap)
  | progress
  | abort

namespace ClientCall

/-- What a call does to the link, whether it answers or fails. -/
def run : ClientCall → Link World → Link World
  | .openCollection path, link => (Link.openCollection path link).2
  | .closeCollection, link => (Link.closeCollection link).2
  | .fullQuery sql args, link => (Link.fullQuery sql args link).2
  | .firstRow sql args, link => (Link.firstRow sql args link).2
  | .execute sql args, link => (Link.execute sql args link).2
  | .insert sql args, link => (Link.insert sql args link).2
  | .columnNames sql, link => (Link.columnNames sql link).2
  | .firstPage sql args, link => (Link.firstPage sql args link).2
  | .openCursor sql args recentPages, link => (Cursor.openQuery sql args recentPages link).2
  | .nextPage sequence start, link => (Link.nextPage sequence start link).2
  | .move cursor step, link => (step.run cursor link).2
  | .cancelQuery sequence, link => (Link.cancelQuery sequence link).2
  | .closeCursor cursor, link => cursor.discard link
  | .cancelAll, link => (Link.cancelAll link).2
  | .setPageSize bytes, link => (Link.setPageSize bytes link).2
  | .begin, link => (Link.beginTransaction link).2
  | .finish kind, link => (Link.finishTransaction kind link).2
  | .translate moduleIndex messageIndex args, link =>
    (Link.translate moduleIndex messageIndex args link).2
  | .progress, link => (Link.progress link).2
  | .abort, link => (Link.abort link).2

/-- What some calls do to the link, one after the other. -/
def runAll (calls : List ClientCall) (link : Link World) : Link World :=
  calls.foldl (fun link call => call.run link) link

/-- How many results the engine has stored, one after the other, whose numbers got lost on the
way to the client, given how many there were before the call. -/
def strayAfter (link : Link World) (stray : Nat) : ClientCall → Nat
  | .firstPage sql args | .openCursor sql args _ =>
    if overflows link sql args then stray + 1
    else if (Link.firstPage sql args link).1.isOk then 0
    else stray
  | .closeCollection | .cancelAll => 0
  | _ => stray

/-- The same after some calls. -/
def strayAfterAll (link : Link World) (stray : Nat) : List ClientCall → Nat
  | [] => stray
  | call :: rest => strayAfterAll (call.run link) (strayAfter link stray call) rest

end ClientCall

/-- A query is active exactly if its result is stored. -/
def Agrees (link : Link World) : Prop :=
  link.handle.active = (storedResult link).map (·.sequence)

instance (link : Link World) : Decidable (Agrees link) :=
  inferInstanceAs (Decidable (_ = _))

/-! ## How far the stored result is ahead -/

/-- The numbers of the active query and of the stored result are the same without stray results.
Else the stored one comes as many numbers later, as long as the numbers have not come round. -/
structure Ahead (stray : Nat) (active : Option Int32) (results : ResultStore) : Prop where
  next_eq : ∀ result, results.current = some result →
    results.next = ResultStore.successor result.sequence
  same : stray = 0 → active = results.current.map (·.sequence)
  later : 0 < stray → stray < 2 ^ 31 - 1 → ∃ result, results.current = some result ∧
    ∀ sequence, active = some sequence → result.sequence = ResultStore.numberAfter sequence stray

namespace Ahead

variable {stray : Nat} {active : Option Int32} {results : ResultStore}

/-- Without any result there is no active query. -/
theorem of_none (hcurrent : results.current = none) : Ahead 0 none results where
  next_eq result hresult := by
    rw [hcurrent] at hresult
    cases hresult
  same _ := by rw [hcurrent]; rfl
  later hpositive := absurd hpositive (Nat.lt_irrefl 0)

/-- A query that is answered is active, and its result is the stored one. -/
theorem answered (results : ResultStore) (rows : List Row) (budget : Nat) :
    Ahead 0 (some (results.store rows budget).1.sequence) (results.store rows budget).2 where
  next_eq result hresult := by
    cases hresult
    rfl
  same _ := rfl
  later hpositive := absurd hpositive (Nat.lt_irrefl 0)

/-- A result the client does not hear of is one number further ahead. -/
theorem lost (hahead : Ahead stray active results) (rows : List Row) (budget : Nat) :
    Ahead (stray + 1) active (results.store rows budget).2 where
  next_eq result hresult := by
    cases hresult
    rfl
  same hzero := absurd hzero (Nat.succ_ne_zero stray)
  later _ hbound := by
    refine ⟨_, rfl, fun sequence hactive => ?_⟩
    show results.next = ResultStore.successor (ResultStore.numberAfter sequence stray)
    by_cases hzero : stray = 0
    · subst hzero
      have hsame := hahead.same rfl
      rw [hactive] at hsame
      obtain ⟨result, hcurrent, rfl⟩ := Option.map_eq_some_iff.mp hsame.symm
      exact hahead.next_eq result hcurrent
    · obtain ⟨result, hcurrent, hlater⟩ :=
        hahead.later (Nat.pos_of_ne_zero hzero) (Nat.lt_of_succ_lt hbound)
      rw [← hlater sequence hactive]
      exact hahead.next_eq result hcurrent

/-- Discarding the active query discards its own result, but no stray one. -/
theorem cancelled (hahead : Ahead stray active results) (sequence : Int32) :
    Ahead stray (if active = some sequence then none else active)
      (if active = some sequence then results.flush sequence else results) := by
  by_cases hown : active = some sequence
  · rw [if_pos hown, if_pos hown]
    refine ⟨fun result hresult => ?_, fun hzero => ?_, fun hpositive hbound => ?_⟩
    · exact hahead.next_eq result (Option.eq_some_of_filter_eq_some hresult)
    · have hsame := hahead.same hzero
      rw [hown] at hsame
      obtain ⟨result, hcurrent, rfl⟩ := Option.map_eq_some_iff.mp hsame.symm
      rw [ResultStore.current_flush_self hcurrent]
      rfl
    · obtain ⟨result, hcurrent, hlater⟩ := hahead.later hpositive hbound
      refine ⟨result, ?_, fun _ hnone => nomatch hnone⟩
      rw [ResultStore.current_flush, hcurrent]
      intro kept hkept
      obtain rfl : result = kept := Option.some.inj (hcurrent.symm.trans hkept)
      rw [hlater sequence hown]
      exact ResultStore.numberAfter_ne_self sequence hpositive hbound
  · rw [if_neg hown, if_neg hown]
    exact hahead

/-- The two numbers are the same only without stray results. -/
theorem eq_iff (hahead : Ahead stray active results) (hbound : stray < 2 ^ 31 - 1) :
    active = results.current.map (·.sequence) ↔ stray = 0 := by
  refine ⟨fun hsame => ?_, hahead.same⟩
  rcases Nat.eq_zero_or_pos stray with hzero | hpositive
  · exact hzero
  · obtain ⟨result, hcurrent, hlater⟩ := hahead.later hpositive hbound
    rw [hcurrent] at hsame
    exact absurd (hlater _ hsame).symm (ResultStore.numberAfter_ne_self _ hpositive hbound)

end Ahead

/-- A link whose instance has its stored result so many numbers ahead of the client. -/
def InStep (stray : Nat) (link : Link World) : Prop :=
  ∃ active results, Shows link active results ∧ Ahead stray active results

section Steps

variable {stray : Nat} {link : Link World}

/-- What a link shows to both sides decides whether they agree. -/
theorem agrees_iff {active : Option Int32} {results : ResultStore}
    (hshows : Shows link active results) :
    Agrees link ↔ active = results.current.map (·.sequence) := by
  rw [Agrees, storedResult_eq hshows, hshows.active_eq]

/-! ## Steps -/

/-- A call that comes down to one request, to a method that changes nothing of either side. -/
theorem InStep.of_send {α : Type} [Wired α] {link' : Link World} (hstep : InStep stray link)
    (method : Method) (hquiet : IsQuiet method) (request : α)
    (hlink : link' = (Link.send method request link).2) : InStep stray link' := by
  obtain ⟨active, results, hshows, hahead⟩ := hstep
  rw [hlink]
  exact ⟨active, results, hshows.quiet method hquiet request, hahead⟩

/-- A paged query, in each of its three ends. -/
theorem InStep.firstPage (hstep : InStep stray link) (sql : String) (args : List Value) :
    InStep (ClientCall.strayAfter link stray (.firstPage sql args))
      (Link.firstPage sql args link).2 := by
  obtain ⟨active, results, hshows, hahead⟩ := hstep
  have hends := firstPage_ends hshows sql args
  simp only [ClientCall.strayAfter]
  generalize Link.firstPage sql args link = answer at hends ⊢
  generalize overflows link sql args = overflow at hends ⊢
  cases hends with
  | answered rows budget hshows' => exact ⟨_, _, hshows', .answered results rows budget⟩
  | refused fault hshows' => exact ⟨_, _, hshows', hahead⟩
  | lost fault rows budget hshows' => exact ⟨_, _, hshows', hahead.lost rows budget⟩

theorem InStep.cancelQuery (hstep : InStep stray link) (sequence : Int32) :
    InStep stray (Link.cancelQuery sequence link).2 := by
  obtain ⟨active, results, hshows, hahead⟩ := hstep
  exact ⟨_, _, hshows.cancelQuery sequence, hahead.cancelled sequence⟩

/-- A call that does something to its response does to the link what its request does. -/
theorem askMapped_link {α β γ : Type} [Wired α] [Wired β] {method : Method} {request : α}
    (f : β → γ) :
    ((do return f (← Link.ask method request) : LinkM World γ) link).2 =
      (Link.send method request link).2 :=
  (bind_state (fun _ _ => rfl) link).trans (ask_link method request)

/-- One call of a client, whichever it is and whatever comes of it. -/
theorem InStep.run (hstep : InStep stray link) (call : ClientCall) :
    InStep (call.strayAfter link stray) (call.run link) := by
  cases call with
  | openCollection path => exact hstep.of_send .openCollection trivial _ (tell_link _ _)
  | closeCollection =>
    obtain ⟨active, results, hshows, -⟩ := hstep
    exact ⟨none, _, hshows.closeCollection, .of_none rfl⟩
  | fullQuery sql args => exact hstep.of_send .query trivial _ (jsonQuery_link _)
  | firstRow sql args =>
    refine hstep.of_send .query trivial _ (Eq.trans ?_ (jsonQuery_link (.firstRow sql args)))
    exact bind_state (fun _ _ => rfl) link
  | execute sql args => exact hstep.of_send .execute trivial _ (askMapped_link _)
  | insert sql args => exact hstep.of_send .insert trivial _ (askMapped_link _)
  | columnNames sql => exact hstep.of_send .columnNames trivial _ (askMapped_link _)
  | firstPage sql args => exact hstep.firstPage sql args
  | openCursor sql args recentPages =>
    have hlink : (Cursor.openQuery sql args recentPages link).2 =
        (Link.firstPage sql args link).2 := openQuery_link
    simp only [ClientCall.run, hlink]
    exact hstep.firstPage sql args
  | nextPage sequence start => exact hstep.of_send .nextPage trivial _ (ask_link _ _)
  | move cursor step =>
    simp only [ClientCall.run, Move.run_apply]
    rcases Cursor.moveTo_link (step.target cursor) cursor link with hlink | hlink <;> rw [hlink]
    · exact hstep
    · exact hstep.of_send .nextPage trivial _ (ask_link _ _)
  | cancelQuery sequence => exact hstep.cancelQuery sequence
  | closeCursor cursor =>
    simp only [ClientCall.run, Cursor.discard, Cursor.close_apply]
    split
    · exact hstep
    · exact hstep.cancelQuery cursor.sequence
  | cancelAll =>
    obtain ⟨active, results, hshows, -⟩ := hstep
    exact ⟨none, _, hshows.cancelAll, .of_none rfl⟩
  | setPageSize bytes => exact hstep.of_send .setPageSize trivial _ (tell_link _ _)
  | begin =>
    obtain ⟨active, results, hshows, hahead⟩ := hstep
    exact ⟨_, _, hshows.beginTransaction, hahead⟩
  | finish kind =>
    obtain ⟨active, results, hshows, hahead⟩ := hstep
    exact ⟨_, _, hshows.finishTransaction kind, hahead⟩
  | translate moduleIndex messageIndex args =>
    exact hstep.of_send .translate trivial _ (askMapped_link _)
  | progress => exact hstep.of_send .progress trivial _ (ask_link _ _)
  | abort => exact hstep.of_send .abort trivial _ (tell_link _ _)

/-- All calls of a client. -/
theorem InStep.runAll (hstep : InStep stray link) (calls : List ClientCall) :
    InStep (ClientCall.strayAfterAll link stray calls) (ClientCall.runAll calls link) := by
  induction calls generalizing link stray with
  | nil => exact hstep
  | cons call rest ih => exact ih (hstep.run call)

/-- A paged query that fails has dropped the result before it exactly if it has stored another
one. -/
theorem InStep.storedResult_firstPage (hstep : InStep stray link) {sql : String}
    {args : List Value} {fault : Error} (hfails : (Link.firstPage sql args link).1 = .error fault) :
    storedResult (Link.firstPage sql args link).2 = storedResult link ↔
      overflows link sql args = false := by
  obtain ⟨active, results, hshows, hahead⟩ := hstep
  have hends := firstPage_ends hshows sql args
  rw [storedResult_eq hshows]
  generalize Link.firstPage sql args link = answer at hends hfails ⊢
  generalize overflows link sql args = overflow at hends ⊢
  cases hends with
  | answered rows budget hshows' => cases hfails
  | refused fault hshows' => simp only [storedResult_eq hshows']
  | lost fault rows budget hshows' =>
    simp only [storedResult_eq hshows', reduceCtorEq, iff_false]
    intro hsame
    -- Were it the result before, its number would be the one after its own.
    have hnext := hahead.next_eq _ hsame.symm
    exact ResultStore.successor_ne_self results.next hnext.symm

end Steps

/-- Client and engine agree on the live query, after all calls from a link without any query on,
exactly if no stray result is stored since the last query that was answered or the last end of
all results.  A paged query that fails leaves the result before it in place exactly if its first
page is not the reason. -/
theorem agrees_iff_no_stray {link : Link World} {i : Instance} (hreaches : Reaches link i)
    (hactive : link.handle.active = none) (hcurrent : i.results.current = none)
    (calls : List ClientCall) :
    (ClientCall.strayAfterAll link 0 calls < 2 ^ 31 - 1 →
      (Agrees (ClientCall.runAll calls link) ↔ ClientCall.strayAfterAll link 0 calls = 0)) ∧
    ∀ sql args fault, (Link.firstPage sql args (ClientCall.runAll calls link)).1 = .error fault →
      (storedResult (Link.firstPage sql args (ClientCall.runAll calls link)).2 =
          storedResult (ClientCall.runAll calls link) ↔
        overflows (ClientCall.runAll calls link) sql args = false) := by
  have hstart : InStep 0 link := ⟨none, i.results, hactive ▸ hreaches.shows, .of_none hcurrent⟩
  have hend := hstart.runAll calls
  constructor
  · intro hbound
    obtain ⟨active, results, hshows, hahead⟩ := hend
    rw [agrees_iff hshows]
    exact hahead.eq_iff hbound
  · intro sql args fault hfails
    exact hend.storedResult_firstPage hfails

/-- A query stays active when another one, which is none, fails after it. -/
theorem live_query_survives_failure :
    let link := ClientCall.runAll [.firstPage "values (1)" []] inMemory
    link.handle.active = some 1 ∧ Agrees link ∧
      ∃ fault, (Link.firstPage "values" [] link).1 = .error fault ∧
        storedResult (Link.firstPage "values" [] link).2 = storedResult link := by
  intro link
  have hstray : ClientCall.strayAfterAll inMemory 0 [.firstPage "values (1)" []] = 0 := by
    decide +kernel
  have hoverflows : overflows link "values" [] = false := by decide +kernel
  have hfails : (Link.firstPage "values" [] link).1.toOption = none := by decide +kernel
  obtain ⟨hagrees, hfailed⟩ :=
    agrees_iff_no_stray reaches_inMemory rfl rfl [.firstPage "values (1)" []]
  refine ⟨by decide +kernel, (hagrees (by omega)).mpr hstray, ?_⟩
  cases hfirst : (Link.firstPage "values" [] link).1 with
  | ok page =>
    rw [hfirst] at hfails
    cases hfails
  | error fault => exact ⟨fault, rfl, (hfailed _ _ fault hfirst).mpr hoverflows⟩

/-! ## A result the client does not know of -/

section Oversized

variable {i : Instance} {c : Connection} {disk : Disk} {sql span : String} {size : Int64}
  (hread : Grammar.read sql =
    .ok (.select [⟨.zeroBlob (.literal (.integer size)), none, span⟩] none none none, 0))

include hread

/-- Asking for zeros answers them, however many there are. -/
theorem rowsOf_zeroBlob (hconnection : i.connection = some c) :
    Instance.rowsOf (.query sql []) (i, disk) =
      (.ok [[.blob (List.replicate size.toInt.toNat 0)]], i, disk) := by
  obtain ⟨languages, connection, results, pageSize⟩ := i
  obtain rfl : connection = some c := hconnection
  have hprepare : Connection.prepareText sql (c, disk) =
      (.ok ⟨.select [.zeroBlob (.literal (.integer size))], [span], 0⟩, c, disk) := by
    simp only [Connection.prepareText, bind_apply, hread]
    rfl
  simp only [Instance.rowsOf, Instance.onCollection, Connection.execute, Message.DbRequest.query,
    bind_apply, hprepare]
  rfl

/-- A page of zeros does not fit the wire if they are as many as the bytes of a message. -/
theorem overflows_zeroBlob {link : Link World} (hreaches : Reaches link i)
    (hconnection : i.connection = some c)
    (hencode : ∃ payload, encode (Message.DbRequest.query sql []) = .ok payload)
    (hlarge : maxMessageSize ≤ size.toInt.toNat) : overflows link sql [] = true := by
  obtain ⟨payload, hencode⟩ := hencode
  have hrows : Instance.rowsOf (.query sql []) (i, link.engine.disk) = _ :=
    rowsOf_zeroBlob hread hconnection
  have hlength : maxMessageSize ≤ (List.replicate size.toInt.toNat (0 : UInt8)).length := by
    rwa [List.length_replicate]
  generalize List.replicate size.toInt.toNat (0 : UInt8) = bytes at hrows hlength
  have hpage : (i.results.store [[.blob bytes]] i.pageSize.toNat).1.rows = [[.blob bytes]] := rfl
  obtain ⟨fault, hfault⟩ := encode_blobPage hpage hlength
  rw [overflows_of_rows hreaches hencode hrows, hfault]
  rfl

/-- So they are stored while the client goes on with the query before. -/
theorem stray_zeroBlob {link : Link World} (hreaches : Reaches link i)
    (hconnection : i.connection = some c)
    (hencode : ∃ payload, encode (Message.DbRequest.query sql []) = .ok payload)
    (hlarge : maxMessageSize ≤ size.toInt.toNat) :
    (Link.firstPage sql [] link).2.handle.active = link.handle.active ∧
      (storedResult (Link.firstPage sql [] link).2).map (·.sequence) = some i.results.next := by
  have hoverflows := overflows_zeroBlob hread hreaches hconnection hencode hlarge
  obtain ⟨rows, budget, hlost⟩ := hreaches.shows.lost_of_overflows hoverflows
  refine ⟨hlost.active_eq, ?_⟩
  rw [storedResult_eq hlost]
  rfl

end Oversized

theorem read_zeroBlob : Grammar.read "select zeroblob(16777216)" =
    .ok (.select [⟨.zeroBlob (.literal (.integer 16777216)), none, "zeroblob(16777216)"⟩]
      none none none, 0) := by
  have hread : (Grammar.read "select zeroblob(16777216)").toOption =
      some (.select [⟨.zeroBlob (.literal (.integer 16777216)), none, "zeroblob(16777216)"⟩]
        none none none, 0) := by decide +kernel
  cases hstatement : Grammar.read "select zeroblob(16777216)" with
  | error fault =>
    rw [hstatement] at hread
    cases hread
  | ok statement =>
    rw [hstatement] at hread
    exact congrArg Except.ok (Option.some.inj hread)

/-- A client whose second query finds a blob that does not fit the wire. -/
def oversizedSecond : List ClientCall :=
  [.firstPage "select 1" [], .firstPage "select zeroblob(16777216)" []]

/-- The client keeps the first query as the active one, but the engine keeps the result of the
second. -/
theorem oversized_first_page_goes_unnoticed :
    (ClientCall.runAll oversizedSecond inMemory).handle.active = some 1 ∧
      (storedResult (ClientCall.runAll oversizedSecond inMemory)).map (·.sequence) = some 2 ∧
      ¬ Agrees (ClientCall.runAll oversizedSecond inMemory) := by
  have hhandle : (Link.firstPage "select 1" [] inMemory).2.handle =
      { Handle.create 1 with active := some 1 } := by decide +kernel
  have hfound : ((Link.firstPage "select 1" [] inMemory).2.engine.find? 1).map
      (fun i => (i.connection.isSome, i.results.next)) = some (true, 2) := by decide +kernel
  have hencode : ∃ payload, encode (Message.DbRequest.query "select zeroblob(16777216)" []) =
      .ok payload := ⟨_, encode_eq_ok_iff.mpr ⟨by decide +kernel, rfl⟩⟩
  have hlarge : maxMessageSize ≤ (16777216 : Int64).toInt.toNat := by decide +kernel
  have hrun (link : Link World) : ClientCall.runAll oversizedSecond link =
      (Link.firstPage "select zeroblob(16777216)" [] (Link.firstPage "select 1" [] link).2).2 := rfl
  rw [hrun]
  -- From here on only these facts about the link after the first query matter.
  generalize (Link.firstPage "select 1" [] inMemory).2 = first at hhandle hfound ⊢
  obtain ⟨i, hfound, hi⟩ := Option.map_eq_some_iff.mp hfound
  obtain ⟨hconnection, hnext⟩ := Prod.mk.inj hi
  obtain ⟨c, hconnection⟩ := Option.isSome_iff_exists.mp hconnection
  have hreaches : Reaches first i := by
    refine ⟨?_, ?_, ?_⟩ <;> rw [hhandle]
    · decide
    · rfl
    · exact hfound
  obtain ⟨hactive, hstored⟩ := stray_zeroBlob read_zeroBlob hreaches hconnection hencode hlarge
  rw [hhandle] at hactive
  rw [hnext] at hstored
  refine ⟨hactive, hstored, ?_⟩
  rw [Agrees, hactive, hstored]
  decide

end EngineLink
