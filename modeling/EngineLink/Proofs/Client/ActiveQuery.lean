import EngineLink.Proofs.Client.PageCalls

/-!
# The active query and the stored result

Which paged query is live is known twice: the client has the number of the active query, the
instance has its stored result.  Here is what every call of a client does to both, on a link
that reaches an instance of the reference engine.

Main results:

- Theorem {lit}`Shows.quiet`: most calls change neither.
- Theorem {lit}`Shows.cancelQuery`: only the active query is discarded, on both sides.
- Theorem {lit}`firstPage_ends`: a paged query can end in three ways, one of which leaves a result
  stored that the client never hears of.
-/

namespace EngineLink
namespace Reference

open Effects

/-- A link on which the given query is active, to an instance with the given results. -/
structure Shows (link : Link World) (active : Option Int32) (results : ResultStore) : Prop where
  active_eq : link.handle.active = active
  reached : ∃ i, Reaches link i ∧ i.results = results

variable {link link' : Link World} {i : Instance} {active : Option Int32} {results : ResultStore}

/-- What a link that reaches an instance shows. -/
theorem Reaches.shows (hreaches : Reaches link i) : Shows link link.handle.active i.results :=
  ⟨rfl, i, hreaches, rfl⟩

/-- The result that is stored in the instance of a link. -/
def storedResult (link : Link World) : Option StoredResult :=
  (link.engine.find? link.handle.raw).bind (·.results.current)

theorem storedResult_eq (hshows : Shows link active results) :
    storedResult link = results.current := by
  obtain ⟨-, i, hreaches, rfl⟩ := hshows
  simp only [storedResult, hreaches.found, Option.bind_some]

/-- What a handle knows besides may change, the active query with it. -/
theorem Shows.of_handle {handle : Handle} {active' : Option Int32}
    (hshows : Shows link active results) (hraw : handle.raw = link.handle.raw)
    (hpoison : handle.poison = link.handle.poison) (hactive : handle.active = active') :
    Shows { link with handle } active' results := by
  obtain ⟨-, i, hreaches, hresults⟩ := hshows
  exact ⟨hactive, i, hreaches.of_handle hraw hpoison, hresults⟩

/-! ## Requests -/

section Requests

variable {α β : Type} [Wired α] [Wired β]

/-- No request changes the handle. -/
theorem send_handle (hreaches : Reaches link i) (method : Method) (request : α) :
    (Link.send method request link).2.handle = link.handle := by
  cases hencode : encode request with
  | error fault => rw [send_of_error method hencode]
  | ok payload =>
    have hmethod := Method.ofIds?_ids method
    rw [send_of_ok method hencode, (invoke_known hreaches hmethod payload).1]
    rfl

/-- A request that fits the wire does to the instance what the operation of its method does. -/
theorem send_operation [Faithful α] (method : Method) {operation : α → InstanceM β} {request : α}
    {payload : Bytes} (hreaches : Reaches link i)
    (hmethod : dispatch link.handle.raw method = served operation)
    (hencode : encode request = .ok payload) :
    (Link.send method request link).2 =
      after link (operation request (i, link.engine.disk)).2 := by
  have hids := Method.ofIds?_ids method
  rw [send_of_ok method hencode, (invoke_known hreaches hids payload).1, hmethod, served_state,
    decode_encode hencode]

/-- A call that does not answer, because its operation fails or its response does not fit the
wire, still does what the operation does. -/
theorem ask_eq_error [Faithful α] [Faithful β] {method : Method} {operation : α → InstanceM β}
    {request : α} {payload : Bytes} {answer : Except Message.Envelope β} {s : Instance × Disk}
    (hreaches : Reaches link i) (hmethod : dispatch link.handle.raw method = served operation)
    (hencode : encode request = .ok payload)
    (hoperation : operation request (i, link.engine.disk) = (answer, s))
    (hunfit : ∀ response, answer = .ok response → ∃ fault, encode response = .error fault) :
    ∃ fault, (Link.ask method request link : Except Error β × Link World) =
      (.error fault, after link s) := by
  have hstate : (Link.ask method request link : Except Error β × Link World).2 = after link s := by
    rw [ask_link, send_operation method hreaches hmethod hencode, hoperation]
  rcases hask : (Link.ask method request link : Except Error β × Link World) with
    ⟨fault | response, link'⟩ <;> rw [hask] at hstate <;> obtain rfl : link' = _ := hstate
  · exact ⟨fault, rfl⟩
  · obtain ⟨-, ⟨bytes, hresponse⟩, s', hanswer, -⟩ := (ask_eq_ok_iff hreaches hmethod).mp hask
    rw [hoperation] at hanswer
    obtain ⟨fault, hfault⟩ := hunfit response (congrArg Prod.fst hanswer)
    rw [hresponse] at hfault
    cases hfault

/-- A request leaves the active query alone and takes a step of its method. -/
theorem Shows.send (hshows : Shows link active results) (method : Method) (request : α) :
    ∃ results', Shows (Link.send method request link).2 active results' ∧
      (results' = results ∨ ∃ input, StoreStep input results method results') := by
  obtain ⟨hactive, i, hreaches, rfl⟩ := hshows
  have hsteps : Steps (fun _ sent => sent = method) link (Link.send method request link).2 :=
    steps_send rfl
  have hhandle := send_handle hreaches method request
  obtain ⟨i', hreaches', hkept | ⟨input, sent, rfl, hstep⟩⟩ := hsteps i hreaches
  · exact ⟨i'.results, ⟨by rw [hhandle, hactive], i', hreaches', rfl⟩, .inl hkept⟩
  · exact ⟨i'.results, ⟨by rw [hhandle, hactive], i', hreaches', rfl⟩, .inr ⟨input, hstep⟩⟩

/-- Methods that neither store a result nor drop one. -/
def IsQuiet : Method → Prop
  | .pagedQuery | .flush | .flushAll | .closeCollection => False
  | _ => True

theorem results_of_quiet {input : Bytes} {method : Method} {s s' : ResultStore}
    (hstep : StoreStep input s method s') (hquiet : IsQuiet method) : s' = s := by
  cases hstep with
  | kept => rfl
  | stored rows budget => exact hquiet.elim
  | flushed hrequest => exact hquiet.elim
  | flushedAll => exact hquiet.elim
  | closed => exact hquiet.elim

/-- A request to such a method changes nothing. -/
theorem Shows.quiet (hshows : Shows link active results) (method : Method)
    (hquiet : IsQuiet method) (request : α) :
    Shows (Link.send method request link).2 active results := by
  obtain ⟨results', hshows', hkept | ⟨input, hstep⟩⟩ := hshows.send method request
  · exact hkept ▸ hshows'
  · exact results_of_quiet hstep hquiet ▸ hshows'

end Requests

/-! ## Transactions -/

/-- A transaction that begins is noted in the handle, but not as a query. -/
theorem Shows.beginTransaction (hshows : Shows link active results) :
    Shows (Link.beginTransaction link).2 active results := by
  have hcontrol : Shows (Link.control .begin link).2 active results := by
    rw [control_link]
    exact hshows.quiet .query trivial _
  simp only [Link.beginTransaction, bind_apply]
  rcases hrun : Link.control .begin link with ⟨_ | ⟨⟩, link'⟩
  · rw [hrun] at hcontrol
    exact hcontrol
  · rw [hrun] at hcontrol
    exact hcontrol.of_handle rfl rfl hcontrol.active_eq

/-- The end of one is noted in the handle, too. -/
theorem Shows.finishTransaction (hshows : Shows link active results)
    (kind : Message.RequestKind) : Shows (Link.finishTransaction kind link).2 active results := by
  have hcontrol : Shows (Link.control kind link).2 active results := by
    rw [control_link]
    exact hshows.quiet .query trivial _
  simp only [Link.finishTransaction]
  rcases hrun : Link.control kind link with ⟨answer, link'⟩
  rw [hrun] at hcontrol
  exact hcontrol.of_handle rfl rfl hcontrol.active_eq

/-! ## Results that are discarded -/

/-- A query that is active is discarded on both sides; any other one is left alone. -/
theorem Shows.cancelQuery (hshows : Shows link active results) (sequence : Int32) :
    Shows (Link.cancelQuery sequence link).2
      (if active = some sequence then none else active)
      (if active = some sequence then results.flush sequence else results) := by
  have hactive := hshows.active_eq
  rw [cancelQuery_link, hactive]
  by_cases hown : active = some sequence
  · rw [if_pos hown, if_pos hown, if_pos hown]
    obtain ⟨-, i, hreaches, rfl⟩ := hshows
    have hreaches' : Reaches { link with handle := { link.handle with active := none } } i :=
      hreaches.of_handle rfl rfl
    obtain ⟨payload, hencode⟩ := encode_flushRequest ⟨sequence⟩
    rw [send_operation .flush hreaches' rfl hencode]
    exact ⟨rfl, _, hreaches'.after _, rfl⟩
  · rw [if_neg hown, if_neg hown, if_neg hown]
    exact hshows

/-- All results are discarded on both sides. -/
theorem Shows.cancelAll (hshows : Shows link active results) :
    Shows (Link.cancelAll link).2 none results.clear := by
  obtain ⟨-, i, hreaches, rfl⟩ := hshows
  have hreaches' : Reaches { link with handle := { link.handle with active := none } } i :=
    hreaches.of_handle rfl rfl
  have hencode : encode Message.Empty.mk = .ok (Wired.toItem Message.Empty.mk).write :=
    encode_eq_ok_iff.mpr ⟨by decide, rfl⟩
  simp only [Link.cancelAll, Link.setHandle, bind_apply, modify_apply, tell_link]
  rw [send_operation .flushAll hreaches' rfl hencode]
  exact ⟨rfl, _, hreaches'.after _, rfl⟩

/-- Closing the collection discards all results first, and there is nothing left to drop then. -/
theorem Shows.closeCollection (hshows : Shows link active results) :
    Shows (Link.closeCollection link).2 none results.clear := by
  have hcleared := hshows.cancelAll
  simp only [Link.closeCollection, bind_apply]
  rcases hrun : Link.cancelAll link with ⟨_ | ⟨⟩, link'⟩
  · rw [hrun] at hcleared
    exact hcleared
  · rw [hrun] at hcleared
    have htell : (Link.tell .closeCollection Message.Empty.mk link').2 =
        (Link.send .closeCollection Message.Empty.mk link').2 := tell_link _ _
    obtain ⟨results', hshows', hstep⟩ := hcleared.send .closeCollection Message.Empty.mk
    have hclear : results' = results.clear := by
      rcases hstep with hkept | ⟨input, hstep⟩
      · exact hkept
      · cases hstep with
        | kept => rfl
        | closed => rfl
    simp only [htell]
    exact hclear ▸ hshows'

/-! ## Paged queries -/

/-- Whether a paged query finds rows whose first page does not fit the wire. -/
def overflows (link : Link World) (sql : String) (args : List Value) : Bool :=
  match encode (Message.DbRequest.query sql args), link.engine.find? link.handle.raw with
  | .ok _, some i =>
    match Instance.rowsOf (.query sql args) (i, link.engine.disk) with
    | (.ok rows, _) => (encode (i.results.store rows i.pageSize.toNat).1).toOption.isNone
    | (.error _, _) => false
  | _, _ => false

section Overflows

variable {sql : String} {args : List Value} {payload : Bytes} {s : Instance × Disk}

theorem overflows_of_unsent {fault : CodecFault}
    (hencode : encode (Message.DbRequest.query sql args) = .error fault) :
    overflows link sql args = false := by
  simp only [overflows, hencode]

theorem overflows_of_fault {e : Message.Envelope} (hreaches : Reaches link i)
    (hencode : encode (Message.DbRequest.query sql args) = .ok payload)
    (hrows : Instance.rowsOf (.query sql args) (i, link.engine.disk) = (.error e, s)) :
    overflows link sql args = false := by
  simp only [overflows, hencode, hreaches.found, hrows]

theorem overflows_of_rows {rows : List Row} (hreaches : Reaches link i)
    (hencode : encode (Message.DbRequest.query sql args) = .ok payload)
    (hrows : Instance.rowsOf (.query sql args) (i, link.engine.disk) = (.ok rows, s)) :
    overflows link sql args =
      (encode (i.results.store rows i.pageSize.toNat).1).toOption.isNone := by
  simp only [overflows, hencode, hreaches.found, hrows]

end Overflows

/-- How a paged query can end, given the active query and the results before it, the query that is
active if it is answered, and whether it overflows. -/
inductive PagedEnd (active noted : Option Int32) (results : ResultStore) :
    Except Error Page × Link World → Bool → Prop where
  /-- The first page of the rows that are stored is answered. -/
  | answered (rows : List Row) (budget : Nat) {link' : Link World}
      (hshows : Shows link' noted (results.store rows budget).2) :
      PagedEnd active noted results (.ok (results.store rows budget).1, link') false
  /-- Nothing is stored. -/
  | refused (fault : Error) {link' : Link World} (hshows : Shows link' active results) :
      PagedEnd active noted results (.error fault, link') false
  /-- Rows are stored, but their number gets lost with the page. -/
  | lost (fault : Error) (rows : List Row) (budget : Nat) {link' : Link World}
      (hshows : Shows link' active (results.store rows budget).2) :
      PagedEnd active noted results (.error fault, link') true

/-- The engine stores the rows before it writes the page, so a page that does not fit the wire
is refused too late. -/
theorem askPaged_ends (hshows : Shows link active results) (sql : String) (args : List Value) :
    PagedEnd active active results (Link.ask .pagedQuery (Message.DbRequest.query sql args) link)
      (overflows link sql args) := by
  obtain ⟨hactive, i, hreaches, rfl⟩ := hshows
  cases hencode : encode (Message.DbRequest.query sql args) with
  | error fault =>
    have hask : Link.ask .pagedQuery (Message.DbRequest.query sql args) link =
        ((.error (.codec fault), link) : Except Error Page × Link World) := by
      simp only [Link.ask, bind_apply, send_of_error .pagedQuery hencode]
    rw [hask, overflows_of_unsent hencode]
    exact .refused _ ⟨hactive, i, hreaches, rfl⟩
  | ok payload =>
    have hmethod : dispatch link.handle.raw .pagedQuery = served Instance.pagedQuery := rfl
    rcases hrows : Instance.rowsOf (.query sql args) (i, link.engine.disk) with ⟨e | rows, s⟩
    · have hoperation := Instance.pagedQuery_of_fault hrows
      obtain ⟨connection, disk, hstate⟩ :=
        Instance.rowsOf_state (.query sql args) (i, link.engine.disk)
      rw [hrows] at hstate
      obtain rfl : s = _ := hstate
      obtain ⟨fault, hask⟩ :=
        ask_eq_error hreaches hmethod hencode hoperation fun _ h => by cases h
      rw [hask, overflows_of_fault hreaches hencode hrows]
      exact .refused fault ⟨hactive, _, hreaches.after _, rfl⟩
    · have hoperation := Instance.pagedQuery_of_rows hrows
      have hoverflows := overflows_of_rows hreaches hencode hrows
      cases hpage : encode (i.results.store rows i.pageSize.toNat).1 with
      | ok bytes =>
        have hask := (ask_eq_ok_iff hreaches hmethod).mpr
          ⟨⟨payload, hencode⟩, ⟨bytes, hpage⟩, _, hoperation, rfl⟩
        rw [hpage] at hoverflows
        rw [hask, hoverflows]
        exact .answered rows _ ⟨hactive, _, hreaches.after _, rfl⟩
      | error fault =>
        obtain ⟨fault', hask⟩ :=
          ask_eq_error hreaches hmethod hencode hoperation fun page h => by
            cases h
            exact ⟨fault, hpage⟩
        rw [hpage] at hoverflows
        rw [hask, hoverflows]
        exact .lost fault' rows _ ⟨hactive, _, hreaches.after _, rfl⟩

/-- Asking for the first page makes an answered query the active one, and nothing else. -/
theorem firstPage_ends (hshows : Shows link active results) (sql : String) (args : List Value) :
    PagedEnd active (some results.next) results (Link.firstPage sql args link)
      (overflows link sql args) := by
  have hends := askPaged_ends hshows sql args
  simp only [Link.firstPage, bind_apply]
  generalize (Link.ask .pagedQuery (Message.DbRequest.query sql args) link :
    Except Error Page × Link World) = answer at hends ⊢
  generalize overflows link sql args = overflow at hends ⊢
  cases hends with
  | answered rows budget hshows' => exact .answered rows budget (hshows'.of_handle rfl rfl rfl)
  | refused fault hshows' => exact .refused fault hshows'
  | lost fault rows budget hshows' => exact .lost fault rows budget hshows'

/-- A first page that does not fit the wire leaves a result stored, and the active query as it
was. -/
theorem Shows.lost_of_overflows {sql : String} {args : List Value}
    (hshows : Shows link active results) (hoverflows : overflows link sql args = true) :
    ∃ rows budget, Shows (Link.firstPage sql args link).2 active (results.store rows budget).2 := by
  have hends := firstPage_ends hshows sql args
  rw [hoverflows] at hends
  generalize Link.firstPage sql args link = answer at hends ⊢
  cases hends with
  | lost fault rows budget hshows' => exact ⟨rows, budget, hshows'⟩

end Reference
end EngineLink
