import EngineLink.Proofs.Reference.LinkCalls

/-!
# The boundary of bytes

A typed call writes its request as bytes, the reference engine reads it, runs the operation of the
method and writes the response, and the call reads that again.  On a link that reaches an instance
nothing of this shows as long as the messages fit the wire: the call answers what the operation
answers to the request itself, an envelope of the operation becomes the error of the call, and the
instance is left as the operation leaves it.

Main results:

- Theorem {lit}`Reference.send_transparent`: a request by its bytes.
- Theorem {lit}`Reference.ask_transparent`: a request and its response, for any method.
- Theorem {lit}`byte_boundary_is_transparent`: every typed call, method by method.
-/

namespace EngineLink
namespace Reference

open Effects

/-! ## Messages that fit the wire -/

/-- Whether a message fits the wire. -/
def isWritable {α : Type} [Wired α] (message : α) : Bool := (encode message).isOk

/-- Whether a request fits the wire together with what answers it, a response or an envelope. -/
def fitsWire {α β : Type} [Wired α] (fits : β → Bool) (request : α)
    (answer : Except Message.Envelope β) : Bool :=
  isWritable request &&
    match answer with
    | .ok response => fits response
    | .error envelope => isWritable envelope

/-- The error of a call from the envelope of its failure. -/
def reported (envelope : Message.Envelope) : Error := .engine (Failure.ofEnvelope envelope)

section Errors

variable {ε ε' α : Type}

@[simp]
theorem mapError_ok (f : ε → ε') (value : α) : (Except.ok value).mapError f = .ok value :=
  rfl

@[simp]
theorem mapError_error (f : ε → ε') (fault : ε) :
    (Except.error fault : Except ε α).mapError f = .error (f fault) :=
  rfl

end Errors

section Messages

variable {α β : Type} [Wired α] {link : Link World} {i : Instance}

/-- What fits the wire has its bytes. -/
theorem exists_of_isWritable {message : α} (hfits : isWritable message = true) :
    ∃ bytes, encode message = .ok bytes := by
  cases hencode : encode message with
  | error fault =>
    rw [isWritable, hencode] at hfits
    cases hfits
  | ok bytes => exact ⟨bytes, rfl⟩

/-! ## Requests and responses -/

/-- A request is answered by what its method makes of its bytes, if an envelope fits the wire. -/
theorem send_transparent (method : Method) {request : α} {payload : Bytes}
    (hreaches : Reaches link i) (hencode : encode request = .ok payload)
    (hfits : ∀ envelope, (dispatch link.handle.raw method payload (i, link.engine.disk)).1 =
      .error envelope → isWritable envelope = true) :
    Link.send method request link =
      ((dispatch link.handle.raw method payload (i, link.engine.disk)).1.mapError reported,
        after link (dispatch link.handle.raw method payload (i, link.engine.disk)).2) := by
  have hkind := dispatch_error_kind link.handle.raw method payload (i, link.engine.disk)
  obtain ⟨hlink, hanswer⟩ := invoke_known hreaches (Method.ofIds?_ids method) payload
  rw [send_of_ok method hencode]
  rcases hdispatch : dispatch link.handle.raw method payload (i, link.engine.disk) with
    ⟨envelope | bytes, s⟩
  · rw [hdispatch] at hkind hfits
    obtain ⟨written, hwritten⟩ := exists_of_isWritable (hfits envelope rfl)
    have hrun : World.run link.handle.raw method.ids.1 method.ids.2 payload link.engine =
        (some (.failure envelope), (after link s).engine) := by
      simp only [World.run, hreaches.found, Method.ofIds?_ids, hdispatch]
      rfl
    exact invoke_failure_of_encode hreaches (hkind envelope rfl) hwritten hrun
  · rw [hdispatch] at hlink hanswer
    exact Prod.ext ((hanswer bytes).mpr rfl) hlink

/-- A readable request whose operation fails is answered by the envelope. -/
theorem served_eq_error [Wired β] {operation : α → InstanceM β} {input : Bytes} {message : α}
    {envelope : Message.Envelope} {s s' : Instance × Disk} (hrequest : decode input = .ok message)
    (hrun : operation message s = (.error envelope, s')) :
    served operation input s = (.error envelope, s') := by
  unfold served request
  rw [bind_apply]
  simp [hrequest, hrun]

/-- A request that fits the wire with what answers it is answered as it is without the bytes, by the
response or by the error in the envelope. -/
theorem ask_transparent [Wired β] [Faithful α] [Faithful β] {method : Method}
    {operation : α → InstanceM β} {message : α} (hreaches : Reaches link i)
    (hmethod : ∀ payload, encode message = .ok payload →
      dispatch link.handle.raw method payload = served operation payload)
    (hfits : fitsWire isWritable message (operation message (i, link.engine.disk)).1 = true) :
    Link.ask method message link =
      ((operation message (i, link.engine.disk)).1.mapError reported,
        after link (operation message (i, link.engine.disk)).2) := by
  obtain ⟨hmessage, hanswer⟩ := Bool.and_eq_true_iff.mp hfits
  obtain ⟨payload, hencode⟩ := exists_of_isWritable hmessage
  have hread : decode payload = .ok message := decode_encode hencode
  have hsend := send_transparent method hreaches hencode
  rcases hrun : operation message (i, link.engine.disk) with ⟨envelope | response, s⟩
  · rw [hrun] at hanswer
    rw [hmethod payload hencode, served_eq_error hread hrun] at hsend
    have hsent : Link.send method message link = (.error (reported envelope), after link s) := by
      apply hsend
      intro envelope' henvelope
      cases henvelope
      exact hanswer
    simp only [Link.ask, bind_apply, hsent]
    rfl
  · rw [hrun] at hanswer
    obtain ⟨bytes, hresponse⟩ := exists_of_isWritable hanswer
    rw [hmethod payload hencode, served_eq_ok hread hrun hresponse] at hsend
    have hsent : Link.send method message link = (.ok bytes, after link s) :=
      hsend fun envelope henvelope => by cases henvelope
    simp only [Link.ask, bind_apply, hsent, decode_encode hresponse, pure_apply]
    rfl

end Messages

/-! ## Typed calls -/

/-- A typed call of a client, by the type of what it answers.  A query by text has its JSON text for
an answer, as it came back. -/
inductive TypedCall : Type → Type where
  | translate (moduleIndex messageIndex : UInt32) (args : TextMap) : TypedCall String
  | progress : TypedCall Message.Progress
  | abort : TypedCall Unit
  | openCollection (path : String) : TypedCall Unit
  | closeCollection : TypedCall Unit
  | query (request : Message.DbRequest) : TypedCall Bytes
  | firstPage (sql : String) (args : List Value) : TypedCall Page
  | execute (sql : String) (args : List Value) : TypedCall Int64
  | insert (sql : String) (args : List Value) : TypedCall Int64
  | nextPage (sequence : Int32) (start : Int64) : TypedCall Page
  | cancelQuery (sequence : Int32) : TypedCall Unit
  | cancelAll : TypedCall Unit
  | setPageSize (bytes : UInt64) : TypedCall Unit
  | columnNames (sql : String) : TypedCall (List String)

namespace TypedCall

variable {α : Type}

/-- Make the call. -/
def run {σ : Type} [Engine σ] : TypedCall α → LinkM σ α
  | .translate moduleIndex messageIndex args => Link.translate moduleIndex messageIndex args
  | .progress => Link.progress
  | .abort => Link.abort
  | .openCollection path => Link.openCollection path
  | .closeCollection => Link.closeCollection
  | .query request => Link.send .query request
  | .firstPage sql args => Link.firstPage sql args
  | .execute sql args => Link.execute sql args
  | .insert sql args => Link.insert sql args
  | .nextPage sequence start => Link.nextPage sequence start
  | .cancelQuery sequence => Link.cancelQuery sequence
  | .cancelAll => Link.cancelAll
  | .setPageSize bytes => Link.setPageSize bytes
  | .columnNames sql => Link.columnNames sql

/-- Whether the call sends a request: only the active query is ever discarded. -/
def sends (handle : Handle) : TypedCall α → Bool
  | .cancelQuery sequence => handle.active = some sequence
  | _ => true

/-- The operation of the instance with the given handle, on the request itself. -/
def direct (owner : Int64) : TypedCall α → InstanceM α
  | .translate moduleIndex messageIndex args => do
    return (← Instance.translate ⟨moduleIndex, messageIndex, args⟩).val
  | .progress => Instance.progress
  | .abort => do let _ ← Instance.abort {}
  | .openCollection path => do let _ ← Instance.openCollection owner ⟨path⟩
  | .closeCollection => do
    let _ ← Instance.flushAll {}
    let _ ← Instance.closeCollection
  | .query request => do return Utf8.encode (← Instance.query request).write
  | .firstPage sql args => Instance.pagedQuery (.query sql args)
  | .execute sql args => do return (← Instance.execute (.query sql args)).val
  | .insert sql args => do return (← Instance.insert (.query sql args)).val
  | .nextPage sequence start => Instance.nextPage ⟨sequence, start⟩
  | .cancelQuery sequence => do let _ ← Instance.flush ⟨sequence⟩
  | .cancelAll => do let _ ← Instance.flushAll {}
  | .setPageSize bytes => do let _ ← Instance.setPageSize ⟨bytes⟩
  | .columnNames sql => do return (← Instance.columnNames ⟨sql⟩).vals

/-- Whether the requests of the call fit the wire together with what answers them.  A JSON text is
not written as a message. -/
def fits (owner : Int64) (s : Instance × Disk) : TypedCall α → Bool
  | .translate moduleIndex messageIndex args =>
    let request : Message.TranslateRequest := ⟨moduleIndex, messageIndex, args⟩
    fitsWire isWritable request (Instance.translate request s).1
  | .progress => fitsWire isWritable Message.Empty.mk (Instance.progress s).1
  | .abort => fitsWire isWritable Message.Empty.mk (Instance.abort {} s).1
  | .openCollection path =>
    let request : Message.OpenCollectionRequest := ⟨path⟩
    fitsWire isWritable request (Instance.openCollection owner request s).1
  | .closeCollection =>
    fitsWire isWritable Message.Empty.mk (Instance.flushAll {} s).1 &&
      fitsWire isWritable Message.Empty.mk (Instance.closeCollection (Instance.flushAll {} s).2).1
  | .query request => fitsWire (fun _ => true) request (Instance.query request s).1
  | .firstPage sql args =>
    let request := Message.DbRequest.query sql args
    fitsWire isWritable request (Instance.pagedQuery request s).1
  | .execute sql args =>
    let request := Message.DbRequest.query sql args
    fitsWire isWritable request (Instance.execute request s).1
  | .insert sql args =>
    let request := Message.DbRequest.query sql args
    fitsWire isWritable request (Instance.insert request s).1
  | .nextPage sequence start =>
    let request : Message.PageRequest := ⟨sequence, start⟩
    fitsWire isWritable request (Instance.nextPage request s).1
  | .cancelQuery sequence =>
    let request : Message.FlushRequest := ⟨sequence⟩
    fitsWire isWritable request (Instance.flush request s).1
  | .cancelAll => fitsWire isWritable Message.Empty.mk (Instance.flushAll {} s).1
  | .setPageSize bytes =>
    let request : Message.PageSizeRequest := ⟨bytes⟩
    fitsWire isWritable request (Instance.setPageSize request s).1
  | .columnNames sql =>
    let request : Message.ColumnNamesRequest := ⟨sql⟩
    fitsWire isWritable request (Instance.columnNames request s).1

end TypedCall

/-! ## Calls and operations -/

/-- A call on a link came to what an operation came to: the same value, or the error in the
envelope, and the same instance and databases.  The handle may know of another active query. -/
structure Transparent {α : Type} (link : Link World) (answer : Except Error α × Link World)
    (direct : Except Message.Envelope α × Instance × Disk) : Prop where
  answer_eq : answer.1 = direct.1.mapError reported
  engine_eq : answer.2.engine = (after link direct.2).engine
  raw_eq : answer.2.handle.raw = link.handle.raw
  poison_eq : answer.2.handle.poison = link.handle.poison

section Calls

variable {α β γ : Type} [Wired α] [Wired β] [Faithful α] [Faithful β] {link : Link World}
  {i : Instance}

/-- A request with its response. -/
theorem transparent_ask (method : Method) (operation : α → InstanceM β) (message : α)
    (hreaches : Reaches link i)
    (hmethod : ∀ payload, encode message = .ok payload →
      dispatch link.handle.raw method payload = served operation payload)
    (hfits : fitsWire isWritable message (operation message (i, link.engine.disk)).1 = true) :
    Transparent link (Link.ask method message link) (operation message (i, link.engine.disk)) := by
  rw [ask_transparent hreaches hmethod hfits]
  exact ⟨rfl, rfl, rfl, rfl⟩

omit [Wired α] [Wired β] [Faithful α] [Faithful β] in
/-- What is made of a value by the client is made of it after the operation. -/
theorem Transparent.map {call : LinkM World β} {work : InstanceM β} {s : Instance × Disk}
    (htransparent : Transparent link (call link) (work s)) (f : β → γ) :
    Transparent link ((call >>= fun b => pure (f b)) link) ((work >>= fun b => pure (f b)) s) := by
  rw [bind_apply, bind_apply]
  generalize call link = answered at htransparent ⊢
  generalize work s = done at htransparent ⊢
  obtain ⟨hanswer, hengine, hraw, hpoison⟩ := htransparent
  obtain ⟨answer, link'⟩ := answered
  obtain ⟨envelope | b, s'⟩ := done <;> obtain rfl : answer = _ := hanswer
  · exact ⟨rfl, hengine, hraw, hpoison⟩
  · exact ⟨rfl, hengine, hraw, hpoison⟩

omit [Wired α] [Wired β] [Faithful α] [Faithful β] in
/-- What the handle knows besides may change before the call. -/
theorem Transparent.of_handle {handle : Handle} {answer : Except Error β × Link World}
    {direct : Except Message.Envelope β × Instance × Disk}
    (htransparent : Transparent { link with handle } answer direct)
    (hraw : handle.raw = link.handle.raw) (hpoison : handle.poison = link.handle.poison) :
    Transparent link answer direct where
  answer_eq := htransparent.answer_eq
  engine_eq := by
    rw [htransparent.engine_eq]
    simp only [after, hraw]
  raw_eq := htransparent.raw_eq.trans hraw
  poison_eq := htransparent.poison_eq.trans hpoison

/-- The instance put in last is the one that counts. -/
theorem World.replace_replace (w : World) (handle : Int64) (i i' : Instance) (disk disk' : Disk) :
    (w.replace handle i disk).replace handle i' disk' = w.replace handle i' disk' := by
  simp only [World.replace, List.map_map, World.mk.injEq, and_true]
  apply List.map_congr_left
  intro entry _
  by_cases hentry : entry.1 = handle <;> simp [hentry]

omit [Wired α] [Wired β] [Faithful α] [Faithful β] in
/-- A call on a link that was changed before by an operation. -/
theorem Transparent.of_after {link' : Link World} {s : Instance × Disk}
    {answer : Except Error β × Link World} {direct : Except Message.Envelope β × Instance × Disk}
    (htransparent : Transparent link' answer direct)
    (hengine : link'.engine = (after link s).engine) (hraw : link'.handle.raw = link.handle.raw)
    (hpoison : link'.handle.poison = link.handle.poison) :
    Transparent link answer direct where
  answer_eq := htransparent.answer_eq
  engine_eq := by
    rw [htransparent.engine_eq]
    simp only [after, hengine, hraw, World.replace_replace]
  raw_eq := htransparent.raw_eq.trans hraw
  poison_eq := htransparent.poison_eq.trans hpoison

end Calls

section TypedCalls

variable {α : Type} {link : Link World} {i : Instance}

/-- A query by text: the JSON text is sent as it is. -/
theorem transparent_query (hreaches : Reaches link i) {request : Message.DbRequest}
    (hfits : (TypedCall.query request).fits link.handle.raw (i, link.engine.disk) = true) :
    Transparent link (Link.send .query request link)
      ((TypedCall.query request).direct link.handle.raw (i, link.engine.disk)) := by
  rw [TypedCall.fits] at hfits
  obtain ⟨hrequest, hanswer⟩ := Bool.and_eq_true_iff.mp hfits
  obtain ⟨payload, hencode⟩ := exists_of_isWritable hrequest
  have hdispatch : dispatch link.handle.raw .query payload (i, link.engine.disk) =
      (TypedCall.query request).direct link.handle.raw (i, link.engine.disk) := by
    simp only [dispatch, Reference.request, decode_encode hencode, TypedCall.direct]
  have hsend := send_transparent .query hreaches hencode
  rw [hdispatch] at hsend
  rw [hsend]
  · exact ⟨rfl, rfl, rfl, rfl⟩
  · intro envelope henvelope
    simp only [TypedCall.direct, bind_apply] at henvelope
    rcases hrun : Instance.query request (i, link.engine.disk) with ⟨refusal | json, s⟩ <;>
      rw [hrun] at hanswer henvelope <;> cases henvelope
    exact hanswer

/-- The first page of a query, which becomes the active one. -/
theorem transparent_firstPage (hreaches : Reaches link i) {sql : String} {args : List Value}
    (hfits : (TypedCall.firstPage sql args).fits link.handle.raw (i, link.engine.disk) = true) :
    Transparent link (Link.firstPage sql args link)
      (Instance.pagedQuery (.query sql args) (i, link.engine.disk)) := by
  have hask : Transparent link (Link.ask .pagedQuery (Message.DbRequest.query sql args) link)
      (Instance.pagedQuery (.query sql args) (i, link.engine.disk)) :=
    transparent_ask .pagedQuery Instance.pagedQuery _ hreaches (fun _ _ => rfl) hfits
  simp only [Link.firstPage, bind_apply]
  generalize (Link.ask .pagedQuery (Message.DbRequest.query sql args) link :
    Except Error Page × Link World) = asked at hask ⊢
  obtain ⟨fault | page, link'⟩ := asked
  · exact hask
  · exact ⟨hask.answer_eq, hask.engine_eq, hask.raw_eq, hask.poison_eq⟩

/-- Discarding every result. -/
theorem transparent_cancelAll (hreaches : Reaches link i)
    (hfits : TypedCall.cancelAll.fits link.handle.raw (i, link.engine.disk) = true) :
    Transparent link (Link.cancelAll link)
      (TypedCall.cancelAll.direct link.handle.raw (i, link.engine.disk)) := by
  have hreaches' : Reaches { link with handle := { link.handle with active := none } } i :=
    hreaches.of_handle rfl rfl
  have htell := (transparent_ask .flushAll Instance.flushAll _ hreaches' (fun _ _ => rfl) hfits).map
    fun _ => ()
  exact htell.of_handle rfl rfl

/-- Closing the collection, after every result is discarded. -/
theorem transparent_closeCollection (hreaches : Reaches link i)
    (hfits : TypedCall.closeCollection.fits link.handle.raw (i, link.engine.disk) = true) :
    Transparent link (Link.closeCollection link)
      (TypedCall.closeCollection.direct link.handle.raw (i, link.engine.disk)) := by
  rw [TypedCall.fits, Bool.and_eq_true_iff] at hfits
  obtain ⟨hflush, hclose⟩ := hfits
  have hcancel := transparent_cancelAll hreaches hflush
  let s : Instance × Disk := ({ i with results := i.results.clear }, link.engine.disk)
  simp only [Link.closeCollection, bind_apply]
  generalize Link.cancelAll link = cancelled at hcancel ⊢
  obtain ⟨answer, link'⟩ := cancelled
  obtain ⟨hanswer, hengine, hraw, hpoison⟩ := hcancel
  obtain rfl : answer = .ok () := hanswer
  have hengine : link'.engine = (after link s).engine := hengine
  have hreaches' : Reaches link' s.1 := by
    refine ⟨hraw ▸ hreaches.opened, hpoison.trans hreaches.healthy, ?_⟩
    rw [hraw, hengine]
    exact (hreaches.after s).found
  have hdisk : link'.engine.disk = link.engine.disk := by
    rw [hengine]
    rfl
  have hclose : fitsWire isWritable Message.Empty.mk
      (Instance.closeCollection (s.1, link'.engine.disk)).1 = true := by
    rw [hdisk]
    exact hclose
  have htell := (transparent_ask .closeCollection (fun _ => Instance.closeCollection)
    Message.Empty.mk hreaches' (fun _ _ => rfl) hclose).map fun _ => ()
  rw [hdisk] at htell
  exact htell.of_after hengine hraw hpoison

/-- Discarding the active query. -/
theorem transparent_cancelQuery (hreaches : Reaches link i) {sequence : Int32}
    (hactive : link.handle.active = some sequence)
    (hfits : (TypedCall.cancelQuery sequence).fits link.handle.raw (i, link.engine.disk) = true) :
    Transparent link (Link.cancelQuery sequence link)
      ((TypedCall.cancelQuery sequence).direct link.handle.raw (i, link.engine.disk)) := by
  have hreaches' : Reaches { link with handle := { link.handle with active := none } } i :=
    hreaches.of_handle rfl rfl
  have htell := (transparent_ask .flush Instance.flush _ hreaches' (fun _ _ => rfl) hfits).map
    fun _ => ()
  simp only [Link.cancelQuery, bind_apply, get_apply, if_pos hactive]
  exact htell.of_handle rfl rfl

/-- Every typed call that sends a request comes to what the operation of its method comes to. -/
theorem TypedCall.transparent (call : TypedCall α) (hreaches : Reaches link i)
    (hsends : call.sends link.handle = true)
    (hfits : call.fits link.handle.raw (i, link.engine.disk) = true) :
    Transparent link (call.run link) (call.direct link.handle.raw (i, link.engine.disk)) := by
  cases call with
  | translate moduleIndex messageIndex args =>
    exact (transparent_ask .translate Instance.translate _ hreaches (fun _ _ => rfl) hfits).map _
  | progress =>
    refine transparent_ask .progress (fun _ => Instance.progress) Message.Empty.mk hreaches ?_ hfits
    intro payload hencode
    simp only [dispatch, served, request, decode_encode hencode]
  | abort => exact (transparent_ask .abort Instance.abort _ hreaches (fun _ _ => rfl) hfits).map _
  | openCollection path =>
    exact (transparent_ask .openCollection (Instance.openCollection link.handle.raw) _ hreaches
      (fun _ _ => rfl) hfits).map _
  | closeCollection => exact transparent_closeCollection hreaches hfits
  | query request => exact transparent_query hreaches hfits
  | firstPage sql args => exact transparent_firstPage hreaches hfits
  | execute sql args =>
    exact (transparent_ask .execute Instance.execute _ hreaches (fun _ _ => rfl) hfits).map _
  | insert sql args =>
    exact (transparent_ask .insert Instance.insert _ hreaches (fun _ _ => rfl) hfits).map _
  | nextPage sequence start =>
    exact transparent_ask .nextPage Instance.nextPage _ hreaches (fun _ _ => rfl) hfits
  | cancelQuery sequence =>
    exact transparent_cancelQuery hreaches (of_decide_eq_true hsends) hfits
  | cancelAll => exact transparent_cancelAll hreaches hfits
  | setPageSize bytes =>
    exact (transparent_ask .setPageSize Instance.setPageSize _ hreaches (fun _ _ => rfl)
      hfits).map _
  | columnNames sql =>
    exact (transparent_ask .columnNames Instance.columnNames _ hreaches (fun _ _ => rfl)
      hfits).map _

/-- What a client gets of a call on a link that reaches an instance, and what becomes of the
instance, in terms of the operation run directly. -/
structure TypedCall.Crosses (call : TypedCall α) (link : Link World) (i : Instance) : Prop where
  /-- The call answers exactly what the operation answers. -/
  ok_iff : ∀ value, (call.run link).1 = .ok value ↔
    (call.direct link.handle.raw (i, link.engine.disk)).1 = .ok value
  /-- Otherwise it fails with what is in the envelope of the operation. -/
  error_iff : ∀ fault, (call.run link).1 = .error fault ↔
    ∃ envelope, (call.direct link.handle.raw (i, link.engine.disk)).1 = .error envelope ∧
      fault = .engine ⟨classify envelope, envelope.kind, envelope.message, envelope.help⟩
  /-- It never fails for the sake of the boundary. -/
  error_ne : ∀ fault, (call.run link).1 = .error fault →
    fault ≠ .closed ∧ (∀ reply, fault ≠ .malformed reply) ∧ ∀ codec, fault ≠ .codec codec
  /-- It leaves the engine with the instance and the databases of the operation, and the link goes
  on reaching the instance. -/
  engine_eq : (call.run link).2.engine =
    link.engine.replace link.handle.raw (call.direct link.handle.raw (i, link.engine.disk)).2.1
      (call.direct link.handle.raw (i, link.engine.disk)).2.2
  reaches : Reaches (call.run link).2 (call.direct link.handle.raw (i, link.engine.disk)).2.1

theorem TypedCall.crosses_of_transparent {call : TypedCall α} (hreaches : Reaches link i)
    (htransparent :
      Transparent link (call.run link) (call.direct link.handle.raw (i, link.engine.disk))) :
    call.Crosses link i := by
  obtain ⟨hanswer, hengine, hraw, hpoison⟩ := htransparent
  refine ⟨fun value => ?_, fun fault => ?_, fun fault hfault => ?_, hengine, ?_⟩
  · rw [hanswer]
    cases (call.direct link.handle.raw (i, link.engine.disk)).1 <;> simp
  · rw [hanswer]
    cases (call.direct link.handle.raw (i, link.engine.disk)).1 <;>
      simp [reported, Failure.ofEnvelope, eq_comm]
  · rw [hanswer] at hfault
    cases hdirect : (call.direct link.handle.raw (i, link.engine.disk)).1 with
    | error envelope =>
      rw [hdirect] at hfault
      cases hfault
      simp [reported]
    | ok value =>
      rw [hdirect] at hfault
      cases hfault
  · refine ⟨hraw ▸ hreaches.opened, hpoison.trans hreaches.healthy, ?_⟩
    rw [hraw, hengine]
    exact (hreaches.after _).found

/-- The rows of a query are read from its text as it came back. -/
theorem jsonQuery_eq (request : Message.DbRequest) (link : Link World) :
    Link.jsonQuery request link =
      (((TypedCall.query request).run link).1.bind fun text =>
          (Link.readRows text).mapError Error.codec,
        ((TypedCall.query request).run link).2) := by
  simp only [Link.jsonQuery, bind_apply, TypedCall.run]
  rcases Link.send .query request link with ⟨fault | text, link'⟩
  · rfl
  · cases hrows : Link.readRows text <;> simp [hrows, Except.bind]

/-- A transaction control ignores the text. -/
theorem control_eq (kind : Message.RequestKind) (link : Link World) :
    Link.control kind link =
      (((TypedCall.query (.control kind)).run link).1.map fun _ => (),
        ((TypedCall.query (.control kind)).run link).2) := by
  simp only [Link.control, bind_apply, TypedCall.run]
  rcases Link.send .query (Message.DbRequest.control kind) link with ⟨fault | text, link'⟩ <;> rfl

end TypedCalls

end Reference

open Reference

/-- The boundary of bytes is transparent for the reference engine.  Every typed call that sends a
request, of all fourteen methods and with any arguments, on a link that reaches an instance: if the
messages fit the wire, the call answers exactly what the operation of its method answers to the
request itself, fails with what is in the envelope of the operation otherwise and never for the
sake of the boundary, and leaves the instance as the operation does.  Queries by text hand their
JSON text on as it is. -/
theorem byte_boundary_is_transparent {link : Link World} {i : Instance}
    (hreaches : Reaches link i) :
    (∀ {α : Type} (call : TypedCall α), call.sends link.handle = true →
      call.fits link.handle.raw (i, link.engine.disk) = true → call.Crosses link i) ∧
    (∀ request, Link.jsonQuery request link =
      (((TypedCall.query request).run link).1.bind fun text =>
          (Link.readRows text).mapError Error.codec,
        ((TypedCall.query request).run link).2)) ∧
    ∀ kind, Link.control kind link =
      (((TypedCall.query (.control kind)).run link).1.map fun _ => (),
        ((TypedCall.query (.control kind)).run link).2) := by
  refine ⟨fun call hsends hfits => ?_, fun request => ?_, fun kind => ?_⟩
  · exact TypedCall.crosses_of_transparent hreaches (call.transparent hreaches hsends hfits)
  · exact jsonQuery_eq request link
  · exact control_eq kind link

/-- A page and a refusal cross the boundary. -/
theorem page_and_refusal_cross :
    Reaches inMemory memoryInstance ∧
      ((TypedCall.firstPage "select 1" []).fits 1 (memoryInstance, inMemory.engine.disk) = true ∧
        (TypedCall.firstPage "select 1" []).Crosses inMemory memoryInstance) ∧
      (TypedCall.nextPage 7 0).fits 1 (memoryInstance, inMemory.engine.disk) = true ∧
        (TypedCall.nextPage 7 0).Crosses inMemory memoryInstance := by
  have hpage : (TypedCall.firstPage "select 1" []).fits 1 (memoryInstance, inMemory.engine.disk) =
      true := by
    decide +kernel
  have hrefusal : (TypedCall.nextPage 7 0).fits 1 (memoryInstance, inMemory.engine.disk) =
      true := by
    decide +kernel
  obtain ⟨hcrosses, -⟩ := byte_boundary_is_transparent reaches_inMemory
  exact ⟨reaches_inMemory, ⟨hpage, hcrosses _ rfl hpage⟩, hrefusal, hcrosses _ rfl hrefusal⟩

end EngineLink
