import EngineLink.Proofs.Effects
import EngineLink.Proofs.Message.RoundTrip
import EngineLink.Reference.Engine

/-!
# What a call does to an instance

A call of the reference engine reads its request, runs the operation of its method and writes
the response.  Here is what that can do to the stored result of the instance, once for all
methods and all payloads, and what it answers when pages are asked for.

Main results:

- Theorem {lit}`dispatch_storeStep`: only a paged query stores a result, and only a flush or
  the end of the collection drops one.
- Theorem {lit}`dispatch_error_kind`: no failure of the reference engine is a panic.
-/

namespace EngineLink
namespace Reference

open Effects

/-! ## Requests and responses -/

section Served

variable {α β : Type} [Wired α] [Wired β]

/-- A response leaves the instance as it is. -/
@[simp]
theorem respond_state (response : α) (s : Instance × Disk) : (respond response s).2 = s := by
  unfold respond
  cases encode response <;> rfl

/-- The state after a call is that after its operation, if the request is readable. -/
theorem served_state (operation : α → InstanceM β) (input : Bytes) (s : Instance × Disk) :
    (served operation input s).2 =
      match (decode input : Except CodecFault α) with
      | .ok message => (operation message s).2
      | .error _ => s := by
  unfold served request
  rw [bind_apply]
  cases (decode input : Except CodecFault α) with
  | error fault => simp
  | ok message =>
    rcases hrun : operation message s with ⟨_ | response, s'⟩ <;> simp [hrun]

/-- A call whose request is readable and whose response fits answers the response. -/
theorem served_eq_ok {operation : α → InstanceM β} {input bytes : Bytes} {message : α}
    {response : β} {s s' : Instance × Disk} (hrequest : decode input = .ok message)
    (hrun : operation message s = (.ok response, s')) (hresponse : encode response = .ok bytes) :
    served operation input s = (.ok bytes, s') := by
  unfold served request respond
  rw [bind_apply]
  simp [hrequest, hrun, hresponse]

/-- A call that answers has read its request, run its operation and written the response. -/
theorem exists_of_served_eq_ok {operation : α → InstanceM β} {input bytes : Bytes}
    {s s' : Instance × Disk} (hserved : served operation input s = (.ok bytes, s')) :
    ∃ message response, decode input = .ok message ∧
      operation message s = (.ok response, s') ∧ encode response = .ok bytes := by
  unfold served request respond at hserved
  rw [bind_apply] at hserved
  cases hrequest : (decode input : Except CodecFault α) with
  | error fault =>
    simp only [hrequest, throw_apply] at hserved
    cases hserved
  | ok message =>
    rcases hrun : operation message s with ⟨_ | response, s''⟩
    · simp only [hrequest, hrun] at hserved
      cases hserved
    · cases hresponse : encode response with
      | error fault =>
        simp only [hrequest, hrun, hresponse, throw_apply] at hserved
        cases hserved
      | ok written =>
        simp only [hrequest, hrun, hresponse, pure_apply] at hserved
        cases hserved
        exact ⟨message, response, rfl, hrun, hresponse⟩

end Served

/-! ## Operations -/

namespace Instance

/-- Work with the collection changes nothing of the instance but its connection. -/
theorem onCollection_state {α : Type} (work : ConnectionM α) (s : Instance × Disk) :
    ∃ connection disk, (onCollection work s).2 = ({ s.1 with connection }, disk) := by
  obtain ⟨⟨languages, connection, results, pageSize⟩, disk⟩ := s
  cases connection with
  | none => exact ⟨none, disk, rfl⟩
  | some connection =>
    rcases hwork : work (connection, disk) with ⟨result, connection', disk'⟩
    exact ⟨some connection', disk', by simp only [onCollection, hwork]⟩

/-- Finding the rows of a statement changes nothing of the instance but its connection. -/
theorem rowsOf_state (request : Message.DbRequest) (s : Instance × Disk) :
    ∃ connection disk, (rowsOf request s).2 = ({ s.1 with connection }, disk) := by
  obtain ⟨connection, disk, hstate⟩ :=
    onCollection_state (Connection.execute request.sql request.args) s
  refine ⟨connection, disk, ?_⟩
  unfold rowsOf
  rw [bind_apply]
  rcases hrun : onCollection (Connection.execute request.sql request.args) s with ⟨_ | rows, s'⟩ <;>
    simpa [hrun] using hstate

/-- Work with the collection leaves the stored result alone. -/
@[simp]
theorem results_onCollection {α : Type} (work : ConnectionM α) (s : Instance × Disk) :
    (onCollection work s).2.1.results = s.1.results := by
  obtain ⟨connection, disk, hstate⟩ := onCollection_state work s
  rw [hstate]

/-- Opening a collection leaves the stored result alone. -/
theorem results_openCollection (owner : Int64) (request : Message.OpenCollectionRequest)
    (s : Instance × Disk) : (openCollection owner request s).2.1.results = s.1.results := by
  obtain ⟨i, disk⟩ := s
  simp only [openCollection, bind_apply, get_apply]
  cases i.connection with
  | some connection => rfl
  | none =>
    rcases Location.ofText owner request.path with fault | ⟨location, access⟩
    · rfl
    · by_cases hmissing : (access.needsFile && !disk.contains location) = true
      · simp only [if_pos hmissing, throw_apply]
      · simp only [if_neg hmissing, bind_apply, set_apply, pure_apply]

/-- Transaction controls and statements leave the stored result alone. -/
theorem results_query (request : Message.DbRequest) (s : Instance × Disk) :
    (query request s).2.1.results = s.1.results := by
  have hcontrol (work : ConnectionM Unit) :
      ((onCollection work >>= fun _ => pure Json.null : InstanceM Json) s).2.1.results =
        s.1.results := by
    have hwork := results_onCollection work s
    rw [bind_apply]
    rcases hrun : onCollection work s with ⟨_ | _, s'⟩ <;> simpa [hrun] using hwork
  unfold query
  cases request.kind with
  | begin => exact hcontrol Connection.begin
  | commit => exact hcontrol Connection.commit
  | rollback => exact hcontrol Connection.rollback
  | query =>
    obtain ⟨connection, disk, hstate⟩ := rowsOf_state request s
    simp only [bind_apply]
    rcases hrun : rowsOf request s with ⟨_ | rows, s'⟩ <;>
      simp [hrun] at hstate ⊢ <;> rw [hstate]

/-- Asking for the names of columns leaves the stored result alone. -/
theorem results_columnNames (request : Message.ColumnNamesRequest) (s : Instance × Disk) :
    (columnNames request s).2.1.results = s.1.results := by
  have hwork := results_onCollection (Connection.columnNames request.sql) s
  unfold columnNames
  rw [bind_apply]
  rcases hrun : onCollection (Connection.columnNames request.sql) s with ⟨_ | names, s'⟩ <;>
    simpa [hrun] using hwork

/-- Asking for a page answers the page of the stored result and changes nothing. -/
theorem nextPage_of_page {request : Message.PageRequest} {page : Page} {s : Instance × Disk}
    (hpage : s.1.results.page? request.start = some page) :
    nextPage request s = (.ok page, s) := by
  obtain ⟨i, disk⟩ := s
  simp only [nextPage, bind_apply, get_apply, hpage, pure_apply]

/-- Asking for a page changes nothing. -/
@[simp]
theorem nextPage_state (request : Message.PageRequest) (s : Instance × Disk) :
    (nextPage request s).2 = s := by
  obtain ⟨i, disk⟩ := s
  simp only [nextPage, bind_apply, get_apply]
  cases i.results.page? request.start <;> rfl

/-- A paged query stores the rows it finds, cut to the size of pages of that time. -/
theorem pagedQuery_of_rows {request : Message.DbRequest} {rows : List Row} {s s' : Instance × Disk}
    (hrows : rowsOf request s = (.ok rows, s')) :
    pagedQuery request s =
      (.ok (s.1.results.store rows s.1.pageSize.toNat).1,
        { s'.1 with results := (s.1.results.store rows s.1.pageSize.toNat).2 }, s'.2) := by
  obtain ⟨connection, disk, hstate⟩ := rowsOf_state request s
  rw [hrows] at hstate
  cases hstate
  simp only [pagedQuery, bind_apply, hrows, get_apply, set_apply, pure_apply]

/-- A paged query whose statement fails stores nothing. -/
theorem pagedQuery_of_fault {request : Message.DbRequest} {e : Message.Envelope}
    {s s' : Instance × Disk} (hrows : rowsOf request s = (.error e, s')) :
    pagedQuery request s = (.error e, s') := by
  unfold pagedQuery
  simp [bind_apply, hrows]

end Instance

/-! ## The stored result -/

/-- What a call with the given payload can do to the results of an instance. -/
inductive StoreStep (input : Bytes) (s : ResultStore) : Method → ResultStore → Prop where
  | kept {method : Method} : StoreStep input s method s
  | stored (rows : List Row) (budget : Nat) :
      StoreStep input s .pagedQuery (s.store rows budget).2
  | flushed {request : Message.FlushRequest} (hrequest : decode input = .ok request) :
      StoreStep input s .flush (s.flush request.sequence)
  | flushedAll : StoreStep input s .flushAll s.clear
  | closed : StoreStep input s .closeCollection s.clear

/-- An operation that leaves the results alone, for every request. -/
theorem served_kept {α β : Type} [Wired α] [Wired β] {operation : α → InstanceM β}
    (hkeeps : ∀ message s, (operation message s).2.1.results = s.1.results) (input : Bytes)
    (s : Instance × Disk) (method : Method) :
    StoreStep input s.1.results method (served operation input s).2.1.results := by
  rw [served_state]
  cases (decode input : Except CodecFault α) with
  | error fault => exact .kept
  | ok message =>
    have hkept := hkeeps message s
    simp only [hkept]
    exact .kept

/-- Only a paged query stores a result, and only a flush or the end of the collection drops
one. -/
theorem dispatch_storeStep (owner : Int64) (method : Method) (input : Bytes)
    (s : Instance × Disk) :
    StoreStep input s.1.results method (dispatch owner method input s).2.1.results := by
  cases method with
  | translate => exact served_kept (fun _ _ => rfl) input s _
  | progress =>
    simp only [dispatch, Instance.progress, bind_apply, pure_apply, respond_state]
    exact .kept
  | abort => exact served_kept (fun _ _ => rfl) input s _
  | openCollection => exact served_kept (Instance.results_openCollection owner) input s _
  | closeCollection =>
    simp only [dispatch, served_state]
    cases (decode input : Except CodecFault Message.Empty) with
    | error fault => exact .kept
    | ok message =>
      obtain ⟨⟨languages, connection, results, pageSize⟩, disk⟩ := s
      cases connection with
      | none => exact .kept
      | some connection => exact .closed
  | query =>
    simp only [dispatch, request, bind_apply]
    cases (decode input : Except CodecFault Message.DbRequest) with
    | error fault => exact .kept
    | ok message =>
      have hquery := Instance.results_query message s
      rcases hrun : Instance.query message s with ⟨_ | json, s'⟩ <;>
        simp only [hrun, pure_apply] at hquery ⊢ <;> rw [hquery] <;> exact .kept
  | pagedQuery =>
    simp only [dispatch, served_state]
    cases (decode input : Except CodecFault Message.DbRequest) with
    | error fault => exact .kept
    | ok message =>
      obtain ⟨connection, disk, hstate⟩ := Instance.rowsOf_state message s
      rcases hrows : Instance.rowsOf message s with ⟨e | rows, s'⟩
      · rw [hrows] at hstate
        simp only [Instance.pagedQuery_of_fault hrows, hstate]
        exact .kept
      · simp only [Instance.pagedQuery_of_rows hrows]
        exact .stored rows _
  | execute => exact served_kept (fun _ s => Instance.results_onCollection _ s) input s _
  | insert => exact served_kept (fun _ s => Instance.results_onCollection _ s) input s _
  | nextPage => exact served_kept (by simp) input s _
  | flush =>
    simp only [dispatch, served_state]
    cases hrequest : (decode input : Except CodecFault Message.FlushRequest) with
    | error fault => exact .kept
    | ok message => exact .flushed hrequest
  | flushAll =>
    simp only [dispatch, served_state]
    cases (decode input : Except CodecFault Message.Empty) with
    | error fault => exact .kept
    | ok message => exact .flushedAll
  | setPageSize => exact served_kept (fun _ _ => rfl) input s _
  | columnNames => exact served_kept Instance.results_columnNames input s _

/-! ## Failures -/

/-- Envelopes are no panic unless they are made as one. -/
theorem envelopeOf_kind_ne {code : FailureCode} (hcode : code ≠ .panic) (message : String) :
    (Fault.envelopeOf code message).kind ≠ FailureCode.panic.number := by
  cases code <;> first | exact absurd rfl hcode | simp [Fault.envelopeOf, FailureCode.number]

/-- No fault of a statement is reported as a panic. -/
theorem Fault.envelope_kind_ne (fault : Fault) :
    fault.envelope.kind ≠ FailureCode.panic.number := by
  unfold Fault.envelope Fault.report
  split <;> exact envelopeOf_kind_ne (by decide) _

/-- A computation of an instance none of whose failures is a panic. -/
def Calm {α : Type} (x : InstanceM α) : Prop :=
  ∀ s e, (x s).1 = .error e → e.kind ≠ FailureCode.panic.number

section Calm

variable {α β : Type}

theorem calm_pure (a : α) : Calm (pure a) := by
  intro s e h
  cases h

theorem calm_throw {e : Message.Envelope} (hkind : e.kind ≠ FailureCode.panic.number) :
    Calm (throw e : InstanceM α) := by
  intro s e' h
  cases h
  exact hkind

theorem Calm.bind {x : InstanceM α} {f : α → InstanceM β} (hx : Calm x) (hf : ∀ a, Calm (f a)) :
    Calm (x >>= f) := by
  intro s e h
  rw [bind_apply] at h
  rcases hrun : x s with ⟨e' | a, s'⟩
  · simp only [hrun] at h
    cases h
    exact hx s e (by rw [hrun])
  · simp only [hrun] at h
    exact hf a s' e h

theorem calm_get : Calm (get : InstanceM (Instance × Disk)) := by
  intro s e h
  cases h

theorem calm_set (s' : Instance × Disk) : Calm (set s') := by
  intro s e h
  cases h

theorem calm_change (f : Instance → Instance) : Calm (Instance.change f) := by
  intro s e h
  cases h

theorem calm_onCollection (work : ConnectionM α) : Calm (Instance.onCollection work) := by
  intro ⟨i, disk⟩ e h
  simp only [Instance.onCollection] at h
  cases hconnection : i.connection with
  | none =>
    simp only [hconnection] at h
    cases h
    exact envelopeOf_kind_ne (by decide) _
  | some connection =>
    rcases hwork : work (connection, disk) with ⟨fault | a, connection', disk'⟩ <;>
      simp only [hconnection, hwork] at h <;> cases h
    exact fault.envelope_kind_ne

theorem calm_request [Wired α] {operation : α → InstanceM β}
    (hoperation : ∀ message, Calm (operation message)) (input : Bytes) :
    Calm (request input operation) := by
  unfold request
  cases (decode input : Except CodecFault α) with
  | ok message => exact hoperation message
  | error fault => exact calm_throw (envelopeOf_kind_ne (by decide) _)

theorem calm_respond [Wired α] (response : α) : Calm (respond response) := by
  unfold respond
  cases encode response with
  | ok bytes => exact calm_pure bytes
  | error fault => exact calm_throw (envelopeOf_kind_ne (by decide) _)

theorem calm_served [Wired α] [Wired β] {operation : α → InstanceM β}
    (hoperation : ∀ message, Calm (operation message)) (input : Bytes) :
    Calm (served operation input) :=
  (calm_request hoperation input).bind calm_respond

end Calm

theorem calm_openCollection (owner : Int64) (request : Message.OpenCollectionRequest) :
    Calm (Instance.openCollection owner request) := by
  refine calm_get.bind fun ⟨i, disk⟩ => ?_
  dsimp only
  split
  · exact calm_throw (envelopeOf_kind_ne (by decide) _)
  · exact calm_throw (Fault.envelope_kind_ne _)
  · split
    · exact calm_throw (Fault.envelope_kind_ne _)
    · exact (calm_set _).bind fun _ => calm_pure _

theorem calm_closeCollection : Calm Instance.closeCollection := by
  refine calm_get.bind fun ⟨i, disk⟩ => ?_
  dsimp only
  split
  · exact calm_throw (envelopeOf_kind_ne (by decide) _)
  · exact (calm_set _).bind fun _ => calm_pure _

theorem calm_rowsOf (request : Message.DbRequest) : Calm (Instance.rowsOf request) :=
  (calm_onCollection _).bind fun _ => calm_pure _

theorem calm_query (request : Message.DbRequest) : Calm (Instance.query request) := by
  unfold Instance.query
  cases request.kind with
  | query => exact (calm_rowsOf request).bind fun _ => calm_pure _
  | _ => exact (calm_onCollection _).bind fun _ => calm_pure _

theorem calm_pagedQuery (request : Message.DbRequest) : Calm (Instance.pagedQuery request) :=
  (calm_rowsOf request).bind fun _ =>
    calm_get.bind fun _ => (calm_set _).bind fun _ => calm_pure _

theorem calm_nextPage (request : Message.PageRequest) : Calm (Instance.nextPage request) := by
  refine calm_get.bind fun ⟨i, disk⟩ => ?_
  dsimp only
  split
  · exact calm_pure _
  · exact calm_throw (envelopeOf_kind_ne (by decide) _)

/-- No failure of the reference engine is a panic. -/
theorem dispatch_error_kind (owner : Int64) (method : Method) (input : Bytes) :
    Calm (dispatch owner method input) := by
  cases method with
  | translate => exact calm_served (fun _ => calm_get.bind fun _ => calm_pure _) input
  | progress => exact (calm_pure _).bind calm_respond
  | abort => exact calm_served (fun _ => calm_pure _) input
  | openCollection => exact calm_served (calm_openCollection owner) input
  | closeCollection => exact calm_served (fun _ => calm_closeCollection) input
  | query => exact (calm_request calm_query input).bind fun _ => calm_pure _
  | pagedQuery => exact calm_served calm_pagedQuery input
  | execute => exact calm_served (fun _ => calm_onCollection _) input
  | insert => exact calm_served (fun _ => calm_onCollection _) input
  | nextPage => exact calm_served calm_nextPage input
  | flush | flushAll | setPageSize =>
    exact calm_served (fun _ => (calm_change _).bind fun _ => calm_pure _) input
  | columnNames =>
    exact calm_served (fun _ => (calm_onCollection _).bind fun _ => calm_pure _) input

end Reference
end EngineLink
