import EngineLink.Client.Calls
import EngineLink.Proofs.Failure.Classification
import EngineLink.Proofs.Reference.Dispatch

/-!
# Calls that reach the reference engine

A link reaches an instance when its handle is open, not poisoned and leads to the instance.
No call on such a link is fatal, so it goes on reaching the instance, whatever is asked and
however badly it is asked.

Main results:

- Theorem {lit}`invoke_known`: a call by numbers does to the instance what its method does.
- Theorem {lit}`ask_eq_ok_iff`: a typed call answers what the operation of its method answers
  to the same message, if both messages fit the wire.
- Theorem {lit}`steps_send`: what a typed call can do to the stored result, and with it
  theorems about all calls of a client that are made of typed calls.
-/

namespace EngineLink

/-- Every method is found by its numbers. -/
@[simp]
theorem Method.ofIds?_ids (method : Method) :
    Method.ofIds? method.ids.1 method.ids.2 = some method := by
  cases method <;> decide

namespace Reference

open Effects

/-- The instance put in place of another one is found. -/
theorem World.find?_replace (w : World) (handle : Int64) (i : Instance) (disk : Disk) :
    (w.replace handle i disk).find? handle = (w.find? handle).map fun _ => i := by
  obtain ⟨instances, next, disk'⟩ := w
  simp only [World.replace, World.find?]
  induction instances with
  | nil => rfl
  | cons entry rest ih =>
    by_cases hentry : entry.1 = handle
    · simp [hentry]
    · simp only [List.map_cons, if_neg hentry, List.find?_cons, decide_eq_false hentry]
      exact ih

/-- A link whose handle is open and not poisoned leads to an instance. -/
structure Reaches (link : Link World) (i : Instance) : Prop where
  opened : link.handle.raw ≠ 0
  healthy : link.handle.poison = none
  found : link.engine.find? link.handle.raw = some i

/-- The link after its instance and the databases were changed. -/
def after (link : Link World) (s : Instance × Disk) : Link World :=
  { link with engine := link.engine.replace link.handle.raw s.1 s.2 }

/-- An instance with an empty database in memory and pages of one row. -/
def memoryInstance : Instance :=
  { Instance.create [] with
    connection := some (Connection.create 1 (.memory 1) false), pageSize := 1 }

/-- A link to such an instance. -/
def inMemory : Link World :=
  ⟨Handle.create 1, [(1, memoryInstance)], 2, Disk.put [] (Disk.get [] (.memory 1))⟩

theorem reaches_inMemory : Reaches inMemory memoryInstance :=
  ⟨by decide, rfl, rfl⟩

section Calls

variable {link : Link World} {i : Instance}

/-- A link reaches an instance that was put in place of the one it reached. -/
theorem Reaches.after (hreaches : Reaches link i) (s : Instance × Disk) :
    Reaches (Reference.after link s) s.1 where
  opened := hreaches.opened
  healthy := hreaches.healthy
  found := by
    rw [Reference.after, World.find?_replace, hreaches.found]
    rfl

/-- A link reaches one instance only. -/
theorem Reaches.unique {i' : Instance} (hreaches : Reaches link i) (hreaches' : Reaches link i') :
    i = i' :=
  Option.some.inj (hreaches.found.symm.trans hreaches'.found)

/-- What a handle knows besides its number and its poison does not matter. -/
theorem Reaches.of_handle {handle : Handle} (hreaches : Reaches link i)
    (hraw : handle.raw = link.handle.raw) (hpoison : handle.poison = link.handle.poison) :
    Reaches { link with handle } i where
  opened := hraw ▸ hreaches.opened
  healthy := hpoison.trans hreaches.healthy
  found := by
    have hfound := hreaches.found
    rw [← hraw] at hfound
    exact hfound

/-! ## Calls by numbers -/

/-- The call of an open handle without poison, from the reply of the engine. -/
theorem invoke_eq {service number : UInt32} {payload : Bytes} {reply : Reply} {engine : World}
    (hreaches : Reaches link i)
    (hrun : World.run link.handle.raw service number payload link.engine = (some reply, engine)) :
    Link.invoke service number payload link =
      match Outcome.ofReply (some reply) with
      | .ok (.success bytes) => (.ok bytes, { link with engine })
      | .ok (.failure envelope) =>
        (.error (.engine (Failure.ofEnvelope envelope)),
          ⟨{ link.handle with
              poison := if (classify envelope).isFatal then some envelope.message else none },
            engine⟩)
      | .error fault => (.error (.malformed fault), { link with engine }) := by
  have hengine : Engine.run link.handle.raw service number payload link.engine =
      (some reply, engine) := hrun
  simp only [Link.invoke, if_neg hreaches.opened, hreaches.healthy, hengine]
  rcases Outcome.ofReply (some reply) with fault | bytes | envelope <;> rfl

/-- A failure that is no panic and fits the wire is the error in its envelope, and the handle stays
as it is. -/
theorem invoke_failure_of_encode {service number : UInt32} {payload bytes : Bytes}
    {envelope : Message.Envelope} {engine : World} (hreaches : Reaches link i)
    (hkind : envelope.kind ≠ FailureCode.panic.number) (hencode : encode envelope = .ok bytes)
    (hrun : World.run link.handle.raw service number payload link.engine =
      (some (.failure envelope), engine)) :
    Link.invoke service number payload link =
      (.error (.engine (Failure.ofEnvelope envelope)), { link with engine }) := by
  have hfatal : ¬ (classify envelope).isFatal = true :=
    fun h => hkind ((isFatal_classify_iff envelope).mp h)
  have hread : decode? bytes = some envelope := by
    simpa using decode?_encode_append hencode []
  rw [invoke_eq hreaches hrun]
  simp only [Reply.failure, hencode, Except.toOption, Outcome.ofReply, hread, if_neg hfatal,
    ← hreaches.healthy]

/-- A failure that is no panic is an error, and the handle stays as it is. -/
theorem invoke_failure {service number : UInt32} {payload : Bytes} {envelope : Message.Envelope}
    {engine : World} (hreaches : Reaches link i)
    (hkind : envelope.kind ≠ FailureCode.panic.number)
    (hrun : World.run link.handle.raw service number payload link.engine =
      (some (.failure envelope), engine)) :
    ∃ fault, Link.invoke service number payload link = (.error fault, { link with engine }) := by
  cases hencode : encode envelope with
  | error fault =>
    refine ⟨.malformed .neitherSide, ?_⟩
    rw [invoke_eq hreaches hrun]
    simp [Reply.failure, hencode, Except.toOption, Outcome.ofReply]
  | ok bytes => exact ⟨_, invoke_failure_of_encode hreaches hkind hencode hrun⟩

/-- A call by the numbers of a method does to the instance what the method does, and answers
when the method does. -/
theorem invoke_known {service number : UInt32} {method : Method} (hreaches : Reaches link i)
    (hmethod : Method.ofIds? service number = some method) (payload : Bytes) :
    (Link.invoke service number payload link).2 =
        after link (dispatch link.handle.raw method payload (i, link.engine.disk)).2 ∧
      ∀ bytes, (Link.invoke service number payload link).1 = .ok bytes ↔
        (dispatch link.handle.raw method payload (i, link.engine.disk)).1 = .ok bytes := by
  rcases hdispatch : dispatch link.handle.raw method payload (i, link.engine.disk) with
    ⟨envelope | answer, s⟩
  · have hrun : World.run link.handle.raw service number payload link.engine =
        (some (.failure envelope), (after link s).engine) := by
      simp only [World.run, hreaches.found, hmethod, hdispatch]
      rfl
    have hkind := dispatch_error_kind link.handle.raw method payload (i, link.engine.disk) envelope
      (by rw [hdispatch])
    obtain ⟨fault, hinvoke⟩ := invoke_failure hreaches hkind hrun
    rw [hinvoke]
    exact ⟨rfl, by simp⟩
  · have hrun : World.run link.handle.raw service number payload link.engine =
        (some (.success answer), (after link s).engine) := by
      simp only [World.run, hreaches.found, hmethod, hdispatch]
      rfl
    rw [invoke_eq hreaches hrun]
    exact ⟨rfl, by simp [Outcome.ofReply, Reply.success]⟩

/-- A call by other numbers changes nothing. -/
theorem invoke_unknown {service number : UInt32} (hreaches : Reaches link i)
    (hmethod : Method.ofIds? service number = none) (payload : Bytes) :
    (Link.invoke service number payload link).2 = link := by
  have hrun : World.run link.handle.raw service number payload link.engine =
      (some (.failure (Fault.envelopeOf .invalidInput
        ("unknown method " ++ toString service.toNat ++ "." ++ toString number.toNat))),
        link.engine) := by
    simp only [World.run, hreaches.found, hmethod]
  obtain ⟨fault, hinvoke⟩ := invoke_failure hreaches (envelopeOf_kind_ne (by decide) _) hrun
  rw [hinvoke]

/-! ## Typed calls -/

section Messages

variable {α β : Type} [Wired α] [Wired β]

/-- A typed call answers what the operation of its method answers to the same message, if both
messages fit the wire. -/
theorem ask_eq_ok_iff [Faithful α] [Faithful β] {method : Method} {operation : α → InstanceM β}
    {request : α} {response : β} {link' : Link World} (hreaches : Reaches link i)
    (hmethod : dispatch link.handle.raw method = served operation) :
    Link.ask method request link = (.ok response, link') ↔
      (∃ payload, encode request = .ok payload) ∧ (∃ bytes, encode response = .ok bytes) ∧
        ∃ s, operation request (i, link.engine.disk) = (.ok response, s) ∧
          link' = after link s := by
  constructor
  · intro hask
    cases hencode : encode request with
    | error fault =>
      simp only [Link.ask, bind_apply, send_of_error method hencode] at hask
      cases hask
    | ok payload =>
      obtain ⟨hlink, hanswer⟩ := invoke_known hreaches (Method.ofIds?_ids method) payload
      simp only [Link.ask, bind_apply, send_of_ok method hencode] at hask
      rcases hinvoke : Link.invoke method.ids.1 method.ids.2 payload link with ⟨_ | bytes, link''⟩
      · simp only [hinvoke] at hask
        cases hask
      · simp only [hinvoke] at hask hlink hanswer
        have hdispatch := (hanswer bytes).mp rfl
        rcases hrun : dispatch link.handle.raw method payload (i, link.engine.disk) with ⟨r, s⟩
        rw [hrun] at hdispatch hlink
        simp only at hdispatch hlink
        subst hdispatch hlink
        rw [hmethod] at hrun
        obtain ⟨message, response', hrequest, hoperation, hresponse⟩ := exists_of_served_eq_ok hrun
        rw [decode_encode hencode] at hrequest
        cases hrequest
        simp only [decode_encode hresponse, pure_apply] at hask
        cases hask
        exact ⟨⟨payload, rfl⟩, ⟨bytes, hresponse⟩, s, hoperation, rfl⟩
  · rintro ⟨⟨payload, hencode⟩, ⟨bytes, hresponse⟩, s, hoperation, rfl⟩
    obtain ⟨hlink, hanswer⟩ := invoke_known hreaches (Method.ofIds?_ids method) payload
    have hrun := served_eq_ok (decode_encode hencode) hoperation hresponse
    rw [hmethod, hrun] at hlink hanswer
    have hinvoke : Link.invoke method.ids.1 method.ids.2 payload link = (.ok bytes, after link s) :=
      Prod.ext ((hanswer bytes).mpr rfl) hlink
    simp only [Link.ask, bind_apply, send_of_ok method hencode, hinvoke, decode_encode hresponse,
      pure_apply]

end Messages

end Calls

/-! ## Steps of the stored result -/

/-- From one link to another the instance stays reached, and its results stay as they are or
take a step of an allowed method. -/
def Steps (allowed : Bytes → Method → Prop) (link link' : Link World) : Prop :=
  ∀ i, Reaches link i → ∃ i', Reaches link' i' ∧
    (i'.results = i.results ∨ ∃ input method, allowed input method ∧
      StoreStep input i.results method i'.results)

section Steps

variable {allowed : Bytes → Method → Prop} {link link' : Link World}

theorem steps_refl (link : Link World) : Steps allowed link link :=
  fun i hreaches => ⟨i, hreaches, .inl rfl⟩

/-- What a handle knows besides may change after the step. -/
theorem Steps.after_handle {handle : Handle} (hsteps : Steps allowed link link')
    (hraw : handle.raw = link'.handle.raw) (hpoison : handle.poison = link'.handle.poison) :
    Steps allowed link { link' with handle } := by
  intro i hreaches
  obtain ⟨i', hreaches', hresults⟩ := hsteps i hreaches
  exact ⟨i', hreaches'.of_handle hraw hpoison, hresults⟩

/-- What a handle knows besides may change before the step. -/
theorem Steps.before_handle {handle : Handle} (hsteps : Steps allowed { link with handle } link')
    (hraw : handle.raw = link.handle.raw) (hpoison : handle.poison = link.handle.poison) :
    Steps allowed link link' := by
  intro i hreaches
  exact hsteps i (hreaches.of_handle hraw hpoison)

/-- A call by numbers takes a step of its method, if there is one. -/
theorem steps_invoke {service number : UInt32} {payload : Bytes}
    (hallowed : ∀ method, Method.ofIds? service number = some method → allowed payload method) :
    Steps allowed link (Link.invoke service number payload link).2 := by
  intro i hreaches
  cases hmethod : Method.ofIds? service number with
  | none =>
    rw [invoke_unknown hreaches hmethod payload]
    exact ⟨i, hreaches, .inl rfl⟩
  | some method =>
    have hstep := dispatch_storeStep link.handle.raw method payload (i, link.engine.disk)
    rw [(invoke_known hreaches hmethod payload).1]
    exact ⟨_, hreaches.after _, .inr ⟨payload, method, hallowed method hmethod, hstep⟩⟩

/-- A typed call takes a step of its method, or is not sent. -/
theorem steps_send {α : Type} [Wired α] {method : Method} {request : α}
    (hallowed : allowed (Wired.toItem request).write method) :
    Steps allowed link (Link.send method request link).2 := by
  cases hencode : encode request with
  | error fault =>
    rw [send_of_error method hencode]
    exact steps_refl link
  | ok payload =>
    obtain ⟨-, rfl⟩ := encode_eq_ok_iff.mp hencode
    rw [send_of_ok method hencode]
    refine steps_invoke fun known hknown => ?_
    rw [Method.ofIds?_ids] at hknown
    cases hknown
    exact hallowed

theorem steps_nextPage {sequence : Int32} {start : Int64}
    (hallowed : ∀ input, allowed input .nextPage) :
    Steps allowed link (Link.nextPage sequence start link).2 := by
  rw [Link.nextPage, ask_link]
  exact steps_send (hallowed _)

/-- The first page of a query makes it the active one after the step. -/
theorem steps_firstPage {sql : String} {args : List Value}
    (hallowed : ∀ input, allowed input .pagedQuery) :
    Steps allowed link (Link.firstPage sql args link).2 := by
  have hsteps : Steps allowed link (Link.ask .pagedQuery (Message.DbRequest.query sql args) link :
      Except Error Page × Link World).2 := by
    rw [ask_link]
    exact steps_send (hallowed _)
  simp only [Link.firstPage, bind_apply]
  rcases hask : (Link.ask .pagedQuery (Message.DbRequest.query sql args) link :
    Except Error Page × Link World) with ⟨_ | page, link'⟩ <;> rw [hask] at hsteps
  · exact hsteps
  · exact hsteps.after_handle rfl rfl

/-- Discarding a query takes a step only if the query is active. -/
theorem steps_cancelQuery {sequence : Int32}
    (hallowed : allowed (Wired.toItem (Message.FlushRequest.mk sequence)).write .flush) :
    Steps allowed link (Link.cancelQuery sequence link).2 := by
  rw [cancelQuery_link]
  split
  · exact (steps_send hallowed).before_handle rfl rfl
  · exact steps_refl link

theorem steps_cancelAll (hallowed : ∀ input, allowed input .flushAll) :
    Steps allowed link (Link.cancelAll link).2 := by
  simp only [Link.cancelAll, Link.setHandle, bind_apply, modify_apply, tell_link]
  exact (steps_send (hallowed _)).before_handle rfl rfl

theorem steps_control {kind : Message.RequestKind} (hallowed : ∀ input, allowed input .query) :
    Steps allowed link (Link.control kind link).2 := by
  rw [control_link]
  exact steps_send (hallowed _)

/-- A transaction that begins is noted in the handle after the step. -/
theorem steps_beginTransaction (hallowed : ∀ input, allowed input .query) :
    Steps allowed link (Link.beginTransaction link).2 := by
  have hsteps : Steps allowed link (Link.control .begin link).2 := steps_control hallowed
  simp only [Link.beginTransaction, bind_apply]
  rcases hrun : Link.control .begin link with ⟨_ | ⟨⟩, link'⟩ <;> rw [hrun] at hsteps
  · exact hsteps
  · exact hsteps.after_handle rfl rfl

/-- A transaction that ends is noted in the handle after the step, whatever the answer is. -/
theorem steps_finishTransaction {kind : Message.RequestKind}
    (hallowed : ∀ input, allowed input .query) :
    Steps allowed link (Link.finishTransaction kind link).2 := by
  have hsteps : Steps allowed link (Link.control kind link).2 := steps_control hallowed
  rcases hrun : Link.control kind link with ⟨answer, link'⟩
  rw [hrun] at hsteps
  simp only [Link.finishTransaction, hrun]
  exact hsteps.after_handle rfl rfl

end Steps

end Reference
end EngineLink
