import EngineLink.Client.Calls

/-!
# How calls compute

Calls change a state and end with a value or an error, and what they did to the state stays
either way.  Here is what each building block does to a state, for computations on one state
and for those of an object on a link, and what typed calls do to a link.
-/

namespace EngineLink
namespace Effects

section OneState

variable {ε σ α β : Type}

/-- One computation after another: an error ends both. -/
theorem bind_apply (x : ExceptT ε (StateM σ) α) (f : α → ExceptT ε (StateM σ) β) (s : σ) :
    (x >>= f) s =
      match x s with
      | (.ok a, s') => f a s'
      | (.error e, s') => (.error e, s') := by
  show (match x s with | (r, s') => ExceptT.bindCont f r s') = _
  rcases x s with ⟨_ | a, s'⟩ <;> rfl

@[simp]
theorem pure_apply (a : α) (s : σ) : (pure a : ExceptT ε (StateM σ) α) s = (.ok a, s) :=
  rfl

@[simp]
theorem throw_apply (e : ε) (s : σ) : (throw e : ExceptT ε (StateM σ) α) s = (.error e, s) :=
  rfl

@[simp]
theorem get_apply (s : σ) : (get : ExceptT ε (StateM σ) σ) s = (.ok s, s) :=
  rfl

@[simp]
theorem set_apply (s s' : σ) : (set s' : ExceptT ε (StateM σ) PUnit) s = (.ok (), s') :=
  rfl

@[simp]
theorem modify_apply (f : σ → σ) (s : σ) :
    (modify f : ExceptT ε (StateM σ) PUnit) s = (.ok (), f s) :=
  rfl

/-- A computation that leaves the state alone does so after another one, too. -/
theorem bind_state {x : ExceptT ε (StateM σ) α} {f : α → ExceptT ε (StateM σ) β}
    (hkeeps : ∀ a s, (f a s).2 = s) (s : σ) : ((x >>= f) s).2 = (x s).2 := by
  rw [bind_apply]
  rcases x s with ⟨_ | a, s'⟩
  · rfl
  · exact hkeeps a s'

end OneState

section Objects

variable {ω σ α β : Type}

/-- One call of an object after another: an error ends both. -/
theorem object_bind_apply (x : ObjectM ω σ α) (f : α → ObjectM ω σ β) (o : ω) (link : Link σ) :
    (x >>= f) o link =
      match x o link with
      | ((.ok a, o'), link') => f a o' link'
      | ((.error e, o'), link') => ((.error e, o'), link') := by
  show (match x o link with | ((r, o'), link') => ExceptT.bindCont f r o' link') = _
  rcases x o link with ⟨⟨_ | a, o'⟩, link'⟩ <;> rfl

@[simp]
theorem object_pure_apply (a : α) (o : ω) (link : Link σ) :
    (pure a : ObjectM ω σ α) o link = ((.ok a, o), link) :=
  rfl

@[simp]
theorem object_throw_apply (e : Error) (o : ω) (link : Link σ) :
    (throw e : ObjectM ω σ α) o link = ((.error e, o), link) :=
  rfl

@[simp]
theorem object_get_apply (o : ω) (link : Link σ) :
    (getThe ω : ObjectM ω σ ω) o link = ((.ok o, o), link) :=
  rfl

@[simp]
theorem object_set_apply (o o' : ω) (link : Link σ) :
    (set o' : ObjectM ω σ PUnit) o link = ((.ok (), o'), link) :=
  rfl

@[simp]
theorem object_modify_apply (f : ω → ω) (o : ω) (link : Link σ) :
    (modifyThe ω f : ObjectM ω σ PUnit) o link = ((.ok (), f o), link) :=
  rfl

@[simp]
theorem onLink_apply (call : LinkM σ α) (o : ω) (link : Link σ) :
    (onLink call : ObjectM ω σ α) o link = (((call link).1, o), (call link).2) :=
  rfl

end Objects

section TypedCalls

variable {σ α β : Type} [Engine σ] [Wired α] [Wired β] {link : Link σ}

/-- A request that does not fit the wire is not sent. -/
theorem send_of_error {request : α} {fault : CodecFault} (method : Method)
    (hencode : encode request = .error fault) :
    Link.send method request link = (.error (.codec fault), link) := by
  simp only [Link.send, hencode, throw_apply]

/-- A request that fits the wire is sent in its bytes. -/
theorem send_of_ok {request : α} {payload : Bytes} (method : Method)
    (hencode : encode request = .ok payload) :
    Link.send method request link = Link.invoke method.ids.1 method.ids.2 payload link := by
  simp only [Link.send, hencode]

/-- Reading the response leaves the link alone. -/
theorem ask_link (method : Method) (request : α) :
    (Link.ask method request link : Except Error β × Link σ).2 =
      (Link.send method request link).2 := by
  refine bind_state (fun bytes s => ?_) link
  cases (decode bytes : Except CodecFault β) <;> rfl

theorem tell_link (method : Method) (request : α) :
    (Link.tell method request link).2 = (Link.send method request link).2 := by
  refine Eq.trans (bind_state (fun (_ : Message.Empty) _ => rfl) link) ?_
  exact ask_link method request

/-- A transaction control does to the link what sending it does. -/
theorem control_link (kind : Message.RequestKind) :
    (Link.control kind link).2 =
      (Link.send .query (Message.DbRequest.control kind) link).2 :=
  bind_state (fun _ _ => rfl) link

theorem jsonQuery_link (request : Message.DbRequest) :
    (Link.jsonQuery request link).2 = (Link.send .query request link).2 := by
  refine bind_state (fun bytes s => ?_) link
  cases Link.readRows bytes <;> rfl

/-- Only the active query is discarded, and then it is active no more. -/
theorem cancelQuery_link (sequence : Int32) :
    (Link.cancelQuery sequence link).2 =
      if link.handle.active = some sequence then
        (Link.send .flush (Message.FlushRequest.mk sequence)
          { link with handle := { link.handle with active := none } }).2
      else link := by
  simp only [Link.cancelQuery, bind_apply, get_apply]
  split
  · simp only [Link.setHandle, bind_apply, modify_apply, tell_link]
  · rfl

end TypedCalls

end Effects
end EngineLink
