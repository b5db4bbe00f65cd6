import EngineLink.Proofs.Client.CursorPages
import EngineLink.Proofs.Client.HandleLatches
import EngineLink.Proofs.Reference.LinkCalls

/-!
# Listening to typed calls

Listening to an engine changes nothing for a call by numbers, so it changes nothing for the calls
that are made of it.  What is heard of a typed call that the reference engine answers is its request
and its response, each in its bytes.

Main results:

- Theorem {lit}`Mirrors.bind`: one call after another.
- Theorem {lit}`mirrors_moveTo`: a cursor moves as it does without a listener.
- Theorem {lit}`Reference.ask_heard`: what is heard of a typed call.
-/

namespace EngineLink

open Effects

/-! ## Listening changes nothing -/

section Mirroring

variable {σ ω α β : Type}

/-- A call that answers and does the same whether or not the engine is listened to. -/
def Mirrors (heard : LinkM (Overheard σ) α) (call : LinkM σ α) : Prop :=
  ∀ link, call link.unheard = ((heard link).1, (heard link).2.unheard)

/-- A call of an object that does the same whether or not the engine is listened to. -/
def MirrorsObject (heard : ObjectM ω (Overheard σ) α) (call : ObjectM ω σ α) : Prop :=
  ∀ o link, call o link.unheard = ((heard o link).1, (heard o link).2.unheard)

theorem mirrors_pure (a : α) :
    Mirrors (pure a : LinkM (Overheard σ) α) (pure a) := fun _ => rfl

theorem mirrors_throw (fault : Error) :
    Mirrors (throw fault : LinkM (Overheard σ) α) (throw fault) := fun _ => rfl

/-- What is noted in a handle is not heard. -/
theorem mirrors_setHandle (change : Handle → Handle) :
    Mirrors (Link.setHandle change : LinkM (Overheard σ) Unit) (Link.setHandle change) :=
  fun _ => rfl

/-- One call after another, heard and unheard. -/
theorem Mirrors.bind {heard : LinkM (Overheard σ) α} {call : LinkM σ α}
    {heardNext : α → LinkM (Overheard σ) β} {next : α → LinkM σ β} (hcall : Mirrors heard call)
    (hnext : ∀ a, Mirrors (heardNext a) (next a)) :
    Mirrors (heard >>= heardNext) (call >>= next) := by
  intro link
  rw [bind_apply, bind_apply, hcall link]
  rcases heard link with ⟨fault | a, link'⟩
  · rfl
  · exact hnext a link'

theorem mirrorsObject_pure (a : α) :
    MirrorsObject (pure a : ObjectM ω (Overheard σ) α) (pure a) := fun _ _ => rfl

/-- One call of an object after another, heard and unheard. -/
theorem MirrorsObject.bind {heard : ObjectM ω (Overheard σ) α} {call : ObjectM ω σ α}
    {heardNext : α → ObjectM ω (Overheard σ) β} {next : α → ObjectM ω σ β}
    (hcall : MirrorsObject heard call) (hnext : ∀ a, MirrorsObject (heardNext a) (next a)) :
    MirrorsObject (heard >>= heardNext) (call >>= next) := by
  intro o link
  rw [object_bind_apply, object_bind_apply, hcall o link]
  rcases heard o link with ⟨⟨fault | a, o'⟩, link'⟩
  · rfl
  · exact hnext a o' link'

variable [Engine σ]

/-- A request does the same to an engine that is listened to. -/
theorem mirrors_send [Wired α] (method : Method) (request : α) :
    Mirrors (Link.send method request : LinkM (Overheard σ) Bytes) (Link.send method request) := by
  intro link
  cases hencode : encode request with
  | error fault => rw [send_of_error method hencode, send_of_error method hencode]
  | ok payload =>
    rw [send_of_ok method hencode, send_of_ok method hencode]
    exact invoke_unheard _ _ payload link

/-- Its response is read the same. -/
theorem mirrors_ask [Wired α] [Wired β] (method : Method) (request : α) :
    Mirrors (Link.ask method request : LinkM (Overheard σ) β) (Link.ask method request) := by
  refine (mirrors_send method request).bind fun bytes => ?_
  cases (decode bytes : Except CodecFault β) with
  | error fault => exact mirrors_throw _
  | ok response => exact mirrors_pure response

theorem mirrors_nextPage (sequence : Int32) (start : Int64) :
    Mirrors (Link.nextPage sequence start : LinkM (Overheard σ) Page)
      (Link.nextPage sequence start) :=
  mirrors_ask _ _

/-- A cursor is opened the same on an engine that is listened to. -/
theorem mirrors_openQuery (sql : String) (args : List Value) (recentPages : Nat) :
    Mirrors (Cursor.openQuery sql args recentPages : LinkM (Overheard σ) Cursor)
      (Cursor.openQuery sql args recentPages) := by
  have hfirst : Mirrors (Link.firstPage sql args : LinkM (Overheard σ) Page)
      (Link.firstPage sql args) :=
    (mirrors_ask _ _).bind fun page => (mirrors_setHandle _).bind fun _ => mirrors_pure page
  exact hfirst.bind fun page => mirrors_pure _

/-- A page is shown as it is without a listener. -/
theorem mirrors_load (position : Int) :
    MirrorsObject (Cursor.load position : CursorM (Overheard σ) Unit) (Cursor.load position) := by
  intro c link
  rw [Cursor.load_apply, Cursor.load_apply]
  cases c.showRecent? position with
  | some shown => rfl
  | none =>
    simp only [mirrors_nextPage c.sequence (Int64.ofInt position) link]
    rcases Link.nextPage c.sequence (Int64.ofInt position) link with ⟨fault | page, link'⟩
    · rfl
    · cases hcheck : c.checkPage position page <;> simp only [hcheck]

/-- A cursor moves as it does without a listener. -/
theorem mirrors_moveTo (target : Int) :
    MirrorsObject (Cursor.moveTo target : CursorM (Overheard σ) Bool) (Cursor.moveTo target) := by
  intro c link
  rw [Cursor.moveTo_apply, Cursor.moveTo_apply, mirrors_load target c link]
  by_cases hclosed : c.closed = true
  · rw [if_pos hclosed, if_pos hclosed]
  rw [if_neg hclosed, if_neg hclosed]
  by_cases hlow : target < 0
  · rw [if_pos hlow, if_pos hlow]
  rw [if_neg hlow, if_neg hlow]
  by_cases hhigh : c.total.toInt ≤ target
  · rw [if_pos hhigh, if_pos hhigh]
  rw [if_neg hhigh, if_neg hhigh]
  by_cases hpage : (c.page.contains target || c.holdsAll) = true
  · rw [if_pos hpage, if_pos hpage]
  rw [if_neg hpage, if_neg hpage]
  rcases Cursor.load target c link with ⟨⟨fault | ⟨⟩, c'⟩, link'⟩ <;> rfl

end Mirroring

/-! ## What is heard -/

/-- A request to a method that was answered with a response. -/
structure Exchange.Carries {α β : Type} [Wired α] [Wired β] (raw : Int64) (method : Method)
    (request : α) (response : β) (e : Exchange) : Prop where
  handle : e.handle = raw
  numbers : (e.service, e.method) = method.ids
  request : encode request = .ok e.payload
  reply : ∃ bytes, encode response = .ok bytes ∧ e.reply = some (.success bytes)

namespace Reference

/-- What is heard of a typed call that is answered: its request and its response. -/
theorem ask_heard {α β : Type} [Wired α] [Wired β] [Faithful α] [Faithful β]
    {link : Link (Overheard World)} {i : Instance} (method : Method) {operation : α → InstanceM β}
    (request : α) {response : β} {s : Instance × Disk} (hreaches : Reaches link.unheard i)
    (hmethod : dispatch link.handle.raw method = served operation)
    (hrequest : ∃ payload, encode request = .ok payload)
    (hoperation : operation request (i, link.engine.engine.disk) = (.ok response, s))
    (hresponse : ∃ bytes, encode response = .ok bytes) :
    ∃ e, e.Carries link.handle.raw method request response ∧
      Link.ask method request link = (.ok response,
        ⟨link.handle, (after link.unheard s).engine, link.engine.exchanges ++ [e]⟩) := by
  obtain ⟨payload, hencode⟩ := hrequest
  obtain ⟨bytes, hwritten⟩ := hresponse
  have hserved := served_eq_ok (decode_encode hencode) hoperation hwritten
  have hrun : World.run link.handle.raw method.ids.1 method.ids.2 payload link.engine.engine =
      (some (.success bytes), (after link.unheard s).engine) := by
    have hfound : link.engine.engine.find? link.handle.raw = some i := hreaches.found
    simp only [World.run, hfound, Method.ofIds?_ids, hmethod, hserved]
    rfl
  have hheard := run_overheard (σ := World) hrun link.engine.exchanges
  refine ⟨⟨link.handle.raw, method.ids.1, method.ids.2, payload, some (.success bytes)⟩,
    ⟨rfl, rfl, hencode, bytes, hwritten, rfl⟩, ?_⟩
  have hinvoke : Link.invoke method.ids.1 method.ids.2 payload link = (.ok bytes,
      ⟨link.handle, (after link.unheard s).engine, link.engine.exchanges ++
        [⟨link.handle.raw, method.ids.1, method.ids.2, payload, some (.success bytes)⟩]⟩) := by
    have hopened : ¬ link.handle.raw = 0 := hreaches.opened
    have hhealthy : link.handle.poison = none := hreaches.healthy
    simp only [Link.invoke, if_neg hopened, hhealthy, hheard]
    rfl
  simp only [Link.ask, bind_apply, send_of_ok method hencode, hinvoke, decode_encode hwritten,
    pure_apply]

end Reference
end EngineLink
