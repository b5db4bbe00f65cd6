import EngineLink.Proofs.Client.EveryCall
import EngineLink.Proofs.Script.EngineUse

/-!
# Opening and using instances

What a client does to the record of an engine.  Every call runs methods of its own instance, and
only while that is open; an instance is opened after the engine was set up; and one whose page
size is refused is closed at once.

Main results:

- Theorem {lit}`stable_inUse`: every call keeps the record in order and the handle as it is.
- Theorem {lit}`InUse.record_close`: closing a handle closes its instance.
- Theorem {lit}`Bootstrap.explains_openWith`: a setup that failed fails every attempt.
- Theorem {lit}`Bootstrap.InOrder.openWith`: what an attempt leaves behind.
-/

namespace EngineLink

/-! ## Calls on a link -/

section Links

variable {σ : Type} [Engine σ]

/-- The handle has a number; the record is in order and leaves the engine in a usage; and the handle
is of an instance that is open, if it is not closed. -/
structure InUse (raw : Int64) (u : Usage) (link : Link (Journaled (Recorded σ))) : Prop where
  raw_eq : link.handle.raw = raw
  record : Usage.start.after link.engine.engine.contacts = some u
  live : raw ≠ 0 → raw ∈ u.live

/-- Every call keeps the record in order: it runs methods of the instance while that is open. -/
theorem stable_inUse (raw : Int64) (u : Usage) :
    Stable .any (InUse raw u : Link (Journaled (Recorded σ)) → Prop) where
  invoke := by
    intro service method payload link _ hlink
    unfold Link.invoke
    by_cases hraw : link.handle.raw = 0
    · rw [if_pos hraw]
      exact hlink
    · rw [if_neg hraw]
      have hlive : raw ∈ u.live := hlink.live (hlink.raw_eq ▸ hraw)
      cases link.handle.poison with
      | some reason => exact hlink
      | none =>
        generalize hrun : Engine.run link.handle.raw service method payload link.engine = answer
        have hrecord : Usage.start.after answer.2.engine.contacts = some u := by
          rw [← hrun]
          refine (Usage.after_concat hlink.record _).trans ?_
          rw [hlink.raw_eq]
          exact if_pos hlive
        obtain ⟨reply, engine⟩ := answer
        simp only
        rcases Outcome.ofReply reply with fault | bytes | envelope
        · exact ⟨hlink.raw_eq, hrecord, hlink.live⟩
        · exact ⟨hlink.raw_eq, hrecord, hlink.live⟩
        · exact ⟨hlink.raw_eq, hrecord, hlink.live⟩
  note := fun _ _ _ hlink => ⟨hlink.raw_eq, hlink.record, hlink.live⟩

/-- Closing a handle that is open closes its instance. -/
theorem InUse.record_close {raw : Int64} {u : Usage} {link : Link (Journaled (Recorded σ))}
    (hlink : InUse raw u link) (hraw : raw ≠ 0) :
    Usage.start.after link.close.engine.engine.contacts =
      some { u with live := u.live.erase raw } := by
  unfold Link.close
  rw [if_neg (hlink.raw_eq ▸ hraw), hlink.raw_eq]
  exact (Usage.after_concat hlink.record _).trans (if_pos (hlink.live hraw))

end Links

/-! ## Opening instances -/

namespace Bootstrap

section Setup

variable {σ : Type} [Engine σ]

/-- What an attempt to open an instance that ended in a state of the setup can have answered: a
setup that failed fails it. -/
def Explains (b : Bootstrap σ) {α : Type} (result : Except Error α) : Prop :=
  ∃ outcome, b.outcome = some outcome ∧ ∀ detail, outcome = .error detail →
    result = .error (.setup detail)

/-- What comes of the setup is answered, and known after it. -/
theorem ensureSetUp_outcome (b : Bootstrap σ) :
    ∃ outcome, b.ensureSetUp.1 = setUpResult outcome ∧
      b.ensureSetUp.2.outcome = some outcome := by
  unfold ensureSetUp
  cases houtcome : b.outcome with
  | some outcome => exact ⟨outcome, rfl, houtcome⟩
  | none => exact ⟨(Engine.setUp b.engine).1, rfl, rfl⟩

theorem outcome_ensureSetUp {b : Bootstrap σ} {outcome : Except String Unit}
    (hknown : b.outcome = some outcome) : b.ensureSetUp.2.outcome = some outcome := by
  unfold ensureSetUp
  rw [hknown]
  exact hknown

/-- An attempt sets the engine up. -/
theorem outcome_openHandle (languages : List String) (b : Bootstrap σ) :
    (b.openHandle languages).2.outcome = b.ensureSetUp.2.outcome := by
  unfold openHandle
  rcases b.ensureSetUp with ⟨fault | ⟨⟩, b'⟩
  · rfl
  · cases encode (Message.Init.mk languages) <;> rfl

theorem explains_openHandle (languages : List String) (b : Bootstrap σ) :
    (b.openHandle languages).2.Explains (b.openHandle languages).1 := by
  obtain ⟨outcome, hresult, houtcome⟩ := b.ensureSetUp_outcome
  refine ⟨outcome, (b.outcome_openHandle languages).trans houtcome, ?_⟩
  rintro detail rfl
  unfold openHandle
  rcases hsetUp : b.ensureSetUp with ⟨result, b'⟩
  rw [hsetUp] at hresult
  obtain rfl : result = .error (.setup detail) := hresult
  rfl

/-- An attempt with settings that are valid is one with their languages, as far as the setup goes.
-/
theorem outcome_openWith {settings : Settings} (hvalid : settings.validate = .ok ())
    (b : Bootstrap σ) :
    (b.openWith settings).2.outcome = (b.openHandle settings.languages).2.outcome := by
  unfold openWith
  rw [hvalid]
  rcases b.openHandle settings.languages with ⟨fault | handle, b'⟩
  · rfl
  · cases settings.pageSize with
    | none => rfl
    | some bytes =>
      simp only
      rcases Link.setPageSize bytes ⟨handle, b'.engine⟩ with ⟨fault | ⟨⟩, link⟩ <;> rfl

theorem outcome_openWith_of_known (settings : Settings) {b : Bootstrap σ}
    {outcome : Except String Unit} (hknown : b.outcome = some outcome) :
    (b.openWith settings).2.outcome = some outcome := by
  cases hvalid : settings.validate with
  | error fault =>
    unfold openWith
    rw [hvalid]
    exact hknown
  | ok value => rw [outcome_openWith hvalid, outcome_openHandle, outcome_ensureSetUp hknown]

theorem explains_openWith {settings : Settings} (hvalid : settings.validate = .ok ())
    (b : Bootstrap σ) : (b.openWith settings).2.Explains (b.openWith settings).1 := by
  obtain ⟨outcome, houtcome, hfails⟩ := b.explains_openHandle settings.languages
  refine ⟨outcome, (outcome_openWith hvalid b).trans houtcome, ?_⟩
  intro detail hfailed
  have hresult := hfails detail hfailed
  unfold openWith
  rw [hvalid]
  rcases hopened : b.openHandle settings.languages with ⟨result, b'⟩
  rw [hopened] at hresult
  obtain rfl : result = .error (.setup detail) := hresult
  rfl

end Setup

section Opening

variable {σ : Type} [Engine σ] {b : Bootstrap (Journaled (Recorded σ))} {raws : List Int64}

/-- The record is in order, and the open instances are those of some handles. -/
def InOrder (b : Bootstrap (Journaled (Recorded σ))) (raws : List Int64) : Prop :=
  ∃ live, Usage.start.after b.engine.engine.contacts = some ⟨b.outcome, live⟩ ∧ live.Perm raws

/-- What an attempt to open an instance leaves behind: one instance more, under the handle that is
answered, or none. -/
def Opened (raws : List Int64) : Except Error Handle × Bootstrap (Journaled (Recorded σ)) → Prop
  | (.ok handle, b) => handle.raw ≠ 0 ∧ b.InOrder (handle.raw :: raws)
  | (.error _, b) => b.InOrder raws

theorem InOrder.ensureSetUp (horder : b.InOrder raws) : b.ensureSetUp.2.InOrder raws := by
  obtain ⟨live, hrecord, hperm⟩ := horder
  unfold Bootstrap.ensureSetUp
  cases houtcome : b.outcome with
  | some outcome => exact ⟨live, hrecord, hperm⟩
  | none =>
    refine ⟨live, (Usage.after_concat hrecord _).trans ?_, hperm⟩
    rw [houtcome]
    rfl

/-- An engine that is set up is asked for an instance. -/
theorem InOrder.openInstance (horder : b.InOrder raws) (houtcome : b.outcome = some (.ok ()))
    (init : Bytes) :
    Opened raws (handleOf (Engine.openInstance init b.engine).1,
      { b with engine := (Engine.openInstance init b.engine).2 }) := by
  obtain ⟨live, hrecord, hperm⟩ := horder
  generalize hreply : (Engine.openInstance init b.engine).1 = reply
  have hafter : Usage.start.after (Engine.openInstance init b.engine).2.engine.contacts =
      some ⟨b.outcome, (Contact.opened init reply).given?.toList ++ live⟩ := by
    rw [← hreply]
    refine (Usage.after_concat hrecord _).trans ?_
    rw [houtcome]
    rfl
  cases hhandle : handleOf reply with
  | error fault =>
    have hgiven : (Contact.opened init reply).given? = none := by
      rw [Contact.given?, hhandle]
      rfl
    rw [hgiven] at hafter
    exact ⟨live, hafter, hperm⟩
  | ok handle =>
    have hgiven : (Contact.opened init reply).given? = some handle.raw := by
      rw [Contact.given?, hhandle]
      rfl
    obtain ⟨_, -, -, hraw⟩ := Contact.given?_opened_eq_some_iff.mp hgiven
    rw [hgiven] at hafter
    exact ⟨hraw, handle.raw :: live, hafter, hperm.cons handle.raw⟩

theorem InOrder.openHandle (horder : b.InOrder raws) (languages : List String) :
    Opened raws (b.openHandle languages) := by
  have hsetUp := horder.ensureSetUp
  obtain ⟨outcome, hresult, houtcome⟩ := b.ensureSetUp_outcome
  unfold Bootstrap.openHandle
  generalize b.ensureSetUp = answer at hsetUp hresult houtcome ⊢
  obtain ⟨result, b'⟩ := answer
  cases outcome with
  | error detail =>
    obtain rfl : result = .error (.setup detail) := hresult
    exact hsetUp
  | ok value =>
    obtain rfl : result = .ok () := hresult
    cases encode (Message.Init.mk languages) with
    | error fault => exact hsetUp
    | ok init => exact hsetUp.openInstance houtcome init

/-- If the page size is refused, the instance that was opened is closed. -/
theorem InOrder.openWith (horder : b.InOrder raws) (settings : Settings) :
    Opened raws (b.openWith settings) := by
  have hopened := horder.openHandle settings.languages
  unfold Bootstrap.openWith
  cases settings.validate with
  | error fault => exact horder
  | ok value =>
    generalize b.openHandle settings.languages = answer at hopened ⊢
    obtain ⟨fault | handle, b'⟩ := answer
    · exact hopened
    · cases settings.pageSize with
      | none => exact hopened
      | some bytes =>
        obtain ⟨hraw, live, hrecord, hperm⟩ := hopened
        have hbefore : InUse handle.raw ⟨b'.outcome, live⟩ ⟨handle, b'.engine⟩ :=
          ⟨rfl, hrecord, fun _ => hperm.mem_iff.mpr List.mem_cons_self⟩
        have hordinary : Ordinary (Link.setPageSize bytes : LinkM (Journaled (Recorded σ)) Unit) :=
          asks_tell _ _
        have hafter := hordinary _ (stable_inUse handle.raw ⟨b'.outcome, live⟩) _ hbefore
        simp only
        generalize Link.setPageSize bytes ⟨handle, b'.engine⟩ = answer at hafter ⊢
        obtain ⟨fault | ⟨⟩, link⟩ := answer
        · refine ⟨live.erase handle.raw, hafter.record_close hraw, ?_⟩
          simpa using hperm.erase handle.raw
        · exact ⟨hafter.raw_eq ▸ hraw, live, hafter.record, hafter.raw_eq.symm ▸ hperm⟩

end Opening

end Bootstrap

end EngineLink
