import EngineLink.Failure.Category

/-!
# Which failures are fatal

Most categories say something about one request.  Only a panic of the engine says that the
instance cannot be used any more, and no message can make another failure look like one.

Main results:

- Theorem {lit}`isFatal_classify_iff`: a failure is fatal exactly when its number is that of
  a panic.
-/

namespace EngineLink

namespace Category

/-- No message makes a database failure fatal. -/
theorem isFatal_ofDatabaseMessage (message : String) :
    (ofDatabaseMessage message).isFatal = false := by
  have hsigns : ∀ sign ∈ databaseSigns, sign.2.isFatal = false := by
    simp [databaseSigns, isFatal]
  unfold ofDatabaseMessage
  split
  · rename_i sign hfound
    exact hsigns sign (List.mem_of_find?_eq_some hfound)
  · rfl

/-- No message makes refused input fatal. -/
theorem isFatal_ofInvalidInputMessage (message : String) :
    (ofInvalidInputMessage message).isFatal = false := by
  unfold ofInvalidInputMessage
  split
  · rfl
  · split <;> rfl

/-- A failure code is fatal exactly when it is a panic. -/
theorem isFatal_ofCode_iff (message : String) (code : FailureCode) :
    (ofCode message code).isFatal = true ↔ code = .panic := by
  cases code <;>
    simp [ofCode, isFatal_ofDatabaseMessage, isFatal_ofInvalidInputMessage] <;> rfl

end Category

/-- A failure is fatal exactly when its number is that of a panic. -/
theorem isFatal_classify_iff (envelope : Message.Envelope) :
    (classify envelope).isFatal = true ↔ envelope.kind = FailureCode.panic.number := by
  unfold classify
  cases hcode : FailureCode.ofNumber? envelope.kind with
  | none =>
    have hpanic := List.find?_eq_none.mp hcode .panic (by decide)
    simp only [decide_eq_true_eq] at hpanic
    simp [Category.isFatal, Ne.symm hpanic]
  | some code =>
    have hnumber : code.number = envelope.kind := by simpa using List.find?_some hcode
    rw [← hnumber]
    simp only [Category.isFatal_ofCode_iff]
    cases code <;> decide

end EngineLink
