import EngineLink.Proofs.Text.Occurrence
import EngineLink.Reference.Fault

/-!
# Kinds told by faults and kinds seen by clients

A fault is reported with its text in full and, behind the text, the name of its kind.  A client
takes the first sign in its table that occurs anywhere in the message, so the text itself can bear
a sign that comes before that of the kind.  The text shows the statement, and whoever writes the
statement chooses it.

Main results:

- Theorem {lit}`Reference.Fault.classify_report`: a fault is seen as the first misleading sign in
  its text, or as what it is.
- Theorem {lit}`Reference.Fault.text_decides_category`: it is seen as what it is exactly if its text
  bears no misleading sign.
- Theorem {lit}`Reference.Fault.classify_input_ne`: a statement that cannot be read and bears such
  a sign is never seen as what it is.
-/

namespace EngineLink

namespace Category

/-- The category of the first sign that occurs in a text, or another one if none does. -/
def firstSign (signs : List (String × Category)) (text : String) (otherwise : Category) :
    Category :=
  match signs.find? fun sign => Text.Occurs sign.1 text with
  | some sign => sign.2
  | none => otherwise

variable {signs : List (String × Category)} {text : String} {own : Category}

@[simp] theorem firstSign_nil : firstSign [] text own = own := rfl

@[simp] theorem firstSign_cons {sign : String × Category} :
    firstSign (sign :: signs) text own =
      if Text.Occurs sign.1 text then sign.2 else firstSign signs text own := by
  by_cases hoccurs : Text.Occurs sign.1 text <;> simp [firstSign, hoccurs]

/-- Where no sign is of a category, it is left exactly if no sign occurs. -/
theorem firstSign_eq_iff (hother : ∀ sign ∈ signs, sign.2 ≠ own) :
    firstSign signs text own = own ↔ ∀ sign ∈ signs, ¬ Text.Occurs sign.1 text := by
  induction signs with
  | nil => simp
  | cons sign signs ih =>
    rw [List.forall_mem_cons] at hother ⊢
    rw [firstSign_cons]
    split
    · rename_i hoccurs
      simp [hother.1, hoccurs]
    · rename_i hoccurs
      rw [ih hother.2]
      simp [hoccurs]

/-- The signs that may stand anywhere in a message. -/
def innerSigns : List (String × Category) :=
  [("kind: FileTooNew", .dbFileTooNew), ("kind: FileTooOld", .dbFileTooOld),
    ("kind: MissingEntity", .dbMissingEntity), ("kind: Locked", .dbLocked),
    ("kind: Corrupt", .dbCorrupt), ("DatabaseCorrupt", .dbCorrupt), ("kind: Other", .dbOther)]

/-- The test for a sign that may stand anywhere in a message. -/
def innerTest (sign : String × Category) : (String → Bool) × Category :=
  (fun message => Text.contains message sign.1, sign.2)

/-- A message that does not begin as one about an open collection is told by its inner signs. -/
theorem ofDatabaseMessage_eq {message : String}
    (hstart : ¬ Text.beginsWith message "Collection already open" = true) :
    ofDatabaseMessage message = firstSign innerSigns message .dbOther := by
  have hsigns : databaseSigns = (innerSigns.take 4).map innerTest ++
      (fun message => Text.beginsWith message "Collection already open", .dbLocked) ::
        (innerSigns.drop 4).map innerTest := rfl
  have hopen : ∀ rest, List.find? (fun sign => sign.1 message)
      ((fun message => Text.beginsWith message "Collection already open", .dbLocked) :: rest) =
        rest.find? (fun sign : (String → Bool) × Category => sign.1 message) :=
    fun _ => List.find?_cons_of_neg hstart
  have htest : (fun sign : (String → Bool) × Category => sign.1 message) ∘ innerTest =
      fun sign => decide (Text.Occurs sign.1 message) := by
    funext sign
    rw [Bool.eq_iff_iff, decide_eq_true_iff]
    exact Text.contains_iff_occurs
  rw [ofDatabaseMessage, hsigns, List.find?_append, hopen,
    ← List.find?_append, ← List.map_append, List.take_append_drop, List.find?_map, htest, firstSign]
  cases innerSigns.find? fun sign => decide (Text.Occurs sign.1 message) with
  | none => rfl
  | some sign => rfl

end Category

namespace Reference
namespace Fault

open Category

/-- A sign is found in the text of a fault before that of its kind, or it is that of the kind. -/
theorem firstSign_messageOf {signs later : List (String × Category)} {needle kind : String}
    {own : Category} (full : String)
    (hsigns : ∀ sign ∈ signs, '"' ∉ sign.1.toList ∧ ¬ Text.Occurs sign.1 "DbError \x7b info: " ∧
      ¬ Text.Occurs sign.1 (", kind: " ++ kind ++ " \x7d"))
    (hquote : '"' ∉ needle.toList) (hown : Text.Occurs needle (", kind: " ++ kind ++ " \x7d"))
    (otherwise : Category) :
    firstSign (signs ++ (needle, own) :: later) (messageOf full kind) otherwise =
      firstSign signs full own := by
  induction signs with
  | nil =>
    have hoccurs : Text.Occurs needle (messageOf full kind) :=
      (Text.occurs_quoted_iff hquote).mpr (.inr (.inr hown))
    simp [hoccurs]
  | cons sign signs ih =>
    rw [List.forall_mem_cons] at hsigns
    obtain ⟨⟨hplain, hopening, hclosing⟩, hsigns⟩ := hsigns
    have hoccurs : Text.Occurs sign.1 (messageOf full kind) ↔ Text.Occurs sign.1 full :=
      (Text.occurs_quoted_iff hplain).trans ((or_iff_right hopening).trans (or_iff_left hclosing))
    simp [hoccurs, ih hsigns]

/-- The category of a fault, by its result code. -/
def categoryOf : Option ResultCode → Category
  | some .interrupted => .interrupted
  | some .busy | some .locked => .dbLocked
  | some .corrupt | some .notADatabase => .dbCorrupt
  | _ => .dbOther

/-- The signs of collections that another version of the engine has written, or that lack something.
No fault is of these kinds. -/
def foreignSigns : List (String × Category) :=
  [("kind: FileTooNew", .dbFileTooNew), ("kind: FileTooOld", .dbFileTooOld),
    ("kind: MissingEntity", .dbMissingEntity)]

/-- The signs that a client looks for before that of a fault with a result code. -/
def misleadingSigns : Option ResultCode → List (String × Category)
  | some .interrupted => []
  | some .busy | some .locked => foreignSigns
  | some .corrupt | some .notADatabase => foreignSigns ++ [("kind: Locked", .dbLocked)]
  | _ =>
    foreignSigns ++ [("kind: Locked", .dbLocked), ("kind: Corrupt", .dbCorrupt),
      ("DatabaseCorrupt", .dbCorrupt)]

theorem not_beginsWith_messageOf (full kind : String) :
    ¬ Text.beginsWith (messageOf full kind) "Collection already open" = true := by
  have hopening : "DbError \x7b info: ".toList.head? = some 'D' := by decide
  have hmessage : (messageOf full kind).toList.head? = some 'D' :=
    Text.head?_append (Text.head?_append (Text.head?_append (Text.head?_append hopening _) _) _) _
  have hstart : "Collection already open".toList.head? = some 'C' := by decide
  exact Text.not_beginsWith_of_head? hmessage hstart (by decide)

/-- A message about a fault is seen as the first sign in the text of the fault that stands before
that of its kind in the table, or as that of its kind. -/
theorem classify_messageOf {signs later : List (String × Category)} {needle kind : String}
    {own : Category} (hinner : innerSigns = signs ++ (needle, own) :: later)
    (hsigns : ∀ sign ∈ signs, '"' ∉ sign.1.toList ∧ ¬ Text.Occurs sign.1 "DbError \x7b info: " ∧
      ¬ Text.Occurs sign.1 (", kind: " ++ kind ++ " \x7d"))
    (hquote : '"' ∉ needle.toList) (hown : Text.Occurs needle (", kind: " ++ kind ++ " \x7d"))
    (full : String) :
    classify (envelopeOf .database (messageOf full kind)) = firstSign signs full own := by
  have hseen : classify (envelopeOf .database (messageOf full kind)) =
      firstSign innerSigns (messageOf full kind) .dbOther :=
    ofDatabaseMessage_eq (not_beginsWith_messageOf full kind)
  rw [hseen, hinner]
  exact firstSign_messageOf full hsigns hquote hown _

/-- A fault is seen as the first misleading sign in its text, or as what it is. -/
theorem classify_report (failure : Option (ResultCode × String)) (full : String) :
    classify (report failure full) =
      firstSign (misleadingSigns (failure.map Prod.fst)) full
        (categoryOf (failure.map Prod.fst)) := by
  have hlocked : classify (envelopeOf .database (messageOf full "Locked")) =
      firstSign (misleadingSigns (some .locked)) full .dbLocked :=
    classify_messageOf rfl (by decide) (by decide) (by decide) full
  have hcorrupt : classify (envelopeOf .database (messageOf full "Corrupt")) =
      firstSign (misleadingSigns (some .corrupt)) full .dbCorrupt :=
    classify_messageOf rfl (by decide) (by decide) (by decide) full
  have hother : classify (envelopeOf .database (messageOf full "Other")) =
      firstSign (misleadingSigns none) full .dbOther :=
    classify_messageOf rfl (by decide) (by decide) (by decide) full
  cases failure with
  | none => exact hother
  | some told =>
    obtain ⟨code, detail⟩ := told
    cases code with
    | interrupted => rfl
    | busy | locked => exact hlocked
    | corrupt | notADatabase => exact hcorrupt
    | _ => exact hother

/-- No misleading sign of a fault is of its own category. -/
theorem misleads (code : Option ResultCode) :
    ∀ sign ∈ misleadingSigns code, sign.2 ≠ categoryOf code := by
  cases code with
  | none => decide
  | some code => cases code <;> decide

/-- A client sees a fault as the first sign in its text that is looked for before that of its kind,
and as what it is exactly if the text bears none of these signs. -/
theorem text_decides_category (failure : Option (ResultCode × String)) (full : String) :
    classify (report failure full) =
        firstSign (misleadingSigns (failure.map Prod.fst)) full
          (categoryOf (failure.map Prod.fst)) ∧
      (classify (report failure full) = categoryOf (failure.map Prod.fst) ↔
        ∀ sign ∈ misleadingSigns (failure.map Prod.fst), ¬ Text.Occurs sign.1 full) := by
  refine ⟨classify_report failure full, ?_⟩
  rw [classify_report, firstSign_eq_iff (misleads _)]

/-! ## Statements that choose their category -/

/-- Characters of ASCII that are shown as they are between quotes. -/
def isPlain (c : Char) : Bool := 0x20 ≤ c.toNat ∧ c.toNat < 0x7f ∧ c ≠ '"' ∧ c ≠ '\\'

theorem escaped_of_isPlain {c : Char} (hplain : isPlain c = true) : escaped c = [c] := by
  simp only [isPlain, decide_eq_true_eq] at hplain
  obtain ⟨hleast, hgreatest, hquote, hslash⟩ := hplain
  have hcontrol : ∀ d : Char, d.toNat < 0x20 → c ≠ d := by
    rintro d hd rfl
    omega
  have hshown : ¬ (!Text.isPrintable c) = true := by
    simp [Text.isPrintable_of_ascii c hleast hgreatest]
  rw [escaped, if_neg hquote, if_neg hslash, if_neg (hcontrol _ (by decide)),
    if_neg (hcontrol _ (by decide)), if_neg (hcontrol _ (by decide)),
    if_neg (hcontrol _ (by decide)), if_neg hshown]

/-- A text of characters that are shown as they are is also found between quotes. -/
theorem occurs_quoted {needle s : String} (hplain : needle.toList.all isPlain = true)
    (hoccurs : Text.Occurs needle s) : Text.Occurs needle (quoted s) := by
  have hneedle : needle.toList.flatMap escaped = needle.toList := by
    rw [List.flatMap_congr fun c hc => escaped_of_isPlain (List.all_eq_true.mp hplain c hc)]
    exact List.flatMap_singleton' _
  obtain ⟨before, after, hs⟩ := hoccurs
  refine ⟨'"' :: before.flatMap escaped, after.flatMap escaped ++ ['"'], ?_⟩
  rw [quoted, String.toList_ofList, ← hs]
  simp [hneedle]

/-- The text of a fault shows the statement. -/
theorem occurs_text {needle detail sql : String} {offset : Nat}
    (hplain : needle.toList.all isPlain = true) (hoccurs : Text.Occurs needle sql) :
    Text.Occurs needle (Fault.input detail sql offset).text :=
  ((((occurs_quoted hplain hoccurs).append_left _).append_right _).append_right _).append_right _

/-- A statement that cannot be read is not seen as such if it bears a misleading sign. -/
theorem classify_input_ne {sign : String × Category} (hsign : sign ∈ misleadingSigns none)
    {detail sql : String} {offset : Nat} (hoccurs : Text.Occurs sign.1 sql) :
    classify (Fault.input detail sql offset).envelope ≠ .dbOther := by
  have hplain : ∀ sign ∈ misleadingSigns none, sign.1.toList.all isPlain = true := by decide
  intro hother
  have hseen := classify_report none (Fault.input detail sql offset).text
  have hnone := (firstSign_eq_iff (misleads none)).mp (hseen.symm.trans hother)
  exact hnone sign hsign (occurs_text (hplain sign hsign) hoccurs)

/-- A statement that cannot be read says that the database is locked, and is not seen as what it
is. -/
theorem syntax_error_misreported :
    classify (Fault.input "near \"selec\": syntax error" "selec 'kind: Locked'" 0).envelope ≠
      categoryOf none := by
  have hsign : ("kind: Locked", .dbLocked) ∈ misleadingSigns none := by decide
  have hoccurs : Text.Occurs "kind: Locked" "selec 'kind: Locked'" := by decide
  exact classify_input_ne hsign hoccurs

end Fault
end Reference
end EngineLink
