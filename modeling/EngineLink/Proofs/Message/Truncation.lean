import EngineLink.Engine.Basic
import EngineLink.Proofs.Message.RoundTrip

/-!
# Messages cut short

The reader takes a whole form or nothing, and no form begins with another one.  So whatever is
missing at the end of a message, no message is found in the rest: not even one in which the
missing fields have their defaults.

Main results:

- Theorem {lit}`Item.Form.read_cut`: nothing is read from a part of a form that lacks its end.
- Theorem {lit}`cut_messages_are_refused`: no message of any type is found in a part of its bytes,
  and part of an envelope makes the reply malformed.
-/

namespace EngineLink

/-- The front of some bytes, without all of them. -/
def IsCut (cut bytes : Bytes) : Prop := cut <+: bytes ∧ cut ≠ bytes

/-- Nothing is read from a form that lacks its end. -/
theorem Item.Form.read_cut {item : Item} {bytes cut : Bytes} (hform : Form item bytes)
    (hcut : IsCut cut bytes) (depth : Nat) : Item.read depth cut = none := by
  obtain ⟨⟨missing, rfl⟩, hne⟩ := hcut
  rw [Option.eq_none_iff_forall_ne_some]
  rintro ⟨found, rest⟩ hread
  -- what was read is a form that the whole form begins with, so it is the whole form
  obtain ⟨front, hfound, _, rfl⟩ := Item.read_eq_some_iff.mp hread
  have hbytes : (front ++ rest ++ missing) ++ [] = front ++ (rest ++ missing) := by simp
  have hrest := (hform.eq_of_append hfound hbytes).2
  have hmissing : missing = [] := (List.append_eq_nil_iff.mp hrest.symm).2
  exact hne (by rw [hmissing, List.append_nil])

/-- No message is found in a part of another one, of whatever type. -/
theorem decode?_cut {α β : Type} [Wired α] [Wired β] {message : α} {bytes cut : Bytes}
    (hencode : encode message = .ok bytes) (hcut : IsCut cut bytes) :
    (decode? cut : Option β) = none := by
  rw [decode?, (form_of_encode hencode).read_cut hcut, Option.bind_none]

/-- No message of a type is found in a part of its bytes. -/
def RefusesCuts (α : Type) [Wired α] : Prop :=
  ∀ (message : α) (bytes cut : Bytes), encode message = .ok bytes → IsCut cut bytes →
    (decode cut : Except CodecFault α) = .error .undecodable

theorem refusesCuts (α : Type) [Wired α] : RefusesCuts α := by
  intro message bytes cut hencode hcut
  rw [decode, decode?_cut hencode hcut]

/-- No message is found in a part of its bytes, and a reply with a part of an envelope is
malformed. -/
theorem cut_messages_are_refused :
    (RefusesCuts Message.Init ∧ RefusesCuts Message.RequestKind ∧ RefusesCuts Message.DbRequest ∧
      RefusesCuts Message.PageRequest ∧ RefusesCuts Message.FlushRequest ∧
      RefusesCuts Message.PageSizeRequest ∧ RefusesCuts Message.ColumnNamesRequest ∧
      RefusesCuts Message.OpenCollectionRequest ∧ RefusesCuts Message.TranslateRequest ∧
      RefusesCuts Message.Empty ∧ RefusesCuts Value ∧ RefusesCuts Page ∧
      RefusesCuts Message.Envelope ∧ RefusesCuts Message.IntegerValue ∧
      RefusesCuts Message.TextValue ∧ RefusesCuts Message.TextList ∧
      RefusesCuts Message.Progress) ∧
    ∀ (envelope : Message.Envelope) (bytes cut : Bytes), encode envelope = .ok bytes →
      IsCut cut bytes →
        Outcome.ofReply (some ⟨none, some cut⟩) = .error .undecodableEnvelope := by
  constructor
  · refine ⟨?_, ?_, ?_, ?_, ?_, ?_, ?_, ?_, ?_, ?_, ?_, ?_, ?_, ?_, ?_, ?_, ?_⟩ <;>
      exact refusesCuts _
  · intro envelope bytes cut hencode hcut
    rw [Outcome.ofReply, decode?_cut hencode hcut]

/-- An envelope without the last byte, which is all that is written of its empty message, is
refused although messages have a default. -/
theorem envelope_without_last_byte :
    IsCut [0x82, 0xa4, 0x6b, 0x69, 0x6e, 0x64, 0x02, 0xa7, 0x6d, 0x65, 0x73, 0x73, 0x61, 0x67, 0x65]
        (Message.Envelope.toItem ⟨2, "", none⟩).write ∧
      (decode [0x82, 0xa4, 0x6b, 0x69, 0x6e, 0x64, 0x02, 0xa7, 0x6d, 0x65, 0x73, 0x73, 0x61, 0x67,
        0x65] : Except CodecFault Message.Envelope) = .error .undecodable := by
  have hencode : encode (Message.Envelope.mk 2 "" none) =
      .ok (Message.Envelope.toItem ⟨2, "", none⟩).write :=
    encode_eq_ok_iff.mpr ⟨by decide, rfl⟩
  have hcut : IsCut [0x82, 0xa4, 0x6b, 0x69, 0x6e, 0x64, 0x02, 0xa7, 0x6d, 0x65, 0x73, 0x73, 0x61,
      0x67, 0x65] (Message.Envelope.toItem ⟨2, "", none⟩).write := by
    refine ⟨⟨[0xa0], ?_⟩, ?_⟩ <;> decide
  obtain ⟨⟨_, _, _, _, _, _, _, _, _, _, _, _, hrefuses, _⟩, _⟩ := cut_messages_are_refused
  exact ⟨hcut, hrefuses _ _ _ hencode hcut⟩

end EngineLink
