import EngineLink.Proofs.Message.Records

/-!
# Messages read back

Whatever is written is read back exactly, and the bytes after it do not matter.  A record is
written as a layout of its fields, and every layout of them holds them.  The three types that are
no records have one fact of their own, that a message is found in its item.

Main results:

- Theorem {lit}`decode?_encode_append`: a written message is read back from the front of any
  longer bytes, in every type that is {lit}`Faithful`.
- Theorem {lit}`messages_round_trip`: all seventeen types of messages are.
-/

namespace EngineLink

/-- Types whose messages are found in their items, which are not nested too deeply. -/
class Faithful (α : Type) [Wired α] : Prop where
  levels_le : ∀ message : α, (Wired.toItem message).levels ≤ Item.maxDepth
  ofItem?_toItem : ∀ message : α, Wired.ofItem? (Wired.toItem message) = some message

/-! ## From items to bytes -/

/-- A message is written if its size is within the limit, and then in the bytes of its item. -/
theorem encode_eq_ok_iff {α : Type} [Wired α] {message : α} {bytes : Bytes} :
    encode message = .ok bytes ↔
      (Wired.toItem message).writtenSize ≤ maxMessageSize ∧
        bytes = (Wired.toItem message).write := by
  unfold encode encodedSize
  by_cases hlarge : maxMessageSize < (Wired.toItem message).writtenSize
  · simp [hlarge, Except.map, Nat.not_le.mpr hlarge]
  · simp [hlarge, Except.map, Nat.not_lt.mp hlarge, eq_comm]

/-- Every control of transactions can be written. -/
theorem encode_control (kind : Message.RequestKind) :
    encode (Message.DbRequest.control kind) =
      .ok (Wired.toItem (Message.DbRequest.control kind)).write := by
  refine encode_eq_ok_iff.mpr ⟨?_, rfl⟩
  cases kind <;> decide

/-- A message that was written is a form of its item. -/
theorem form_of_encode {α : Type} [Wired α] {message : α} {bytes : Bytes}
    (hencode : encode message = .ok bytes) : (Wired.toItem message).Form bytes := by
  obtain ⟨hsize, rfl⟩ := encode_eq_ok_iff.mp hencode
  exact Item.form_write _ (Nat.lt_of_le_of_lt hsize (by decide))

/-- A written message is read back from the front of any longer bytes. -/
theorem decode?_encode_append {α : Type} [Wired α] [Faithful α] {message : α} {bytes : Bytes}
    (hencode : encode message = .ok bytes) (rest : Bytes) :
    decode? (bytes ++ rest) = some message := by
  obtain ⟨hsize, rfl⟩ := encode_eq_ok_iff.mp hencode
  have hbound : (Wired.toItem message).writtenSize < 2 ^ 32 :=
    Nat.lt_of_le_of_lt hsize (by decide)
  have hread := Item.read_write_append (Faithful.levels_le message) hbound rest
  rw [decode?, hread, Option.bind_some]
  exact Faithful.ofItem?_toItem message

/-- A written message is read back from its bytes. -/
theorem decode_encode {α : Type} [Wired α] [Faithful α] {message : α} {bytes : Bytes}
    (hencode : encode message = .ok bytes) : decode bytes = .ok message := by
  have hread := decode?_encode_append hencode []
  rw [List.append_nil] at hread
  rw [decode, hread]

/-! ## All types -/

/-- A record is found in its item, which is one of the layouts of its fields. -/
instance {α : Type} [Wired α] [RecordType α] [LawfulRecordType α] : Faithful α where
  levels_le m := by
    obtain ⟨entries, hitem, hlayout⟩ := LawfulRecordType.written m
    rw [hitem]
    exact levels_mapLayout_le hlayout
  ofItem?_toItem m := by
    obtain ⟨entries, hitem, hlayout⟩ := LawfulRecordType.written m
    obtain ⟨found, hfields, hholds⟩ :=
      hlayout.holds LawfulRecordType.nodup (LawfulRecordType.names_fields m)
    rw [hitem]
    exact ofItem?_of_holds hfields hholds

instance : Faithful Value where
  levels_le v := Nat.le_trans v.levels_toItem_le (by decide)
  ofItem?_toItem := Value.ofItem?_toItem

namespace Message

instance : Faithful RequestKind where
  levels_le kind := by
    have hkind : (Wired.toItem kind).levels = 0 := kind.levels_toItem
    omega
  ofItem?_toItem := RequestKind.ofItem?_toItem

namespace Progress

/-- Only the name of the state names the state. -/
theorem isState_ofText (name : String) (value : Item) :
    isState (Item.ofText name, value) = decide (name = "state") := by
  simp [isState, Item.ofText, Item.nameBytes?, Item.encode_eq_encode_iff]

theorem levels_toItem_le (m : Progress) : m.toItem.levels ≤ 1 := by
  cases m <;> exact Record.levels_toItem_le (by simp)

/-- A progress is found in its item, under the name of its state. -/
theorem ofItem?_toItem (m : Progress) : ofItem? m.toItem = some m := by
  cases m with
  | idle =>
    have hidle : wireNames.findIdx? (· = "idle") = some 0 := by decide
    simp [toItem, ofItem?, Record.toItem, isState_ofText, Item.key?_ofText, hidle]
  | working stage current total =>
    have hworking : wireNames.findIdx? (· = "working") = some 1 := by decide
    have hknown : Record.known workingKey?
        ([("stage", Item.ofText stage), ("current", Item.ofNat current.toNat),
          ("total", Item.ofNat total.toNat)].map fun f => (Item.ofText f.1, f.2)) =
        some (Record.numbered
          [Item.ofText stage, Item.ofNat current.toNat, Item.ofNat total.toNat]) :=
      Record.known_named (fun _ => rfl) (by decide) (by simp [workingNames])
    simp only [List.map_cons, List.map_nil] at hknown
    simp [toItem, ofItem?, Record.toItem, isState_ofText, Item.key?_ofText, hworking, hknown,
      working?, Record.required]

end Progress

instance : Faithful Progress where
  levels_le m := Nat.le_trans m.levels_toItem_le (by decide)
  ofItem?_toItem := Progress.ofItem?_toItem

end Message

/-! ## All messages -/

/-- Whatever is written of a type is read back exactly, whatever bytes follow. -/
def RoundTrips (α : Type) [Wired α] : Prop :=
  ∀ (message : α) (bytes rest : Bytes),
    encode message = .ok bytes → decode (bytes ++ rest) = .ok message

theorem roundTrips_of_faithful (α : Type) [Wired α] [Faithful α] : RoundTrips α := by
  intro message bytes rest hencode
  rw [decode, decode?_encode_append hencode rest]

/-- Every message that is written is read back exactly, whatever bytes follow it. -/
theorem messages_round_trip :
    RoundTrips Message.Init ∧ RoundTrips Message.RequestKind ∧ RoundTrips Message.DbRequest ∧
      RoundTrips Message.PageRequest ∧ RoundTrips Message.FlushRequest ∧
      RoundTrips Message.PageSizeRequest ∧ RoundTrips Message.ColumnNamesRequest ∧
      RoundTrips Message.OpenCollectionRequest ∧ RoundTrips Message.TranslateRequest ∧
      RoundTrips Message.Empty ∧ RoundTrips Value ∧ RoundTrips Page ∧
      RoundTrips Message.Envelope ∧ RoundTrips Message.IntegerValue ∧
      RoundTrips Message.TextValue ∧ RoundTrips Message.TextList ∧
      RoundTrips Message.Progress := by
  refine ⟨?_, ?_, ?_, ?_, ?_, ?_, ?_, ?_, ?_, ?_, ?_, ?_, ?_, ?_, ?_, ?_, ?_⟩ <;>
    exact roundTrips_of_faithful _

/-- A page that shows a double without a number keeps its bits, also before a byte that no item
begins with. -/
theorem page_with_nan_round_trip :
    encode (Page.mk 1 128 (-129) [[.real ⟨0x7ff8000000000001⟩]]) =
        .ok (Page.mk 1 128 (-129) [[.real ⟨0x7ff8000000000001⟩]]).toItem.write ∧
      decode ((Page.mk 1 128 (-129) [[.real ⟨0x7ff8000000000001⟩]]).toItem.write ++ [0xc1]) =
        .ok (Page.mk 1 128 (-129) [[.real ⟨0x7ff8000000000001⟩]]) := by
  have hencode : encode (Page.mk 1 128 (-129) [[.real ⟨0x7ff8000000000001⟩]]) =
      .ok (Page.mk 1 128 (-129) [[.real ⟨0x7ff8000000000001⟩]]).toItem.write :=
    encode_eq_ok_iff.mpr ⟨by decide, rfl⟩
  obtain ⟨_, _, _, _, _, _, _, _, _, _, _, hpage, _⟩ := messages_round_trip
  exact ⟨hencode, hpage _ _ _ hencode⟩

end EngineLink
