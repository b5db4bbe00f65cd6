import EngineLink.Proofs.Message.RoundTrip

/-!
# Messages in every layout

Fourteen types of messages are records.  A message of such a type is found in every layout of its
fields and in every form of that layout, and its own bytes are one of these forms.  No message is
found in a map that repeats the name of a field.

Main results:

- Theorem {lit}`anyLayout`: this holds of every type whose fields are read one by one, a field that
  is left out as its default.
- Theorem {lit}`records_decode_in_any_layout`: all fourteen types are such.
-/

namespace EngineLink

/-- The message in a form of an item is the one in the item, unless that is nested too deeply. -/
theorem decode?_form {α : Type} [Wired α] {item : Item} {bytes : Bytes} (hform : item.Form bytes) :
    (decode? bytes : Option α) =
      if item.levels ≤ Item.maxDepth then Wired.ofItem? item else none := by
  split
  · rename_i hlevels
    have hread := hform.read_append hlevels []
    rw [List.append_nil] at hread
    rw [decode?, hread, Option.bind_some]
  · rename_i hlevels
    rw [decode?, hform.read_eq_none (Nat.not_le.mp hlevels), Option.bind_none]

section Lawful

variable {α : Type} [Wired α] [RecordType α] [LawfulRecordType α]

/-- A message is decoded from any form of an item that holds its fields. -/
theorem decode_of_holds {m : α} {item : Item} {bytes : Bytes} (hform : item.Form bytes)
    (hlevels : item.levels ≤ Item.maxDepth)
    (hholds : ∃ found, Record.fields (RecordType.names α) item = some found ∧
      Record.Holds (RecordType.fields m) found) : decode bytes = .ok m := by
  obtain ⟨found, hfields, hholds⟩ := hholds
  rw [decode, decode?_form hform, if_pos hlevels, ofItem?_of_holds hfields hholds]

theorem levels_arrayLayout_le {m : α} {items : List Item}
    (hlayout : Record.ArrayLayout (RecordType.fields m) items) :
    (Item.array items).levels ≤ Item.maxDepth := by
  obtain ⟨count, _⟩ := hlayout
  refine Nat.succ_le_succ (Item.levelsAll_le_iff.mpr fun item hitem => ?_)
  obtain ⟨f, hf, rfl⟩ := List.mem_map.mp hitem
  exact Nat.le_of_lt_succ (LawfulRecordType.levels_lt m f (List.mem_of_mem_take hf))

end Lawful

/-- The messages of a type are decoded from every form of every layout of their fields, of which
their own bytes are one.  Nothing is decoded from a map that repeats the name of a field. -/
structure AnyLayout (α : Type) [Wired α] [RecordType α] : Prop where
  written : ∀ (m : α) (bytes : Bytes), encode m = .ok bytes →
    ∃ entries, Record.MapLayout (RecordType.fields m) entries ∧ (Item.map entries).Form bytes
  named : ∀ (m : α) (entries : List (Item × Item)) (bytes : Bytes),
    Record.MapLayout (RecordType.fields m) entries → (Item.map entries).Form bytes →
      decode bytes = .ok m
  listed : ∀ (m : α) (items : List Item) (bytes : Bytes),
    Record.ArrayLayout (RecordType.fields m) items → (Item.array items).Form bytes →
      decode bytes = .ok m
  repeated : ∀ name ∈ RecordType.names α, ∀ (first second : Item) (entries : List (Item × Item))
    (bytes : Bytes), [(Item.ofText name, first), (Item.ofText name, second)].Sublist entries →
      (Item.map entries).Form bytes → (decode bytes : Except CodecFault α) = .error .undecodable

/-- Records are decoded the same in any layout. -/
theorem anyLayout (α : Type) [Wired α] [RecordType α] [LawfulRecordType α] : AnyLayout α where
  written m bytes hencode := by
    obtain ⟨entries, hitem, hlayout⟩ := LawfulRecordType.written m
    have hform := form_of_encode hencode
    rw [hitem] at hform
    exact ⟨entries, hlayout, hform⟩
  named m entries bytes hlayout hform :=
    decode_of_holds hform (levels_mapLayout_le hlayout)
      (hlayout.holds LawfulRecordType.nodup (LawfulRecordType.names_fields m))
  listed m items bytes hlayout hform :=
    decode_of_holds hform (levels_arrayLayout_le hlayout)
      (hlayout.holds (LawfulRecordType.names_fields m))
  repeated name hname first second entries bytes htwice hform := by
    obtain ⟨ofFields?, hofItem?, _⟩ := LawfulRecordType.reads (α := α)
    have hnone := Record.fields_of_repeated LawfulRecordType.nodup hname htwice
    rw [decode, decode?_form hform, hofItem?, hnone, Option.bind_none, ite_self]

/-- Every record message is decoded the same in any layout of its fields, and never from a map that
repeats the name of a field. -/
theorem records_decode_in_any_layout :
    AnyLayout Message.Init ∧ AnyLayout Message.DbRequest ∧ AnyLayout Message.PageRequest ∧
      AnyLayout Message.FlushRequest ∧ AnyLayout Message.PageSizeRequest ∧
      AnyLayout Message.ColumnNamesRequest ∧ AnyLayout Message.OpenCollectionRequest ∧
      AnyLayout Message.TranslateRequest ∧ AnyLayout Message.Empty ∧ AnyLayout Page ∧
      AnyLayout Message.Envelope ∧ AnyLayout Message.IntegerValue ∧
      AnyLayout Message.TextValue ∧ AnyLayout Message.TextList := by
  refine ⟨?_, ?_, ?_, ?_, ?_, ?_, ?_, ?_, ?_, ?_, ?_, ?_, ?_, ?_⟩ <;> exact anyLayout _

/-- An envelope whose only field comes after an entry of another name, under a map head and a text
head that are longer than needed. -/
theorem envelope_after_unknown_entry :
    (Item.map [(.str [0x78], .array [.nil]), (.ofText "kind", .u8 5)]).Form
        [0xde, 0x00, 0x02, 0xa1, 0x78, 0x91, 0xc0, 0xd9, 0x04, 0x6b, 0x69, 0x6e, 0x64, 0x05] ∧
      decode [0xde, 0x00, 0x02, 0xa1, 0x78, 0x91, 0xc0, 0xd9, 0x04, 0x6b, 0x69, 0x6e, 0x64, 0x05] =
        .ok (Message.Envelope.mk 5 "" none) := by
  have hunknown : Wire.Pair Item.Form Item.Form (.str [0x78], .array [.nil])
      ([0xa1, 0x78] ++ [0x91, 0xc0]) := by
    have hkey : (Item.str [0x78]).Form ([0xa1] ++ [0x78]) := .str (.short (by decide))
    have hvalue : (Item.array [.nil]).Form ([0x91] ++ [0xc0]) :=
      .array (.short (by decide)) (.cons Item.Form.nil .nil)
    exact .intro hkey hvalue
  have hkind : Wire.Pair Item.Form Item.Form (.ofText "kind", .u8 5)
      ([0xd9, 0x04, 0x6b, 0x69, 0x6e, 0x64] ++ [0x05]) := by
    have hhead : Wire.strHeads.Announces 4 [0xd9, 0x04] :=
      .marked (by decide : (0xd9, 1) ∈ Wire.strHeads.marked) (by decide)
    have hkey : (Item.ofText "kind").Form ([0xd9, 0x04] ++ Utf8.encode "kind") := .str hhead
    exact .intro hkey (.small (by decide))
  have hform : (Item.map [(.str [0x78], .array [.nil]), (.ofText "kind", .u8 5)]).Form
      ([0xde, 0x00, 0x02] ++
        [0xa1, 0x78, 0x91, 0xc0, 0xd9, 0x04, 0x6b, 0x69, 0x6e, 0x64, 0x05]) := by
    have hentries := Wire.Series.cons hunknown (.cons hkind .nil)
    have hhead : Wire.mapHeads.Announces 2 [0xde, 0x00, 0x02] :=
      .marked (by decide : (0xde, 2) ∈ Wire.mapHeads.marked) (by decide)
    exact .map hhead hentries
  have hlayout : Record.MapLayout (RecordType.fields (Message.Envelope.mk 5 "" none))
      [(.str [0x78], .array [.nil]), (.ofText "kind", .u8 5)] := by
    refine .intro (fun name => name = "kind") [(.str [0x78], .array [.nil])] ?_ ?_ ?_
    · simp [RecordType.fields]
    · rw [List.forall_mem_singleton]
      exact .intro [0x78] (.array [.nil]) (by decide) (by decide)
    · exact .swap _ _ []
  obtain ⟨_, _, _, _, _, _, _, _, _, _, henvelope, _⟩ := records_decode_in_any_layout
  exact ⟨hform, henvelope.named _ _ _ hlayout hform⟩

end EngineLink
