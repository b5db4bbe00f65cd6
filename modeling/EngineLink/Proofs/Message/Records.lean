import EngineLink.Message.Codec
import EngineLink.Proofs.Wire.Layouts
import Mathlib.Algebra.Group.Int.Defs
import Mathlib.Algebra.Group.Nat.Defs

/-!
# Messages that are records

Fourteen types of messages are records.  Each of them has its fields, and is written as a layout
of these and read from any fields that a layout holds.  The values in the fields are numbers and
texts, and the values of rows, the kinds of requests and named texts, which are found in their
items.

Main results:

- Theorems {lit}`Value.ofItem?_toItem`, {lit}`TextMap.ofItem?_toItem` and
  {lit}`Message.RequestKind.ofItem?_toItem`: what is found in the items of the fields.
- Class {lit}`LawfulRecordType` and its instances: the fourteen types.
- Theorem {lit}`ofItem?_of_holds`: a message is read from any item that holds its fields.
- Theorem {lit}`levels_mapLayout_le`: no layout of a message is nested too deeply.
-/

namespace EngineLink

/-! ## Values of fields -/

namespace Value

theorem levels_toItem_le (v : Value) : v.toItem.levels ≤ 1 := by
  cases v <;> simp [toItem, Record.toItem, Item.levels, Item.levelsEntries]

/-- A value is found in its item, under the name of its storage class. -/
@[simp]
theorem ofItem?_toItem (v : Value) : ofItem? v.toItem = some v := by
  cases v with
  | null =>
    have hname : wireNames.findIdx? (· = "null") = some 0 := by decide
    simp [toItem, ofItem?, Choice.select_ofText, hname, Choice.isBare]
  | integer v =>
    have hname : wireNames.findIdx? (· = "long") = some 1 := by decide
    simp [toItem, ofItem?, Choice.select_toItem, hname]
  | real v =>
    have hname : wireNames.findIdx? (· = "double") = some 2 := by decide
    simp [toItem, ofItem?, Choice.select_toItem, hname, Item.real?]
  | text s =>
    have hname : wireNames.findIdx? (· = "string") = some 3 := by decide
    simp [toItem, ofItem?, Choice.select_toItem, hname]
  | blob bytes =>
    have hname : wireNames.findIdx? (· = "blob") = some 4 := by decide
    simp [toItem, ofItem?, Choice.select_toItem, hname, Item.blob?]

end Value

namespace TextMap

/-- A text under a name greater than all others comes last. -/
theorem insert_eq_append {name text : String} {entries : List (String × String)}
    (hgreatest : ∀ e ∈ entries, e.1 < name) :
    Entries.insert name text entries = entries ++ [(name, text)] := by
  induction entries with
  | nil => rfl
  | cons e entries ih =>
    have hfirst : e.1 < name := hgreatest e List.mem_cons_self
    have hothers := ih fun e' he' => hgreatest e' (List.mem_cons_of_mem _ he')
    simp [Entries.insert, String.lt_asymm hfirst, hfirst, hothers]

/-- Entries in order are put one after the other. -/
theorem entries_foldl_insert (m : TextMap) (rest : List (String × String))
    (hordered : (m.entries ++ rest).Pairwise fun a b => a.1 < b.1) :
    (rest.foldl (fun m e => m.insert e.1 e.2) m).entries = m.entries ++ rest := by
  induction rest generalizing m with
  | nil => simp
  | cons e rest ih =>
    have hgreatest : ∀ e' ∈ m.entries, e'.1 < e.1 := fun e' he' =>
      (List.pairwise_append.mp hordered).2.2 e' he' e List.mem_cons_self
    have hentries : (m.insert e.1 e.2).entries = m.entries ++ [e] := insert_eq_append hgreatest
    rw [List.foldl_cons, ih (m.insert e.1 e.2) (by simpa [hentries] using hordered), hentries]
    simp

/-- Named texts are equal when their entries are. -/
theorem eq_of_entries {a b : TextMap} (hentries : a.entries = b.entries) : a = b := by
  cases a
  cases b
  cases hentries
  rfl

/-- Named texts are made of their own entries. -/
theorem ofList_entries (m : TextMap) : ofList m.entries = m := by
  apply eq_of_entries
  exact entries_foldl_insert empty m.entries m.ordered

theorem levels_toItem_le (m : TextMap) : m.toItem.levels ≤ 1 := by
  apply Item.levels_map_le
  intro e he
  obtain ⟨entry, _, rfl⟩ := List.mem_map.mp he
  simp

/-- A name is found with its text. -/
theorem entry?_ofText (e : String × String) :
    entry? (Item.ofText e.1, Item.ofText e.2) = some e := by
  unfold entry?
  simp

/-- Named texts are found in their item. -/
@[simp]
theorem ofItem?_toItem (m : TextMap) : ofItem? m.toItem = some m := by
  have hentries : (m.entries.map fun e => (Item.ofText e.1, Item.ofText e.2)).mapM entry? =
      some m.entries := Item.mapM_map_eq_some entry?_ofText m.entries
  simp [ofItem?, toItem, hentries, ofList_entries]

end TextMap

namespace Message

namespace RequestKind

theorem levels_toItem (kind : RequestKind) : kind.toItem.levels = 0 := by
  cases kind <;> rfl

@[simp]
theorem ofItem?_toItem (kind : RequestKind) : ofItem? kind.toItem = some kind := by
  cases kind with
  | query =>
    have hname : wireNames.findIdx? (· = "query") = some 0 := by decide
    simp [toItem, ofItem?, Choice.select_ofText, hname, Choice.isBare]
  | begin =>
    have hname : wireNames.findIdx? (· = "begin") = some 1 := by decide
    simp [toItem, ofItem?, Choice.select_ofText, hname, Choice.isBare]
  | commit =>
    have hname : wireNames.findIdx? (· = "commit") = some 2 := by decide
    simp [toItem, ofItem?, Choice.select_ofText, hname, Choice.isBare]
  | rollback =>
    have hname : wireNames.findIdx? (· = "rollback") = some 3 := by decide
    simp [toItem, ofItem?, Choice.select_ofText, hname, Choice.isBare]

end RequestKind

end Message

/-! ## Types of records -/

/-- Types of messages that are records. -/
class RecordType (α : Type) where
  /-- The names of the fields, in their order. -/
  names : List String
  /-- The fields of a message.  One that has its default may be left out. -/
  fields : α → List Record.Field

/-- Types of records whose messages are written as a layout of their fields and read from any
fields that a layout holds. -/
class LawfulRecordType (α : Type) [Wired α] [RecordType α] : Prop where
  nodup : (RecordType.names α).Nodup
  names_fields : ∀ m : α, (RecordType.fields m).map Record.Field.name = RecordType.names α
  levels_lt : ∀ m : α, ∀ f ∈ RecordType.fields m, f.item.levels < Item.maxDepth
  written : ∀ m : α, ∃ entries, Wired.toItem m = .map entries ∧
    Record.MapLayout (RecordType.fields m) entries
  reads : ∃ ofFields? : List (Nat × Item) → Option α,
    (∀ item, Wired.ofItem? item = (Record.fields (RecordType.names α) item).bind ofFields?) ∧
      ∀ m found, Record.Holds (RecordType.fields m) found → ofFields? found = some m

/-- The type of records with one field, which must be there. -/
@[reducible] def RecordType.single {α : Type} (name : String) (item : α → Item) :
    RecordType α where
  names := [name]
  fields m := [⟨name, item m, False⟩]

theorem LawfulRecordType.single {α β : Type} [Wired α] {name : String} {item : α → Item}
    {get : α → β} (read : Item → Option β) (make : β → α)
    (hwritten : ∀ m, Wired.toItem m = .map [(Item.ofText name, item m)])
    (hofItem? : ∀ i, Wired.ofItem? i =
      (Record.fields [name] i).bind fun found => (Record.required read 0 found).bind (some ∘ make))
    (hread : ∀ m, read (item m) = some (get m)) (hmake : ∀ m, make (get m) = m)
    (hlevels : ∀ m, (item m).levels ≤ 1) :
    @LawfulRecordType α _ (.single name item) := by
  let _ : RecordType α := .single name item
  exact {
    nodup := List.nodup_singleton name
    names_fields _ := rfl
    levels_lt m f hf := by
      rw [List.mem_singleton.mp hf]
      exact Nat.lt_of_le_of_lt (hlevels m) (by decide)
    written m := ⟨_, hwritten m, .all _⟩
    reads := by
      refine ⟨_, hofItem?, fun m found hholds => ?_⟩
      have hfield : Record.required read 0 found = some (get m) :=
        hholds.required rfl id (hread m)
      rw [hfield, Option.bind_some, Function.comp_apply, hmake] }

/-! ## The fields of the messages -/

namespace Message

instance : RecordType Init := .single "preferred_langs" fun m => .array (m.languages.map .ofText)

instance : RecordType DbRequest where
  names := ["kind", "sql", "args", "first_row_only"]
  fields m :=
    [⟨"kind", m.kind.toItem, False⟩, ⟨"sql", .ofText m.sql, m.sql = ""⟩,
      ⟨"args", .array (m.args.map Value.toItem), m.args = []⟩,
      ⟨"first_row_only", .bool m.firstRowOnly, m.firstRowOnly = false⟩]

instance : RecordType PageRequest where
  names := ["sequence_number", "start_index"]
  fields m :=
    [⟨"sequence_number", .ofInt m.sequence.toInt, False⟩,
      ⟨"start_index", .ofInt m.start.toInt, False⟩]

instance : RecordType FlushRequest := .single "sequence_number" fun m => .ofInt m.sequence.toInt

instance : RecordType PageSizeRequest := .single "page_size_bytes" fun m => .ofNat m.bytes.toNat

instance : RecordType ColumnNamesRequest := .single "sql" fun m => .ofText m.sql

instance : RecordType OpenCollectionRequest := .single "collection_path" fun m => .ofText m.path

instance : RecordType TranslateRequest where
  names := ["module_index", "message_index", "args"]
  fields m :=
    [⟨"module_index", .ofNat m.moduleIndex.toNat, False⟩,
      ⟨"message_index", .ofNat m.messageIndex.toNat, False⟩,
      ⟨"args", m.args.toItem, m.args = TextMap.empty⟩]

instance : RecordType Empty where
  names := []
  fields _ := []

/-- The item of a help page that may be absent. -/
def Envelope.helpItem : Option String → Item
  | some page => .ofText page
  | none => .nil

instance : RecordType Envelope where
  names := ["kind", "message", "help_page"]
  fields m :=
    [⟨"kind", .ofInt m.kind.toInt, False⟩, ⟨"message", .ofText m.message, m.message = ""⟩,
      ⟨"help_page", Envelope.helpItem m.help, m.help = none⟩]

instance : RecordType IntegerValue := .single "val" fun m => .ofInt m.val.toInt

instance : RecordType TextValue := .single "val" fun m => .ofText m.val

instance : RecordType TextList := .single "vals" fun m => .array (m.vals.map .ofText)

end Message

instance : RecordType Page where
  names := ["sequence_number", "start_index", "row_count", "rows"]
  fields p :=
    [⟨"sequence_number", .ofInt p.sequence.toInt, False⟩,
      ⟨"start_index", .ofInt p.start.toInt, False⟩, ⟨"row_count", .ofInt p.total.toInt, False⟩,
      ⟨"rows", .array (p.rows.map fun row => .array (row.map Value.toItem)), False⟩]

/-! ## Reading them -/

namespace Message

instance : LawfulRecordType Init :=
  .single (Item.list? Item.text?) Init.mk (fun _ => rfl) (fun _ => rfl)
    (fun _ => Item.list?_array_map Item.text?_ofText _) (fun _ => rfl)
    (fun m => Item.levels_array_map_le (by simp) m.languages)

instance : LawfulRecordType DbRequest where
  nodup := by decide
  names_fields _ := rfl
  levels_lt m := by
    have hargs := Item.levels_array_map_le Value.levels_toItem_le m.args
    have hkind := m.kind.levels_toItem
    simp [RecordType.fields, Item.maxDepth, Item.levels, hkind] at hargs ⊢
    omega
  written _ := ⟨_, rfl, .all _⟩
  reads := by
    refine ⟨_, fun _ => rfl, fun m found hholds => ?_⟩
    have hkind : Record.required RequestKind.ofItem? 0 found = some m.kind :=
      hholds.required rfl id m.kind.ofItem?_toItem
    have hsql : Record.defaulted Item.text? "" 1 found = some m.sql :=
      hholds.defaulted rfl (Item.text?_ofText _) id
    have hargs : Record.defaulted (Item.list? Value.ofItem?) [] 2 found = some m.args :=
      hholds.defaulted rfl (Item.list?_array_map Value.ofItem?_toItem _) id
    have hfirst : Record.defaulted Item.bool? false 3 found = some m.firstRowOnly :=
      hholds.defaulted rfl rfl id
    simp [hkind, hsql, hargs, hfirst]

instance : LawfulRecordType PageRequest where
  nodup := by decide
  names_fields _ := rfl
  levels_lt _ := by simp [RecordType.fields, Item.maxDepth]
  written _ := ⟨_, rfl, .all _⟩
  reads := by
    refine ⟨_, fun _ => rfl, fun m found hholds => ?_⟩
    have hsequence : Record.required Item.int32? 0 found = some m.sequence :=
      hholds.required rfl id (Item.int32?_ofInt _)
    have hstart : Record.required Item.int64? 1 found = some m.start :=
      hholds.required rfl id (Item.int64?_ofInt _)
    simp [hsequence, hstart]

instance : LawfulRecordType FlushRequest :=
  .single Item.int32? FlushRequest.mk (fun _ => rfl) (fun _ => rfl) (fun _ => Item.int32?_ofInt _)
    (fun _ => rfl) (fun _ => by simp)

instance : LawfulRecordType PageSizeRequest :=
  .single Item.uint64? PageSizeRequest.mk (fun _ => rfl) (fun _ => rfl)
    (fun _ => Item.uint64?_ofNat _) (fun _ => rfl) (fun _ => by simp)

instance : LawfulRecordType ColumnNamesRequest :=
  .single Item.text? ColumnNamesRequest.mk (fun _ => rfl) (fun _ => rfl)
    (fun _ => Item.text?_ofText _) (fun _ => rfl) (fun _ => by simp)

instance : LawfulRecordType OpenCollectionRequest :=
  .single Item.text? OpenCollectionRequest.mk (fun _ => rfl) (fun _ => rfl)
    (fun _ => Item.text?_ofText _) (fun _ => rfl) (fun _ => by simp)

instance : LawfulRecordType TranslateRequest where
  nodup := by decide
  names_fields _ := rfl
  levels_lt m := by
    have hargs := m.args.levels_toItem_le
    simp [RecordType.fields, Item.maxDepth]
    omega
  written _ := ⟨_, rfl, .all _⟩
  reads := by
    refine ⟨_, fun _ => rfl, fun m found hholds => ?_⟩
    have hmodule : Record.required Item.uint32? 0 found = some m.moduleIndex :=
      hholds.required rfl id (Item.uint32?_ofNat _)
    have hmessage : Record.required Item.uint32? 1 found = some m.messageIndex :=
      hholds.required rfl id (Item.uint32?_ofNat _)
    have hargs : Record.defaulted TextMap.ofItem? TextMap.empty 2 found = some m.args :=
      hholds.defaulted rfl m.args.ofItem?_toItem id
    simp [hmodule, hmessage, hargs]

instance : LawfulRecordType Empty where
  nodup := by decide
  names_fields _ := rfl
  levels_lt _ := by simp [RecordType.fields]
  written _ := ⟨_, rfl, .all _⟩
  reads := by
    refine ⟨fun _ => some {}, fun item => ?_, fun _ _ _ => rfl⟩
    exact Option.map_eq_bind

namespace Envelope

theorem optional?_helpItem (help : Option String) :
    Item.optional? Item.text? (helpItem help) = some help := by
  cases help with
  | none => rfl
  | some page => simp [helpItem, Item.ofText, Item.optional?, Item.text?]

/-- An envelope is written without an absent help page. -/
theorem layout_toItem (m : Envelope) :
    ∃ entries, m.toItem = .map entries ∧ Record.MapLayout (RecordType.fields m) entries := by
  obtain ⟨kind, message, help⟩ := m
  cases help with
  | some page => exact ⟨_, rfl, .all _⟩
  | none =>
    refine ⟨_, rfl, .intro (fun name => name ≠ "help_page") [] ?_ ?_ ?_⟩
    · simp [RecordType.fields]
    · simp
    · simp [RecordType.fields, Record.Field.entry]

end Envelope

instance : LawfulRecordType Envelope where
  nodup := by decide
  names_fields _ := rfl
  levels_lt m := by
    have hhelp : (Envelope.helpItem m.help).levels = 0 := by cases m.help <;> rfl
    simp [RecordType.fields, Item.maxDepth, hhelp]
  written m := m.layout_toItem
  reads := by
    refine ⟨_, fun _ => rfl, fun m found hholds => ?_⟩
    have hkind : Record.required Item.int32? 0 found = some m.kind :=
      hholds.required rfl id (Item.int32?_ofInt _)
    have hmessage : Record.defaulted Item.text? "" 1 found = some m.message :=
      hholds.defaulted rfl (Item.text?_ofText _) id
    have hhelp : Record.defaulted (Item.optional? Item.text?) none 2 found = some m.help :=
      hholds.defaulted rfl (Envelope.optional?_helpItem _) id
    simp [hkind, hmessage, hhelp]

instance : LawfulRecordType IntegerValue :=
  .single Item.int64? IntegerValue.mk (fun _ => rfl) (fun _ => rfl) (fun _ => Item.int64?_ofInt _)
    (fun _ => rfl) (fun _ => by simp)

instance : LawfulRecordType TextValue :=
  .single Item.text? TextValue.mk (fun _ => rfl) (fun _ => rfl) (fun _ => Item.text?_ofText _)
    (fun _ => rfl) (fun _ => by simp)

instance : LawfulRecordType TextList :=
  .single (Item.list? Item.text?) TextList.mk (fun _ => rfl) (fun _ => rfl)
    (fun _ => Item.list?_array_map Item.text?_ofText _) (fun _ => rfl)
    (fun m => Item.levels_array_map_le (by simp) m.vals)

end Message

instance : LawfulRecordType Page where
  nodup := by decide
  names_fields _ := rfl
  levels_lt p := by
    have hrows : (Item.array (p.rows.map fun row => .array (row.map Value.toItem))).levels ≤ 3 :=
      Item.levels_array_map_le (Item.levels_array_map_le Value.levels_toItem_le) p.rows
    simp [RecordType.fields, Item.maxDepth]
    omega
  written _ := ⟨_, rfl, .all _⟩
  reads := by
    refine ⟨_, fun _ => rfl, fun p found hholds => ?_⟩
    have hsequence : Record.required Item.int32? 0 found = some p.sequence :=
      hholds.required rfl id (Item.int32?_ofInt _)
    have hstart : Record.required Item.int64? 1 found = some p.start :=
      hholds.required rfl id (Item.int64?_ofInt _)
    have htotal : Record.required Item.int64? 2 found = some p.total :=
      hholds.required rfl id (Item.int64?_ofInt _)
    have hrows : Record.required (Item.list? (Item.list? Value.ofItem?)) 3 found = some p.rows :=
      hholds.required rfl id
        (Item.list?_array_map (Item.list?_array_map Value.ofItem?_toItem) _)
    simp [hsequence, hstart, htotal, hrows]

/-! ## Items of layouts -/

section Lawful

variable {α : Type} [Wired α] [RecordType α] [LawfulRecordType α]

/-- A message is read from any item that holds its fields. -/
theorem ofItem?_of_holds {m : α} {item : Item} {found : List (Nat × Item)}
    (hfields : Record.fields (RecordType.names α) item = some found)
    (hholds : Record.Holds (RecordType.fields m) found) : Wired.ofItem? item = some m := by
  obtain ⟨ofFields?, hofItem?, hreads⟩ := LawfulRecordType.reads (α := α)
  rw [hofItem?, hfields, Option.bind_some, hreads m found hholds]

/-- No layout of a message is nested too deeply. -/
theorem levels_mapLayout_le {m : α} {entries : List (Item × Item)}
    (hlayout : Record.MapLayout (RecordType.fields m) entries) :
    (Item.map entries).levels ≤ Item.maxDepth := by
  obtain ⟨sent, extras, _, hextras, horder⟩ := hlayout
  refine Nat.succ_le_succ (Item.levelsEntries_le_iff.mpr fun e he => ?_)
  rcases List.mem_append.mp (horder.mem_iff.mp he) with hfield | hextra
  · obtain ⟨f, hf, rfl⟩ := List.mem_map.mp hfield
    have hlevels := LawfulRecordType.levels_lt m f (List.mem_of_mem_filter hf)
    exact ⟨Nat.zero_le _, Nat.le_of_lt_succ hlevels⟩
  · obtain ⟨key, value, _, hvalue⟩ := hextras e hextra
    exact ⟨Nat.zero_le _, Nat.le_trans (Nat.le_of_lt hvalue) (by decide)⟩

end Lawful

end EngineLink
