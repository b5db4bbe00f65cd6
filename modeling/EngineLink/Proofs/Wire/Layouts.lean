import EngineLink.Proofs.Wire.Fields
import Mathlib.Data.List.Nodup

/-!
# Layouts of a record

A record can be sent as a map with its fields in any order and with entries of other names
anywhere among them, or as an array of its fields in their own order.  A field that may be left
out can be missing from the map, or from the end of the array.  Whichever of these layouts it
comes in, the same fields are found in it, and a map in which a name is repeated has none.

Main results:

- Theorem {lit}`Record.known_eq_some_iff`: which fields are known from a map.
- Theorems {lit}`Record.MapLayout.holds` and {lit}`Record.ArrayLayout.holds`: every layout of a
  record holds its fields.
- Theorem {lit}`Record.fields_of_repeated`: a map with a repeated name holds no fields.
-/

namespace EngineLink
namespace Record

/-- A field of a record: its name, its item, and whether it may be left out. -/
structure Field where
  name : String
  item : Item
  optional : Prop

/-- The entry of a field in a map. -/
def Field.entry (f : Field) : Item × Item := (Item.ofText f.name, f.item)

/-- An entry whose key is a text but none of the names, with a value that is nested in less than
a thousand levels. -/
inductive IsExtra (names : List String) : Item × Item → Prop
  | intro (key : Bytes) (value : Item) (hkey : ∀ name ∈ names, Utf8.encode name ≠ key)
    (hvalue : value.levels < 1000) : IsExtra names (.str key, value)

/-- The entries of a map that holds a record: the fields that are sent and any extra entries, in
any order.  Only fields that may be left out are not sent. -/
inductive MapLayout (fs : List Field) : List (Item × Item) → Prop
  | intro {entries : List (Item × Item)} (sent : String → Bool) (extras : List (Item × Item))
    (hsent : ∀ f ∈ fs, sent f.name = false → f.optional)
    (hextras : ∀ e ∈ extras, IsExtra (fs.map Field.name) e)
    (horder : entries.Perm ((fs.filter fun f => sent f.name).map Field.entry ++ extras)) :
    MapLayout fs entries

/-- The items of an array that holds a record: its fields up to some point, after which each may
be left out. -/
inductive ArrayLayout (fs : List Field) : List Item → Prop
  | intro (count : Nat) (hrest : ∀ f ∈ fs.drop count, f.optional) :
    ArrayLayout fs ((fs.take count).map Field.item)

/-- All the entries of a record make a layout. -/
theorem MapLayout.all (fs : List Field) : MapLayout fs (fs.map Field.entry) := by
  refine .intro (fun _ => true) [] ?_ ?_ ?_
  · intro f _ hsent
    cases hsent
  · intro e he
    cases he
  · simp

/-! ## Known fields -/

/-- The field that an entry gives, by its position. -/
def told (key : Item → Option (Option Nat)) (e : Item × Item) : Option (Nat × Item) :=
  (key e.1).join.map fun i => (i, e.2)

variable {key : Item → Option (Option Nat)} {entries : List (Item × Item)}
  {found : List (Nat × Item)}

theorem any_position_iff {i : Nat} :
    (found.any fun f => f.1 = i) = true ↔ i ∈ found.map Prod.fst := by
  simp [List.any_eq_true, List.mem_map]

/-- The fields known from a map are those its entries give.  Each key must be one, and no field
may be given twice. -/
theorem known_eq_some_iff :
    known key entries = some found ↔
      (∀ e ∈ entries, (key e.1).isSome) ∧ found = entries.filterMap (told key) ∧
        (found.map Prod.fst).Nodup := by
  induction entries generalizing found with
  | nil =>
    simp only [known, Option.some.injEq, List.filterMap_nil]
    constructor
    · rintro rfl
      exact ⟨by simp, rfl, by simp⟩
    · rintro ⟨_, rfl, _⟩
      rfl
  | cons e entries ih =>
    obtain ⟨k, value⟩ := e
    cases hkey : key k with
    | none => simp [known, hkey]
    | some position =>
      cases position with
      | none => simp [known, hkey, told, ih]
      | some i =>
        have htold : told key (k, value) = some (i, value) := by simp [told, hkey]
        simp only [known, hkey, Option.bind_some, Option.bind_eq_some_iff, ih,
          List.filterMap_cons_some htold, List.forall_mem_cons, Option.isSome_some, true_and]
        constructor
        · rintro ⟨rest, ⟨hkeys, rfl, hnodup⟩, hfound⟩
          split at hfound
          · cases hfound
          · rename_i hfresh
            cases hfound
            rw [any_position_iff] at hfresh
            rw [List.map_cons, List.nodup_cons]
            exact ⟨hkeys, rfl, hfresh, hnodup⟩
        · rintro ⟨hkeys, rfl, hnodup⟩
          rw [List.map_cons, List.nodup_cons] at hnodup
          refine ⟨_, ⟨hkeys, rfl, hnodup.2⟩, if_neg ?_⟩
          rw [any_position_iff]
          exact hnodup.1

/-- Where no position is repeated, a field is found exactly if it is among the others. -/
theorem lookup_eq_some_iff_mem (hnodup : (found.map Prod.fst).Nodup) {i : Nat} {item : Item} :
    found.lookup i = some item ↔ (i, item) ∈ found := by
  induction found with
  | nil => simp
  | cons f found ih =>
    obtain ⟨j, other⟩ := f
    rw [List.map_cons, List.nodup_cons] at hnodup
    by_cases hsame : i = j
    · subst hsame
      rw [List.lookup_cons_self, Option.some.injEq, List.mem_cons, Prod.mk.injEq]
      constructor
      · rintro rfl
        exact .inl ⟨rfl, rfl⟩
      · rintro (⟨_, rfl⟩ | hmem)
        · rfl
        · exact absurd (List.mem_map_of_mem hmem) hnodup.1
    · have hskip : (i == j) = false := beq_eq_false_iff_ne.mpr hsame
      rw [List.lookup_cons, hskip, List.mem_cons, Prod.mk.injEq]
      simp only [hsame, false_and, false_or]
      exact ih hnodup.2

/-! ## What a layout holds -/

/-- The fields found are those of the record, apart from some that may be left out. -/
def Holds (fs : List Field) (found : List (Nat × Item)) : Prop :=
  ∀ i f, fs[i]? = some f → found.lookup i = some f.item ∨ f.optional ∧ found.lookup i = none

variable {names : List String} {fs : List Field} {i : Nat} {f : Field}

/-- A name stands for the position at which it is among distinct names. -/
theorem findIdx?_eq_some_iff (hnodup : names.Nodup) {name : String} :
    names.findIdx? (· = name) = some i ↔ names[i]? = some name := by
  constructor
  · intro hfound
    obtain ⟨hi, hname, _⟩ := List.findIdx?_eq_some_iff_getElem.mp hfound
    rw [List.getElem?_eq_getElem hi, of_decide_eq_true hname]
  · intro hname
    obtain ⟨hi, rfl⟩ := List.getElem?_eq_some_iff.mp hname
    exact findIdx?_of_nodup hnodup hi

/-- The entry of a field gives it at the position of its name. -/
theorem told_entry (names : List String) (f : Field) :
    told (Item.key? names) f.entry =
      (names.findIdx? (· = f.name)).map fun i => (i, f.item) := by
  rw [told, Field.entry, Item.key?_ofText]
  rfl

theorem told_entry_eq_some_iff (hnodup : names.Nodup) {item : Item} :
    told (Item.key? names) f.entry = some (i, item) ↔ names[i]? = some f.name ∧ item = f.item := by
  rw [told_entry, Option.map_eq_some_iff]
  constructor
  · rintro ⟨j, hj, hfield⟩
    cases hfield
    exact ⟨(findIdx?_eq_some_iff hnodup).mp hj, rfl⟩
  · rintro ⟨hname, rfl⟩
    exact ⟨i, (findIdx?_eq_some_iff hnodup).mpr hname, rfl⟩

/-- An extra entry has a key and gives no field. -/
theorem IsExtra.told_eq_none {e : Item × Item} (hextra : IsExtra names e) :
    (Item.key? names e.1).isSome ∧ told (Item.key? names) e = none := by
  obtain ⟨key, value, hkey, _⟩ := hextra
  have hother : names.findIdx? (fun name => decide (Utf8.encode name = key)) = none := by
    rw [List.findIdx?_eq_none_iff]
    intro name hname
    exact decide_eq_false (hkey name hname)
  simp [told, Item.key?, Item.nameBytes?, hother]

/-- The fields that are sent, each at its position, are those known from a map of them. -/
theorem mem_filterMap_told (hnodup : names.Nodup) {sent : String → Bool}
    {extras : List (Item × Item)} (hextras : ∀ e ∈ extras, IsExtra names e)
    (horder : entries.Perm ((fs.filter fun f => sent f.name).map Field.entry ++ extras))
    {item : Item} :
    (i, item) ∈ entries.filterMap (told (Item.key? names)) ↔
      ∃ f ∈ fs, sent f.name = true ∧ names[i]? = some f.name ∧ item = f.item := by
  rw [List.mem_filterMap]
  constructor
  · rintro ⟨e, he, htold⟩
    rcases List.mem_append.mp (horder.mem_iff.mp he) with hfield | hextra
    · obtain ⟨f, hf, rfl⟩ := List.mem_map.mp hfield
      rw [List.mem_filter] at hf
      exact ⟨f, hf.1, hf.2, (told_entry_eq_some_iff hnodup).mp htold⟩
    · rw [(hextras e hextra).told_eq_none.2] at htold
      cases htold
  · rintro ⟨f, hf, hsent, hfield⟩
    refine ⟨f.entry, horder.mem_iff.mpr ?_, (told_entry_eq_some_iff hnodup).mpr hfield⟩
    exact List.mem_append_left _ (List.mem_map_of_mem (List.mem_filter.mpr ⟨hf, hsent⟩))

/-- No field is known twice from a map of the fields that are sent. -/
theorem nodup_filterMap_told (hnodup : names.Nodup) (hnames : fs.map Field.name = names)
    {sent : String → Bool} {extras : List (Item × Item)}
    (hextras : ∀ e ∈ extras, IsExtra names e)
    (horder : entries.Perm ((fs.filter fun f => sent f.name).map Field.entry ++ extras)) :
    ((entries.filterMap (told (Item.key? names))).map Prod.fst).Nodup := by
  have hnone : extras.filterMap (told (Item.key? names)) = [] :=
    List.filterMap_eq_nil_iff.mpr fun e he => (hextras e he).told_eq_none.2
  have hfields := horder.filterMap (told (Item.key? names))
  rw [List.filterMap_append, hnone, List.append_nil, List.filterMap_map] at hfields
  have hpositions (sent : List Field) :
      (sent.filterMap (told (Item.key? names) ∘ Field.entry)).map Prod.fst =
        (sent.map Field.name).filterMap fun name => names.findIdx? (· = name) := by
    simp [List.map_filterMap, List.filterMap_map, told_entry, Function.comp_def]
  have hsent : ((fs.filter fun f => sent f.name).map Field.name).Nodup :=
    (hnames ▸ hnodup).sublist (List.filter_sublist.map Field.name)
  rw [(hfields.map Prod.fst).nodup_iff, hpositions]
  -- a position has one name only
  refine hsent.filterMap fun name name' i hi hi' => ?_
  have hname := (findIdx?_eq_some_iff hnodup).mp hi
  have hname' := (findIdx?_eq_some_iff hnodup).mp hi'
  rw [hname] at hname'
  exact Option.some.inj hname'

/-- A map in any layout holds the fields of the record. -/
theorem MapLayout.holds (hlayout : MapLayout fs entries) (hnodup : names.Nodup)
    (hnames : fs.map Field.name = names) :
    ∃ found, fields names (.map entries) = some found ∧ Holds fs found := by
  obtain ⟨sent, extras, hsent, hextras, horder⟩ := hlayout
  rw [hnames] at hextras
  have hpositions := nodup_filterMap_told hnodup hnames hextras horder
  refine ⟨_, known_eq_some_iff.mpr ⟨?_, rfl, hpositions⟩, ?_⟩
  · intro e he
    rcases List.mem_append.mp (horder.mem_iff.mp he) with hfield | hextra
    · obtain ⟨f, _, rfl⟩ := List.mem_map.mp hfield
      rw [Field.entry, Item.key?_ofText]
      rfl
    · exact (hextras e hextra).told_eq_none.1
  · intro i f hf
    have hname : names[i]? = some f.name := by
      rw [← hnames, List.getElem?_map, hf, Option.map_some]
    cases hchoice : sent f.name with
    | true =>
      left
      rw [lookup_eq_some_iff_mem hpositions, mem_filterMap_told hnodup hextras horder]
      exact ⟨f, List.mem_of_getElem? hf, hchoice, hname, rfl⟩
    | false =>
      refine .inr ⟨hsent f (List.mem_of_getElem? hf) hchoice, ?_⟩
      rw [Option.eq_none_iff_forall_ne_some]
      intro item hitem
      rw [lookup_eq_some_iff_mem hpositions, mem_filterMap_told hnodup hextras horder] at hitem
      obtain ⟨g, _, hg, hsame, _⟩ := hitem
      rw [hname, Option.some.injEq] at hsame
      rw [← hsame, hchoice] at hg
      cases hg

/-- An array in any layout holds the fields of the record. -/
theorem ArrayLayout.holds {items : List Item} (hlayout : ArrayLayout fs items)
    (hnames : fs.map Field.name = names) :
    ∃ found, fields names (.array items) = some found ∧ Holds fs found := by
  obtain ⟨count, hrest⟩ := hlayout
  have hlength : ((fs.take count).map Field.item).length ≤ names.length := by
    rw [← hnames, List.length_map, List.length_map, List.length_take]
    exact Nat.min_le_right _ _
  refine ⟨_, if_pos hlength, ?_⟩
  intro i f hf
  rw [lookup_numbered, List.getElem?_map]
  by_cases hi : i < count
  · left
    rw [List.getElem?_take_of_lt hi, hf, Option.map_some]
  · right
    have hdropped : (fs.drop count)[i - count]? = some f := by
      rw [List.getElem?_drop, Nat.add_sub_of_le (Nat.not_lt.mp hi), hf]
    refine ⟨hrest f (List.mem_of_getElem? hdropped), ?_⟩
    rw [List.getElem?_take_eq_none (Nat.not_lt.mp hi), Option.map_none]

/-- A map in which a name is repeated holds no fields. -/
theorem fields_of_repeated (hnodup : names.Nodup) {name : String} (hname : name ∈ names)
    {first second : Item}
    (htwice : [(Item.ofText name, first), (Item.ofText name, second)].Sublist entries) :
    fields names (.map entries) = none := by
  obtain ⟨i, hi, rfl⟩ := List.getElem_of_mem hname
  rw [Option.eq_none_iff_forall_ne_some]
  intro found hfound
  obtain ⟨_, rfl, hpositions⟩ := known_eq_some_iff.mp hfound
  have hkey : ∀ item, told (Item.key? names) (Item.ofText names[i], item) = some (i, item) := by
    intro item
    have hentry := told_entry names ⟨names[i], item, False⟩
    rwa [findIdx?_of_nodup hnodup hi, Option.map_some] at hentry
  have hboth := (htwice.filterMap (told (Item.key? names))).map Prod.fst
  rw [List.filterMap_cons_some (hkey first), List.filterMap_cons_some (hkey second)] at hboth
  have hpair : [i, i].Nodup := hpositions.sublist hboth
  simp at hpair

/-! ## Reading the fields -/

/-- A field that may not be left out is read. -/
theorem Holds.required {α : Type} {found : List (Nat × Item)} (hholds : Holds fs found)
    {read : Item → Option α} {a : α} (hf : fs[i]? = some f) (hneeded : ¬f.optional)
    (hread : read f.item = some a) : required read i found = some a := by
  rcases hholds i f hf with hfound | ⟨hoptional, _⟩
  · rw [Record.required, hfound, Option.bind_some, hread]
  · exact absurd hoptional hneeded

/-- A field that holds its default whenever it may be left out is read or has its default. -/
theorem Holds.defaulted {α : Type} {found : List (Nat × Item)} (hholds : Holds fs found)
    {read : Item → Option α} {a default : α} (hf : fs[i]? = some f)
    (hread : read f.item = some a) (hdefault : f.optional → a = default) :
    defaulted read default i found = some a := by
  rcases hholds i f hf with hfound | ⟨hoptional, hnone⟩
  · simp only [Record.defaulted, hfound, hread]
  · simp only [Record.defaulted, hnone, hdefault hoptional]

end Record
end EngineLink
