import EngineLink.Proofs.Wire.ReadBack
import EngineLink.Wire.Record
import Mathlib.Algebra.Group.Int.Defs
import Mathlib.Algebra.Group.Nat.Defs

/-!
# Typed values and records read back

The item of a number, a text or a list reads as what it was made of, and the fields of a
record are found under their names in the order of the names.

Main results:

- Theorem {lit}`Item.integer?_ofInt`: the shortest item of an integer carries that integer,
  at every width and sign.
- Theorem {lit}`Item.list?_array_map`: a list is read back when each of its members is.
- Theorem {lit}`Record.known_named`: entries under the first of some distinct names are exactly
  these fields, numbered in order.
-/

namespace EngineLink
namespace Item

/-! ## Integers -/

/-- The shortest item of a natural number carries that number. -/
theorem integer?_ofNat {n : Nat} (hn : n < 2 ^ 64) : (ofNat n).integer? = some (n : Int) := by
  unfold ofNat
  split
  · rename_i hbyte
    simp only [integer?, UInt8.toNat_ofNat_of_lt' hbyte]
  · split
    · rename_i hword
      simp only [integer?, UInt16.toNat_ofNat_of_lt' hword]
    · split
      · rename_i hdouble
        simp only [integer?, UInt32.toNat_ofNat_of_lt' hdouble]
      · simp only [integer?, UInt64.toNat_ofNat_of_lt' hn]

/-- The shortest item of an integer carries that integer. -/
theorem integer?_ofInt {i : Int} (hlow : -2 ^ 63 ≤ i) (hhigh : i < 2 ^ 64) :
    (ofInt i).integer? = some i := by
  unfold ofInt
  split
  · rw [integer?_ofNat (by omega)]
    simp
    omega
  · split
    · rename_i hbyte
      simp only [integer?]
      rw [Int8.toInt_ofInt_of_le (by omega) (by omega)]
    · split
      · rename_i hword
        simp only [integer?]
        rw [Int16.toInt_ofInt_of_le (by omega) (by omega)]
      · split
        · rename_i hdouble
          simp only [integer?]
          rw [Int32.toInt_ofInt_of_le (by omega) (by omega)]
        · simp only [integer?]
          rw [Int64.toInt_ofInt_of_le (by omega) (by omega)]

/-- An integer within the bounds is read as itself. -/
theorem bounded?_eq_some {item : Item} {least greatest i : Int} (hitem : item.integer? = some i)
    (hleast : least ≤ i) (hgreatest : i ≤ greatest) : item.bounded? least greatest = some i := by
  simp [bounded?, hitem, hleast, hgreatest]

@[simp]
theorem int32?_ofInt (v : Int32) : (ofInt v.toInt).int32? = some v := by
  have hlow := v.le_toInt
  have hhigh := v.toInt_lt
  have hread : (ofInt v.toInt).integer? = some v.toInt := integer?_ofInt (by omega) (by omega)
  rw [int32?, bounded?_eq_some hread v.minValue_le_toInt v.toInt_le]
  simp

@[simp]
theorem int64?_ofInt (v : Int64) : (ofInt v.toInt).int64? = some v := by
  have hlow := v.le_toInt
  have hhigh := v.toInt_lt
  have hread : (ofInt v.toInt).integer? = some v.toInt := integer?_ofInt (by omega) (by omega)
  rw [int64?, bounded?_eq_some hread v.minValue_le_toInt v.toInt_le]
  simp

@[simp]
theorem uint32?_ofNat (v : UInt32) : (ofNat v.toNat).uint32? = some v := by
  have hhigh := v.toNat_lt
  rw [uint32?, bounded?_eq_some (integer?_ofNat (by omega)) (by omega) (by omega)]
  simp

@[simp]
theorem uint64?_ofNat (v : UInt64) : (ofNat v.toNat).uint64? = some v := by
  have hhigh := v.toNat_lt
  rw [uint64?, bounded?_eq_some (integer?_ofNat hhigh) (by omega) (by omega)]
  simp

/-! ## Texts and lists -/

@[simp]
theorem text?_ofText (s : String) : (ofText s).text? = some s := by
  simp [ofText, text?]

/-- Members that are read back one by one are read back together. -/
theorem mapM_map_eq_some {α β : Type} {read : β → Option α} {write : α → β}
    (hread : ∀ a, read (write a) = some a) (items : List α) :
    (items.map write).mapM read = some items := by
  induction items with
  | nil => rfl
  | cons a items ih => simp [hread, ih]

/-- A list is read back when each of its members is. -/
theorem list?_array_map {α : Type} {read : Item → Option α} {write : α → Item}
    (hread : ∀ a, read (write a) = some a) (items : List α) :
    list? read (.array (items.map write)) = some items :=
  mapM_map_eq_some hread items

/-! ## Sizes -/

theorem writtenSize_ofNat_le (n : Nat) : (ofNat n).writtenSize ≤ 9 := by
  unfold ofNat
  repeat' split
  all_goals simp only [writtenSize]
  all_goals first | omega | split <;> omega

/-- No integer takes more than nine bytes. -/
theorem writtenSize_ofInt_le (i : Int) : (ofInt i).writtenSize ≤ 9 := by
  unfold ofInt
  split
  · exact writtenSize_ofNat_le _
  · repeat' split
    all_goals simp only [writtenSize]
    all_goals first | omega | split <;> omega

/-! ## Nesting -/

@[simp]
theorem levels_ofNat (n : Nat) : (ofNat n).levels = 0 := by
  unfold ofNat
  split
  · rfl
  · split
    · rfl
    · split <;> rfl

@[simp]
theorem levels_ofInt (i : Int) : (ofInt i).levels = 0 := by
  unfold ofInt
  split
  · exact levels_ofNat _
  · split
    · rfl
    · split
      · rfl
      · split <;> rfl

@[simp]
theorem levels_ofText (s : String) : (ofText s).levels = 0 := rfl

/-- A list is nested one level deeper than its members. -/
theorem levels_array_map_le {α : Type} {write : α → Item} {n : Nat}
    (hwrite : ∀ a, (write a).levels ≤ n) (items : List α) :
    (array (items.map write)).levels ≤ n + 1 := by
  simp only [levels, Nat.add_le_add_iff_right]
  induction items with
  | nil => simp [levelsAll]
  | cons a items ih =>
    simp only [List.map_cons, levelsAll]
    exact Nat.max_le.mpr ⟨hwrite a, ih⟩

/-- A map is nested one level deeper than its keys and values. -/
theorem levels_map_le {entries : List (Item × Item)} {n : Nat}
    (hentries : ∀ e ∈ entries, e.1.levels ≤ n ∧ e.2.levels ≤ n) :
    (map entries).levels ≤ n + 1 := by
  simp only [levels, Nat.add_le_add_iff_right]
  induction entries with
  | nil => simp [levelsEntries]
  | cons e entries ih =>
    have hfirst := hentries e List.mem_cons_self
    have hothers := ih fun e' he' => hentries e' (List.mem_cons_of_mem _ he')
    simp only [levelsEntries]
    exact Nat.max_le.mpr ⟨Nat.max_le.mpr hfirst, hothers⟩

/-! ## Names -/

/-- Different texts have different bytes. -/
theorem encode_eq_encode_iff {s t : String} : Utf8.encode s = Utf8.encode t ↔ s = t := by
  constructor
  · intro hbytes
    have hread := Utf8.decode?_encode s
    rw [hbytes, Utf8.decode?_encode] at hread
    exact (Option.some.inj hread).symm
  · exact congrArg Utf8.encode

/-- A text as a key stands for the first of the names that is the same text. -/
theorem key?_ofText (names : List String) (name : String) :
    (ofText name).key? names = some (names.findIdx? (· = name)) := by
  simp [ofText, key?, nameBytes?, encode_eq_encode_iff]

end Item

namespace Record

/-- Entries whose keys stand for consecutive positions have exactly these fields. -/
theorem known_consecutive {key : Item → Option (Option Nat)} {fs : List (String × Item)}
    (start : Nat)
    (hkeys : ∀ i (hi : i < fs.length), key (Item.ofText fs[i].1) = some (some (start + i))) :
    known key (fs.map fun f => (Item.ofText f.1, f.2)) =
      some ((fs.zipIdx start).map fun f => (f.2, f.1.2)) := by
  induction fs generalizing start with
  | nil => rfl
  | cons f fs ih =>
    have hfirst : key (Item.ofText f.1) = some (some start) := hkeys 0 (Nat.zero_lt_succ _)
    have hothers := ih (start + 1) fun i hi => by
      have hnext := hkeys (i + 1) (by simpa using hi)
      simpa [Nat.add_assoc, Nat.add_comm 1] using hnext
    -- the later positions are all greater, so the first one is not repeated
    have hfresh :
        ((fs.zipIdx (start + 1)).map fun f => (f.2, f.1.2)).any (·.1 = start) = false := by
      simp only [List.any_map, List.any_eq_false, Function.comp, decide_eq_true_eq]
      intro g hg hsame
      have hbound := List.le_snd_of_mem_zipIdx hg
      omega
    simp [known, hfirst, hothers, hfresh]

/-- The position of a name among distinct names. -/
theorem findIdx?_of_nodup {names : List String} (hnodup : names.Nodup) {i : Nat}
    (hi : i < names.length) : names.findIdx? (· = names[i]) = some i := by
  rw [List.findIdx?_eq_some_iff_getElem]
  refine ⟨hi, by simp, ?_⟩
  intro j hj
  have hdistinct := List.pairwise_iff_getElem.mp hnodup j i (by omega) hi hj
  simpa using hdistinct

/-- Entries under the first of some distinct names have exactly these fields, numbered in
order, however else keys may be told. -/
theorem known_named {key : Item → Option (Option Nat)} {names : List String}
    {fs : List (String × Item)}
    (hkey : ∀ name, key (Item.ofText name) = Item.key? names (Item.ofText name))
    (hnodup : names.Nodup) (hnames : fs.map Prod.fst <+: names) :
    known key (fs.map fun f => (Item.ofText f.1, f.2)) = some (numbered (fs.map Prod.snd)) := by
  have hkeys : ∀ i (hi : i < fs.length), key (Item.ofText fs[i].1) = some (some (0 + i)) := by
    intro i hi
    have hbound : i < names.length := Nat.lt_of_lt_of_le (by simpa using hi) hnames.length_le
    have hname : fs[i].1 = names[i] := by
      have hsame := hnames.getElem (i := i) (by simpa using hi)
      simpa using hsame
    rw [hkey, Item.key?_ofText, hname, findIdx?_of_nodup hnodup hbound, Nat.zero_add]
  rw [known_consecutive 0 hkeys]
  simp [numbered, List.zipIdx_map]

/-- The field at a position of a list numbered from another position on. -/
theorem lookup_zipIdx (items : List Item) (start position : Nat) :
    ((items.zipIdx start).map fun f => (f.2, f.1)).lookup (start + position) =
      items[position]? := by
  induction items generalizing start position with
  | nil => simp
  | cons item items ih =>
    cases position with
    | zero => simp
    | succ position =>
      have hlater : (start + (position + 1) == start) = false := by simp
      have hrest := ih (start + 1) position
      rw [Nat.add_assoc, Nat.add_comm 1] at hrest
      simp only [List.zipIdx_cons, List.map_cons, List.lookup_cons, hlater, hrest,
        List.getElem?_cons_succ]

/-- The field at a position of a numbered list. -/
@[simp]
theorem lookup_numbered (items : List Item) (position : Nat) :
    (numbered items).lookup position = items[position]? := by
  have hzero := lookup_zipIdx items 0 position
  rw [Nat.zero_add] at hzero
  exact hzero

/-- A record takes no more than its head and what each of its fields takes. -/
theorem writtenSize_toItem_le {fs : List (String × Item)} {n : Nat}
    (hfields : ∀ f ∈ fs, (Item.ofText f.1).writtenSize + f.2.writtenSize ≤ n) :
    (toItem fs).writtenSize ≤ 5 + fs.length * n := by
  have hhead : ∀ count, (Wire.mapHead count).length ≤ 5 := by
    intro count
    unfold Wire.mapHead
    split
    · simp
    · split <;> simp
  have hentries : Item.writtenSizeEntries (fs.map fun f => (Item.ofText f.1, f.2)) ≤
      fs.length * n := by
    induction fs with
    | nil => simp [Item.writtenSizeEntries]
    | cons f fs ih =>
      have hfirst := hfields f List.mem_cons_self
      have hothers := ih fun f' hf' => hfields f' (List.mem_cons_of_mem _ hf')
      simp only [List.map_cons, Item.writtenSizeEntries, List.length_cons, Nat.add_mul, Nat.one_mul]
      omega
  rw [toItem, Item.writtenSize]
  exact Nat.add_le_add (hhead _) hentries

/-- A record is nested one level deeper than its fields. -/
theorem levels_toItem_le {fs : List (String × Item)} {n : Nat}
    (hfields : ∀ f ∈ fs, f.2.levels ≤ n) : (toItem fs).levels ≤ n + 1 := by
  apply Item.levels_map_le
  intro e he
  obtain ⟨f, hf, rfl⟩ := List.mem_map.mp he
  exact ⟨by simp, hfields f hf⟩

end Record

namespace Choice

/-- A name alone is the choice with that name, without content. -/
theorem select_ofText (names : List String) (name : String) :
    select names (Item.ofText name) = (names.findIdx? (· = name)).map fun i => (i, none) := by
  simp only [select, Item.ofText]
  have hkey := Item.key?_ofText names name
  simp only [Item.ofText] at hkey
  simp [hkey]

/-- A record with one field is the choice with its name and its content. -/
theorem select_toItem (names : List String) (name : String) (content : Item) :
    select names (Record.toItem [(name, content)]) =
      (names.findIdx? (· = name)).map fun i => (i, some content) := by
  simp [select, Record.toItem, Item.key?_ofText]

end Choice
end EngineLink
