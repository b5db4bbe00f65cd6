import EngineLink.Proofs.Wire.Readers

/-!
# The forms of an item

An item can be sent in several ways: a count may stand in a wider head than it needs, and a
small number behind a marker.  {lit}`Item.Form` says which bytes are a form of an item, and
{lit}`Item.levels` how deeply the item is nested.  The reader takes exactly the forms of
items that are not nested too deeply, whatever bytes come after them.

Main results:

- Theorem {lit}`Item.form_cons_iff`: the first byte of a form announces what comes after it.
- Theorem {lit}`Item.read_eq_some_iff`: an item is read exactly if the bytes begin with one of
  its forms and the reader admits its nesting.
- Theorem {lit}`Item.Form.eq_of_append`: no form begins with a form of anything else.
-/

namespace EngineLink
namespace Wire

/-! ## Heads -/

/-- The heads of a kind of items: the counts that have a byte of their own, and the markers
behind which any other count stands in a number of digits. -/
structure CountHeads where
  short : List (Nat × UInt8)
  marked : List (UInt8 × Nat)

/-- The bytes announce a count. -/
inductive CountHeads.Announces (heads : CountHeads) : Nat → Bytes → Prop
  | short {count : Nat} {b : UInt8} : (count, b) ∈ heads.short → Announces heads count [b]
  | marked {marker : UInt8} {width count : Nat} : (marker, width) ∈ heads.marked →
    count < 256 ^ width → Announces heads count (marker :: bigEndian width count)

/-- Counts below a bound, each in the byte that many places after a first one. -/
def shortCounts (first bound : Nat) : List (Nat × UInt8) :=
  (List.range bound).map fun n => (n, UInt8.ofNat (first + n))

def strHeads : CountHeads := ⟨shortCounts 0xa0 32, [(0xd9, 1), (0xda, 2), (0xdb, 4)]⟩
def binHeads : CountHeads := ⟨[], [(0xc4, 1), (0xc5, 2), (0xc6, 4)]⟩
def arrayHeads : CountHeads := ⟨shortCounts 0x90 16, [(0xdc, 2), (0xdd, 4)]⟩
def mapHeads : CountHeads := ⟨shortCounts 0x80 16, [(0xde, 2), (0xdf, 4)]⟩

def extHeads : CountHeads :=
  ⟨[(1, 0xd4), (2, 0xd5), (4, 0xd6), (8, 0xd7), (16, 0xd8)], [(0xc7, 1), (0xc8, 2), (0xc9, 4)]⟩

end Wire

namespace Item

open Wire

/-! ## Forms and nesting -/

/-- The bytes are a form of the item. -/
inductive Form : Item → Bytes → Prop
  | nil : Form .nil [0xc0]
  | no : Form (.bool false) [0xc2]
  | yes : Form (.bool true) [0xc3]
  | small {v : UInt8} : v < 128 → Form (.u8 v) [v]
  | u8 (v : UInt8) : Form (.u8 v) [0xcc, v]
  | u16 (v : UInt16) : Form (.u16 v) (0xcd :: bigEndian 2 v.toNat)
  | u32 (v : UInt32) : Form (.u32 v) (0xce :: bigEndian 4 v.toNat)
  | u64 (v : UInt64) : Form (.u64 v) (0xcf :: bigEndian 8 v.toNat)
  | smallNegative {v : Int8} : -32 ≤ v → v < 0 → Form (.i8 v) [v.toUInt8]
  | i8 (v : Int8) : Form (.i8 v) [0xd0, v.toUInt8]
  | i16 (v : Int16) : Form (.i16 v) (0xd1 :: bigEndian 2 v.toUInt16.toNat)
  | i32 (v : Int32) : Form (.i32 v) (0xd2 :: bigEndian 4 v.toUInt32.toNat)
  | i64 (v : Int64) : Form (.i64 v) (0xd3 :: bigEndian 8 v.toUInt64.toNat)
  | f32 (bits : UInt32) : Form (.f32 bits) (0xca :: bigEndian 4 bits.toNat)
  | f64 (bits : UInt64) : Form (.f64 bits) (0xcb :: bigEndian 8 bits.toNat)
  | str {text head : Bytes} : strHeads.Announces text.length head → Form (.str text) (head ++ text)
  | bin {content head : Bytes} :
    binHeads.Announces content.length head → Form (.bin content) (head ++ content)
  | array {items : List Item} {head body : Bytes} :
    arrayHeads.Announces items.length head → Series Form items body →
      Form (.array items) (head ++ body)
  | map {entries : List (Item × Item)} {head body : Bytes} :
    mapHeads.Announces entries.length head → Series (Pair Form Form) entries body →
      Form (.map entries) (head ++ body)
  | ext (tag : UInt8) {content head : Bytes} :
    extHeads.Announces content.length head → Form (.ext tag content) (head ++ tag :: content)

mutual

/-- How many arrays, maps and extensions are nested in an item. -/
def levels : Item → Nat
  | .array items => levelsAll items + 1
  | .map entries => levelsEntries entries + 1
  | .ext _ _ => 1
  | _ => 0

/-- The greatest nesting of several items. -/
def levelsAll : List Item → Nat
  | [] => 0
  | item :: items => max (levels item) (levelsAll items)

/-- The greatest nesting in the entries of a map. -/
def levelsEntries : List (Item × Item) → Nat
  | [] => 0
  | (key, value) :: entries => max (max (levels key) (levels value)) (levelsEntries entries)

end

/-- Items are nested within some depth exactly if each of them is. -/
theorem levelsAll_le_iff {items : List Item} {depth : Nat} :
    levelsAll items ≤ depth ↔ ∀ item ∈ items, item.levels ≤ depth := by
  induction items with
  | nil => simp [levelsAll]
  | cons item items ih => simp only [levelsAll, Nat.max_le, ih, List.forall_mem_cons]

/-- Entries are nested within some depth exactly if each key and each value is. -/
theorem levelsEntries_le_iff {entries : List (Item × Item)} {depth : Nat} :
    levelsEntries entries ≤ depth ↔
      ∀ e ∈ entries, e.1.levels ≤ depth ∧ e.2.levels ≤ depth := by
  induction entries with
  | nil => simp [levelsEntries]
  | cons e entries ih => simp only [levelsEntries, Nat.max_le, ih, List.forall_mem_cons]

/-- A form of an item that is nested within some depth. -/
def Within (depth : Nat) (item : Item) (bytes : Bytes) : Prop :=
  Form item bytes ∧ item.levels ≤ depth

/-! ## What a first byte announces -/

/-- The bytes after the head of an array. -/
def ArrayBody (count : Nat) (item : Item) (body : Bytes) : Prop :=
  ∃ items, items.length = count ∧ Series Form items body ∧ item = .array items

/-- The bytes after the head of a map. -/
def MapBody (count : Nat) (item : Item) (body : Bytes) : Prop :=
  ∃ entries, entries.length = count ∧ Series (Pair Form Form) entries body ∧ item = .map entries

/-- The bytes after the head of an extension. -/
def ExtBody (count : Nat) (item : Item) (body : Bytes) : Prop :=
  ∃ tag content, content.length = count ∧ body = tag :: content ∧ item = .ext tag content

/-- A count in some digits, and the bytes of so many. -/
def Counted (width : Nat) (body : Nat → Item → Bytes → Prop) (item : Item) (bytes : Bytes) : Prop :=
  ∃ count rest, count < 256 ^ width ∧ body count item rest ∧ bytes = bigEndian width count ++ rest

/-- What may come after a head, and the item it then is. -/
def Head.Leads : Head → Item → Bytes → Prop
  | .done found, item, bytes => item = found ∧ bytes = []
  | .number width make, item, bytes =>
    ∃ n, (n < 256 ^ width ∧ bytes = bigEndian width n) ∧ item = make n
  | .counted width make, item, bytes =>
    ∃ content : Bytes, (content.length < 256 ^ width ∧
      bytes = bigEndian width content.length ++ content) ∧ item = make content
  | .fixed count make, item, bytes =>
    ∃ content : Bytes, (content.length = count ∧ bytes = content) ∧ item = make content
  | .arrayOf count, item, bytes => ArrayBody count item bytes
  | .arrayCounted width, item, bytes => Counted width ArrayBody item bytes
  | .mapOf count, item, bytes => MapBody count item bytes
  | .mapCounted width, item, bytes => Counted width MapBody item bytes
  | .extOf count, item, bytes => ExtBody count item bytes
  | .extCounted width, item, bytes => Counted width ExtBody item bytes
  | .reserved, _, _ => False

/-- The byte of a short count. -/
theorem toNat_short {first bound count : Nat} {b : UInt8} (hroom : first + bound ≤ 256)
    (hmem : (count, b) ∈ shortCounts first bound) : count < bound ∧ b.toNat = first + count := by
  simp only [shortCounts, List.mem_map, List.mem_range, Prod.mk.injEq] at hmem
  obtain ⟨n, hn, rfl, rfl⟩ := hmem
  refine ⟨hn, ?_⟩
  rw [UInt8.toNat_ofNat']
  omega

/-- A byte among those of the short counts has one of these counts. -/
theorem mem_shortCounts {first bound : Nat} {b : UInt8} (hlow : first ≤ b.toNat)
    (hhigh : b.toNat < first + bound) : (b.toNat - first, b) ∈ shortCounts first bound := by
  simp only [shortCounts, List.mem_map, List.mem_range, Prod.mk.injEq]
  refine ⟨b.toNat - first, by omega, rfl, ?_⟩
  rw [Nat.add_sub_of_le hlow, UInt8.ofNat_toNat]

/-- The head of a short text announces its bytes. -/
theorem head_fixStr {count : Nat} {b : UInt8} (hmem : (count, b) ∈ strHeads.short) :
    head b = .fixed count .str := by
  obtain ⟨hcount, hbyte⟩ := toNat_short (by decide) hmem
  simp only [head, hbyte]
  rw [if_neg (by omega), if_neg (by omega), if_neg (by omega), if_pos (by omega)]
  simp

/-- The head of a short array announces its items. -/
theorem head_fixArray {count : Nat} {b : UInt8} (hmem : (count, b) ∈ arrayHeads.short) :
    head b = .arrayOf count := by
  obtain ⟨hcount, hbyte⟩ := toNat_short (by decide) hmem
  simp only [head, hbyte]
  rw [if_neg (by omega), if_neg (by omega), if_pos (by omega)]
  simp

/-- The head of a short map announces its entries. -/
theorem head_fixMap {count : Nat} {b : UInt8} (hmem : (count, b) ∈ mapHeads.short) :
    head b = .mapOf count := by
  obtain ⟨hcount, hbyte⟩ := toNat_short (by decide) hmem
  simp only [head, hbyte]
  rw [if_neg (by omega), if_pos (by omega)]
  simp

/-- A small number is its own head. -/
theorem head_fixPositive {v : UInt8} (hv : v < 128) : head v = .done (.u8 v) := by
  have hbyte : v.toNat < 0x80 := by simpa [UInt8.lt_iff_toNat_lt] using hv
  simp [head, hbyte]

/-- The small negative numbers are those whose byte is one of the last thirty-two. -/
theorem isSmallNegative_iff (v : Int8) : (-32 ≤ v ∧ v < 0) ↔ 0xe0 ≤ v.toUInt8.toNat := by
  have hsigned : v.toInt = v.toUInt8.toBitVec.toInt := rfl
  have hleast : (-32 : Int8).toInt = -32 := by decide
  have hzero : (0 : Int8).toInt = 0 := rfl
  have hnat : v.toUInt8.toBitVec.toNat = v.toUInt8.toNat := rfl
  have hbound := v.toUInt8.toNat_lt
  rw [Int8.le_iff_toInt_le, Int8.lt_iff_toInt_lt, hsigned, BitVec.toInt_eq_toNat_cond, hleast,
    hzero, hnat]
  omega

/-- A small negative number is its own head. -/
theorem head_fixNegative {v : Int8} (hlow : -32 ≤ v) (hneg : v < 0) :
    head v.toUInt8 = .done (.i8 v) := by
  have hbyte := (isSmallNegative_iff v).mp ⟨hlow, hneg⟩
  simp only [head]
  rw [if_neg (by omega), if_neg (by omega), if_neg (by omega), if_neg (by omega),
    if_pos (by omega)]
  simp

/-- The heads of extensions of a known length. -/
theorem head_fixExt : ∀ e ∈ extHeads.short, head e.2 = .extOf e.1 := by
  simp only [extHeads, List.forall_mem_cons]
  exact ⟨rfl, rfl, rfl, rfl, rfl, by simp⟩

/-- The markers of counted texts. -/
theorem head_marked_str : ∀ e ∈ strHeads.marked, head e.1 = .counted e.2 .str := by
  simp only [strHeads, List.forall_mem_cons]
  exact ⟨rfl, rfl, rfl, by simp⟩

/-- The markers of counted byte strings. -/
theorem head_marked_bin : ∀ e ∈ binHeads.marked, head e.1 = .counted e.2 .bin := by
  simp only [binHeads, List.forall_mem_cons]
  exact ⟨rfl, rfl, rfl, by simp⟩

/-- The markers of counted arrays. -/
theorem head_marked_array : ∀ e ∈ arrayHeads.marked, head e.1 = .arrayCounted e.2 := by
  simp only [arrayHeads, List.forall_mem_cons]
  exact ⟨rfl, rfl, by simp⟩

/-- The markers of counted maps. -/
theorem head_marked_map : ∀ e ∈ mapHeads.marked, head e.1 = .mapCounted e.2 := by
  simp only [mapHeads, List.forall_mem_cons]
  exact ⟨rfl, rfl, by simp⟩

/-- The markers of counted extensions. -/
theorem head_marked_ext : ∀ e ∈ extHeads.marked, head e.1 = .extCounted e.2 := by
  simp only [extHeads, List.forall_mem_cons]
  exact ⟨rfl, rfl, rfl, by simp⟩

/-- The first byte of a form announces what comes after it. -/
theorem leads_of_form {item : Item} {b : UInt8} {tail : Bytes} (hform : Form item (b :: tail)) :
    (head b).Leads item tail := by
  generalize hbytes : b :: tail = bytes at hform
  cases hform with
  | nil => cases hbytes; exact ⟨rfl, rfl⟩
  | no => cases hbytes; exact ⟨rfl, rfl⟩
  | yes => cases hbytes; exact ⟨rfl, rfl⟩
  | small hv => cases hbytes; rw [head_fixPositive hv]; exact ⟨rfl, rfl⟩
  | smallNegative hlow hneg => cases hbytes; rw [head_fixNegative hlow hneg]; exact ⟨rfl, rfl⟩
  | u8 v => cases hbytes; exact ⟨v.toNat, ⟨v.toNat_lt, by simp [bigEndian]⟩, by simp⟩
  | u16 v => cases hbytes; exact ⟨v.toNat, ⟨v.toNat_lt, rfl⟩, by simp⟩
  | u32 v => cases hbytes; exact ⟨v.toNat, ⟨v.toNat_lt, rfl⟩, by simp⟩
  | u64 v => cases hbytes; exact ⟨v.toNat, ⟨v.toNat_lt, rfl⟩, by simp⟩
  | i8 v => cases hbytes; exact ⟨_, ⟨v.toUInt8.toNat_lt, by simp [bigEndian]⟩, by simp⟩
  | i16 v => cases hbytes; exact ⟨_, ⟨v.toUInt16.toNat_lt, rfl⟩, by simp⟩
  | i32 v => cases hbytes; exact ⟨_, ⟨v.toUInt32.toNat_lt, rfl⟩, by simp⟩
  | i64 v => cases hbytes; exact ⟨_, ⟨v.toUInt64.toNat_lt, rfl⟩, by simp⟩
  | f32 bits => cases hbytes; exact ⟨bits.toNat, ⟨bits.toNat_lt, rfl⟩, by simp⟩
  | f64 bits => cases hbytes; exact ⟨bits.toNat, ⟨bits.toNat_lt, rfl⟩, by simp⟩
  | str hhead =>
    cases hhead with
    | short hmem => cases hbytes; rw [head_fixStr hmem]; exact ⟨_, ⟨rfl, rfl⟩, rfl⟩
    | marked hmem hcount =>
      cases hbytes
      rw [head_marked_str _ hmem]
      exact ⟨_, ⟨hcount, rfl⟩, rfl⟩
  | bin hhead =>
    cases hhead with
    | short hmem => cases hmem
    | marked hmem hcount =>
      cases hbytes
      rw [head_marked_bin _ hmem]
      exact ⟨_, ⟨hcount, rfl⟩, rfl⟩
  | array hhead hitems =>
    cases hhead with
    | short hmem => cases hbytes; rw [head_fixArray hmem]; exact ⟨_, rfl, hitems, rfl⟩
    | marked hmem hcount =>
      cases hbytes
      rw [head_marked_array _ hmem]
      exact ⟨_, _, hcount, ⟨_, rfl, hitems, rfl⟩, rfl⟩
  | map hhead hentries =>
    cases hhead with
    | short hmem => cases hbytes; rw [head_fixMap hmem]; exact ⟨_, rfl, hentries, rfl⟩
    | marked hmem hcount =>
      cases hbytes
      rw [head_marked_map _ hmem]
      exact ⟨_, _, hcount, ⟨_, rfl, hentries, rfl⟩, rfl⟩
  | ext tag hhead =>
    cases hhead with
    | short hmem => cases hbytes; rw [head_fixExt _ hmem]; exact ⟨_, _, rfl, rfl, rfl⟩
    | marked hmem hcount =>
      cases hbytes
      rw [head_marked_ext _ hmem]
      exact ⟨_, _, hcount, ⟨_, _, rfl, rfl, rfl⟩, rfl⟩

variable {item found : Item} {b : UInt8} {tail : Bytes} {width : Nat}

theorem Form.of_done (hleads : (Head.done found).Leads item tail) (hfound : Form found [b]) :
    Form item (b :: tail) := by
  obtain ⟨rfl, rfl⟩ := hleads
  exact hfound

theorem Form.of_number {make : Nat → Item} (hleads : (Head.number width make).Leads item tail)
    (hmake : ∀ n, n < 256 ^ width → Form (make n) (b :: bigEndian width n)) :
    Form item (b :: tail) := by
  obtain ⟨n, ⟨hn, rfl⟩, rfl⟩ := hleads
  exact hmake n hn

theorem Form.of_counted_str (hleads : (Head.counted width .str).Leads item tail)
    (hmem : (b, width) ∈ strHeads.marked) : Form item (b :: tail) := by
  obtain ⟨_, ⟨hcount, rfl⟩, rfl⟩ := hleads
  exact .str (.marked hmem hcount)

theorem Form.of_counted_bin (hleads : (Head.counted width .bin).Leads item tail)
    (hmem : (b, width) ∈ binHeads.marked) : Form item (b :: tail) := by
  obtain ⟨_, ⟨hcount, rfl⟩, rfl⟩ := hleads
  exact .bin (.marked hmem hcount)

theorem Form.of_arrayCounted (hleads : (Head.arrayCounted width).Leads item tail)
    (hmem : (b, width) ∈ arrayHeads.marked) : Form item (b :: tail) := by
  obtain ⟨_, _, hcount, ⟨items, rfl, hitems, rfl⟩, rfl⟩ := hleads
  exact .array (.marked hmem hcount) hitems

theorem Form.of_mapCounted (hleads : (Head.mapCounted width).Leads item tail)
    (hmem : (b, width) ∈ mapHeads.marked) : Form item (b :: tail) := by
  obtain ⟨_, _, hcount, ⟨entries, rfl, hentries, rfl⟩, rfl⟩ := hleads
  exact .map (.marked hmem hcount) hentries

theorem Form.of_extOf {count : Nat} (hleads : (Head.extOf count).Leads item tail)
    (hmem : (count, b) ∈ extHeads.short) : Form item (b :: tail) := by
  obtain ⟨tag, _, rfl, rfl, rfl⟩ := hleads
  exact .ext tag (.short hmem)

theorem Form.of_extCounted (hleads : (Head.extCounted width).Leads item tail)
    (hmem : (b, width) ∈ extHeads.marked) : Form item (b :: tail) := by
  obtain ⟨_, _, hcount, ⟨tag, _, rfl, rfl, rfl⟩, rfl⟩ := hleads
  have hform := Form.ext tag (.marked hmem hcount)
  simpa using hform

/-- What is announced by a first byte makes a form with it. -/
theorem form_of_leads (hleads : (head b).Leads item tail) : Form item (b :: tail) := by
  unfold head at hleads
  dsimp only at hleads
  split at hleads
  · rename_i hb
    exact .of_done hleads (.small (UInt8.lt_iff_toNat_lt.mpr hb))
  split at hleads
  · obtain ⟨entries, hcount, hentries, rfl⟩ := hleads
    exact .map (.short (hcount ▸ mem_shortCounts (by omega) (by omega))) hentries
  split at hleads
  · obtain ⟨items, hcount, hitems, rfl⟩ := hleads
    exact .array (.short (hcount ▸ mem_shortCounts (by omega) (by omega))) hitems
  split at hleads
  · obtain ⟨_, ⟨hcount, rfl⟩, rfl⟩ := hleads
    exact .str (.short (hcount ▸ mem_shortCounts (by omega) (by omega)))
  split at hleads
  · rename_i hb
    have hsmall := (isSmallNegative_iff b.toInt8).mpr (by simpa using hb)
    exact .of_done hleads (by simpa using Form.smallNegative hsmall.1 hsmall.2)
  -- the markers, in the order of their bytes
  split at hleads <;> rename_i hb
  case h_32 => exact hleads.elim
  all_goals obtain rfl := b.ofNat_toNat.symm.trans (congrArg UInt8.ofNat hb)
  case h_1 => exact .of_done hleads .nil
  case h_2 => exact .of_done hleads .no
  case h_3 => exact .of_done hleads .yes
  case h_4 | h_5 | h_6 => exact .of_counted_bin hleads (by simp [binHeads])
  case h_7 | h_8 | h_9 => exact .of_extCounted hleads (by simp [extHeads])
  case h_10 =>
    exact .of_number hleads fun n hn => by
      simpa [UInt32.toNat_ofNat_of_lt' hn] using Form.f32 (UInt32.ofNat n)
  case h_11 =>
    exact .of_number hleads fun n hn => by
      simpa [UInt64.toNat_ofNat_of_lt' hn] using Form.f64 (UInt64.ofNat n)
  case h_12 =>
    exact .of_number hleads fun n _ => by
      simpa [bigEndian] using Form.u8 (UInt8.ofNat n)
  case h_13 =>
    exact .of_number hleads fun n hn => by
      simpa [UInt16.toNat_ofNat_of_lt' hn] using Form.u16 (UInt16.ofNat n)
  case h_14 =>
    exact .of_number hleads fun n hn => by
      simpa [UInt32.toNat_ofNat_of_lt' hn] using Form.u32 (UInt32.ofNat n)
  case h_15 =>
    exact .of_number hleads fun n hn => by
      simpa [UInt64.toNat_ofNat_of_lt' hn] using Form.u64 (UInt64.ofNat n)
  case h_16 =>
    exact .of_number hleads fun n _ => by
      simpa [bigEndian] using Form.i8 (UInt8.ofNat n).toInt8
  case h_17 =>
    exact .of_number hleads fun n hn => by
      simpa [UInt16.toNat_ofNat_of_lt' hn] using Form.i16 (UInt16.ofNat n).toInt16
  case h_18 =>
    exact .of_number hleads fun n hn => by
      simpa [UInt32.toNat_ofNat_of_lt' hn] using Form.i32 (UInt32.ofNat n).toInt32
  case h_19 =>
    exact .of_number hleads fun n hn => by
      simpa [UInt64.toNat_ofNat_of_lt' hn] using Form.i64 (UInt64.ofNat n).toInt64
  case h_20 | h_21 | h_22 | h_23 | h_24 => exact .of_extOf hleads (by simp [extHeads])
  case h_25 | h_26 | h_27 => exact .of_counted_str hleads (by simp [strHeads])
  case h_28 | h_29 => exact .of_arrayCounted hleads (by simp [arrayHeads])
  case h_30 | h_31 => exact .of_mapCounted hleads (by simp [mapHeads])

/-- The first byte of a form announces what comes after it. -/
theorem form_cons_iff : Form item (b :: tail) ↔ (head b).Leads item tail :=
  ⟨leads_of_form, form_of_leads⟩

/-- No form is empty. -/
theorem Form.exists_cons {bytes : Bytes} (hform : Form item bytes) :
    ∃ b tail, bytes = b :: tail := by
  have hhead : ∀ {heads : CountHeads} {count : Nat} {head rest : Bytes},
      heads.Announces count head → ∃ b tail, head ++ rest = b :: tail := by
    intro heads count head rest hannounces
    cases hannounces <;> exact ⟨_, _, rfl⟩
  cases hform with
  | str hannounces | bin hannounces | array hannounces | map hannounces | ext _ hannounces =>
    exact hhead hannounces
  | _ => exact ⟨_, _, rfl⟩

/-! ## The reader -/

/-- Nothing is nested in what a head that is not one of a container makes. -/
def Head.IsFlat : Head → Prop
  | .done item => item.levels = 0
  | .number _ make => ∀ n, (make n).levels = 0
  | .counted _ make | .fixed _ make => ∀ content, (make content).levels = 0
  | _ => True

theorem isFlat_head (b : UInt8) : (head b).IsFlat := by
  unfold head
  dsimp only
  repeat' split
  all_goals simp [Head.IsFlat, levels]

/-- Forms of values with a property are forms, and each value has the property. -/
theorem series_and_iff {α : Type} {form : α → Bytes → Prop} {p : α → Prop} {values : List α}
    {bytes : Bytes} :
    Series (fun a front => form a front ∧ p a) values bytes ↔
      Series form values bytes ∧ ∀ a ∈ values, p a := by
  constructor
  · intro hseries
    induction hseries with
    | nil => exact ⟨.nil, by simp⟩
    | cons ha _ ih => exact ⟨.cons ha.1 ih.1, List.forall_mem_cons.mpr ⟨ha.2, ih.2⟩⟩
  · rintro ⟨hseries, hvalues⟩
    induction hseries with
    | nil => exact .nil
    | cons ha _ ih =>
      rw [List.forall_mem_cons] at hvalues
      exact .cons ⟨ha, hvalues.1⟩ (ih hvalues.2)

/-- How what is nested is read when some depth is left: at the last level nothing may be. -/
inductive Nests : Option (Reader Item) → Nat → Prop
  | none : Nests none 0
  | some {read : Reader Item} {inner : Nat} :
    Takes read (Within inner) → Nests (some read) (inner + 1)

variable {read : Reader Item} {inner depth : Nat}

theorem takes_readArray (hread : Takes read (Within inner)) (count : Nat) :
    Takes (readArray read count) fun item bytes =>
      ArrayBody count item bytes ∧ item.levels ≤ inner + 1 := by
  apply ((hread.many count).map Item.array).congr
  intro item bytes
  constructor
  · rintro ⟨items, ⟨hcount, hseries⟩, rfl⟩
    have hitems := series_and_iff.mp hseries
    exact ⟨⟨items, hcount, hitems.1, rfl⟩, Nat.succ_le_succ (levelsAll_le_iff.mpr hitems.2)⟩
  · rintro ⟨⟨items, hcount, hseries, rfl⟩, hlevels⟩
    have hinner := levelsAll_le_iff.mp (Nat.le_of_succ_le_succ hlevels)
    exact ⟨items, ⟨hcount, series_and_iff.mpr ⟨hseries, hinner⟩⟩, rfl⟩

theorem takes_readMap (hread : Takes read (Within inner)) (count : Nat) :
    Takes (readMap read count) fun item bytes =>
      MapBody count item bytes ∧ item.levels ≤ inner + 1 := by
  have hentry : Takes (takePair read read) fun e front =>
      Pair Form Form e front ∧ (e.1.levels ≤ inner ∧ e.2.levels ≤ inner) := by
    apply (hread.pair hread).congr
    intro e front
    constructor
    · rintro ⟨hkey, hvalue⟩
      exact ⟨.intro hkey.1 hvalue.1, hkey.2, hvalue.2⟩
    · rintro ⟨⟨hkey, hvalue⟩, hlevels⟩
      exact .intro ⟨hkey, hlevels.1⟩ ⟨hvalue, hlevels.2⟩
  apply ((hentry.many count).map Item.map).congr
  intro item bytes
  constructor
  · rintro ⟨entries, ⟨hcount, hseries⟩, rfl⟩
    have hentries := series_and_iff.mp hseries
    exact ⟨⟨entries, hcount, hentries.1, rfl⟩,
      Nat.succ_le_succ (levelsEntries_le_iff.mpr hentries.2)⟩
  · rintro ⟨⟨entries, hcount, hseries, rfl⟩, hlevels⟩
    have hinner := levelsEntries_le_iff.mp (Nat.le_of_succ_le_succ hlevels)
    exact ⟨entries, ⟨hcount, series_and_iff.mpr ⟨hseries, hinner⟩⟩, rfl⟩

theorem takes_readExt (count : Nat) :
    Takes (readExt count) fun item bytes =>
      ExtBody count item bytes ∧ item.levels ≤ inner + 1 := by
  apply (((takes_takeNumber 1).pair (takes_takeBytes count)).map _).congr
  intro item bytes
  constructor
  · rintro ⟨_, ⟨⟨hn, rfl⟩, ⟨hcount, rfl⟩⟩, rfl⟩
    exact ⟨⟨_, _, hcount, by simp [bigEndian], rfl⟩, by simp [levels]⟩
  · rintro ⟨⟨tag, content, hcount, rfl, rfl⟩, _⟩
    refine ⟨(tag.toNat, content), ?_, by simp⟩
    have hbytes : tag :: content = bigEndian 1 tag.toNat ++ content := by simp [bigEndian]
    rw [hbytes]
    exact .intro ⟨tag.toNat_lt, rfl⟩ ⟨hcount, rfl⟩

/-- Behind a count, so many are taken. -/
theorem takes_counted {readBody : Nat → Reader Item} {body : Nat → Item → Bytes → Prop}
    (hbody : ∀ count, Takes (readBody count) fun item bytes =>
      body count item bytes ∧ item.levels ≤ depth) (width : Nat) :
    Takes (fun bytes => (takeNumber width bytes).bind fun (count, rest) => readBody count rest)
      fun item bytes => Counted width body item bytes ∧ item.levels ≤ depth := by
  apply ((takes_takeNumber width).bind hbody).congr
  intro item bytes
  constructor
  · rintro ⟨count, _, rest, ⟨hcount, rfl⟩, ⟨hrest, hlevels⟩, rfl⟩
    exact ⟨⟨count, rest, hcount, hrest, rfl⟩, hlevels⟩
  · rintro ⟨⟨count, rest, hcount, hrest, rfl⟩, hlevels⟩
    exact ⟨count, _, rest, ⟨hcount, rfl⟩, ⟨hrest, hlevels⟩, rfl⟩

/-- A container is taken if the depth admits it. -/
theorem Nests.takes {nested : Option (Reader Item)} (hnested : Nests nested depth)
    {container : Reader Item → Reader Item} {body : Item → Bytes → Prop}
    (hcontainer : ∀ read inner, Takes read (Within inner) → Takes (container read) fun item bytes =>
      body item bytes ∧ item.levels ≤ inner + 1)
    (hnest : ∀ item bytes, body item bytes → 0 < item.levels) :
    Takes (fun bytes => nested.bind fun read => container read bytes) fun item bytes =>
      body item bytes ∧ item.levels ≤ depth := by
  cases hnested with
  | none =>
    intro bytes item rest
    constructor
    · intro hread
      cases hread
    · rintro ⟨front, ⟨hbody, hlevels⟩, rfl⟩
      exact absurd (hnest item front hbody) (Nat.not_lt.mpr hlevels)
  | some hread => exact hcontainer _ _ hread

theorem ArrayBody.levels_pos {count : Nat} {bytes : Bytes} (hbody : ArrayBody count item bytes) :
    0 < item.levels := by
  obtain ⟨items, _, _, rfl⟩ := hbody
  exact Nat.succ_pos _

theorem MapBody.levels_pos {count : Nat} {bytes : Bytes} (hbody : MapBody count item bytes) :
    0 < item.levels := by
  obtain ⟨entries, _, _, rfl⟩ := hbody
  exact Nat.succ_pos _

theorem ExtBody.levels_pos {count : Nat} {bytes : Bytes} (hbody : ExtBody count item bytes) :
    0 < item.levels := by
  obtain ⟨tag, content, _, _, rfl⟩ := hbody
  exact Nat.one_pos

/-- What is flat is within every depth. -/
theorem takes_flat {α : Type} {form : α → Bytes → Prop} {make : α → Item} {readContent : Reader α}
    (hread : Takes readContent form) (hflat : ∀ a, (make a).levels = 0) :
    Takes (Reader.map make readContent) fun item bytes =>
      (∃ a, form a bytes ∧ item = make a) ∧ item.levels ≤ depth := by
  apply (hread.map make).congr
  intro item bytes
  constructor
  · rintro ⟨a, hform, rfl⟩
    exact ⟨⟨a, hform, rfl⟩, (hflat a).symm ▸ Nat.zero_le depth⟩
  · rintro ⟨hform, _⟩
    exact hform

/-- After a first byte the reader takes what this byte announces. -/
theorem takes_readWith {nested : Option (Reader Item)} (hnested : Nests nested depth) (b : UInt8) :
    Takes (fun bytes => readWith nested (b :: bytes)) fun item bytes =>
      (head b).Leads item bytes ∧ item.levels ≤ depth := by
  have hflat := isFlat_head b
  simp only [readWith]
  generalize head b = first at hflat ⊢
  cases first with
  | done found =>
    intro bytes item rest
    constructor
    · rintro ⟨⟩
      exact ⟨[], ⟨⟨rfl, rfl⟩, hflat.symm ▸ Nat.zero_le depth⟩, rfl⟩
    · rintro ⟨_, ⟨⟨rfl, rfl⟩, _⟩, rfl⟩
      rfl
  | number width make => exact takes_flat (takes_takeNumber width) hflat
  | counted width make => exact takes_flat (takes_takeCounted width) hflat
  | fixed count make => exact takes_flat (takes_takeBytes count) hflat
  | arrayOf count =>
    exact hnested.takes (fun _ _ hread => takes_readArray hread count)
      fun _ _ => ArrayBody.levels_pos
  | arrayCounted width =>
    exact hnested.takes (fun _ _ hread => takes_counted (takes_readArray hread) width)
      fun _ _ ⟨_, _, _, hbody, _⟩ => hbody.levels_pos
  | mapOf count =>
    exact hnested.takes (fun _ _ hread => takes_readMap hread count) fun _ _ => MapBody.levels_pos
  | mapCounted width =>
    exact hnested.takes (fun _ _ hread => takes_counted (takes_readMap hread) width)
      fun _ _ ⟨_, _, _, hbody, _⟩ => hbody.levels_pos
  | extOf count =>
    exact hnested.takes (fun _ _ _ => takes_readExt count) fun _ _ => ExtBody.levels_pos
  | extCounted width =>
    exact hnested.takes (fun _ _ _ => takes_counted takes_readExt width)
      fun _ _ ⟨_, _, _, hbody, _⟩ => hbody.levels_pos
  | reserved =>
    intro bytes item rest
    constructor
    · rintro ⟨⟩
    · rintro ⟨_, ⟨hleads, _⟩, _⟩
      exact hleads.elim

/-- A reader of items takes their forms within its depth. -/
theorem Nests.takes_within {nested : Option (Reader Item)} (hnested : Nests nested depth) :
    Takes (readWith nested) (Within depth) := by
  intro bytes item rest
  cases bytes with
  | nil =>
    constructor
    · rintro ⟨⟩
    · rintro ⟨front, ⟨hform, _⟩, hbytes⟩
      obtain ⟨b, tail, rfl⟩ := hform.exists_cons
      cases hbytes
  | cons b bytes =>
    rw [takes_readWith hnested b bytes item rest]
    constructor
    · rintro ⟨front, ⟨hleads, hlevels⟩, rfl⟩
      exact ⟨b :: front, ⟨form_of_leads hleads, hlevels⟩, rfl⟩
    · rintro ⟨front, ⟨hform, hlevels⟩, hbytes⟩
      obtain ⟨c, tail, rfl⟩ := hform.exists_cons
      cases hbytes
      exact ⟨tail, ⟨leads_of_form hform, hlevels⟩, rfl⟩

/-- The reader takes exactly the forms of items within its depth. -/
theorem takes_read (depth : Nat) : Takes (Item.read depth) (Within depth) := by
  induction depth with
  | zero => exact Nests.none.takes_within
  | succ depth ih => exact (Nests.some ih).takes_within

/-- An item is read exactly if the bytes begin with one of its forms and its nesting is within
the depth of the reader. -/
theorem read_eq_some_iff {bytes rest : Bytes} :
    Item.read depth bytes = some (item, rest) ↔
      ∃ front, Form item front ∧ item.levels ≤ depth ∧ bytes = front ++ rest := by
  simp only [takes_read depth bytes item rest, Within, and_assoc]

/-- A form is read, whatever comes after it. -/
theorem Form.read_append {bytes : Bytes} (hform : Form item bytes) (hlevels : item.levels ≤ depth)
    (rest : Bytes) : Item.read depth (bytes ++ rest) = some (item, rest) :=
  read_eq_some_iff.mpr ⟨bytes, hform, hlevels, rfl⟩

/-- Bytes begin with a form of one item only, and with one form only. -/
theorem Form.eq_of_append {other : Item} {front front' back back' : Bytes} (hform : Form item front)
    (hother : Form other front') (hbytes : front ++ back = front' ++ back') :
    item = other ∧ back = back' := by
  have hread := hform.read_append (Nat.le_max_left item.levels other.levels) back
  rw [hbytes, hother.read_append (Nat.le_max_right _ _)] at hread
  cases hread
  exact ⟨rfl, rfl⟩

/-- A form of an item that is nested too deeply is not read. -/
theorem Form.read_eq_none {bytes : Bytes} (hform : Form item bytes)
    (hlevels : depth < item.levels) : Item.read depth bytes = none := by
  rw [Option.eq_none_iff_forall_ne_some]
  rintro ⟨found, rest⟩ hread
  obtain ⟨front, hfound, hdepth, hbytes⟩ := read_eq_some_iff.mp hread
  rw [← List.append_nil bytes] at hbytes
  obtain ⟨rfl, _⟩ := hform.eq_of_append hfound hbytes
  exact absurd hdepth (Nat.not_le.mpr hlevels)

end Item
end EngineLink
