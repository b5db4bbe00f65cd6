import EngineLink.Page.Store
import EngineLink.Proofs.Message.RoundTrip
import Mathlib.Algebra.GroupWithZero.Nat

/-!
# Page budgets and the wire

A page is filled up to a budget that counts what its values hold: the bytes of texts and blobs,
eight for a number and one for null.  On the wire every row and every value has a head besides,
and an empty text is nothing but heads.  How much larger a page is on the wire than its budget
depends on what stands in its rows.

Main results:

- Theorem {lit}`Page.slice_fits`: a page of several rows keeps to its budget.
- Theorem {lit}`Page.writtenSize_toItem`: the bytes of a page, row by row.
- Theorem {lit}`Row.compact_of_solid`: which rows take at most seven bytes on the wire for each byte
  they count for.
- Theorem {lit}`StoredResult.encode_page_of_compact`: the pages of such rows fit the wire at a
  budget of two mebibytes.
-/

namespace EngineLink

/-! ## What rows count for -/

/-- The bytes some rows count for against a page budget. -/
def totalSize (rows : List Row) : Nat := (rows.map Row.size).sum

@[simp]
theorem totalSize_nil : totalSize [] = 0 :=
  rfl

@[simp]
theorem totalSize_cons (row : Row) (rest : List Row) :
    totalSize (row :: rest) = row.size + totalSize rest :=
  List.sum_cons

namespace Page

/-- The rows taken after some bytes are used up fit the rest of the budget. -/
theorem takeWithin_fits (budget used : Nat) (rows : List Row) :
    takeWithin budget used rows = [] ∨ used + totalSize (takeWithin budget used rows) ≤ budget := by
  induction rows generalizing used with
  | nil => exact .inl rfl
  | cons row rest ih =>
    simp only [takeWithin]
    split
    · exact .inl rfl
    · right
      rcases ih (used + row.size) with hnone | hfits
      · rw [hnone, totalSize_cons, totalSize_nil]
        omega
      · rw [totalSize_cons]
        omega

/-- A slice has one row at most, or its rows fit the budget. -/
theorem slice_fits (budget : Nat) (rows : List Row) :
    (slice budget rows).length ≤ 1 ∨ totalSize (slice budget rows) ≤ budget := by
  cases rows with
  | nil => exact .inl (by simp [slice])
  | cons row rest =>
    rcases takeWithin_fits budget row.size rest with hnone | hfits
    · exact .inl (by simp [slice, hnone])
    · exact .inr (by rwa [slice, totalSize_cons])

/-- Nothing is cut off as long as everything fits. -/
theorem takeWithin_eq_self {budget used : Nat} {rows : List Row}
    (hfits : used + totalSize rows ≤ budget) : takeWithin budget used rows = rows := by
  induction rows generalizing used with
  | nil => rfl
  | cons row rest ih =>
    rw [totalSize_cons] at hfits
    have hrow : ¬ budget < used + row.size := by omega
    rw [takeWithin, if_neg hrow, ih (by omega)]

/-- Rows that fit the budget together are one slice. -/
theorem slice_eq_self {budget : Nat} {rows : List Row} (hfits : totalSize rows ≤ budget) :
    slice budget rows = rows := by
  cases rows with
  | nil => rfl
  | cons row rest =>
    rw [totalSize_cons] at hfits
    rw [slice, takeWithin_eq_self hfits]

end Page

/-! ## What rows take on the wire -/

namespace Item

theorem writtenSizeAll_eq_sum (items : List Item) :
    writtenSizeAll items = (items.map writtenSize).sum := by
  induction items with
  | nil => rfl
  | cons item items ih => rw [writtenSizeAll, List.map_cons, List.sum_cons, ih]

theorem length_arrayHead_le (count : Nat) : (Wire.arrayHead count).length ≤ 5 := by
  unfold Wire.arrayHead
  split
  · simp
  · split <;> simp

end Item

/-- A record of one field under a short name. -/
theorem Record.writtenSize_single {name : String} {item : Item} :
    (Record.toItem [(name, item)]).writtenSize =
      1 + (Item.ofText name).writtenSize + item.writtenSize := by
  have hhead : (Wire.mapHead 1).length = 1 := by decide
  simp only [Record.toItem, List.map_cons, List.map_nil, List.length_cons, List.length_nil,
    Item.writtenSize, Item.writtenSizeEntries, hhead]
  omega

namespace Value

/-- A text takes its bytes and eight or more for its heads. -/
theorem writtenSize_text (s : String) :
    (toItem (.text s)).writtenSize =
      8 + (Wire.strHead s.utf8ByteSize).length + s.utf8ByteSize := by
  have hname : (Item.ofText "string").writtenSize = 7 := by decide
  have hbytes : (Utf8.encode s).length = s.utf8ByteSize := by simp [Utf8.encode]
  rw [toItem, Record.writtenSize_single, hname, Item.ofText, Item.writtenSize, hbytes]
  omega

theorem writtenSize_blob (bytes : Bytes) :
    (toItem (.blob bytes)).writtenSize = 6 + (Wire.binHead bytes.length).length + bytes.length := by
  have hname : (Item.ofText "blob").writtenSize = 5 := by decide
  rw [toItem, Record.writtenSize_single, hname, Item.writtenSize]
  omega

/-- A value is solid unless it is a text or a blob of fewer than two bytes. -/
def IsSolid : Value → Prop
  | .text s => 2 ≤ s.utf8ByteSize
  | .blob bytes => 2 ≤ bytes.length
  | _ => True

/-- A solid value takes less than seven bytes on the wire for each byte it counts for. -/
theorem IsSolid.writtenSize_le {v : Value} (hsolid : v.IsSolid) :
    v.toItem.writtenSize + 2 ≤ 7 * v.size := by
  cases v with
  | null =>
    have hnull : (toItem .null).writtenSize = 5 := by decide
    have hcounts : size .null = 1 := rfl
    omega
  | integer v =>
    have hname : (Item.ofText "long").writtenSize = 5 := by decide
    have hnumber := Item.writtenSize_ofInt_le v.toInt
    rw [toItem, Record.writtenSize_single, hname, size]
    omega
  | real v =>
    have hname : (Item.ofText "double").writtenSize = 7 := by decide
    rw [toItem, Record.writtenSize_single, hname, Item.writtenSize, size]
    omega
  | text s =>
    have hlong : 2 ≤ s.utf8ByteSize := hsolid
    rw [writtenSize_text, size]
    unfold Wire.strHead
    repeat' split
    all_goals simp only [List.length_cons, List.length_nil, Wire.length_bigEndian]; omega
  | blob bytes =>
    have hlong : 2 ≤ bytes.length := hsolid
    rw [writtenSize_blob, size]
    unfold Wire.binHead
    repeat' split
    all_goals simp only [List.length_cons, Wire.length_bigEndian]; omega

end Value

namespace Row

theorem size_cons (v : Value) (rest : Row) : size (v :: rest) = v.size + size rest :=
  rfl

/-- The bytes of a row on the wire. -/
def wireSize (row : Row) : Nat := (Item.array (row.map Value.toItem)).writtenSize

/-- A row takes its head and what its values take. -/
theorem wireSize_eq (row : Row) :
    row.wireSize = (Wire.arrayHead row.length).length +
      (row.map fun v => v.toItem.writtenSize).sum := by
  rw [wireSize, Item.writtenSize, List.length_map, Item.writtenSizeAll_eq_sum, List.map_map]
  rfl

/-- A row is compact if it takes no more than seven bytes on the wire for each byte it counts
for. -/
def Compact (row : Row) : Prop := row.wireSize ≤ 7 * row.size

instance (row : Row) : Decidable row.Compact := inferInstanceAs (Decidable (_ ≤ _))

/-- A row of solid values is compact. -/
theorem compact_of_solid {row : Row} (hsome : row ≠ []) (hsolid : ∀ v ∈ row, v.IsSolid) :
    row.Compact := by
  have hvalues : (row.map fun v => v.toItem.writtenSize).sum + 2 * row.length ≤ 7 * row.size := by
    clear hsome
    induction row with
    | nil => exact Nat.le_refl 0
    | cons v rest ih =>
      have hfirst := (hsolid v List.mem_cons_self).writtenSize_le
      have hothers := ih fun other hother => hsolid other (List.mem_cons_of_mem _ hother)
      rw [List.map_cons, List.sum_cons, List.length_cons, size_cons]
      omega
  have hhead : (Wire.arrayHead row.length).length ≤ 2 * row.length := by
    have hlength := List.length_pos_iff.mpr hsome
    unfold Wire.arrayHead
    repeat' split
    all_goals simp only [List.length_cons, List.length_nil, Wire.length_bigEndian]; omega
  rw [Compact, wireSize_eq]
  omega

end Row

theorem sum_wireSize_le {rows : List Row} (hcompact : ∀ row ∈ rows, row.Compact) :
    (rows.map Row.wireSize).sum ≤ 7 * totalSize rows := by
  induction rows with
  | nil => exact Nat.le_refl 0
  | cons row rest ih =>
    have hrow : row.wireSize ≤ 7 * row.size := hcompact row List.mem_cons_self
    have hrest := ih fun other hother => hcompact other (List.mem_cons_of_mem _ hother)
    rw [List.map_cons, List.sum_cons, totalSize_cons]
    omega

namespace Page

/-- The bytes of a page: the names of its fields, its three numbers, and its rows. -/
theorem writtenSize_toItem (p : Page) :
    p.toItem.writtenSize =
      44 + (Item.ofInt p.sequence.toInt).writtenSize + (Item.ofInt p.start.toInt).writtenSize +
        (Item.ofInt p.total.toInt).writtenSize + (Wire.arrayHead p.rows.length).length +
          (p.rows.map Row.wireSize).sum := by
  have hsequence : (Item.ofText "sequence_number").writtenSize = 16 := by decide
  have hstart : (Item.ofText "start_index").writtenSize = 12 := by decide
  have htotal : (Item.ofText "row_count").writtenSize = 10 := by decide
  have hrows : (Item.ofText "rows").writtenSize = 5 := by decide
  have hhead : (Wire.mapHead 4).length = 1 := by decide
  have hall : (p.rows.map fun row => Item.array (row.map Value.toItem)).map Item.writtenSize =
      p.rows.map Row.wireSize := by
    rw [List.map_map]
    rfl
  simp only [toItem, Record.toItem, List.map_cons, List.map_nil, List.length_cons, List.length_nil,
    Item.writtenSize, Item.writtenSizeEntries, hsequence, hstart, htotal, hrows, hhead]
  rw [List.length_map, Item.writtenSizeAll_eq_sum, hall]
  omega

/-- Besides its rows a page has few bytes. -/
theorem writtenSize_toItem_le (p : Page) :
    p.toItem.writtenSize ≤ 76 + (p.rows.map Row.wireSize).sum := by
  have hsequence := Item.writtenSize_ofInt_le p.sequence.toInt
  have hstart := Item.writtenSize_ofInt_le p.start.toInt
  have htotal := Item.writtenSize_ofInt_le p.total.toInt
  have hhead := Item.length_arrayHead_le p.rows.length
  rw [writtenSize_toItem]
  omega

/-- A page of compact rows within two mebibytes fits the wire. -/
theorem encode_of_compact {p : Page} (hcompact : ∀ row ∈ p.rows, row.Compact)
    (hsize : totalSize p.rows ≤ 2 * 1024 * 1024) : ∃ bytes, encode p = .ok bytes := by
  have hrows := sum_wireSize_le hcompact
  have hpage : (Wired.toItem p).writtenSize ≤ 76 + (p.rows.map Row.wireSize).sum :=
    p.writtenSize_toItem_le
  have hlimit : maxMessageSize = 16 * 1024 * 1024 := rfl
  exact ⟨_, encode_eq_ok_iff.mpr ⟨by omega, rfl⟩⟩

end Page

/-! ## The pages of a result -/

namespace StoredResult

/-- Every row fits the wire on a page of its own. -/
def RowsFitAlone (result : StoredResult) : Prop :=
  ∀ (start : Int64) (row : Row), 0 ≤ start.toInt → result.rows[start.toInt.toNat]? = some row →
    ∃ bytes, encode { result.page start with rows := [row] } = .ok bytes

/-- A row that is not too large fits, whatever numbers are on its page. -/
theorem rowsFitAlone_of_wireSize_le {result : StoredResult}
    (hsmall : ∀ row ∈ result.rows, 76 + row.wireSize ≤ maxMessageSize) : result.RowsFitAlone := by
  intro start row hstart hrow
  have hwritten : (Wired.toItem { result.page start with rows := [row] }).writtenSize ≤
      76 + ([row].map Row.wireSize).sum := Page.writtenSize_toItem_le _
  have hlimit := hsmall row (List.mem_of_getElem? hrow)
  rw [List.map_singleton, List.sum_singleton] at hwritten
  exact ⟨_, encode_eq_ok_iff.mpr ⟨by omega, rfl⟩⟩

/-- A page within a budget of two mebibytes fits the wire if its rows do one by one and are
compact. -/
theorem encode_page_of_compact {result : StoredResult} (hbudget : result.budget = 2 * 1024 * 1024)
    (halone : result.RowsFitAlone) (hcompact : ∀ row ∈ result.rows, row.Compact) {start : Int64}
    (hstart : 0 ≤ start.toInt) : ∃ bytes, encode (result.page start) = .ok bytes := by
  have hfront : (result.page start).rows <+: result.rows.drop start.toInt.toNat :=
    Page.slice_isPrefix _ _
  have hrows : ∀ row ∈ (result.page start).rows, row.Compact := by
    intro row hrow
    apply hcompact
    exact List.mem_of_mem_drop (hfront.subset hrow)
  have hsize : (result.page start).rows.length ≤ 1 ∨
      totalSize (result.page start).rows ≤ result.budget := Page.slice_fits _ _
  rcases hsize with hone | hfits
  · cases hpage : (result.page start).rows with
    | nil =>
      apply Page.encode_of_compact hrows
      rw [hpage, totalSize_nil]
      omega
    | cons row rest =>
      rw [hpage, List.length_cons] at hone
      obtain rfl : rest = [] := List.length_eq_zero_iff.mp (by omega)
      -- The only row of the page is the row it begins at.
      have hrow : result.rows[start.toInt.toNat]? = some row := by
        rw [hpage] at hfront
        obtain ⟨others, hothers⟩ := hfront
        rw [← List.head?_drop, ← hothers]
        rfl
      have hsame : result.page start = { result.page start with rows := [row] } := by
        rw [← hpage]
      rw [hsame]
      exact halone start row hstart hrow
  · rw [hbudget] at hfits
    exact Page.encode_of_compact hrows hfits

end StoredResult
end EngineLink
