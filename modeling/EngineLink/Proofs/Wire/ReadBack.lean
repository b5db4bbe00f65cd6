import EngineLink.Proofs.Wire.Forms

/-!
# Reading items back

What is written is one of the forms of the item, so it is read back from the front of its own
bytes, whatever bytes come after it, as long as its counts fit the widest head and its nesting
fits the reader.  The first condition is about the item alone, because
{lit}`Item.writtenSize` bounds every count in it.

Main results:

- Theorem {lit}`Item.length_writeOnto`: the size found before writing is the number of bytes
  written.
- Theorem {lit}`Item.form_write`: the bytes written for an item are a form of it.
- Theorem {lit}`Item.read_write_append`: an item is read back with the bytes after it.
-/

namespace EngineLink
namespace Item

open Wire

/-! ## Sizes -/

/-- Every item takes at least one byte. -/
theorem writtenSize_pos (item : Item) : 0 < item.writtenSize := by
  cases item with
  | str bytes => grind [writtenSize, strHead]
  | bin bytes => grind [writtenSize, binHead]
  | array items => grind [writtenSize, arrayHead]
  | map entries => grind [writtenSize, mapHead]
  | ext tag bytes => grind [writtenSize]
  | _ => grind [writtenSize]

/-- Several items take at least as many bytes as there are items. -/
theorem length_le_writtenSizeAll (items : List Item) : items.length ≤ writtenSizeAll items := by
  induction items with
  | nil => simp [writtenSizeAll]
  | cons item items ih =>
    have hpos := writtenSize_pos item
    simp only [List.length_cons, writtenSizeAll]
    omega

/-- The entries of a map take at least as many bytes as there are entries. -/
theorem length_le_writtenSizeEntries (entries : List (Item × Item)) :
    entries.length ≤ writtenSizeEntries entries := by
  induction entries with
  | nil => simp [writtenSizeEntries]
  | cons entry entries ih =>
    obtain ⟨key, value⟩ := entry
    have hpos := writtenSize_pos key
    simp only [List.length_cons, writtenSizeEntries]
    omega

mutual

/-- The size found before writing is the number of bytes written. -/
theorem length_writeOnto (item : Item) (rest : Bytes) :
    (item.writeOnto rest).length = item.writtenSize + rest.length := by
  match item with
  | .u8 v => grind [writeOnto, writtenSize]
  | .i8 v => grind [writeOnto, writtenSize]
  | .str bytes => grind [writeOnto, writtenSize]
  | .bin bytes => grind [writeOnto, writtenSize]
  | .ext tag bytes => grind [writeOnto, writtenSize]
  | .array items =>
    have hitems := length_writeAllOnto items rest
    grind [writeOnto, writtenSize]
  | .map entries =>
    have hentries := length_writeEntriesOnto entries rest
    grind [writeOnto, writtenSize]
  | .nil | .bool _ | .u16 _ | .u32 _ | .u64 _ | .i16 _ | .i32 _ | .i64 _ | .f32 _ | .f64 _ =>
    simp [writeOnto, writtenSize]
    omega

/-- The size of several items is the number of bytes written for them. -/
theorem length_writeAllOnto (items : List Item) (rest : Bytes) :
    (writeAllOnto items rest).length = writtenSizeAll items + rest.length := by
  match items with
  | [] => simp [writeAllOnto, writtenSizeAll]
  | item :: items =>
    rw [writeAllOnto, writtenSizeAll, length_writeOnto item, length_writeAllOnto items]
    omega

/-- The size of the entries of a map is the number of bytes written for them. -/
theorem length_writeEntriesOnto (entries : List (Item × Item)) (rest : Bytes) :
    (writeEntriesOnto entries rest).length = writtenSizeEntries entries + rest.length := by
  match entries with
  | [] => simp [writeEntriesOnto, writtenSizeEntries]
  | (key, value) :: entries =>
    rw [writeEntriesOnto, writtenSizeEntries, length_writeOnto key, length_writeOnto value,
      length_writeEntriesOnto entries]
    omega

end

mutual

/-- Bytes after an item stay behind everything that is written. -/
theorem writeOnto_append (item : Item) (front back : Bytes) :
    item.writeOnto (front ++ back) = item.writeOnto front ++ back := by
  match item with
  | .array items =>
    simp only [writeOnto, writeAllOnto_append items, List.append_assoc]
  | .map entries =>
    simp only [writeOnto, writeEntriesOnto_append entries, List.append_assoc]
  | .u8 _ | .i8 _ =>
    simp only [writeOnto]
    split <;> rfl
  | .nil | .bool _ | .u16 _ | .u32 _ | .u64 _ | .i16 _ | .i32 _ | .i64 _ | .f32 _ | .f64 _
  | .str _ | .bin _ | .ext _ _ =>
    simp [writeOnto]

/-- Bytes after several items stay behind everything that is written. -/
theorem writeAllOnto_append (items : List Item) (front back : Bytes) :
    writeAllOnto items (front ++ back) = writeAllOnto items front ++ back := by
  match items with
  | [] => rfl
  | item :: items =>
    rw [writeAllOnto, writeAllOnto, writeAllOnto_append items, writeOnto_append item]

/-- Bytes after the entries of a map stay behind everything that is written. -/
theorem writeEntriesOnto_append (entries : List (Item × Item)) (front back : Bytes) :
    writeEntriesOnto entries (front ++ back) = writeEntriesOnto entries front ++ back := by
  match entries with
  | [] => rfl
  | (key, value) :: entries =>
    rw [writeEntriesOnto, writeEntriesOnto, writeEntriesOnto_append entries,
      writeOnto_append value, writeOnto_append key]

end

/-! ## Written forms -/

/-- A short count stands in its byte. -/
theorem mem_shortCounts_self {first bound count : Nat} (hcount : count < bound) :
    (count, UInt8.ofNat (first + count)) ∈ shortCounts first bound :=
  List.mem_map.mpr ⟨count, List.mem_range.mpr hcount, rfl⟩

/-- The head written for a text announces its length. -/
theorem announces_strHead {count : Nat} (hcount : count < 2 ^ 32) :
    strHeads.Announces count (strHead count) := by
  unfold strHead
  split
  · rename_i hshort
    exact .short (mem_shortCounts_self hshort)
  split
  · rename_i hbyte
    exact .marked (by simp [strHeads]) hbyte
  split
  · rename_i hword
    exact .marked (by simp [strHeads]) hword
  · exact .marked (by simp [strHeads]) hcount

/-- The head written for a byte string announces its length. -/
theorem announces_binHead {count : Nat} (hcount : count < 2 ^ 32) :
    binHeads.Announces count (binHead count) := by
  unfold binHead
  split
  · rename_i hbyte
    exact .marked (by simp [binHeads]) hbyte
  split
  · rename_i hword
    exact .marked (by simp [binHeads]) hword
  · exact .marked (by simp [binHeads]) hcount

/-- The head written for an array announces the number of its items. -/
theorem announces_arrayHead {count : Nat} (hcount : count < 2 ^ 32) :
    arrayHeads.Announces count (arrayHead count) := by
  unfold arrayHead
  split
  · rename_i hshort
    exact .short (mem_shortCounts_self hshort)
  split
  · rename_i hword
    exact .marked (by simp [arrayHeads]) hword
  · exact .marked (by simp [arrayHeads]) hcount

/-- The head written for a map announces the number of its entries. -/
theorem announces_mapHead {count : Nat} (hcount : count < 2 ^ 32) :
    mapHeads.Announces count (mapHead count) := by
  unfold mapHead
  split
  · rename_i hshort
    exact .short (mem_shortCounts_self hshort)
  split
  · rename_i hword
    exact .marked (by simp [mapHeads]) hword
  · exact .marked (by simp [mapHeads]) hcount

/-- The head written for an extension announces its length. -/
theorem announces_extHead {count : Nat} (hcount : count < 2 ^ 32) :
    extHeads.Announces count (extHead count) := by
  unfold extHead
  split
  · rename_i hone
    exact .short (by simp [extHeads, hone])
  split
  · rename_i htwo
    exact .short (by simp [extHeads, htwo])
  split
  · rename_i hfour
    exact .short (by simp [extHeads, hfour])
  split
  · rename_i height
    exact .short (by simp [extHeads, height])
  split
  · rename_i hsixteen
    exact .short (by simp [extHeads, hsixteen])
  split
  · rename_i hbyte
    exact .marked (by simp [extHeads]) hbyte
  split
  · rename_i hword
    exact .marked (by simp [extHeads]) hword
  · exact .marked (by simp [extHeads]) hcount

/-- Writing in front of other bytes puts the bytes of the item there. -/
theorem writeOnto_eq (item : Item) (rest : Bytes) : item.writeOnto rest = item.write ++ rest := by
  rw [write, ← writeOnto_append, List.nil_append]

mutual

/-- The bytes written for an item are a form of it. -/
theorem form_write (item : Item) (hsize : item.writtenSize < 2 ^ 32) : Form item item.write := by
  unfold write
  match item with
  | .nil => exact .nil
  | .bool true => exact .yes
  | .bool false => exact .no
  | .u8 v =>
    unfold writeOnto
    split
    · rename_i hsmall
      exact .small hsmall
    · exact .u8 v
  | .i8 v =>
    unfold writeOnto
    split
    · rename_i hsmall
      exact .smallNegative hsmall.1 hsmall.2
    · exact .i8 v
  | .u16 v => simpa [writeOnto] using Form.u16 v
  | .u32 v => simpa [writeOnto] using Form.u32 v
  | .u64 v => simpa [writeOnto] using Form.u64 v
  | .i16 v => simpa [writeOnto] using Form.i16 v
  | .i32 v => simpa [writeOnto] using Form.i32 v
  | .i64 v => simpa [writeOnto] using Form.i64 v
  | .f32 bits => simpa [writeOnto] using Form.f32 bits
  | .f64 bits => simpa [writeOnto] using Form.f64 bits
  | .str text =>
    simp only [writtenSize] at hsize
    simpa [writeOnto] using Form.str (announces_strHead (by omega))
  | .bin content =>
    simp only [writtenSize] at hsize
    simpa [writeOnto] using Form.bin (announces_binHead (by omega))
  | .array items =>
    simp only [writtenSize] at hsize
    have hcount := length_le_writtenSizeAll items
    rw [writeOnto]
    exact .array (announces_arrayHead (by omega)) (series_writeAllOnto items (by omega))
  | .map entries =>
    simp only [writtenSize] at hsize
    have hcount := length_le_writtenSizeEntries entries
    rw [writeOnto]
    exact .map (announces_mapHead (by omega)) (series_writeEntriesOnto entries (by omega))
  | .ext tag content =>
    simp only [writtenSize] at hsize
    simpa [writeOnto] using Form.ext tag (announces_extHead (by omega))

/-- The bytes written for several items are forms of them, one after the other. -/
theorem series_writeAllOnto (items : List Item) (hsize : writtenSizeAll items < 2 ^ 32) :
    Series Form items (writeAllOnto items []) := by
  match items with
  | [] => exact .nil
  | item :: items =>
    simp only [writtenSizeAll] at hsize
    rw [writeAllOnto, writeOnto_eq]
    exact .cons (form_write item (by omega)) (series_writeAllOnto items (by omega))

/-- The bytes written for the entries of a map are forms of them, one after the other. -/
theorem series_writeEntriesOnto (entries : List (Item × Item))
    (hsize : writtenSizeEntries entries < 2 ^ 32) :
    Series (Pair Form Form) entries (writeEntriesOnto entries []) := by
  match entries with
  | [] => exact .nil
  | (key, value) :: entries =>
    simp only [writtenSizeEntries] at hsize
    have hkey := form_write key (by omega)
    have hvalue := form_write value (by omega)
    rw [writeEntriesOnto, writeOnto_eq key, writeOnto_eq value, ← List.append_assoc]
    exact .cons (.intro hkey hvalue) (series_writeEntriesOnto entries (by omega))

end

/-- An item is read back from the front of its bytes. -/
theorem read_write_append {item : Item} {depth : Nat} (hlevels : item.levels ≤ depth)
    (hsize : item.writtenSize < 2 ^ 32) (rest : Bytes) :
    Item.read depth (item.write ++ rest) = some (item, rest) :=
  (form_write item hsize).read_append hlevels rest

end Item
end EngineLink
