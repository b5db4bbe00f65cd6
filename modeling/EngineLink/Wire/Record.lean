import EngineLink.Number.Binary64
import EngineLink.Wire.Item

/-!
# Reading items as typed values

An item reads as an integer, a double, a text or bytes in every form that carries
one.  A byte string is also a list of its bytes.  A record is a map from field names to
values, or a list of the values in the order of the fields.  In a map a key may be the
name as text or as bytes, or the position of the field; unknown keys are passed over and
a repeated field is refused.  A choice is its name alone, or a map with one entry from
its name to its content.
-/

namespace EngineLink
namespace Item

/-- The integer an item carries. -/
def integer? : Item → Option Int
  | .u8 v => some v.toNat
  | .u16 v => some v.toNat
  | .u32 v => some v.toNat
  | .u64 v => some v.toNat
  | .i8 v => some v.toInt
  | .i16 v => some v.toInt
  | .i32 v => some v.toInt
  | .i64 v => some v.toInt
  | _ => none

/-- The position an item carries: an integer sent without a sign. -/
def position? : Item → Option Nat
  | .u8 v => some v.toNat
  | .u16 v => some v.toNat
  | .u32 v => some v.toNat
  | .u64 v => some v.toNat
  | _ => none

/-- An integer between two bounds. -/
def bounded? (least greatest : Int) (item : Item) : Option Int :=
  item.integer?.filter fun i => least ≤ i && i ≤ greatest

/-- An item read as a signed integer of thirty-two bits. -/
def int32? (item : Item) : Option Int32 :=
  (item.bounded? Int32.minValue.toInt Int32.maxValue.toInt).map Int32.ofInt

/-- An item read as a signed integer of sixty-four bits. -/
def int64? (item : Item) : Option Int64 :=
  (item.bounded? Int64.minValue.toInt Int64.maxValue.toInt).map Int64.ofInt

/-- An item read as an unsigned integer of thirty-two bits. -/
def uint32? (item : Item) : Option UInt32 :=
  (item.bounded? 0 0xffffffff).map fun i => UInt32.ofNat i.toNat

/-- An item read as an unsigned integer of sixty-four bits. -/
def uint64? (item : Item) : Option UInt64 :=
  (item.bounded? 0 0xffffffffffffffff).map fun i => UInt64.ofNat i.toNat

/-- An item read as one byte. -/
def byte? (item : Item) : Option UInt8 :=
  (item.bounded? 0 255).map fun i => UInt8.ofNat i.toNat

/-- An item read as a double: of either precision, or an integer. -/
def real? : Item → Option Binary64
  | .f64 bits => some ⟨bits⟩
  | .f32 bits => some (Binary32.toBinary64 ⟨bits⟩)
  | item => item.integer?.map Binary64.ofInt

/-- An item read as a truth value. -/
def bool? : Item → Option Bool
  | .bool b => some b
  | _ => none

/-- An item read as text. -/
def text? : Item → Option String
  | .str bytes => Utf8.decode? bytes
  | .bin bytes => Utf8.decode? bytes
  | _ => none

/-- A byte of a byte string as an item of its own.  It is an integer that carries no
position, so it never stands for a choice. -/
def ofByte (b : UInt8) : Item := .i16 (Int16.ofNat b.toNat)

/-- An item read as a list: an array, or a byte string as the list of its bytes. -/
def list? {α : Type} (read : Item → Option α) : Item → Option (List α)
  | .array items => items.mapM read
  | .bin bytes => bytes.mapM fun b => read (ofByte b)
  | _ => none

/-- An item read as bytes: a byte string, a text of any bytes, or a list of bytes. -/
def blob? : Item → Option Bytes
  | .str bytes => some bytes
  | .bin bytes => some bytes
  | item => item.list? byte?

/-- An item that may be absent: nil stands for nothing. -/
def optional? {α : Type} (read : Item → Option α) : Item → Option (Option α)
  | .nil => some none
  | item => (read item).map some

/-- The bytes of a name, sent as text or as bytes. -/
def nameBytes? : Item → Option Bytes
  | .str bytes => some bytes
  | .bin bytes => some bytes
  | _ => none

/-- Which of some names an item stands for, by name or by position.  The outer
option says whether the item is a key at all, the inner one whether it is one of
the names. -/
def key? (names : List String) (item : Item) : Option (Option Nat) :=
  match item.nameBytes? with
  | some bytes => some (names.findIdx? fun name => Utf8.encode name = bytes)
  | none => item.position?.map fun n => if n < names.length then some n else none

/-- The shortest item of a natural number. -/
def ofNat (n : Nat) : Item :=
  if n < 0x100 then .u8 (UInt8.ofNat n)
  else if n < 0x10000 then .u16 (UInt16.ofNat n)
  else if n < 0x100000000 then .u32 (UInt32.ofNat n)
  else .u64 (UInt64.ofNat n)

/-- The shortest item of an integer: without a sign unless it is negative. -/
def ofInt (i : Int) : Item :=
  if 0 ≤ i then ofNat i.toNat
  else if -0x80 ≤ i then .i8 (Int8.ofInt i)
  else if -0x8000 ≤ i then .i16 (Int16.ofInt i)
  else if -0x80000000 ≤ i then .i32 (Int32.ofInt i)
  else .i64 (Int64.ofInt i)

/-- The item of a text. -/
def ofText (s : String) : Item := .str (Utf8.encode s)

end Item

namespace Record

/-- The fields among the entries of a map, by position, each at most once.  How a
key is told is a parameter. -/
def known (key : Item → Option (Option Nat)) : List (Item × Item) → Option (List (Nat × Item))
  | [] => some []
  | (k, value) :: rest =>
    (key k).bind fun position =>
      (known key rest).bind fun fields =>
        match position with
        | none => some fields
        | some i => if fields.any (·.1 = i) then none else some ((i, value) :: fields)

/-- The fields of a list, the first at position zero. -/
def numbered (items : List Item) : List (Nat × Item) :=
  items.zipIdx.map fun (value, i) => (i, value)

/-- The fields of an array; there may not be more than {lit}`count`. -/
def positional (count : Nat) (items : List Item) : Option (List (Nat × Item)) :=
  if items.length ≤ count then some (numbered items) else none

/-- The fields of a record with the given names.  Bytes after those of the fields are
passed over. -/
def fields (names : List String) : Item → Option (List (Nat × Item))
  | .map entries => known (Item.key? names) entries
  | .array items => positional names.length items
  | .bin bytes => some (numbered ((bytes.take names.length).map Item.ofByte))
  | _ => none

/-- Read the field at a position, which must be there. -/
def required {α : Type} (read : Item → Option α) (position : Nat) (fields : List (Nat × Item)) :
    Option α :=
  (fields.lookup position).bind read

/-- Read the field at a position, or take its default when it is left out. -/
def defaulted {α : Type} (read : Item → Option α) (default : α) (position : Nat)
    (fields : List (Nat × Item)) : Option α :=
  match fields.lookup position with
  | some item => read item
  | none => some default

/-- The item of a record, its fields under their names. -/
def toItem (fields : List (String × Item)) : Item :=
  .map (fields.map fun (name, value) => (Item.ofText name, value))

end Record

namespace Choice

/-- The choice an item stands for, by position among the names, with its content
when it has the form of a map. -/
def select (names : List String) : Item → Option (Nat × Option Item)
  | .map [(k, content)] => ((k.key? names).bind id).map fun i => (i, some content)
  | .map _ => none
  | item => ((item.key? names).bind id).map fun i => (i, none)

/-- Whether the content is that of a choice without any: absent or nil. -/
def isBare : Option Item → Bool
  | none => true
  | some .nil => true
  | some _ => false

end Choice
end EngineLink
