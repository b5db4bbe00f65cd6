import EngineLink.Text.Utf8

/-!
# Wire items

The bytes of a message are a MessagePack value.  An {lit}`Item` is such a value with
the width and signedness its integers were sent in; {lit}`Item.write` chooses the
shortest form of every head, and {lit}`Item.read` accepts all of them, gives back
the bytes after the value, and refuses values nested too deeply.
-/

namespace EngineLink

/-- A wire value. -/
inductive Item where
  | nil
  | bool (b : Bool)
  | u8 (v : UInt8)
  | u16 (v : UInt16)
  | u32 (v : UInt32)
  | u64 (v : UInt64)
  | i8 (v : Int8)
  | i16 (v : Int16)
  | i32 (v : Int32)
  | i64 (v : Int64)
  | f32 (bits : UInt32)
  | f64 (bits : UInt64)
  | str (bytes : Bytes)
  | bin (bytes : Bytes)
  | array (items : List Item)
  | map (entries : List (Item × Item))
  | ext (tag : UInt8) (bytes : Bytes)
  deriving Inhabited

/-- A reader takes a value off the front of some bytes. -/
abbrev Reader (α : Type) := Bytes → Option (α × Bytes)

namespace Wire

/-- The last {lit}`width` base-256 digits of a number, most significant first. -/
def bigEndian : (width : Nat) → Nat → Bytes
  | 0, _ => []
  | width + 1, n => UInt8.ofNat (n / Nat.pow 256 width) :: bigEndian width n

/-- The number whose base-256 digits are the given bytes. -/
def ofBigEndian (bytes : Bytes) : Nat := bytes.foldl (fun n b => n * 256 + b.toNat) 0

/-- Take a number of bytes; there must be that many. -/
def takeBytes : (count : Nat) → Reader Bytes := fun count bytes =>
  let front := bytes.take count
  if front.length = count then some (front, bytes.drop count) else none

/-- Take a big-endian number of the given width. -/
def takeNumber (width : Nat) : Reader Nat := fun bytes =>
  (takeBytes width bytes).map fun (front, rest) => (ofBigEndian front, rest)

/-- Take a number of bytes whose count stands before them. -/
def takeCounted (width : Nat) : Reader Bytes := fun bytes =>
  (takeNumber width bytes).bind fun (count, rest) => takeBytes count rest

/-- Collect {lit}`count` values in front of those read so far, newest first. -/
def takeManyOnto {α : Type} (read : Reader α) : (count : Nat) → List α → Reader (List α)
  | 0, done, bytes => some (done.reverse, bytes)
  | count + 1, done, bytes =>
    match read bytes with
    | some (a, rest) => takeManyOnto read count (a :: done) rest
    | none => none

/-- Take {lit}`count` values, one after the other. -/
def takeMany {α : Type} (read : Reader α) (count : Nat) : Reader (List α) :=
  takeManyOnto read count []

/-- Take one value after another. -/
def takePair {α β : Type} (first : Reader α) (second : Reader β) : Reader (α × β) := fun bytes =>
  (first bytes).bind fun (a, rest) => (second rest).map fun (b, rest) => ((a, b), rest)

/-- Change what a reader gives. -/
def Reader.map {α β : Type} (f : α → β) (read : Reader α) : Reader β := fun bytes =>
  (read bytes).map fun (a, rest) => (f a, rest)

/-- The head of a text: one byte below 32 bytes, otherwise a count of one, two or
four bytes. -/
def strHead (count : Nat) : Bytes :=
  if count < 32 then [UInt8.ofNat (0xa0 + count)]
  else if count < 0x100 then 0xd9 :: bigEndian 1 count
  else if count < 0x10000 then 0xda :: bigEndian 2 count
  else 0xdb :: bigEndian 4 count

/-- The head of a byte string. -/
def binHead (count : Nat) : Bytes :=
  if count < 0x100 then 0xc4 :: bigEndian 1 count
  else if count < 0x10000 then 0xc5 :: bigEndian 2 count
  else 0xc6 :: bigEndian 4 count

/-- The head of an array. -/
def arrayHead (count : Nat) : Bytes :=
  if count < 16 then [UInt8.ofNat (0x90 + count)]
  else if count < 0x10000 then 0xdc :: bigEndian 2 count
  else 0xdd :: bigEndian 4 count

/-- The head of a map. -/
def mapHead (count : Nat) : Bytes :=
  if count < 16 then [UInt8.ofNat (0x80 + count)]
  else if count < 0x10000 then 0xde :: bigEndian 2 count
  else 0xdf :: bigEndian 4 count

/-- The head of an extension: the lengths one, two, four, eight and sixteen have
their own. -/
def extHead (count : Nat) : Bytes :=
  if count = 1 then [0xd4]
  else if count = 2 then [0xd5]
  else if count = 4 then [0xd6]
  else if count = 8 then [0xd7]
  else if count = 16 then [0xd8]
  else if count < 0x100 then 0xc7 :: bigEndian 1 count
  else if count < 0x10000 then 0xc8 :: bigEndian 2 count
  else 0xc9 :: bigEndian 4 count

end Wire

namespace Item

open Wire

mutual

/-- The bytes of an item, put in front of others. -/
def writeOnto : Item → Bytes → Bytes
  | .nil, rest => 0xc0 :: rest
  | .bool b, rest => (if b then 0xc3 else 0xc2) :: rest
  | .u8 v, rest => if v < 128 then v :: rest else 0xcc :: v :: rest
  | .u16 v, rest => 0xcd :: (bigEndian 2 v.toNat ++ rest)
  | .u32 v, rest => 0xce :: (bigEndian 4 v.toNat ++ rest)
  | .u64 v, rest => 0xcf :: (bigEndian 8 v.toNat ++ rest)
  | .i8 v, rest => if -32 ≤ v ∧ v < 0 then v.toUInt8 :: rest else 0xd0 :: v.toUInt8 :: rest
  | .i16 v, rest => 0xd1 :: (bigEndian 2 v.toUInt16.toNat ++ rest)
  | .i32 v, rest => 0xd2 :: (bigEndian 4 v.toUInt32.toNat ++ rest)
  | .i64 v, rest => 0xd3 :: (bigEndian 8 v.toUInt64.toNat ++ rest)
  | .f32 bits, rest => 0xca :: (bigEndian 4 bits.toNat ++ rest)
  | .f64 bits, rest => 0xcb :: (bigEndian 8 bits.toNat ++ rest)
  | .str bytes, rest => strHead bytes.length ++ (bytes ++ rest)
  | .bin bytes, rest => binHead bytes.length ++ (bytes ++ rest)
  | .array items, rest => arrayHead items.length ++ writeAllOnto items rest
  | .map entries, rest => mapHead entries.length ++ writeEntriesOnto entries rest
  | .ext tag bytes, rest => extHead bytes.length ++ (tag :: (bytes ++ rest))

/-- The bytes of several items. -/
def writeAllOnto : List Item → Bytes → Bytes
  | [], rest => rest
  | item :: items, rest => writeOnto item (writeAllOnto items rest)

/-- The bytes of the entries of a map, each key before its value. -/
def writeEntriesOnto : List (Item × Item) → Bytes → Bytes
  | [], rest => rest
  | (key, value) :: entries, rest => writeOnto key (writeOnto value (writeEntriesOnto entries rest))

end

/-- The bytes of an item. -/
def write (item : Item) : Bytes := writeOnto item []

mutual

/-- The number of bytes of an item. -/
def writtenSize : Item → Nat
  | .nil => 1
  | .bool _ => 1
  | .u8 v => if v < 128 then 1 else 2
  | .u16 _ => 3
  | .u32 _ => 5
  | .u64 _ => 9
  | .i8 v => if -32 ≤ v ∧ v < 0 then 1 else 2
  | .i16 _ => 3
  | .i32 _ => 5
  | .i64 _ => 9
  | .f32 _ => 5
  | .f64 _ => 9
  | .str bytes => (strHead bytes.length).length + bytes.length
  | .bin bytes => (binHead bytes.length).length + bytes.length
  | .array items => (arrayHead items.length).length + writtenSizeAll items
  | .map entries => (mapHead entries.length).length + writtenSizeEntries entries
  | .ext _ bytes => (extHead bytes.length).length + 1 + bytes.length

/-- The number of bytes of several items. -/
def writtenSizeAll : List Item → Nat
  | [] => 0
  | item :: items => writtenSize item + writtenSizeAll items

/-- The number of bytes of the entries of a map. -/
def writtenSizeEntries : List (Item × Item) → Nat
  | [] => 0
  | (key, value) :: entries => writtenSize key + writtenSize value + writtenSizeEntries entries

end

/-- What the first byte of an item announces. -/
inductive Head where
  | done (item : Item)
  | number (width : Nat) (make : Nat → Item)
  | counted (width : Nat) (make : Bytes → Item)
  | fixed (count : Nat) (make : Bytes → Item)
  | arrayOf (count : Nat)
  | arrayCounted (width : Nat)
  | mapOf (count : Nat)
  | mapCounted (width : Nat)
  | extOf (count : Nat)
  | extCounted (width : Nat)
  | reserved

/-- The meaning of a first byte. -/
def head (b : UInt8) : Head :=
  let n := b.toNat
  if n < 0x80 then .done (.u8 b)
  else if n < 0x90 then .mapOf (n - 0x80)
  else if n < 0xa0 then .arrayOf (n - 0x90)
  else if n < 0xc0 then .fixed (n - 0xa0) .str
  else if 0xe0 ≤ n then .done (.i8 b.toInt8)
  else
    match n with
    | 0xc0 => .done .nil
    | 0xc2 => .done (.bool false)
    | 0xc3 => .done (.bool true)
    | 0xc4 => .counted 1 .bin
    | 0xc5 => .counted 2 .bin
    | 0xc6 => .counted 4 .bin
    | 0xc7 => .extCounted 1
    | 0xc8 => .extCounted 2
    | 0xc9 => .extCounted 4
    | 0xca => .number 4 fun n => .f32 (UInt32.ofNat n)
    | 0xcb => .number 8 fun n => .f64 (UInt64.ofNat n)
    | 0xcc => .number 1 fun n => .u8 (UInt8.ofNat n)
    | 0xcd => .number 2 fun n => .u16 (UInt16.ofNat n)
    | 0xce => .number 4 fun n => .u32 (UInt32.ofNat n)
    | 0xcf => .number 8 fun n => .u64 (UInt64.ofNat n)
    | 0xd0 => .number 1 fun n => .i8 (UInt8.ofNat n).toInt8
    | 0xd1 => .number 2 fun n => .i16 (UInt16.ofNat n).toInt16
    | 0xd2 => .number 4 fun n => .i32 (UInt32.ofNat n).toInt32
    | 0xd3 => .number 8 fun n => .i64 (UInt64.ofNat n).toInt64
    | 0xd4 => .extOf 1
    | 0xd5 => .extOf 2
    | 0xd6 => .extOf 4
    | 0xd7 => .extOf 8
    | 0xd8 => .extOf 16
    | 0xd9 => .counted 1 .str
    | 0xda => .counted 2 .str
    | 0xdb => .counted 4 .str
    | 0xdc => .arrayCounted 2
    | 0xdd => .arrayCounted 4
    | 0xde => .mapCounted 2
    | 0xdf => .mapCounted 4
    | _ => .reserved

/-- Take the items of an array. -/
def readArray (read : Reader Item) (count : Nat) : Reader Item :=
  Reader.map .array (takeMany read count)

/-- Take the entries of a map. -/
def readMap (read : Reader Item) (count : Nat) : Reader Item :=
  Reader.map .map (takeMany (takePair read read) count)

/-- Take an extension of a known length: its tag and its bytes. -/
def readExt (count : Nat) : Reader Item :=
  Reader.map (fun (tag, bytes) => .ext (UInt8.ofNat tag) bytes)
    (takePair (takeNumber 1) (takeBytes count))

/-- Take an item off the front of some bytes, given how to take an item that is
nested in it; without that, nothing may be nested. -/
def readWith (nested : Option (Reader Item)) : Reader Item
  | [] => none
  | b :: rest =>
    match head b with
    | .done item => some (item, rest)
    | .number width make => Reader.map make (takeNumber width) rest
    | .counted width make => Reader.map make (takeCounted width) rest
    | .fixed count make => Reader.map make (takeBytes count) rest
    | .arrayOf count => nested.bind fun read => readArray read count rest
    | .arrayCounted width =>
      nested.bind fun read => (takeNumber width rest).bind fun (count, rest) =>
        readArray read count rest
    | .mapOf count => nested.bind fun read => readMap read count rest
    | .mapCounted width =>
      nested.bind fun read => (takeNumber width rest).bind fun (count, rest) =>
        readMap read count rest
    | .extOf count => nested.bind fun _ => readExt count rest
    | .extCounted width =>
      nested.bind fun _ => (takeNumber width rest).bind fun (count, rest) => readExt count rest
    | .reserved => none

/-- Take the item off the front of some bytes.  At most {lit}`depth` arrays, maps and
extensions may be nested. -/
def read : (depth : Nat) → Reader Item
  | 0 => readWith none
  | depth + 1 => readWith (some (read depth))

/-- The greatest nesting of a message: one less than 1024 levels. -/
def maxDepth : Nat := 1023

end Item
end EngineLink
