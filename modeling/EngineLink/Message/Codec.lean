import EngineLink.Message.Basic
import EngineLink.Wire.Record

/-!
# Messages as bytes

Every message type has an item; the bytes of a message are those of its item, and
reading is reading the item and then the message in it, whatever bytes follow.  A
message above {lit}`maxMessageSize` is not written.
-/

namespace EngineLink

/-- A type of messages: the item of a message and the message of an item. -/
class Wired (α : Type) where
  toItem : α → Item
  ofItem? : Item → Option α

/-- The greatest number of bytes of a message. -/
def maxMessageSize : Nat := 16 * 1024 * 1024

/-- Why bytes and messages do not go together. -/
inductive CodecFault where
  | tooLarge (size : Nat)
  | undecodable
  | invalidJson
  deriving DecidableEq

namespace CodecFault

/-- The text of a fault. -/
def message : CodecFault → String
  | .tooLarge size => "Message too large: " ++ toString size ++ " bytes"
  | .undecodable => "Deserialization failed"
  | .invalidJson => "Invalid JSON result"

end CodecFault

/-- The number of bytes of a message. -/
def encodedSize {α : Type} [Wired α] (message : α) : Except CodecFault Nat :=
  let size := (Wired.toItem message).writtenSize
  if maxMessageSize < size then .error (.tooLarge size) else .ok size

/-- The bytes of a message.  The size is found first, so an oversized message is
never built. -/
def encode {α : Type} [Wired α] (message : α) : Except CodecFault Bytes :=
  (encodedSize message).map fun _ => (Wired.toItem message).write

/-- The message at the front of some bytes. -/
def decode? {α : Type} [Wired α] (bytes : Bytes) : Option α :=
  (Item.read Item.maxDepth bytes).bind fun (item, _) => Wired.ofItem? item

/-- The message at the front of some bytes, or the fault. -/
def decode {α : Type} [Wired α] (bytes : Bytes) : Except CodecFault α :=
  match decode? bytes with
  | some message => .ok message
  | none => .error .undecodable

namespace Value

/-- The names of the storage classes on the wire. -/
def wireNames : List String := ["null", "long", "double", "string", "blob"]

/-- The item of a value. -/
def toItem : Value → Item
  | .null => .ofText "null"
  | .integer v => Record.toItem [("long", .ofInt v.toInt)]
  | .real v => Record.toItem [("double", .f64 v.bits)]
  | .text s => Record.toItem [("string", .ofText s)]
  | .blob bytes => Record.toItem [("blob", .bin bytes)]

/-- The value of an item. -/
def ofItem? (item : Item) : Option Value :=
  match Choice.select wireNames item with
  | some (0, content) => if Choice.isBare content then some .null else none
  | some (1, some content) => content.int64?.map .integer
  | some (2, some content) => content.real?.map .real
  | some (3, some content) => content.text?.map .text
  | some (4, some content) => content.blob?.map .blob
  | _ => none

end Value

instance : Wired Value := ⟨Value.toItem, Value.ofItem?⟩

namespace Page

/-- The item of a page. -/
def toItem (p : Page) : Item :=
  Record.toItem
    [("sequence_number", .ofInt p.sequence.toInt), ("start_index", .ofInt p.start.toInt),
      ("row_count", .ofInt p.total.toInt),
      ("rows", .array (p.rows.map fun row => .array (row.map Value.toItem)))]

/-- The page of an item. -/
def ofItem? (item : Item) : Option Page :=
  (Record.fields ["sequence_number", "start_index", "row_count", "rows"] item).bind fun fs => do
    let sequence ← Record.required Item.int32? 0 fs
    let start ← Record.required Item.int64? 1 fs
    let total ← Record.required Item.int64? 2 fs
    let rows ← Record.required (Item.list? (Item.list? Value.ofItem?)) 3 fs
    return { sequence, start, total, rows }

end Page

instance : Wired Page := ⟨Page.toItem, Page.ofItem?⟩

namespace TextMap

/-- The item of named texts. -/
def toItem (m : TextMap) : Item :=
  .map (m.entries.map fun (name, text) => (.ofText name, .ofText text))

/-- A name with its text. -/
def entry? (entry : Item × Item) : Option (String × String) :=
  entry.1.text?.bind fun name => entry.2.text?.map fun text => (name, text)

/-- The named texts of an item. -/
def ofItem? : Item → Option TextMap
  | .map entries => (entries.mapM entry?).map TextMap.ofList
  | _ => none

end TextMap

namespace Message

namespace Init

/-- The item of an init message. -/
def toItem (m : Init) : Item :=
  Record.toItem [("preferred_langs", .array (m.languages.map .ofText))]

/-- The init message of an item. -/
def ofItem? (item : Item) : Option Init :=
  (Record.fields ["preferred_langs"] item).bind fun fs => do
    let languages ← Record.required (Item.list? Item.text?) 0 fs
    return { languages }

end Init

namespace RequestKind

/-- The names of the kinds on the wire. -/
def wireNames : List String := ["query", "begin", "commit", "rollback"]

/-- The item of a kind. -/
def toItem : RequestKind → Item
  | .query => .ofText "query"
  | .begin => .ofText "begin"
  | .commit => .ofText "commit"
  | .rollback => .ofText "rollback"

/-- The kind of an item. -/
def ofItem? (item : Item) : Option RequestKind :=
  match Choice.select wireNames item with
  | some (i, content) =>
    if Choice.isBare content then [query, begin, commit, rollback][i]? else none
  | none => none

end RequestKind

namespace DbRequest

/-- The item of a database request. -/
def toItem (m : DbRequest) : Item :=
  Record.toItem
    [("kind", m.kind.toItem), ("sql", .ofText m.sql), ("args", .array (m.args.map Value.toItem)),
      ("first_row_only", .bool m.firstRowOnly)]

/-- The database request of an item; only the kind has to be there. -/
def ofItem? (item : Item) : Option DbRequest :=
  (Record.fields ["kind", "sql", "args", "first_row_only"] item).bind fun fs => do
    let kind ← Record.required RequestKind.ofItem? 0 fs
    let sql ← Record.defaulted Item.text? "" 1 fs
    let args ← Record.defaulted (Item.list? Value.ofItem?) [] 2 fs
    let firstRowOnly ← Record.defaulted Item.bool? false 3 fs
    return { kind, sql, args, firstRowOnly }

end DbRequest

namespace PageRequest

/-- The item of a page request. -/
def toItem (m : PageRequest) : Item :=
  Record.toItem
    [("sequence_number", .ofInt m.sequence.toInt), ("start_index", .ofInt m.start.toInt)]

/-- The page request of an item. -/
def ofItem? (item : Item) : Option PageRequest :=
  (Record.fields ["sequence_number", "start_index"] item).bind fun fs => do
    let sequence ← Record.required Item.int32? 0 fs
    let start ← Record.required Item.int64? 1 fs
    return { sequence, start }

end PageRequest

namespace FlushRequest

/-- The item of a flush request. -/
def toItem (m : FlushRequest) : Item :=
  Record.toItem [("sequence_number", .ofInt m.sequence.toInt)]

/-- The flush request of an item. -/
def ofItem? (item : Item) : Option FlushRequest :=
  (Record.fields ["sequence_number"] item).bind fun fs => do
    let sequence ← Record.required Item.int32? 0 fs
    return { sequence }

end FlushRequest

namespace PageSizeRequest

/-- The item of a page-size request. -/
def toItem (m : PageSizeRequest) : Item :=
  Record.toItem [("page_size_bytes", .ofNat m.bytes.toNat)]

/-- The page-size request of an item. -/
def ofItem? (item : Item) : Option PageSizeRequest :=
  (Record.fields ["page_size_bytes"] item).bind fun fs => do
    let bytes ← Record.required Item.uint64? 0 fs
    return { bytes }

end PageSizeRequest

namespace ColumnNamesRequest

/-- The item of a column-names request. -/
def toItem (m : ColumnNamesRequest) : Item := Record.toItem [("sql", .ofText m.sql)]

/-- The column-names request of an item. -/
def ofItem? (item : Item) : Option ColumnNamesRequest :=
  (Record.fields ["sql"] item).bind fun fs => do
    let sql ← Record.required Item.text? 0 fs
    return { sql }

end ColumnNamesRequest

namespace OpenCollectionRequest

/-- The item of an open-collection request. -/
def toItem (m : OpenCollectionRequest) : Item :=
  Record.toItem [("collection_path", .ofText m.path)]

/-- The open-collection request of an item. -/
def ofItem? (item : Item) : Option OpenCollectionRequest :=
  (Record.fields ["collection_path"] item).bind fun fs => do
    let path ← Record.required Item.text? 0 fs
    return { path }

end OpenCollectionRequest

namespace TranslateRequest

/-- The item of a translate request. -/
def toItem (m : TranslateRequest) : Item :=
  Record.toItem
    [("module_index", .ofNat m.moduleIndex.toNat), ("message_index", .ofNat m.messageIndex.toNat),
      ("args", m.args.toItem)]

/-- The translate request of an item. -/
def ofItem? (item : Item) : Option TranslateRequest :=
  (Record.fields ["module_index", "message_index", "args"] item).bind fun fs => do
    let moduleIndex ← Record.required Item.uint32? 0 fs
    let messageIndex ← Record.required Item.uint32? 1 fs
    let args ← Record.defaulted TextMap.ofItem? TextMap.empty 2 fs
    return { moduleIndex, messageIndex, args }

end TranslateRequest

namespace Empty

/-- The item of the empty message. -/
def toItem (_ : Empty) : Item := Record.toItem []

/-- The empty message of an item. -/
def ofItem? (item : Item) : Option Empty := (Record.fields [] item).map fun _ => {}

end Empty

namespace Envelope

/-- The item of an envelope; an absent help page is left out. -/
def toItem (m : Envelope) : Item :=
  let help :=
    match m.help with
    | some page => [("help_page", Item.ofText page)]
    | none => []
  Record.toItem ([("kind", .ofInt m.kind.toInt), ("message", .ofText m.message)] ++ help)

/-- The envelope of an item; only the kind has to be there. -/
def ofItem? (item : Item) : Option Envelope :=
  (Record.fields ["kind", "message", "help_page"] item).bind fun fs => do
    let kind ← Record.required Item.int32? 0 fs
    let message ← Record.defaulted Item.text? "" 1 fs
    let help ← Record.defaulted (Item.optional? Item.text?) none 2 fs
    return { kind, message, help }

end Envelope

namespace IntegerValue

/-- The item of an integer message. -/
def toItem (m : IntegerValue) : Item := Record.toItem [("val", .ofInt m.val.toInt)]

/-- The integer message of an item. -/
def ofItem? (item : Item) : Option IntegerValue :=
  (Record.fields ["val"] item).bind fun fs => do
    let val ← Record.required Item.int64? 0 fs
    return { val }

end IntegerValue

namespace TextValue

/-- The item of a text message. -/
def toItem (m : TextValue) : Item := Record.toItem [("val", .ofText m.val)]

/-- The text message of an item. -/
def ofItem? (item : Item) : Option TextValue :=
  (Record.fields ["val"] item).bind fun fs => do
    let val ← Record.required Item.text? 0 fs
    return { val }

end TextValue

namespace TextList

/-- The item of a text list. -/
def toItem (m : TextList) : Item := Record.toItem [("vals", .array (m.vals.map .ofText))]

/-- The text list of an item. -/
def ofItem? (item : Item) : Option TextList :=
  (Record.fields ["vals"] item).bind fun fs => do
    let vals ← Record.required (Item.list? Item.text?) 0 fs
    return { vals }

end TextList

namespace Progress

/-- The names of the states on the wire. -/
def wireNames : List String := ["idle", "working"]

/-- The fields of the working state. -/
def workingNames : List String := ["stage", "current", "total"]

/-- The item of a progress message: a record whose first field names the state. -/
def toItem : Progress → Item
  | .idle => Record.toItem [("state", .ofText "idle")]
  | .working stage current total =>
    Record.toItem
      [("state", .ofText "working"), ("stage", .ofText stage), ("current", .ofNat current.toNat),
        ("total", .ofNat total.toNat)]

/-- Whether an entry of a map is the one that names the state. -/
def isState (entry : Item × Item) : Bool :=
  entry.1.nameBytes? = some (Utf8.encode "state")

/-- A field of the working state, by name or by a position of eight or sixty-four
bits. -/
def workingKey? : Item → Option (Option Nat)
  | .u16 _ => none
  | .u32 _ => none
  | item => item.key? workingNames

/-- The working state of its fields. -/
def working? (fs : List (Nat × Item)) : Option Progress := do
  let stage ← Record.required Item.text? 0 fs
  let current ← Record.required Item.uint64? 1 fs
  let total ← Record.required Item.uint64? 2 fs
  return .working stage current total

/-- The progress of an item.  In a map exactly one entry names the state, and idle
takes no notice of the others; in an array the state comes first. -/
def ofItem? : Item → Option Progress
  | .map entries =>
    match entries.filter isState with
    | [(_, state)] =>
      match (state.key? wireNames).bind id with
      | some 0 => some .idle
      | some _ => (Record.known workingKey? (entries.filter fun e => !isState e)).bind working?
      | none => none
    | _ => none
  | .array (state :: items) =>
    match (state.key? wireNames).bind id with
    | some 0 => if items.isEmpty then some .idle else none
    | some _ => (Record.positional workingNames.length items).bind working?
    | none => none
  | _ => none

end Progress

instance : Wired Init := ⟨Init.toItem, Init.ofItem?⟩
instance : Wired RequestKind := ⟨RequestKind.toItem, RequestKind.ofItem?⟩
instance : Wired DbRequest := ⟨DbRequest.toItem, DbRequest.ofItem?⟩
instance : Wired PageRequest := ⟨PageRequest.toItem, PageRequest.ofItem?⟩
instance : Wired FlushRequest := ⟨FlushRequest.toItem, FlushRequest.ofItem?⟩
instance : Wired PageSizeRequest := ⟨PageSizeRequest.toItem, PageSizeRequest.ofItem?⟩
instance : Wired ColumnNamesRequest := ⟨ColumnNamesRequest.toItem, ColumnNamesRequest.ofItem?⟩
instance : Wired OpenCollectionRequest :=
  ⟨OpenCollectionRequest.toItem, OpenCollectionRequest.ofItem?⟩
instance : Wired TranslateRequest := ⟨TranslateRequest.toItem, TranslateRequest.ofItem?⟩
instance : Wired Empty := ⟨Empty.toItem, Empty.ofItem?⟩
instance : Wired Envelope := ⟨Envelope.toItem, Envelope.ofItem?⟩
instance : Wired IntegerValue := ⟨IntegerValue.toItem, IntegerValue.ofItem?⟩
instance : Wired TextValue := ⟨TextValue.toItem, TextValue.ofItem?⟩
instance : Wired TextList := ⟨TextList.toItem, TextList.ofItem?⟩
instance : Wired Progress := ⟨Progress.toItem, Progress.ofItem?⟩

end Message
end EngineLink
