import EngineLink.Number.Leading
import EngineLink.Settings.Toml
import EngineLink.Text.Utf8

/-!
# Reading settings documents

Every reader takes its part off the front of the text and answers with the rest, or
refuses the text.

- {lit}`Toml.value` reads a value, with arrays and inline tables nested up to a depth.
- {lit}`Toml.read` reads a whole document.
-/

namespace EngineLink
namespace Toml

/-- A reader of a part of a document. -/
abbrev Reader (α : Type) := StateT (List Char) Option α

/-- Blanks within a line. -/
def isBlank (c : Char) : Bool := c = ' ' || c = '\t'

/-- Refuse the text. -/
def refuse {α : Type} : Reader α := fun _ => none

/-- Skip blanks within a line. -/
def skipBlanks : Reader Unit := modify fun cs => cs.dropWhile isBlank

/-- Take the given character if it comes next. -/
def accept (c : Char) : Reader Bool := do
  match ← get with
  | d :: rest =>
    if c = d then
      set rest
      return true
    else return false
  | [] => return false

/-- Take the given character, which must come next. -/
def expect (c : Char) : Reader Unit := do unless ← accept c do refuse

/-- Take the end of a line if it comes next. -/
def newline? : Reader Bool := do
  match ← get with
  | '\n' :: rest =>
    set rest
    return true
  | '\r' :: '\n' :: rest =>
    set rest
    return true
  | _ => return false

/-- Characters of a comment. -/
def isCommentPart (c : Char) : Bool := c = '\t' || (0x20 ≤ c.toNat && c.toNat ≠ 0x7f)

/-- Skip a comment if one comes next. -/
def skipComment : Reader Unit := do
  if ← accept '#' then modify fun cs => cs.dropWhile isCommentPart

/-- Skip blanks, comments and ends of lines.  The fuel bounds the number of lines. -/
def skipLines : (fuel : Nat) → Reader Unit
  | 0 => return ()
  | fuel + 1 => do
    skipBlanks
    skipComment
    if ← newline? then skipLines fuel

/-- Skip blanks, comments and ends of lines. -/
def skipSpace : Reader Unit := do skipLines ((← get).length + 1)

/-- The end of a line with a value or a header: blanks, a comment, and the line's end. -/
def endOfLine : Reader Unit := do
  skipBlanks
  skipComment
  unless ← newline? do
    unless (← get).isEmpty do refuse

/-! ## Texts -/

/-- Characters that need no escape in a text: those a line can show, and tabs. -/
def isTextPart (c : Char) : Bool :=
  c = '\t' || (0x20 ≤ c.toNat && c.toNat ≠ 0x7f)

/-- The character of some hexadecimal digits. -/
def unicodeEscape (size : Nat) (cs : List Char) : Option (Char × List Char) :=
  let digits := cs.take size
  if digits.length = size ∧ digits.all (Leading.isDigit 16) then
    let code := Leading.ofDigits 16 digits
    if code.isValidChar then some (Char.ofNat code, cs.drop size) else none
  else none

/-- The character of an escape, after its backslash. -/
def escape : List Char → Option (Char × List Char)
  | 'b' :: rest => some ('\x08', rest)
  | 't' :: rest => some ('\t', rest)
  | 'n' :: rest => some ('\n', rest)
  | 'f' :: rest => some ('\x0c', rest)
  | 'r' :: rest => some ('\r', rest)
  | '"' :: rest => some ('"', rest)
  | '\\' :: rest => some ('\\', rest)
  | 'u' :: rest => unicodeEscape 4 rest
  | 'U' :: rest => unicodeEscape 8 rest
  | _ => none

/-- A text with escapes after its first quote.  The fuel bounds its length. -/
def basicBody : (fuel : Nat) → List Char → Option (List Char × List Char)
  | fuel + 1, c :: rest =>
    if c = '"' then some ([], rest)
    else if c = '\\' then
      match escape rest with
      | some (e, after) => (basicBody fuel after).map fun (body, tail) => (e :: body, tail)
      | none => none
    else if isTextPart c then
      (basicBody fuel rest).map fun (body, tail) => (c :: body, tail)
    else none
  | _, _ => none

/-- A text without escapes after its first quote. -/
def literalBody : List Char → Option (List Char × List Char)
  | c :: rest =>
    if c = '\'' then some ([], rest)
    else if isTextPart c then (literalBody rest).map fun (body, tail) => (c :: body, tail)
    else none
  | [] => none

/-- The end of a text of several lines at a run of its quotes: three quotes end it, and
up to two more in front of them belong to it. -/
def longEnd? (quote : Char) (cs : List Char) : Option (List Char × List Char) :=
  let run := (cs.takeWhile (· = quote)).take 5
  if 3 ≤ run.length then some (run.take (run.length - 3), cs.drop run.length) else none

/-- The text without the blanks and ends of lines in front of it. -/
def withoutSpace : List Char → List Char
  | '\n' :: rest => withoutSpace rest
  | '\r' :: '\n' :: rest => withoutSpace rest
  | c :: rest => if isBlank c then withoutSpace rest else c :: rest
  | [] => []

/-- The rest after a backslash at the end of a line, without all blanks up to the next
character. -/
def joinedLine? (cs : List Char) : Option (List Char) :=
  match cs.dropWhile isBlank with
  | '\n' :: rest => some (withoutSpace rest)
  | '\r' :: '\n' :: rest => some (withoutSpace rest)
  | _ => none

/-- A text of several lines after its first quotes.  The fuel bounds its length. -/
def longBody (quote : Char) (escapes : Bool) :
    (fuel : Nat) → List Char → Option (List Char × List Char)
  | 0, _ => none
  | fuel + 1, cs =>
    match longEnd? quote cs with
    | some found => some found
    | none =>
      match cs with
      | [] => none
      | '\r' :: '\n' :: rest => (longBody quote escapes fuel rest).map fun (body, tail) =>
        ('\n' :: body, tail)
      | c :: rest =>
        if c = '\\' && escapes then
          match joinedLine? rest with
          | some after => longBody quote escapes fuel after
          | none =>
            match escape rest with
            | some (e, after) =>
              (longBody quote escapes fuel after).map fun (body, tail) => (e :: body, tail)
            | none => none
        else if isTextPart c || c = '\n' then
          (longBody quote escapes fuel rest).map fun (body, tail) => (c :: body, tail)
        else none

/-- The lines of a text without the first one if that is empty. -/
def afterFirstLine : List Char → List Char
  | '\n' :: rest => rest
  | '\r' :: '\n' :: rest => rest
  | cs => cs

/-- A text in quotes of either kind. -/
def text : Reader String := do
  let finish (found : Option (List Char × List Char)) : Reader String := do
    match found with
    | some (body, tail) =>
      set tail
      return String.ofList body
    | none => refuse
  match ← get with
  | '"' :: '"' :: '"' :: rest =>
    finish (longBody '"' true (rest.length + 1) (afterFirstLine rest))
  | '\'' :: '\'' :: '\'' :: rest =>
    finish (longBody '\'' false (rest.length + 1) (afterFirstLine rest))
  | '"' :: rest => finish (basicBody (rest.length + 1) rest)
  | '\'' :: rest => finish (literalBody rest)
  | _ => refuse

/-! ## Numbers -/

/-- The digits of a number in which single underscores may stand between two digits. -/
def digits? (radix : Nat) : List Char → Option (List Char)
  | [d] => if Leading.isDigit radix d then some [d] else none
  | d :: '_' :: rest =>
    if Leading.isDigit radix d then (digits? radix rest).map (d :: ·) else none
  | d :: rest => if Leading.isDigit radix d then (digits? radix rest).map (d :: ·) else none
  | [] => none

/-- An integer within sixty-four bits. -/
def inRange (i : Int) : Option Int :=
  if Int64.minValue.toInt ≤ i ∧ i ≤ Int64.maxValue.toInt then some i else none

/-- The digits before a point: no zero stands in front of others. -/
def wholeDigits? (cs : List Char) : Option (List Char) :=
  match digits? 10 cs with
  | some ('0' :: _ :: _) => none
  | found => found

/-- The integer that some characters are.  Only a decimal one has a sign. -/
def integer? (cs : List Char) : Option Int :=
  match cs with
  | '0' :: 'x' :: rest => (digits? 16 rest).bind fun ds => inRange (Leading.ofDigits 16 ds)
  | '0' :: 'o' :: rest => (digits? 8 rest).bind fun ds => inRange (Leading.ofDigits 8 ds)
  | '0' :: 'b' :: rest => (digits? 2 rest).bind fun ds => inRange (Leading.ofDigits 2 ds)
  | _ =>
    let (mark, unsigned) := Leading.sign cs
    (wholeDigits? unsigned).bind fun ds =>
      inRange (Leading.applySign mark (Leading.ofDigits 10 ds))

/-- The exponent that some characters are, after its letter. -/
def exponent? (cs : List Char) : Option Int :=
  let (mark, unsigned) := Leading.sign cs
  (digits? 10 unsigned).map fun ds => Leading.applySign mark (Leading.ofDigits 10 ds)

/-- The double that some characters are.  It has a fraction or an exponent or is one of
the special values, and no number is too great for it; one that is too far below zero
is negative infinity. -/
def real? (cs : List Char) : Option Binary64 :=
  let (mark, unsigned) := Leading.sign cs
  let negative : Bool := mark = ['-']
  if unsigned = ['i', 'n', 'f'] then some (Binary64.infinity negative)
  else if unsigned = ['n', 'a', 'n'] then some Binary64.nan
  else
    let isExponent (c : Char) : Bool := c = 'e' || c = 'E'
    let mantissa := unsigned.takeWhile (!isExponent ·)
    let power := unsigned.dropWhile (!isExponent ·)
    let whole := mantissa.takeWhile (· ≠ '.')
    let fraction := mantissa.dropWhile (· ≠ '.')
    if fraction = [] ∧ power = [] then none
    else do
      let front ← wholeDigits? whole
      let places ← if fraction = [] then some [] else digits? 10 (fraction.drop 1)
      let exponent ← if power = [] then some 0 else exponent? (power.drop 1)
      let x := Binary64.ofDecimal negative (Leading.ofDigits 10 (front ++ places))
        (exponent - places.length)
      if x = Binary64.infinity false then none else some x

/-- Characters of a word or a number. -/
def isScalarPart (c : Char) : Bool :=
  c.isAlphanum || c = '_' || c = '+' || c = '-' || c = '.' || c = ':'

/-- A value without quotes and brackets. -/
def scalar : Reader Value := do
  let cs ← get
  let raw := cs.takeWhile isScalarPart
  set (cs.dropWhile isScalarPart)
  if raw = ['t', 'r', 'u', 'e'] then return .bool true
  else if raw = ['f', 'a', 'l', 's', 'e'] then return .bool false
  else
    match integer? raw, real? raw with
    | some i, _ => return .integer i
    | none, some x => return .real x
    | none, none => refuse

/-! ## Dates and times -/

/-- A number of the given width and within the given limits. -/
def fixedWidth (width low high : Nat) : Reader Nat := do
  let cs ← get
  let ds := cs.take width
  if ds.length = width ∧ ds.all (Leading.isDigit 10) then
    let n := Leading.ofDigits 10 ds
    if low ≤ n ∧ n ≤ high then
      set (cs.drop width)
      return n
    else refuse
  else refuse

/-- The number of days in a month. -/
def daysIn (year month : Nat) : Nat :=
  if month = 2 then
    if year % 4 = 0 ∧ (year % 100 ≠ 0 ∨ year % 400 = 0) then 29 else 28
  else if month = 4 ∨ month = 6 ∨ month = 9 ∨ month = 11 then 30
  else 31

/-- A date: year, month and day. -/
def date : Reader Unit := do
  let year ← fixedWidth 4 0 9999
  expect '-'
  let month ← fixedWidth 2 1 12
  expect '-'
  let _ ← fixedWidth 2 1 (daysIn year month)

/-- A time of the day, in which a second may be a leap second. -/
def time : Reader Unit := do
  let _ ← fixedWidth 2 0 23
  expect ':'
  let _ ← fixedWidth 2 0 59
  expect ':'
  let _ ← fixedWidth 2 0 60
  if ← accept '.' then
    let _ ← fixedWidth 1 0 9
    modify fun cs => cs.dropWhile (Leading.isDigit 10)

/-- The offset of a time from the universal one, if one is written. -/
def offset : Reader Unit := do
  match ← get with
  | c :: rest =>
    if c = 'Z' ∨ c = 'z' then set rest
    else if c = '+' ∨ c = '-' then
      set rest
      let _ ← fixedWidth 2 0 23
      expect ':'
      let _ ← fixedWidth 2 0 59
  | [] => return ()

/-- Whether a text starts with digits of the given width and a mark after them. -/
def startsWithField (width : Nat) (mark : Char) (cs : List Char) : Bool :=
  (cs.take width).length = width && (cs.take width).all (Leading.isDigit 10) &&
    (cs.drop width).head? = some mark

/-- A date, a time, or both with or without an offset. -/
def moment : Reader Value := do
  let start ← get
  if startsWithField 2 ':' start then time
  else
    date
    match ← get with
    | c :: rest =>
      if c = 'T' ∨ c = 't' ∨ (c = ' ' ∧ startsWithField 2 ':' rest) then
        set rest
        time
        offset
    | [] => pure ()
  let rest ← get
  return .moment (String.ofList (start.take (start.length - rest.length)))

/-! ## Keys -/

/-- Characters of a key without quotes. -/
def isKeyPart (c : Char) : Bool :=
  c.isAlphanum || c = '_' || c = '-'

/-- A key without dots. -/
def simpleKey : Reader String := do
  match ← get with
  | '"' :: rest =>
    match basicBody (rest.length + 1) rest with
    | some (body, tail) =>
      set tail
      return String.ofList body
    | none => refuse
  | '\'' :: rest =>
    match literalBody rest with
    | some (body, tail) =>
      set tail
      return String.ofList body
    | none => refuse
  | cs =>
    let body := cs.takeWhile isKeyPart
    if body = [] then refuse
    else
      set (cs.dropWhile isKeyPart)
      return String.ofList body

/-- The parts of a key with dots.  The fuel bounds their number. -/
def keyParts : (fuel : Nat) → Reader (List String × String)
  | 0 => refuse
  | fuel + 1 => do
    skipBlanks
    let first ← simpleKey
    skipBlanks
    if ← accept '.' then
      let (path, last) ← keyParts fuel
      return (first :: path, last)
    else return ([], first)

/-- How many arrays and inline tables may stand inside each other, and how many parts a
key may have. -/
def maxDepth : Nat := 79

/-- A key: the path to its table and its last part. -/
def key : Reader (List String × String) := do
  let (path, last) ← keyParts ((← get).length + 1)
  if path.length < maxDepth then return (path, last) else refuse

/-! ## Values -/

/-- The items of an array after its first bracket or a comma.  The fuel bounds their
number. -/
def arrayItems (item : Reader Value) : (fuel : Nat) → Reader (List Value)
  | 0 => refuse
  | fuel + 1 => do
    skipSpace
    if ← accept ']' then return []
    else
      let first ← item
      skipSpace
      if ← accept ',' then return first :: (← arrayItems item fuel)
      else
        expect ']'
        return [first]

/-- The entries of an inline table after its first brace or a comma.  The fuel bounds
their number. -/
def inlineEntries (item : Reader Value) :
    (fuel : Nat) → Reader (List ((List String × String) × Value))
  | 0 => refuse
  | fuel + 1 => do
    let name ← key
    expect '='
    skipBlanks
    let value ← item
    skipBlanks
    if ← accept ',' then return (name, value) :: (← inlineEntries item fuel)
    else
      expect '\x7d'
      return [(name, value)]

/-- The entries of an inline table must not give a key twice. -/
def checkInline (entries : List ((List String × String) × Value)) : Option Table :=
  entries.foldlM (fun table ((path, last), value) => Table.setValue [] path last value table) []

/-- An inline table after its brace. -/
def inlineTable (item : Reader Value) : Reader Value := do
  skipBlanks
  if ← accept '\x7d' then return .table []
  else
    let entries ← inlineEntries item ((← get).length + 1)
    match checkInline entries with
    | some _ =>
      return .table (entries.map fun ((path, last), value) =>
        (".".intercalate (path ++ [last]), value))
    | none => refuse

/-- A value whose items, if it may have any, are read by {lit}`inner`. -/
def valueWith (inner : Option (Reader Value)) : Reader Value := do
  match ← get with
  | '[' :: rest =>
    match inner with
    | some item =>
      set rest
      return .array (← arrayItems item (rest.length + 1))
    | none => refuse
  | '\x7b' :: rest =>
    match inner with
    | some item =>
      set rest
      inlineTable item
    | none => refuse
  | '"' :: _ => return .text (← text)
  | '\'' :: _ => return .text (← text)
  | cs => if startsWithField 4 '-' cs || startsWithField 2 ':' cs then moment else scalar

/-- A value with at most the given number of arrays and inline tables inside each
other. -/
def value : (depth : Nat) → Reader Value
  | 0 => valueWith none
  | depth + 1 => valueWith (some (value depth))

/-! ## Documents -/

/-- A document so far: its root table and the table opened by the last header. -/
structure Document where
  root : Table
  header : List String

/-- A header after its first bracket. -/
def header (d : Document) : Reader Document := do
  let several ← accept '['
  let (path, last) ← key
  expect ']'
  if several then expect ']'
  endOfLine
  match if several then d.root.openTables path last else d.root.openTable path last with
  | some root => return ⟨root, path ++ [last]⟩
  | none => refuse

/-- A key with its value. -/
def assignment (d : Document) : Reader Document := do
  let (path, last) ← key
  expect '='
  skipBlanks
  let assigned ← value maxDepth
  endOfLine
  match d.root.setValue d.header path last assigned with
  | some root => return { d with root }
  | none => refuse

/-- The lines of a document.  The fuel bounds their number. -/
def lines (d : Document) : (fuel : Nat) → Reader Document
  | 0 => return d
  | fuel + 1 => do
    skipSpace
    if (← get).isEmpty then return d
    else if ← accept '[' then lines (← header d) fuel
    else lines (← assignment d) fuel

/-- The root table of a whole document. -/
def read (content : String) : Option Table :=
  let cs := Utf8.withoutMark content.toList
  match (lines ⟨[], []⟩ (cs.length + 1)).run cs with
  | some (d, []) => some d.root
  | _ => none

end Toml
end EngineLink
