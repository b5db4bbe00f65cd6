import EngineLink.Json.Basic
import EngineLink.Number.Leading

/-!
# Reading JSON text

Every reader takes its part off the front of the text and answers with the rest, or
refuses the text.

- {lit}`Json.value` reads a value; arrays and objects may be nested up to the given
  depth.
- {lit}`Json.number` reads a number.  Digits are taken up in sixty-four bits; those
  that do not fit only count for the exponent.  A number without point and exponent
  that took up all its digits is an integer.
- {lit}`Json.read?` reads a whole text.
-/

namespace EngineLink
namespace Json

/-- Characters that may stand between the parts of a JSON text. -/
def isBlank (c : Char) : Bool := c = ' ' || c = '\n' || c = '\t' || c = '\r'

/-- The text from its first character that is not blank. -/
def skipBlanks (cs : List Char) : List Char := cs.dropWhile isBlank

/-! ## Texts -/

/-- The code unit of four hexadecimal digits. -/
def codeUnit : List Char → Option (Nat × List Char)
  | a :: b :: c :: d :: rest =>
    if [a, b, c, d].all (Leading.isDigit 16) then
      some (Leading.ofDigits 16 [a, b, c, d], rest)
    else none
  | _ => none

/-- The character of a code unit that is not half of a pair. -/
def unitChar? (unit : Nat) : Option Char :=
  if 0xd800 ≤ unit ∧ unit < 0xe000 then none else some (Char.ofNat unit)

/-- The character of two code units that form a pair. -/
def pairChar? (high low : Nat) : Option Char :=
  if 0xd800 ≤ high ∧ high < 0xdc00 ∧ 0xdc00 ≤ low ∧ low < 0xe000 then
    some (Char.ofNat (0x10000 + (high - 0xd800) * 0x400 + (low - 0xdc00)))
  else none

/-- The character of an escape by code units: one unit, or a pair in two escapes. -/
def unicodeEscape (cs : List Char) : Option (Char × List Char) :=
  match codeUnit cs with
  | none => none
  | some (unit, rest) =>
    match unitChar? unit with
    | some c => some (c, rest)
    | none =>
      match rest with
      | '\\' :: 'u' :: second =>
        match codeUnit second with
        | some (low, after) => (pairChar? unit low).map fun c => (c, after)
        | none => none
      | _ => none

/-- The character of an escape, after its backslash. -/
def escape : List Char → Option (Char × List Char)
  | '"' :: rest => some ('"', rest)
  | '\\' :: rest => some ('\\', rest)
  | '/' :: rest => some ('/', rest)
  | 'b' :: rest => some ('\x08', rest)
  | 'f' :: rest => some ('\x0c', rest)
  | 'n' :: rest => some ('\n', rest)
  | 'r' :: rest => some ('\r', rest)
  | 't' :: rest => some ('\t', rest)
  | 'u' :: rest => unicodeEscape rest
  | _ => none

/-- A code unit takes four characters. -/
theorem length_of_codeUnit {cs rest : List Char} {unit : Nat}
    (h : codeUnit cs = some (unit, rest)) : cs.length = rest.length + 4 := by
  unfold codeUnit at h
  split at h
  · split at h
    · simp only [Option.some.injEq, Prod.mk.injEq] at h
      simp [← h.2]
    · cases h
  · cases h

/-- An escape by code units takes at least four characters. -/
theorem length_of_unicodeEscape {cs rest : List Char} {c : Char}
    (h : unicodeEscape cs = some (c, rest)) : rest.length + 4 ≤ cs.length := by
  unfold unicodeEscape at h
  split at h
  · cases h
  next first rest' hfirst =>
    have len := length_of_codeUnit hfirst
    split at h
    · simp only [Option.some.injEq, Prod.mk.injEq] at h
      rw [← h.2]; omega
    · split at h
      next second =>
        split at h
        next low after hsecond =>
          have len2 := length_of_codeUnit hsecond
          simp only [Option.map_eq_some_iff, Prod.mk.injEq] at h
          obtain ⟨_, _, _, rfl⟩ := h
          simp only [List.length_cons] at len
          omega
        · cases h
      · cases h

/-- An escape takes at least one character. -/
theorem length_of_escape {cs rest : List Char} {c : Char} (h : escape cs = some (c, rest)) :
    rest.length < cs.length := by
  unfold escape at h
  split at h
  case h_9 =>
    have taken := length_of_unicodeEscape h
    simp only [List.length_cons]
    omega
  case h_10 => cases h
  all_goals
    simp only [Option.some.injEq, Prod.mk.injEq] at h
    simp [← h.2]

/-- The characters of a text up to its closing quote, after its opening one. -/
def textBody (cs : List Char) : Option (List Char × List Char) :=
  match cs with
  | [] => none
  | c :: rest =>
    if c = '"' then some ([], rest)
    else if c = '\\' then
      match h : escape rest with
      | none => none
      | some (e, after) =>
        have : after.length < rest.length := length_of_escape h
        (textBody after).map fun (body, end_) => (e :: body, end_)
    else if c.toNat < 0x20 then none
    else (textBody rest).map fun (body, end_) => (c :: body, end_)
termination_by cs.length

/-! ## Numbers -/

/-- Take up decimal digits after a significand as long as it stays below sixty-four
bits.  The answer is the significand and the number of digits taken up. -/
def gather (significand : Nat) : List Char → Nat × Nat
  | [] => (significand, 0)
  | d :: digits =>
    let next := Leading.ofDigits 10 [d] + significand * 10
    if next < UInt64.size then
      let (value, taken) := gather next digits
      (value, taken + 1)
    else (significand, 0)

/-- A power of ten. -/
def power (k : Nat) : Binary64 := Binary64.ofDecimal false 1 k

/-- The size of {lit}`significand * 10 ^ exponent`, rounded after each step: the
significand first, then one product or quotient with a power of ten, or two quotients
where one power does not reach.  Only what overflows is refused. -/
def scaled (significand : Nat) (exponent : Int) : Option Binary64 :=
  let x := Binary64.ofInt significand
  if significand = 0 then some x
  else if 308 < exponent then none
  else if 0 ≤ exponent then
    let y := x.mul (power exponent.toNat)
    if y.isInfinite then none else some y
  else if -308 ≤ exponent then some (x.div (power (-exponent).toNat))
  else if -616 ≤ exponent then some ((x.div (power 308)).div (power (-exponent - 308).toNat))
  else some (Binary64.zero false)

/-- The double {lit}`significand * 10 ^ exponent` with a sign. -/
def double (negative : Bool) (significand : Nat) (exponent : Int) : Option Json :=
  (scaled significand exponent).map fun x => .real (if negative then x.neg else x)

/-- The integer of a significand with a sign.  Minus zero and what is below the range
of integers are doubles. -/
def integral (negative : Bool) (significand : Nat) : Json :=
  if negative then
    if significand = 0 ∨ UInt64.size / 2 < significand then .real (Binary64.ofInt significand).neg
    else .integer (-significand)
  else .integer significand

/-- The digits after a point; there must be one. -/
def places : List Char → Option (Option (List Char) × List Char)
  | '.' :: rest =>
    let digits := rest.takeWhile Char.isDigit
    if digits = [] then none else some (some digits, rest.dropWhile Char.isDigit)
  | cs => some (none, cs)

/-- The exponent after its letter; there must be a digit. -/
def exponent : List Char → Option (Option Int × List Char)
  | e :: rest =>
    if e = 'e' ∨ e = 'E' then
      let (mark, unsigned) := Leading.sign rest
      let digits := unsigned.takeWhile Char.isDigit
      if digits = [] then none
      else
        some (some (Leading.applySign mark (Leading.ofDigits 10 digits)),
          unsigned.dropWhile Char.isDigit)
    else some (none, e :: rest)
  | [] => some (none, [])

/-- The digits before the point: a single zero, or digits that do not begin with one. -/
def whole (cs : List Char) : Option (List Char × List Char) :=
  match cs.takeWhile Char.isDigit with
  | [] => none
  | '0' :: _ :: _ => none
  | digits => some (digits, cs.dropWhile Char.isDigit)

/-- A number without its sign. -/
def unsigned (negative : Bool) (cs : List Char) : Option (Json × List Char) := do
  let (digits, afterWhole) ← whole cs
  let (fraction, afterPlaces) ← places afterWhole
  let (power, rest) ← exponent afterPlaces
  let (front, taken) := gather 0 digits
  let left := digits.length - taken
  match fraction, power with
  | none, none =>
    if left = 0 then return (integral negative front, rest)
    else return (← double negative front left, rest)
  | _, _ =>
    let (significand, takenPlaces) := gather front (fraction.getD [])
    return (← double negative significand (left - takenPlaces + power.getD 0), rest)

/-- A number. -/
def number : List Char → Option (Json × List Char)
  | '-' :: rest => unsigned true rest
  | cs => unsigned false cs

/-! ## Values -/

/-- Read the given word. -/
def word (letters : List Char) (json : Json) (cs : List Char) : Option (Json × List Char) :=
  if cs.take letters.length = letters then some (json, cs.drop letters.length) else none

/-- The items of an array after its first bracket or comma, each read by {lit}`one`.
The fuel bounds the number of items. -/
def items (one : List Char → Option (Json × List Char)) :
    (fuel : Nat) → List Char → Option (List Json × List Char)
  | 0, _ => none
  | fuel + 1, cs => do
    let (item, afterItem) ← one (skipBlanks cs)
    match skipBlanks afterItem with
    | ',' :: rest =>
      let (more, after) ← items one fuel rest
      return (item :: more, after)
    | ']' :: rest => return ([item], rest)
    | _ => none

/-- One entry of an object. -/
def entry (one : List Char → Option (Json × List Char)) (cs : List Char) :
    Option ((String × Json) × List Char) :=
  match cs with
  | '"' :: rest => do
    let (name, afterName) ← textBody rest
    match skipBlanks afterName with
    | ':' :: rest =>
      let (value, after) ← one (skipBlanks rest)
      return ((String.ofList name, value), after)
    | _ => none
  | _ => none

/-- The entries of an object after its first brace or comma.  The fuel bounds the
number of entries. -/
def entries (one : List Char → Option (Json × List Char)) :
    (fuel : Nat) → List Char → Option (List (String × Json) × List Char)
  | 0, _ => none
  | fuel + 1, cs => do
    let (first, afterEntry) ← entry one (skipBlanks cs)
    match skipBlanks afterEntry with
    | ',' :: rest =>
      let (more, after) ← entries one fuel rest
      return (first :: more, after)
    | '\x7d' :: rest => return ([first], rest)
    | _ => none

/-- An array after its first bracket. -/
def arrayBody (one : List Char → Option (Json × List Char)) (cs : List Char) :
    Option (Json × List Char) :=
  match skipBlanks cs with
  | ']' :: rest => some (.array [], rest)
  | body => (items one (body.length + 1) body).map fun (items, rest) => (.array items, rest)

/-- An object after its first brace. -/
def objectBody (one : List Char → Option (Json × List Char)) (cs : List Char) :
    Option (Json × List Char) :=
  match skipBlanks cs with
  | '\x7d' :: rest => some (.object [], rest)
  | body =>
    (entries one (body.length + 1) body).map fun (entries, rest) => (ofEntries entries, rest)

/-- A value whose items and entries, if it may have any, are read by {lit}`inner`. -/
def valueWith (inner : Option (List Char → Option (Json × List Char))) (cs : List Char) :
    Option (Json × List Char) :=
  match cs with
  | '[' :: rest => inner.bind fun one => arrayBody one rest
  | '\x7b' :: rest => inner.bind fun one => objectBody one rest
  | '"' :: rest => (textBody rest).map fun (body, after) => (.text (String.ofList body), after)
  | 'n' :: _ => word ['n', 'u', 'l', 'l'] .null cs
  | 't' :: _ => word ['t', 'r', 'u', 'e'] (.bool true) cs
  | 'f' :: _ => word ['f', 'a', 'l', 's', 'e'] (.bool false) cs
  | _ => number cs

/-- A value with at most the given number of arrays and objects inside each other. -/
def value : (depth : Nat) → List Char → Option (Json × List Char)
  | 0 => valueWith none
  | depth + 1 => valueWith (some (value depth))

/-- How many arrays and objects may stand inside each other. -/
def maxDepth : Nat := 127

/-- The value of a whole text. -/
def read? (text : List Char) : Option Json :=
  match value maxDepth (skipBlanks text) with
  | some (json, rest) => if skipBlanks rest = [] then some json else none
  | none => none

end Json
end EngineLink
