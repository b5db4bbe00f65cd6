import EngineLink.Number.Binary64
import EngineLink.Text.Utf8

/-!
# Numbers at the front of a text

A text is read as a number by its longest leading part that is one; what follows
is ignored, and a text without digits reads as zero.  The text is looked through byte
by byte.

- {lit}`Leading.integer` reads an integer whose radix is announced by its first
  characters: sixteen after {lit}`0x`, eight after {lit}`0`, otherwise ten.
- {lit}`Leading.double` reads a decimal with an optional exponent, or the words for
  infinity and not-a-number.  {lit}`Leading.decimalText` finds the longest leading
  decimal, {lit}`Leading.decimalSpan?` says where it is among the bytes, and
  {lit}`Leading.readDecimal` gives its value.

Main results:

- Theorem {lit}`decimalText_units`: the longest leading decimal is the same among the
  bytes as among the characters.
- Theorem {lit}`slice?_of_decimalSpan?`: it can be cut out of the text.
-/

namespace EngineLink
namespace Leading

/-- Characters skipped in front of a number. -/
def isBlank (c : Char) : Bool :=
  c = ' ' || c = '\t' || c = '\n' || c = '\r' || c = '\x0b' || c = '\x0c'

/-- The value of a digit, or none for any other character. -/
def digitValue? (c : Char) : Option Nat :=
  if '0' ≤ c ∧ c ≤ '9' then some (c.toNat - '0'.toNat)
  else if 'a' ≤ c ∧ c ≤ 'z' then some (c.toNat - 'a'.toNat + 10)
  else if 'A' ≤ c ∧ c ≤ 'Z' then some (c.toNat - 'A'.toNat + 10)
  else none

/-- Whether a character is a digit of the radix. -/
def isDigit (radix : Nat) (c : Char) : Bool :=
  match digitValue? c with
  | some v => v < radix
  | none => false

/-- The number written by a run of digits, most significant first. -/
def ofDigits (radix : Nat) (digits : List Char) : Nat :=
  digits.foldl (fun value c => value * radix + (digitValue? c).getD 0) 0

/-- Split off an optional sign. -/
def sign : List Char → List Char × List Char
  | '-' :: rest => (['-'], rest)
  | '+' :: rest => (['+'], rest)
  | cs => ([], cs)

/-- A value with the sign that stood in front of it. -/
def applySign (mark : List Char) (size : Nat) : Int :=
  if mark = ['-'] then -(size : Int) else size

/-- Whether a text begins with {lit}`0x` in front of a hexadecimal digit. -/
def isHexMarked : List Char → Bool
  | '0' :: x :: rest => (x = 'x' || x = 'X') && rest.head?.any (isDigit 16)
  | _ => false

/-- The radix announced by the front of a text, and the text whose leading digits
count. -/
def radix (cs : List Char) : Nat × List Char :=
  if isHexMarked cs then (16, cs.drop 2)
  else if cs.head? = some '0' then (8, cs)
  else (10, cs)

/-- An integer that fits sixty-four bits. -/
def fit? (value : Int) : Option Int64 :=
  if Int64.minValue.toInt ≤ value ∧ value ≤ Int64.maxValue.toInt then some (Int64.ofInt value)
  else none

/-- An integer with one more digit, which counts away from zero.  There is none as soon
as a step does not fit. -/
def pushDigit (negative : Bool) (base : Nat) (value : Int64) (digit : Char) : Option Int64 := do
  let shifted ← fit? (value.toInt * base)
  let last : Int := (digitValue? digit).getD 0
  fit? (if negative then shifted.toInt - last else shifted.toInt + last)

/-- The integer at the front of a text.  A value that does not fit sixty-four bits
gives the greatest integer, whatever its sign. -/
def integer (text : String) : Int64 :=
  let (mark, unsigned) := sign ((Utf8.units text).dropWhile isBlank)
  let (base, body) := radix unsigned
  ((body.takeWhile (isDigit base)).foldlM (pushDigit (mark = ['-']) base) 0).getD Int64.maxValue

/-- Whether a text begins with the given lower-case letters, in either case. -/
def beginsWithWord : List Char → List Char → Bool
  | [], _ => true
  | w :: word, c :: cs => c.toLower = w && beginsWithWord word cs
  | _ :: _, [] => false

/-- The digits of a fraction and what follows them, when the text goes on with a
point. -/
def fraction : List Char → List Char × List Char × List Char
  | '.' :: rest => (['.'], rest.takeWhile (isDigit 10), rest.dropWhile (isDigit 10))
  | cs => ([], [], cs)

/-- The exponent at the front of a text: its letter, sign and digits.  Without a
digit there is no exponent. -/
def exponentText : List Char → List Char
  | e :: rest =>
    let (mark, unsigned) := sign rest
    let digits := unsigned.takeWhile (isDigit 10)
    if (e = 'e' ∨ e = 'E') ∧ digits ≠ [] then e :: (mark ++ digits) else []
  | [] => []

/-- The longest leading decimal of a text: an optional sign, digits with an
optional point among or beside them, and an exponent if it has a digit. -/
def decimalText (cs : List Char) : Option (List Char) :=
  let (mark, unsigned) := sign cs
  let whole := unsigned.takeWhile (isDigit 10)
  let (point, places, rest) := fraction (unsigned.dropWhile (isDigit 10))
  if whole = [] ∧ places = [] then none
  else some (mark ++ whole ++ point ++ places ++ exponentText rest)

/-- The value of an exponent: nothing, or a letter, a sign and digits. -/
def readExponent : List Char → Option Int
  | [] => some 0
  | e :: rest =>
    let (mark, digits) := sign rest
    if (e = 'e' ∨ e = 'E') ∧ digits ≠ [] ∧ digits.all (isDigit 10) then
      some (applySign mark (ofDigits 10 digits))
    else none

/-- The sign, the digits and the exponent of a decimal as {lit}`decimalText` cuts it out,
and none for any other text. -/
def decimalParts (text : List Char) : Option (Bool × Nat × Int) :=
  let (mark, unsigned) := sign text
  let whole := unsigned.takeWhile (isDigit 10)
  let (_, places, rest) := fraction (unsigned.dropWhile (isDigit 10))
  if whole = [] ∧ places = [] then none
  else
    (readExponent rest).map fun exponent =>
      (mark = ['-'], ofDigits 10 (whole ++ places), exponent - places.length)

/-- The double nearest to a decimal as {lit}`decimalText` cuts it out, and none for any
other text. -/
def readDecimal (text : List Char) : Option Binary64 :=
  (decimalParts text).map fun (negative, digits, exponent) =>
    Binary64.ofDecimal negative digits exponent

/-- Where the longest leading decimal of a text, after blanks, begins and ends among the
bytes. -/
def decimalSpan? (text : String) : Option (Nat × Nat) :=
  let blanks := (Utf8.units text).takeWhile isBlank
  (decimalText ((Utf8.units text).dropWhile isBlank)).map fun decimal =>
    (blanks.length, blanks.length + decimal.length)

/-- The double at the front of a text.  There is none if the decimal could not be cut out. -/
def double? (text : String) : Option Binary64 :=
  let (mark, unsigned) := sign ((Utf8.units text).dropWhile isBlank)
  if beginsWithWord ['i', 'n', 'f'] unsigned then some (Binary64.infinity (mark = ['-']))
  else if beginsWithWord ['n', 'a', 'n'] unsigned then some Binary64.nan
  else
    match decimalSpan? text with
    | none => some (Binary64.zero false)
    | some (start, stop) =>
      (Utf8.slice? text start stop).map fun decimal =>
        (readDecimal decimal.toList).getD (Binary64.zero false)

/-! ## The decimal can be cut out -/

section Units

open Utf8 (units units_cons_of_lt units_cons_of_le takeWhile_units dropWhile_units)

theorem toNat_lt_of_isBlank {c : Char} (hblank : isBlank c = true) : c.toNat < 128 := by
  simp only [isBlank, Bool.or_eq_true, decide_eq_true_eq] at hblank
  rcases hblank with ((((rfl | rfl) | rfl) | rfl) | rfl) | rfl <;> decide

theorem toNat_lt_of_isDigit {radix : Nat} {c : Char} (hdigit : isDigit radix c = true) :
    c.toNat < 128 := by
  have hbound {d : Char} (hd : d.toNat < 128) (hle : c ≤ d) : c.toNat < 128 :=
    Nat.lt_of_le_of_lt (UInt32.le_iff_toNat_le.mp hle) hd
  unfold isDigit at hdigit
  split at hdigit
  · rename_i hvalue
    unfold digitValue? at hvalue
    split at hvalue
    · rename_i hrange
      exact hbound (by decide) hrange.2
    · split at hvalue
      · rename_i hrange
        exact hbound (by decide) hrange.2
      · split at hvalue
        · rename_i hrange
          exact hbound (by decide) hrange.2
        · cases hvalue
  · cases hdigit

theorem ne_of_le {c d : Char} (hc : 128 ≤ c.toNat) (hd : d.toNat < 128) : c ≠ d := by
  rintro rfl
  omega

/-- Without a sign in front there is none to split off. -/
theorem sign_of_ne {c : Char} (hminus : c ≠ '-') (hplus : c ≠ '+') (rest : List Char) :
    sign (c :: rest) = ([], c :: rest) := by
  unfold sign
  split <;> simp_all

theorem sign_append (cs : List Char) : (sign cs).1 ++ (sign cs).2 = cs := by
  unfold sign
  split <;> rfl

theorem sign_cases (cs : List Char) :
    (sign cs).1 = [] ∨ (sign cs).1 = ['-'] ∨ (sign cs).1 = ['+'] := by
  unfold sign
  split <;> simp

theorem sign_units (cs : List Char) :
    sign (units (.ofList cs)) = ((sign cs).1, units (.ofList (sign cs).2)) := by
  cases cs with
  | nil => rfl
  | cons c rest =>
    by_cases hascii : c.toNat < 128
    · rw [units_cons_of_lt hascii]
      by_cases hminus : c = '-'
      · subst hminus
        rfl
      · by_cases hplus : c = '+'
        · subst hplus
          rfl
        · rw [sign_of_ne hminus hplus, sign_of_ne hminus hplus, units_cons_of_lt hascii]
    · have hother : 128 ≤ c.toNat := Nat.not_lt.mp hascii
      obtain ⟨u, us, hunits, hu⟩ := units_cons_of_le hother rest
      rw [hunits, sign_of_ne (ne_of_le hu (by decide)) (ne_of_le hu (by decide)),
        sign_of_ne (ne_of_le hother (by decide)) (ne_of_le hother (by decide)), hunits]

/-- Without a point in front there is no fraction. -/
theorem fraction_of_ne {c : Char} (hpoint : c ≠ '.') (rest : List Char) :
    fraction (c :: rest) = ([], [], c :: rest) := by
  unfold fraction
  split <;> simp_all

theorem fraction_append (cs : List Char) :
    (fraction cs).1 ++ (fraction cs).2.1 ++ (fraction cs).2.2 = cs := by
  unfold fraction
  split
  · simp [List.takeWhile_append_dropWhile]
  · rfl

theorem fraction_units (cs : List Char) :
    fraction (units (.ofList cs)) =
      ((fraction cs).1, (fraction cs).2.1, units (.ofList (fraction cs).2.2)) := by
  cases cs with
  | nil => rfl
  | cons c rest =>
    by_cases hascii : c.toNat < 128
    · rw [units_cons_of_lt hascii]
      by_cases hpoint : c = '.'
      · subst hpoint
        simp only [fraction, takeWhile_units fun _ => toNat_lt_of_isDigit,
          dropWhile_units fun _ => toNat_lt_of_isDigit]
      · rw [fraction_of_ne hpoint, fraction_of_ne hpoint, units_cons_of_lt hascii]
    · have hother : 128 ≤ c.toNat := Nat.not_lt.mp hascii
      obtain ⟨u, us, hunits, hu⟩ := units_cons_of_le hother rest
      rw [hunits, fraction_of_ne (ne_of_le hu (by decide)),
        fraction_of_ne (ne_of_le hother (by decide)), hunits]

/-- Without its letter in front there is no exponent. -/
theorem exponentText_of_ne {c : Char} (hletter : ¬ (c = 'e' ∨ c = 'E')) (rest : List Char) :
    exponentText (c :: rest) = [] := by
  simp only [exponentText]
  rw [if_neg fun h => hletter h.1]

theorem exponentText_isPrefix (cs : List Char) : exponentText cs <+: cs := by
  cases cs with
  | nil => exact List.nil_prefix
  | cons e rest =>
    simp only [exponentText]
    split
    · rw [List.cons_prefix_cons]
      refine ⟨rfl, ?_⟩
      conv => rhs; rw [← sign_append rest]
      exact (List.prefix_append_right_inj _).mpr (List.takeWhile_prefix _)
    · exact List.nil_prefix

theorem exponentText_units (cs : List Char) :
    exponentText (units (.ofList cs)) = exponentText cs := by
  cases cs with
  | nil => rfl
  | cons c rest =>
    by_cases hascii : c.toNat < 128
    · rw [units_cons_of_lt hascii]
      simp only [exponentText, sign_units, takeWhile_units fun _ => toNat_lt_of_isDigit]
    · have hother : 128 ≤ c.toNat := Nat.not_lt.mp hascii
      obtain ⟨u, us, hunits, hu⟩ := units_cons_of_le hother rest
      have hletter {d : Char} (hd : 128 ≤ d.toNat) : ¬ (d = 'e' ∨ d = 'E') := by
        rintro (rfl | rfl) <;> exact absurd hd (by decide)
      rw [hunits, exponentText_of_ne (hletter hu), exponentText_of_ne (hletter hother)]

/-- The longest leading decimal is the same among the bytes as among the characters. -/
theorem decimalText_units (cs : List Char) :
    decimalText (units (.ofList cs)) = decimalText cs := by
  simp only [decimalText, sign_units, takeWhile_units fun _ => toNat_lt_of_isDigit,
    dropWhile_units fun _ => toNat_lt_of_isDigit, fraction_units, exponentText_units]

end Units

/-- The longest leading decimal is a front part of the text. -/
theorem decimalText_isPrefix {cs decimal : List Char} (hdecimal : decimalText cs = some decimal) :
    decimal <+: cs := by
  simp only [decimalText] at hdecimal
  split at hdecimal
  · cases hdecimal
  · cases hdecimal
    conv => rhs; rw [← sign_append cs]
    rw [List.append_assoc, List.append_assoc, List.append_assoc, List.prefix_append_right_inj]
    conv => rhs; rw [← List.takeWhile_append_dropWhile (p := isDigit 10) (l := (sign cs).2)]
    rw [List.prefix_append_right_inj]
    conv => rhs; rw [← fraction_append (List.dropWhile (isDigit 10) (sign cs).2)]
    rw [List.append_assoc, List.prefix_append_right_inj, List.prefix_append_right_inj]
    exact exponentText_isPrefix _

theorem toNat_lt_of_mem_digits {cs : List Char} {c : Char}
    (hc : c ∈ cs.takeWhile (isDigit 10)) : c.toNat < 128 :=
  toNat_lt_of_isDigit (List.all_eq_true.mp List.all_takeWhile c hc)

/-- The longest leading decimal has characters of seven bits only. -/
theorem toNat_lt_of_mem_decimalText {cs decimal : List Char}
    (hdecimal : decimalText cs = some decimal) : ∀ c ∈ decimal, c.toNat < 128 := by
  have hmark (cs : List Char) : ∀ c ∈ (sign cs).1, c.toNat < 128 := by
    rcases sign_cases cs with hsign | hsign | hsign <;> rw [hsign] <;> simp
  have hfraction (cs : List Char) :
      (∀ c ∈ (fraction cs).1, c.toNat < 128) ∧ ∀ c ∈ (fraction cs).2.1, c.toNat < 128 := by
    unfold fraction
    split
    · exact ⟨by simp, fun c => toNat_lt_of_mem_digits⟩
    · exact ⟨by simp, by simp⟩
  have hexponent (cs : List Char) : ∀ c ∈ exponentText cs, c.toNat < 128 := by
    intro c hc
    cases cs with
    | nil => cases hc
    | cons e rest =>
      simp only [exponentText] at hc
      split at hc
      · rename_i hletter
        rcases List.mem_cons.mp hc with rfl | hc
        · rcases hletter.1 with rfl | rfl <;> decide
        · rcases List.mem_append.mp hc with hc | hc
          · exact hmark rest c hc
          · exact toNat_lt_of_mem_digits hc
      · cases hc
  simp only [decimalText] at hdecimal
  split at hdecimal
  · cases hdecimal
  · cases hdecimal
    intro c hc
    simp only [List.mem_append] at hc
    rcases hc with (((hc | hc) | hc) | hc) | hc
    · exact hmark cs c hc
    · exact toNat_lt_of_mem_digits hc
    · exact (hfraction _).1 c hc
    · exact (hfraction _).2 c hc
    · exact hexponent _ c hc

/-- The longest leading decimal can be cut out of the text by its place among the bytes. -/
theorem slice?_of_decimalSpan? (text : String) :
    decimalSpan? text = none ∧ decimalText (text.toList.dropWhile isBlank) = none ∨
      ∃ start stop decimal, decimalSpan? text = some (start, stop) ∧
        decimalText (text.toList.dropWhile isBlank) = some decimal ∧
          Utf8.slice? text start stop = some (String.ofList decimal) := by
  have hblanks : (Utf8.units text).takeWhile isBlank = text.toList.takeWhile isBlank := by
    rw [← Utf8.takeWhile_units (fun _ => toNat_lt_of_isBlank) text.toList, String.ofList_toList]
  have hbody : decimalText ((Utf8.units text).dropWhile isBlank) =
      decimalText (text.toList.dropWhile isBlank) := by
    rw [← decimalText_units (text.toList.dropWhile isBlank),
      ← Utf8.dropWhile_units (fun _ => toNat_lt_of_isBlank) text.toList, String.ofList_toList]
  rw [decimalSpan?, hblanks, hbody]
  cases hdecimal : decimalText (text.toList.dropWhile isBlank) with
  | none => exact .inl ⟨rfl, rfl⟩
  | some decimal =>
    refine .inr ⟨_, _, decimal, rfl, rfl, ?_⟩
    obtain ⟨rest, hrest⟩ := decimalText_isPrefix hdecimal
    have htext : text = String.ofList (text.toList.takeWhile isBlank) ++ String.ofList decimal ++
        String.ofList rest := by
      rw [← String.ofList_append, ← String.ofList_append, List.append_assoc, hrest,
        List.takeWhile_append_dropWhile, String.ofList_toList]
    have hsize {cs : List Char} (hascii : ∀ c ∈ cs, c.toNat < 128) :
        cs.length = (String.ofList cs).utf8ByteSize := by
      rw [← Utf8.length_units, Utf8.units_eq_self hascii]
    have hblank : ∀ c ∈ text.toList.takeWhile isBlank, c.toNat < 128 := fun c hc =>
      toNat_lt_of_isBlank (List.all_eq_true.mp List.all_takeWhile c hc)
    have hslice := Utf8.slice?_append (.ofList (text.toList.takeWhile isBlank)) (.ofList decimal)
      (.ofList rest)
    rwa [← htext, ← hsize hblank, ← hsize (toNat_lt_of_mem_decimalText hdecimal)] at hslice

theorem isSome_double? (text : String) : (double? text).isSome := by
  simp only [double?]
  split
  · rfl
  · split
    · rfl
    · rcases slice?_of_decimalSpan? text with ⟨hspan, -⟩ | ⟨start, stop, decimal, hspan, -, hslice⟩
      · rw [hspan]
        rfl
      · simp only [hspan, hslice]
        rfl

/-- The double at the front of a text. -/
def double (text : String) : Binary64 := (double? text).get (isSome_double? text)

end Leading
end EngineLink
