import EngineLink.Number.Leading
import Mathlib.Data.Nat.Digits.Defs

/-!
# Integers at the front of a text

The integer at the front of a text is gathered digit by digit in sixty-four bits, and gathering
stops for good when a step does not fit.  What is read should not depend on that: it should be the
number that the digits write, counted without bounds, if that number fits, and the greatest integer
otherwise.  The two agree because a number only grows, on its own side of zero, with every digit
that is put after it.

Main results:

- Theorem {lit}`pushDigit_eq_fit?`: the two checks of one step are one check of its result.
- Theorem {lit}`foldlM_pushDigit`: a run of digits is gathered exactly if the number fits.
- Theorem {lit}`integer_eq_fit?`: so is the number that is read off a text.
- Theorem {lit}`integer_reads_leading_digits`: what is read off every text.
-/

namespace EngineLink
namespace Leading

/-! ## Blanks and digits -/

/-- The blank and the control characters from tabulator to carriage return. -/
def IsSpace (c : Char) : Prop := c = ' ' ∨ 9 ≤ c.toNat ∧ c.toNat ≤ 13

/-- The blanks are the white space of ASCII. -/
theorem isBlank_iff_isSpace (c : Char) : isBlank c = true ↔ IsSpace c := by
  simp only [isBlank, IsSpace, Bool.or_eq_true, decide_eq_true_eq]
  constructor
  · rintro (((((rfl | rfl) | rfl) | rfl) | rfl) | rfl) <;> decide
  · rintro (rfl | ⟨hlow, hhigh⟩)
    · decide
    · have hcases : c.toNat = 9 ∨ c.toNat = 10 ∨ c.toNat = 11 ∨ c.toNat = 12 ∨ c.toNat = 13 := by
        omega
      rw [← Char.ofNat_toNat c]
      rcases hcases with h | h | h | h | h <;> rw [h] <;> decide

theorem not_le_of_le {c d : Char} (hc : 128 ≤ c.toNat) (hd : d.toNat < 128) : ¬ c ≤ d := by
  intro hle
  have := UInt32.le_iff_toNat_le.mp hle
  exact absurd (Nat.lt_of_le_of_lt this hd) (Nat.not_lt.mpr hc)

/-- Only letters of seven bits have a small letter. -/
theorem toLower_of_le {c : Char} (hc : 128 ≤ c.toNat) : c.toLower = c := by
  refine dif_neg ?_
  rintro ⟨-, hle⟩
  exact not_le_of_le hc (by decide) hle

/-- The value of a digit in either case, and sixteen for any other character. -/
def place (c : Char) : Nat := "0123456789abcdef".toList.idxOf c.toLower

/-- The digits up to sixteen have their values, and other letters have none as small. -/
theorem digitValue?_cases (c : Char) :
    place c < 16 ∧ digitValue? c = some (place c) ∨
      place c = 16 ∧ 16 ≤ (digitValue? c).getD 16 := by
  by_cases hascii : c.toNat < 128
  · have hall : ∀ n < 128, place (Char.ofNat n) < 16 ∧
        digitValue? (Char.ofNat n) = some (place (Char.ofNat n)) ∨
          place (Char.ofNat n) = 16 ∧ 16 ≤ (digitValue? (Char.ofNat n)).getD 16 := by
      decide +kernel
    have hchar := hall c.toNat hascii
    rwa [Char.ofNat_toNat] at hchar
  · right
    have hother : 128 ≤ c.toNat := Nat.not_lt.mp hascii
    have hnot {d : Char} (hd : d.toNat < 128) : ¬ c ≤ d := not_le_of_le hother hd
    have hdigit : digitValue? c = none := by
      unfold digitValue?
      rw [if_neg fun h => hnot (by decide) h.2, if_neg fun h => hnot (by decide) h.2,
        if_neg fun h => hnot (by decide) h.2]
    have hplace : place c = 16 := by
      rw [place, toLower_of_le hother, List.idxOf_eq_length]
      · rfl
      · intro hmem
        have hsmall : ∀ d ∈ "0123456789abcdef".toList, d.toNat < 128 := by simp
        exact hascii (hsmall c hmem)
    exact ⟨hplace, by rw [hdigit]; exact Nat.le_refl 16⟩

/-- The digits of a base are the characters whose place is below it. -/
theorem isDigit_iff_place_lt {base : Nat} (hbase : base ≤ 16) (c : Char) :
    isDigit base c = true ↔ place c < base := by
  rcases digitValue?_cases c with ⟨hsmall, hvalue⟩ | ⟨hplace, hlarge⟩
  · rw [isDigit, hvalue]
    exact decide_eq_true_iff
  · rw [isDigit, hplace]
    constructor
    · intro hdigit
      cases hvalue : digitValue? c with
      | none => simp [hvalue] at hdigit
      | some v =>
        simp only [hvalue, decide_eq_true_eq, Option.getD_some] at hdigit hlarge
        omega
    · intro hlt
      omega

/-! ## Digits gathered in sixty-four bits -/

/-- A size on one side of zero. -/
def signed (negative : Bool) (size : Nat) : Int := if negative then -(size : Int) else size

/-- A value does not fit if it lies outside of sixty-four bits with a sign. -/
theorem fit?_eq_none_iff {value : Int} : fit? value = none ↔ value < -2 ^ 63 ∨ 2 ^ 63 ≤ value := by
  rw [fit?, Int64.toInt_minValue, Int64.toInt_maxValue]
  split
  · rename_i hfits
    simp only [reduceCtorEq, false_iff]
    omega
  · rename_i hfits
    simp only [true_iff]
    omega

/-- A value that fits is kept. -/
theorem fit?_eq_some_iff {value : Int} {fitted : Int64} :
    fit? value = some fitted ↔ fitted.toInt = value := by
  rw [fit?, Int64.toInt_minValue, Int64.toInt_maxValue]
  constructor
  · intro hfit
    split at hfit
    · rename_i hfits
      cases hfit
      exact Int64.toInt_ofInt_of_le hfits.1 (by omega)
    · cases hfit
  · rintro rfl
    have hlow := fitted.le_toInt
    have hhigh := fitted.toInt_lt
    rw [if_pos ⟨hlow, by omega⟩, Int64.ofInt_toInt]

/-- A number that does not fit is put down as the greatest integer. -/
theorem toInt_fit?_getD (value : Int) : ((fit? value).getD Int64.maxValue).toInt =
    if -2 ^ 63 ≤ value ∧ value ≤ 2 ^ 63 - 1 then value else 2 ^ 63 - 1 := by
  cases hfit : fit? value with
  | none =>
    rw [fit?_eq_none_iff] at hfit
    rw [if_neg (by omega)]
    rfl
  | some fitted =>
    have hvalue := fit?_eq_some_iff.mp hfit
    have hlow := fitted.le_toInt
    have hhigh := fitted.toInt_lt
    rw [if_pos (by omega)]
    exact hvalue

/-- A size that does not fit does not fit when it grows. -/
theorem fit?_signed_eq_none {negative : Bool} {size larger : Nat}
    (hnone : fit? (signed negative size) = none) (hle : size ≤ larger) :
    fit? (signed negative larger) = none := by
  rw [fit?_eq_none_iff] at hnone ⊢
  cases negative with
  | false =>
    simp only [signed, Bool.false_eq_true, if_false] at hnone ⊢
    omega
  | true =>
    simp only [signed, if_true] at hnone ⊢
    omega

/-- The two checks of one step are one check of its result. -/
theorem pushDigit_eq_fit? {negative : Bool} {base size : Nat} {value : Int64} {digit : Char}
    (hvalue : value.toInt = signed negative size) (hdigit : place digit < base)
    (hbase : base ≤ 16) :
    pushDigit negative base value digit = fit? (signed negative (size * base + place digit)) := by
  have hlast : digitValue? digit = some (place digit) := by
    rcases digitValue?_cases digit with ⟨-, hlast⟩ | ⟨hplace, -⟩
    · exact hlast
    · omega
  have hshift : value.toInt * base = signed negative (size * base) := by
    rw [hvalue]
    cases negative with
    | false => simp [signed]
    | true => simp [signed]
  rw [pushDigit, hshift, hlast]
  cases hfit : fit? (signed negative (size * base)) with
  | none => exact (fit?_signed_eq_none hfit (Nat.le_add_right _ _)).symm
  | some shifted =>
    have hshifted := fit?_eq_some_iff.mp hfit
    have hstep : (if negative then shifted.toInt - (place digit : Int)
        else shifted.toInt + (place digit : Int)) =
          signed negative (size * base + place digit) := by
      rw [hshifted]
      cases negative with
      | false => simp [signed]
      | true =>
        simp only [signed, if_true]
        omega
    rw [← hstep]
    rfl

/-- The number that a run of digits writes. -/
def numeral (base : Nat) (digits : List Char) : Nat :=
  Nat.ofDigits base (digits.map place).reverse

/-- The value of digits, taken in one after the other. -/
theorem numeral_eq_foldl (base : Nat) (digits : List Char) :
    numeral base digits = digits.foldl (fun size c => size * base + place c) 0 := by
  rw [numeral, Nat.ofDigits_eq_foldr, List.foldr_reverse, List.foldl_map]
  simp only [Nat.cast_id, Nat.add_comm, Nat.mul_comm]

/-- More digits make no number smaller. -/
theorem le_foldl_digits {base : Nat} (hbase : 0 < base) (digits : List Char) (size : Nat) :
    size ≤ digits.foldl (fun size c => size * base + place c) size := by
  induction digits generalizing size with
  | nil => exact Nat.le_refl size
  | cons c rest ih =>
    have hgrows : size ≤ size * base := Nat.le_mul_of_pos_right size hbase
    exact Nat.le_trans (Nat.le_trans hgrows (Nat.le_add_right _ _)) (ih _)

/-- A run of digits is gathered exactly if the number fits that it writes after the digits before
it. -/
theorem foldlM_pushDigit {negative : Bool} {base : Nat} (hbase : base ≤ 16) {digits : List Char}
    (hdigits : ∀ c ∈ digits, place c < base) {value : Int64} {size : Nat}
    (hvalue : value.toInt = signed negative size) :
    digits.foldlM (pushDigit negative base) value =
      fit? (signed negative (digits.foldl (fun size c => size * base + place c) size)) := by
  induction digits generalizing value size with
  | nil => exact (fit?_eq_some_iff.mpr hvalue).symm
  | cons c rest ih =>
    have hc : place c < base := hdigits c List.mem_cons_self
    have hrest : ∀ d ∈ rest, place d < base := fun d hd => hdigits d (List.mem_cons_of_mem _ hd)
    rw [List.foldlM_cons, List.foldl_cons, pushDigit_eq_fit? hvalue hc hbase]
    cases hfit : fit? (signed negative (size * base + place c)) with
    | none => exact (fit?_signed_eq_none hfit (le_foldl_digits (by omega) rest _)).symm
    | some next => exact ih hrest (fit?_eq_some_iff.mp hfit)

/-! ## The parts of a text -/

/-- A text begins with {lit}`0x` or {lit}`0X` in front of a hexadecimal digit. -/
def HexMarked (cs : List Char) : Prop :=
  ∃ x d rest, cs = '0' :: x :: d :: rest ∧ (x = 'x' ∨ x = 'X') ∧ place d < 16

theorem isHexMarked_of_head? {cs : List Char} (hzero : cs.head? ≠ some '0') :
    isHexMarked cs = false := by
  unfold isHexMarked
  split
  · exact absurd rfl hzero
  · rfl

theorem isHexMarked_zero_cons (cs : List Char) :
    isHexMarked ('0' :: cs) =
      (cs.head?.any (fun x => x = 'x' || x = 'X') && cs.tail.head?.any (isDigit 16)) := by
  cases cs <;> rfl

/-- The mark of base sixteen is a zero and an x with a digit behind them. -/
theorem isHexMarked_iff (cs : List Char) : isHexMarked cs = true ↔ HexMarked cs := by
  constructor
  · intro hmarked
    unfold isHexMarked at hmarked
    split at hmarked
    · rename_i x rest
      rw [Bool.and_eq_true, Bool.or_eq_true, decide_eq_true_eq, decide_eq_true_eq] at hmarked
      cases rest with
      | nil => cases hmarked.2
      | cons d rest =>
        exact ⟨x, d, rest, rfl, hmarked.1, (isDigit_iff_place_lt (Nat.le_refl 16) d).mp hmarked.2⟩
    · cases hmarked
  · rintro ⟨x, d, rest, rfl, hx, hd⟩
    have hdigit : isDigit 16 d = true := (isDigit_iff_place_lt (Nat.le_refl 16) d).mpr hd
    rw [isHexMarked, List.head?_cons, Option.any_some, hdigit]
    rcases hx with rfl | rfl <;> rfl

/-- A text announces a radix by its first characters: the marker that is skipped, and what the
digits are at the front of. -/
inductive Announces : List Char → Nat → List Char → List Char → Prop
  | hexadecimal {x d : Char} {rest : List Char} (hx : x = 'x' ∨ x = 'X') (hd : place d < 16) :
    Announces ('0' :: x :: d :: rest) 16 ['0', x] (d :: rest)
  | octal {cs : List Char} (hunmarked : ¬ HexMarked cs) (hzero : cs.head? = some '0') :
    Announces cs 8 [] cs
  | decimal {cs : List Char} (hzero : cs.head? ≠ some '0') : Announces cs 10 [] cs

/-- The parts of a text that an integer is read off: blanks as far as they go, an optional sign, the
marker of the radix, digits as far as they go, and the rest. -/
structure IntegerParts (text : List Char) where
  blanks : List Char
  mark : List Char
  marker : List Char
  digits : List Char
  rest : List Char
  base : Nat
  text_eq : text = blanks ++ (mark ++ (marker ++ (digits ++ rest)))
  blank : ∀ c ∈ blanks, IsSpace c
  blanks_end : ∀ c ∈ (mark ++ (marker ++ (digits ++ rest))).head?, ¬ IsSpace c
  sign : mark = ['+'] ∨ mark = ['-'] ∨
    mark = [] ∧ ∀ c ∈ (marker ++ (digits ++ rest)).head?, c ≠ '+' ∧ c ≠ '-'
  announced : Announces (marker ++ (digits ++ rest)) base marker (digits ++ rest)
  digit : ∀ c ∈ digits, place c < base
  digits_end : ∀ c ∈ rest.head?, ¬ place c < base

/-- The number that the digits write, with its sign. -/
def IntegerParts.value {text : List Char} (parts : IntegerParts text) : Int :=
  signed (parts.mark = ['-']) (numeral parts.base parts.digits)

/-- Without digits the value is zero. -/
theorem IntegerParts.value_of_nil {text : List Char} (parts : IntegerParts text)
    (hnone : parts.digits = []) : parts.value = 0 := by
  rw [IntegerParts.value, hnone]
  cases decide (parts.mark = ['-']) <;> rfl

section Units

open Utf8 (units units_cons_of_lt units_cons_of_le takeWhile_units dropWhile_units)

/-- The first character is seen the same among the bytes, as far as ASCII goes. -/
theorem head?_any_units {p : Char → Bool} (hp : ∀ c, p c = true → c.toNat < 128) (cs : List Char) :
    (units (.ofList cs)).head?.any p = cs.head?.any p := by
  cases cs with
  | nil => rfl
  | cons c rest =>
    by_cases hascii : c.toNat < 128
    · rw [units_cons_of_lt hascii]
      rfl
    · have hother : 128 ≤ c.toNat := Nat.not_lt.mp hascii
      obtain ⟨u, us, hunits, hu⟩ := units_cons_of_le hother rest
      have hchar : p c = false := by
        rw [← Bool.not_eq_true]
        exact fun h => hascii (hp c h)
      have hunit : p u = false := by
        rw [← Bool.not_eq_true]
        exact fun h => Nat.not_lt.mpr hu (hp u h)
      rw [hunits, List.head?_cons, List.head?_cons, Option.any_some, Option.any_some, hchar, hunit]

theorem head?_units_eq_zero_iff (cs : List Char) :
    (units (.ofList cs)).head? = some '0' ↔ cs.head? = some '0' := by
  have hzero (o : Option Char) : o = some '0' ↔ o.any (· = '0') = true := by
    cases o <;> simp
  have hascii : ∀ c : Char, decide (c = '0') = true → c.toNat < 128 := by
    intro c hc
    rw [of_decide_eq_true hc]
    decide
  rw [hzero, hzero, head?_any_units hascii]

/-- So is the mark of base sixteen. -/
theorem isHexMarked_units (cs : List Char) :
    isHexMarked (units (.ofList cs)) = isHexMarked cs := by
  by_cases hzero : cs.head? = some '0'
  · obtain ⟨rest, rfl⟩ : ∃ rest, cs = '0' :: rest := List.head?_eq_some_iff.mp hzero
    have hletter : ∀ x : Char, (decide (x = 'x') || decide (x = 'X')) = true → x.toNat < 128 := by
      intro x hx
      rcases (Bool.or_eq_true _ _).mp hx with hx | hx <;> rw [of_decide_eq_true hx] <;> decide
    rw [units_cons_of_lt (by decide), isHexMarked_zero_cons, isHexMarked_zero_cons,
      head?_any_units hletter]
    cases rest with
    | nil => rfl
    | cons x rest =>
      cases hx : (decide (x = 'x') || decide (x = 'X')) with
      | false => rw [List.head?_cons, Option.any_some, hx, Bool.false_and, Bool.false_and]
      | true =>
        rw [units_cons_of_lt (hletter x hx), List.tail_cons, List.tail_cons,
          head?_any_units fun _ => toNat_lt_of_isDigit]
  · have hunits : (units (.ofList cs)).head? ≠ some '0' :=
      fun h => hzero ((head?_units_eq_zero_iff cs).mp h)
    rw [isHexMarked_of_head? hzero, isHexMarked_of_head? hunits]

/-- The radix is announced among the bytes as it is among the characters. -/
theorem radix_units (cs : List Char) :
    radix (units (.ofList cs)) = ((radix cs).1, units (.ofList (radix cs).2)) := by
  unfold radix
  rw [isHexMarked_units]
  by_cases hmarked : isHexMarked cs = true
  · rw [if_pos hmarked, if_pos hmarked]
    obtain ⟨x, d, rest, rfl, hx, -⟩ := (isHexMarked_iff cs).mp hmarked
    have hascii : x.toNat < 128 := by rcases hx with rfl | rfl <;> decide
    rw [units_cons_of_lt (by decide), units_cons_of_lt hascii]
    rfl
  · rw [if_neg hmarked, if_neg hmarked]
    by_cases hzero : cs.head? = some '0'
    · rw [if_pos hzero, if_pos ((head?_units_eq_zero_iff cs).mpr hzero)]
    · rw [if_neg hzero, if_neg fun h => hzero ((head?_units_eq_zero_iff cs).mp h)]

/-- What follows the blanks and the sign, by its characters instead of its bytes. -/
theorem sign_dropWhile_units {text : String} {mark unsigned : List Char}
    (hsign : sign (text.toList.dropWhile isBlank) = (mark, unsigned)) :
    sign ((units text).dropWhile isBlank) = (mark, units (.ofList unsigned)) := by
  have hunits : (units text).dropWhile isBlank =
      units (.ofList (text.toList.dropWhile isBlank)) := by
    rw [← dropWhile_units (fun _ => toNat_lt_of_isBlank) text.toList, String.ofList_toList]
  rw [hunits, sign_units, hsign]

/-- The integer read off a text, by its characters instead of its bytes. -/
theorem integer_eq_of_chars {text : String} {mark unsigned body : List Char} {base : Nat}
    (hsign : sign (text.toList.dropWhile isBlank) = (mark, unsigned))
    (hradix : radix unsigned = (base, body)) :
    integer text = ((body.takeWhile (isDigit base)).foldlM
      (pushDigit (mark = ['-']) base) 0).getD Int64.maxValue := by
  simp only [integer, sign_dropWhile_units hsign, radix_units, hradix,
    takeWhile_units fun _ => toNat_lt_of_isDigit]

end Units

/-! ## What is read -/

/-- The base that is announced is the one found, and its marker is cut off. -/
theorem Announces.radix_eq {cs marker body : List Char} {base : Nat}
    (hannounces : Announces cs base marker body) : radix cs = (base, body) := by
  cases hannounces with
  | hexadecimal hx hd =>
    rw [radix, if_pos ((isHexMarked_iff _).mpr ⟨_, _, _, rfl, hx, hd⟩)]
    rfl
  | octal hunmarked hzero =>
    rw [radix, if_neg fun h => hunmarked ((isHexMarked_iff _).mp h), if_pos hzero]
  | decimal hzero =>
    rw [radix, isHexMarked_of_head? hzero, if_neg Bool.false_ne_true, if_neg hzero]

theorem Announces.base_le {cs marker body : List Char} {base : Nat}
    (hannounces : Announces cs base marker body) : base ≤ 16 := by
  cases hannounces <;> decide

/-- Every text announces a radix. -/
theorem exists_announces (cs : List Char) :
    ∃ base marker body, cs = marker ++ body ∧ Announces cs base marker body := by
  by_cases hmarked : HexMarked cs
  · obtain ⟨x, d, rest, rfl, hx, hd⟩ := hmarked
    exact ⟨16, ['0', x], d :: rest, rfl, .hexadecimal hx hd⟩
  · by_cases hzero : cs.head? = some '0'
    · exact ⟨8, [], cs, rfl, .octal hmarked hzero⟩
    · exact ⟨10, [], cs, rfl, .decimal hzero⟩

/-- Characters of a kind are cut off up to the first one of another kind. -/
theorem takeWhile_append_of_head? {p : Char → Bool} {front rest : List Char}
    (hfront : ∀ c ∈ front, p c = true) (hrest : ∀ c ∈ rest.head?, ¬ p c = true) :
    (front ++ rest).takeWhile p = front ∧ (front ++ rest).dropWhile p = rest := by
  rw [List.takeWhile_append_of_pos hfront, List.dropWhile_append_of_pos hfront]
  cases rest with
  | nil => simp
  | cons c rest =>
    have hc : ¬ p c = true := hrest c rfl
    simp [hc]

theorem of_mem_takeWhile {p : Char → Bool} {cs : List Char} {c : Char} (hc : c ∈ cs.takeWhile p) :
    p c = true :=
  List.all_eq_true.mp List.all_takeWhile c hc

theorem not_of_mem_head?_dropWhile {p : Char → Bool} {cs : List Char} {c : Char}
    (hc : c ∈ (cs.dropWhile p).head?) : ¬ p c = true := by
  have hhead := List.head?_dropWhile_not p cs
  rw [Option.mem_def.mp hc] at hhead
  simp [hhead]

/-- A sign is split off, or there is none in front. -/
theorem sign_split (cs : List Char) :
    (sign cs).1 = ['+'] ∨ (sign cs).1 = ['-'] ∨
      (sign cs).1 = [] ∧ ∀ c ∈ (sign cs).2.head?, c ≠ '+' ∧ c ≠ '-' := by
  unfold sign
  split
  · exact .inr (.inl rfl)
  · exact .inl rfl
  · rename_i hminus hplus
    refine .inr (.inr ⟨rfl, ?_⟩)
    intro c hc
    obtain ⟨rest, rfl⟩ := List.head?_eq_some_iff.mp hc
    exact ⟨fun h => hplus rest (by rw [h]), fun h => hminus rest (by rw [h])⟩

/-- A sign is split off what it was put in front of. -/
theorem sign_append_eq {mark cs : List Char} (hmark : mark = ['+'] ∨ mark = ['-'] ∨
    mark = [] ∧ ∀ c ∈ cs.head?, c ≠ '+' ∧ c ≠ '-') : sign (mark ++ cs) = (mark, cs) := by
  rcases hmark with rfl | rfl | ⟨rfl, hnone⟩
  · rfl
  · rfl
  · cases cs with
    | nil => rfl
    | cons c rest =>
      obtain ⟨hplus, hminus⟩ := hnone c rfl
      exact sign_of_ne hminus hplus rest

namespace IntegerParts

variable {text : List Char} (parts : IntegerParts text)

/-- After the blanks comes the sign. -/
theorem dropWhile_isBlank : text.dropWhile isBlank =
    parts.mark ++ (parts.marker ++ (parts.digits ++ parts.rest)) := by
  conv => lhs; rw [parts.text_eq]
  refine (takeWhile_append_of_head? ?_ ?_).2
  · intro c hc
    exact (isBlank_iff_isSpace c).mpr (parts.blank c hc)
  · intro c hc hblank
    exact parts.blanks_end c hc ((isBlank_iff_isSpace c).mp hblank)

/-- After the sign comes the marker. -/
theorem sign_eq : Leading.sign (parts.mark ++ (parts.marker ++ (parts.digits ++ parts.rest))) =
    (parts.mark, parts.marker ++ (parts.digits ++ parts.rest)) :=
  sign_append_eq parts.sign

/-- After the marker come the digits, and they end where the parts say. -/
theorem takeWhile_isDigit :
    (parts.digits ++ parts.rest).takeWhile (isDigit parts.base) = parts.digits := by
  have hbase := parts.announced.base_le
  refine (takeWhile_append_of_head? ?_ ?_).1
  · intro c hc
    exact (isDigit_iff_place_lt hbase c).mpr (parts.digit c hc)
  · intro c hc hdigit
    exact parts.digits_end c hc ((isDigit_iff_place_lt hbase c).mp hdigit)

end IntegerParts

/-- Every text has parts that an integer can be read off. -/
theorem nonempty_integerParts (text : List Char) : Nonempty (IntegerParts text) := by
  obtain ⟨base, marker, body, hbody, hannounces⟩ :=
    exists_announces (sign (text.dropWhile isBlank)).2
  have hbase := hannounces.base_le
  have hdigits := body.takeWhile_append_dropWhile (p := isDigit base)
  have hunsigned : marker ++ (body.takeWhile (isDigit base) ++ body.dropWhile (isDigit base)) =
      (sign (text.dropWhile isBlank)).2 := by
    rw [hdigits, hbody]
  have hsigned : (sign (text.dropWhile isBlank)).1 ++ (marker ++
      (body.takeWhile (isDigit base) ++ body.dropWhile (isDigit base))) =
        text.dropWhile isBlank := by
    rw [hunsigned, sign_append]
  refine ⟨{
    blanks := text.takeWhile isBlank
    mark := (sign (text.dropWhile isBlank)).1
    marker := marker
    digits := body.takeWhile (isDigit base)
    rest := body.dropWhile (isDigit base)
    base := base
    text_eq := ?_
    blank := ?_
    blanks_end := ?_
    sign := ?_
    announced := ?_
    digit := ?_
    digits_end := ?_ }⟩
  · rw [hsigned, List.takeWhile_append_dropWhile]
  · intro c hc
    exact (isBlank_iff_isSpace c).mp (of_mem_takeWhile hc)
  · intro c hc hspace
    rw [hsigned] at hc
    exact not_of_mem_head?_dropWhile hc ((isBlank_iff_isSpace c).mpr hspace)
  · rw [hunsigned]
    exact sign_split _
  · rw [hunsigned, hdigits]
    exact hannounces
  · intro c hc
    exact (isDigit_iff_place_lt hbase c).mp (of_mem_takeWhile hc)
  · intro c hc hplace
    exact not_of_mem_head?_dropWhile hc ((isDigit_iff_place_lt hbase c).mpr hplace)

/-- The digits are gathered to the number that they write, with its sign, if it fits. -/
theorem integer_eq_fit? {text : String} (parts : IntegerParts text.toList) :
    integer text = (fit? parts.value).getD Int64.maxValue := by
  have hsign : sign (text.toList.dropWhile isBlank) =
      (parts.mark, parts.marker ++ (parts.digits ++ parts.rest)) := by
    rw [parts.dropWhile_isBlank, parts.sign_eq]
  have hzero : (0 : Int64).toInt = signed (parts.mark = ['-']) 0 := by
    cases decide (parts.mark = ['-']) <;> rfl
  rw [integer_eq_of_chars hsign parts.announced.radix_eq, parts.takeWhile_isDigit,
    foldlM_pushDigit parts.announced.base_le parts.digit hzero, ← numeral_eq_foldl]
  rfl

/-- What is read off every text.  A text has blanks at its front, an optional sign, the marker of a
radix, and digits of that radix, each as far as it goes.  Without a digit zero is read; otherwise
the number that the digits write, with its sign, if it fits sixty-four bits, and the greatest
integer if it does not. -/
theorem integer_reads_leading_digits (text : String) :
    Nonempty (IntegerParts text.toList) ∧
      ∀ parts : IntegerParts text.toList, (integer text).toInt =
        if parts.digits = [] then 0
        else if -2 ^ 63 ≤ parts.value ∧ parts.value ≤ 2 ^ 63 - 1 then parts.value
        else 2 ^ 63 - 1 := by
  refine ⟨nonempty_integerParts _, ?_⟩
  intro parts
  rw [integer_eq_fit? parts, toInt_fit?_getD]
  by_cases hnone : parts.digits = []
  · rw [if_pos hnone, parts.value_of_nil hnone]
    rfl
  · rw [if_neg hnone]

end Leading
end EngineLink
