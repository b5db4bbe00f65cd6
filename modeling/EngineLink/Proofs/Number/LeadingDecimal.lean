import EngineLink.Proofs.Number.LeadingInteger
import EngineLink.Proofs.Number.Numerals
import Mathlib.Computability.Language

/-!
# Decimals at the front of a text

The decimals are a regular language: an optional sign, digits with a point among or beside them,
and an exponent if it has a digit.  A text is scanned once from left to right, and every part is
taken as far as it goes.  No decimal at the front of the text is longer than what that finds,
because a part that ends early is followed by a digit, which no later part begins with.

Main results:

- Theorem {lit}`mem_of_decimalText`: what is found is a decimal.
- Theorem {lit}`decimalText_of_mem`: it is at least as long as any decimal at the front.
- Theorem {lit}`isSome_readDecimal`: every decimal has a value.
- Theorem {lit}`double_reads_longest_decimal`: what is read off every text.
-/

namespace EngineLink
namespace Leading

open scoped Computability

/-! ## The language of decimals -/

/-- The words of one character of a kind. -/
def one (kind : Char → Prop) : Language Char := {word | ∃ c, kind c ∧ word = [c]}

/-- A decimal digit. -/
def digit : Language Char := one fun c => '0' ≤ c ∧ c ≤ '9'

/-- A sign, or nothing. -/
def optionalSign : Language Char := 1 + one fun c => c = '+' ∨ c = '-'

/-- Digits with an optional point behind the first one, or a point in front of digits. -/
def mantissa : Language Char :=
  digit * digit∗ * (1 + one (· = '.') * digit∗) + one (· = '.') * (digit * digit∗)

/-- A letter, an optional sign and digits, or nothing. -/
def optionalExponent : Language Char :=
  1 + one (fun c => c = 'e' ∨ c = 'E') * optionalSign * (digit * digit∗)

/-- The decimals. -/
def decimal : Language Char := optionalSign * mantissa * optionalExponent

/-- The spellings of a word of small letters, in either case. -/
def spelling (word : String) : Language Char := {w | w.map Char.toLower = word.toList}

/-- The words of the language of digits. -/
theorem mem_digits_iff {word : List Char} :
    word ∈ digit∗ ↔ ∀ c ∈ word, isDigit 10 c = true := by
  rw [Language.mem_kstar]
  constructor
  · rintro ⟨words, rfl, hwords⟩ c hc
    obtain ⟨w, hw, hcw⟩ := List.mem_flatten.mp hc
    obtain ⟨d, hd, rfl⟩ := hwords w hw
    rw [List.mem_singleton.mp hcw]
    exact (isDigit_ten_iff d).mpr hd
  · intro hdigits
    refine ⟨word.map fun c => [c], (List.flatMap_singleton' word).symm, ?_⟩
    · intro w hw
      obtain ⟨c, hc, rfl⟩ := List.mem_map.mp hw
      exact ⟨c, (isDigit_ten_iff c).mp (hdigits c hc), rfl⟩

theorem mem_digit_mul_digits_iff {word : List Char} :
    word ∈ digit * digit∗ ↔ word ≠ [] ∧ ∀ c ∈ word, isDigit 10 c = true := by
  rw [Language.mem_mul]
  constructor
  · rintro ⟨_, ⟨c, hc, rfl⟩, rest, hrest, rfl⟩
    refine ⟨List.cons_ne_nil c rest, ?_⟩
    rw [List.singleton_append, List.forall_mem_cons]
    exact ⟨(isDigit_ten_iff c).mpr hc, mem_digits_iff.mp hrest⟩
  · rintro ⟨hne, hdigits⟩
    cases word with
    | nil => exact absurd rfl hne
    | cons c rest =>
      rw [List.forall_mem_cons] at hdigits
      exact ⟨[c], ⟨c, (isDigit_ten_iff c).mp hdigits.1, rfl⟩, rest,
        mem_digits_iff.mpr hdigits.2, rfl⟩

/-- The three ways to write a sign. -/
theorem mem_optionalSign_iff {word : List Char} :
    word ∈ optionalSign ↔ word = [] ∨ word = ['+'] ∨ word = ['-'] := by
  rw [optionalSign, Language.mem_add, Language.mem_one]
  constructor
  · rintro (rfl | ⟨c, rfl | rfl, rfl⟩) <;> simp
  · rintro (rfl | rfl | rfl)
    · exact .inl rfl
    · exact .inr ⟨'+', .inl rfl, rfl⟩
    · exact .inr ⟨'-', .inr rfl, rfl⟩

/-- The parts of a mantissa. -/
structure Mantissa where
  whole : List Char
  point : List Char
  places : List Char
  whole_digit : ∀ c ∈ whole, isDigit 10 c = true
  places_digit : ∀ c ∈ places, isDigit 10 c = true
  shape : point = ['.'] ∨ point = [] ∧ places = []
  some_digit : ¬ (whole = [] ∧ places = [])

/-- The text of a mantissa. -/
def Mantissa.text (parts : Mantissa) : List Char := parts.whole ++ (parts.point ++ parts.places)

/-- The words of the language of mantissas are the texts of their parts. -/
theorem mem_mantissa_iff {word : List Char} :
    word ∈ mantissa ↔ ∃ parts : Mantissa, word = parts.text := by
  have hpoint : ['.'] ∈ one (· = '.') := ⟨'.', rfl, rfl⟩
  rw [mantissa, Language.mem_add]
  constructor
  · rintro (hword | hword)
    · obtain ⟨whole, hwhole, tail, htail, rfl⟩ := Language.mem_mul.mp hword
      obtain ⟨hne, hwhole⟩ := mem_digit_mul_digits_iff.mp hwhole
      rcases (Language.mem_add _ _ _).mp htail with htail | htail
      · obtain rfl := (Language.mem_one _).mp htail
        exact ⟨⟨whole, [], [], hwhole, by simp, .inr ⟨rfl, rfl⟩, fun h => hne h.1⟩, rfl⟩
      · obtain ⟨_, ⟨_, rfl, rfl⟩, places, hplaces, rfl⟩ := Language.mem_mul.mp htail
        exact ⟨⟨whole, ['.'], places, hwhole, mem_digits_iff.mp hplaces, .inl rfl,
          fun h => hne h.1⟩, rfl⟩
    · obtain ⟨_, ⟨_, rfl, rfl⟩, places, hplaces, rfl⟩ := Language.mem_mul.mp hword
      obtain ⟨hne, hplaces⟩ := mem_digit_mul_digits_iff.mp hplaces
      exact ⟨⟨[], ['.'], places, by simp, hplaces, .inl rfl, fun h => hne h.2⟩, rfl⟩
  · rintro ⟨parts, rfl⟩
    by_cases hwhole : parts.whole = []
    · have hplaces : parts.places ≠ [] := fun h => parts.some_digit ⟨hwhole, h⟩
      rcases parts.shape with hshape | ⟨-, hnone⟩
      · rw [Mantissa.text, hwhole, hshape, List.nil_append]
        exact .inr (Language.append_mem_mul hpoint
          (mem_digit_mul_digits_iff.mpr ⟨hplaces, parts.places_digit⟩))
      · exact absurd hnone hplaces
    · refine .inl (Language.append_mem_mul
        (mem_digit_mul_digits_iff.mpr ⟨hwhole, parts.whole_digit⟩) ?_)
      rcases parts.shape with hshape | ⟨hshape, hnone⟩
      · rw [hshape]
        exact .inr (Language.append_mem_mul hpoint (mem_digits_iff.mpr parts.places_digit))
      · rw [hshape, hnone]
        exact .inl rfl

/-- The parts of an exponent. -/
structure Exponent where
  letter : Char
  mark : List Char
  digits : List Char
  letter_eq : letter = 'e' ∨ letter = 'E'
  sign : mark ∈ optionalSign
  digits_ne : digits ≠ []
  digit : ∀ c ∈ digits, isDigit 10 c = true

/-- The text of an exponent. -/
def Exponent.text (parts : Exponent) : List Char := parts.letter :: (parts.mark ++ parts.digits)

theorem mem_optionalExponent_iff {word : List Char} :
    word ∈ optionalExponent ↔ word = [] ∨ ∃ parts : Exponent, word = parts.text := by
  rw [optionalExponent, Language.mem_add, Language.mem_one]
  refine or_congr_right ?_
  constructor
  · intro hword
    obtain ⟨_, hfront, digits, hdigits, rfl⟩ := Language.mem_mul.mp hword
    obtain ⟨_, ⟨c, hc, rfl⟩, mark, hmark, rfl⟩ := Language.mem_mul.mp hfront
    obtain ⟨hne, hdigits⟩ := mem_digit_mul_digits_iff.mp hdigits
    exact ⟨⟨c, mark, digits, hc, hmark, hne, hdigits⟩, rfl⟩
  · rintro ⟨parts, rfl⟩
    have hletter : [parts.letter] ∈ one fun c => c = 'e' ∨ c = 'E' := ⟨_, parts.letter_eq, rfl⟩
    exact Language.append_mem_mul (Language.append_mem_mul hletter parts.sign)
      (mem_digit_mul_digits_iff.mpr ⟨parts.digits_ne, parts.digit⟩)

/-- A decimal is a sign, a mantissa and an exponent, one after the other. -/
theorem mem_decimal_iff {word : List Char} :
    word ∈ decimal ↔ ∃ mark ∈ optionalSign, ∃ front ∈ mantissa, ∃ tail ∈ optionalExponent,
      word = mark ++ (front ++ tail) := by
  rw [decimal, mul_assoc, Language.mem_mul]
  simp only [Language.mem_mul]
  constructor
  · rintro ⟨mark, hmark, _, ⟨front, hfront, tail, htail, rfl⟩, rfl⟩
    exact ⟨mark, hmark, front, hfront, tail, htail, rfl⟩
  · rintro ⟨mark, hmark, front, hfront, tail, htail, rfl⟩
    exact ⟨mark, hmark, _, ⟨front, hfront, tail, htail, rfl⟩, rfl⟩

/-! ## What is found is a decimal -/

theorem sign_mem_optionalSign (cs : List Char) : (sign cs).1 ∈ optionalSign := by
  rw [mem_optionalSign_iff]
  rcases sign_cases cs with h | h | h <;> simp [h]

theorem exponentText_mem (cs : List Char) : exponentText cs ∈ optionalExponent := by
  rw [mem_optionalExponent_iff]
  cases cs with
  | nil => exact .inl rfl
  | cons e rest =>
    simp only [exponentText]
    split
    · rename_i hexponent
      exact .inr ⟨⟨e, _, _, hexponent.1, sign_mem_optionalSign rest, hexponent.2,
        fun c => of_mem_takeWhile⟩, rfl⟩
    · exact .inl rfl

/-- A fraction is a point and digits, or nothing. -/
theorem fraction_spec (cs : List Char) :
    ((fraction cs).1 = ['.'] ∨ (fraction cs).1 = [] ∧ (fraction cs).2.1 = []) ∧
      ∀ c ∈ (fraction cs).2.1, isDigit 10 c = true := by
  unfold fraction
  split
  · exact ⟨.inl rfl, fun c => of_mem_takeWhile⟩
  · exact ⟨.inr ⟨rfl, rfl⟩, by simp⟩

/-- What is found is a decimal. -/
theorem mem_of_decimalText {cs found : List Char} (hfound : decimalText cs = some found) :
    found ∈ decimal := by
  simp only [decimalText] at hfound
  split at hfound
  · cases hfound
  · rename_i hdigits
    cases hfound
    obtain ⟨hshape, hplaces⟩ := fraction_spec ((sign cs).2.dropWhile (isDigit 10))
    exact mem_decimal_iff.mpr ⟨_, sign_mem_optionalSign cs, _,
      mem_mantissa_iff.mpr ⟨⟨_, _, _, fun c => of_mem_takeWhile, hplaces, hshape, hdigits⟩, rfl⟩,
      _, exponentText_mem (fraction ((sign cs).2.dropWhile (isDigit 10))).2.2,
      by simp only [Mantissa.text, List.append_assoc]⟩

/-! ## Nothing longer is one -/

/-- A sign is cut off in front of what is no sign. -/
theorem sign_optionalSign_append {mark cs : List Char} (hmark : mark ∈ optionalSign)
    (hcs : ∀ c ∈ cs.head?, c ≠ '+' ∧ c ≠ '-') : sign (mark ++ cs) = (mark, cs) := by
  apply sign_append_eq
  rcases mem_optionalSign_iff.mp hmark with h | h | h
  · exact .inr (.inr ⟨h, hcs⟩)
  · exact .inl h
  · exact .inr (.inl h)

theorem fraction_of_head? {cs : List Char} (hcs : ∀ c ∈ cs.head?, c ≠ '.') :
    fraction cs = ([], [], cs) := by
  cases cs with
  | nil => rfl
  | cons c rest => exact fraction_of_ne (hcs c rfl) rest

theorem ne_sign_of_isDigit {c : Char} (hc : isDigit 10 c = true) : c ≠ '+' ∧ c ≠ '-' := by
  constructor <;> rintro rfl <;> exact absurd hc (by decide)

/-- A mantissa begins with a digit or with a point. -/
theorem Mantissa.head?_ne (parts : Mantissa) (rest : List Char) :
    ∀ c ∈ (parts.text ++ rest).head?, c ≠ '+' ∧ c ≠ '-' := by
  intro c hc
  rw [Mantissa.text] at hc
  cases hwhole : parts.whole with
  | cons d ds =>
    rw [hwhole] at hc
    obtain rfl : d = c := Option.some.inj hc
    exact ne_sign_of_isDigit (parts.whole_digit d (by rw [hwhole]; exact List.mem_cons_self))
  | nil =>
    rcases parts.shape with hshape | ⟨-, hnone⟩
    · rw [hwhole, hshape] at hc
      obtain rfl : '.' = c := Option.some.inj hc
      decide
    · exact absurd ⟨hwhole, hnone⟩ parts.some_digit

/-- An exponent begins with its letter, which is no digit and no point. -/
theorem Exponent.head?_ne (parts : Exponent) (rest : List Char) :
    ∀ c ∈ (parts.text ++ rest).head?, ¬ isDigit 10 c = true ∧ c ≠ '.' := by
  intro c hc
  obtain rfl : parts.letter = c := Option.some.inj hc
  rcases parts.letter_eq with h | h <;> rw [h] <;> decide

theorem Exponent.sign_eq (parts : Exponent) (rest : List Char) :
    Leading.sign (parts.mark ++ (parts.digits ++ rest)) = (parts.mark, parts.digits ++ rest) := by
  refine sign_optionalSign_append parts.sign ?_
  intro c hc
  cases hdigits : parts.digits with
  | nil => exact absurd hdigits parts.digits_ne
  | cons d ds =>
    rw [hdigits] at hc
    obtain rfl : d = c := Option.some.inj hc
    exact ne_sign_of_isDigit (parts.digit d (by rw [hdigits]; exact List.mem_cons_self))

/-- In front of an exponent there are no more digits and no point. -/
theorem Exponent.split_eq (parts : Exponent) (rest : List Char) :
    (parts.text ++ rest).takeWhile (isDigit 10) = [] ∧
      (parts.text ++ rest).dropWhile (isDigit 10) = parts.text ++ rest ∧
        fraction (parts.text ++ rest) = ([], [], parts.text ++ rest) := by
  have hnone : ∀ c ∈ ([] : List Char), isDigit 10 c = true := by simp
  have hother : ∀ c ∈ (parts.text ++ rest).head?, ¬ isDigit 10 c = true := fun c hc =>
    (parts.head?_ne rest c hc).1
  have hsplit := takeWhile_append_of_head? hnone hother
  exact ⟨hsplit.1, hsplit.2, fraction_of_head? fun c hc => (parts.head?_ne rest c hc).2⟩

/-- An exponent that stands in front is not cut short. -/
theorem Exponent.length_le (parts : Exponent) (rest : List Char) :
    parts.text.length ≤ (exponentText (parts.text ++ rest)).length := by
  have hdigits : (parts.digits ++ rest).takeWhile (isDigit 10) =
      parts.digits ++ rest.takeWhile (isDigit 10) :=
    List.takeWhile_append_of_pos parts.digit
  have hne : parts.digits ++ rest.takeWhile (isDigit 10) ≠ [] := by
    simp [parts.digits_ne]
  simp only [Exponent.text, List.cons_append, List.append_assoc, exponentText, parts.sign_eq,
    hdigits]
  rw [if_pos ⟨parts.letter_eq, hne⟩]
  simp only [List.length_cons, List.length_append]
  omega

/-- After digits an exponent is found, unless there is none to be found. -/
theorem length_le_exponentText {tail : List Char} (htail : tail ∈ optionalExponent)
    (rest : List Char) :
    tail.length ≤ ((tail ++ rest).takeWhile (isDigit 10)).length +
      (exponentText ((tail ++ rest).dropWhile (isDigit 10))).length := by
  rcases mem_optionalExponent_iff.mp htail with rfl | ⟨parts, rfl⟩
  · exact Nat.zero_le _
  · obtain ⟨htake, hdrop, -⟩ := parts.split_eq rest
    rw [htake, hdrop]
    exact Nat.le_add_left_of_le (parts.length_le rest)

/-- The digits, the point and the exponent that are found are as long as any at the front. -/
theorem length_le_found (parts : Mantissa) {tail : List Char} (htail : tail ∈ optionalExponent)
    (rest : List Char) {whole point places more : List Char}
    (hwhole : (parts.text ++ (tail ++ rest)).takeWhile (isDigit 10) = whole)
    (hfraction : fraction ((parts.text ++ (tail ++ rest)).dropWhile (isDigit 10)) =
      (point, places, more)) :
    ¬ (whole = [] ∧ places = []) ∧
      (parts.text ++ tail).length ≤ (whole ++ point ++ places ++ exponentText more).length := by
  have htext : parts.text ++ (tail ++ rest) =
      parts.whole ++ (parts.point ++ (parts.places ++ (tail ++ rest))) := by
    simp only [Mantissa.text, List.append_assoc]
  rw [htext] at hwhole hfraction
  rw [List.takeWhile_append_of_pos parts.whole_digit] at hwhole
  rw [List.dropWhile_append_of_pos parts.whole_digit] at hfraction
  have hlength := length_le_exponentText htail rest
  rcases parts.shape with hshape | ⟨hshape, hplaces⟩
  · -- The digits end at the point, and those behind it may go on into what is left.
    have hpoint : ¬ isDigit 10 '.' = true := by decide
    rw [hshape, List.singleton_append, List.takeWhile_cons_of_neg hpoint, List.append_nil] at hwhole
    rw [hshape, List.singleton_append, List.dropWhile_cons_of_neg hpoint, fraction,
      List.takeWhile_append_of_pos parts.places_digit,
      List.dropWhile_append_of_pos parts.places_digit] at hfraction
    cases hfraction
    constructor
    · rintro ⟨hnone, hplaces⟩
      exact parts.some_digit ⟨hwhole.trans hnone, (List.append_eq_nil_iff.mp hplaces).1⟩
    · rw [Mantissa.text, hshape, ← hwhole]
      simp only [List.length_append]
      omega
  · have hdigits : parts.whole ≠ [] := fun h => parts.some_digit ⟨h, hplaces⟩
    rw [hshape, hplaces, List.nil_append, List.nil_append] at hwhole hfraction
    constructor
    · rintro ⟨hnone, -⟩
      exact hdigits (List.append_eq_nil_iff.mp (hwhole.trans hnone)).1
    · rw [Mantissa.text, hshape, hplaces, ← hwhole]
      rcases mem_optionalExponent_iff.mp htail with rfl | ⟨exponent, rfl⟩
      · simp only [List.length_append, List.length_nil]
        omega
      · obtain ⟨htake, hdrop, hnone⟩ := exponent.split_eq rest
        rw [hdrop, hnone] at hfraction
        cases hfraction
        have := exponent.length_le rest
        simp only [List.length_append, List.length_nil]
        omega

/-- What is found is at least as long as any decimal at the front. -/
theorem decimalText_of_mem {cs word : List Char} (hword : word ∈ decimal) (hstarts : word <+: cs) :
    ∃ found, decimalText cs = some found ∧ word.length ≤ found.length := by
  obtain ⟨mark, hmark, front, hfront, tail, htail, rfl⟩ := mem_decimal_iff.mp hword
  obtain ⟨parts, rfl⟩ := mem_mantissa_iff.mp hfront
  obtain ⟨rest, rfl⟩ := hstarts
  have htext : mark ++ (parts.text ++ tail) ++ rest = mark ++ (parts.text ++ (tail ++ rest)) := by
    simp only [List.append_assoc]
  have hsign := sign_optionalSign_append hmark (parts.head?_ne (tail ++ rest))
  rw [htext, decimalText, hsign]
  obtain ⟨hdigits, hlength⟩ := length_le_found parts htail rest rfl rfl
  refine ⟨_, if_neg hdigits, ?_⟩
  simp only [List.length_append] at hlength ⊢
  omega

/-! ## Every decimal has a value -/

theorem Exponent.isSome_readExponent (parts : Exponent) : (readExponent parts.text).isSome := by
  have hsign := parts.sign_eq []
  rw [List.append_nil] at hsign
  simp only [Exponent.text, readExponent, hsign]
  rw [if_pos ⟨parts.letter_eq, parts.digits_ne, List.all_eq_true.mpr parts.digit⟩]
  rfl

/-- Every exponent of the language has a value, however many digits it has. -/
theorem isSome_readExponent {tail : List Char} (htail : tail ∈ optionalExponent) :
    (readExponent tail).isSome := by
  rcases mem_optionalExponent_iff.mp htail with rfl | ⟨parts, rfl⟩
  · rfl
  · exact parts.isSome_readExponent

/-- An exponent begins with no digit and no point, so a mantissa ends before it. -/
theorem split_optionalExponent {tail : List Char} (htail : tail ∈ optionalExponent) :
    tail.takeWhile (isDigit 10) = [] ∧ tail.dropWhile (isDigit 10) = tail ∧
      fraction tail = ([], [], tail) := by
  rcases mem_optionalExponent_iff.mp htail with rfl | ⟨parts, rfl⟩
  · exact ⟨rfl, rfl, rfl⟩
  · have hsplit := parts.split_eq []
    rwa [List.append_nil] at hsplit

/-- A mantissa in front of an exponent is taken apart where it was put together. -/
theorem Mantissa.split_eq (parts : Mantissa) {tail : List Char} (htail : tail ∈ optionalExponent) :
    (parts.text ++ tail).takeWhile (isDigit 10) = parts.whole ∧
      fraction ((parts.text ++ tail).dropWhile (isDigit 10)) =
        (parts.point, parts.places, tail) := by
  obtain ⟨htake, hdrop, hnone⟩ := split_optionalExponent htail
  rw [Mantissa.text, List.append_assoc, List.append_assoc,
    List.takeWhile_append_of_pos parts.whole_digit, List.dropWhile_append_of_pos parts.whole_digit]
  rcases parts.shape with hshape | ⟨hshape, hplaces⟩
  · have hpoint : ¬ isDigit 10 '.' = true := by decide
    rw [hshape, List.singleton_append, List.takeWhile_cons_of_neg hpoint,
      List.dropWhile_cons_of_neg hpoint, fraction,
      List.takeWhile_append_of_pos parts.places_digit,
      List.dropWhile_append_of_pos parts.places_digit, htake, hdrop, List.append_nil,
      List.append_nil]
    exact ⟨rfl, rfl⟩
  · rw [hshape, hplaces, List.nil_append, List.nil_append, htake, hdrop, hnone, List.append_nil]
    exact ⟨rfl, rfl⟩

/-- Every decimal has a value. -/
theorem isSome_readDecimal {word : List Char} (hword : word ∈ decimal) :
    (readDecimal word).isSome := by
  obtain ⟨mark, hmark, front, hfront, tail, htail, rfl⟩ := mem_decimal_iff.mp hword
  obtain ⟨parts, rfl⟩ := mem_mantissa_iff.mp hfront
  obtain ⟨hwhole, hfraction⟩ := parts.split_eq htail
  have hsign := sign_optionalSign_append hmark (parts.head?_ne tail)
  have hexponent := isSome_readExponent htail
  simp only [readDecimal, decimalParts, hsign, hwhole, hfraction]
  rw [if_neg parts.some_digit]
  simp only [Option.isSome_map, hexponent]

/-! ## What is read -/

/-- The longest word of a language at the front of a text. -/
structure IsLongest (words : Language Char) (text found : List Char) : Prop where
  isPrefix : found <+: text
  mem : found ∈ words
  longest : ∀ word, word <+: text → word ∈ words → word.length ≤ found.length

/-- What is left of a text after the blanks at its front. -/
def AfterBlanks (text body : List Char) : Prop :=
  ∃ blanks, text = blanks ++ body ∧ (∀ c ∈ blanks, IsSpace c) ∧ ∀ c ∈ body.head?, ¬ IsSpace c

/-- What follows the blanks is what is left when they are dropped. -/
theorem AfterBlanks.dropWhile_isBlank {text body : List Char} (hbody : AfterBlanks text body) :
    text.dropWhile isBlank = body := by
  obtain ⟨blanks, rfl, hblanks, hend⟩ := hbody
  refine (takeWhile_append_of_head? ?_ ?_).2
  · intro c hc
    exact (isBlank_iff_isSpace c).mpr (hblanks c hc)
  · intro c hc hblank
    exact hend c hc ((isBlank_iff_isSpace c).mp hblank)

/-- The text that is found is the longest decimal in front. -/
theorem decimalText_eq_some {cs found : List Char} (hfound : decimalText cs = some found) :
    IsLongest decimal cs found where
  isPrefix := decimalText_isPrefix hfound
  mem := mem_of_decimalText hfound
  longest := by
    intro word hstarts hword
    obtain ⟨other, hother, hlength⟩ := decimalText_of_mem hword hstarts
    rw [hfound] at hother
    cases hother
    exact hlength

/-- If none is found, no decimal stands in front. -/
theorem decimalText_eq_none {cs : List Char} (hnone : decimalText cs = none) :
    ∀ word ∈ decimal, ¬ word <+: cs := by
  intro word hword hstarts
  obtain ⟨found, hfound, -⟩ := decimalText_of_mem hword hstarts
  rw [hnone] at hfound
  cases hfound

/-- A text begins with a word if a spelling of the word is at its front. -/
theorem beginsWithWord_iff (word cs : List Char) :
    beginsWithWord word cs = true ↔ ∃ w, w <+: cs ∧ w.map Char.toLower = word := by
  induction word generalizing cs with
  | nil => simp [beginsWithWord]
  | cons d word ih =>
    cases cs with
    | nil => simp [beginsWithWord]
    | cons c cs =>
      rw [beginsWithWord, Bool.and_eq_true, decide_eq_true_eq, ih]
      constructor
      · rintro ⟨rfl, w, hstarts, rfl⟩
        exact ⟨c :: w, (List.prefix_cons_inj c).mpr hstarts, rfl⟩
      · rintro ⟨w, hstarts, hw⟩
        cases w with
        | nil => cases hw
        | cons b w =>
          obtain ⟨rfl, hrest⟩ := List.cons_prefix_cons.mp hstarts
          rw [List.map_cons, List.cons.injEq] at hw
          exact ⟨hw.1, w, hrest, hw.2⟩

/-- Words of ASCII are seen the same among the bytes of a text. -/
theorem beginsWithWord_units {word : List Char} (hword : ∀ d ∈ word, d.toNat < 128)
    (cs : List Char) : beginsWithWord word (Utf8.units (.ofList cs)) = beginsWithWord word cs := by
  induction word generalizing cs with
  | nil => rfl
  | cons d word ih =>
    rw [List.forall_mem_cons] at hword
    cases cs with
    | nil => rfl
    | cons c cs =>
      by_cases hascii : c.toNat < 128
      · rw [Utf8.units_cons_of_lt hascii, beginsWithWord, beginsWithWord, ih hword.2]
      · have hother : 128 ≤ c.toNat := Nat.not_lt.mp hascii
        obtain ⟨u, us, hunits, hu⟩ := Utf8.units_cons_of_le hother cs
        have hne {b : Char} (hb : 128 ≤ b.toNat) : decide (b.toLower = d) = false := by
          rw [toLower_of_le hb]
          exact decide_eq_false (ne_of_le hb hword.1)
        rw [hunits, beginsWithWord, beginsWithWord, hne hother, hne hu, Bool.false_and,
          Bool.false_and]

section Cases

variable {text : String} {mark unsigned : List Char}
  (hsign : sign (text.toList.dropWhile isBlank) = (mark, unsigned))

include hsign

/-- The word for infinity in front, with a sign or without. -/
theorem double?_of_inf (hinf : beginsWithWord ['i', 'n', 'f'] unsigned = true) :
    double? text = some (Binary64.infinity (mark = ['-'])) := by
  simp only [double?, sign_dropWhile_units hsign]
  rw [beginsWithWord_units (by simp), if_pos hinf]

/-- The word for what is no number in front: its sign is of no account. -/
theorem double?_of_nan (hinf : ¬ beginsWithWord ['i', 'n', 'f'] unsigned = true)
    (hnan : beginsWithWord ['n', 'a', 'n'] unsigned = true) :
    double? text = some Binary64.nan := by
  simp only [double?, sign_dropWhile_units hsign]
  rw [beginsWithWord_units (by simp), if_neg hinf, beginsWithWord_units (by simp), if_pos hnan]

/-- The decimal that is found in front is read, and nothing else of the text. -/
theorem double?_of_span (hinf : ¬ beginsWithWord ['i', 'n', 'f'] unsigned = true)
    (hnan : ¬ beginsWithWord ['n', 'a', 'n'] unsigned = true) {start stop : Nat} {part : String}
    (hspan : decimalSpan? text = some (start, stop))
    (hslice : Utf8.slice? text start stop = some part) :
    double? text = some ((readDecimal part.toList).getD (Binary64.zero false)) := by
  simp only [double?, sign_dropWhile_units hsign]
  rw [beginsWithWord_units (by simp), if_neg hinf, beginsWithWord_units (by simp), if_neg hnan]
  simp only [hspan, hslice, Option.map_some]

/-- Anything else is zero. -/
theorem double?_of_none (hinf : ¬ beginsWithWord ['i', 'n', 'f'] unsigned = true)
    (hnan : ¬ beginsWithWord ['n', 'a', 'n'] unsigned = true) (hspan : decimalSpan? text = none) :
    double? text = some (Binary64.zero false) := by
  simp only [double?, sign_dropWhile_units hsign]
  rw [beginsWithWord_units (by simp), if_neg hinf, beginsWithWord_units (by simp), if_neg hnan]
  simp only [hspan]

end Cases

/-- A spelling of a word behind a sign is found behind that sign. -/
theorem beginsWithWord_of_spelling {name : String} (hname : name = "inf" ∨ name = "nan")
    {mark word body : List Char} (hmark : mark ∈ optionalSign) (hword : word ∈ spelling name)
    (hstarts : mark ++ word <+: body) :
    ∃ unsigned, sign body = (mark, unsigned) ∧ beginsWithWord name.toList unsigned = true := by
  obtain ⟨rest, rfl⟩ := hstarts
  have hletters : word.map Char.toLower = name.toList := hword
  refine ⟨word ++ rest, ?_, (beginsWithWord_iff _ _).mpr ⟨word, List.prefix_append _ _, hword⟩⟩
  rw [List.append_assoc]
  refine sign_optionalSign_append hmark ?_
  intro c hc
  cases word with
  | nil => rcases hname with rfl | rfl <;> cases hletters
  | cons d word =>
    obtain rfl : d = c := Option.some.inj hc
    constructor <;> rintro rfl <;> rcases hname with rfl | rfl <;>
      exact absurd (List.cons.inj hletters).1 (by decide)

/-- No word is found behind the sign if none of its spellings is at the front. -/
theorem not_beginsWithWord (name : String) {words : Language Char} {body : List Char}
    (hname : ∀ word ∈ spelling name, word ∈ words)
    (hwords : ∀ word ∈ optionalSign * words, ¬ word <+: body) :
    ¬ beginsWithWord name.toList (sign body).2 = true := by
  intro hbegins
  obtain ⟨word, hstarts, hletters⟩ := (beginsWithWord_iff _ _).mp hbegins
  refine hwords ((sign body).1 ++ word)
    (Language.append_mem_mul (sign_mem_optionalSign body) (hname word hletters)) ?_
  conv => rhs; rw [← sign_append body]
  exact (List.prefix_append_right_inj _).mpr hstarts

theorem not_inf_of_nan {unsigned : List Char}
    (hnan : beginsWithWord ['n', 'a', 'n'] unsigned = true) :
    ¬ beginsWithWord ['i', 'n', 'f'] unsigned = true := by
  intro hinf
  cases unsigned with
  | nil => cases hinf
  | cons c rest =>
    rw [beginsWithWord, Bool.and_eq_true, decide_eq_true_eq] at hnan hinf
    exact absurd (hnan.1.symm.trans hinf.1) (by decide)

/-- A text can be cut only where characters begin. -/
theorem isValid_of_slice? {text part : String} {start stop : Nat}
    (hslice : Utf8.slice? text start stop = some part) :
    String.Pos.Raw.IsValid text ⟨start⟩ ∧ String.Pos.Raw.IsValid text ⟨stop⟩ := by
  rw [Utf8.slice?] at hslice
  split at hslice
  · rename_i hvalid
    exact hvalid.2
  · cases hslice

/-- What is read off every text, after the blanks at its front.  A spelling of one of the two words,
behind an optional sign, is that infinity or not a number.  Otherwise the longest decimal at the
front is cut out between whole characters, and what is read is its value; and if no decimal is at
the front, zero.  A double is read in every case. -/
theorem double_reads_longest_decimal (text : String) (body : List Char)
    (hbody : AfterBlanks text.toList body) :
    (∀ mark ∈ optionalSign, ∀ word ∈ spelling "inf", mark ++ word <+: body →
      double? text = some (Binary64.infinity (mark = ['-']))) ∧
    (∀ mark ∈ optionalSign, ∀ word ∈ spelling "nan", mark ++ word <+: body →
      double? text = some Binary64.nan) ∧
    ((∀ word ∈ optionalSign * (spelling "inf" + spelling "nan"), ¬ word <+: body) →
      (∀ word ∈ decimal, ¬ word <+: body) ∧ double? text = some (Binary64.zero false) ∨
      ∃ found start stop value, IsLongest decimal body found ∧
        decimalSpan? text = some (start, stop) ∧
        String.Pos.Raw.IsValid text ⟨start⟩ ∧ String.Pos.Raw.IsValid text ⟨stop⟩ ∧
        Utf8.slice? text start stop = some (String.ofList found) ∧
        readDecimal found = some value ∧ double? text = some value) := by
  have hdrop := hbody.dropWhile_isBlank
  refine ⟨?_, ?_, ?_⟩
  · intro mark hmark word hword hstarts
    obtain ⟨unsigned, hsign, hinf⟩ := beginsWithWord_of_spelling (.inl rfl) hmark hword hstarts
    rw [← hdrop] at hsign
    exact double?_of_inf hsign hinf
  · intro mark hmark word hword hstarts
    obtain ⟨unsigned, hsign, hnan⟩ := beginsWithWord_of_spelling (.inr rfl) hmark hword hstarts
    rw [← hdrop] at hsign
    exact double?_of_nan hsign (not_inf_of_nan hnan) hnan
  · intro hwords
    have hsign : sign (text.toList.dropWhile isBlank) = ((sign body).1, (sign body).2) := by
      rw [hdrop]
    have hinf := not_beginsWithWord "inf" (fun _ hword => .inl hword) hwords
    have hnan := not_beginsWithWord "nan" (fun _ hword => .inr hword) hwords
    rcases slice?_of_decimalSpan? text with
      ⟨hspan, hnone⟩ | ⟨start, stop, found, hspan, hfound, hslice⟩
    · rw [hdrop] at hnone
      exact .inl ⟨decimalText_eq_none hnone, double?_of_none hsign hinf hnan hspan⟩
    · rw [hdrop] at hfound
      obtain ⟨value, hvalue⟩ := Option.isSome_iff_exists.mp
        (isSome_readDecimal (mem_of_decimalText hfound))
      have hdouble := double?_of_span hsign hinf hnan hspan hslice
      rw [String.toList_ofList, hvalue, Option.getD_some] at hdouble
      obtain ⟨hstart, hstop⟩ := isValid_of_slice? hslice
      exact .inr ⟨found, start, stop, value, decimalText_eq_some hfound, hspan, hstart, hstop,
        hslice, hvalue, hdouble⟩

/-- A letter that no exponent follows is left over, and so are the two bytes behind it. -/
theorem double_reads_longest_decimal_letter :
    AfterBlanks "\t 1eé".toList "1eé".toList ∧
      ∃ found start stop value, IsLongest decimal "1eé".toList found ∧
        decimalSpan? "\t 1eé" = some (start, stop) ∧
        Utf8.slice? "\t 1eé" start stop = some (String.ofList found) ∧
        readDecimal found = some value ∧ double? "\t 1eé" = some value := by
  have hbody : AfterBlanks "\t 1eé".toList "1eé".toList :=
    ⟨['\t', ' '], by decide, by simp [IsSpace], by simp [IsSpace]⟩
  have hdigit : ∀ c ∈ ['1'], isDigit 10 c = true := List.forall_mem_singleton.mpr (by decide)
  have hdecimal : ['1'] ∈ decimal :=
    mem_decimal_iff.mpr ⟨[], .inl rfl, ['1'],
      mem_mantissa_iff.mpr ⟨⟨['1'], [], [], hdigit, by simp, .inr ⟨rfl, rfl⟩, by simp⟩, rfl⟩,
      [], .inl rfl, rfl⟩
  have hwords : ∀ word ∈ optionalSign * (spelling "inf" + spelling "nan"),
      ¬ word <+: "1eé".toList := by
    intro word hword hstarts
    obtain ⟨mark, hmark, letters, hletters, rfl⟩ := Language.mem_mul.mp hword
    obtain ⟨name, hname, hspelling⟩ :
        ∃ name, (name = "inf" ∨ name = "nan") ∧ letters ∈ spelling name := by
      rcases hletters with h | h
      · exact ⟨"inf", .inl rfl, h⟩
      · exact ⟨"nan", .inr rfl, h⟩
    obtain ⟨unsigned, hsign, hbegins⟩ := beginsWithWord_of_spelling hname hmark hspelling hstarts
    obtain rfl : ['1', 'e', 'é'] = unsigned := congrArg Prod.snd hsign
    rcases hname with rfl | rfl <;> exact absurd hbegins (by decide)
  refine ⟨hbody, ?_⟩
  rcases (double_reads_longest_decimal "\t 1eé" "1eé".toList hbody).2.2 hwords with
    ⟨hnone, -⟩ | ⟨found, start, stop, value, hlongest, hspan, -, -, hslice, hvalue, hdouble⟩
  · exact absurd (by decide) (hnone ['1'] hdecimal)
  · exact ⟨found, start, stop, value, hlongest, hspan, hslice, hvalue, hdouble⟩

end Leading
end EngineLink
