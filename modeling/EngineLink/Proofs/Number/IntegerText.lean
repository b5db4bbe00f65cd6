import EngineLink.Proofs.Number.LeadingInteger
import EngineLink.Proofs.Number.Numerals
import EngineLink.Value.Coercion
import Mathlib.Data.List.Basic

/-!
# Integers read off their own texts

An integer is written in decimal, and what reads it back guesses a radix from the first characters
and gathers digits in sixty-four bits.  No number but zero is written with a leading zero, so none
is taken for an octal or a hexadecimal one, and a zero is the same number in either radix unless
what follows makes it the marker of a hexadecimal number.  Digits count away from zero on the side
of the sign, so the least integer does not overflow.

Main results:

- Theorem {lit}`numeral_toDigits`: the digits of a number write it.
- Theorem {lit}`exists_writtenParts`: the parts that a written number is read by.
- Theorem {lit}`integers_survive_text`: an integer is read off its own text, with blanks before it
  and anything behind it that it does not go on with.
-/

namespace EngineLink
namespace Leading

/-! ## Digits of a written number -/

theorem place_lt_ten_iff (c : Char) : place c < 10 ↔ c.isDigit = true := by
  rw [← isDigit_iff_place_lt (by decide), isDigit_ten]

theorem digitValue?_of_place_lt {c : Char} (hplace : place c < 16) :
    digitValue? c = some (place c) := by
  rcases digitValue?_cases c with ⟨-, hvalue⟩ | ⟨hsixteen, -⟩
  · exact hvalue
  · omega

theorem numeral_eq_ofDigits {base : Nat} (hbase : base ≤ 16) {digits : List Char}
    (hdigits : ∀ c ∈ digits, place c < base) : numeral base digits = ofDigits base digits := by
  rw [numeral_eq_foldl, ofDigits]
  apply List.foldl_ext
  intro size c hc
  have hplace : place c < 16 := Nat.lt_of_lt_of_le (hdigits c hc) hbase
  rw [digitValue?_of_place_lt hplace, Option.getD_some]

theorem isDigit_of_mem_toDigits {n : Nat} {c : Char} (hc : c ∈ Nat.toDigits 10 n) :
    c.isDigit = true :=
  Nat.isDigit_of_mem_toDigits (by decide) (by decide) hc

/-- The digits of a number write it. -/
theorem numeral_toDigits (n : Nat) : numeral 10 (Nat.toDigits 10 n) = n := by
  have hascii : ∀ c ∈ Nat.toDigits 10 n, c.isDigit = true := fun c hc => isDigit_of_mem_toDigits hc
  have hplaces : ∀ c ∈ Nat.toDigits 10 n, place c < 10 :=
    fun c hc => (place_lt_ten_iff c).mpr (hascii c hc)
  rw [numeral_eq_ofDigits (by decide) hplaces, ofDigits_eq hascii, Nat.ofDigitChars_ten_toDigits]

/-! ## What a written number announces -/

/-- A text goes on behind a zero as a hexadecimal number does. -/
def ContinuesHex (after : List Char) : Prop :=
  ∃ x d rest, after = x :: d :: rest ∧ (x = 'x' ∨ x = 'X') ∧ place d < 16

theorem hexMarked_zero_cons_iff (after : List Char) :
    HexMarked ('0' :: after) ↔ ContinuesHex after := by
  simp only [HexMarked, ContinuesHex, List.cons.injEq, true_and]

/-- A zero is taken for an octal number, and every other number is decimal; either way its digits
write it. -/
theorem announces_toDigits {n : Nat} {after : List Char} (hzero : n = 0 → ¬ ContinuesHex after) :
    ∃ base ≤ 10, Announces (Nat.toDigits 10 n ++ after) base [] (Nat.toDigits 10 n ++ after) ∧
      (∀ c ∈ Nat.toDigits 10 n, place c < base) ∧ numeral base (Nat.toDigits 10 n) = n := by
  by_cases hpos : 0 < n
  · refine ⟨10, Nat.le_refl 10, .decimal ?_, ?_, numeral_toDigits n⟩
    · rw [List.head?_append_of_ne_nil _ Nat.toDigits_ne_nil]
      exact head?_toDigits_ne hpos
    · intro c hc
      exact (place_lt_ten_iff c).mpr (isDigit_of_mem_toDigits hc)
  · obtain rfl : n = 0 := by omega
    refine ⟨8, by decide, .octal ?_ rfl, List.forall_mem_singleton.mpr (by decide), rfl⟩
    intro hmarked
    exact hzero rfl ((hexMarked_zero_cons_iff after).mp hmarked)

theorem not_isSpace_of_isDigit {c : Char} (hdigit : c.isDigit = true) : ¬ IsSpace c := by
  rw [Char.isDigit_iff_toNat] at hdigit
  rintro (rfl | ⟨-, hhigh⟩)
  · exact absurd hdigit (by decide)
  · have hzero : '0'.toNat = 48 := rfl
    omega

/-- A written number begins with a digit. -/
theorem isDigit_of_mem_head?_toDigits {n : Nat} {after : List Char} {c : Char}
    (hc : c ∈ (Nat.toDigits 10 n ++ after).head?) : c.isDigit = true := by
  rw [List.head?_append_of_ne_nil _ Nat.toDigits_ne_nil] at hc
  exact isDigit_of_mem_toDigits (List.mem_of_mem_head? hc)

/-- The parts that a written number is read by. -/
theorem exists_writtenParts {text blanks mark after : List Char} {n : Nat}
    (htext : text = blanks ++ (mark ++ (Nat.toDigits 10 n ++ after)))
    (hblanks : ∀ c ∈ blanks, IsSpace c) (hmark : mark = ['-'] ∨ mark = [])
    (hafter : ∀ c ∈ after.head?, ¬ c.isDigit = true) (hzero : n = 0 → ¬ ContinuesHex after) :
    ∃ parts : IntegerParts text, parts.value = signed (mark = ['-']) n := by
  obtain ⟨base, hbase, hannounces, hdigits, hvalue⟩ := announces_toDigits hzero
  refine ⟨{
    blanks := blanks
    mark := mark
    marker := []
    digits := Nat.toDigits 10 n
    rest := after
    base := base
    text_eq := htext
    blank := hblanks
    blanks_end := ?_
    sign := ?_
    announced := hannounces
    digit := hdigits
    digits_end := ?_ }, ?_⟩
  · intro c hc
    rcases hmark with rfl | rfl
    · obtain rfl : '-' = c := Option.some.inj hc
      rintro (hblank | ⟨-, hhigh⟩)
      · exact absurd hblank (by decide)
      · exact absurd hhigh (by decide)
    · exact not_isSpace_of_isDigit (isDigit_of_mem_head?_toDigits hc)
  · rcases hmark with rfl | rfl
    · exact .inr (.inl rfl)
    · refine .inr (.inr ⟨rfl, ?_⟩)
      intro c hc
      have hdigit := isDigit_of_mem_head?_toDigits hc
      constructor
      · rintro rfl
        exact absurd hdigit (by decide)
      · rintro rfl
        exact absurd hdigit (by decide)
  · intro c hc hplace
    exact hafter c hc ((place_lt_ten_iff c).mp (Nat.lt_of_lt_of_le hplace hbase))
  · simp only [IntegerParts.value, hvalue]

/-! ## Written integers -/

/-- An integer is written by its sign, if it is negative, and the digits of its size. -/
theorem exists_sign_toDigits (i : Int) :
    ∃ mark : List Char, (mark = ['-'] ∨ mark = []) ∧ signed (mark = ['-']) i.natAbs = i ∧
      (toString i).toList = mark ++ Nat.toDigits 10 i.natAbs := by
  rcases toList_toString i with ⟨hsign, d, digits, -, hdigits, htext⟩ | ⟨hsign, htext⟩
  · have hsize : i.toNat = i.natAbs := by omega
    refine ⟨[], .inr rfl, Int.natAbs_of_nonneg hsign, ?_⟩
    rw [htext, ← hdigits, hsize, List.nil_append]
  · have hsize : (-i).toNat = i.natAbs := by omega
    refine ⟨['-'], .inl rfl, ?_, ?_⟩
    · simp only [signed, decide_true, if_true]
      omega
    · rw [htext, hsize, List.singleton_append]

theorem integer_written {v : Int64} {blanks after : String}
    (hblanks : ∀ c ∈ blanks.toList, IsSpace c)
    (hafter : ∀ c ∈ after.toList.head?, ¬ c.isDigit = true)
    (hzero : v = 0 → ¬ ContinuesHex after.toList) :
    integer (blanks ++ Value.integerText v ++ after) = v := by
  obtain ⟨mark, hmark, hsigned, hwritten⟩ := exists_sign_toDigits v.toInt
  have htext : (blanks ++ Value.integerText v ++ after).toList =
      blanks.toList ++ (mark ++ (Nat.toDigits 10 v.toInt.natAbs ++ after.toList)) := by
    simp only [String.toList_append, Value.integerText, hwritten, List.append_assoc]
  have hnone : v.toInt.natAbs = 0 → ¬ ContinuesHex after.toList := by
    intro hsize
    exact hzero (Int64.toInt_inj.mp (Int.natAbs_eq_zero.mp hsize))
  obtain ⟨parts, hvalue⟩ := exists_writtenParts htext hblanks hmark hafter hnone
  have hfits : fit? parts.value = some v := by
    rw [fit?_eq_some_iff, hvalue, hsigned]
  rw [integer_eq_fit? parts, hfits, Option.getD_some]

/-- Every integer has a text, and it is read off that text: off the text alone, and with blanks
before it and any text behind it that does not begin with a digit, nor, behind a zero, with the rest
of the marker of a hexadecimal number. -/
theorem integers_survive_text (v : Int64) :
    ∃ text : String, Value.asText (.integer v) = .ok (some text) ∧
      Value.asInteger (.text text) = .ok v ∧
      ∀ blanks after : String, (∀ c ∈ blanks.toList, IsSpace c) →
        (∀ c ∈ after.toList.head?, ¬ c.isDigit = true) →
        (v = 0 → ¬ ContinuesHex after.toList) →
          Value.asInteger (.text (blanks ++ text ++ after)) = .ok v := by
  have hread : ∀ blanks after : String, (∀ c ∈ blanks.toList, IsSpace c) →
      (∀ c ∈ after.toList.head?, ¬ c.isDigit = true) →
      (v = 0 → ¬ ContinuesHex after.toList) →
        Value.asInteger (.text (blanks ++ Value.integerText v ++ after)) = .ok v := by
    intro blanks after hblanks hafter hzero
    rw [Value.asInteger, integer_written hblanks hafter hzero]
  refine ⟨Value.integerText v, rfl, ?_, hread⟩
  have halone := hread "" "" (by simp) (by simp) (by simp [ContinuesHex])
  rwa [String.empty_append, String.append_empty] at halone

/-- The least integer in front of what would mark a hexadecimal zero, and a zero in front of what
does not. -/
theorem least_integer_survives_text :
    Value.asInteger (.text ("\t\n " ++ "-9223372036854775808" ++ "x1")) = .ok Int64.minValue ∧
      Value.asInteger (.text ("\x0b" ++ "0" ++ "xyz")) = .ok 0 := by
  constructor
  · obtain ⟨text, htext, -, hread⟩ := integers_survive_text Int64.minValue
    have hwritten : Value.integerText Int64.minValue = "-9223372036854775808" := by decide
    simp only [Value.asText, hwritten] at htext
    cases htext
    exact hread "\t\n " "x1" (by simp [IsSpace]) (by simp) fun h => absurd h (by decide)
  · obtain ⟨text, htext, -, hread⟩ := integers_survive_text 0
    have hwritten : Value.integerText 0 = "0" := by decide
    simp only [Value.asText, hwritten] at htext
    cases htext
    exact hread "\x0b" "xyz" (by simp [IsSpace]) (by simp) (by simp [ContinuesHex, place])

end Leading
end EngineLink
