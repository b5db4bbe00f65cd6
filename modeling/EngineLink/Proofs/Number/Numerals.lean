import EngineLink.Number.Leading

/-!
# Decimal numerals

How a number is written in decimal, and that its digits are what the readers of numbers take for
digits, with the same values.

Main results:

- Theorem {lit}`isDigit_ten`: the digits of radix ten are those of seven bits.
- Theorem {lit}`ofDigits_eq`: the number that a run of digits writes.
- Theorem {lit}`head?_toDigits_ne`: a positive number does not begin with a zero.
- Theorem {lit}`toList_toString`: the text of an integer.
-/

namespace EngineLink
namespace Leading

/-! ## Digits -/

theorem isDigit_ten_iff (c : Char) : isDigit 10 c = true ↔ '0' ≤ c ∧ c ≤ '9' := by
  unfold isDigit digitValue?
  by_cases hrange : '0' ≤ c ∧ c ≤ '9'
  · rw [if_pos hrange]
    have hhigh : c.toNat ≤ '9'.toNat := UInt32.le_iff_toNat_le.mp hrange.2
    have hten : c.toNat - '0'.toNat < 10 := Nat.lt_succ_of_le (Nat.sub_le_sub_right hhigh _)
    simp only [decide_eq_true hten, hrange, and_self]
  · rw [if_neg hrange]
    split
    · rename_i value hvalue
      have hten : ¬ value < 10 := by
        split at hvalue
        · cases hvalue
          omega
        · split at hvalue
          · cases hvalue
            omega
          · cases hvalue
      exact ⟨fun h => absurd (of_decide_eq_true h) hten, fun h => absurd h hrange⟩
    · exact ⟨fun h => absurd h Bool.false_ne_true, fun h => absurd h hrange⟩

theorem isDigit_ten (c : Char) : isDigit 10 c = c.isDigit := by
  rw [Bool.eq_iff_iff, isDigit_ten_iff]
  simp only [Char.isDigit, ge_iff_le, Bool.and_eq_true, decide_eq_true_eq]
  rfl

theorem digitValue?_of_isDigit {c : Char} (hdigit : c.isDigit = true) :
    digitValue? c = some (c.toNat - '0'.toNat) := by
  have hrange : '0' ≤ c ∧ c ≤ '9' := by
    simp only [Char.isDigit, ge_iff_le, Bool.and_eq_true, decide_eq_true_eq] at hdigit
    exact hdigit
  rw [digitValue?, if_pos hrange]

theorem ofDigits_eq {digits : List Char} (hascii : ∀ c ∈ digits, c.isDigit = true) :
    ofDigits 10 digits = Nat.ofDigitChars 10 digits 0 := by
  have hfold : ∀ (digits : List Char) (n : Nat), (∀ c ∈ digits, c.isDigit = true) →
      digits.foldl (fun value c => value * 10 + (digitValue? c).getD 0) n =
        Nat.ofDigitChars 10 digits n := by
    intro digits
    induction digits with
    | nil => exact fun _ _ => rfl
    | cons d digits ih =>
      intro n hascii
      rw [List.forall_mem_cons] at hascii
      rw [List.foldl_cons, Nat.ofDigitChars_cons, ih _ hascii.2, digitValue?_of_isDigit hascii.1,
        Option.getD_some, Nat.mul_comm]
  exact hfold digits 0 hascii

/-! ## Written numbers -/

/-- A positive number does not begin with a zero. -/
theorem head?_toDigits_ne {n : Nat} (hpos : 0 < n) : (Nat.toDigits 10 n).head? ≠ some '0' := by
  induction n using Nat.strongRecOn with
  | ind n ih =>
    by_cases hsmall : n < 10
    · have hall : ∀ n < 10, 0 < n → Nat.digitChar n ≠ '0' := by decide
      rw [Nat.toDigits_of_lt_base hsmall, List.head?_cons, ne_eq, Option.some.injEq]
      exact hall n hsmall hpos
    · have hfront := ih (n / 10) (by omega) (by omega)
      obtain ⟨d, digits, hdigits⟩ :=
        List.exists_cons_of_ne_nil (Nat.toDigits_ne_nil (n := n / 10) (b := 10))
      rw [Nat.toDigits_of_base_le (by decide) (Nat.not_lt.mp hsmall), hdigits]
      rwa [hdigits] at hfront

/-- An integer is written by its digits, behind a sign if it is negative. -/
theorem toList_toString (i : Int) :
    (0 ≤ i ∧ ∃ d digits, d.isDigit = true ∧ Nat.toDigits 10 i.toNat = d :: digits ∧
      (toString i).toList = d :: digits) ∨
    (i < 0 ∧ (toString i).toList = '-' :: Nat.toDigits 10 (-i).toNat) := by
  rw [Int.toString_eq_repr, Int.repr_eq_if]
  by_cases hsign : 0 ≤ i
  · left
    obtain ⟨d, digits, hdigits⟩ :=
      List.exists_cons_of_ne_nil (Nat.toDigits_ne_nil (n := i.toNat) (b := 10))
    have hmem : d ∈ Nat.toDigits 10 i.toNat := by
      rw [hdigits]
      exact List.mem_cons_self
    rw [if_pos hsign, Nat.toList_repr]
    exact ⟨hsign, d, digits, Nat.isDigit_of_mem_toDigits (by decide) (by decide) hmem, hdigits,
      hdigits⟩
  · right
    rw [if_neg hsign, String.toList_append, Nat.toList_repr]
    exact ⟨Int.not_le.mp hsign, rfl⟩

end Leading
end EngineLink
