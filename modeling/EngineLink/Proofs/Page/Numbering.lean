import EngineLink.Page.Store
import Mathlib.Algebra.Group.Int.Defs
import Mathlib.Algebra.Group.Nat.Defs

/-!
# Sequence numbers

Every stored result takes a sequence number, and after the greatest number comes one.  So the
numbers go round in a circle of two to the thirty-first less one, and a number comes back only
after as many results.

Main results:

- Theorem {lit}`toInt_successor`: the number after another one.
- Theorem {lit}`numberAfter_ne_self`: no number comes back early.
- Theorem {lit}`numberAfter_ne`: numbers that are given out within one round differ.
-/

namespace EngineLink
namespace ResultStore

/-- The number some results after another one. -/
def numberAfter (n : Int32) : Nat → Int32
  | 0 => n
  | k + 1 => successor (numberAfter n k)

/-- Counting begins at one, goes up by one and begins again after the greatest number. -/
theorem toInt_successor (n : Int32) :
    (successor n).toInt =
      if n.toInt < 1 ∨ n.toInt = 2 ^ 31 - 1 then 1 else n.toInt + 1 := by
  have hlow := n.le_toInt
  have hhigh := n.toInt_lt
  have hone : (1 : Int32).toInt = 1 := rfl
  have hsum : (n + 1).toInt = if n.toInt = 2 ^ 31 - 1 then -2 ^ 31 else n.toInt + 1 := by
    rw [Int32.toInt_add, hone, Int.bmod_def]
    split <;> split <;> omega
  have hmax : (successor n).toInt = max (n + 1).toInt 1 := by
    show (if n + 1 ≤ 1 then (1 : Int32) else n + 1).toInt = _
    split <;> rename_i hle <;> rw [Int32.le_iff_toInt_le, hone] at hle <;> omega
  rw [hmax, hsum]
  split <;> split <;> omega

/-- No number is its own successor. -/
theorem successor_ne_self (n : Int32) : successor n ≠ n := by
  intro hsame
  have hnumber := toInt_successor n
  rw [hsame] at hnumber
  split at hnumber <;> omega

/-- The first step of counting may be taken first. -/
theorem numberAfter_succ (n : Int32) (k : Nat) :
    numberAfter n (k + 1) = numberAfter (successor n) k := by
  induction k with
  | zero => rfl
  | succ k ih => rw [numberAfter, ih, numberAfter]

/-- From a number that was given out, counting goes round in a circle. -/
theorem toInt_numberAfter {n : Int32} (hn : 1 ≤ n.toInt) (k : Nat) :
    (numberAfter n k).toInt = (n.toInt - 1 + k) % (2 ^ 31 - 1) + 1 := by
  have hhigh := n.toInt_lt
  induction k with
  | zero =>
    rw [numberAfter]
    omega
  | succ k ih =>
    rw [numberAfter, toInt_successor, ih]
    split <;> omega

/-- No number comes back before all others were given out. -/
theorem numberAfter_ne_self (n : Int32) {k : Nat} (hpositive : 0 < k) (hk : k < 2 ^ 31 - 1) :
    numberAfter n k ≠ n := by
  intro hsame
  obtain ⟨j, rfl⟩ : ∃ j, k = j + 1 := ⟨k - 1, by omega⟩
  have hsuccessor := toInt_successor n
  have hfirst : 1 ≤ (successor n).toInt := by split at hsuccessor <;> omega
  have hnumber := toInt_numberAfter hfirst j
  rw [← numberAfter_succ, hsame, hsuccessor] at hnumber
  have hhigh := n.toInt_lt
  split at hnumber <;> omega

/-- Counting on from a number that was counted to. -/
theorem numberAfter_add (n : Int32) (j k : Nat) :
    numberAfter n (j + k) = numberAfter (numberAfter n j) k := by
  induction k with
  | zero => rfl
  | succ k ih => rw [Nat.add_succ, numberAfter, ih, numberAfter]

/-- Numbers that are given out within one round differ. -/
theorem numberAfter_ne (n : Int32) {j k : Nat} (hne : j ≠ k) (hj : j < 2 ^ 31 - 1)
    (hk : k < 2 ^ 31 - 1) : numberAfter n j ≠ numberAfter n k := by
  have hbefore {a b : Nat} (hlt : a < b) (hb : b < 2 ^ 31 - 1) :
      numberAfter n b ≠ numberAfter n a := by
    obtain ⟨d, rfl⟩ := Nat.exists_eq_add_of_lt hlt
    rw [Nat.add_assoc, numberAfter_add]
    exact numberAfter_ne_self _ (Nat.succ_pos d) (by omega)
  rcases Nat.lt_or_gt_of_ne hne with hlt | hgt
  · exact (hbefore hlt hk).symm
  · exact hbefore hgt hj

end ResultStore
end EngineLink
