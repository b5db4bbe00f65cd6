import EngineLink.Text.Search
import Mathlib.Data.List.Infix

/-!
# Occurrences beside a character

A text in which a character does not stand cannot reach over a place where that character stands:
it occurs on one side of it or on the other.

Main results:

- Theorem {lit}`Text.prefix_of_prefix_append_cons`: the front of a text ends before a character
  that it does not have.
- Theorem {lit}`Text.infix_append_cons_iff`: what lacks a character occurs before it or after it.
-/

namespace EngineLink
namespace Text

/-- The text {lit}`needle` occurs in another. -/
def Occurs (needle text : String) : Prop := needle.toList <:+: text.toList

theorem contains_iff_occurs {text needle : String} :
    contains text needle = true ↔ Occurs needle text :=
  isInfix_iff _ _

instance (needle text : String) : Decidable (Occurs needle text) :=
  decidable_of_iff _ contains_iff_occurs

theorem Occurs.append_left {needle text : String} (hoccurs : Occurs needle text) (front : String) :
    Occurs needle (front ++ text) := by
  rw [Occurs, String.toList_append]
  exact hoccurs.trans (List.suffix_append _ _).isInfix

theorem Occurs.append_right {needle text : String} (hoccurs : Occurs needle text) (back : String) :
    Occurs needle (text ++ back) := by
  rw [Occurs, String.toList_append]
  exact hoccurs.trans (List.prefix_append _ _).isInfix

variable {c : Char} {needle front before after : List Char}

/-- The front of a text ends before a character that none of its last characters is. -/
theorem prefix_of_prefix_append_cons {k : Nat} (hfront : front <+: before ++ c :: after)
    (hk : k ≤ before.length) (hlast : c ∉ front.drop k) : front <+: before := by
  have hbefore : before <+: before ++ c :: after := List.prefix_append _ _
  apply List.prefix_of_prefix_length_le hfront hbefore
  by_contra hlong
  have hplace : before.length < front.length := Nat.not_le.mp hlong
  have hchar : front[before.length] = c := by
    simp [hfront.getElem hplace]
  apply hlast
  rw [List.mem_drop_iff_getElem]
  exact ⟨before.length - k, by omega, by simp [Nat.add_sub_of_le hk, hchar]⟩

/-- What lacks a character occurs before it or after it. -/
theorem infix_append_cons_iff (hlacks : c ∉ needle) :
    needle <:+: before ++ c :: after ↔ needle <:+: before ∨ needle <:+: after := by
  constructor
  · rintro ⟨start, stop, htext⟩
    have hfront : start ++ needle <+: before ++ c :: after := ⟨stop, htext⟩
    by_cases hstart : start.length ≤ before.length
    · left
      have hlast : c ∉ (start ++ needle).drop start.length := by rwa [List.drop_left]
      exact (List.suffix_append start needle).isInfix.trans
        (prefix_of_prefix_append_cons hfront hstart hlast).isInfix
    · right
      have hpassed : before ++ [c] <+: start := by
        have hchar : before ++ [c] <+: before ++ c :: after := ⟨after, by simp⟩
        apply List.prefix_of_prefix_length_le hchar ((List.prefix_append _ _).trans hfront)
        rw [List.length_append]
        exact Nat.not_le.mp hstart
      obtain ⟨skipped, rfl⟩ := hpassed
      refine ⟨skipped, stop, ?_⟩
      simpa using htext
  · rintro (hbefore | hafter)
    · exact hbefore.trans (List.prefix_append _ _).isInfix
    · exact hafter.trans ((List.suffix_cons c after).trans (List.suffix_append _ _)).isInfix

/-- What has no quotes occurs in a quoted text, in front of it or behind it. -/
theorem occurs_quoted_iff {needle opening quoted closing : String}
    (hquote : '"' ∉ needle.toList) :
    Occurs needle (opening ++ "\"" ++ quoted ++ "\"" ++ closing) ↔
      Occurs needle opening ∨ Occurs needle quoted ∨ Occurs needle closing := by
  have htext : (opening ++ "\"" ++ quoted ++ "\"" ++ closing).toList =
      opening.toList ++ '"' :: (quoted.toList ++ '"' :: closing.toList) := by
    simp [String.toList_append]
  rw [Occurs, htext, infix_append_cons_iff hquote, infix_append_cons_iff hquote]
  rfl

theorem head?_append {front : String} {c : Char} (hfront : front.toList.head? = some c)
    (back : String) : (front ++ back).toList.head? = some c := by
  rw [String.toList_append, List.head?_append, hfront, Option.some_or]

/-- A text does not begin with one that has another first character. -/
theorem not_beginsWith_of_head? {text start : String} {c d : Char}
    (htext : text.toList.head? = some c) (hstart : start.toList.head? = some d) (hne : d ≠ c) :
    ¬ beginsWith text start = true := by
  rw [beginsWith, List.isPrefixOf_iff_prefix]
  rintro ⟨rest, hrest⟩
  rw [← hrest, List.head?_append, hstart, Option.some_or, Option.some.injEq] at htext
  exact hne htext

end Text
end EngineLink
