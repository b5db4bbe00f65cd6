import EngineLink.Proofs.Page.Greedy

/-!
# Longest pages

A slice takes the first row whatever it counts for, and then the rows after it up to the first one
that does not fit.  Rows only add to what was used, so what is taken is the longest front part that
has one row at most or keeps to the budget.  Every slice takes a row, so slicing what is left again
and again comes to an end, even at a budget of no bytes.

Main results:

- Theorem {lit}`Page.longestFront_iff`: the slice is the longest front part.
- Theorem {lit}`Page.Sliced.flatten_append`: what every run of slices keeps together.
- Theorem {lit}`Page.exists_sliced`: slicing comes to an end.
- Theorem {lit}`slice_takes_longest_front`: both, for all rows and budgets.
-/

namespace EngineLink
namespace Page

variable {budget : Nat} {rows rest : List Row} {pages : List (List Row)}

/-! ## One slice -/

/-- A front part of the rows that has one row at most or keeps to the budget, where no longer one
does. -/
structure LongestFront (budget : Nat) (rows page : List Row) : Prop where
  front : page <+: rows
  fits : page.length ≤ 1 ∨ totalSize page ≤ budget
  longest : ∀ other, other <+: rows → other.length ≤ 1 ∨ totalSize other ≤ budget →
    other.length ≤ page.length

/-- Rows have one longest front part. -/
theorem LongestFront.unique {page other : List Row} (hpage : LongestFront budget rows page)
    (hother : LongestFront budget rows other) : page = other := by
  have hle := hother.longest page hpage.front hpage.fits
  have hge := hpage.longest other hother.front hother.fits
  have hfront := List.prefix_of_prefix_length_le hpage.front hother.front hle
  exact hfront.eq_of_length (Nat.le_antisymm hle hge)

theorem longestFront_slice (budget : Nat) (rows : List Row) :
    LongestFront budget rows (slice budget rows) where
  front := slice_isPrefix budget rows
  fits := slice_fits budget rows
  longest := by
    intro other hother hfits
    by_cases hrows : rows = []
    · subst hrows
      rw [List.prefix_nil.mp hother]
      exact Nat.zero_le _
    · have hsome : slice budget rows ≠ [] := mt (slice_eq_nil_iff budget rows).mp hrows
      rw [← slice_append_behind budget rows] at hother
      exact length_le_of_full hsome (full_behind budget rows) hother hfits

/-- The slice is the longest front part. -/
theorem longestFront_iff {page : List Row} :
    LongestFront budget rows page ↔ page = slice budget rows := by
  constructor
  · intro hpage
    exact hpage.unique (longestFront_slice budget rows)
  · rintro rfl
    exact longestFront_slice budget rows

-- Behind a first row that is too large nothing fits, not even a row that counts for nothing.
example : slice 2 [[.blob [0, 0, 0]], [.text ""], [.null]] = [[.blob [0, 0, 0]]] := by decide

/-! ## One slice after the other -/

/-- A run of slices, each taken from what the one before it left, and what the last one leaves.  A
slice is taken only as long as there are rows. -/
inductive Sliced (budget : Nat) : List Row → List (List Row) → List Row → Prop
  | stop (rows : List Row) : Sliced budget rows [] rows
  | next {rows rest : List Row} {pages : List (List Row)} (hrows : rows ≠ [])
    (hbehind : Sliced budget (behind budget rows) pages rest) :
    Sliced budget rows (slice budget rows :: pages) rest

/-- Every slice takes a row. -/
theorem length_behind_lt (budget : Nat) (hrows : rows ≠ []) :
    (behind budget rows).length < rows.length := by
  have hsome : slice budget rows ≠ [] := mt (slice_eq_nil_iff budget rows).mp hrows
  have hlength := List.length_pos_iff.mpr hsome
  have hall := List.length_pos_iff.mpr hrows
  rw [behind, List.length_drop]
  omega

namespace Sliced

/-- No row is lost or moved. -/
theorem flatten_append (hsliced : Sliced budget rows pages rest) :
    pages.flatten ++ rest = rows := by
  induction hsliced with
  | stop rows => rfl
  | @next rows rest pages hrows hbehind ih =>
    rw [List.flatten_cons, List.append_assoc, ih, slice_append_behind]

/-- There are no more slices than rows. -/
theorem length_le (hsliced : Sliced budget rows pages rest) : pages.length ≤ rows.length := by
  induction hsliced with
  | stop rows => exact Nat.zero_le _
  | @next rows rest pages hrows hbehind ih =>
    have hless := length_behind_lt budget hrows
    rw [List.length_cons]
    omega

/-- A run that ended begins with the slices of any other run. -/
theorem isPrefix {all : List (List Row)} (hsliced : Sliced budget rows pages rest)
    (hall : Sliced budget rows all []) : pages <+: all := by
  induction hsliced generalizing all with
  | stop rows => exact List.nil_prefix
  | @next rows rest pages hrows hbehind ih =>
    cases hall with
    | stop => exact absurd rfl hrows
    | next _ hothers => exact List.cons_prefix_cons.mpr ⟨rfl, ih hothers⟩

end Sliced

/-- Slicing comes to an end, at any budget. -/
theorem exists_sliced (budget : Nat) (rows : List Row) : ∃ pages, Sliced budget rows pages [] := by
  induction hlength : rows.length using Nat.strongRecOn generalizing rows with
  | ind length ih =>
    by_cases hrows : rows = []
    · subst hrows
      exact ⟨[], .stop []⟩
    · have hless := length_behind_lt budget hrows
      rw [hlength] at hless
      obtain ⟨pages, hpages⟩ := ih _ hless (behind budget rows) rfl
      exact ⟨slice budget rows :: pages, .next hrows hpages⟩

end Page

/-- Rows and a budget.  The slice is the longest front part of the rows that has one row at most or
keeps to the budget, and it is empty only if there are no rows.  Slicing what is left again and
again ends, after as many slices as there are rows at the latest, with the rows cut into pages; any
run of slices is the beginning of this one. -/
theorem slice_takes_longest_front (budget : Nat) (rows : List Row) :
    (∀ page, Page.LongestFront budget rows page ↔ page = Page.slice budget rows) ∧
    (Page.slice budget rows = [] ↔ rows = []) ∧
    ∃ pages, Page.Sliced budget rows pages [] ∧ pages.flatten = rows ∧
      pages.length ≤ rows.length ∧
      ∀ begun rest, Page.Sliced budget rows begun rest → begun <+: pages := by
  refine ⟨fun page => Page.longestFront_iff, Page.slice_eq_nil_iff budget rows, ?_⟩
  obtain ⟨pages, hpages⟩ := Page.exists_sliced budget rows
  have hflatten := hpages.flatten_append
  rw [List.append_nil] at hflatten
  exact ⟨pages, hpages, hflatten, hpages.length_le, fun begun rest hbegun => hbegun.isPrefix hpages⟩

end EngineLink
