import EngineLink.Message.Basic

/-!
# Cutting rows by a byte budget

A page takes rows from the front of what is left of a result as long as they fit a
budget of bytes.  The first row is always taken, so every page of a result makes
progress.

Main results:

- Theorem {lit}`slice_isPrefix`: a slice is a front part of the rows.
- Theorem {lit}`slice_eq_nil_iff`: a slice is empty only when there are no rows.
-/

namespace EngineLink
namespace Page

/-- The rows that fit a budget of which some bytes are used. -/
def takeWithin (budget used : Nat) : List Row → List Row
  | [] => []
  | row :: rest =>
    if budget < used + row.size then [] else row :: takeWithin budget (used + row.size) rest

/-- The rows of a page: the first row, and the following ones as long as all of them
fit the budget. -/
def slice (budget : Nat) : List Row → List Row
  | [] => []
  | row :: rest => row :: takeWithin budget row.size rest

/-- The rows that fit are a front part of all rows. -/
theorem takeWithin_isPrefix (budget used : Nat) (rows : List Row) :
    takeWithin budget used rows <+: rows := by
  induction rows generalizing used with
  | nil => exact List.nil_prefix
  | cons row rest ih =>
    simp only [takeWithin]
    split
    · exact List.nil_prefix
    · exact List.cons_prefix_cons.mpr ⟨rfl, ih _⟩

/-- A slice is a front part of the rows. -/
theorem slice_isPrefix (budget : Nat) (rows : List Row) : slice budget rows <+: rows := by
  cases rows with
  | nil => exact List.nil_prefix
  | cons row rest => exact List.cons_prefix_cons.mpr ⟨rfl, takeWithin_isPrefix _ _ _⟩

/-- A slice is empty only when there are no rows. -/
@[simp]
theorem slice_eq_nil_iff (budget : Nat) (rows : List Row) : slice budget rows = [] ↔ rows = [] := by
  cases rows <;> simp [slice]

end Page
end EngineLink
