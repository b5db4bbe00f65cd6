import EngineLink.Page.Store
import Mathlib.Algebra.Group.Int.Defs
import Mathlib.Algebra.Group.Nat.Defs

/-!
# Rows on the pages of a result

A page begins at any row that was asked for, and its budget cuts it off somewhere, so the
pages of a result overlap in every way.  What they have in common is that a row on a page is
the row of the result at the same position.

Main results:

- Theorem {lit}`Page.CutFrom.getElem?_rows`: a row on a page is the row at the same position.
- Theorem {lit}`StoredResult.cutFrom_page`: the pages of a result are cut from its rows.
- Theorem {lit}`StoredResult.contains_page_self`: a page has the row it begins at.
-/

namespace EngineLink

namespace Page

theorem contains_iff (page : Page) (position : Int) :
    page.contains position = true ↔
      page.start.toInt ≤ position ∧ position < page.start.toInt + page.rows.length := by
  rw [contains, Bool.and_eq_true, decide_eq_true_eq, decide_eq_true_eq, stop]

/-- The rows of a page are a front part of the given rows from its beginning on. -/
structure CutFrom (rows : List Row) (page : Page) : Prop where
  start_nonneg : 0 ≤ page.start.toInt
  front : page.rows <+: rows.drop page.start.toInt.toNat

section CutFrom

variable {rows : List Row} {page : Page} {position : Int}

/-- A row on a page is one of the rows. -/
theorem CutFrom.lt_length (hcut : page.CutFrom rows) (hcontains : page.contains position = true) :
    0 ≤ position ∧ position < rows.length := by
  obtain ⟨hlow, hhigh⟩ := (contains_iff _ _).mp hcontains
  have hstart := hcut.start_nonneg
  have hlength := hcut.front.length_le
  rw [List.length_drop] at hlength
  omega

/-- A row on a page is the row at the same position. -/
theorem CutFrom.getElem?_rows (hcut : page.CutFrom rows)
    (hcontains : page.contains position = true) :
    page.rows[(position - page.start.toInt).toNat]? = rows[position.toNat]? := by
  obtain ⟨hlow, hhigh⟩ := (contains_iff _ _).mp hcontains
  have hstart := hcut.start_nonneg
  have hplace : (position - page.start.toInt).toNat < page.rows.length := by omega
  have hposition : page.start.toInt.toNat + (position - page.start.toInt).toNat =
    position.toNat := by omega
  obtain ⟨rest, hrest⟩ := hcut.front
  calc page.rows[(position - page.start.toInt).toNat]?
    _ = (page.rows ++ rest)[(position - page.start.toInt).toNat]? :=
      (List.getElem?_append_left hplace).symm
    _ = rows[position.toNat]? := by rw [hrest, List.getElem?_drop, hposition]

end CutFrom

end Page

namespace StoredResult

variable {result : StoredResult} {start : Int64}

/-- The pages of a result are cut from its rows. -/
theorem cutFrom_page (hstart : 0 ≤ start.toInt) : (result.page start).CutFrom result.rows where
  start_nonneg := hstart
  front := Page.slice_isPrefix _ _

/-- A page has the row it begins at. -/
theorem contains_page_self (hlow : 0 ≤ start.toInt) (hhigh : start.toInt < result.rows.length) :
    (result.page start).contains start.toInt = true := by
  have hrows : (result.page start).rows ≠ [] := by
    have hdrop : start.toInt.toNat < result.rows.length := by omega
    simp only [page, ne_eq, Page.slice_eq_nil_iff, List.drop_eq_nil_iff]
    omega
  have hlength := List.length_pos_iff.mpr hrows
  have hbegin : (result.page start).start.toInt = start.toInt := rfl
  rw [Page.contains_iff]
  omega

/-- The number of rows is on every page. -/
theorem toInt_total_page (hcount : result.rows.length < 2 ^ 63) (start : Int64) :
    (result.page start).total.toInt = result.rows.length :=
  Int64.toInt_ofNat_of_lt hcount

end StoredResult

end EngineLink
