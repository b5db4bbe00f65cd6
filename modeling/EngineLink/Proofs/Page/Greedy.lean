import EngineLink.Proofs.Page.Budget
import EngineLink.Proofs.Page.ResultPages
import Mathlib.Data.List.Chain

/-!
# Pages one after the other

Rows are cut into pages greedily when every page has as many rows as the budget lets it have, and at
least one.  There is only one way to do so.  A result is cut like that when each page is asked for
where the one before it ends, from the first page on.

Main results:

- Theorem {lit}`Page.full_behind`: what follows a slice would not have fit.
- Theorem {lit}`length_le_of_full`: a page that is full has as many rows as any other.
- Theorem {lit}`GreedyCut.unique`: rows are cut greedily in one way.
- Theorem {lit}`PagedFrom.greedyCut`: pages that follow one another cut a result greedily.
-/

namespace EngineLink

/-- Rows cut into pages: no page is empty, a page of several rows keeps to the budget, and the row
after a page would not have fit on it. -/
structure GreedyCut (budget : Nat) (rows : List Row) (pages : List (List Row)) : Prop where
  flatten_eq : pages.flatten = rows
  ne_nil : ∀ page ∈ pages, page ≠ []
  fits : ∀ page ∈ pages, page.length ≤ 1 ∨ totalSize page ≤ budget
  full : pages.IsChain fun page next => ∀ row ∈ next.head?, budget < totalSize page + row.size

/-! ## What follows a slice -/

theorem totalSize_append (front back : List Row) :
    totalSize (front ++ back) = totalSize front + totalSize back := by
  rw [totalSize, List.map_append, List.sum_append]
  rfl

namespace Page

theorem takeWithin_full {budget used : Nat} {rows rest : List Row} {row : Row}
    (hrows : takeWithin budget used rows ++ row :: rest = rows) :
    budget < used + totalSize (takeWithin budget used rows) + row.size := by
  induction rows generalizing used with
  | nil => simp at hrows
  | cons first others ih =>
    simp only [takeWithin] at hrows ⊢
    split at hrows
    · rename_i hover
      cases hrows
      rw [if_pos hover, totalSize_nil]
      omega
    · rename_i hfits
      have hfull := ih (List.cons.inj hrows).2
      rw [if_neg hfits, totalSize_cons]
      omega

/-- The row after a slice would not have fit on it. -/
theorem slice_full {budget : Nat} {rows rest : List Row} {row : Row}
    (hrows : slice budget rows ++ row :: rest = rows) :
    budget < totalSize (slice budget rows) + row.size := by
  cases rows with
  | nil => simp [slice] at hrows
  | cons first others =>
    have hfull := takeWithin_full (List.cons.inj hrows).2
    rwa [slice, totalSize_cons]

/-- The rows behind a slice. -/
def behind (budget : Nat) (rows : List Row) : List Row := rows.drop (slice budget rows).length

theorem slice_append_behind (budget : Nat) (rows : List Row) :
    slice budget rows ++ behind budget rows = rows :=
  List.prefix_iff_eq_append.mp (slice_isPrefix budget rows)

/-- The first row behind a slice would not have fit on it. -/
theorem full_behind (budget : Nat) (rows : List Row) :
    ∀ row ∈ (behind budget rows).head?, budget < totalSize (slice budget rows) + row.size := by
  intro row hrow
  obtain ⟨rest, hrest⟩ := List.head?_eq_some_iff.mp hrow
  have hall := slice_append_behind budget rows
  rw [hrest] at hall
  exact slice_full hall

end Page

/-- A page is as long as any with one row or within the budget, if the row after it would not have
fit on it. -/
theorem length_le_of_full {budget : Nat} {page rest other : List Row} (hne : page ≠ [])
    (hfull : ∀ row ∈ rest.head?, budget < totalSize page + row.size)
    (hother : other <+: page ++ rest) (hfits : other.length ≤ 1 ∨ totalSize other ≤ budget) :
    other.length ≤ page.length := by
  apply Nat.le_of_not_lt
  intro hlonger
  obtain ⟨more, rfl⟩ :=
    List.prefix_of_prefix_length_le (List.prefix_append page rest) hother (Nat.le_of_lt hlonger)
  have hsome := List.length_pos_iff.mpr hne
  rw [List.length_append] at hlonger hfits
  cases more with
  | nil => simp at hlonger
  | cons row more =>
    -- The other page has at least two rows, so it fits, and it has the row after the page.
    have hrow : row ∈ rest.head? := by
      obtain ⟨others, rfl⟩ := (List.prefix_append_right_inj page).mp hother
      rfl
    have hover := hfull row hrow
    rw [totalSize_append, totalSize_cons] at hfits
    simp only [List.length_cons] at hfits
    omega

/-! ## Greedy cuts -/

namespace GreedyCut

variable {budget : Nat} {rows : List Row} {page : List Row} {pages : List (List Row)}

theorem tail (hcut : GreedyCut budget rows (page :: pages)) :
    GreedyCut budget pages.flatten pages where
  flatten_eq := rfl
  ne_nil := fun next hnext => hcut.ne_nil next (List.mem_cons_of_mem _ hnext)
  fits := fun next hnext => hcut.fits next (List.mem_cons_of_mem _ hnext)
  full := hcut.full.tail

/-- The row after the first page would not have fit on it. -/
theorem full_head (hcut : GreedyCut budget rows (page :: pages)) :
    ∀ row ∈ pages.flatten.head?, budget < totalSize page + row.size := by
  cases pages with
  | nil => simp
  | cons next others =>
    have hnext : next ≠ [] := hcut.ne_nil next (by simp)
    obtain ⟨first, rest, rfl⟩ := List.exists_cons_of_ne_nil hnext
    exact (List.isChain_cons_cons.mp hcut.full).1

/-- One more page in front. -/
theorem cons (hcut : GreedyCut budget rows pages) (hne : page ≠ [])
    (hfits : page.length ≤ 1 ∨ totalSize page ≤ budget)
    (hfull : ∀ row ∈ rows.head?, budget < totalSize page + row.size) :
    GreedyCut budget (page ++ rows) (page :: pages) where
  flatten_eq := by rw [List.flatten_cons, hcut.flatten_eq]
  ne_nil := List.forall_mem_cons.mpr ⟨hne, hcut.ne_nil⟩
  fits := List.forall_mem_cons.mpr ⟨hfits, hcut.fits⟩
  full := by
    cases pages with
    | nil => exact .singleton page
    | cons next others =>
      have hnext : next ≠ [] := hcut.ne_nil next List.mem_cons_self
      obtain ⟨first, rest, rfl⟩ := List.exists_cons_of_ne_nil hnext
      refine List.isChain_cons_cons.mpr ⟨fun row hrow => hfull row ?_, hcut.full⟩
      rw [← hcut.flatten_eq]
      exact hrow

/-- The first page of a greedy cut has as many rows as any page with one row or within the
budget. -/
theorem length_le_head (hcut : GreedyCut budget rows (page :: pages)) {other : List Row}
    (hother : other <+: rows) (hfits : other.length ≤ 1 ∨ totalSize other ≤ budget) :
    other.length ≤ page.length := by
  rw [← hcut.flatten_eq, List.flatten_cons] at hother
  exact length_le_of_full (hcut.ne_nil page List.mem_cons_self) hcut.full_head hother hfits

/-- Rows are cut greedily in one way. -/
theorem unique {others : List (List Row)} (hcut : GreedyCut budget rows pages)
    (hother : GreedyCut budget rows others) : pages = others := by
  induction pages generalizing rows others with
  | nil =>
    cases others with
    | nil => rfl
    | cons other others =>
      have hnil : other ++ others.flatten = [] := by
        rw [← List.flatten_cons, hother.flatten_eq, ← hcut.flatten_eq, List.flatten_nil]
      exact absurd (List.append_eq_nil_iff.mp hnil).1 (hother.ne_nil other List.mem_cons_self)
  | cons page pages ih =>
    cases others with
    | nil =>
      have hnil : page ++ pages.flatten = [] := by
        rw [← List.flatten_cons, hcut.flatten_eq, ← hother.flatten_eq, List.flatten_nil]
      exact absurd (List.append_eq_nil_iff.mp hnil).1 (hcut.ne_nil page List.mem_cons_self)
    | cons other others =>
      have hpage : page <+: rows := ⟨pages.flatten, by rw [← hcut.flatten_eq, List.flatten_cons]⟩
      have hfirst : other <+: rows :=
        ⟨others.flatten, by rw [← hother.flatten_eq, List.flatten_cons]⟩
      have hle := hcut.length_le_head hfirst (hother.fits other List.mem_cons_self)
      have hge := hother.length_le_head hpage (hcut.fits page List.mem_cons_self)
      obtain rfl : page = other :=
        (List.prefix_of_prefix_length_le hpage hfirst hge).eq_of_length (Nat.le_antisymm hge hle)
      have hrest : pages.flatten = others.flatten := by
        have hsame := hcut.flatten_eq.trans hother.flatten_eq.symm
        rw [List.flatten_cons, List.flatten_cons] at hsame
        exact List.append_cancel_left hsame
      have htail := hother.tail
      rw [← hrest] at htail
      rw [ih hcut.tail htail]

end GreedyCut

/-! ## Pages in turn -/

namespace StoredResult

/-- Where the page that begins at a row ends. -/
def stopOf (result : StoredResult) (start : Nat) : Nat :=
  start + (Page.slice result.budget (result.rows.drop start)).length

/-- The rows that a page begins at, when each page begins where the one before it ends. -/
inductive PageBegins (result : StoredResult) : Nat → Prop
  | first : PageBegins result 0
  | next {start : Nat} (hstart : PageBegins result start) : PageBegins result (result.stopOf start)

/-- The pages fit the wire that begin where the one before them ends. -/
def FitsInTurn (result : StoredResult) : Prop :=
  ∀ start, result.PageBegins start → start = 0 ∨ start < result.rows.length →
    ∃ bytes, encode (result.page (.ofNat start)) = .ok bytes

end StoredResult

/-- The pages of a result from a row on, each of which begins where the one before it ends. -/
inductive PagedFrom (result : StoredResult) : Nat → List Page → Prop
  | last {start : Nat} (hend : result.rows.length ≤ result.stopOf start) :
    PagedFrom result start [result.page (.ofNat start)]
  | next {start : Nat} {pages : List Page} (hmore : result.stopOf start < result.rows.length)
    (hpages : PagedFrom result (result.stopOf start) pages) :
    PagedFrom result start (result.page (.ofNat start) :: pages)

section Turns

variable {result : StoredResult} {start : Nat} {pages : List Page}

theorem toInt_ofNat_of_le (hcount : result.rows.length < 2 ^ 63)
    (hstart : start ≤ result.rows.length) : (Int64.ofNat start).toInt = start :=
  Int64.toInt_ofNat_of_lt (Nat.lt_of_le_of_lt hstart hcount)

theorem rows_page_ofNat (hcount : result.rows.length < 2 ^ 63)
    (hstart : start ≤ result.rows.length) :
    (result.page (.ofNat start)).rows = Page.slice result.budget (result.rows.drop start) := by
  rw [StoredResult.page, toInt_ofNat_of_le hcount hstart, Int.toNat_natCast]

theorem stop_page_ofNat (hcount : result.rows.length < 2 ^ 63)
    (hstart : start ≤ result.rows.length) :
    (result.page (.ofNat start)).stop = result.stopOf start := by
  have hbegin : (result.page (.ofNat start)).start.toInt = start := toInt_ofNat_of_le hcount hstart
  rw [Page.stop, hbegin, rows_page_ofNat hcount hstart, StoredResult.stopOf, Int.natCast_add]

/-- What a page leaves of the result. -/
theorem drop_stopOf (result : StoredResult) (start : Nat) :
    result.rows.drop (result.stopOf start) =
      Page.behind result.budget (result.rows.drop start) := by
  rw [StoredResult.stopOf, ← List.drop_drop, Page.behind]

/-- A page and the rows behind it. -/
theorem slice_append_drop (result : StoredResult) (start : Nat) :
    Page.slice result.budget (result.rows.drop start) ++ result.rows.drop (result.stopOf start) =
      result.rows.drop start := by
  rw [drop_stopOf, Page.slice_append_behind]

theorem stopOf_le (hstart : start ≤ result.rows.length) :
    result.stopOf start ≤ result.rows.length := by
  have hlength := (Page.slice_isPrefix result.budget (result.rows.drop start)).length_le
  rw [List.length_drop] at hlength
  rw [StoredResult.stopOf]
  omega

theorem slice_drop_ne_nil (hstart : start < result.rows.length) :
    Page.slice result.budget (result.rows.drop start) ≠ [] := by
  rw [ne_eq, Page.slice_eq_nil_iff, List.drop_eq_nil_iff]
  omega

/-- A page that begins at a row ends behind it. -/
theorem lt_stopOf (hstart : start < result.rows.length) : start < result.stopOf start := by
  have hlength := List.length_pos_iff.mpr (slice_drop_ne_nil hstart)
  rw [StoredResult.stopOf]
  omega

namespace PagedFrom

theorem head?_eq (hpaged : PagedFrom result start pages) :
    pages.head? = some (result.page (.ofNat start)) := by
  cases hpaged <;> rfl

/-- The rows of the pages, one after the other, are those of the result. -/
theorem flatMap_rows (hpaged : PagedFrom result start pages)
    (hcount : result.rows.length < 2 ^ 63) (hstart : start ≤ result.rows.length) :
    pages.flatMap Page.rows = result.rows.drop start := by
  induction hpaged with
  | @last start hend =>
    have hnone : result.rows.drop (result.stopOf start) = [] := List.drop_eq_nil_of_le hend
    have hall := slice_append_drop result start
    rw [hnone, List.append_nil] at hall
    rw [List.flatMap_cons, List.flatMap_nil, List.append_nil, rows_page_ofNat hcount hstart, hall]
  | @next start pages hmore hpages ih =>
    rw [List.flatMap_cons, ih (Nat.le_of_lt hmore), rows_page_ofNat hcount hstart,
      slice_append_drop]

/-- Each page begins where the one before it ends. -/
theorem isChain_stop (hpaged : PagedFrom result start pages)
    (hcount : result.rows.length < 2 ^ 63) (hstart : start ≤ result.rows.length) :
    pages.IsChain fun page next => next.start.toInt = page.stop := by
  induction hpaged with
  | last hend => exact .singleton _
  | @next start pages hmore hpages ih =>
    have hchain := ih (Nat.le_of_lt hmore)
    have hhead := hpages.head?_eq
    cases pages with
    | nil => cases hhead
    | cons page others =>
      cases hhead
      refine List.isChain_cons_cons.mpr ⟨?_, hchain⟩
      rw [stop_page_ofNat hcount hstart]
      exact toInt_ofNat_of_le hcount (Nat.le_of_lt hmore)

/-- The pages cut the rows greedily. -/
theorem greedyCut (hpaged : PagedFrom result start pages)
    (hcount : result.rows.length < 2 ^ 63) (hstart : start < result.rows.length) :
    GreedyCut result.budget (result.rows.drop start) (pages.map Page.rows) := by
  have hfull (start : Nat) : ∀ row ∈ (result.rows.drop (result.stopOf start)).head?,
      result.budget < totalSize (Page.slice result.budget (result.rows.drop start)) + row.size := by
    rw [drop_stopOf]
    exact Page.full_behind _ _
  induction hpaged with
  | @last start hend =>
    have hempty : GreedyCut result.budget (result.rows.drop (result.stopOf start)) [] :=
      ⟨(List.drop_eq_nil_of_le hend).symm, by simp, by simp, .nil⟩
    have hcut := hempty.cons (slice_drop_ne_nil hstart) (Page.slice_fits _ _) (hfull start)
    rw [slice_append_drop] at hcut
    rwa [List.map_cons, List.map_nil, rows_page_ofNat hcount (Nat.le_of_lt hstart)]
  | @next start pages hmore hpages ih =>
    have hcut := (ih hmore).cons (slice_drop_ne_nil hstart) (Page.slice_fits _ _) (hfull start)
    rw [slice_append_drop] at hcut
    rwa [List.map_cons, rows_page_ofNat hcount (Nat.le_of_lt hstart)]

/-- There are as many pages as a greedy cut has, but for the page of no rows. -/
theorem length_eq (hpaged : PagedFrom result 0 pages) (hcount : result.rows.length < 2 ^ 63) :
    (∃ cut, GreedyCut result.budget result.rows cut) ∧
      ∀ cut, GreedyCut result.budget result.rows cut → pages.length - 1 = cut.length - 1 := by
  by_cases hrows : result.rows = []
  · have hempty : GreedyCut result.budget result.rows [] := ⟨hrows.symm, by simp, by simp, .nil⟩
    refine ⟨⟨[], hempty⟩, fun cut hcut => ?_⟩
    rw [hcut.unique hempty]
    cases hpaged with
    | last hend => rfl
    | next hmore hpages =>
      rw [hrows] at hmore
      cases hmore
  · have hcut := hpaged.greedyCut hcount (List.length_pos_iff.mpr hrows)
    rw [List.drop_zero] at hcut
    refine ⟨⟨_, hcut⟩, fun cut hother => ?_⟩
    rw [hother.unique hcut, List.length_map]

end PagedFrom

end Turns

end EngineLink
