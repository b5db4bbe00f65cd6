import EngineLink.Client.Cursor
import EngineLink.Proofs.Effects
import EngineLink.Proofs.Page.ResultPages

/-!
# The pages a cursor holds

A cursor holds its current page and the recent ones, and every move only passes them around
or adds a fetched page that was checked.  So a property of pages that the fetched ones have
is a property of all pages held, whatever the engine does.

Main results:

- Theorem {lit}`load_apply` and theorem {lit}`moveTo_apply`: what a move does, case by case.
- Theorem {lit}`Holds.load`: which pages are held after another page was shown.
- Theorem {lit}`row_eq_ok`: a row that can be read is the row at the position, of the rows the
  page was cut from.
-/

namespace EngineLink

open Effects

/-- Keeping a page adds no other one. -/
theorem RecentPages.mem_insert {r : RecentPages} {page kept : Page}
    (hkept : kept ∈ (r.insert page).pages) : kept = page ∨ kept ∈ r.pages := by
  unfold RecentPages.insert at hkept
  split at hkept
  · exact .inr hkept
  · rcases List.mem_cons.mp (List.mem_of_mem_take hkept) with hpage | hother
    · exact .inl hpage
    · exact .inr (List.mem_filter.mp hother).1

namespace Cursor

/-! ## Showing pages -/

/-- All pages a cursor holds have a property. -/
structure Holds (P : Page → Prop) (c : Cursor) : Prop where
  current : P c.page
  recent : ∀ r, c.recent = some r → ∀ page ∈ r.pages, P page

section Showing

variable {P : Page → Prop} {c : Cursor}

theorem holds_create {page : Page} (hpage : P page) (sql : String) (recentPages : Nat) :
    Holds P (create sql recentPages page) where
  current := hpage
  recent := by
    intro r hrecent kept hkept
    simp only [create, RecentPages.create] at hrecent
    split at hrecent <;> cases hrecent
    cases hkept

theorem Holds.showPage {page : Page} (hholds : Holds P c) (hpage : P page) :
    Holds P (c.showPage page) where
  current := hpage
  recent := by
    intro r hrecent kept hkept
    obtain ⟨before, hbefore, rfl⟩ := Option.map_eq_some_iff.mp hrecent
    rcases RecentPages.mem_insert hkept with rfl | hold
    · exact hholds.current
    · exact hholds.recent before hbefore kept hold

/-- A page shown from the recent ones was among them and has the row asked for. -/
theorem showRecent?_eq_some {position : Int} {shown : Cursor}
    (hshown : c.showRecent? position = some shown) :
    ∃ r page, c.recent = some r ∧ page ∈ r.pages ∧ page.contains position = true ∧
      shown = { c with recent := some (r.take position).2 }.showPage page := by
  unfold showRecent? at hshown
  cases hrecent : c.recent with
  | none => simp [hrecent] at hshown
  | some r =>
    cases hfound : r.find? position with
    | none => simp [hrecent, RecentPages.take, hfound] at hshown
    | some page =>
      simp only [hrecent, RecentPages.take, hfound, Option.bind_eq_bind, Option.bind_some,
        Option.pure_def, Option.some.injEq] at hshown
      exact ⟨r, page, rfl, List.mem_of_find?_eq_some hfound, by simpa using List.find?_some hfound,
        hshown.symm⟩

theorem Holds.showRecent? {position : Int} {shown : Cursor} (hholds : Holds P c)
    (hshown : c.showRecent? position = some shown) : Holds P shown := by
  obtain ⟨r, page, hrecent, hpage, -, rfl⟩ := showRecent?_eq_some hshown
  have hrest : Holds P { c with recent := some (r.take position).2 } :=
    { current := hholds.current
      recent := by
        rintro rest ⟨⟩ kept hkept
        exact hholds.recent r hrecent kept (List.mem_of_mem_eraseP hkept) }
  exact hrest.showPage (hholds.recent r hrecent page hpage)

/-- A page that is the whole result has every row of it. -/
theorem contains_of_holdsAll (hall : c.holdsAll = true) {target : Int}
    (hlow : 0 ≤ target) (hhigh : target < c.total.toInt) : c.page.contains target = true := by
  simp only [holdsAll, Bool.and_eq_true, decide_eq_true_eq] at hall
  obtain ⟨hstart, hlength⟩ := hall
  have hzero : (0 : Int64).toInt = 0 := rfl
  rw [Page.contains_iff, hstart, hzero]
  omega

end Showing

/-! ## Moves -/

section Moves

variable {σ : Type} [Engine σ]

/-- Showing the page of a row: from the recent pages without a call, or else by one call. -/
theorem load_apply (position : Int) (c : Cursor) (link : Link σ) :
    load position c link =
      match c.showRecent? position with
      | some shown => ((.ok (), shown), link)
      | none =>
        match Link.nextPage c.sequence (Int64.ofInt position) link with
        | (.error fault, link') => ((.error fault, c), link')
        | (.ok page, link') =>
          let counted := { c with fetched := c.fetched + 1 }
          match c.checkPage position page with
          | .ok () => ((.ok (), counted.showPage page), link')
          | .error fault => ((.error fault, counted), link') := by
  simp only [load, object_bind_apply, object_get_apply]
  cases c.showRecent? position with
  | some shown => rfl
  | none =>
    simp only [object_bind_apply, onLink_apply]
    rcases Link.nextPage c.sequence (Int64.ofInt position) link with ⟨fault | page, link'⟩
    · rfl
    · simp only [object_set_apply]
      cases c.checkPage position page <;> rfl

/-- Moving to a row, case by case. -/
theorem moveTo_apply (target : Int) (c : Cursor) (link : Link σ) :
    moveTo target c link =
      if c.closed then ((.error .cursorClosed, c), link)
      else if target < 0 then ((.ok false, { c with position := -1 }), link)
      else if c.total.toInt ≤ target then ((.ok false, { c with position := c.total.toInt }), link)
      else if c.page.contains target || c.holdsAll then
        ((.ok true, { c with position := target }), link)
      else
        match load target c link with
        | ((.error fault, c'), link') => ((.error fault, c'), link')
        | ((.ok (), c'), link') => ((.ok true, { c' with position := target }), link') := by
  simp only [moveTo, ensureOpen, object_bind_apply, object_get_apply]
  by_cases hclosed : c.closed = true
  · simp only [if_pos hclosed, object_throw_apply]
  · simp only [if_neg hclosed, object_pure_apply]
    by_cases hlow : target < 0
    · simp only [if_pos hlow, object_bind_apply, object_set_apply, object_pure_apply]
    · simp only [if_neg hlow]
      by_cases hhigh : c.total.toInt ≤ target
      · simp only [if_pos hhigh, object_bind_apply, object_set_apply, object_pure_apply]
      · simp only [if_neg hhigh]
        by_cases hpage : (c.page.contains target || c.holdsAll) = true
        · simp only [if_pos hpage, object_bind_apply, object_pure_apply, object_modify_apply]
        · simp only [if_neg hpage, object_bind_apply]
          rcases load target c link with ⟨⟨fault | ⟨⟩, c'⟩, link'⟩ <;>
            simp only [object_modify_apply, object_pure_apply]

/-- Showing another page changes nothing but pages. -/
theorem load_frame (position : Int) (c : Cursor) (link : Link σ) :
    ∃ page recent fetched, (load position c link).1.2 = { c with page, recent, fetched } := by
  rw [load_apply]
  cases hrecent : c.showRecent? position with
  | some shown =>
    obtain ⟨r, page, -, -, -, rfl⟩ := showRecent?_eq_some hrecent
    exact ⟨_, _, _, rfl⟩
  | none =>
    rcases Link.nextPage c.sequence (Int64.ofInt position) link with ⟨fault | page, link'⟩
    · exact ⟨c.page, c.recent, c.fetched, rfl⟩
    · cases hcheck : c.checkPage position page <;> simp only [hcheck] <;> exact ⟨_, _, _, rfl⟩

/-- What a move can do to the cursor and the link: set the position, or show the page of a row
of the result and set the position after that. -/
theorem moveTo_cases (target : Int) (c : Cursor) (link : Link σ) :
    (∃ position, (moveTo target c link).1.2 = { c with position } ∧
        (moveTo target c link).2 = link) ∨
      0 ≤ target ∧ target < c.total.toInt ∧
        (∃ position, (moveTo target c link).1.2 = { (load target c link).1.2 with position }) ∧
          (moveTo target c link).2 = (load target c link).2 := by
  rw [moveTo_apply]
  repeat' split
  · exact .inl ⟨c.position, rfl, rfl⟩
  · exact .inl ⟨-1, rfl, rfl⟩
  · exact .inl ⟨c.total.toInt, rfl, rfl⟩
  · exact .inl ⟨target, rfl, rfl⟩
  all_goals
    rename_i hrun
    rw [hrun]
    exact .inr ⟨by omega, by omega, ⟨_, rfl⟩, rfl⟩

/-- A move changes nothing but pages and the position. -/
theorem moveTo_frame (target : Int) (c : Cursor) (link : Link σ) :
    ∃ position page recent fetched,
      (moveTo target c link).1.2 = { c with position, page, recent, fetched } := by
  obtain ⟨page, recent, fetched, hload⟩ := load_frame target c link
  rcases moveTo_cases target c link with ⟨position, hmove, -⟩ | ⟨-, -, ⟨position, hmove⟩, -⟩
  · exact ⟨position, c.page, c.recent, c.fetched, hmove⟩
  · exact ⟨position, page, recent, fetched, by rw [hmove, hload]⟩

/-- A page passes when it is of the cursor's query and has the row asked for. -/
theorem checkPage_eq_ok_iff {c : Cursor} {position : Int} {page : Page} :
    c.checkPage position page = .ok () ↔
      page.sequence = c.sequence ∧ page.contains position = true := by
  unfold checkPage
  split
  · rename_i hsequence
    simp [hsequence]
  · rename_i hsequence
    have hsame : page.sequence = c.sequence := Decidable.not_not.mp hsequence
    split <;> simp_all

/-- Which pages are held after another page was shown: one from the engine was checked. -/
theorem Holds.load {P : Page → Prop} {c : Cursor} (hholds : Holds P c) {position : Int}
    {link : Link σ}
    (hfetched : ∀ page link', Link.nextPage c.sequence (Int64.ofInt position) link =
      (.ok page, link') → c.checkPage position page = .ok () → P page) :
    Holds P (Cursor.load position c link).1.2 := by
  rw [load_apply]
  cases hrecent : c.showRecent? position with
  | some shown => exact hholds.showRecent? hrecent
  | none =>
    rcases hnext : Link.nextPage c.sequence (Int64.ofInt position) link with ⟨fault | page, link'⟩
    · exact hholds
    · cases hcheck : c.checkPage position page with
      | error fault =>
        simp only [hcheck]
        exact ⟨hholds.current, hholds.recent⟩
      | ok passed =>
        simp only [hcheck]
        have hcounted : Holds P { c with fetched := c.fetched + 1 } :=
          ⟨hholds.current, hholds.recent⟩
        exact hcounted.showPage (hfetched page link' hnext hcheck)

/-- Which pages are held after a move. -/
theorem Holds.moveTo {P : Page → Prop} {c : Cursor} (hholds : Holds P c) {target : Int}
    {link : Link σ}
    (hfetched : ∀ page link', 0 ≤ target → target < c.total.toInt →
      Link.nextPage c.sequence (Int64.ofInt target) link = (.ok page, link') →
        c.checkPage target page = .ok () → P page) :
    Holds P (Cursor.moveTo target c link).1.2 := by
  rcases moveTo_cases target c link with ⟨position, hmove, -⟩ | ⟨hlow, hhigh, ⟨position, hmove⟩, -⟩
  · rw [hmove]
    exact ⟨hholds.current, hholds.recent⟩
  · have hload : Holds P (Cursor.load target c link).1.2 :=
      hholds.load fun page link' => hfetched page link' hlow hhigh
    rw [hmove]
    exact ⟨hload.current, hload.recent⟩

/-- A move makes no call or asks for the one page that begins at its target. -/
theorem moveTo_link (target : Int) (c : Cursor) (link : Link σ) :
    (moveTo target c link).2 = link ∨
      (moveTo target c link).2 = (Link.nextPage c.sequence (Int64.ofInt target) link).2 := by
  rcases moveTo_cases target c link with ⟨position, -, hlink⟩ | ⟨-, -, -, hlink⟩
  · exact .inl hlink
  · rw [hlink, load_apply]
    cases c.showRecent? target with
    | some shown => exact .inl rfl
    | none =>
      refine .inr ?_
      rcases Link.nextPage c.sequence (Int64.ofInt target) link with ⟨fault | page, link'⟩
      · rfl
      · cases hcheck : c.checkPage target page <;> simp only [hcheck]

/-- Closing a cursor discards its query, if it was open. -/
theorem close_apply (c : Cursor) (link : Link σ) :
    (close : CursorM σ Unit) c link =
      if c.closed then ((.ok (), c), link)
      else
        (((Link.cancelQuery c.sequence link).1,
          { c with closed := true, recent := c.recent.map RecentPages.clear }),
          (Link.cancelQuery c.sequence link).2) := by
  simp only [close, object_bind_apply, object_get_apply]
  split
  · rfl
  · simp only [object_bind_apply, object_set_apply, onLink_apply]

/-- Which pages are held after a cursor was closed. -/
theorem Holds.close {P : Page → Prop} {c : Cursor} (hholds : Holds P c) (link : Link σ) :
    Holds P ((Cursor.close : CursorM σ Unit) c link).1.2 := by
  rw [close_apply]
  split
  · exact hholds
  · refine ⟨hholds.current, fun r hrecent page hpage => ?_⟩
    obtain ⟨before, -, rfl⟩ := Option.map_eq_some_iff.mp hrecent
    cases hpage

end Moves

/-! ## Rows -/

section Rows

variable {rows : List Row} {c : Cursor}

/-- A row that can be read is the row at the position, of the rows the page was cut from. -/
theorem row_eq_ok {row : Row} (hcut : c.page.CutFrom rows) (hrow : c.row = .ok row) :
    0 ≤ c.position ∧ rows[c.position.toNat]? = some row := by
  unfold Cursor.row at hrow
  split at hrow
  · cases hrow
  · simp only at hrow
    split at hrow
    · cases hrow
    · rename_i hoffset
      split at hrow
      · rename_i found hfound
        cases hrow
        obtain ⟨hplace, -⟩ := List.getElem?_eq_some_iff.mp hfound
        have hcontains : c.page.contains c.position = true := by
          rw [Page.contains_iff]
          omega
        rw [hcut.getElem?_rows hcontains] at hfound
        exact ⟨(hcut.lt_length hcontains).1, hfound⟩
      · cases hrow

/-- The row at the position can be read when it is on the page. -/
theorem row_of_contains (hopen : c.closed = false)
    (hcontains : c.page.contains c.position = true) : ∃ row, c.row = .ok row := by
  obtain ⟨hlow, hhigh⟩ := (Page.contains_iff _ _).mp hcontains
  have hplace : (c.position - c.page.start.toInt).toNat < c.page.rows.length := by omega
  have hoffset : ¬ c.position - c.page.start.toInt < 0 := by omega
  refine ⟨c.page.rows[(c.position - c.page.start.toInt).toNat], ?_⟩
  simp only [Cursor.row, hopen, Bool.false_eq_true, if_false, if_neg hoffset,
    List.getElem?_eq_getElem hplace]

/-- A column can be read when the row can and has the column. -/
theorem toOption_read (c : Cursor) (column : Nat) :
    (c.read column).toOption = c.row.toOption.bind fun row => row[column]? := by
  unfold Cursor.read
  cases c.row with
  | error fault => rfl
  | ok row =>
    rw [show (Except.ok row : Except Error Row) = pure row from rfl, pure_bind]
    show Except.toOption _ = row[column]?
    cases row[column]? <;> rfl

end Rows

end Cursor

/-! ## Navigation -/

/-- A navigation call. -/
inductive Move where
  | toRow (target : Int64)
  | byRows (offset : Int64)
  | first
  | last
  | next
  | previous

namespace Move

/-- The call of a cursor. -/
def run {σ : Type} [Engine σ] : Move → CursorM σ Bool
  | .toRow target => Cursor.moveTo target.toInt
  | .byRows offset => Cursor.moveBy offset.toInt
  | .first => Cursor.moveToFirst
  | .last => Cursor.moveToLast
  | .next => Cursor.moveToNext
  | .previous => Cursor.moveToPrevious

/-- The row a cursor is sent to. -/
def target (c : Cursor) : Move → Int
  | .toRow target => target.toInt
  | .byRows offset => c.shifted offset.toInt
  | .first => 0
  | .last => c.total.toInt - 1
  | .next => c.shifted 1
  | .previous => c.shifted (-1)

/-- Every navigation call moves to one row. -/
theorem run_apply {σ : Type} [Engine σ] (move : Move) (c : Cursor) (link : Link σ) :
    move.run c link = Cursor.moveTo (move.target c) c link := by
  cases move <;>
    simp only [run, target, Cursor.moveToFirst, Cursor.moveToLast, Cursor.moveToNext,
      Cursor.moveToPrevious, Cursor.moveBy, object_bind_apply, object_get_apply]

end Move
end EngineLink
