import EngineLink.Engine.Journal
import EngineLink.Engine.Scripted
import EngineLink.Proofs.Client.CursorPages
import Mathlib.Algebra.Group.Int.Defs

/-!
# Moves against any engine

An engine may answer a cursor with anything: pages of another query, pages without the row that
was asked for, pages that begin somewhere else, or nothing at all.  Whatever it answers, the pages
a cursor holds are of its own query, a move that arrives arrives on a row that can be read, and a
move that fails leaves everything where it was.  A move asks the engine once at most, and not at
all if it has the row or there is none.

Main results:

- Theorem {lit}`Cursor.moveTo_ends`: everything a move can come to.
- Theorem {lit}`Cursor.moveTo_eq_true`: where a cursor stands after a move that arrives.
- Theorem {lit}`Cursor.moveTo_eq_error`: what a move that fails leaves behind.
- Theorem {lit}`Cursor.OwnPages.wander`: what every sequence of moves preserves.
- Theorem {lit}`moves_are_safe`: all of it, for the cursor of any query after any moves.
-/

namespace EngineLink

open Effects

/-! ## One call at most -/

section Calls

variable {σ : Type} [Engine σ]

/-- A call by numbers on an open handle that is not poisoned is written down once. -/
theorem events_invoke_of_open {link : Link (Journaled σ)} (hraw : link.handle.raw ≠ 0)
    (hpoison : link.handle.poison = none) (service method : UInt32) (payload : Bytes) :
    (Link.invoke service method payload link).2.engine.events =
      .ran link.handle.raw service method payload :: link.engine.events := by
  unfold Link.invoke
  rw [if_neg hraw, hpoison]
  generalize hrun : Engine.run link.handle.raw service method payload link.engine = answer
  have hevents : answer.2.events =
      .ran link.handle.raw service method payload :: link.engine.events := by
    rw [← hrun]
    rfl
  rcases hreply : Outcome.ofReply answer.1 with fault | bytes | envelope <;>
    simp only [hreply] <;> exact hevents

/-- A call by numbers is written down once, unless the handle refuses it. -/
theorem events_invoke (service method : UInt32) (payload : Bytes) (link : Link (Journaled σ)) :
    (Link.invoke service method payload link).2.engine.events = link.engine.events ∨
      (Link.invoke service method payload link).2.engine.events =
        .ran link.handle.raw service method payload :: link.engine.events := by
  by_cases hraw : link.handle.raw = 0
  · unfold Link.invoke
    rw [if_pos hraw]
    exact .inl rfl
  · cases hpoison : link.handle.poison with
    | some reason =>
      unfold Link.invoke
      rw [if_neg hraw, hpoison]
      exact .inl rfl
    | none => exact .inr (events_invoke_of_open hraw hpoison service method payload)

/-- Asking for a page is written down once, unless it is refused. -/
theorem events_nextPage (sequence : Int32) (start : Int64) (link : Link (Journaled σ)) :
    (Link.nextPage sequence start link).2.engine.events = link.engine.events ∨
      ∃ payload, (Link.nextPage sequence start link).2.engine.events =
        .ran link.handle.raw Method.nextPage.ids.1 Method.nextPage.ids.2 payload ::
          link.engine.events := by
  rw [Link.nextPage, ask_link]
  cases hencode : encode (Message.PageRequest.mk sequence start) with
  | error fault =>
    rw [send_of_error _ hencode]
    exact .inl rfl
  | ok payload =>
    rw [send_of_ok _ hencode]
    rcases events_invoke Method.nextPage.ids.1 Method.nextPage.ids.2 payload link with hnone | hone
    · exact .inl hnone
    · exact .inr ⟨payload, hone⟩

end Calls

namespace Cursor

/-! ## The pages a cursor holds -/

/-- The pages a cursor holds: the current one and the recent ones. -/
def held (c : Cursor) : List Page := c.page :: c.recent.elim [] RecentPages.pages

theorem holds_iff_forall_held {P : Page → Prop} {c : Cursor} :
    c.Holds P ↔ ∀ page ∈ c.held, P page := by
  constructor
  · intro hholds page hpage
    rcases List.mem_cons.mp hpage with rfl | hrecent
    · exact hholds.current
    · cases hr : c.recent with
      | none =>
        rw [hr] at hrecent
        cases hrecent
      | some r =>
        rw [hr] at hrecent
        exact hholds.recent r hr page hrecent
  · intro hall
    refine ⟨hall _ List.mem_cons_self, ?_⟩
    intro r hr page hpage
    apply hall
    rw [held, hr]
    exact List.mem_cons_of_mem _ hpage

/-- A row on a recent page is shown from there. -/
theorem exists_showRecent? {c : Cursor} {r : RecentPages} {page : Page} {position : Int}
    (hr : c.recent = some r) (hpage : page ∈ r.pages) (hcontains : page.contains position = true) :
    ∃ shown, c.showRecent? position = some shown := by
  have hfound : (r.find? position).isSome := by
    rw [RecentPages.find?, List.find?_isSome]
    exact ⟨page, hpage, hcontains⟩
  obtain ⟨found, hfound⟩ := Option.isSome_iff_exists.mp hfound
  refine ⟨{ c with recent := some (r.take position).2 }.showPage found, ?_⟩
  simp only [showRecent?, hr, RecentPages.take, hfound, Option.bind_eq_bind, Option.bind_some,
    Option.pure_def]

/-! ## What a move can do -/

section Moves

variable {σ : Type} [Engine σ] {c c' : Cursor} {link link' : Link σ} {target : Int}

/-- Everything a move can come to: refused by a closed cursor; out of the result; on the current
page; on a recent page; or one page asked for, which may be refused, rejected or shown. -/
inductive MoveEnd (target : Int) (c : Cursor) (link : Link σ) :
    (Except Error Bool × Cursor) × Link σ → Prop where
  | closed (hclosed : c.closed = true) : MoveEnd target c link ((.error .cursorClosed, c), link)
  | outside (position : Int) (hout : target < 0 ∨ c.total.toInt ≤ target) :
      MoveEnd target c link ((.ok false, { c with position }), link)
  | onPage (hopen : c.closed = false) (hlow : 0 ≤ target) (hhigh : target < c.total.toInt)
      (hcontains : c.page.contains target = true) :
      MoveEnd target c link ((.ok true, { c with position := target }), link)
  | onRecent (hopen : c.closed = false) (hlow : 0 ≤ target) (hhigh : target < c.total.toInt)
      {shown : Cursor} (hshown : c.showRecent? target = some shown) :
      MoveEnd target c link ((.ok true, { shown with position := target }), link)
  | refused (hlow : 0 ≤ target) (hhigh : target < c.total.toInt)
      (hnone : ¬ ∃ page ∈ c.held, page.contains target = true) {fault : Error} {link' : Link σ}
      (hnext : Link.nextPage c.sequence (Int64.ofInt target) link = (.error fault, link')) :
      MoveEnd target c link ((.error fault, c), link')
  | rejected (hlow : 0 ≤ target) (hhigh : target < c.total.toInt)
      (hnone : ¬ ∃ page ∈ c.held, page.contains target = true) {page : Page} {fault : Error}
      {link' : Link σ}
      (hnext : Link.nextPage c.sequence (Int64.ofInt target) link = (.ok page, link'))
      (hcheck : c.checkPage target page = .error fault) :
      MoveEnd target c link ((.error fault, { c with fetched := c.fetched + 1 }), link')
  | fetched (hopen : c.closed = false) (hlow : 0 ≤ target) (hhigh : target < c.total.toInt)
      (hnone : ¬ ∃ page ∈ c.held, page.contains target = true) {page : Page} {link' : Link σ}
      (hnext : Link.nextPage c.sequence (Int64.ofInt target) link = (.ok page, link'))
      (hcheck : c.checkPage target page = .ok ()) :
      MoveEnd target c link
        ((.ok true, { ({ c with fetched := c.fetched + 1 } : Cursor).showPage page with
          position := target }), link')

/-- A row that is neither on the current page nor shown from the recent ones is on no page held. -/
theorem not_held (hpage : c.page.contains target = false) (hrecent : c.showRecent? target = none) :
    ¬ ∃ page ∈ c.held, page.contains target = true := by
  rintro ⟨page, hheld, hcontains⟩
  rcases List.mem_cons.mp hheld with rfl | hkept
  · rw [hpage] at hcontains
    cases hcontains
  · cases hr : c.recent with
    | none =>
      rw [hr] at hkept
      cases hkept
    | some r =>
      rw [hr] at hkept
      obtain ⟨shown, hshown⟩ := exists_showRecent? hr hkept hcontains
      rw [hrecent] at hshown
      cases hshown

/-- A move comes to one of these. -/
theorem moveTo_ends (target : Int) (c : Cursor) (link : Link σ) :
    MoveEnd target c link (moveTo target c link) := by
  rw [moveTo_apply]
  by_cases hclosed : c.closed = true
  · rw [if_pos hclosed]
    exact .closed hclosed
  rw [if_neg hclosed]
  by_cases hlow : target < 0
  · rw [if_pos hlow]
    exact .outside _ (.inl hlow)
  rw [if_neg hlow]
  by_cases hhigh : c.total.toInt ≤ target
  · rw [if_pos hhigh]
    exact .outside _ (.inr hhigh)
  rw [if_neg hhigh]
  have hopen : c.closed = false := Bool.eq_false_iff.mpr hclosed
  have hnonneg : 0 ≤ target := Int.not_lt.mp hlow
  have hbelow : target < c.total.toInt := Int.not_le.mp hhigh
  by_cases hpage : (c.page.contains target || c.holdsAll) = true
  · rw [if_pos hpage]
    refine .onPage hopen hnonneg hbelow ?_
    rcases (Bool.or_eq_true _ _).mp hpage with hcontains | hall
    · exact hcontains
    · exact contains_of_holdsAll hall hnonneg hbelow
  rw [if_neg hpage, load_apply]
  have hcurrent : c.page.contains target = false := by
    rw [Bool.or_eq_true, not_or] at hpage
    exact Bool.eq_false_iff.mpr hpage.1
  cases hrecent : c.showRecent? target with
  | some shown => exact .onRecent hopen hnonneg hbelow hrecent
  | none =>
    have hnone := not_held hcurrent hrecent
    rcases hnext : Link.nextPage c.sequence (Int64.ofInt target) link with ⟨fault | page, link'⟩
    · exact .refused hnonneg hbelow hnone hnext
    · cases hcheck : c.checkPage target page with
      | error fault =>
        simp only [hcheck]
        exact .rejected hnonneg hbelow hnone hnext hcheck
      | ok passed =>
        simp only [hcheck]
        exact .fetched hopen hnonneg hbelow hnone hnext hcheck

/-- A move that arrives: the target is a row of the result, the cursor stands on it, and the page it
shows has it. -/
theorem moveTo_eq_true (hmove : moveTo target c link = ((.ok true, c'), link')) :
    0 ≤ target ∧ target < c.total.toInt ∧ c'.closed = false ∧ c'.position = target ∧
      c'.page.contains target = true := by
  have hends := moveTo_ends target c link
  rw [hmove] at hends
  cases hends with
  | onPage hopen hlow hhigh hcontains => exact ⟨hlow, hhigh, hopen, rfl, hcontains⟩
  | onRecent hopen hlow hhigh hshown =>
    obtain ⟨r, page, -, -, hcontains, rfl⟩ := showRecent?_eq_some hshown
    exact ⟨hlow, hhigh, hopen, rfl, hcontains⟩
  | fetched hopen hlow hhigh hnone hnext hcheck =>
    exact ⟨hlow, hhigh, hopen, rfl, (checkPage_eq_ok_iff.mp hcheck).2⟩

/-- A move that fails changes nothing but the count of fetched pages. -/
theorem moveTo_eq_error {fault : Error}
    (hmove : moveTo target c link = ((.error fault, c'), link')) :
    c' = { c with fetched := c'.fetched } := by
  have hends := moveTo_ends target c link
  rw [hmove] at hends
  cases hends with
  | closed hclosed => rfl
  | refused hlow hhigh hnone hnext => rfl
  | rejected hlow hhigh hnone hnext hcheck => rfl

/-- A move out of the result or to a row on a page held makes no call. -/
theorem moveTo_link_of_near
    (hnear : target < 0 ∨ c.total.toInt ≤ target ∨ ∃ page ∈ c.held, page.contains target = true) :
    (moveTo target c link).2 = link := by
  have hfar : 0 ≤ target → target < c.total.toInt →
      (¬ ∃ page ∈ c.held, page.contains target = true) → False := by
    intro hlow hhigh hnone
    rcases hnear with hout | hout | hheld
    · omega
    · omega
    · exact hnone hheld
  have hends := moveTo_ends target c link
  generalize moveTo target c link = answer at hends
  cases hends with
  | closed hclosed => rfl
  | outside position hout => rfl
  | onPage hopen hlow hhigh hcontains => rfl
  | onRecent hopen hlow hhigh hshown => rfl
  | refused hlow hhigh hnone hnext => exact (hfar hlow hhigh hnone).elim
  | rejected hlow hhigh hnone hnext hcheck => exact (hfar hlow hhigh hnone).elim
  | fetched hopen hlow hhigh hnone hnext hcheck => exact (hfar hlow hhigh hnone).elim

end Moves

/-! ## All moves -/

section Wandering

variable {σ : Type} [Engine σ]

/-- The cursor after some navigation calls.  Every call finds the link in a state of its own, so
anything may have happened to it and to the engine in between. -/
def wander (c : Cursor) (calls : List (Link σ × Move)) : Cursor :=
  calls.foldl (fun c request => (request.2.run c request.1).1.2) c

/-- A cursor whose pages are all of its own query. -/
structure OwnPages (sequence : Int32) (c : Cursor) : Prop where
  sequence_eq : c.sequence = sequence
  pages : c.Holds fun page => page.sequence = sequence

theorem ownPages_create (sql : String) (recentPages : Nat) (page : Page) :
    OwnPages page.sequence (create sql recentPages page) where
  sequence_eq := rfl
  pages := by
    apply holds_create
    rfl

/-- A fetched page is shown only if its number is the cursor's own. -/
theorem OwnPages.move {sequence : Int32} {c : Cursor} (hown : OwnPages sequence c) (move : Move)
    (link : Link σ) : OwnPages sequence (move.run c link).1.2 := by
  rw [Move.run_apply]
  obtain ⟨position, page, recent, fetched, hframe⟩ := moveTo_frame (move.target c) c link
  refine ⟨by rw [hframe]; exact hown.sequence_eq, ?_⟩
  apply hown.pages.moveTo
  intro page link' hlow hhigh hnext hcheck
  rw [← hown.sequence_eq]
  exact (checkPage_eq_ok_iff.mp hcheck).1

/-- What every sequence of moves preserves. -/
theorem OwnPages.wander {sequence : Int32} {c : Cursor} (hown : OwnPages sequence c)
    (calls : List (Link σ × Move)) : OwnPages sequence (c.wander calls) := by
  induction calls generalizing c with
  | nil => exact hown
  | cons request rest ih => exact ih (hown.move request.2 request.1)

/-- What can be said of a cursor and of every navigation call it makes on a link. -/
structure Safe (c : Cursor) (link : Link (Journaled σ)) : Prop where
  /-- All pages held are of the cursor's query. -/
  own : ∀ page ∈ c.held, page.sequence = c.sequence
  /-- A call that arrives leads to a row of the result, which can be read and is the row at that
  position of a page held. -/
  arrives : ∀ (move : Move) c' link', move.run c link = ((.ok true, c'), link') →
    0 ≤ move.target c ∧ move.target c < c.total.toInt ∧ c'.position = move.target c ∧
      ∃ row, c'.row = .ok row ∧ ∃ page ∈ c'.held, page.contains (move.target c) = true ∧
        page.rows[(move.target c - page.start.toInt).toNat]? = some row
  /-- A call that fails leaves the position and the pages as they were, so the same can be read. -/
  stays : ∀ (move : Move) fault c' link', move.run c link = ((.error fault, c'), link') →
    c'.position = c.position ∧ c'.page = c.page ∧ c'.recent = c.recent ∧
      ∀ column, c'.read column = c.read column
  /-- A call asks the engine for one page at most. -/
  asks_once : ∀ move : Move, (move.run c link).2.engine.events = link.engine.events ∨
    ∃ payload, (move.run c link).2.engine.events =
      .ran link.handle.raw Method.nextPage.ids.1 Method.nextPage.ids.2 payload ::
        link.engine.events
  /-- It asks for none if the target is no row of the result or is on a page held. -/
  asks_none : ∀ move : Move, (move.target c < 0 ∨ c.total.toInt ≤ move.target c ∨
    ∃ page ∈ c.held, page.contains (move.target c) = true) → (move.run c link).2 = link

/-- A cursor with pages of its own query is safe, on a link in any state. -/
theorem OwnPages.safe {sequence : Int32} {c : Cursor} (hown : OwnPages sequence c)
    (link : Link (Journaled σ)) : c.Safe link where
  own := by
    intro page hpage
    rw [hown.sequence_eq]
    exact holds_iff_forall_held.mp hown.pages page hpage
  arrives := by
    intro move c' link' hmove
    rw [Move.run_apply] at hmove
    obtain ⟨hlow, hhigh, hopen, hposition, hcontains⟩ := moveTo_eq_true hmove
    obtain ⟨hfrom, hto⟩ := (Page.contains_iff _ _).mp hcontains
    have hplace : (move.target c - c'.page.start.toInt).toNat < c'.page.rows.length := by omega
    have hoffset : ¬ move.target c - c'.page.start.toInt < 0 := by omega
    have hrow : c'.row = .ok c'.page.rows[(move.target c - c'.page.start.toInt).toNat] := by
      simp only [row, hopen, Bool.false_eq_true, if_false, hposition, if_neg hoffset,
        List.getElem?_eq_getElem hplace]
    exact ⟨hlow, hhigh, hposition, _, hrow, c'.page, List.mem_cons_self, hcontains,
      List.getElem?_eq_getElem hplace⟩
  stays := by
    intro move fault c' link' hmove
    rw [Move.run_apply] at hmove
    rw [moveTo_eq_error hmove]
    exact ⟨rfl, rfl, rfl, fun column => rfl⟩
  asks_once := by
    intro move
    rw [Move.run_apply]
    rcases moveTo_link (move.target c) c link with hlink | hlink
    · rw [hlink]
      exact .inl rfl
    · rw [hlink]
      exact events_nextPage _ _ link
  asks_none := by
    intro move hnear
    rw [Move.run_apply]
    exact moveTo_link_of_near hnear

end Wandering

end Cursor

/-- Moves are safe against any engine.  The cursor of a query that was answered with any page at
all, after any navigation calls that were answered with anything at all: its pages are of its own
query; a call that arrives leads to a row of the result that can be read, on a page that has it; a
call that fails changes nothing that can be seen; and a call asks the engine for one page at most,
and for none if its target is out of the result or on a page held. -/
theorem moves_are_safe {σ : Type} [Engine σ] {opening opened : Link (Journaled σ)} {sql : String}
    {args : List Value} {recentPages : Nat} {c : Cursor}
    (hopen : Cursor.openQuery sql args recentPages opening = (.ok c, opened))
    (calls : List (Link (Journaled σ) × Move)) (link : Link (Journaled σ)) :
    (c.wander calls).sequence = c.sequence ∧ (c.wander calls).Safe link := by
  have hown : Cursor.OwnPages c.sequence c := by
    simp only [Cursor.openQuery, bind_apply] at hopen
    rcases hfirst : Link.firstPage sql args opening with ⟨fault | page, link'⟩
    · simp only [hfirst] at hopen
      cases hopen
    · simp only [hfirst, pure_apply] at hopen
      cases hopen
      exact Cursor.ownPages_create sql recentPages page
  have hafter := hown.wander calls
  exact ⟨hafter.sequence_eq, hafter.safe link⟩

/-- An engine that answers a query with its first page, and two requests for another page with a
page of another query and with the right one. -/
def misleading : Link (Journaled Scripted) :=
  ⟨Handle.create 7, .start ⟨none, [],
    [pageReply ⟨5, 0, 4, [[.integer 1], [.integer 2]]⟩, pageReply ⟨6, 3, 4, [[.integer 9]]⟩,
      pageReply ⟨5, 2, 4, [[.integer 3], [.integer 4]]⟩], []⟩⟩
where
  /-- The reply of success with a page. -/
  pageReply (page : Page) : Option Reply := (encode page).toOption.map Reply.success

/-- A move to the last row is answered with a page of another query and fails; the cursor stays
where it was, and the next try arrives. -/
theorem misled_cursor_stays :
    ∃ c opened, Cursor.openQuery "" [] 2 misleading = (.ok c, opened) ∧
      let failed := (Move.toRow 3).run c opened
      let after := c.wander [(opened, .toRow 3)]
      failed.1.1.isOk = false ∧ after.position = -1 ∧ after.page = c.page ∧
        ((Move.toRow 3).run after failed.2).1.1.toOption = some true ∧ after.Safe failed.2 := by
  have hcursor : (Cursor.openQuery "" [] 2 misleading).1.toOption =
      some (Cursor.create "" 2 ⟨5, 0, 4, [[.integer 1], [.integer 2]]⟩) := by decide +kernel
  rcases hopen : Cursor.openQuery "" [] 2 misleading with ⟨fault | c, opened⟩
  · rw [hopen] at hcursor
    cases hcursor
  · rw [hopen] at hcursor
    cases hcursor
    obtain rfl : (Cursor.openQuery "" [] 2 misleading).2 = opened := by rw [hopen]
    refine ⟨_, _, rfl, by decide +kernel, by decide +kernel, by decide +kernel,
      by decide +kernel, ?_⟩
    exact (moves_are_safe hopen [(_, .toRow 3)] _).2

end EngineLink
