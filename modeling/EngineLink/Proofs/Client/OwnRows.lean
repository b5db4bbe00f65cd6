import EngineLink.Proofs.Client.CursorPages
import EngineLink.Proofs.Client.PageCalls
import EngineLink.Proofs.Page.Numbering
import Mathlib.Algebra.Group.Int.Defs
import Mathlib.Algebra.Group.Nat.Defs

/-!
# A cursor shows the rows of its own query

An instance answers every request for a page from the one result it has stored, whichever
query was asked for.  What keeps the rows of other queries away from a cursor is the number on
the pages.  Here any number of cursors share one instance, and between their moves anything may
be asked of it.

Main results:

- Theorem {lit}`Desk.Sound.act`: what every step of such a run preserves.
- Theorem {lit}`reads_are_of_own_query`: a value that is read is the value at the position in
  the rows the cursor's own query found.
-/

namespace EngineLink

open Effects Reference ResultStore

/-! ## Runs of several cursors -/

/-- A cursor with the rows its query found and the number of queries stored since then. -/
structure Scan where
  cursor : Cursor
  own : List Row
  since : Nat

/-- A link with the cursors that were opened on it. -/
structure Desk where
  link : Link World
  scans : List Scan

/-- A step of a run: a call by numbers, a call of the client that changes what it knows about
the active query, or a call of one of the cursors. -/
inductive Act where
  | call (service method : UInt32) (payload : Bytes)
  | firstPage (sql : String) (args : List Value)
  | cancelQuery (sequence : Int32)
  | cancelAll
  | openCursor (sql : String) (args : List Value) (recentPages : Nat)
  | move (index : Nat) (move : Move)
  | close (index : Nat)

namespace Desk

/-- The sequence number that is given out next. -/
def nextNumber (link : Link World) : Option Int32 :=
  (link.engine.find? link.handle.raw).map (·.results.next)

/-- The rows a query finds now. -/
def rowsNow (link : Link World) (sql : String) (args : List Value) : List Row :=
  match link.engine.find? link.handle.raw with
  | none => []
  | some i =>
    match Instance.rowsOf (.query sql args) (i, link.engine.disk) with
    | (.ok rows, _) => rows
    | (.error _, _) => []

/-- Go on with the link after a call.  Storing a result takes a number, so the next number
tells whether the call stored one. -/
def goOn (d : Desk) (link : Link World) : Desk :=
  if nextNumber link = nextNumber d.link then { d with link }
  else ⟨link, d.scans.map fun r => { r with since := r.since + 1 }⟩

/-- Open a cursor for a new query. -/
def openCursor (d : Desk) (sql : String) (args : List Value) (recentPages : Nat) : Desk :=
  match Cursor.openQuery sql args recentPages d.link with
  | (.error _, link) => d.goOn link
  | (.ok cursor, link) =>
    { d.goOn link with
      scans := (d.goOn link).scans ++ [⟨cursor, rowsNow d.link sql args, 0⟩] }

/-- Make a call of one of the cursors. -/
def use {α : Type} (d : Desk) (index : Nat) (call : CursorM World α) : Desk :=
  match d.scans[index]? with
  | none => d
  | some r =>
    let ((_, cursor), link) := call r.cursor d.link
    { d with scans := d.scans.set index { r with cursor } }.goOn link

/-- Take a step. -/
def act (d : Desk) : Act → Desk
  | .call service method payload => d.goOn (Link.invoke service method payload d.link).2
  | .firstPage sql args => d.goOn (Link.firstPage sql args d.link).2
  | .cancelQuery sequence => d.goOn (Link.cancelQuery sequence d.link).2
  | .cancelAll => d.goOn (Link.cancelAll d.link).2
  | .openCursor sql args recentPages => d.openCursor sql args recentPages
  | .move index move => d.use index move.run
  | .close index => d.use index Cursor.close

/-- Take some steps. -/
def run (d : Desk) (acts : List Act) : Desk := acts.foldl act d

end Desk

/-! ## What a call does to the stored result -/

/-- A call drops the stored result or keeps it, or stores another one. -/
inductive Change (s s' : ResultStore) : Prop where
  | kept (hnext : s'.next = s.next)
      (hcurrent : ∀ result, s'.current = some result → s.current = some result)
  | stored (rows : List Row) (budget : Nat) (hstored : s' = (s.store rows budget).2)

theorem change_of_storeStep {input : Bytes} {method : Method} {s s' : ResultStore}
    (hstep : StoreStep input s method s') : Change s s' := by
  cases hstep with
  | kept => exact .kept rfl fun _ hcurrent => hcurrent
  | stored rows budget => exact .stored rows budget rfl
  | flushed hrequest =>
    refine .kept rfl fun result hcurrent => ?_
    exact (Option.filter_eq_some_iff.mp hcurrent).1
  | flushedAll => exact .kept rfl fun _ hcurrent => nomatch hcurrent
  | closed => exact .kept rfl fun _ hcurrent => nomatch hcurrent

/-- A call leads to a link that still reaches the instance, with such a change. -/
def Leads (link link' : Link World) : Prop :=
  ∀ i, Reaches link i → ∃ i', Reaches link' i' ∧ Change i.results i'.results

/-- Steps of any methods are such changes. -/
theorem leads_of_steps {link link' : Link World} (hsteps : Steps (fun _ _ => True) link link') :
    Leads link link' := by
  intro i hreaches
  obtain ⟨i', hreaches', hkept | ⟨input, method, -, hstep⟩⟩ := hsteps i hreaches
  · exact ⟨i', hreaches', .kept (by rw [hkept]) fun _ hcurrent => hkept ▸ hcurrent⟩
  · exact ⟨i', hreaches', change_of_storeStep hstep⟩

/-! ## What is true of every cursor -/

/-- The sequence numbers given out since a cursor's query are those after its own.  Until they
come back to it, the cursor holds only pages cut from its own rows. -/
structure Scan.Sound (scan : Scan) (s : ResultStore) : Prop where
  next : s.next = numberAfter scan.cursor.sequence (scan.since + 1)
  current : ∀ result, s.current = some result →
    result.sequence = numberAfter scan.cursor.sequence scan.since ∧
      (scan.since = 0 → result.rows = scan.own)
  pages : scan.since < 2 ^ 31 - 1 → scan.cursor.Holds (Page.CutFrom scan.own)

section Scans

variable {scan : Scan} {s s' : ResultStore}

/-- A new cursor's own result is the stored one. -/
theorem Scan.sound_create (s : ResultStore) (rows : List Row) (budget : Nat) (sql : String)
    (recentPages : Nat) :
    Scan.Sound ⟨Cursor.create sql recentPages (s.store rows budget).1, rows, 0⟩
      (s.store rows budget).2 where
  next := rfl
  current := by
    rintro result ⟨⟩
    exact ⟨rfl, fun _ => rfl⟩
  pages _ := Cursor.holds_create ⟨Int.le_refl 0, Page.slice_isPrefix _ _⟩ sql recentPages

theorem Scan.Sound.kept (hsound : scan.Sound s) (hnext : s'.next = s.next)
    (hcurrent : ∀ result, s'.current = some result → s.current = some result) :
    scan.Sound s' where
  next := hnext.trans hsound.next
  current result hresult := hsound.current result (hcurrent result hresult)
  pages := hsound.pages

/-- Another query takes the next number and is counted. -/
theorem Scan.Sound.stored (hsound : scan.Sound s) (rows : List Row) (budget : Nat) :
    { scan with since := scan.since + 1 }.Sound (s.store rows budget).2 where
  next := congrArg successor hsound.next
  current := by
    rintro result ⟨⟩
    exact ⟨hsound.next, fun hzero => nomatch hzero⟩
  pages hearly := hsound.pages (by simp only at hearly; omega)

/-- A page that passes the check of a cursor is cut from its own rows. -/
theorem Scan.Sound.cutFrom_of_check (hsound : scan.Sound s) (hearly : scan.since < 2 ^ 31 - 1)
    {target : Int} {page : Page} (hlow : 0 ≤ target) (hhigh : target < scan.cursor.total.toInt)
    (hpage : s.page? (Int64.ofInt target) = some page)
    (hcheck : scan.cursor.checkPage target page = .ok ()) : page.CutFrom scan.own := by
  obtain ⟨result, hresult, rfl⟩ := Option.map_eq_some_iff.mp hpage
  obtain ⟨hsequence, hrows⟩ := hsound.current result hresult
  obtain ⟨hnumber, -⟩ := Cursor.checkPage_eq_ok_iff.mp hcheck
  -- The number on the page is the cursor's own, so no query was stored since.
  have hzero : scan.since = 0 := by
    rcases Nat.eq_zero_or_pos scan.since with hzero | hpositive
    · exact hzero
    · exact absurd (hsequence.symm.trans hnumber) (numberAfter_ne_self _ hpositive hearly)
  rw [← hrows hzero]
  have htotal := scan.cursor.total.toInt_lt
  have htarget : (Int64.ofInt target).toInt = target :=
    Int64.toInt_ofInt_of_le (by omega) (by omega)
  exact StoredResult.cutFrom_page (by omega)

/-- A move adds only pages that passed the check. -/
theorem Scan.Sound.move {link : Link World} {i : Instance} (hreaches : Reaches link i)
    (hsound : scan.Sound i.results) (move : Move) :
    { scan with cursor := (move.run scan.cursor link).1.2 }.Sound i.results := by
  rw [Move.run_apply]
  have hpages : scan.since < 2 ^ 31 - 1 → (Cursor.moveTo (move.target scan.cursor)
      scan.cursor link).1.2.Holds (Page.CutFrom scan.own) := by
    intro hearly
    refine (hsound.pages hearly).moveTo fun page link' hlow hhigh hnext hcheck => ?_
    obtain ⟨hpage, -⟩ := (nextPage_eq_ok_iff hreaches).mp hnext
    exact hsound.cutFrom_of_check hearly hlow hhigh hpage hcheck
  obtain ⟨position, page, recent, fetched, hframe⟩ :=
    Cursor.moveTo_frame (move.target scan.cursor) scan.cursor link
  rw [hframe] at hpages ⊢
  exact ⟨hsound.next, hsound.current, hpages⟩

/-- Closing a cursor adds no pages. -/
theorem Scan.Sound.close (hsound : scan.Sound s) (link : Link World) :
    { scan with cursor := ((Cursor.close : CursorM World Unit) scan.cursor link).1.2 }.Sound s := by
  have hpages : scan.since < 2 ^ 31 - 1 → ((Cursor.close : CursorM World Unit) scan.cursor
      link).1.2.Holds (Page.CutFrom scan.own) := fun hearly => (hsound.pages hearly).close link
  rw [Cursor.close_apply] at hpages ⊢
  split at hpages <;> rename_i hclosed <;> simp only [hclosed] <;>
    exact ⟨hsound.next, hsound.current, hpages⟩

end Scans

/-! ## What every step preserves -/

namespace Desk

variable {d : Desk}

/-- The link reaches an instance, and everything is true of every cursor. -/
def Sound (d : Desk) : Prop :=
  ∃ i, Reaches d.link i ∧ ∀ scan ∈ d.scans, scan.Sound i.results

theorem link_goOn (d : Desk) (link : Link World) : (d.goOn link).link = link := by
  unfold goOn
  split <;> rfl

/-- A call is counted for the cursors when it stores a result. -/
theorem Sound.goOn (hsound : d.Sound) {link : Link World} (hleads : Leads d.link link) :
    (d.goOn link).Sound := by
  obtain ⟨i, hreaches, hscans⟩ := hsound
  obtain ⟨i', hreaches', hchange⟩ := hleads i hreaches
  have hnumber : nextNumber d.link = some i.results.next := by
    rw [nextNumber, hreaches.found, Option.map_some]
  have hnumber' : nextNumber link = some i'.results.next := by
    rw [nextNumber, hreaches'.found, Option.map_some]
  refine ⟨i', by rwa [link_goOn], ?_⟩
  unfold Desk.goOn
  cases hchange with
  | kept hnext hcurrent =>
    rw [if_pos (by rw [hnumber, hnumber', hnext])]
    exact fun scan hscan => (hscans scan hscan).kept hnext hcurrent
  | stored rows budget hstored =>
    have hother : ¬ nextNumber link = nextNumber d.link := by
      rw [hnumber, hnumber', hstored, Option.some.injEq]
      exact successor_ne_self i.results.next
    rw [if_neg hother, hstored]
    intro scan hscan
    obtain ⟨before, hbefore, rfl⟩ := List.mem_map.mp hscan
    exact (hscans before hbefore).stored rows budget

/-- A call of one of the cursors. -/
theorem Sound.use {α : Type} (hsound : d.Sound) {call : CursorM World α} (index : Nat)
    (hleads : ∀ c, Leads d.link (call c d.link).2)
    (hscan : ∀ scan i, Reaches d.link i → Scan.Sound scan i.results →
      Scan.Sound { scan with cursor := (call scan.cursor d.link).1.2 } i.results) :
    (d.use index call).Sound := by
  unfold Desk.use
  cases hfound : d.scans[index]? with
  | none => exact hsound
  | some scan =>
    obtain ⟨i, hreaches, hscans⟩ := hsound
    have hused := hscan scan i hreaches (hscans scan (List.mem_of_getElem? hfound))
    have hlink := hleads scan.cursor
    rcases hrun : call scan.cursor d.link with ⟨⟨answer, cursor⟩, link⟩
    simp only [hrun] at hused hlink ⊢
    have hset : Desk.Sound { d with scans := d.scans.set index { scan with cursor } } := by
      refine ⟨i, hreaches, fun other hother => ?_⟩
      rcases List.mem_or_eq_of_mem_set hother with hold | rfl
      · exact hscans other hold
      · exact hused
    exact hset.goOn hlink

/-- Opening another cursor. -/
theorem Sound.openCursor (hsound : d.Sound) (sql : String) (args : List Value)
    (recentPages : Nat) : (d.openCursor sql args recentPages).Sound := by
  have hleads : Leads d.link (Cursor.openQuery sql args recentPages d.link).2 :=
    leads_of_steps (steps_openQuery fun _ => trivial)
  unfold Desk.openCursor
  rcases hopen : Cursor.openQuery sql args recentPages d.link with ⟨_ | cursor, link⟩ <;>
    simp only [hopen] at hleads ⊢
  · exact hsound.goOn hleads
  · obtain ⟨i'', hreaches'', hscans''⟩ := hsound.goOn hleads
    obtain ⟨i, hreaches, -⟩ := hsound
    obtain ⟨rows, s, i', hrows, rfl, hresults, hreaches'⟩ := openQuery_eq_ok hreaches hopen
    have hsame : i'' = i' := by
      rw [link_goOn] at hreaches''
      exact hreaches''.unique hreaches'
    have hown : rowsNow d.link sql args = rows := by
      simp only [rowsNow, hreaches.found, hrows]
    subst hsame
    refine ⟨i'', hreaches'', fun scan hscan => ?_⟩
    rcases List.mem_append.mp hscan with hold | hnew
    · exact hscans'' scan hold
    · rw [List.mem_singleton] at hnew
      subst hnew
      rw [hresults, hown]
      exact Scan.sound_create i.results rows i.pageSize.toNat sql recentPages

/-- What every step preserves. -/
theorem Sound.act (hsound : d.Sound) (act : Act) : (d.act act).Sound := by
  cases act with
  | call service method payload =>
    exact hsound.goOn (leads_of_steps (steps_invoke fun _ _ => trivial))
  | firstPage sql args =>
    exact hsound.goOn (leads_of_steps (steps_firstPage fun _ => trivial))
  | cancelQuery sequence =>
    exact hsound.goOn (leads_of_steps (steps_cancelQuery trivial))
  | cancelAll =>
    exact hsound.goOn (leads_of_steps (steps_cancelAll fun _ => trivial))
  | openCursor sql args recentPages => exact hsound.openCursor sql args recentPages
  | move index move =>
    have hleads : ∀ c, Leads d.link (move.run c d.link).2 :=
      fun _ => leads_of_steps (steps_move fun _ => trivial)
    exact hsound.use index hleads fun scan i hreaches hscan => hscan.move hreaches move
  | close index =>
    have hleads : ∀ c, Leads d.link ((Cursor.close : CursorM World Unit) c d.link).2 :=
      fun _ => leads_of_steps (steps_close trivial)
    have hused : (d.use index (Cursor.close : CursorM World Unit)).Sound :=
      hsound.use index hleads fun scan i _ hscan => hscan.close d.link
    exact hused

/-- What a whole run preserves. -/
theorem Sound.run (hsound : d.Sound) (acts : List Act) : (d.run acts).Sound := by
  induction acts generalizing d with
  | nil => exact hsound
  | cons act rest ih => exact ih (hsound.act act)

end Desk

/-- A cursor never shows another query's rows.  Whatever was asked of the instance by any number
of cursors and clients, a value that is read is the value at the position in the rows the
cursor's own query found when it ran, as long as its sequence number has not come back. -/
theorem reads_are_of_own_query {link : Link World} {i : Instance} (hreaches : Reaches link i)
    (acts : List Act) :
    ∀ scan ∈ (Desk.run ⟨link, []⟩ acts).scans, scan.since < 2 ^ 31 - 1 →
      ∀ column value, scan.cursor.read column = .ok value →
        0 ≤ scan.cursor.position ∧
          (scan.own[scan.cursor.position.toNat]?.bind fun row => row[column]?) = some value := by
  intro scan hscan hearly column value hread
  have hstart : Desk.Sound ⟨link, []⟩ := ⟨i, hreaches, by simp⟩
  obtain ⟨i', -, hscans⟩ := hstart.run acts
  have hpages := (hscans scan hscan).pages hearly
  have hfound := Cursor.toOption_read scan.cursor column
  rw [hread] at hfound
  cases hrow : scan.cursor.row with
  | error fault =>
    rw [hrow] at hfound
    cases hfound
  | ok row =>
    obtain ⟨hlow, hown⟩ := Cursor.row_eq_ok hpages.current hrow
    rw [hrow] at hfound
    rw [hown]
    exact ⟨hlow, hfound.symm⟩

/-- Two cursors on one instance, the first of them with its result superseded. -/
theorem two_cursors_read_their_own_rows :
    (Desk.run ⟨inMemory, []⟩ [.openCursor "values (1), (2)" [] 0, .openCursor "values (3)" [] 0,
      .move 0 .next, .move 1 .next]).scans.length = 2 ∧
    ∀ scan ∈ (Desk.run ⟨inMemory, []⟩ [.openCursor "values (1), (2)" [] 0,
        .openCursor "values (3)" [] 0, .move 0 .next, .move 1 .next]).scans,
      ∃ value, scan.cursor.read 0 = .ok value ∧ 0 ≤ scan.cursor.position ∧
        (scan.own[scan.cursor.position.toNat]?.bind fun row => row[0]?) = some value := by
  refine ⟨by decide +kernel, fun scan hscan => ?_⟩
  have hreads : (Desk.run ⟨inMemory, []⟩ [.openCursor "values (1), (2)" [] 0,
      .openCursor "values (3)" [] 0, .move 0 .next, .move 1 .next]).scans.all
        (fun scan => scan.since < 2 ^ 31 - 1 && (scan.cursor.read 0).toOption.isSome) = true := by
    decide +kernel
  have hscan' := List.all_eq_true.mp hreads scan hscan
  simp only [Bool.and_eq_true, decide_eq_true_eq] at hscan'
  obtain ⟨hearly, hread⟩ := hscan'
  cases hvalue : scan.cursor.read 0 with
  | error fault =>
    rw [hvalue] at hread
    cases hread
  | ok value =>
    exact ⟨value, rfl, reads_are_of_own_query reaches_inMemory _ scan hscan hearly 0 value hvalue⟩

end EngineLink
