import EngineLink.Proofs.Client.HeardCalls
import EngineLink.Proofs.Client.PlainCursor
import EngineLink.Proofs.Page.Greedy

/-!
# Scanning forward

A cursor that only ever moves to the next row asks for a page when it comes to the end of the page
it has, and never for one it had before: the pages it left end before the row it wants.  So the
pages that come across are the greedy pages of the result, each of them once, and with them every
row.

Main results:

- Theorem {lit}`Scanning.step_over`: the one move that asks for a page.
- Theorem {lit}`Scanning.scan`: all moves to the end, from any place of a scan.
- Theorem {lit}`forward_scan_fetches_rows_once`: everything that is heard of a scan.
-/

namespace EngineLink

open Effects Reference

/-! ## Scans -/

namespace Cursor

section Scan

variable {σ : Type} [Engine σ]

/-- Move to the next row until there is none, at most so many times, and answer what the moves
answered. -/
def scan : Nat → CursorM σ (List Bool)
  | 0 => pure []
  | limit + 1 => do
    if ← moveToNext then
      let answers ← scan limit
      return true :: answers
    else return [false]

/-- Open a cursor and scan its rows; the cursor is answered, too. -/
def scanQuery (sql : String) (args : List Value) (recentPages limit : Nat) :
    LinkM σ (List Bool × Cursor) := do
  let c ← openQuery sql args recentPages
  fun link =>
    let ((answers, c'), link') := scan limit c link
    (answers.map fun answers => (answers, c'), link')

theorem scan_of_false {limit : Nat} {c c' : Cursor} {link link' : Link σ}
    (hmove : moveToNext c link = ((.ok false, c'), link')) :
    scan (limit + 1) c link = ((.ok [false], c'), link') := by
  rw [scan, object_bind_apply, hmove]
  rfl

theorem scan_of_true {limit : Nat} {c c' c'' : Cursor} {link link' link'' : Link σ}
    {answers : List Bool} (hmove : moveToNext c link = ((.ok true, c'), link'))
    (hscan : scan limit c' link' = ((.ok answers, c''), link'')) :
    scan (limit + 1) c link = ((.ok (true :: answers), c''), link'') := by
  rw [scan, object_bind_apply, hmove]
  simp only [if_true, object_bind_apply, hscan, object_pure_apply]

theorem scanQuery_of_ok {sql : String} {args : List Value} {recentPages limit : Nat}
    {c c' : Cursor} {link link' link'' : Link σ} {answers : List Bool}
    (hopen : openQuery sql args recentPages link = (.ok c, link'))
    (hscan : scan limit c link' = ((.ok answers, c'), link'')) :
    scanQuery sql args recentPages limit link = (.ok (answers, c'), link'') := by
  rw [scanQuery, bind_apply, hopen]
  simp only [hscan]
  rfl

theorem moveToNext_apply (c : Cursor) (link : Link σ) :
    moveToNext c link = moveTo (c.shifted 1) c link := by
  simp only [moveToNext, moveBy, object_bind_apply, object_get_apply]

theorem mirrors_scan (limit : Nat) :
    MirrorsObject (scan limit : CursorM (Overheard σ) (List Bool)) (scan limit) := by
  induction limit with
  | zero => exact mirrorsObject_pure []
  | succ limit ih =>
    have hmove : MirrorsObject (moveToNext : CursorM (Overheard σ) Bool) moveToNext := by
      intro c link
      rw [moveToNext_apply, moveToNext_apply]
      exact mirrors_moveTo (c.shifted 1) c link
    refine hmove.bind fun answer => ?_
    cases answer with
    | true => exact ih.bind fun answers => mirrorsObject_pure _
    | false => exact mirrorsObject_pure _

theorem mirrors_scanQuery (sql : String) (args : List Value) (recentPages limit : Nat) :
    Mirrors (scanQuery sql args recentPages limit : LinkM (Overheard σ) (List Bool × Cursor))
      (scanQuery sql args recentPages limit) := by
  refine (mirrors_openQuery sql args recentPages).bind fun c link => ?_
  rw [mirrors_scan limit c link]
  rcases scan limit c link with ⟨⟨answers, c'⟩, link'⟩
  rfl

end Scan

end Cursor

/-! ## One move -/

/-- A page of a stored result that fits the wire is answered, and that is all that is heard. -/
theorem Serving.nextPage_heard {link : Link (Overheard World)} {result : StoredResult}
    (hserving : Serving link.unheard result) (sequence : Int32) {start : Int64}
    (hfits : ∃ bytes, encode (result.page start) = .ok bytes) :
    ∃ link' e, Link.nextPage sequence start link = (.ok (result.page start), link') ∧
      Serving link'.unheard result ∧ link'.handle = link.handle ∧
      link'.engine.exchanges = link.engine.exchanges ++ [e] ∧
      e.Carries link.handle.raw .nextPage (Message.PageRequest.mk sequence start)
        (result.page start) := by
  obtain ⟨i, hreaches, hcurrent⟩ := hserving
  have hpage : i.results.page? start = some (result.page start) := by
    rw [ResultStore.page?, hcurrent, Option.map_some]
  obtain ⟨e, hcarries, hask⟩ := ask_heard .nextPage
    (Message.PageRequest.mk sequence start) hreaches rfl (encode_pageRequest _)
    (Instance.nextPage_of_page hpage) hfits
  exact ⟨_, e, hask, ⟨i, hreaches.after _, hcurrent⟩, rfl, rfl, hcarries⟩

/-- A cursor in the middle of a scan, on the page that begins at a row.  The pages it left end
before that row. -/
structure Scanning (result : StoredResult) (start : Nat) (c : Cursor)
    (link : Link (Overheard World)) : Prop where
  isOpen : c.closed = false
  sequence : c.sequence = result.sequence
  total : c.total.toInt = result.rows.length
  serving : Serving link.unheard result
  begins : result.PageBegins start
  start_le : start ≤ result.rows.length
  page : c.page = result.page (.ofNat start)
  low : start ≤ c.position + 1
  high : c.position < result.stopOf start
  recent : ∀ r, c.recent = some r → ∀ page ∈ r.pages, page.stop ≤ start

namespace Scanning

variable {result : StoredResult} {start : Nat} {c : Cursor} {link : Link (Overheard World)}

/-- The next row is counted within sixty-four bits. -/
theorem moveToNext_eq (hscan : Scanning result start c link)
    (hcount : result.rows.length < 2 ^ 63) :
    Cursor.moveToNext c link = Cursor.moveTo (c.position + 1) c link := by
  have hlow := hscan.low
  have hhigh := hscan.high
  have hstop := stopOf_le hscan.start_le
  have htarget : c.shifted 1 = c.position + 1 := by
    rw [Cursor.shifted, Int64.toInt_minValue, Int64.toInt_maxValue]
    omega
  rw [Cursor.moveToNext_apply, htarget]

/-- Behind the last row the move answers false. -/
theorem step_end (hscan : Scanning result start c link) (hcount : result.rows.length < 2 ^ 63)
    (hend : c.position + 1 = result.rows.length) :
    Cursor.moveToNext c link =
      ((.ok false, { c with position := c.total.toInt }), link) := by
  have hopen : ¬ c.closed = true := by simp [hscan.isOpen]
  have hlow : ¬ c.position + 1 < 0 := by omega
  have hhigh : c.total.toInt ≤ c.position + 1 := Int.le_of_eq (hscan.total.trans hend.symm)
  rw [hscan.moveToNext_eq hcount, Cursor.moveTo_apply, if_neg hopen, if_neg hlow, if_pos hhigh]

/-- On the page the move makes no call. -/
theorem step_on (hscan : Scanning result start c link) (hcount : result.rows.length < 2 ^ 63)
    (hon : c.position + 1 < result.stopOf start) :
    Cursor.moveToNext c link = ((.ok true, { c with position := c.position + 1 }), link) ∧
      Scanning result start { c with position := c.position + 1 } link := by
  have hstart := hscan.low
  have hstop := stopOf_le hscan.start_le
  have htotal := hscan.total
  have hopen : ¬ c.closed = true := by simp [hscan.isOpen]
  have hlow : ¬ c.position + 1 < 0 := by omega
  have hhigh : ¬ c.total.toInt ≤ c.position + 1 := by omega
  have hcontains : (c.page.contains (c.position + 1) || c.holdsAll) = true := by
    rw [Bool.or_eq_true, hscan.page, Page.contains_iff]
    left
    have hend := stop_page_ofNat hcount hscan.start_le
    have hbegin : (result.page (.ofNat start)).start.toInt = start :=
      toInt_ofNat_of_le hcount hscan.start_le
    rw [Page.stop] at hend
    omega
  constructor
  · rw [hscan.moveToNext_eq hcount, Cursor.moveTo_apply, if_neg hopen, if_neg hlow, if_neg hhigh,
      if_pos hcontains]
  · exact
      { isOpen := hscan.isOpen
        sequence := hscan.sequence
        total := hscan.total
        serving := hscan.serving
        begins := hscan.begins
        start_le := hscan.start_le
        page := hscan.page
        low := by simp only; omega
        high := hon
        recent := hscan.recent }

/-- No page that was left has the row behind the current page. -/
theorem showRecent?_eq_none (hscan : Scanning result start c link)
    (hover : c.position + 1 = result.stopOf start) : c.showRecent? (c.position + 1) = none := by
  cases hrecent : c.showRecent? (c.position + 1) with
  | none => rfl
  | some shown =>
    obtain ⟨r, page, hr, hpage, hcontains, -⟩ := Cursor.showRecent?_eq_some hrecent
    have hleft := hscan.recent r hr page hpage
    have hlow := hscan.low
    rw [Page.contains_iff] at hcontains
    rw [Page.stop] at hleft
    omega

/-- The row behind the current page is not on it, and the page is not the whole result. -/
theorem not_on_page (hscan : Scanning result start c link) (hcount : result.rows.length < 2 ^ 63)
    (hover : c.position + 1 = result.stopOf start)
    (hmore : result.stopOf start < result.rows.length) :
    ¬ (c.page.contains (c.position + 1) || c.holdsAll) = true := by
  have hend : c.page.stop = result.stopOf start := by
    rw [hscan.page, stop_page_ofNat hcount hscan.start_le]
  have htotal := hscan.total
  rw [Page.stop] at hend
  rw [Bool.or_eq_true, Page.contains_iff, Cursor.holdsAll, Bool.and_eq_true, decide_eq_true_eq,
    decide_eq_true_eq]
  rintro (⟨-, hcontains⟩ | ⟨hfirst, hall⟩)
  · omega
  · have hzero : (0 : Int64).toInt = 0 := rfl
    rw [hfirst, hzero] at hend
    omega

/-- At the end of the page the move asks for the page that begins there, and for nothing else. -/
theorem step_over (hscan : Scanning result start c link) (hcount : result.rows.length < 2 ^ 63)
    (hfits : result.FitsInTurn) (hover : c.position + 1 = result.stopOf start)
    (hmore : result.stopOf start < result.rows.length) :
    ∃ c' link' e, Cursor.moveToNext c link = ((.ok true, c'), link') ∧
      Scanning result (result.stopOf start) c' link' ∧ c'.position = c.position + 1 ∧
      c'.fetched = c.fetched + 1 ∧ link'.handle = link.handle ∧
      link'.engine.exchanges = link.engine.exchanges ++ [e] ∧
      e.Carries link.handle.raw .nextPage
        (Message.PageRequest.mk result.sequence (.ofNat (result.stopOf start)))
        (result.page (.ofNat (result.stopOf start))) := by
  have hstart := hscan.low
  have htotal := hscan.total
  have hopen : ¬ c.closed = true := by simp [hscan.isOpen]
  have hlow : ¬ c.position + 1 < 0 := by omega
  have hhigh : ¬ c.total.toInt ≤ c.position + 1 := by omega
  have hoff := hscan.not_on_page hcount hover hmore
  have hrecent := hscan.showRecent?_eq_none hover
  have htarget : Int64.ofInt (c.position + 1) = .ofNat (result.stopOf start) := by
    rw [hover]
    rfl
  have hbegin : (Int64.ofNat (result.stopOf start)).toInt = c.position + 1 :=
    (toInt_ofNat_of_le hcount (Nat.le_of_lt hmore)).trans hover.symm
  obtain ⟨link', e, hnext, hserving, hhandle, hexchanges, hcarries⟩ :=
    hscan.serving.nextPage_heard result.sequence (hfits _ hscan.begins.next (.inr hmore))
  have hcheck : c.checkPage (c.position + 1) (result.page (.ofNat (result.stopOf start))) =
      .ok () := by
    refine Cursor.checkPage_eq_ok_iff.mpr ⟨hscan.sequence.symm, ?_⟩
    rw [← hbegin]
    exact StoredResult.contains_page_self (by omega) (by omega)
  have hload : Cursor.load (c.position + 1) c link = ((.ok (), { c with
      fetched := c.fetched + 1 }.showPage (result.page (.ofNat (result.stopOf start)))),
      link') := by
    rw [Cursor.load_apply, hrecent, htarget, hscan.sequence, hnext]
    simp only [hcheck]
  refine ⟨{ { c with fetched := c.fetched + 1 }.showPage
      (result.page (.ofNat (result.stopOf start))) with position := c.position + 1 },
    link', e, ?_, ?_, rfl, rfl, hhandle, hexchanges, hcarries⟩
  · rw [hscan.moveToNext_eq hcount, Cursor.moveTo_apply, if_neg hopen, if_neg hlow, if_neg hhigh,
      if_neg hoff, hload]
  · exact
      { isOpen := hscan.isOpen
        sequence := hscan.sequence
        total := hscan.total
        serving := hserving
        begins := hscan.begins.next
        start_le := Nat.le_of_lt hmore
        page := rfl
        low := by simp only; omega
        high := by
          have hnonempty := lt_stopOf hmore
          simp only
          omega
        recent := by
          intro r hr page hpage
          obtain ⟨before, hbefore, rfl⟩ := Option.map_eq_some_iff.mp hr
          rcases RecentPages.mem_insert hpage with rfl | hold
          · -- The page that was left just now ends where the new one begins.
            have hend := stop_page_ofNat hcount hscan.start_le
            rw [← hscan.page] at hend
            exact Int.le_of_eq hend
          · have hleft := hscan.recent before hbefore page hold
            omega }

/-! ## All moves -/

/-- All moves to the end.  The pages asked for go on from the current one to the end of the
result. -/
theorem scan (hscan : Scanning result start c link) (hcount : result.rows.length < 2 ^ 63)
    (hfits : result.FitsInTurn) (left : Nat) {limit : Nat}
    (hleft : c.position + 1 + left = result.rows.length) (hlimit : left < limit) :
    ∃ c' link' requests fetched,
      Cursor.scan limit c link = ((.ok (List.replicate left true ++ [false]), c'), link') ∧
      link'.engine.exchanges = link.engine.exchanges ++ requests ∧
      List.Forall₂ (fun e page => Exchange.Carries link.handle.raw .nextPage
        (Message.PageRequest.mk result.sequence page.start) page e) requests fetched ∧
      PagedFrom result start (result.page (.ofNat start) :: fetched) ∧
      c'.fetched = c.fetched + fetched.length := by
  obtain ⟨limit, rfl⟩ : ∃ k, limit = k + 1 := ⟨limit - 1, by omega⟩
  induction left generalizing start c link limit with
  | zero =>
    have hhigh := hscan.high
    have hend : c.position + 1 = result.rows.length := by omega
    exact ⟨_, link, [], [], Cursor.scan_of_false (hscan.step_end hcount hend),
      (List.append_nil _).symm, .nil, .last (by omega), rfl⟩
  | succ left ih =>
    obtain ⟨limit, rfl⟩ : ∃ k, limit = k + 1 := ⟨limit - 1, by omega⟩
    have hhigh := hscan.high
    by_cases hon : c.position + 1 < result.stopOf start
    · obtain ⟨hmove, hscan'⟩ := hscan.step_on hcount hon
      obtain ⟨c', link', requests, fetched, hrun, hheard, hcarries, hpaged, hfetched⟩ :=
        ih hscan' (by simp only; omega) limit (by omega)
      exact ⟨c', link', requests, fetched, Cursor.scan_of_true hmove hrun, hheard, hcarries, hpaged,
        hfetched⟩
    · have hover : c.position + 1 = result.stopOf start := by omega
      have hmore : result.stopOf start < result.rows.length := by omega
      obtain ⟨c₁, link₁, e, hmove, hscan₁, hposition, hcounted, hhandle, hheard₁, hcarries₁⟩ :=
        hscan.step_over hcount hfits hover hmore
      obtain ⟨c', link', requests, fetched, hrun, hheard, hcarries, hpaged, hfetched⟩ :=
        ih hscan₁ (by omega) limit (by omega)
      rw [hhandle] at hcarries
      refine ⟨c', link', e :: requests, _ :: fetched, Cursor.scan_of_true hmove hrun, ?_,
        .cons hcarries₁ hcarries, .next hmore hpaged, ?_⟩
      · rw [hheard, hheard₁, List.append_assoc, List.singleton_append]
      · rw [hfetched, hcounted, List.length_cons]
        omega

end Scanning

/-! ## From the first page on -/

/-- A new cursor is at the beginning of a scan. -/
theorem scanning_create {result : StoredResult} {link : Link (Overheard World)}
    (hserving : Serving link.unheard result) (hcount : result.rows.length < 2 ^ 63) (sql : String)
    (recentPages : Nat) :
    Scanning result 0 (Cursor.create sql recentPages (result.page 0)) link where
  isOpen := rfl
  sequence := rfl
  total := StoredResult.toInt_total_page hcount 0
  serving := hserving
  begins := .first
  start_le := Nat.zero_le _
  page := rfl
  low := by simp [Cursor.create]
  high := by simp only [Cursor.create]; omega
  recent := by
    intro r hrecent page hpage
    simp only [Cursor.create, RecentPages.create] at hrecent
    split at hrecent <;> cases hrecent
    cases hpage

/-- A paged query whose first page fits the wire is answered with it, and that is all that is
heard. -/
theorem openQuery_heard (link : Link (Overheard World)) {i : Instance} {sql : String}
    {args : List Value} {rows : List Row} {s : Instance × Disk} (hreaches : Reaches link.unheard i)
    (hrequest : ∃ payload, encode (Message.DbRequest.query sql args) = .ok payload)
    (hrows : Instance.rowsOf (.query sql args) (i, link.engine.engine.disk) = (.ok rows, s))
    (hfits : ∃ bytes, encode (StoredResult.page ⟨i.results.next, rows, i.pageSize.toNat⟩ 0) =
      .ok bytes) (recentPages : Nat) :
    ∃ link' e, Cursor.openQuery sql args recentPages link =
        (.ok (.create sql recentPages
          (StoredResult.page ⟨i.results.next, rows, i.pageSize.toNat⟩ 0)), link') ∧
      Serving link'.unheard ⟨i.results.next, rows, i.pageSize.toNat⟩ ∧
      link'.handle.raw = link.handle.raw ∧
      link'.engine.exchanges = link.engine.exchanges ++ [e] ∧
      e.Carries link.handle.raw .pagedQuery (Message.DbRequest.query sql args)
        (StoredResult.page ⟨i.results.next, rows, i.pageSize.toNat⟩ 0) := by
  obtain ⟨e, hcarries, hask⟩ := ask_heard .pagedQuery
    (Message.DbRequest.query sql args) hreaches rfl hrequest
    (Instance.pagedQuery_of_rows hrows) hfits
  simp only [Cursor.openQuery, Link.firstPage, Link.setHandle, bind_apply, hask, modify_apply,
    pure_apply]
  exact ⟨_, e, rfl, ⟨_, (hreaches.after _).of_handle rfl rfl, rfl⟩, rfl, rfl, hcarries⟩

/-- A scan fetches every row once.  Whatever the rows a query finds, the budget of pages and the
number of recent pages that are kept, a new cursor moves to the next row as often as there are rows,
and then there is none.  What is heard of it is the query with the first page, and after that the
requests for pages, each from where the page before it ends.  The rows of all these pages, one after
the other, are the rows found; so one page less was fetched than there are greedy pages, and none
without rows.  The pages only have to fit the wire. -/
theorem forward_scan_fetches_rows_once {link : Link World} {i : Instance} {sql : String}
    {args : List Value} {rows : List Row} {s : Instance × Disk} (hreaches : Reaches link i)
    (hrequest : ∃ payload, encode (Message.DbRequest.query sql args) = .ok payload)
    (hrows : Instance.rowsOf (.query sql args) (i, link.engine.disk) = (.ok rows, s))
    (hcount : rows.length < 2 ^ 63)
    (hfits : StoredResult.FitsInTurn ⟨i.results.next, rows, i.pageSize.toNat⟩)
    (recentPages : Nat) {limit : Nat} (hlimit : rows.length < limit) :
    ∃ c scanned query first requests fetched,
      Cursor.scanQuery sql args recentPages limit link =
        (.ok (List.replicate rows.length true ++ [false], c), scanned.unheard) ∧
      Cursor.scanQuery sql args recentPages limit ⟨link.handle, Overheard.start link.engine⟩ =
        (.ok (List.replicate rows.length true ++ [false], c), scanned) ∧
      scanned.engine.exchanges = query :: requests ∧
      Exchange.Carries link.handle.raw .pagedQuery (Message.DbRequest.query sql args) first query ∧
      List.Forall₂ (fun e page => Exchange.Carries link.handle.raw .nextPage
        (Message.PageRequest.mk first.sequence page.start) page e) requests fetched ∧
      first.start = 0 ∧
      (first :: fetched).IsChain (fun page next => next.start.toInt = page.stop) ∧
      (first :: fetched).flatMap Page.rows = rows ∧
      c.fetched = fetched.length ∧
      (∃ cut, GreedyCut i.pageSize.toNat rows cut) ∧
      ∀ cut, GreedyCut i.pageSize.toNat rows cut → c.fetched = cut.length - 1 := by
  obtain ⟨opened, query, hopen, hserving, hraw, hasked, hcarries⟩ :=
    openQuery_heard ⟨link.handle, Overheard.start link.engine⟩ hreaches hrequest hrows
      (hfits 0 .first (.inl rfl)) recentPages
  obtain ⟨c, scanned, requests, fetched, hscan, hheard, hfetches, hpaged, hfetched⟩ :=
    (scanning_create hserving hcount sql recentPages).scan hcount hfits rows.length
      (by simp [Cursor.create]) hlimit
  have hlength := hpaged.length_eq hcount
  rw [hraw] at hfetches
  have hlistened := Cursor.scanQuery_of_ok hopen hscan
  have hplain := Cursor.mirrors_scanQuery sql args recentPages limit
    ⟨link.handle, Overheard.start link.engine⟩
  rw [hlistened] at hplain
  refine ⟨c, scanned, query, _, requests, fetched, hplain, hlistened, ?_, hcarries, hfetches, rfl,
    hpaged.isChain_stop hcount (Nat.zero_le _), ?_, ?_, hlength.1, ?_⟩
  · rw [hheard, hasked]
    rfl
  · exact hpaged.flatMap_rows hcount (Nat.zero_le _)
  · rw [hfetched]
    exact Nat.zero_add _
  · intro cut hcut
    have hcut := hlength.2 cut hcut
    rw [List.length_cons, Nat.add_sub_cancel] at hcut
    rw [← hcut, hfetched]
    exact Nat.zero_add _

/-- Two rows on a page each: the second page is fetched, and nothing else. -/
theorem second_page_fetched :
    ∃ c link', Cursor.scanQuery "values (1), (2)" [] 1 3 inMemory =
      (.ok ([true, true, false], c), link') ∧ c.fetched = 1 := by
  have hfound : (Instance.rowsOf (.query "values (1), (2)" [])
      (memoryInstance, inMemory.engine.disk)).1.toOption = some [[.integer 1], [.integer 2]] := by
    decide +kernel
  have hrequest : ∃ payload, encode (Message.DbRequest.query "values (1), (2)" []) = .ok payload :=
    ⟨_, encode_eq_ok_iff.mpr ⟨by decide, rfl⟩⟩
  have hfits : StoredResult.FitsInTurn ⟨1, [[.integer 1], [.integer 2]], 1⟩ := by
    intro start _ hstart
    have hsmall : start < 2 := by
      rcases hstart with rfl | hlt
      · decide
      · exact hlt
    have hbegin : (Int64.ofNat start).toInt = start := Int64.toInt_ofNat_of_lt (by omega)
    exact fitsWire_two_rows _ (by omega) (by rw [hbegin]; exact Int.ofNat_lt.mpr hsmall)
  have hcut : GreedyCut 1 [[.integer 1], [.integer 2]] [[[.integer 1]], [[.integer 2]]] :=
    ⟨rfl, by simp, by simp, by simp [totalSize, Row.size, Value.size]⟩
  rcases hrows : Instance.rowsOf (.query "values (1), (2)" [])
    (memoryInstance, inMemory.engine.disk) with ⟨_ | rows, s⟩
  · rw [hrows] at hfound
    cases hfound
  · rw [hrows] at hfound
    cases hfound
    obtain ⟨c, scanned, -, -, -, -, hscan, -, -, -, -, -, -, -, -, -, hcount⟩ :=
      forward_scan_fetches_rows_once reaches_inMemory hrequest hrows (by decide) hfits 1
        (by decide : 2 < 3)
    exact ⟨c, _, hscan, hcount _ hcut⟩

end EngineLink
