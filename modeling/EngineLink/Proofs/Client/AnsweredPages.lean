import EngineLink.Proofs.Client.PlainCursor
import EngineLink.Proofs.Page.Budget

/-!
# Pages that are answered

What a client gets when it asks the reference engine for a page.  A page is to say which rows of the
result it has, and at the standard budget it is to fit the wire.  Neither holds without a condition:
a page that was asked for before the first row has its rows at the wrong positions, and rows of
nearly empty texts take many more bytes on the wire than they count for.

Main results:

- Theorem {lit}`StoredResult.getElem?_page`: which row of the result is at a position of a page.
- Theorem {lit}`page_tells_truth_iff`: a page has its rows in place exactly if it was not asked for
  before the first row.
- Theorem {lit}`standard_pages_fit_wire`: a paged query at the standard budget is answered, page by
  page, if its rows are compact.
-/

namespace EngineLink

open Effects Reference

/-! ## Rows in place -/

/-- What is on a page at a position is the row at the same position. -/
def Page.Truthful (rows : List Row) (page : Page) : Prop :=
  ∀ position, page.contains position = true →
    0 ≤ position ∧ position < rows.length ∧
      page.rows[(position - page.start.toInt).toNat]? = rows[position.toNat]?

namespace StoredResult

variable {result : StoredResult} {start : Int64}

/-- A page that is asked for before the first row has the rows of the first page. -/
theorem page_of_neg (hneg : start.toInt < 0) :
    result.page start = { result.page 0 with start } := by
  have hzero : start.toInt.toNat = (0 : Int64).toInt.toNat := by
    have hfirst : (0 : Int64).toInt.toNat = 0 := rfl
    omega
  simp only [page, hzero]

/-- The row of the result at a position of a page: the one at that position, less the places
before the first row. -/
theorem getElem?_page {position : Int} (hcontains : (result.page start).contains position = true) :
    0 ≤ position - min start.toInt 0 ∧ position - min start.toInt 0 < result.rows.length ∧
      (result.page start).rows[(position - start.toInt).toNat]? =
        result.rows[(position - min start.toInt 0).toNat]? := by
  by_cases hstart : 0 ≤ start.toInt
  · have hcut : (result.page start).CutFrom result.rows := cutFrom_page hstart
    have hrange := hcut.lt_length hcontains
    have hrow := hcut.getElem?_rows hcontains
    rw [Int.min_eq_right hstart, Int.sub_zero]
    exact ⟨hrange.1, hrange.2, hrow⟩
  · have hneg : start.toInt < 0 := by omega
    have hcut : (result.page 0).CutFrom result.rows := cutFrom_page (Int.le_refl 0)
    have hzero : (result.page 0).start.toInt = 0 := rfl
    rw [page_of_neg hneg] at hcontains ⊢
    have hshifted : (result.page 0).contains (position - start.toInt) = true := by
      rw [Page.contains_iff] at hcontains ⊢
      simp only at hcontains
      omega
    have hrange := hcut.lt_length hshifted
    have hrow := hcut.getElem?_rows hshifted
    rw [hzero, Int.sub_zero] at hrow
    rw [Int.min_eq_left (Int.le_of_lt hneg)]
    exact ⟨hrange.1, hrange.2, hrow⟩

/-- A page has its rows in place exactly if it does not begin before the first row, or there are
no rows at all. -/
theorem truthful_page_iff :
    (result.page start).Truthful result.rows ↔ 0 ≤ start.toInt ∨ result.rows = [] := by
  constructor
  · intro htruthful
    by_cases hstart : 0 ≤ start.toInt
    · exact .inl hstart
    by_cases hrows : result.rows = []
    · exact .inr hrows
    · exfalso
      -- The page begins with a row, but there is none before the first.
      have hbegins : (result.page start).contains start.toInt = true := by
        have hsome : (result.page start).rows ≠ [] := by
          rw [page_of_neg (by omega)]
          simpa [page] using hrows
        have hlength := List.length_pos_iff.mpr hsome
        have hbegin : (result.page start).start.toInt = start.toInt := rfl
        rw [Page.contains_iff]
        omega
      exact hstart (htruthful _ hbegins).1
  · intro hcondition position hcontains
    obtain ⟨hlow, hhigh, hrow⟩ := getElem?_page hcontains
    rcases hcondition with hstart | hnone
    · rw [Int.min_eq_right hstart, Int.sub_zero] at hlow hhigh hrow
      exact ⟨hlow, hhigh, hrow⟩
    · rw [hnone, List.length_nil] at hhigh
      omega

end StoredResult

/-- An answered page has its rows in place exactly if it was not asked for before the first row.
Whatever was asked for, the row at a position of the page is the row of the result at that position,
less the places before the first row. -/
theorem page_tells_truth_iff {link link' : Link World} {result : StoredResult} {sequence : Int32}
    {start : Int64} {page : Page} (hserving : Serving link result)
    (hanswer : Link.nextPage sequence start link = (.ok page, link')) :
    (page.Truthful result.rows ↔ 0 ≤ start.toInt ∨ result.rows = []) ∧
      ∀ position, page.contains position = true →
        0 ≤ position - min start.toInt 0 ∧ position - min start.toInt 0 < result.rows.length ∧
          page.rows[(position - page.start.toInt).toNat]? =
            result.rows[(position - min start.toInt 0).toNat]? := by
  obtain ⟨i, hreaches, hcurrent⟩ := hserving
  obtain ⟨hpage, -⟩ := (nextPage_eq_ok_iff hreaches).mp hanswer
  rw [ResultStore.page?, hcurrent, Option.map_some, Option.some.injEq] at hpage
  subst hpage
  exact ⟨StoredResult.truthful_page_iff, fun position => StoredResult.getElem?_page⟩

/-- Three rows, of which a page has two. -/
def threeRows : StoredResult := ⟨1, [[.integer 1], [.integer 2], [.integer 3]], 16⟩

/-- The page from the second row on has its rows in place. -/
theorem second_row_in_place :
    ∃ page link', Link.nextPage 1 1 (holding threeRows) = (.ok page, link') ∧
      page.rows = [[.integer 2], [.integer 3]] ∧ page.Truthful threeRows.rows := by
  have hpage : (Link.nextPage 1 1 (holding threeRows)).1.toOption =
      some ⟨1, 1, 3, [[.integer 2], [.integer 3]]⟩ := by decide +kernel
  rcases hanswer : Link.nextPage 1 1 (holding threeRows) with ⟨fault | page, link'⟩
  · rw [hanswer] at hpage
    cases hpage
  · rw [hanswer] at hpage
    cases hpage
    have htruth := page_tells_truth_iff (serving_holding threeRows) hanswer
    exact ⟨_, link', rfl, rfl, htruth.1.mpr (.inl (by decide))⟩

/-- A page asked for two rows before the first one has the first row at position minus two. -/
theorem negative_start_misplaces_rows :
    ∃ page link', Link.nextPage 1 (-2) (holding threeRows) = (.ok page, link') ∧
      page.contains (-2) = true ∧ page.rows[((-2) - page.start.toInt).toNat]? = some [.integer 1] ∧
        ¬ page.Truthful threeRows.rows := by
  have hpage : (Link.nextPage 1 (-2) (holding threeRows)).1.toOption =
      some ⟨1, -2, 3, [[.integer 1], [.integer 2]]⟩ := by decide +kernel
  rcases hanswer : Link.nextPage 1 (-2) (holding threeRows) with ⟨fault | page, link'⟩
  · rw [hanswer] at hpage
    cases hpage
  · rw [hanswer] at hpage
    cases hpage
    refine ⟨_, link', rfl, by decide, by decide, ?_⟩
    intro htruthful
    have hnonneg := (htruthful (-2) (by decide)).1
    omega

/-! ## Pages at the standard budget -/

section StandardBudget

variable {link : Link World} {i : Instance}

theorem toNat_standardPageSize : Instance.standardPageSize.toNat = 2 * 1024 * 1024 := by
  decide

/-- A paged query whose first page fits the wire is answered with it, and its rows are stored. -/
theorem firstPage_of_rows {sql : String} {args : List Value} {rows : List Row} {s : Instance × Disk}
    (hreaches : Reaches link i)
    (hrequest : ∃ payload, encode (Message.DbRequest.query sql args) = .ok payload)
    (hrows : Instance.rowsOf (.query sql args) (i, link.engine.disk) = (.ok rows, s))
    (hfits : ∃ bytes, encode (StoredResult.page ⟨i.results.next, rows, i.pageSize.toNat⟩ 0) =
      .ok bytes) :
    ∃ link', Link.firstPage sql args link =
        (.ok (StoredResult.page ⟨i.results.next, rows, i.pageSize.toNat⟩ 0), link') ∧
      Serving link' ⟨i.results.next, rows, i.pageSize.toNat⟩ := by
  have hasked : Link.ask .pagedQuery (Message.DbRequest.query sql args) link =
      (.ok (StoredResult.page ⟨i.results.next, rows, i.pageSize.toNat⟩ 0), after link
        ({ s.1 with results := (i.results.store rows i.pageSize.toNat).2 }, s.2)) :=
    (ask_eq_ok_iff hreaches rfl).mpr
      ⟨hrequest, hfits, _, Instance.pagedQuery_of_rows hrows, rfl⟩
  simp only [Link.firstPage, bind_apply, hasked, Link.setHandle, modify_apply, pure_apply]
  refine ⟨_, rfl, _, (hreaches.after _).of_handle rfl rfl, ?_⟩
  rfl

end StandardBudget

/-- A paged query at the standard budget is answered page by page.  If every row of a result fits
the wire alone and is compact, then so does every page of it; the query that finds such rows is
answered with the first page, and as long as they are stored, so is every request for another
page.  Rows are compact if they have values and no text or blob of fewer than two bytes. -/
theorem standard_pages_fit_wire :
    (∀ (link : Link World) (result : StoredResult),
      result.budget = Instance.standardPageSize.toNat → result.RowsFitAlone →
      (∀ row ∈ result.rows, row.Compact) →
        result.FitsWire ∧
          (Serving link result → ∀ (sequence : Int32) (start : Int64), 0 ≤ start.toInt →
            start.toInt < result.rows.length →
              ∃ link', Link.nextPage sequence start link = (.ok (result.page start), link'))) ∧
      (∀ (link : Link World) (i : Instance) (sql : String) (args : List Value) (rows : List Row)
        (s : Instance × Disk), Reaches link i → i.pageSize = Instance.standardPageSize →
        (∃ payload, encode (Message.DbRequest.query sql args) = .ok payload) →
        Instance.rowsOf (.query sql args) (i, link.engine.disk) = (.ok rows, s) →
        StoredResult.RowsFitAlone ⟨i.results.next, rows, i.pageSize.toNat⟩ →
        (∀ row ∈ rows, row.Compact) →
          ∃ link', Link.firstPage sql args link =
              (.ok (StoredResult.page ⟨i.results.next, rows, i.pageSize.toNat⟩ 0), link') ∧
            Serving link' ⟨i.results.next, rows, i.pageSize.toNat⟩) ∧
      ∀ row : Row, row ≠ [] → (∀ v ∈ row, v.IsSolid) → row.Compact := by
  refine ⟨?_, ?_, fun row => Row.compact_of_solid⟩
  · intro link result hbudget halone hcompact
    rw [toNat_standardPageSize] at hbudget
    have hfits : result.FitsWire := fun start hlow _ =>
      StoredResult.encode_page_of_compact hbudget halone hcompact hlow
    refine ⟨hfits, ?_⟩
    intro hserving sequence start hlow hhigh
    obtain ⟨link', hanswer, -⟩ := hserving.nextPage hfits sequence start hlow hhigh
    exact ⟨link', hanswer⟩
  · intro link i sql args rows s hreaches hsize hrequest hrows halone hcompact
    apply firstPage_of_rows hreaches hrequest hrows
    have hbudget : i.pageSize.toNat = 2 * 1024 * 1024 := by rw [hsize, toNat_standardPageSize]
    exact StoredResult.encode_page_of_compact hbudget halone hcompact (Int.le_refl 0)

/-- A link to an instance with an empty database in memory and the standard page size. -/
def standardLink : Link World :=
  { inMemory with
    engine := { inMemory.engine with
      instances := [(1, { memoryInstance with pageSize := Instance.standardPageSize })] } }

/-- Two rows of numbers, texts and nulls are answered on one page. -/
theorem two_rows_on_one_page :
    ∃ link', Link.firstPage "values (1, 'ab'), (2, null)" [] standardLink =
      (.ok ⟨1, 0, 2, [[.integer 1, .text "ab"], [.integer 2, .null]]⟩, link') := by
  have hreaches : Reaches standardLink
      { memoryInstance with pageSize := Instance.standardPageSize } := ⟨by decide, rfl, rfl⟩
  have hrequest : ∃ payload, encode (Message.DbRequest.query "values (1, 'ab'), (2, null)" []) =
      .ok payload := ⟨_, encode_eq_ok_iff.mpr ⟨by decide, rfl⟩⟩
  have hfound : (Instance.rowsOf (.query "values (1, 'ab'), (2, null)" [])
      ({ memoryInstance with pageSize := Instance.standardPageSize },
        standardLink.engine.disk)).1.toOption =
      some [[.integer 1, .text "ab"], [.integer 2, .null]] := by decide +kernel
  rcases hrows : Instance.rowsOf (.query "values (1, 'ab'), (2, null)" [])
      ({ memoryInstance with pageSize := Instance.standardPageSize },
        standardLink.engine.disk) with ⟨fault | rows, s⟩
  · rw [hrows] at hfound
    cases hfound
  · rw [hrows] at hfound
    cases hfound
    have halone : StoredResult.RowsFitAlone
        ⟨1, [[.integer 1, .text "ab"], [.integer 2, .null]], 2 * 1024 * 1024⟩ :=
      StoredResult.rowsFitAlone_of_wireSize_le (by decide)
    obtain ⟨link', hanswer, -⟩ := standard_pages_fit_wire.2.1 standardLink _ _ [] _ s hreaches rfl
      hrequest hrows halone (by decide)
    exact ⟨link', hanswer⟩

/-- Thirteen hundred rows of fifteen hundred empty texts each, at the standard budget. -/
def emptyTexts : StoredResult :=
  ⟨1, List.replicate 1300 (List.replicate 1500 (.text "")), 2 * 1024 * 1024⟩

/-- Each of these rows takes 13503 bytes on the wire and counts for nothing. -/
theorem wireSize_emptyTexts : Row.wireSize (List.replicate 1500 (.text "")) = 13503 := by
  have htext : (Value.text "").toItem.writtenSize = 9 := by decide
  have hhead : (Wire.arrayHead 1500).length = 3 := by decide
  rw [Row.wireSize_eq, List.length_replicate, List.map_replicate, htext, hhead,
    List.sum_replicate_nat]

theorem size_emptyTexts (count : Nat) : Row.size (List.replicate count (.text "")) = 0 := by
  induction count with
  | zero => rfl
  | succ count ih =>
    rw [List.replicate_succ, Row.size_cons, ih]
    rfl

/-- They are all on the first page. -/
theorem rows_emptyTexts : (emptyTexts.page 0).rows = emptyTexts.rows := by
  have hfits : totalSize emptyTexts.rows ≤ emptyTexts.budget := by
    rw [emptyTexts, totalSize, List.map_replicate, size_emptyTexts, List.sum_replicate_nat]
    decide
  exact Page.slice_eq_self hfits

/-- The first page takes more than sixteen mebibytes. -/
theorem writtenSize_emptyTexts : (Wired.toItem (emptyTexts.page 0)).writtenSize = 17553952 := by
  have hsequence : (emptyTexts.page 0).sequence = 1 := rfl
  have hstart : (emptyTexts.page 0).start = 0 := rfl
  have htotal : (emptyTexts.page 0).total = 1300 := by
    rw [StoredResult.page, emptyTexts, List.length_replicate]
    rfl
  have hone : (Item.ofInt (1 : Int32).toInt).writtenSize = 1 := by decide
  have hzero : (Item.ofInt (0 : Int64).toInt).writtenSize = 1 := by decide
  have hcount : (Item.ofInt (1300 : Int64).toInt).writtenSize = 3 := by decide
  have hhead : (Wire.arrayHead 1300).length = 3 := by decide
  change (emptyTexts.page 0).toItem.writtenSize = _
  rw [Page.writtenSize_toItem, hsequence, hstart, htotal, hone, hzero, hcount, rows_emptyTexts,
    emptyTexts, List.length_replicate, hhead, List.map_replicate, wireSize_emptyTexts,
    List.sum_replicate_nat]

/-- Each of the rows fits the wire alone, but the first page, which is cut to the standard budget,
is too large for it. -/
theorem empty_texts_overflow_page :
    emptyTexts.budget = Instance.standardPageSize.toNat ∧ emptyTexts.RowsFitAlone ∧
      encode (emptyTexts.page 0) = .error (.tooLarge 17553952) := by
  refine ⟨by decide, ?_, ?_⟩
  · apply StoredResult.rowsFitAlone_of_wireSize_le
    intro row hrow
    rw [List.eq_of_mem_replicate hrow, wireSize_emptyTexts]
    decide
  · have hlarge : maxMessageSize < 17553952 := by decide
    rw [encode, encodedSize, writtenSize_emptyTexts, if_pos hlarge]
    rfl

end EngineLink
