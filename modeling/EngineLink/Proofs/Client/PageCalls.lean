import EngineLink.Proofs.Client.CursorPages
import EngineLink.Proofs.Reference.LinkCalls

/-!
# Asking the reference engine for pages

The two calls that bring pages to a cursor, on a link that reaches an instance, and what the
calls of a cursor can do to the stored result.  A request for a page is small enough for the
wire whatever it asks for, so such a call fails only when there is no stored result or the
page itself is too large.

Main results:

- Theorem {lit}`nextPage_eq_ok_iff`: when a page is answered, and which.
- Theorem {lit}`openQuery_eq_ok`: a new query's cursor has the first page of the rows it found,
  which are stored.
-/

namespace EngineLink
namespace Reference

open Effects

/-- Some integers under short names fit the wire. -/
theorem encode_integers {α : Type} [Wired α] {message : α} (fs : List (String × Int))
    (hitem : Wired.toItem message = Record.toItem (fs.map fun f => (f.1, Item.ofInt f.2)))
    (hnames : ∀ f ∈ fs, (Item.ofText f.1).writtenSize ≤ 32) (hcount : fs.length ≤ 16) :
    ∃ payload, encode message = .ok payload := by
  have hsize : (Wired.toItem message).writtenSize ≤ 5 + fs.length * 41 := by
    rw [hitem]
    refine Nat.le_trans (Record.writtenSize_toItem_le (n := 41) ?_) (by simp)
    intro f hf
    obtain ⟨g, hg, rfl⟩ := List.mem_map.mp hf
    exact Nat.add_le_add (hnames g hg) (Item.writtenSize_ofInt_le g.2)
  have hlimit : maxMessageSize = 16777216 := rfl
  exact ⟨_, encode_eq_ok_iff.mpr ⟨by omega, rfl⟩⟩

/-- Requests for pages fit the wire. -/
theorem encode_pageRequest (request : Message.PageRequest) :
    ∃ payload, encode request = .ok payload :=
  encode_integers
    [("sequence_number", request.sequence.toInt), ("start_index", request.start.toInt)]
    rfl (by simp; decide) (by simp)

/-- Requests to discard a result fit the wire. -/
theorem encode_flushRequest (request : Message.FlushRequest) :
    ∃ payload, encode request = .ok payload :=
  encode_integers [("sequence_number", request.sequence.toInt)] rfl (by simp; decide) (by simp)

/-- A page with a blob of as many bytes as a message may have does not fit the wire. -/
theorem encode_blobPage {page : Page} {bytes : Bytes} (hrows : page.rows = [[.blob bytes]])
    (hlarge : maxMessageSize ≤ bytes.length) : ∃ fault, encode page = .error fault := by
  cases hencode : encode page with
  | error fault => exact ⟨fault, rfl⟩
  | ok written =>
    exfalso
    obtain ⟨hsize, -⟩ := encode_eq_ok_iff.mp hencode
    have hpositive := Item.writtenSize_pos (.ofText "rows")
    simp only [Wired.toItem, Page.toItem, hrows, Record.toItem, List.map_cons, List.map_nil,
      Value.toItem, Item.writtenSize, Item.writtenSizeEntries, Item.writtenSizeAll]
      at hsize hpositive
    omega

variable {link link' : Link World} {i : Instance}

/-- A page is answered when a result is stored and its page fits the wire; nothing changes. -/
theorem nextPage_eq_ok_iff {sequence : Int32} {start : Int64} {page : Page}
    (hreaches : Reaches link i) :
    Link.nextPage sequence start link = (.ok page, link') ↔
      i.results.page? start = some page ∧ (∃ bytes, encode page = .ok bytes) ∧
        link' = after link (i, link.engine.disk) := by
  rw [Link.nextPage, ask_eq_ok_iff hreaches rfl]
  constructor
  · rintro ⟨-, hbytes, s, hoperation, rfl⟩
    cases hpage : i.results.page? start with
    | none =>
      simp only [Instance.nextPage, bind_apply, get_apply, hpage, throw_apply] at hoperation
      cases hoperation
    | some page' =>
      rw [Instance.nextPage_of_page hpage] at hoperation
      cases hoperation
      exact ⟨rfl, hbytes, rfl⟩
  · rintro ⟨hpage, hbytes, rfl⟩
    exact ⟨encode_pageRequest _, hbytes, _, Instance.nextPage_of_page hpage, rfl⟩

/-- A new query's first page is that of the rows it found, which the engine has stored. -/
theorem firstPage_eq_ok {sql : String} {args : List Value} {page : Page}
    (hreaches : Reaches link i) (hfirst : Link.firstPage sql args link = (.ok page, link')) :
    ∃ rows s i', Instance.rowsOf (.query sql args) (i, link.engine.disk) = (.ok rows, s) ∧
      page = (i.results.store rows i.pageSize.toNat).1 ∧
        i'.results = (i.results.store rows i.pageSize.toNat).2 ∧ Reaches link' i' := by
  simp only [Link.firstPage, bind_apply] at hfirst
  rcases hask : (Link.ask .pagedQuery (Message.DbRequest.query sql args) link :
    Except Error Page × Link World) with ⟨_ | page', link''⟩
  · simp only [hask] at hfirst
    cases hfirst
  · simp only [hask, Link.setHandle, modify_apply, pure_apply] at hfirst
    cases hfirst
    obtain ⟨-, -, s, hoperation, rfl⟩ := (ask_eq_ok_iff hreaches rfl).mp hask
    rcases hrows : Instance.rowsOf (.query sql args) (i, link.engine.disk) with ⟨_ | rows, s'⟩
    · rw [Instance.pagedQuery_of_fault hrows] at hoperation
      cases hoperation
    · rw [Instance.pagedQuery_of_rows hrows] at hoperation
      cases hoperation
      exact ⟨rows, s', _, rfl, rfl, rfl, (hreaches.after _).of_handle rfl rfl⟩

/-- A new query's cursor has the first page of the rows it found, which the engine has
stored. -/
theorem openQuery_eq_ok {sql : String} {args : List Value} {recentPages : Nat} {c : Cursor}
    (hreaches : Reaches link i)
    (hopen : Cursor.openQuery sql args recentPages link = (.ok c, link')) :
    ∃ rows s i', Instance.rowsOf (.query sql args) (i, link.engine.disk) = (.ok rows, s) ∧
      c = Cursor.create sql recentPages (i.results.store rows i.pageSize.toNat).1 ∧
        i'.results = (i.results.store rows i.pageSize.toNat).2 ∧ Reaches link' i' := by
  simp only [Cursor.openQuery, bind_apply] at hopen
  rcases hfirst : Link.firstPage sql args link with ⟨_ | page, link''⟩
  · simp only [hfirst] at hopen
    cases hopen
  · simp only [hfirst, pure_apply] at hopen
    cases hopen
    obtain ⟨rows, s, i', hrows, rfl, hresults, hreaches'⟩ := firstPage_eq_ok hreaches hfirst
    exact ⟨rows, s, i', hrows, rfl, hresults, hreaches'⟩

/-! ## Steps of a cursor -/

variable {allowed : Bytes → Method → Prop}

/-- Opening a cursor does to the link what asking for the first page does. -/
theorem openQuery_link {sql : String} {args : List Value} {recentPages : Nat} :
    (Cursor.openQuery sql args recentPages link).2 = (Link.firstPage sql args link).2 :=
  bind_state (fun _ _ => rfl) link

theorem steps_openQuery {sql : String} {args : List Value} {recentPages : Nat}
    (hallowed : ∀ input, allowed input .pagedQuery) :
    Steps allowed link (Cursor.openQuery sql args recentPages link).2 := by
  rw [openQuery_link]
  exact steps_firstPage hallowed

/-- A move asks for one page at most. -/
theorem steps_move {c : Cursor} {move : Move} (hallowed : ∀ input, allowed input .nextPage) :
    Steps allowed link (move.run c link).2 := by
  rw [Move.run_apply]
  rcases Cursor.moveTo_link (move.target c) c link with hlink | hlink <;> rw [hlink]
  · exact steps_refl link
  · exact steps_nextPage hallowed

/-- Closing a cursor discards its own query at most. -/
theorem steps_close {c : Cursor}
    (hallowed : allowed (Wired.toItem (Message.FlushRequest.mk c.sequence)).write .flush) :
    Steps allowed link ((Cursor.close : CursorM World Unit) c link).2 := by
  rw [Cursor.close_apply]
  split
  · exact steps_refl link
  · exact steps_cancelQuery hallowed

end Reference
end EngineLink
