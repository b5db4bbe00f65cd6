import EngineLink.Proofs.Client.CursorPages
import EngineLink.Proofs.Client.PageCalls
import Mathlib.Algebra.Group.Int.Defs
import Mathlib.Algebra.Group.Nat.Defs

/-!
# Paging is invisible

A plain cursor has all rows of a result in one list.  A cursor that gets its rows from the
reference engine page by page shows the same as the plain one after every move, whatever the
budget of the pages is, however many recent ones are kept, and whatever else is asked on the
same link as long as the result stays stored.  Pages only have to fit the wire.

Main results:

- Theorem {lit}`Follows.move`: one move of both cursors.
- Theorem {lit}`sights_eq_plain`: all moves with other calls between them.
- Theorem {lit}`paging_is_invisible`: the same for the cursor of a new query.
-/

namespace EngineLink

open Effects Reference

/-! ## The plain cursor -/

/-- A cursor that has all rows at hand. -/
structure PlainCursor where
  rows : List Row
  position : Int

namespace PlainCursor

/-- A plain cursor before the first row. -/
def create (rows : List Row) : PlainCursor := ⟨rows, -1⟩

/-- Move to a row.  A target outside the rows moves before the first or after the last one
and answers false. -/
def moveTo (p : PlainCursor) (target : Int) : Bool × PlainCursor :=
  if target < 0 then (false, { p with position := -1 })
  else if p.rows.length ≤ target then (false, { p with position := p.rows.length })
  else (true, { p with position := target })

/-- Make a navigation call; rows are counted without bounds. -/
def move (p : PlainCursor) : Move → Bool × PlainCursor
  | .toRow target => p.moveTo target.toInt
  | .byRows offset => p.moveTo (p.position + offset.toInt)
  | .first => p.moveTo 0
  | .last => p.moveTo (p.rows.length - 1)
  | .next => p.moveTo (p.position + 1)
  | .previous => p.moveTo (p.position - 1)

/-- The value of a column of the row at the position. -/
def value? (p : PlainCursor) (column : Nat) : Option Value :=
  if 0 ≤ p.position then p.rows[p.position.toNat]?.bind fun row => row[column]? else none

end PlainCursor

/-! ## Other calls on the link -/

/-- A call on the link that is no move of the cursor.  Every call of a client is one by
numbers; those with more to them than the call are listed apart. -/
inductive Aside where
  | call (service method : UInt32) (payload : Bytes)
  | setPageSize (bytes : UInt64)
  | jsonQuery (request : Message.DbRequest)
  | begin
  | finish (kind : Message.RequestKind)
  | close (other : Cursor)

namespace Aside

/-- What a call does to the link. -/
def run : Aside → Link World → Link World
  | .call service method payload, link => (Link.invoke service method payload link).2
  | .setPageSize bytes, link => (Link.setPageSize bytes link).2
  | .jsonQuery request, link => (Link.jsonQuery request link).2
  | .begin, link => (Link.beginTransaction link).2
  | .finish kind, link => (Link.finishTransaction kind link).2
  | .close other, link => other.discard link

/-- Methods that leave the stored result with the given number alone. -/
def SparesMethod (sequence : Int32) (payload : Bytes) : Method → Prop
  | .pagedQuery | .flushAll | .closeCollection => False
  | .flush => decode payload ≠ .ok (Message.FlushRequest.mk sequence)
  | _ => True

/-- Calls that leave the stored result with the given number alone: no other paged query, no
end of all results or of the collection, and no end of this result. -/
def Spares (sequence : Int32) : Aside → Prop
  | .call service method payload =>
    ∀ known, Method.ofIds? service method = some known → SparesMethod sequence payload known
  | .close other => other.sequence ≠ sequence
  | _ => True

end Aside

/-! ## What is seen of a cursor -/

/-- What a client does next. -/
inductive Turn where
  | move (move : Move)
  | aside (call : Aside)

/-- Whether the stored result with the given number is left alone. -/
def Turn.Spares (sequence : Int32) : Turn → Prop
  | .move _ => True
  | .aside call => call.Spares sequence

/-- What is seen of a cursor: the answer of the move, the position and the values that can be
read. -/
structure Sight where
  answer : Option (Except Error Bool)
  position : Int
  value? : Nat → Option Value

/-- What is seen of a cursor. -/
def Cursor.sight (c : Cursor) (answer : Option (Except Error Bool)) : Sight :=
  ⟨answer, c.position, fun column => (c.read column).toOption⟩

/-- What is seen of a cursor after every turn. -/
def Cursor.sights (c : Cursor) (link : Link World) : List Turn → List Sight
  | [] => []
  | .move move :: rest =>
    let ((answer, c'), link') := move.run c link
    c'.sight (some answer) :: c'.sights link' rest
  | .aside call :: rest => c.sight none :: c.sights (call.run link) rest

/-- What is seen of a plain cursor. -/
def PlainCursor.sight (p : PlainCursor) (answer : Option (Except Error Bool)) : Sight :=
  ⟨answer, p.position, p.value?⟩

/-- What is seen of a plain cursor after every turn; its moves never fail. -/
def PlainCursor.sights (p : PlainCursor) : List Turn → List Sight
  | [] => []
  | .move move :: rest =>
    let (answer, p') := p.move move
    p'.sight (some (.ok answer)) :: p'.sights rest
  | .aside _ :: rest => p.sight none :: p.sights rest

/-! ## The stored result stays -/

/-- A link reaches an instance that has a result stored. -/
def Serving (link : Link World) (result : StoredResult) : Prop :=
  ∃ i, Reaches link i ∧ i.results.current = some result

section Serving

variable {link : Link World} {result : StoredResult}

/-- A method that spares the stored result leaves it where it is. -/
theorem current_of_storeStep {input : Bytes} {method : Method} {s s' : ResultStore}
    (hstep : StoreStep input s method s') (hcurrent : s.current = some result)
    (hspares : Aside.SparesMethod result.sequence input method) : s'.current = some result := by
  cases hstep with
  | kept => exact hcurrent
  | stored rows budget => exact hspares.elim
  | flushed hrequest =>
    rename_i request
    rw [ResultStore.current_flush, hcurrent]
    intro kept hkept hsame
    obtain rfl : result = kept := Option.some.inj (hcurrent.symm.trans hkept)
    apply hspares
    rw [hrequest, hsame]
  | flushedAll => exact hspares.elim
  | closed => exact hspares.elim

/-- Steps that spare the stored result leave it where it is. -/
theorem Serving.steps {link' : Link World} (hserving : Serving link result)
    (hsteps : Steps (Aside.SparesMethod result.sequence) link link') : Serving link' result := by
  obtain ⟨i, hreaches, hcurrent⟩ := hserving
  obtain ⟨i', hreaches', hkept | ⟨input, method, hspares, hstep⟩⟩ := hsteps i hreaches
  · exact ⟨i', hreaches', hkept ▸ hcurrent⟩
  · exact ⟨i', hreaches', current_of_storeStep hstep hcurrent hspares⟩

/-- The request to discard another result spares this one. -/
theorem sparesMethod_flush {sequence other : Int32} (hother : other ≠ sequence) :
    Aside.SparesMethod sequence (Wired.toItem (Message.FlushRequest.mk other)).write .flush := by
  intro (hread : decode _ = _)
  obtain ⟨payload, hencode⟩ := encode_flushRequest ⟨other⟩
  obtain ⟨-, rfl⟩ := encode_eq_ok_iff.mp hencode
  rw [decode_encode hencode, Except.ok.injEq, Message.FlushRequest.mk.injEq] at hread
  exact hother hread

/-- A call that spares the stored result leaves it where it is. -/
theorem Serving.aside {call : Aside} (hserving : Serving link result)
    (hspares : call.Spares result.sequence) : Serving (call.run link) result := by
  apply hserving.steps
  cases call with
  | call service method payload => exact steps_invoke hspares
  | setPageSize bytes =>
    simp only [Aside.run, Link.setPageSize, tell_link]
    exact steps_send trivial
  | jsonQuery request =>
    simp only [Aside.run, jsonQuery_link]
    exact steps_send trivial
  | begin => exact steps_beginTransaction fun _ => trivial
  | finish kind => exact steps_finishTransaction fun _ => trivial
  | close other => exact steps_close (sparesMethod_flush hspares)

end Serving

/-! ## One move of both cursors -/

/-- All pages of a result fit the wire, wherever they begin. -/
def StoredResult.FitsWire (result : StoredResult) : Prop :=
  ∀ start : Int64, 0 ≤ start.toInt → start.toInt < result.rows.length →
    ∃ bytes, encode (result.page start) = .ok bytes

/-- A cursor with pages of a result only, at the position of a plain cursor over all rows.  If
that is a row, it is on the current page. -/
structure Follows (result : StoredResult) (c : Cursor) (p : PlainCursor) : Prop where
  isOpen : c.closed = false
  sequence : c.sequence = result.sequence
  total : c.total.toInt = result.rows.length
  pages : c.Holds (Page.CutFrom result.rows)
  rows : p.rows = result.rows
  position : c.position = p.position
  low : -1 ≤ c.position
  high : c.position ≤ result.rows.length
  onPage : 0 ≤ c.position → c.position < result.rows.length → c.page.contains c.position = true

section Following

variable {link : Link World} {result : StoredResult} {c : Cursor} {p : PlainCursor}

/-- A new cursor and a new plain one stand before the first row. -/
theorem follows_create (hcount : result.rows.length < 2 ^ 63) (sql : String) (recentPages : Nat) :
    Follows result (Cursor.create sql recentPages (result.page 0))
      (PlainCursor.create result.rows) where
  isOpen := rfl
  sequence := rfl
  total := StoredResult.toInt_total_page hcount 0
  pages := Cursor.holds_create (StoredResult.cutFrom_page (by decide)) sql recentPages
  rows := rfl
  position := rfl
  low := by simp [Cursor.create]
  high := by simp only [Cursor.create]; omega
  onPage := by intro hlow; simp [Cursor.create] at hlow

/-- Both cursors read the same values. -/
theorem Follows.value (hfollows : Follows result c p) (column : Nat) :
    (c.read column).toOption = p.value? column := by
  rw [Cursor.toOption_read, PlainCursor.value?, ← hfollows.position, hfollows.rows]
  cases hrow : c.row with
  | ok row =>
    obtain ⟨hlow, hfound⟩ := Cursor.row_eq_ok hfollows.pages.current hrow
    rw [if_pos hlow, hfound]
    rfl
  | error fault =>
    split
    · rename_i hlow
      have hhigh : ¬ c.position < result.rows.length := by
        intro hhigh
        obtain ⟨row, hread⟩ := Cursor.row_of_contains hfollows.isOpen (hfollows.onPage hlow hhigh)
        rw [hrow] at hread
        cases hread
      have hnone : result.rows[c.position.toNat]? = none := List.getElem?_eq_none (by omega)
      rw [hnone]
      rfl
    · rfl

/-- The page of a row is answered, and the result stays stored. -/
theorem Serving.nextPage (hserving : Serving link result) (hfits : result.FitsWire)
    (sequence : Int32) (start : Int64) (hlow : 0 ≤ start.toInt)
    (hhigh : start.toInt < result.rows.length) :
    ∃ link', Link.nextPage sequence start link = (.ok (result.page start), link') ∧
      Serving link' result := by
  obtain ⟨i, hreaches, hcurrent⟩ := hserving
  have hpage : i.results.page? start = some (result.page start) := by
    simp only [ResultStore.page?, hcurrent, Option.map_some]
  exact ⟨_, (nextPage_eq_ok_iff hreaches).mpr ⟨hpage, hfits start hlow hhigh, rfl⟩,
    i, hreaches.after _, hcurrent⟩

/-- Showing the page of a row succeeds, and all pages held are cut from the result. -/
theorem Follows.load (hfollows : Follows result c p) (hserving : Serving link result)
    (hcount : result.rows.length < 2 ^ 63) (hfits : result.FitsWire) {target : Int}
    (hlow : 0 ≤ target) (hhigh : target < result.rows.length) :
    ∃ page recent fetched link',
      Cursor.load target c link = ((.ok (), { c with page, recent, fetched }), link') ∧
        { c with page, recent, fetched }.Holds (Page.CutFrom result.rows) ∧
        page.contains target = true ∧ Serving link' result := by
  have htarget : (Int64.ofInt target).toInt = target :=
    Int64.toInt_ofInt_of_le (by omega) (by omega)
  obtain ⟨link', hnext, hserving'⟩ :=
    hserving.nextPage hfits c.sequence (Int64.ofInt target) (by omega) (by omega)
  have hholds : (Cursor.load target c link).1.2.Holds (Page.CutFrom result.rows) := by
    refine hfollows.pages.load fun page link'' hanswer _ => ?_
    rw [hnext] at hanswer
    cases hanswer
    exact StoredResult.cutFrom_page (by omega)
  rw [Cursor.load_apply] at hholds ⊢
  cases hrecent : c.showRecent? target with
  | some shown =>
    obtain ⟨r, page, -, -, hcontains, rfl⟩ := Cursor.showRecent?_eq_some hrecent
    simp only [hrecent] at hholds
    exact ⟨_, _, _, link, rfl, hholds, hcontains, hserving⟩
  | none =>
    have hcontains : (result.page (Int64.ofInt target)).contains target = true := by
      have hself : (result.page (Int64.ofInt target)).contains (Int64.ofInt target).toInt = true :=
        StoredResult.contains_page_self (by omega) (by omega)
      rwa [htarget] at hself
    have hcheck : c.checkPage target (result.page (Int64.ofInt target)) = .ok () :=
      Cursor.checkPage_eq_ok_iff.mpr ⟨hfollows.sequence.symm, hcontains⟩
    simp only [hrecent, hnext, hcheck] at hholds ⊢
    exact ⟨_, _, _, link', rfl, hholds, hcontains, hserving'⟩

/-- Both cursors at another position, the one with other pages of the result. -/
theorem Follows.moved (hfollows : Follows result c p) {position : Int} {page : Page}
    {recent : Option RecentPages} {fetched : Nat}
    (hpages : { c with page, recent, fetched }.Holds (Page.CutFrom result.rows))
    (hlow : -1 ≤ position) (hhigh : position ≤ result.rows.length)
    (honPage : 0 ≤ position → position < result.rows.length → page.contains position = true) :
    Follows result { c with position, page, recent, fetched } ⟨result.rows, position⟩ where
  isOpen := hfollows.isOpen
  sequence := hfollows.sequence
  total := hfollows.total
  pages := ⟨hpages.current, hpages.recent⟩
  rows := rfl
  position := rfl
  low := hlow
  high := hhigh
  onPage := honPage

/-- A move to a row: both cursors answer the same and stand at the same position. -/
theorem Follows.moveTo (hfollows : Follows result c p) (hserving : Serving link result)
    (hcount : result.rows.length < 2 ^ 63) (hfits : result.FitsWire) (target : Int) :
    ∃ c' link', Cursor.moveTo target c link = ((.ok (p.moveTo target).1, c'), link') ∧
      Follows result c' (p.moveTo target).2 ∧ Serving link' result := by
  have hopen : ¬ c.closed = true := by simp [hfollows.isOpen]
  simp only [Cursor.moveTo_apply, if_neg hopen, PlainCursor.moveTo, hfollows.total, hfollows.rows]
  by_cases hlow : target < 0
  · simp only [if_pos hlow]
    refine ⟨_, link, rfl, hfollows.moved hfollows.pages ?_ ?_ ?_, hserving⟩ <;> omega
  · simp only [if_neg hlow]
    by_cases hhigh : (result.rows.length : Int) ≤ target
    · simp only [if_pos hhigh]
      refine ⟨_, link, rfl, hfollows.moved hfollows.pages ?_ ?_ ?_, hserving⟩ <;> omega
    · simp only [if_neg hhigh]
      by_cases hpage : (c.page.contains target || c.holdsAll) = true
      · have hcontains : c.page.contains target = true := by
          rcases (Bool.or_eq_true _ _).mp hpage with hcontains | hall
          · exact hcontains
          · exact Cursor.contains_of_holdsAll hall (Int.not_lt.mp hlow)
              (hfollows.total ▸ Int.not_le.mp hhigh)
        simp only [if_pos hpage]
        exact ⟨_, link, rfl, hfollows.moved hfollows.pages (by omega) (by omega)
          (fun _ _ => hcontains), hserving⟩
      · obtain ⟨page, recent, fetched, link', hload, hpages, hcontains, hserving'⟩ :=
          hfollows.load hserving hcount hfits (Int.not_lt.mp hlow) (Int.not_le.mp hhigh)
        simp only [if_neg hpage, hload]
        exact ⟨_, link', rfl, hfollows.moved hpages (by omega) (by omega) (fun _ _ => hcontains),
          hserving'⟩

/-- Counting rows within sixty-four bits leads as far as counting them without bounds. -/
theorem Follows.moveTo_shifted (hfollows : Follows result c p)
    (hcount : result.rows.length < 2 ^ 63) (offset : Int) :
    p.moveTo (c.shifted offset) = p.moveTo (p.position + offset) := by
  have hshifted : c.shifted offset = max (-2 ^ 63) (min (2 ^ 63 - 1) (p.position + offset)) := by
    rw [Cursor.shifted, Int64.toInt_minValue, Int64.toInt_maxValue, hfollows.position]
  unfold PlainCursor.moveTo
  rw [hfollows.rows]
  by_cases hlow : p.position + offset < 0
  · have hshiftedLow : c.shifted offset < 0 := by omega
    rw [if_pos hlow, if_pos hshiftedLow]
  · have hshiftedLow : ¬ c.shifted offset < 0 := by omega
    rw [if_neg hlow, if_neg hshiftedLow]
    by_cases hhigh : (result.rows.length : Int) ≤ p.position + offset
    · have hshiftedHigh : (result.rows.length : Int) ≤ c.shifted offset := by omega
      rw [if_pos hhigh, if_pos hshiftedHigh]
    · have hexact : c.shifted offset = p.position + offset := by omega
      rw [hexact]

/-- A navigation call of a cursor leads where it leads the plain one. -/
theorem Follows.moveTo_target (hfollows : Follows result c p)
    (hcount : result.rows.length < 2 ^ 63) (move : Move) :
    p.moveTo (move.target c) = p.move move := by
  cases move with
  | toRow target => rfl
  | byRows offset => exact hfollows.moveTo_shifted hcount offset.toInt
  | first => rfl
  | last => simp only [Move.target, PlainCursor.move, hfollows.total, hfollows.rows]
  | next => exact hfollows.moveTo_shifted hcount 1
  | previous => exact hfollows.moveTo_shifted hcount (-1)

/-- One move of both cursors: it does not fail, the answers are the same, and the cursors stand
at the same position. -/
theorem Follows.move (hfollows : Follows result c p) (hserving : Serving link result)
    (hcount : result.rows.length < 2 ^ 63) (hfits : result.FitsWire) (move : Move) :
    ∃ c' link', move.run c link = ((.ok (p.move move).1, c'), link') ∧
      Follows result c' (p.move move).2 ∧ Serving link' result := by
  rw [Move.run_apply, ← hfollows.moveTo_target hcount move]
  exact hfollows.moveTo hserving hcount hfits (move.target c)

theorem Follows.sight_eq (hfollows : Follows result c p) (answer : Option (Except Error Bool)) :
    c.sight answer = p.sight answer := by
  rw [Cursor.sight, PlainCursor.sight, hfollows.position, funext hfollows.value]

/-! ## All moves -/

/-- All moves of both cursors, with other calls between them. -/
theorem sights_eq_plain (hfollows : Follows result c p) (hserving : Serving link result)
    (hcount : result.rows.length < 2 ^ 63) (hfits : result.FitsWire) {turns : List Turn}
    (hspares : ∀ turn ∈ turns, turn.Spares result.sequence) :
    c.sights link turns = p.sights turns := by
  induction turns generalizing c p link with
  | nil => rfl
  | cons turn rest ih =>
    have hrest : ∀ turn ∈ rest, turn.Spares result.sequence :=
      fun turn hturn => hspares turn (List.mem_cons_of_mem _ hturn)
    cases turn with
    | move move =>
      obtain ⟨c', link', hmove, hfollows', hserving'⟩ :=
        hfollows.move hserving hcount hfits move
      simp only [Cursor.sights, PlainCursor.sights, hmove, hfollows'.sight_eq,
        ih hfollows' hserving' hrest]
    | aside call =>
      have hserving' := hserving.aside (hspares (.aside call) List.mem_cons_self)
      simp only [Cursor.sights, PlainCursor.sights, hfollows.sight_eq,
        ih hfollows hserving' hrest]

end Following

/-- Paging is invisible.  The cursor of a new query stands over the rows the query found, cut to
the page size of that time; and over every stored result whose pages fit the wire, a new cursor
shows at the beginning and after every turn what a plain cursor over all rows shows. -/
theorem paging_is_invisible :
    (∀ (link link' : Link World) (i : Instance) (sql : String) (args : List Value)
        (recentPages : Nat) (c : Cursor), Reaches link i →
      Cursor.openQuery sql args recentPages link = (.ok c, link') →
        ∃ result s, Instance.rowsOf (.query sql args) (i, link.engine.disk) =
            (.ok result.rows, s) ∧ result.budget = i.pageSize.toNat ∧ Serving link' result ∧
          c = Cursor.create sql recentPages (result.page 0)) ∧
      ∀ (link : Link World) (result : StoredResult) (sql : String) (recentPages : Nat)
        (turns : List Turn), Serving link result → result.rows.length < 2 ^ 63 →
        result.FitsWire → (∀ turn ∈ turns, turn.Spares result.sequence) →
          let c := Cursor.create sql recentPages (result.page 0)
          let p := PlainCursor.create result.rows
          c.sight none :: c.sights link turns = p.sight none :: p.sights turns := by
  constructor
  · intro link link' i sql args recentPages c hreaches hopen
    obtain ⟨rows, s, i', hrows, rfl, hresults, hreaches'⟩ := openQuery_eq_ok hreaches hopen
    exact ⟨⟨i.results.next, rows, i.pageSize.toNat⟩, s, hrows, rfl,
      ⟨i', hreaches', by rw [hresults]; rfl⟩, rfl⟩
  · intro link result sql recentPages turns hserving hcount hfits hspares
    have hfollows := follows_create hcount sql recentPages
    simp only [hfollows.sight_eq, sights_eq_plain hfollows hserving hcount hfits hspares]

theorem fitsWire_two_rows : StoredResult.FitsWire ⟨1, [[.integer 1], [.integer 2]], 1⟩ := by
  intro start hlow hhigh
  have hstart : start.toInt = (0 : Int64).toInt ∨ start.toInt = (1 : Int64).toInt := by
    simp only [List.length_cons, List.length_nil] at hhigh
    have hzero : (0 : Int64).toInt = 0 := rfl
    have hone : (1 : Int64).toInt = 1 := rfl
    omega
  rcases hstart with hstart | hstart <;> rw [Int64.toInt_inj] at hstart <;> subst hstart <;>
    exact ⟨_, encode_eq_ok_iff.mpr ⟨by decide, rfl⟩⟩

/-- Two rows of a query, each on a page of its own. -/
theorem two_rows_seen_page_by_page :
    ∃ c link', Cursor.openQuery "values (1), (2)" [] 1 inMemory = (.ok c, link') ∧
      (c.sights link' [.move .next, .aside (.setPageSize 64), .move .next, .move .previous,
        .move (.byRows 9)]).map (fun sight => (sight.answer, sight.position, sight.value? 0)) =
        [(some (.ok true), 0, some (.integer 1)), (none, 0, some (.integer 1)),
          (some (.ok true), 1, some (.integer 2)), (some (.ok true), 0, some (.integer 1)),
          (some (.ok false), 2, none)] := by
  have hrows : (Instance.rowsOf (.query "values (1), (2)" [])
      (memoryInstance, inMemory.engine.disk)).1.toOption = some [[.integer 1], [.integer 2]] := by
    decide +kernel
  have hcursor : (Cursor.openQuery "values (1), (2)" [] 1 inMemory).1.toOption =
      some (Cursor.create "values (1), (2)" 1 ⟨1, 0, 2, [[.integer 1]]⟩) := by decide +kernel
  rcases hopen : Cursor.openQuery "values (1), (2)" [] 1 inMemory with ⟨_ | c, link'⟩
  · rw [hopen] at hcursor
    cases hcursor
  · rw [hopen] at hcursor
    cases hcursor
    obtain ⟨⟨sequence, rows, budget⟩, s, hfound, hbudget, hserving, hcreate⟩ :=
      paging_is_invisible.1 inMemory link' memoryInstance _ [] 1 _ reaches_inMemory hopen
    rw [hfound] at hrows
    cases hrows
    have hsequence : 1 = sequence := congrArg Cursor.sequence hcreate
    subst hsequence
    cases hbudget
    have hview := paging_is_invisible.2 link' _ "values (1), (2)" 1 [.move .next,
      .aside (.setPageSize 64), .move .next, .move .previous, .move (.byRows 9)] hserving
      (by decide) fitsWire_two_rows (by simp [Turn.Spares, Aside.Spares])
    simp only [List.cons.injEq] at hview
    refine ⟨_, link', rfl, ?_⟩
    rw [hcreate, hview.2]
    rfl

/-- A link to an instance that has a result stored. -/
def holding (result : StoredResult) : Link World :=
  ⟨Handle.create 1, ⟨[(1, { Instance.create [] with results := ⟨some result, 2⟩ })], 2, []⟩⟩

theorem serving_holding (result : StoredResult) : Serving (holding result) result :=
  ⟨_, ⟨by simp [holding, Handle.create], rfl, rfl⟩, rfl⟩

/-- A result of two rows on a page each, the second one with the given bytes. -/
def withBlob (bytes : Bytes) : StoredResult := ⟨1, [[.null], [.blob bytes]], 1⟩

/-- The cursor over such a result with the first page. -/
def firstOfTwo (position : Int) : Cursor :=
  ⟨"", 1, 2, position, ⟨1, 0, 2, [[.null]]⟩, none, none, 0, false⟩

section Oversized

variable {bytes : Bytes} (hlarge : maxMessageSize ≤ bytes.length)

include hlarge

/-- A page with too many bytes does not fit the wire. -/
theorem withBlob_not_encoded : ¬ ∃ written, encode ((withBlob bytes).page 1) = .ok written := by
  rintro ⟨written, hencode⟩
  have hrows : ((withBlob bytes).page 1).rows = [[.blob bytes]] := rfl
  obtain ⟨fault, hfault⟩ := encode_blobPage hrows hlarge
  rw [hencode] at hfault
  cases hfault

/-- So it is not answered. -/
theorem withBlob_nextPage :
    ∃ fault link', Link.nextPage 1 1 (holding (withBlob bytes)) = (.error fault, link') := by
  obtain ⟨i, hreaches, hcurrent⟩ := serving_holding (withBlob bytes)
  rcases hnext : Link.nextPage 1 1 (holding (withBlob bytes)) with ⟨fault | page, link'⟩
  · exact ⟨fault, link', rfl⟩
  · obtain ⟨hpage, hencode, -⟩ := (nextPage_eq_ok_iff hreaches).mp hnext
    simp only [ResultStore.page?, hcurrent, Option.map_some, Option.some.injEq] at hpage
    exact absurd (hpage ▸ hencode) (withBlob_not_encoded hlarge)

/-- The cursor comes to the first row and no further. -/
theorem withBlob_moves :
    ∃ fault, ((Cursor.create "" 0 ((withBlob bytes).page 0)).sights (holding (withBlob bytes))
      [.move .next, .move .next]).map Sight.answer = [some (.ok true), some (.error fault)] := by
  obtain ⟨fault, link', hnext⟩ := withBlob_nextPage hlarge
  have hcreate : Cursor.create "" 0 ((withBlob bytes).page 0) = firstOfTwo (-1) := by
    have hpositive : 0 < bytes.length := Nat.lt_of_lt_of_le (by decide) hlarge
    simp [Cursor.create, RecentPages.create, firstOfTwo, StoredResult.page, withBlob, Page.slice,
      Page.takeWithin, Row.size, Value.size, hpositive]
  have hfirst : Cursor.moveTo 0 (firstOfTwo (-1)) (holding (withBlob bytes)) =
      ((.ok true, firstOfTwo 0), holding (withBlob bytes)) := by
    rw [Cursor.moveTo_apply]
    rfl
  have hload : Cursor.load 1 (firstOfTwo 0) (holding (withBlob bytes)) =
      ((.error fault, firstOfTwo 0), link') := by
    have hrecent : (firstOfTwo 0).showRecent? 1 = none := rfl
    have hasked : Link.nextPage (firstOfTwo 0).sequence (Int64.ofInt 1) (holding (withBlob bytes)) =
        (.error fault, link') := hnext
    rw [Cursor.load_apply, hrecent, hasked]
  have hsecond : Cursor.moveTo 1 (firstOfTwo 0) (holding (withBlob bytes)) =
      ((.error fault, firstOfTwo 0), link') := by
    rw [Cursor.moveTo_apply, hload]
    rfl
  have hnextOfNone : (firstOfTwo (-1)).shifted 1 = 0 := by decide
  have hnextOfFirst : (firstOfTwo 0).shifted 1 = 1 := by decide
  refine ⟨fault, ?_⟩
  simp only [hcreate, Cursor.sights, Move.run_apply, Move.target, hnextOfNone, hnextOfFirst, hfirst,
    hsecond, Cursor.sight, List.map_cons, List.map_nil]

end Oversized

/-- A page too large for the wire stops the cursor, though not the plain one. -/
theorem oversized_page_stops_cursor :
    ∃ result : StoredResult, Serving (holding result) result ∧
      (∃ fault, ((Cursor.create "" 0 (result.page 0)).sights (holding result)
        [.move .next, .move .next]).map Sight.answer = [some (.ok true), some (.error fault)]) ∧
      ((PlainCursor.create result.rows).sights [.move .next, .move .next]).map Sight.answer =
        [some (.ok true), some (.ok true)] := by
  have hlarge : maxMessageSize ≤ (List.replicate maxMessageSize (0 : UInt8)).length :=
    Nat.le_of_eq List.length_replicate.symm
  generalize List.replicate maxMessageSize (0 : UInt8) = bytes at hlarge
  exact ⟨withBlob bytes, serving_holding _, withBlob_moves hlarge, rfl⟩

end EngineLink
