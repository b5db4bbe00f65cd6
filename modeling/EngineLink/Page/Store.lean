import EngineLink.Page.Slice

/-!
# Stored results

An engine keeps the rows of the latest paged query and hands them out page by page.
Storing a result takes the next sequence number, which is on every page of it, and
drops the result before it.
-/

namespace EngineLink

/-- The rows of a paged query with its sequence number and the budget of its pages. -/
structure StoredResult where
  sequence : Int32
  rows : List Row
  budget : Nat
  deriving DecidableEq

namespace StoredResult

/-- The page that begins at a row.  A start outside the result is kept on the page;
its rows are those from the nearest end of the result on. -/
def page (result : StoredResult) (start : Int64) : Page :=
  { sequence := result.sequence
    start := start
    total := Int64.ofNat result.rows.length
    rows := Page.slice result.budget (result.rows.drop start.toInt.toNat) }

end StoredResult

/-- At most one stored result, and the sequence number of the next one. -/
structure ResultStore where
  current : Option StoredResult
  next : Int32
  deriving DecidableEq

namespace ResultStore

/-- No result yet. -/
def empty : ResultStore := ⟨none, 1⟩

/-- The sequence number after another one: after the greatest comes one. -/
def successor (n : Int32) : Int32 := max (n + 1) 1

/-- Keep the rows of a query in place of those kept before, and answer its first page. -/
def store (s : ResultStore) (rows : List Row) (budget : Nat) : Page × ResultStore :=
  let result : StoredResult := ⟨s.next, rows, budget⟩
  (result.page 0, ⟨some result, successor s.next⟩)

/-- The page of the kept result that begins at a row. -/
def page? (s : ResultStore) (start : Int64) : Option Page := s.current.map (·.page start)

/-- Drop the kept result if it has the given sequence number. -/
def flush (s : ResultStore) (sequence : Int32) : ResultStore :=
  { s with current := s.current.filter (·.sequence ≠ sequence) }

/-- Drop the kept result. -/
def clear (s : ResultStore) : ResultStore := { s with current := none }

/-- Dropping the result of another query leaves the kept one in place. -/
theorem current_flush {s : ResultStore} {sequence : Int32}
    (hother : ∀ result, s.current = some result → result.sequence ≠ sequence) :
    (s.flush sequence).current = s.current := by
  cases hcurrent : s.current with
  | none => simp [flush, hcurrent]
  | some result => simp [flush, hcurrent, Option.filter, hother result hcurrent]

/-- Dropping the kept result leaves none. -/
theorem current_flush_self {s : ResultStore} {result : StoredResult}
    (hcurrent : s.current = some result) : (s.flush result.sequence).current = none := by
  simp [flush, hcurrent, Option.filter]

end ResultStore
end EngineLink
