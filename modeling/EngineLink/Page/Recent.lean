import EngineLink.Message.Basic

/-!
# Recent pages

The pages a cursor left last, most recent first.  No two of them begin at the same
row, and when there are more than the capacity the page left first goes.
-/

namespace EngineLink

/-- The pages left last and how many may be kept. -/
structure RecentPages where
  capacity : Nat
  pages : List Page
  deriving DecidableEq

namespace RecentPages

/-- No pages yet.  Without capacity nothing is kept at all. -/
def create (capacity : Nat) : Option RecentPages :=
  if capacity = 0 then none else some ⟨capacity, []⟩

/-- Keep a page, unless it has no rows. -/
def insert (r : RecentPages) (page : Page) : RecentPages :=
  if page.rows = [] then r
  else { r with pages := (page :: r.pages.filter (·.start ≠ page.start)).take r.capacity }

/-- The most recent page with a row on it. -/
def find? (r : RecentPages) (position : Int) : Option Page :=
  r.pages.find? fun page => page.contains position

/-- Take out the most recent page with a row on it. -/
def take (r : RecentPages) (position : Int) : Option Page × RecentPages :=
  (r.find? position, { r with pages := r.pages.eraseP fun page => page.contains position })

/-- Drop all pages. -/
def clear (r : RecentPages) : RecentPages := { r with pages := [] }

end RecentPages
end EngineLink
