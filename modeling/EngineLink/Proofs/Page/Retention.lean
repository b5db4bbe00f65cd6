import EngineLink.Page.Recent
import Mathlib.Data.Finset.Card

/-!
# What recent pages retain

Recent pages are used in any order: a page is inserted, the page of a row is taken out, or all are
dropped.  Pages are told apart by where they begin, but they are looked for by what they contain,
and pages may overlap.  What is held is explained here by the history of uses alone.  Held pages
stand in the order of their last insertions, and a page only moves back when a page that begins
elsewhere is inserted; so it is there as long as fewer other beginnings than the capacity came after
it.

Main results:

- Theorem {lit}`take_cases`: what taking out a page does.
- Theorem {lit}`Reflects.step` and {lit}`reflects_after`: what every use, and so every history,
  preserves.
- Theorem {lit}`StillHeld.step` and {lit}`stillHeld_or_gone`: where an inserted page stands.
- Theorem {lit}`recent_pages_are_retained`: what is held and what is taken out after any history.
-/

namespace EngineLink
namespace RecentPages

/-! ## Histories -/

/-- A use of recent pages. -/
inductive Use where
  | insert (page : Page)
  | take (position : Int)
  | clear
  deriving DecidableEq

/-- The recent pages after a use. -/
def use (r : RecentPages) : Use → RecentPages
  | .insert page => r.insert page
  | .take position => (r.take position).2
  | .clear => r.clear

/-- The recent pages after some uses. -/
def after (r : RecentPages) (uses : List Use) : RecentPages := uses.foldl use r

@[simp]
theorem after_nil (r : RecentPages) : r.after [] = r := rfl

@[simp]
theorem after_concat (r : RecentPages) (uses : List Use) (last : Use) :
    r.after (uses ++ [last]) = (r.after uses).use last := by
  rw [after, List.foldl_append]
  rfl

theorem after_append (r : RecentPages) (before later : List Use) :
    r.after (before ++ later) = (r.after before).after later :=
  List.foldl_append

/-- The last insertion of a page came after that of another. -/
def InsertedAfter (uses : List Use) (page other : Page) : Prop :=
  ∃ before later, uses = before ++ .insert page :: later ∧ .insert other ∉ later

/-- Where the pages begin that were inserted and have rows. -/
def starts (uses : List Use) : List Int64 :=
  uses.filterMap fun
    | .insert page => if page.rows = [] then none else some page.start
    | _ => none

/-! ## Single uses -/

theorem insert_of_empty {r : RecentPages} {page : Page} (hempty : page.rows = []) :
    r.insert page = r := by
  rw [insert, if_pos hempty]

theorem insert_of_rows {r : RecentPages} {page : Page} (hrows : page.rows ≠ []) :
    r.insert page =
      { r with pages := (page :: r.pages.filter (·.start ≠ page.start)).take r.capacity } := by
  rw [insert, if_neg hrows]

/-- What taking out a page does: nothing if no page contains the row, and otherwise the first one
that does is missing afterwards. -/
theorem take_cases (r : RecentPages) (position : Int) :
    ((∀ page ∈ r.pages, ¬ page.contains position = true) ∧ r.take position = (none, r)) ∨
    ∃ front page back, r.pages = front ++ page :: back ∧ page.contains position = true ∧
      (∀ other ∈ front, ¬ other.contains position = true) ∧
      r.take position = (some page, { r with pages := front ++ back }) := by
  cases hfind : r.find? position with
  | none =>
    left
    have hnone : ∀ page ∈ r.pages, ¬ page.contains position = true := List.find?_eq_none.mp hfind
    refine ⟨hnone, ?_⟩
    rw [take, hfind, List.eraseP_of_forall_not hnone]
  | some page =>
    right
    obtain ⟨hcontains, front, back, hpages, hfront⟩ := List.find?_eq_some_iff_append.mp hfind
    have hfront' : ∀ other ∈ front, ¬ other.contains position = true := by
      intro other hother
      simpa using hfront other hother
    refine ⟨front, page, back, hpages, hcontains, hfront', ?_⟩
    rw [take, hfind, hpages, List.eraseP_append_right _ hfront', List.eraseP_cons, hcontains]
    rfl

/-! ## The order of insertions -/

/-- A later use that does not insert the other page leaves the order as it is. -/
theorem InsertedAfter.concat {uses : List Use} {page other : Page} {last : Use}
    (hafter : InsertedAfter uses page other) (hlast : last ≠ .insert other) :
    InsertedAfter (uses ++ [last]) page other := by
  obtain ⟨before, later, rfl, hother⟩ := hafter
  refine ⟨before, later ++ [last], by simp, ?_⟩
  rw [List.mem_append, List.mem_singleton]
  rintro (hmem | heq)
  · exact hother hmem
  · exact hlast heq.symm

theorem insertedAfter_last (uses : List Use) (page other : Page) :
    InsertedAfter (uses ++ [.insert page]) page other :=
  ⟨uses, [], rfl, List.not_mem_nil⟩

/-- Recent pages as a history of uses leaves them: no more than the capacity, none without rows, no
two that begin at the same row, and the one inserted last in front. -/
structure Reflects (capacity : Nat) (uses : List Use) (r : RecentPages) : Prop where
  capacity_eq : r.capacity = capacity
  length_le : r.pages.length ≤ capacity
  rows_ne : ∀ page ∈ r.pages, page.rows ≠ []
  distinct : (r.pages.map Page.start).Nodup
  recency : r.pages.Pairwise (InsertedAfter uses)

/-- Pages that go leave the others as the history has them, if the last use inserts none of
them. -/
theorem Reflects.sublist {capacity : Nat} {uses : List Use} {r : RecentPages} {pages : List Page}
    (hreflects : Reflects capacity uses r) (hpages : pages.Sublist r.pages) (last : Use)
    (hlast : ∀ page ∈ pages, last ≠ .insert page) :
    Reflects capacity (uses ++ [last]) { r with pages } where
  capacity_eq := hreflects.capacity_eq
  length_le := Nat.le_trans hpages.length_le hreflects.length_le
  rows_ne := fun page hpage => hreflects.rows_ne page (hpages.subset hpage)
  distinct := hreflects.distinct.sublist (hpages.map Page.start)
  recency := by
    refine (hreflects.recency.sublist hpages).imp_of_mem ?_
    intro page other _ hother hafter
    exact hafter.concat (hlast other hother)

/-- A page takes the place of the one that begins where it does. -/
theorem nodup_starts_cons_filter {pages : List Page} (hdistinct : (pages.map Page.start).Nodup)
    (page : Page) :
    ((page :: pages.filter (·.start ≠ page.start)).map Page.start).Nodup := by
  rw [List.map_cons, List.nodup_cons]
  refine ⟨?_, hdistinct.sublist (List.filter_sublist.map Page.start)⟩
  rw [List.mem_map]
  rintro ⟨other, hother, hsame⟩
  exact absurd hsame (of_decide_eq_true (List.mem_filter.mp hother).2)

theorem Reflects.insert {capacity : Nat} {uses : List Use} {r : RecentPages} {page : Page}
    (hreflects : Reflects capacity uses r) :
    Reflects capacity (uses ++ [.insert page]) (r.insert page) := by
  by_cases hrows : page.rows = []
  · -- Pages that are held have rows, so none of them was inserted now.
    rw [insert_of_empty hrows]
    refine hreflects.sublist (List.Sublist.refl _) _ ?_
    rintro other hother ⟨⟩
    exact hreflects.rows_ne _ hother hrows
  · rw [insert_of_rows hrows]
    have hfilter : (r.pages.filter (·.start ≠ page.start)).Sublist r.pages := List.filter_sublist
    have hothers := hreflects.sublist hfilter (.insert page) (by
      rintro other hother ⟨⟩
      exact absurd rfl (of_decide_eq_true (List.mem_filter.mp hother).2))
    have hkept := List.take_sublist r.capacity (page :: r.pages.filter (·.start ≠ page.start))
    constructor
    · exact hreflects.capacity_eq
    · rw [hreflects.capacity_eq, List.length_take]
      exact Nat.min_le_left _ _
    · intro kept hmem
      rcases List.mem_cons.mp (hkept.subset hmem) with rfl | hother
      · exact hrows
      · exact hothers.rows_ne kept hother
    · exact (nodup_starts_cons_filter hreflects.distinct page).sublist (hkept.map Page.start)
    · refine List.Pairwise.sublist hkept ?_
      rw [List.pairwise_cons]
      exact ⟨fun other _ => insertedAfter_last uses page other, hothers.recency⟩

/-- What one use preserves. -/
theorem Reflects.step {capacity : Nat} {uses : List Use} {r : RecentPages}
    (hreflects : Reflects capacity uses r) (last : Use) :
    Reflects capacity (uses ++ [last]) (r.use last) := by
  cases last with
  | insert page => exact hreflects.insert
  | take position =>
    rcases r.take_cases position with ⟨-, htake⟩ | ⟨front, page, back, hpages, -, -, htake⟩
    · rw [use, htake]
      exact hreflects.sublist (List.Sublist.refl _) _ fun _ _ => Use.noConfusion
    · rw [use, htake]
      refine hreflects.sublist ?_ _ fun _ _ => Use.noConfusion
      rw [hpages]
      exact (List.Sublist.refl front).append (List.sublist_cons_self page back)
  | clear => exact hreflects.sublist (List.nil_sublist _) _ fun _ _ => Use.noConfusion

/-- What every history preserves. -/
theorem Reflects.after {capacity : Nat} {uses : List Use} {r : RecentPages}
    (hreflects : Reflects capacity uses r) (later : List Use) :
    Reflects capacity (uses ++ later) (r.after later) := by
  induction later using List.reverseRecOn with
  | nil =>
    rw [List.append_nil, after_nil]
    exact hreflects
  | append_singleton later last ih =>
    rw [after_concat, ← List.append_assoc]
    exact ih.step last

theorem reflects_empty (capacity : Nat) : Reflects capacity [] ⟨capacity, []⟩ where
  capacity_eq := rfl
  length_le := Nat.zero_le capacity
  rows_ne := by simp
  distinct := List.nodup_nil
  recency := List.Pairwise.nil

/-! ## The place of a page -/

/-- Where other pages begin than the given one that were inserted and have rows. -/
def others (page : Page) (uses : List Use) : Finset Int64 :=
  (starts uses).toFinset.erase page.start

theorem mem_others {page : Page} {uses : List Use} {start : Int64} :
    start ∈ others page uses ↔ start ≠ page.start ∧ start ∈ starts uses := by
  rw [others, Finset.mem_erase, List.mem_toFinset]

theorem starts_concat (uses : List Use) (last : Use) :
    starts (uses ++ [last]) = starts uses ++ starts [last] :=
  List.filterMap_append

theorem starts_insert {page : Page} (hrows : page.rows ≠ []) :
    starts [.insert page] = [page.start] := by
  simp [starts, hrows]

theorem others_subset_concat (page : Page) (uses : List Use) (last : Use) :
    others page uses ⊆ others page (uses ++ [last]) := by
  intro start hstart
  rw [mem_others] at hstart ⊢
  rw [starts_concat, List.mem_append]
  exact ⟨hstart.1, .inl hstart.2⟩

/-- A page is held, and every page in front of it begins where one was inserted since. -/
def StillHeld (page : Page) (since : List Use) (r : RecentPages) : Prop :=
  ∃ front back, r.pages = front ++ page :: back ∧
    ∀ other ∈ front, other.start ∈ others page since

section Place

variable {capacity : Nat} {uses since : List Use} {r : RecentPages} {page : Page}

theorem StillHeld.mem (hheld : StillHeld page since r) : page ∈ r.pages := by
  obtain ⟨front, back, hpages, -⟩ := hheld
  rw [hpages]
  exact List.mem_append_right front List.mem_cons_self

theorem StillHeld.concat (hheld : StillHeld page since r) (last : Use) :
    StillHeld page (since ++ [last]) r := by
  obtain ⟨front, back, hpages, hfront⟩ := hheld
  refine ⟨front, back, hpages, ?_⟩
  intro other hother
  exact others_subset_concat page since last (hfront other hother)

/-- A page that begins elsewhere comes in front, and the page stays if there is room for all
beginnings that came since. -/
theorem StillHeld.insert {other : Page} (hheld : StillHeld page since r)
    (hreflects : Reflects capacity uses r) (hrows : other.rows ≠ [])
    (hstart : other.start ≠ page.start)
    (hroom : (others page (since ++ [.insert other])).card < capacity) :
    StillHeld page (since ++ [.insert other]) (r.insert other) := by
  obtain ⟨front, back, hpages, hfront⟩ := hheld
  have hnew : ∀ q ∈ other :: front.filter (·.start ≠ other.start),
      q.start ∈ others page (since ++ [.insert other]) := by
    intro q hq
    rcases List.mem_cons.mp hq with rfl | hq
    · rw [mem_others, starts_concat, starts_insert hrows, List.mem_append, List.mem_singleton]
      exact ⟨hstart, .inr rfl⟩
    · exact others_subset_concat page since _ (hfront q (List.mem_of_mem_filter hq))
  -- The pages in front begin at different rows, so they are no more than those beginnings.
  have hdistinct : ((other :: front.filter (·.start ≠ other.start)).map Page.start).Nodup := by
    refine nodup_starts_cons_filter (hreflects.distinct.sublist (List.Sublist.map Page.start ?_)) _
    rw [hpages]
    exact List.sublist_append_left front (page :: back)
  have hlength : (other :: front.filter (·.start ≠ other.start)).length < capacity := by
    have hsubset : ((other :: front.filter (·.start ≠ other.start)).map Page.start).toFinset ⊆
        others page (since ++ [.insert other]) := by
      intro start hmem
      rw [List.mem_toFinset, List.mem_map] at hmem
      obtain ⟨q, hq, rfl⟩ := hmem
      exact hnew q hq
    have hcard := Finset.card_le_card hsubset
    rw [List.toFinset_card_of_nodup hdistinct, List.length_map] at hcard
    exact Nat.lt_of_le_of_lt hcard hroom
  have hkept : (other :: r.pages.filter (·.start ≠ other.start)) =
      (other :: front.filter (·.start ≠ other.start)) ++
        page :: back.filter (·.start ≠ other.start) := by
    rw [hpages, List.filter_append, List.filter_cons, if_pos (decide_eq_true hstart.symm),
      List.cons_append]
  obtain ⟨room, hcapacity⟩ : ∃ room,
      capacity - (other :: front.filter (·.start ≠ other.start)).length = room + 1 :=
    Nat.exists_eq_add_one.mpr (Nat.sub_pos_of_lt hlength)
  refine ⟨other :: front.filter (·.start ≠ other.start),
    (back.filter (·.start ≠ other.start)).take room, ?_, hnew⟩
  rw [insert_of_rows hrows, hkept, hreflects.capacity_eq, List.take_append,
    List.take_of_length_le (Nat.le_of_lt hlength), hcapacity, List.take_succ_cons]

/-- Taking out a page leaves any other one in its place, or nearer to the front. -/
theorem StillHeld.take {position : Int} (hheld : StillHeld page since r)
    (hother : (r.take position).1 ≠ some page) :
    StillHeld page (since ++ [.take position]) (r.take position).2 := by
  refine StillHeld.concat ?_ _
  rcases r.take_cases position with ⟨-, htake⟩ |
    ⟨front', found, back', hpages', hcontains, hfront', htake⟩
  · rw [htake]
    exact hheld
  · obtain ⟨front, back, hpages, hfront⟩ := hheld
    rw [htake] at hother ⊢
    have hne : found ≠ page := fun h => hother (congrArg some h)
    rw [hpages, List.append_eq_append_iff] at hpages'
    -- The page taken out stands behind the page, or in front of it.
    rcases hpages' with ⟨between, hfront', hback⟩ | ⟨between, hfront', hback⟩
    · rcases List.cons_eq_append_iff.mp hback with ⟨-, hfound⟩ | ⟨between', rfl, -⟩
      · exact absurd (List.cons.inj hfound).1 hne
      · refine ⟨front, between' ++ back', ?_, hfront⟩
        rw [hfront', List.append_assoc, List.cons_append]
    · rcases List.cons_eq_append_iff.mp hback with ⟨-, hfound⟩ | ⟨between', rfl, hback'⟩
      · exact absurd (List.cons.inj hfound).1.symm hne
      · refine ⟨front' ++ between', back, ?_, ?_⟩
        · rw [hback', List.append_assoc]
        · intro other hmem
          refine hfront other ?_
          rw [hfront']
          exact ((List.Sublist.refl front').append (List.sublist_cons_self found between')).subset
            hmem

end Place

/-- Why a page that was inserted may be held no more: it was taken out, all pages were dropped, a
page came in its place, or pages that begin at as many other rows as there is room for. -/
inductive Gone (capacity : Nat) (inserted : RecentPages) (page : Page) (later : List Use) : Prop
  | taken (mid rest : List Use) (position : Int) (hlater : later = mid ++ .take position :: rest)
    (htaken : ((inserted.after mid).take position).1 = some page)
  | cleared (hclear : .clear ∈ later)
  | replaced (other : Page) (hother : .insert other ∈ later) (hrows : other.rows ≠ [])
    (hstart : other.start = page.start)
  | crowded (hcrowd : capacity ≤ (others page later).card)

theorem Gone.concat {capacity : Nat} {inserted : RecentPages} {page : Page} {later : List Use}
    (hgone : Gone capacity inserted page later) (last : Use) :
    Gone capacity inserted page (later ++ [last]) := by
  cases hgone with
  | taken mid rest position hlater htaken =>
    refine .taken mid (rest ++ [last]) position ?_ htaken
    rw [hlater, List.append_assoc, List.cons_append]
  | cleared hclear => exact .cleared (List.mem_append_left _ hclear)
  | replaced other hother hrows hstart =>
    exact .replaced other (List.mem_append_left _ hother) hrows hstart
  | crowded hcrowd =>
    exact .crowded (hcrowd.trans (Finset.card_le_card (others_subset_concat page later last)))

section Run

variable {capacity : Nat} {uses later : List Use} {inserted : RecentPages} {page : Page}

/-- What one use does to a page that is still held. -/
theorem StillHeld.step (hheld : StillHeld page later (inserted.after later))
    (hreflects : Reflects capacity uses (inserted.after later)) (last : Use) :
    StillHeld page (later ++ [last]) ((inserted.after later).use last) ∨
      Gone capacity inserted page (later ++ [last]) := by
  have hlast : last ∈ later ++ [last] := List.mem_append_right later (List.mem_singleton_self last)
  cases last with
  | insert other =>
    by_cases hrows : other.rows = []
    · left
      rw [use, insert_of_empty hrows]
      exact hheld.concat _
    by_cases hstart : other.start = page.start
    · exact .inr (.replaced other hlast hrows hstart)
    by_cases hroom : (others page (later ++ [.insert other])).card < capacity
    · exact .inl (hheld.insert hreflects hrows hstart hroom)
    · exact .inr (.crowded (Nat.not_lt.mp hroom))
  | take position =>
    by_cases htaken : ((inserted.after later).take position).1 = some page
    · exact .inr (.taken later [] position rfl htaken)
    · exact .inl (hheld.take htaken)
  | clear => exact .inr (.cleared hlast)

/-- A page that was inserted is still held, or it is gone for one of the reasons. -/
theorem stillHeld_or_gone (hinserted : StillHeld page [] inserted)
    (hreflects : Reflects capacity uses inserted) (later : List Use) :
    StillHeld page later (inserted.after later) ∨ Gone capacity inserted page later := by
  induction later using List.reverseRecOn with
  | nil => exact .inl hinserted
  | append_singleton later last ih =>
    rw [after_concat]
    rcases ih with hheld | hgone
    · exact hheld.step (hreflects.after later) last
    · exact .inr (hgone.concat last)

/-- A page with rows is held in front right after it was inserted. -/
theorem stillHeld_insert {r : RecentPages} (hcapacity : 0 < r.capacity) (hrows : page.rows ≠ []) :
    StillHeld page [] (r.insert page) := by
  obtain ⟨room, hroom⟩ := Nat.exists_eq_add_one.mpr hcapacity
  refine ⟨[], (r.pages.filter (·.start ≠ page.start)).take room, ?_, by simp⟩
  rw [insert_of_rows hrows, hroom, List.take_succ_cons, List.nil_append]

end Run

/-! ## What is taken out -/

/-- What taking out the page of a row does after a history of uses: a page is answered exactly if
one that is held contains the row; it is the one inserted last of those that do, and it alone is
missing afterwards. -/
structure TakesLatest (uses : List Use) (r : RecentPages) (position : Int) : Prop where
  isSome_iff : (r.take position).1.isSome = true ↔ ∃ page ∈ r.pages, page.contains position = true
  latest : ∀ page, (r.take position).1 = some page →
    page ∈ r.pages ∧ page.contains position = true ∧
      ∀ other ∈ r.pages, other.contains position = true → other ≠ page →
        InsertedAfter uses page other
  removed : ∀ page, (r.take position).1 = some page →
    ∀ other, other ∈ (r.take position).2.pages ↔ other ∈ r.pages ∧ other ≠ page
  missed : (r.take position).1 = none → (r.take position).2 = r

theorem Reflects.takesLatest {capacity : Nat} {uses : List Use} {r : RecentPages}
    (hreflects : Reflects capacity uses r) (position : Int) : TakesLatest uses r position := by
  rcases r.take_cases position with ⟨hnone, htake⟩ |
    ⟨front, page, back, hpages, hcontains, hfront, htake⟩
  · constructor
    · rw [htake]
      simpa using hnone
    · intro page hpage
      rw [htake] at hpage
      cases hpage
    · intro page hpage
      rw [htake] at hpage
      cases hpage
    · rw [htake]
      exact fun _ => rfl
  · have hmem : page ∈ r.pages := by
      rw [hpages]
      exact List.mem_append_right front List.mem_cons_self
    have hrecency := hreflects.recency
    have hdistinct : (r.pages).Nodup := hreflects.distinct.of_map _
    rw [hpages] at hrecency hdistinct
    have hback : ∀ other ∈ back, InsertedAfter uses page other :=
      (List.pairwise_cons.mp (List.pairwise_append.mp hrecency).2.1).1
    constructor
    · rw [htake]
      exact ⟨fun _ => ⟨page, hmem, hcontains⟩, fun _ => rfl⟩
    · intro found hfound
      rw [htake] at hfound
      cases hfound
      refine ⟨hmem, hcontains, ?_⟩
      intro other hother hrow hne
      rw [hpages, List.mem_append, List.mem_cons] at hother
      rcases hother with hother | rfl | hother
      · exact absurd hrow (hfront other hother)
      · exact absurd rfl hne
      · exact hback other hother
    · intro found hfound other
      rw [htake] at hfound ⊢
      cases hfound
      have hnot : page ∉ front ++ back :=
        (List.nodup_cons.mp (List.nodup_middle.mp hdistinct)).1
      rw [hpages, List.mem_append, List.mem_append, List.mem_cons]
      constructor
      · intro hother
        have hne : other ≠ page := by
          rintro rfl
          exact hnot (List.mem_append.mpr hother)
        exact ⟨hother.imp_right .inr, hne⟩
      · rintro ⟨hother | rfl | hother, hne⟩
        · exact .inl hother
        · exact absurd rfl hne
        · exact .inr hother
    · intro hnone
      rw [htake] at hnone
      cases hnone

/-- Recent pages after any history of uses, with room for at least one.  No more are held than
there is room for, none without rows, and no two that begin at the same row.  Taking out the page of
a row answers the one inserted last of the held pages that contain it.  A page with rows that was
inserted is held until it is taken out, dropped or replaced, or pages that begin at as many other
rows as there is room for were inserted since. -/
theorem recent_pages_are_retained {capacity : Nat} (hcapacity : 1 ≤ capacity) :
    ∃ r, create capacity = some r ∧ ∀ uses : List Use,
      (r.after uses).pages.length ≤ capacity ∧
      (∀ page ∈ (r.after uses).pages, page.rows ≠ []) ∧
      ((r.after uses).pages.map Page.start).Nodup ∧
      (∀ position, TakesLatest uses (r.after uses) position) ∧
      ∀ before page later, uses = before ++ .insert page :: later → page.rows ≠ [] →
        page ∈ (r.after uses).pages ∨
          Gone capacity (r.after (before ++ [.insert page])) page later := by
  refine ⟨⟨capacity, []⟩, if_neg (Nat.ne_of_gt hcapacity), ?_⟩
  intro uses
  have hreflects := (reflects_empty capacity).after uses
  rw [List.nil_append] at hreflects
  refine ⟨hreflects.length_le, hreflects.rows_ne, hreflects.distinct, hreflects.takesLatest, ?_⟩
  intro before page later huses hrows
  have hbefore := (reflects_empty capacity).after before
  have hinserted := hbefore.step (.insert page)
  rw [← after_concat] at hinserted
  have hheld :
      StillHeld page [] ((RecentPages.mk capacity []).after (before ++ [.insert page])) := by
    rw [after_concat]
    exact stillHeld_insert (by rw [hbefore.capacity_eq]; exact hcapacity) hrows
  have hsplit : uses = (before ++ [.insert page]) ++ later := by
    rw [huses, List.append_assoc, List.singleton_append]
  rw [hsplit, after_append]
  rcases stillHeld_or_gone hheld hinserted later with hstill | hgone
  · exact .inl hstill.mem
  · exact .inr hgone

/-- The first two of three rows. -/
def firstTwo : Page := ⟨1, 0, 3, [[.null], [.null]]⟩

/-- The last two of three rows. -/
def lastTwo : Page := ⟨1, 1, 3, [[.null], [.null]]⟩

/-- Of two pages with the middle row, the one inserted later is taken out, and the other one stays
with it until then. -/
theorem later_page_taken : 1 ≤ 2 ∧ ∃ r, create 2 = some r ∧
    ((r.after [.insert firstTwo, .insert lastTwo]).take 1).1 = some lastTwo ∧
    InsertedAfter [.insert firstTwo, .insert lastTwo] lastTwo firstTwo ∧
    firstTwo ∈ (r.after [.insert firstTwo, .insert lastTwo, .take 1]).pages := by
  obtain ⟨r, hcreate, hretained⟩ := recent_pages_are_retained (show 1 ≤ 2 by decide)
  obtain rfl : RecentPages.mk 2 [] = r := Option.some.inj hcreate
  obtain ⟨-, -, -, htakes, -⟩ := hretained [.insert firstTwo, .insert lastTwo]
  have htaken : (((RecentPages.mk 2 []).after [.insert firstTwo, .insert lastTwo]).take 1).1 =
      some lastTwo := by decide
  have hlatest := ((htakes 1).latest lastTwo htaken).2.2
  have hremoved := ((htakes 1).removed lastTwo htaken firstTwo).mpr (by decide)
  exact ⟨by decide, _, rfl, htaken, hlatest firstTwo (by decide) (by decide) (by decide), hremoved⟩

end RecentPages
end EngineLink
