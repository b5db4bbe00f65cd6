import EngineLink.Proofs.Page.Numbering

/-!
# Numbers given out by a result store

A result store gives out a sequence number with every result it keeps, whatever is dropped in
between.  Over any run the numbers are those that follow one another from the next one on, so they
stay positive beyond the greatest number, and none comes back until all others were given out.

Main results:

- Theorem {lit}`ResultStore.use_cases`: what a use does to the next number.
- Theorem {lit}`ResultStore.givenOut_eq` and {lit}`ResultStore.next_after`: which numbers a run
  gives out, and which one comes next.
- Theorem {lit}`ResultStore.numbers_do_not_repeat_early`: what is true of the numbers of any run.
-/

namespace EngineLink
namespace ResultStore

/-! ## Runs -/

/-- A use of a result store that may change it. -/
inductive Use where
  | store (rows : List Row) (budget : Nat)
  | flush (sequence : Int32)
  | clear

/-- Whether a use stores a result. -/
def Use.isStore : Use → Bool
  | .store _ _ => true
  | _ => false

/-- Use a store.  Only storing a result answers a page. -/
def use (s : ResultStore) : Use → Option Page × ResultStore
  | .store rows budget => (some (s.store rows budget).1, (s.store rows budget).2)
  | .flush sequence => (none, s.flush sequence)
  | .clear => (none, s.clear)

/-- The store after some uses. -/
def after (s : ResultStore) : List Use → ResultStore
  | [] => s
  | u :: uses => (s.use u).2.after uses

/-- The sequence numbers on the pages that some uses answer, in their order. -/
def givenOut (s : ResultStore) : List Use → List Int32
  | [] => []
  | u :: uses => ((s.use u).1.map Page.sequence).toList ++ (s.use u).2.givenOut uses

/-- The stores that come of any uses of an empty one. -/
inductive Reachable : ResultStore → Prop
  | empty : Reachable empty
  | use {s : ResultStore} (hs : Reachable s) (u : Use) : Reachable (s.use u).2

variable {s : ResultStore}

theorem Reachable.after (hs : s.Reachable) (uses : List Use) : (s.after uses).Reachable := by
  induction uses generalizing s with
  | nil => exact hs
  | cons u uses ih => exact ih (hs.use u)

/-! ## The numbers of a run -/

/-- A use that stores a result gives out the next number and moves on to its successor.  Any other
use gives out none and leaves the next number as it is. -/
theorem use_cases (s : ResultStore) (u : Use) :
    (u.isStore = true ∧ ((s.use u).1.map Page.sequence).toList = [s.next] ∧
      (s.use u).2.next = successor s.next) ∨
    (u.isStore = false ∧ ((s.use u).1.map Page.sequence).toList = [] ∧
      (s.use u).2.next = s.next) := by
  cases u with
  | store rows budget => exact .inl ⟨rfl, rfl, rfl⟩
  | flush sequence => exact .inr ⟨rfl, rfl, rfl⟩
  | clear => exact .inr ⟨rfl, rfl, rfl⟩

/-- A run gives out one number for each stored result, and the numbers follow one another from the
next one on. -/
theorem givenOut_eq (s : ResultStore) (uses : List Use) :
    s.givenOut uses = (List.range (uses.countP Use.isStore)).map (numberAfter s.next) := by
  induction uses generalizing s with
  | nil => rfl
  | cons u uses ih =>
    rw [givenOut, ih, List.countP_cons]
    rcases s.use_cases u with ⟨hstore, hgiven, hnext⟩ | ⟨hstore, hgiven, hnext⟩
    · rw [hgiven, hnext, hstore, if_pos rfl, List.singleton_append, List.range_succ_eq_map,
        List.map_cons, List.map_map]
      exact congrArg _ (List.map_congr_left fun k _ => (numberAfter_succ s.next k).symm)
    · rw [hgiven, hnext, hstore, if_neg Bool.false_ne_true, List.nil_append, Nat.add_zero]

theorem eq_numberAfter {uses : List Use} {i : Nat} {n : Int32}
    (hn : (s.givenOut uses)[i]? = some n) : n = numberAfter s.next i := by
  rw [givenOut_eq, List.getElem?_map] at hn
  obtain ⟨k, hk, rfl⟩ := Option.map_eq_some_iff.mp hn
  obtain ⟨hlt, rfl⟩ := List.getElem?_eq_some_iff.mp hk
  rw [List.getElem_range]

/-- After a run as many numbers further on come next as results were stored. -/
theorem next_after (s : ResultStore) (uses : List Use) :
    (s.after uses).next = numberAfter s.next (uses.countP Use.isStore) := by
  induction uses generalizing s with
  | nil => rfl
  | cons u uses ih =>
    rw [after, ih, List.countP_cons]
    rcases s.use_cases u with ⟨hstore, -, hnext⟩ | ⟨hstore, -, hnext⟩
    · rw [hnext, hstore, if_pos rfl, numberAfter_succ]
    · rw [hnext, hstore, if_neg Bool.false_ne_true, Nat.add_zero]

/-! ## Positive and distinct numbers -/

theorem one_le_numberAfter {n : Int32} (hn : 1 ≤ n.toInt) (k : Nat) :
    1 ≤ (numberAfter n k).toInt := by
  rw [toInt_numberAfter hn]
  omega

/-- The next number is positive. -/
theorem Reachable.one_le_next (hs : s.Reachable) : 1 ≤ s.next.toInt := by
  induction hs with
  | empty => decide
  | @use s hs u ih =>
    rcases s.use_cases u with ⟨-, -, hnext⟩ | ⟨-, -, hnext⟩
    · rw [hnext]
      exact one_le_numberAfter ih 1
    · rw [hnext]
      exact ih

/-- Numbers that are given out one after the other differ up to a whole round. -/
theorem nodup_of_infix {uses : List Use} {window : List Int32}
    (hwindow : window <:+: s.givenOut uses) (hlength : window.length ≤ 2 ^ 31 - 1) :
    window.Nodup := by
  obtain ⟨front, back, hall⟩ := hwindow
  -- Counted from the number that the window begins with, all its places are within one round, also
  -- where the window goes past the greatest number.
  have hnumber (i : Nat) (hi : i < window.length) :
      window[i] = numberAfter (numberAfter s.next front.length) i := by
    have hplace : (s.givenOut uses)[front.length + i]? = some window[i] := by
      rw [← hall, List.append_assoc, List.getElem?_append_right (Nat.le_add_right _ _),
        Nat.add_sub_cancel_left, List.getElem?_append_left hi, List.getElem?_eq_getElem hi]
    rw [eq_numberAfter hplace, numberAfter_add]
  rw [List.nodup_iff_pairwise_ne, List.pairwise_iff_getElem]
  intro i j hi hj hlt
  rw [hnumber i hi, hnumber j hj]
  exact numberAfter_ne _ (Nat.ne_of_lt hlt) (by omega) (by omega)

/-- Any uses of a result store, after any others.  One number is given out for each stored result,
and all of them are positive; so is the one that comes next, and one follows the greatest of them.
Up to a whole round, numbers that are given out one after the other are pairwise distinct. -/
theorem numbers_do_not_repeat_early (hs : s.Reachable) (uses : List Use) :
    (s.givenOut uses).length = uses.countP Use.isStore ∧
    (∀ n ∈ s.givenOut uses, 1 ≤ n.toInt ∧ n.toInt ≤ 2 ^ 31 - 1) ∧
    (1 ≤ (s.after uses).next.toInt ∧ (s.after uses).next.toInt ≤ 2 ^ 31 - 1) ∧
    (∀ rows budget, ((s.after uses).store rows budget).2.next.toInt =
      (s.after uses).next.toInt % (2 ^ 31 - 1) + 1) ∧
    ∀ window, window <:+: s.givenOut uses → window.length ≤ 2 ^ 31 - 1 → window.Nodup := by
  have hnext := (hs.after uses).one_le_next
  have hlimit := (s.after uses).next.toInt_lt
  refine ⟨?_, ?_, ⟨hnext, by omega⟩, ?_, fun window => nodup_of_infix⟩
  · rw [givenOut_eq, List.length_map, List.length_range]
  · intro n hn
    rw [givenOut_eq] at hn
    obtain ⟨k, -, rfl⟩ := List.mem_map.mp hn
    have hhigh := (numberAfter s.next k).toInt_lt
    exact ⟨one_le_numberAfter hs.one_le_next k, by omega⟩
  · intro rows budget
    have hstep := toInt_numberAfter hnext 1
    have hstored :
        ((s.after uses).store rows budget).2.next = numberAfter (s.after uses).next 1 := rfl
    rw [hstored, hstep]
    omega

/-- The store after some results without rows. -/
def filled (count : Nat) : ResultStore := empty.after (List.replicate count (.store [] 0))

theorem next_filled (count : Nat) : (filled count).next = numberAfter 1 count := by
  have hstore : (Use.store [] 0).isStore = true := rfl
  have hempty : empty.next = 1 := rfl
  rw [filled, next_after, List.countP_replicate, if_pos hstore, hempty]

/-- When all numbers but the greatest were given out, the next three results take this one, one and
two. -/
theorem greatest_number_then_one :
    (filled (2 ^ 31 - 2)).Reachable ∧
    (filled (2 ^ 31 - 2)).givenOut
      [.store [] 0, .clear, .store [[.null]] 1, .flush 1, .store [] 0] = [2147483647, 1, 2] ∧
    [(2147483647 : Int32), 1, 2].Nodup := by
  have hreachable : (filled (2 ^ 31 - 2)).Reachable := Reachable.empty.after _
  have hnext : (filled (2 ^ 31 - 2)).next = 2147483647 := by
    rw [next_filled, ← Int32.toInt_inj, toInt_numberAfter (by decide)]
    decide
  have hgiven (s : ResultStore) :
      s.givenOut [.store [] 0, .clear, .store [[.null]] 1, .flush 1, .store [] 0] =
        [s.next, successor s.next, successor (successor s.next)] := rfl
  have hnumbers : (filled (2 ^ 31 - 2)).givenOut
      [.store [] 0, .clear, .store [[.null]] 1, .flush 1, .store [] 0] = [2147483647, 1, 2] := by
    rw [hgiven, hnext]
    decide
  obtain ⟨-, -, -, -, hdistinct⟩ := numbers_do_not_repeat_early hreachable
    [.store [] 0, .clear, .store [[.null]] 1, .flush 1, .store [] 0]
  rw [hnumbers] at hdistinct
  exact ⟨hreachable, hnumbers, hdistinct _ List.infix_rfl (by decide)⟩

end ResultStore
end EngineLink
