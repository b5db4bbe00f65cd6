import EngineLink.Client.Statement
import EngineLink.Script.Step
import Mathlib.Data.List.Induction

/-!
# What is bound by the steps of a statement

A statement keeps its bindings as a list of numbers with values, and sends a dense list of
arguments.  Both are explained here by the steps alone: a number is bound to the value it was bound
to last since all bindings were forgotten, and the arguments go up to the greatest bound number,
with null in the gaps.

Main results:

- Theorem {lit}`lastBound_concat`: what one more step does to the bindings.
- Theorem {lit}`Recalls.next` and {lit}`recalls_steps`: a statement has the bindings that its steps
  leave.
- Theorem {lit}`Recalls.argsOf`: its arguments are those values in their places.
-/

namespace EngineLink
namespace Script

/-! ## Bindings that steps leave -/

/-- The value that a number was bound to last, since all bindings were forgotten. -/
def LastBound (steps : List StatementStep) (index : Nat) (value : Value) : Prop :=
  ∃ before later, steps = before ++ .bind index value :: later ∧ .clear ∉ later ∧
    ∀ other, .bind index other ∉ later

/-- The arguments that steps leave: as many as the greatest bound number, each the value last bound
to its number, or null. -/
structure ArgsOf (steps : List StatementStep) (args : List Value) : Prop where
  le_length : ∀ index value, 0 < index → LastBound steps index value → index ≤ args.length
  length_bound : args.length = 0 ∨ ∃ value, LastBound steps args.length value
  bound : ∀ index value, 0 < index → LastBound steps index value → args[index - 1]? = some value
  unbound : ∀ index, 0 < index → index ≤ args.length → (∀ value, ¬ LastBound steps index value) →
    args[index - 1]? = some .null

variable {steps : List StatementStep} {step : StatementStep} {index : Nat} {value : Value}

theorem not_lastBound_nil : ¬ LastBound [] index value := by
  rintro ⟨before, later, hsteps, -⟩
  exact absurd hsteps (by simp)

/-- One more step binds the number itself, or leaves it as it was unless it forgets all
bindings. -/
theorem lastBound_concat : LastBound (steps ++ [step]) index value ↔
    step = .bind index value ∨
      LastBound steps index value ∧ step ≠ .clear ∧ ∀ other, step ≠ .bind index other := by
  constructor
  · rintro ⟨before, later, hsteps, hclear, hbind⟩
    rcases List.eq_nil_or_concat later with rfl | ⟨later, last, rfl⟩
    · left
      exact (List.cons.inj (List.append_inj' hsteps rfl).2).1
    · right
      rw [List.concat_eq_append, ← List.cons_append, ← List.append_assoc] at hsteps
      obtain ⟨hfront, hlast⟩ := List.append_inj' hsteps rfl
      obtain rfl : step = last := (List.cons.inj hlast).1
      simp only [List.concat_eq_append, List.mem_append, List.mem_singleton, not_or] at hclear hbind
      exact ⟨⟨before, later, hfront, hclear.1, fun other => (hbind other).1⟩, Ne.symm hclear.2,
        fun other => Ne.symm (hbind other).2⟩
  · rintro (rfl | ⟨⟨before, later, rfl, hclear, hbind⟩, hkept, hother⟩)
    · exact ⟨steps, [], rfl, List.not_mem_nil, fun _ => List.not_mem_nil⟩
    · refine ⟨before, later ++ [step], by simp, ?_, ?_⟩
      · simp only [List.mem_append, List.mem_singleton, not_or]
        exact ⟨hclear, Ne.symm hkept⟩
      · intro other
        simp only [List.mem_append, List.mem_singleton, not_or]
        exact ⟨hbind other, Ne.symm (hother other)⟩

/-- A number is bound to one value at most. -/
theorem LastBound.unique {other : Value} (hvalue : LastBound steps index value)
    (hother : LastBound steps index other) : value = other := by
  induction steps using List.reverseRecOn with
  | nil => exact absurd hvalue not_lastBound_nil
  | append_singleton steps step ih =>
    rcases lastBound_concat.mp hvalue with rfl | ⟨hvalue, -, hkept⟩
    · rcases lastBound_concat.mp hother with hsame | ⟨-, -, hkept⟩
      · exact (StatementStep.bind.inj hsame).2
      · exact absurd rfl (hkept value)
    · rcases lastBound_concat.mp hother with hsame | ⟨hother, -, -⟩
      · exact absurd hsame (hkept other)
      · exact ih hvalue hother

/-! ## Statements -/

/-- The statement after a step. -/
def next (s : Statement) : StatementStep → Statement
  | .bind index value => (s.bind index value).toOption.getD s
  | .clear => s.clear
  | _ => s

/-- A statement has the bindings that some steps leave. -/
def Recalls (steps : List StatementStep) (s : Statement) : Prop :=
  ∀ index value, (index, value) ∈ s.bindings ↔ 0 < index ∧ LastBound steps index value

/-- A new statement recalls that nothing was bound. -/
theorem recalls_create (sql : String) : Recalls [] (Statement.create sql) := by
  intro index value
  constructor
  · exact fun hmem => absurd hmem List.not_mem_nil
  · exact fun hbound => absurd hbound.2 not_lastBound_nil

theorem next_bind_zero (s : Statement) (value : Value) : next s (.bind 0 value) = s := rfl

/-- A value takes the place of the one bound to its number before. -/
theorem next_bind {s : Statement} (hindex : 0 < index) (value : Value) :
    next s (.bind index value) =
      { s with bindings := (index, value) :: s.bindings.filter (·.1 ≠ index) } := by
  rw [next, Statement.bind, if_neg (Nat.ne_of_gt hindex)]
  rfl

theorem sql_next (s : Statement) (step : StatementStep) : (next s step).sql = s.sql := by
  cases step with
  | bind index value =>
    rcases Nat.eq_zero_or_pos index with rfl | hindex
    · rfl
    · rw [next_bind hindex]
  | clear => rfl
  | execute => rfl
  | executeInsert => rfl
  | executeUpdate => rfl
  | firstInteger => rfl
  | firstText => rfl

/-- A step that neither binds a number nor forgets the bindings leaves them alone. -/
theorem Recalls.keep {s : Statement} (hrecalls : Recalls steps s) (hclear : step ≠ .clear)
    (hbind : ∀ index value, 0 < index → step ≠ .bind index value) :
    Recalls (steps ++ [step]) s := by
  intro index value
  rw [hrecalls, lastBound_concat]
  constructor
  · rintro ⟨hindex, hbound⟩
    exact ⟨hindex, .inr ⟨hbound, hclear, fun other => hbind index other hindex⟩⟩
  · rintro ⟨hindex, hstep | hbound⟩
    · exact absurd hstep (hbind index value hindex)
    · exact ⟨hindex, hbound.1⟩

/-- What one step preserves. -/
theorem Recalls.next {s : Statement} (hrecalls : Recalls steps s) (step : StatementStep) :
    Recalls (steps ++ [step]) (next s step) := by
  cases step with
  | bind bound new =>
    rcases Nat.eq_zero_or_pos bound with rfl | hpos
    · rw [next_bind_zero]
      refine hrecalls.keep StatementStep.noConfusion ?_
      rintro index value hindex ⟨⟩
      exact absurd hindex (Nat.lt_irrefl 0)
    · intro index value
      rw [next_bind hpos, lastBound_concat, List.mem_cons, List.mem_filter, hrecalls]
      constructor
      · rintro (hnew | ⟨⟨hindex, hbound⟩, hother⟩)
        · cases hnew
          exact ⟨hpos, .inl rfl⟩
        · refine ⟨hindex, .inr ⟨hbound, StatementStep.noConfusion, ?_⟩⟩
          intro other hsame
          exact of_decide_eq_true hother (StatementStep.bind.inj hsame).1.symm
      · rintro ⟨hindex, hnew | ⟨hbound, -, hother⟩⟩
        · cases hnew
          exact .inl rfl
        · refine .inr ⟨⟨hindex, hbound⟩, decide_eq_true ?_⟩
          rintro rfl
          exact hother new rfl
  | clear =>
    intro index value
    rw [lastBound_concat]
    constructor
    · exact fun hmem => absurd hmem List.not_mem_nil
    · rintro ⟨-, hstep | ⟨-, hkept, -⟩⟩
      · cases hstep
      · exact absurd rfl hkept
  | execute => exact hrecalls.keep StatementStep.noConfusion fun _ _ _ => StatementStep.noConfusion
  | executeInsert =>
    exact hrecalls.keep StatementStep.noConfusion fun _ _ _ => StatementStep.noConfusion
  | executeUpdate =>
    exact hrecalls.keep StatementStep.noConfusion fun _ _ _ => StatementStep.noConfusion
  | firstInteger =>
    exact hrecalls.keep StatementStep.noConfusion fun _ _ _ => StatementStep.noConfusion
  | firstText =>
    exact hrecalls.keep StatementStep.noConfusion fun _ _ _ => StatementStep.noConfusion

/-- A statement has the bindings that its steps leave. -/
theorem recalls_steps (sql : String) (steps : List StatementStep) :
    Recalls steps (steps.foldl next (Statement.create sql)) := by
  induction steps using List.reverseRecOn with
  | nil => exact recalls_create sql
  | append_singleton steps step ih =>
    rw [List.foldl_append]
    exact ih.next step

/-! ## Arguments -/

/-- The greatest of some numbers is at least each of them. -/
theorem le_foldl_max (numbers : List Nat) (least : Nat) :
    least ≤ numbers.foldl max least ∧ ∀ n ∈ numbers, n ≤ numbers.foldl max least := by
  induction numbers generalizing least with
  | nil => exact ⟨Nat.le_refl least, fun n hn => absurd hn List.not_mem_nil⟩
  | cons n numbers ih =>
    obtain ⟨hleast, hall⟩ := ih (max least n)
    rw [List.foldl_cons, List.forall_mem_cons]
    exact ⟨Nat.le_trans (Nat.le_max_left least n) hleast,
      Nat.le_trans (Nat.le_max_right least n) hleast, hall⟩

/-- The greatest of some numbers is one of them, or the least one allowed. -/
theorem foldl_max_mem (numbers : List Nat) (least : Nat) :
    numbers.foldl max least = least ∨ numbers.foldl max least ∈ numbers := by
  induction numbers generalizing least with
  | nil => exact .inl rfl
  | cons n numbers ih =>
    rw [List.foldl_cons, List.mem_cons]
    rcases ih (max least n) with hmax | hmem
    · rw [hmax]
      rcases Nat.le_total least n with hle | hle
      · exact .inr (.inl (Nat.max_eq_right hle))
      · exact .inl (Nat.max_eq_left hle)
    · exact .inr (.inr hmem)

section Arguments

variable {s : Statement}

theorem length_args (s : Statement) : s.args.length = s.size := by
  rw [Statement.args, List.length_map, List.length_range]

/-- The argument at a place is what is bound to its number, counted from one. -/
theorem getElem?_args (hpos : 0 < index) (hsize : index ≤ s.size) :
    s.args[index - 1]? = some (s.bound index) := by
  have hrange : index - 1 < s.size := by omega
  rw [Statement.args, List.getElem?_map, List.getElem?_range hrange, Option.map_some,
    Nat.sub_add_cancel hpos]

/-- Every number that is bound is among the arguments. -/
theorem Recalls.le_size (hrecalls : Recalls steps s) (hpos : 0 < index)
    (hbound : LastBound steps index value) : index ≤ s.size := by
  refine (le_foldl_max _ 0).2 index ?_
  exact List.mem_map.mpr ⟨(index, value), (hrecalls index value).mpr ⟨hpos, hbound⟩, rfl⟩

/-- The last argument is bound, if there is any. -/
theorem Recalls.size_bound (hrecalls : Recalls steps s) :
    s.size = 0 ∨ ∃ value, LastBound steps s.size value := by
  rcases foldl_max_mem (s.bindings.map (·.1)) 0 with hzero | hmem
  · exact .inl hzero
  · obtain ⟨⟨index, value⟩, hbinding, hsize⟩ := List.mem_map.mp hmem
    have hbound := ((hrecalls index value).mp hbinding).2
    rw [show index = s.size from hsize] at hbound
    exact .inr ⟨value, hbound⟩

/-- A number has the value it was bound to last. -/
theorem Recalls.bound_eq (hrecalls : Recalls steps s) (hpos : 0 < index)
    (hbound : LastBound steps index value) : s.bound index = value := by
  have hmem := (hrecalls index value).mpr ⟨hpos, hbound⟩
  cases hfind : s.bindings.find? fun binding => binding.1 = index with
  | none => exact absurd (decide_eq_true rfl) (List.find?_eq_none.mp hfind _ hmem)
  | some binding =>
    obtain ⟨found, other⟩ := binding
    have hfound := List.find?_some hfind
    rw [decide_eq_true_eq] at hfound
    subst hfound
    have hother := ((hrecalls found other).mp (List.mem_of_find?_eq_some hfind)).2
    rw [Statement.bound, hfind, hbound.unique hother]
    rfl

/-- A number that is not bound stands for null. -/
theorem Recalls.bound_eq_null (hrecalls : Recalls steps s)
    (hunbound : ∀ value, ¬ LastBound steps index value) : s.bound index = .null := by
  have hfind : (s.bindings.find? fun binding => binding.1 = index) = none := by
    rw [List.find?_eq_none]
    rintro ⟨found, value⟩ hmem hfound
    obtain rfl : found = index := of_decide_eq_true hfound
    exact hunbound value ((hrecalls found value).mp hmem).2
  rw [Statement.bound, hfind]
  rfl

/-- The arguments of a statement are the values last bound, in their places. -/
theorem Recalls.argsOf (hrecalls : Recalls steps s) : ArgsOf steps s.args := by
  constructor
  · intro index value hpos hbound
    rw [length_args]
    exact hrecalls.le_size hpos hbound
  · rw [length_args]
    exact hrecalls.size_bound
  · intro index value hpos hbound
    rw [getElem?_args hpos (hrecalls.le_size hpos hbound), hrecalls.bound_eq hpos hbound]
  · intro index hpos hle hunbound
    rw [length_args] at hle
    rw [getElem?_args hpos hle, hrecalls.bound_eq_null hunbound]

end Arguments

end Script
end EngineLink
