import EngineLink.Wire.Item
import Mathlib.Algebra.Group.Int.Defs
import Mathlib.Algebra.Group.Nat.Defs

/-!
# Readers and the forms they take

A reader takes a value off the front of some bytes.  {lit}`Takes` says which bytes it takes for
which value: exactly these, whatever comes after them.  What the parts of a reader take decides
what the whole takes.

Main results:

- Theorem {lit}`bigEndian_ofBigEndian`: digits are those of the number they stand for.
- Theorems {lit}`Takes.map`, {lit}`Takes.bind`, {lit}`Takes.pair` and {lit}`Takes.many`: the forms
  taken by a reader that is built from others.
-/

namespace EngineLink
namespace Wire

/-! ## Digits -/

/-- A number is written in as many bytes as asked for. -/
@[simp]
theorem length_bigEndian (width n : Nat) : (bigEndian width n).length = width := by
  induction width with
  | zero => rfl
  | succ width ih => simp [bigEndian, ih]

/-- Reading digits after others: what was read before moves up by their number. -/
theorem foldl_bigEndian (width n before : Nat) :
    (bigEndian width n).foldl (fun m b => m * 256 + b.toNat) before =
      before * 256 ^ width + n % 256 ^ width := by
  induction width generalizing before with
  | zero => simp [bigEndian, Nat.mod_one]
  | succ width ih =>
    have hdigit : (UInt8.ofNat (n / Nat.pow 256 width)).toNat = n / 256 ^ width % 256 := by
      simp
    rw [bigEndian, List.foldl_cons, ih, hdigit, Nat.mod_pow_succ, Nat.pow_succ]
    rw [Nat.add_mul, Nat.mul_assoc, Nat.mul_comm 256 (256 ^ width)]
    rw [Nat.mul_comm (n / 256 ^ width % 256)]
    omega

/-- A number that fits its width is the one its digits stand for. -/
theorem ofBigEndian_bigEndian {width n : Nat} (hn : n < 256 ^ width) :
    ofBigEndian (bigEndian width n) = n := by
  rw [ofBigEndian, foldl_bigEndian, Nat.mod_eq_of_lt hn]
  omega

/-- Reading digits after others adds what they stand for. -/
theorem foldl_digits (digits : Bytes) (before : Nat) :
    digits.foldl (fun n d => n * 256 + d.toNat) before =
      before * 256 ^ digits.length + ofBigEndian digits := by
  unfold ofBigEndian
  induction digits generalizing before with
  | nil => simp
  | cons d digits ih =>
    rw [List.foldl_cons, ih, List.foldl_cons, ih (0 * 256 + d.toNat), List.length_cons,
      Nat.pow_succ, Nat.add_mul, Nat.add_mul, Nat.mul_assoc, Nat.mul_comm 256]
    omega

/-- The first digit stands before all that the others can stand for. -/
theorem ofBigEndian_cons (b : UInt8) (digits : Bytes) :
    ofBigEndian (b :: digits) = b.toNat * 256 ^ digits.length + ofBigEndian digits := by
  have hfirst := foldl_digits digits b.toNat
  simpa [ofBigEndian] using hfirst

/-- Digits stand for a number that fits them. -/
theorem ofBigEndian_lt (digits : Bytes) : ofBigEndian digits < 256 ^ digits.length := by
  induction digits with
  | nil => decide
  | cons b digits ih =>
    have hbyte : b.toNat + 1 ≤ 256 := b.toNat_lt
    have hroom := Nat.mul_le_mul_right (256 ^ digits.length) hbyte
    rw [ofBigEndian_cons, List.length_cons, Nat.pow_succ]
    rw [Nat.add_mul, Nat.one_mul] at hroom
    omega

/-- Equally many digits that stand for the same number are the same digits. -/
theorem eq_of_ofBigEndian_eq {digits others : Bytes} (hlength : digits.length = others.length)
    (hvalue : ofBigEndian digits = ofBigEndian others) : digits = others := by
  induction digits generalizing others with
  | nil => exact (List.length_eq_zero_iff.mp hlength.symm).symm
  | cons b digits ih =>
    cases others with
    | nil => cases hlength
    | cons c others =>
      have hrest : digits.length = others.length := Nat.succ.inj hlength
      have hlow := ofBigEndian_lt digits
      have hlow' := ofBigEndian_lt others
      rw [ofBigEndian_cons, ofBigEndian_cons, ← hrest] at hvalue
      rw [← hrest] at hlow'
      have hweight : 0 < 256 ^ digits.length := Nat.pow_pos (by decide)
      have hfirst : b.toNat = c.toNat := by
        have hquotient := congrArg (· / 256 ^ digits.length) hvalue
        simpa only [Nat.mul_comm _ (256 ^ digits.length), Nat.mul_add_div hweight,
          Nat.div_eq_of_lt hlow, Nat.div_eq_of_lt hlow', Nat.add_zero] using hquotient
      rw [hfirst] at hvalue
      rw [UInt8.toNat_inj.mp hfirst, ih hrest (Nat.add_left_cancel hvalue)]

/-- Digits are those of the number they stand for. -/
theorem bigEndian_ofBigEndian (digits : Bytes) :
    bigEndian digits.length (ofBigEndian digits) = digits := by
  apply eq_of_ofBigEndian_eq (length_bigEndian _ _)
  exact ofBigEndian_bigEndian (ofBigEndian_lt digits)

/-! ## Readers and the forms they take -/

variable {α β : Type} {form : α → Bytes → Prop} {read : Reader α}

/-- A reader takes exactly the bytes that are a form of a value, whatever comes after them. -/
def Takes (read : Reader α) (form : α → Bytes → Prop) : Prop :=
  ∀ bytes a rest, read bytes = some (a, rest) ↔ ∃ front, form a front ∧ bytes = front ++ rest

/-- A form of a value and then one of another. -/
inductive Pair (first : α → Bytes → Prop) (second : β → Bytes → Prop) : α × β → Bytes → Prop
  | intro {a : α} {b : β} {front back : Bytes} :
    first a front → second b back → Pair first second (a, b) (front ++ back)

/-- Forms of some values, one after the other. -/
inductive Series (form : α → Bytes → Prop) : List α → Bytes → Prop
  | nil : Series form [] []
  | cons {a : α} {values : List α} {front back : Bytes} :
    form a front → Series form values back → Series form (a :: values) (front ++ back)

theorem takes_takeBytes (count : Nat) :
    Takes (takeBytes count) fun content front => content.length = count ∧ front = content := by
  intro bytes content rest
  simp only [takeBytes]
  constructor
  · intro hread
    split at hread
    · rename_i hlength
      cases hread
      exact ⟨_, ⟨hlength, rfl⟩, (List.take_append_drop count bytes).symm⟩
    · cases hread
  · rintro ⟨_, ⟨rfl, rfl⟩, rfl⟩
    simp

/-- What is taken may be changed afterwards. -/
theorem Takes.map (hread : Takes read form) (f : α → β) :
    Takes (Reader.map f read) fun b front => ∃ a, form a front ∧ b = f a := by
  intro bytes b rest
  unfold Reader.map
  rw [Option.map_eq_some_iff]
  constructor
  · rintro ⟨⟨a, _⟩, ha, hb⟩
    obtain ⟨front, hform, rfl⟩ := (hread _ _ _).mp ha
    cases hb
    exact ⟨front, ⟨a, hform, rfl⟩, rfl⟩
  · rintro ⟨front, ⟨a, hform, rfl⟩, rfl⟩
    exact ⟨(a, rest), (hread _ _ _).mpr ⟨front, hform, rfl⟩, rfl⟩

/-- What is taken first may decide what is taken after it. -/
theorem Takes.bind (hread : Takes read form) {next : α → Reader β} {after : α → β → Bytes → Prop}
    (hnext : ∀ a, Takes (next a) (after a)) :
    Takes (fun bytes => (read bytes).bind fun (a, rest) => next a rest)
      fun b bytes => ∃ a front back, form a front ∧ after a b back ∧ bytes = front ++ back := by
  intro bytes b rest
  simp only [Option.bind_eq_some_iff]
  constructor
  · rintro ⟨⟨a, _⟩, ha, hb⟩
    obtain ⟨front, hform, rfl⟩ := (hread _ _ _).mp ha
    obtain ⟨back, hafter, rfl⟩ := (hnext a _ _ _).mp hb
    exact ⟨front ++ back, ⟨a, front, back, hform, hafter, rfl⟩, (List.append_assoc ..).symm⟩
  · rintro ⟨_, ⟨a, front, back, hform, hafter, rfl⟩, rfl⟩
    refine ⟨(a, back ++ rest), ?_, (hnext a _ _ _).mpr ⟨back, hafter, rfl⟩⟩
    exact (hread _ _ _).mpr ⟨front, hform, List.append_assoc ..⟩

/-- The same forms may be described differently. -/
theorem Takes.congr {form' : α → Bytes → Prop} (hread : Takes read form)
    (hforms : ∀ a front, form a front ↔ form' a front) : Takes read form' := by
  intro bytes a rest
  simp only [hread bytes a rest, hforms]

theorem takes_takeNumber (width : Nat) :
    Takes (takeNumber width) fun n front => n < 256 ^ width ∧ front = bigEndian width n := by
  apply ((takes_takeBytes width).map ofBigEndian).congr
  intro n front
  constructor
  · rintro ⟨digits, ⟨rfl, rfl⟩, rfl⟩
    exact ⟨ofBigEndian_lt _, (bigEndian_ofBigEndian _).symm⟩
  · rintro ⟨hn, rfl⟩
    exact ⟨_, ⟨length_bigEndian width n, rfl⟩, (ofBigEndian_bigEndian hn).symm⟩

theorem takes_takeCounted (width : Nat) :
    Takes (takeCounted width) fun content front =>
      content.length < 256 ^ width ∧ front = bigEndian width content.length ++ content := by
  apply ((takes_takeNumber width).bind takes_takeBytes).congr
  intro content front
  constructor
  · rintro ⟨_, _, _, ⟨hcount, rfl⟩, ⟨rfl, rfl⟩, rfl⟩
    exact ⟨hcount, rfl⟩
  · rintro ⟨hcount, rfl⟩
    exact ⟨_, _, _, ⟨hcount, rfl⟩, ⟨rfl, rfl⟩, rfl⟩

theorem Takes.pair {second : Reader β} {form' : β → Bytes → Prop} (hread : Takes read form)
    (hsecond : Takes second form') : Takes (takePair read second) (Pair form form') := by
  apply (hread.bind fun a => hsecond.map fun b => (a, b)).congr
  intro pair bytes
  constructor
  · rintro ⟨a, front, back, hfirst, ⟨b, hafter, rfl⟩, rfl⟩
    exact .intro hfirst hafter
  · rintro ⟨hfirst, hafter⟩
    exact ⟨_, _, _, hfirst, ⟨_, hafter, rfl⟩, rfl⟩

/-- The values taken after others come behind them. -/
theorem Takes.manyOnto (hread : Takes read form) (count : Nat) (done : List α) :
    Takes (takeManyOnto read count done) fun all bytes =>
      ∃ values, all = done.reverse ++ values ∧ values.length = count ∧
        Series form values bytes := by
  induction count generalizing done with
  | zero =>
    intro bytes all rest
    simp only [takeManyOnto, Option.some.injEq, Prod.mk.injEq]
    constructor
    · rintro ⟨rfl, rfl⟩
      exact ⟨[], ⟨[], by simp, rfl, .nil⟩, rfl⟩
    · rintro ⟨_, ⟨values, rfl, hlength, hseries⟩, rfl⟩
      cases hseries with
      | nil => simp
      | cons => cases hlength
  | succ count ih =>
    intro bytes all rest
    have hstep : takeManyOnto read (count + 1) done bytes =
        (read bytes).bind fun (a, rest) => takeManyOnto read count (a :: done) rest := by
      rw [takeManyOnto]
      cases read bytes <;> rfl
    rw [hstep, hread.bind (fun a => ih (a :: done)) bytes all rest]
    constructor
    · rintro ⟨_, ⟨a, front, back, hform, ⟨values, rfl, rfl, hseries⟩, rfl⟩, rfl⟩
      exact ⟨_, ⟨a :: values, by simp, rfl, .cons hform hseries⟩, rfl⟩
    · rintro ⟨_, ⟨values, rfl, hlength, hseries⟩, rfl⟩
      cases hseries with
      | nil => cases hlength
      | cons hform hseries =>
        exact ⟨_, ⟨_, _, _, hform, ⟨_, by simp, Nat.succ.inj hlength, hseries⟩, rfl⟩, rfl⟩

/-- A number of values is taken one after the other. -/
theorem Takes.many (hread : Takes read form) (count : Nat) :
    Takes (takeMany read count) fun values bytes =>
      values.length = count ∧ Series form values bytes := by
  apply (hread.manyOnto count []).congr
  intro values bytes
  simp

end Wire
end EngineLink
