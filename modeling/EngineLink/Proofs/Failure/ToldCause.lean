import EngineLink.Failure.SqlCause
import EngineLink.Proofs.Number.LeadingInteger
import EngineLink.Proofs.Number.Numerals
import EngineLink.Proofs.Text.Occurrence

/-!
# The cause that a message tells

A message tells two counts where it has the mark of a wrong number of arguments, two runs of digits
and what stands between and after them.  The cause is read off the leftmost such place, whatever
stands before it, and off the signs of other causes only where there is none.

Main results:

- Theorem {lit}`SqlCause.counts_eq_some_iff`: the search finds the leftmost place and misses none.
- Theorem {lit}`SqlCause.message_tells_cause`: which cause is read off a message, and that counts
  of sixty-four bits are read as they were written.
-/

namespace EngineLink
namespace SqlCause

/-! ## Places where counts are told -/

/-- Right after {lit}`before`, the text tells two runs of digits. -/
structure Tells (text before given expected : List Char) : Prop where
  given_digits : ∀ c ∈ given, Text.isDecimalDigit c = true
  expected_digits : ∀ c ∈ expected, Text.isDecimalDigit c = true
  occurs : before ++ countMark ++ given ++ [',', ' '] ++ expected ++ [')'] <+: text

variable {text before given expected : List Char} {c d : Char}

theorem after?_eq_some_iff {start cs rest : List Char} :
    after? start cs = some rest ↔ cs = start ++ rest := by
  induction start generalizing cs with
  | nil => simp [after?]
  | cons s start ih =>
    cases cs with
    | nil => simp [after?]
    | cons c cs =>
      by_cases hsame : s = c
      · simp [after?, hsame, ih]
      · simp [after?, hsame, Ne.symm hsame]

/-- Two runs of digits are found here exactly if the text begins by telling them. -/
theorem countsHere_eq_some_iff :
    countsHere text = some (given, expected) ↔ Tells text [] given expected := by
  have hcomma : ∀ rest, ∀ c ∈ (',' :: ' ' :: rest).head?, ¬ Text.isDecimalDigit c = true := by
    rintro rest _ ⟨⟩
    decide
  have hbracket : ∀ rest, ∀ c ∈ (')' :: rest).head?, ¬ Text.isDecimalDigit c = true := by
    rintro rest _ ⟨⟩
    decide
  constructor
  · intro hcounts
    simp only [countsHere, Option.bind_eq_bind, Option.bind_eq_some_iff, after?_eq_some_iff,
      Option.pure_def, Option.some.injEq, Prod.mk.injEq] at hcounts
    obtain ⟨inside, rfl, second, hsecond, rest, hrest, rfl, rfl⟩ := hcounts
    refine ⟨fun c hc => Leading.of_mem_takeWhile hc, fun c hc => Leading.of_mem_takeWhile hc,
      rest, ?_⟩
    have hinside := List.takeWhile_append_dropWhile (p := Text.isDecimalDigit) (l := inside)
    have hlast := List.takeWhile_append_dropWhile (p := Text.isDecimalDigit) (l := second)
    rw [hsecond] at hinside
    rw [hrest] at hlast
    calc
      [] ++ countMark ++ inside.takeWhile Text.isDecimalDigit ++ [',', ' '] ++
            second.takeWhile Text.isDecimalDigit ++ [')'] ++ rest =
          countMark ++ (inside.takeWhile Text.isDecimalDigit ++
            ([',', ' '] ++ (second.takeWhile Text.isDecimalDigit ++ ([')'] ++ rest)))) := by simp
      _ = countMark ++ inside := by rw [hlast, hinside]
  · rintro ⟨hgiven, hexpected, after, rfl⟩
    have hfirst := Leading.takeWhile_append_of_head? hgiven (hcomma (expected ++ ')' :: after))
    have hsecond := Leading.takeWhile_append_of_head? hexpected (hbracket after)
    simp only [countsHere, Option.bind_eq_bind, Option.bind_eq_some_iff, after?_eq_some_iff,
      Option.pure_def, Option.some.injEq, Prod.mk.injEq]
    refine ⟨given ++ ',' :: ' ' :: (expected ++ ')' :: after), by simp,
      expected ++ ')' :: after, hfirst.2, after, hsecond.2, hfirst.1, hsecond.1⟩

theorem tells_cons_iff :
    Tells (c :: text) (d :: before) given expected ↔ d = c ∧ Tells text before given expected := by
  constructor
  · rintro ⟨hgiven, hexpected, hoccurs⟩
    simp only [List.cons_append, List.cons_prefix_cons] at hoccurs
    exact ⟨hoccurs.1, hgiven, hexpected, hoccurs.2⟩
  · rintro ⟨rfl, hgiven, hexpected, hoccurs⟩
    refine ⟨hgiven, hexpected, ?_⟩
    simpa only [List.cons_append, List.cons_prefix_cons, true_and] using hoccurs

theorem not_tells_nil : ¬ Tells [] before given expected := by
  intro htells
  have hnil := List.prefix_nil.mp htells.occurs
  simp at hnil

/-- Where nothing is told at the front, every place is one of the rest. -/
theorem tells_iff_of_countsHere (hhere : countsHere (c :: text) = none) :
    Tells (c :: text) before given expected ↔
      ∃ later, before = c :: later ∧ Tells text later given expected := by
  constructor
  · intro htells
    cases before with
    | nil =>
      rw [← countsHere_eq_some_iff, hhere] at htells
      cases htells
    | cons d later =>
      obtain ⟨rfl, hrest⟩ := tells_cons_iff.mp htells
      exact ⟨later, rfl, hrest⟩
  · rintro ⟨later, rfl, htells⟩
    exact tells_cons_iff.mpr ⟨rfl, htells⟩

/-- No other place where counts are told is further to the left. -/
def IsLeftmost (text before : List Char) : Prop :=
  ∀ other given expected, Tells text other given expected → before.length ≤ other.length

/-- No counts are told anywhere in the text. -/
def TellsNothing (text : List Char) : Prop :=
  ∀ before given expected, ¬ Tells text before given expected

/-- The search finds the leftmost place where counts are told. -/
theorem counts_eq_some_iff :
    counts text = some (given, expected) ↔
      ∃ before, Tells text before given expected ∧ IsLeftmost text before := by
  induction text with
  | nil => simp [counts, not_tells_nil]
  | cons c text ih =>
    cases hhere : countsHere (c :: text) with
    | some found =>
      obtain ⟨first, second⟩ := found
      have htold : Tells (c :: text) [] first second := countsHere_eq_some_iff.mp hhere
      simp only [counts, hhere, Option.some.injEq, Prod.mk.injEq]
      constructor
      · rintro ⟨rfl, rfl⟩
        exact ⟨[], htold, fun _ _ _ _ => Nat.zero_le _⟩
      · rintro ⟨before, htells, hleftmost⟩
        have hfront : before = [] :=
          List.eq_nil_of_length_eq_zero (Nat.le_zero.mp (hleftmost [] _ _ htold))
        rw [hfront, ← countsHere_eq_some_iff, hhere] at htells
        simpa using htells
    | none =>
      simp only [counts, hhere, ih]
      constructor
      · rintro ⟨before, htells, hleftmost⟩
        refine ⟨c :: before, tells_cons_iff.mpr ⟨rfl, htells⟩, fun other _ _ hother => ?_⟩
        obtain ⟨later, rfl, hlater⟩ := (tells_iff_of_countsHere hhere).mp hother
        exact Nat.succ_le_succ (hleftmost _ _ _ hlater)
      · rintro ⟨before, htells, hleftmost⟩
        obtain ⟨later, rfl, hlater⟩ := (tells_iff_of_countsHere hhere).mp htells
        refine ⟨later, hlater, fun other _ _ hother => ?_⟩
        exact Nat.le_of_succ_le_succ (hleftmost _ _ _ (tells_cons_iff.mpr ⟨rfl, hother⟩))

/-- The search misses no place where counts are told. -/
theorem counts_eq_none_iff : counts text = none ↔ TellsNothing text := by
  induction text with
  | nil => simp [counts, TellsNothing, not_tells_nil]
  | cons c text ih =>
    cases hhere : countsHere (c :: text) with
    | some found =>
      obtain ⟨first, second⟩ := found
      have htold : Tells (c :: text) [] first second := countsHere_eq_some_iff.mp hhere
      simp only [counts, hhere, reduceCtorEq, false_iff]
      exact fun hnothing => hnothing _ _ _ htold
    | none =>
      simp only [counts, hhere, ih]
      constructor
      · intro hnothing before given expected htells
        obtain ⟨later, _, hlater⟩ := (tells_iff_of_countsHere hhere).mp htells
        exact hnothing _ _ _ hlater
      · intro hnothing before given expected htells
        exact hnothing _ _ _ (tells_cons_iff.mpr ⟨rfl, htells⟩)

theorem countMark_eq : countMark = 'I' :: countMark.tail := rfl

theorem not_mem_of_digits {digits : List Char}
    (hdigits : ∀ c ∈ digits, Text.isDecimalDigit c = true) : 'I' ∉ digits := by
  intro hmem
  exact absurd (hdigits _ hmem) (by decide)

/-- What is told in front of a mark does not reach into it: the first character of a mark stands
nowhere else in what tells counts. -/
theorem Tells.of_append {rest : List Char}
    (htells : Tells (text ++ countMark ++ rest) before given expected)
    (hshort : before.length < text.length) : Tells text before given expected := by
  refine ⟨htells.given_digits, htells.expected_digits, ?_⟩
  have hoccurs := htells.occurs
  rw [List.append_assoc text, countMark_eq, List.cons_append] at hoccurs
  apply Text.prefix_of_prefix_append_cons hoccurs (Nat.succ_le_of_lt hshort)
  have hlast : (before ++ 'I' :: countMark.tail ++ given ++ [',', ' '] ++ expected ++ [')']).drop
      (before.length + 1) = countMark.tail ++ given ++ [',', ' '] ++ expected ++ [')'] := by
    simp [List.drop_append]
  have hmark : 'I' ∉ countMark.tail := by decide
  rw [hlast]
  simp [hmark, not_mem_of_digits htells.given_digits, not_mem_of_digits htells.expected_digits]

/-! ## Counts -/

/-- What a run of digits counts as.  A run without digits, with a digit that is not ASCII or of
a number above sixty-four bits counts as zero. -/
inductive CountsAs : List Char → UInt64 → Prop
  | number {digits : List Char} {n : UInt64} (hsome : digits ≠ [])
    (hascii : ∀ c ∈ digits, c.isDigit = true) (hvalue : Nat.ofDigitChars 10 digits 0 = n.toNat) :
    CountsAs digits n
  | empty : CountsAs [] 0
  | other {digits : List Char} (c : Char) (hc : c ∈ digits) (hother : ¬ c.isDigit = true) :
    CountsAs digits 0
  | large {digits : List Char} (hascii : ∀ c ∈ digits, c.isDigit = true)
    (hlarge : 2 ^ 64 ≤ Nat.ofDigitChars 10 digits 0) : CountsAs digits 0

theorem countValue_of_ascii {digits : List Char} (hascii : ∀ c ∈ digits, c.isDigit = true) :
    countValue digits =
      if Nat.ofDigitChars 10 digits 0 < 2 ^ 64 then UInt64.ofNat (Nat.ofDigitChars 10 digits 0)
      else 0 := by
  simp only [countValue, List.all_eq_true.mpr hascii, if_true, Leading.ofDigits_eq hascii]
  rfl

/-- The number of a run of digits is what it counts as. -/
theorem countValue_eq_iff {digits : List Char} {n : UInt64} :
    countValue digits = n ↔ CountsAs digits n := by
  constructor
  · rintro rfl
    by_cases hascii : ∀ c ∈ digits, c.isDigit = true
    · rw [countValue_of_ascii hascii]
      by_cases hnil : digits = []
      · subst hnil
        exact .empty
      split
      · rename_i hfits
        exact .number hnil hascii (UInt64.toNat_ofNat_of_lt hfits).symm
      · rename_i hlarge
        exact .large hascii (Nat.not_lt.mp hlarge)
    · have hall : ¬ digits.all Char.isDigit = true := by rwa [List.all_eq_true]
      rw [countValue, if_neg hall]
      push Not at hascii
      obtain ⟨c, hc, hother⟩ := hascii
      exact .other c hc hother
  · intro hcounts
    cases hcounts with
    | number hsome hascii hvalue =>
      rw [countValue_of_ascii hascii, hvalue, if_pos n.toNat_lt, UInt64.ofNat_toNat]
    | empty => rfl
    | other c hc hother =>
      have hall : ¬ digits.all Char.isDigit = true := by
        rw [List.all_eq_true]
        exact fun hascii => hother (hascii c hc)
      rw [countValue, if_neg hall]
    | large hascii hlarge =>
      rw [countValue_of_ascii hascii, if_neg (Nat.not_lt.mpr hlarge)]

theorem toList_toString (n : UInt64) : (toString n).toList = Nat.toDigits 10 n.toNat :=
  Nat.toList_repr

theorem isDigit_of_mem_toString {n : UInt64} (hc : c ∈ (toString n).toList) :
    c.isDigit = true := by
  rw [toList_toString] at hc
  exact Nat.isDigit_of_mem_toDigits (by decide) (by decide) hc

/-- A number of sixty-four bits counts as itself in decimal. -/
theorem countsAs_toString (n : UInt64) : CountsAs (toString n).toList n := by
  refine .number ?_ (fun c hc => isDigit_of_mem_toString hc) ?_
  · rw [toList_toString]
    exact Nat.toDigits_ne_nil
  · rw [toList_toString, Nat.ofDigitChars_ten_toDigits]

/-! ## Causes -/

/-- The cause that a message tells. -/
inductive Told (message : String) : SqlCause → Prop
  | argumentCount {before given expected : List Char} {n k : UInt64}
    (htells : Tells message.toList before given expected)
    (hleftmost : IsLeftmost message.toList before) (hgiven : CountsAs given n)
    (hexpected : CountsAs expected k) : Told message (.argumentCount n k)
  | constraint (hnothing : TellsNothing message.toList)
    (hconstraint : Text.Occurs "ConstraintViolation" message) : Told message .constraint
  | diskFull (hnothing : TellsNothing message.toList)
    (hconstraint : ¬ Text.Occurs "ConstraintViolation" message)
    (hdiskFull : Text.Occurs "DiskFull" message) : Told message .diskFull
  | corrupt (hnothing : TellsNothing message.toList)
    (hconstraint : ¬ Text.Occurs "ConstraintViolation" message)
    (hdiskFull : ¬ Text.Occurs "DiskFull" message)
    (hcorrupt : Text.Occurs "DatabaseCorrupt" message) : Told message .corrupt
  | other (hnothing : TellsNothing message.toList)
    (hconstraint : ¬ Text.Occurs "ConstraintViolation" message)
    (hdiskFull : ¬ Text.Occurs "DiskFull" message)
    (hcorrupt : ¬ Text.Occurs "DatabaseCorrupt" message) : Told message .other

/-- The cause read off a message is one that it tells. -/
theorem told_ofMessage (message : String) : Told message (ofMessage message) := by
  unfold ofMessage
  cases hcounts : counts message.toList with
  | some found =>
    obtain ⟨given, expected⟩ := found
    obtain ⟨before, htells, hleftmost⟩ := counts_eq_some_iff.mp hcounts
    exact .argumentCount htells hleftmost (countValue_eq_iff.mp rfl) (countValue_eq_iff.mp rfl)
  | none =>
    have hnothing := counts_eq_none_iff.mp hcounts
    simp only [Text.contains_iff_occurs]
    split
    · rename_i hconstraint
      exact .constraint hnothing hconstraint
    · rename_i hconstraint
      split
      · rename_i hdiskFull
        exact .diskFull hnothing hconstraint hdiskFull
      · rename_i hdiskFull
        split
        · rename_i hcorrupt
          exact .corrupt hnothing hconstraint hdiskFull hcorrupt
        · rename_i hcorrupt
          exact .other hnothing hconstraint hdiskFull hcorrupt

/-- A message tells no other cause than the one read off it. -/
theorem ofMessage_of_told {message : String} {cause : SqlCause} (htold : Told message cause) :
    ofMessage message = cause := by
  cases htold with
  | argumentCount htells hleftmost hgiven hexpected =>
    have hcounts := counts_eq_some_iff.mpr ⟨_, htells, hleftmost⟩
    simp only [ofMessage, hcounts, countValue_eq_iff.mpr hgiven, countValue_eq_iff.mpr hexpected]
  | constraint hnothing hconstraint =>
    simp [ofMessage, counts_eq_none_iff.mpr hnothing, Text.contains_iff_occurs, hconstraint]
  | diskFull hnothing hconstraint hdiskFull =>
    simp [ofMessage, counts_eq_none_iff.mpr hnothing, Text.contains_iff_occurs, hconstraint,
      hdiskFull]
  | corrupt hnothing hconstraint hdiskFull hcorrupt =>
    simp [ofMessage, counts_eq_none_iff.mpr hnothing, Text.contains_iff_occurs, hconstraint,
      hdiskFull, hcorrupt]
  | other hnothing hconstraint hdiskFull hcorrupt =>
    simp [ofMessage, counts_eq_none_iff.mpr hnothing, Text.contains_iff_occurs, hconstraint,
      hdiskFull, hcorrupt]

/-- Counts are read off a message exactly if it tells any. -/
theorem exists_argumentCount_iff (message : String) :
    (∃ n k, ofMessage message = .argumentCount n k) ↔
      ∃ before given expected, Tells message.toList before given expected := by
  have htold := told_ofMessage message
  constructor
  · rintro ⟨n, k, hcause⟩
    rw [hcause] at htold
    cases htold with
    | argumentCount htells _ _ _ => exact ⟨_, _, _, htells⟩
  · rintro ⟨before, given, expected, htells⟩
    generalize ofMessage message = cause at htold ⊢
    cases htold with
    | argumentCount => exact ⟨_, _, rfl⟩
    | constraint hnothing | diskFull hnothing | corrupt hnothing | other hnothing =>
      exact absurd htells (hnothing before given expected)

/-- Counts written behind a text that tells none are told there, and nowhere further to the left. -/
theorem tells_written {front back message : String} {n k : UInt64}
    (hnothing : TellsNothing front.toList)
    (hmessage : message = front ++ "InvalidParameterCount(" ++ toString n ++ ", " ++ toString k ++
      ")" ++ back) :
    Tells message.toList front.toList (toString n).toList (toString k).toList ∧
      IsLeftmost message.toList front.toList := by
  have htext : message.toList = front.toList ++ countMark ++
      ((toString n).toList ++ [',', ' '] ++ (toString k).toList ++ [')'] ++ back.toList) := by
    have hmark : "InvalidParameterCount(".toList = countMark := rfl
    have hcomma : ", ".toList = [',', ' '] := by decide
    have hbracket : ")".toList = [')'] := by decide
    simp only [hmessage, String.toList_append, hmark, hcomma, hbracket, List.append_assoc]
  constructor
  · refine ⟨fun c hc => ?_, fun c hc => ?_, back.toList, ?_⟩
    · exact Text.isDecimalDigit_of_isDigit c (isDigit_of_mem_toString hc)
    · exact Text.isDecimalDigit_of_isDigit c (isDigit_of_mem_toString hc)
    · rw [htext]
      simp only [List.append_assoc]
  · intro other given expected htells
    by_contra hshort
    rw [htext] at htells
    exact hnothing _ _ _ (htells.of_append (Nat.not_le.mp hshort))

/-- The cause read off a message is the one it tells: the counts of the leftmost place where two
are told, wherever there is one, or else what the first sign of another cause stands for.  Counts
of sixty-four bits are read as they were written behind any text that tells none. -/
theorem message_tells_cause :
    (∀ message cause, ofMessage message = cause ↔ Told message cause) ∧
    (∀ message, (∃ n k, ofMessage message = .argumentCount n k) ↔
      ∃ before given expected, Tells message.toList before given expected) ∧
    ∀ (front back : String) (n k : UInt64), TellsNothing front.toList →
      ofMessage (front ++ "InvalidParameterCount(" ++ toString n ++ ", " ++ toString k ++ ")" ++
        back) = .argumentCount n k := by
  refine ⟨?_, exists_argumentCount_iff, ?_⟩
  · intro message cause
    constructor
    · rintro rfl
      exact told_ofMessage message
    · exact ofMessage_of_told
  · intro front back n k hnothing
    obtain ⟨htells, hleftmost⟩ := tells_written hnothing rfl
    exact ofMessage_of_told
      (.argumentCount htells hleftmost (countsAs_toString n) (countsAs_toString k))

/-- A place that is cut off tells nothing, and the greatest counts are read behind it. -/
theorem greatest_counts_are_read :
    TellsNothing "InvalidParameterCount(1, 2".toList ∧
      ofMessage ("InvalidParameterCount(1, 2" ++ "InvalidParameterCount(" ++
        toString (18446744073709551615 : UInt64) ++ ", " ++ toString (0 : UInt64) ++ ")" ++ ")") =
        .argumentCount 18446744073709551615 0 := by
  have hnothing : TellsNothing "InvalidParameterCount(1, 2".toList :=
    counts_eq_none_iff.mp (by decide)
  exact ⟨hnothing, message_tells_cause.2.2 "InvalidParameterCount(1, 2" ")" _ _ hnothing⟩

end SqlCause
end EngineLink
