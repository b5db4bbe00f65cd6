import EngineLink.Json.Parser
import EngineLink.Json.Printer
import EngineLink.Proofs.Number.LeadingInteger
import EngineLink.Proofs.Number.Numerals

/-!
# JSON text read back

What is written for null, booleans, integers of sixty-four bits, texts and arrays of such values is
read back as it was.  A value is read off the front of a text, so the statement is about what is
written with anything behind it that a number does not go on with.

Main results:

- Theorem {lit}`textBody_quoted`: a text in quotes is read back, whatever its characters.
- Theorem {lit}`number_toString`: so is an integer.
- Theorem {lit}`items_charsItems`: so are the items of an array, if each of them is.
- Theorem {lit}`read?_chars`: so is the text of a whole value.
-/

namespace EngineLink
namespace Json

/-! ## Texts -/

theorem textBody_quote (rest : List Char) : textBody ('"' :: rest) = some ([], rest) := by
  rw [textBody, if_pos rfl]

/-- An escape stands for its character. -/
theorem textBody_of_escape {cs after : List Char} {c : Char}
    (hescape : escape cs = some (c, after)) :
    textBody ('\\' :: cs) = (textBody after).map fun (body, rest) => (c :: body, rest) := by
  rw [textBody, if_neg (by decide), if_pos rfl]
  split
  · rename_i hnone
    rw [hescape] at hnone
    cases hnone
  · rename_i hsome
    rw [hescape] at hsome
    cases hsome
    rfl

/-- Any other character stands for itself. -/
theorem textBody_of_plain {c : Char} (hquote : c ≠ '"') (hslash : c ≠ '\\')
    (hcontrol : ¬ c.toNat < 0x20) (cs : List Char) :
    textBody (c :: cs) = (textBody cs).map fun (body, rest) => (c :: body, rest) := by
  rw [textBody, if_neg hquote, if_neg hslash, if_neg hcontrol]

/-- A control character is written by its number. -/
theorem escape_control {c : Char} (hcontrol : c.toNat < 0x20) (cs : List Char) :
    escape ('u' :: '0' :: '0' :: Nat.digitChar (c.toNat / 16) :: Nat.digitChar (c.toNat % 16) ::
      cs) = some (c, cs) := by
  have hall : ∀ n < 0x20,
      ['0', '0', Nat.digitChar (n / 16), Nat.digitChar (n % 16)].all (Leading.isDigit 16) = true ∧
        Leading.ofDigits 16 ['0', '0', Nat.digitChar (n / 16), Nat.digitChar (n % 16)] = n := by
    decide
  obtain ⟨hdigits, hvalue⟩ := hall c.toNat hcontrol
  have hunit : unitChar? c.toNat = some c := by
    rw [unitChar?, if_neg (by omega), Char.ofNat_toNat]
  simp only [escape, unicodeEscape, codeUnit]
  rw [if_pos hdigits, hvalue]
  simp only [hunit]

/-- A character is read back from what is written for it. -/
theorem textBody_escaped (c : Char) (cs : List Char) :
    textBody (escaped c ++ cs) = (textBody cs).map fun (body, rest) => (c :: body, rest) := by
  unfold escaped
  split_ifs with hquote hslash _ _ _ _ _ hcontrol
  -- The escapes of one letter.
  any_goals
    subst_vars
    exact textBody_of_escape rfl
  · exact textBody_of_escape (escape_control hcontrol cs)
  · exact textBody_of_plain hquote hslash hcontrol cs

/-- A text in quotes is read back, whatever its characters. -/
theorem textBody_quoted (body rest : List Char) :
    textBody (body.flatMap escaped ++ '"' :: rest) = some (body, rest) := by
  induction body with
  | nil => exact textBody_quote rest
  | cons c body ih =>
    rw [List.flatMap_cons, List.append_assoc, textBody_escaped, ih]
    rfl

/-! ## Numbers -/

/-- What a number does not go on with: the end of the text, a comma or a bracket. -/
def EndsNumber (rest : List Char) : Prop := ∀ c ∈ rest.head?, c = ',' ∨ c = ']'

theorem endsNumber_nil : EndsNumber [] := by simp [EndsNumber]

theorem endsNumber_comma (rest : List Char) : EndsNumber (',' :: rest) := by simp [EndsNumber]

theorem endsNumber_bracket (rest : List Char) : EndsNumber (']' :: rest) := by simp [EndsNumber]

theorem places_of_ends {rest : List Char} (hends : EndsNumber rest) :
    places rest = some (none, rest) := by
  cases rest with
  | nil => rfl
  | cons c rest => rcases hends c rfl with rfl | rfl <;> rfl

theorem exponent_of_ends {rest : List Char} (hends : EndsNumber rest) :
    exponent rest = some (none, rest) := by
  cases rest with
  | nil => rfl
  | cons c rest => rcases hends c rfl with rfl | rfl <;> rfl

theorem ofDigits_singleton {c : Char} (hdigit : c.isDigit = true) :
    Leading.ofDigits 10 [c] = c.toNat - '0'.toNat := by
  simp only [Leading.ofDigits, List.foldl_cons, List.foldl_nil,
    Leading.digitValue?_of_isDigit hdigit, Option.getD_some, Nat.zero_mul, Nat.zero_add]

/-- All digits are taken up if the number fits that they write. -/
theorem gather_eq {digits : List Char} (hdigits : ∀ c ∈ digits, c.isDigit = true)
    {significand : Nat} (hfits : Nat.ofDigitChars 10 digits significand < UInt64.size) :
    gather significand digits = (Nat.ofDigitChars 10 digits significand, digits.length) := by
  induction digits generalizing significand with
  | nil => rfl
  | cons d digits ih =>
    rw [List.forall_mem_cons] at hdigits
    have hnext : Leading.ofDigits 10 [d] + significand * 10 =
        10 * significand + (d.toNat - '0'.toNat) := by
      rw [ofDigits_singleton hdigits.1]
      omega
    rw [Nat.ofDigitChars_cons] at hfits ⊢
    -- The digits so far write no more than all of them.
    have hgrows : 10 * significand + (d.toNat - '0'.toNat) ≤
        Nat.ofDigitChars 10 digits (10 * significand + (d.toNat - '0'.toNat)) := by
      rw [Nat.ofDigitChars_eq_ofDigitChars_zero]
      exact Nat.le_add_right_of_le (Nat.le_mul_of_pos_left _ (Nat.pow_pos (by decide)))
    rw [gather, hnext, if_pos (Nat.lt_of_le_of_lt hgrows hfits), ih hdigits.2 hfits]
    rfl

theorem whole_toDigits (n : Nat) {rest : List Char} (hends : EndsNumber rest) :
    whole (Nat.toDigits 10 n ++ rest) = some (Nat.toDigits 10 n, rest) := by
  have hdigit : ∀ c ∈ Nat.toDigits 10 n, c.isDigit = true := fun c hc =>
    Nat.isDigit_of_mem_toDigits (by decide) (by decide) hc
  have hrest : ∀ c ∈ rest.head?, ¬ c.isDigit = true := by
    intro c hc
    rcases hends c hc with rfl | rfl <;> decide
  obtain ⟨htake, hdrop⟩ := Leading.takeWhile_append_of_head? hdigit hrest
  unfold whole
  rw [htake, hdrop]
  split
  · rename_i hnil
    exact absurd hnil Nat.toDigits_ne_nil
  · rename_i second others hzero
    by_cases hpos : 0 < n
    · exact absurd (by rw [hzero]; rfl) (Leading.head?_toDigits_ne hpos)
    · obtain rfl : n = 0 := by omega
      rw [Nat.toDigits_zero] at hzero
      cases hzero
  · rfl

theorem unsigned_toDigits (negative : Bool) {n : Nat} (hfits : n < UInt64.size) {rest : List Char}
    (hends : EndsNumber rest) :
    unsigned negative (Nat.toDigits 10 n ++ rest) = some (integral negative n, rest) := by
  have hdigit : ∀ c ∈ Nat.toDigits 10 n, c.isDigit = true := fun c hc =>
    Nat.isDigit_of_mem_toDigits (by decide) (by decide) hc
  have hgather : gather 0 (Nat.toDigits 10 n) = (n, (Nat.toDigits 10 n).length) := by
    rw [gather_eq hdigit (by rwa [Nat.ofDigitChars_ten_toDigits]), Nat.ofDigitChars_ten_toDigits]
  simp only [unsigned, whole_toDigits n hends, places_of_ends hends, exponent_of_ends hends,
    hgather, Option.bind_eq_bind, Option.bind_some, Nat.sub_self, if_true, Option.pure_def]

theorem number_of_ne {c : Char} (hminus : c ≠ '-') (cs : List Char) :
    number (c :: cs) = unsigned false (c :: cs) := by
  unfold number
  split
  · rename_i heq
    exact absurd (List.cons.inj heq).1 hminus
  · rfl

/-- An integer of sixty-four bits is read back. -/
theorem number_toString {i : Int} (hlow : -2 ^ 63 ≤ i) (hhigh : i < 2 ^ 64) {rest : List Char}
    (hends : EndsNumber rest) :
    number ((toString i).toList ++ rest) = some (.integer i, rest) := by
  have hsize : UInt64.size = 2 ^ 64 := rfl
  rcases Leading.toList_toString i with ⟨hsign, d, digits, hdigit, hdigits, htext⟩ | ⟨hsign, htext⟩
  · have hminus : d ≠ '-' := by
      rintro rfl
      exact absurd hdigit (by decide)
    have hread := unsigned_toDigits false (n := i.toNat) (by omega) hends
    have hvalue : integral false i.toNat = .integer i := by
      rw [integral, if_neg Bool.false_ne_true, Int.toNat_of_nonneg hsign]
    rw [htext, List.cons_append, number_of_ne hminus, ← List.cons_append, ← hdigits, hread, hvalue]
  · have hread := unsigned_toDigits true (n := (-i).toNat) (by omega) hends
    have hvalue : integral true (-i).toNat = .integer i := by
      rw [integral, if_pos rfl, if_neg (by omega), Int.toNat_of_nonneg (by omega), Int.neg_neg]
    rw [htext, List.cons_append, number, hread, hvalue]

/-! ## Values -/

/-- Values that are read back, with at most so many arrays inside each other. -/
inductive Readable : Nat → Json → Prop
  | null {depth : Nat} : Readable depth .null
  | bool {depth : Nat} (b : Bool) : Readable depth (.bool b)
  | integer {depth : Nat} {i : Int} (hlow : -2 ^ 63 ≤ i) (hhigh : i < 2 ^ 64) :
    Readable depth (.integer i)
  | text {depth : Nat} (s : String) : Readable depth (.text s)
  | array {depth : Nat} {items : List Json} (hitems : ∀ item ∈ items, Readable depth item) :
    Readable (depth + 1) (.array items)

/-- What a value can begin with: no blank and no closing bracket. -/
def Begins (cs : List Char) : Prop := ∃ c rest, cs = c :: rest ∧ isBlank c = false ∧ c ≠ ']'

theorem Begins.skipBlanks_append {cs : List Char} (hbegins : Begins cs) (rest : List Char) :
    skipBlanks (cs ++ rest) = cs ++ rest := by
  obtain ⟨c, cs, rfl, hblank, -⟩ := hbegins
  rw [skipBlanks, List.cons_append, List.dropWhile_cons_of_neg (by rw [hblank]; decide)]

theorem Readable.begins {depth : Nat} {json : Json} (hreadable : Readable depth json) :
    Begins json.chars := by
  cases hreadable with
  | null => exact ⟨'n', _, rfl, by decide, by decide⟩
  | bool b =>
    cases b with
    | true => exact ⟨'t', _, rfl, by decide, by decide⟩
    | false => exact ⟨'f', _, rfl, by decide, by decide⟩
  | @integer _ i hlow hhigh =>
    rcases Leading.toList_toString i with ⟨-, d, digits, hdigit, -, htext⟩ | ⟨-, htext⟩
    · have hne {c : Char} (hc : c.isDigit = false) : d ≠ c := by
        rintro rfl
        rw [hdigit] at hc
        cases hc
      refine ⟨d, digits, by rw [chars, htext], ?_, hne (by decide)⟩
      simp only [isBlank, decide_eq_false (hne (c := ' ') (by decide)),
        decide_eq_false (hne (c := '\n') (by decide)),
        decide_eq_false (hne (c := '\t') (by decide)),
        decide_eq_false (hne (c := '\r') (by decide)), Bool.or_self]
    · exact ⟨'-', _, by rw [chars, htext], by decide, by decide⟩
  | text s => exact ⟨'"', _, by rw [chars, quoted], by decide, by decide⟩
  | array hitems => exact ⟨'[', _, by rw [chars], by decide, by decide⟩

/-- A reader gives back what is written for a value. -/
structure ReadsBack (one : List Char → Option (Json × List Char)) (json : Json) : Prop where
  begins : Begins json.chars
  reads : ∀ rest, EndsNumber rest → one (json.chars ++ rest) = some (json, rest)

theorem charsItems_cons_cons (item next : Json) (rest : List Json) :
    charsItems (item :: next :: rest) = item.chars ++ ',' :: charsItems (next :: rest) := by
  rw [charsItems]
  exact List.cons_ne_nil _ _

/-- The items of an array are read back if each of them is. -/
theorem items_charsItems {one : List Char → Option (Json × List Char)} {list : List Json}
    (hne : list ≠ []) (hlist : ∀ item ∈ list, ReadsBack one item) (fuel : Nat)
    (hfuel : list.length ≤ fuel) (rest : List Char) :
    items one fuel (charsItems list ++ ']' :: rest) = some (list, rest) := by
  induction list generalizing fuel with
  | nil => exact absurd rfl hne
  | cons item others ih =>
    obtain ⟨fuel, rfl⟩ : ∃ k, fuel = k + 1 := ⟨fuel - 1, by
      rw [List.length_cons] at hfuel
      omega⟩
    have hitem := hlist item List.mem_cons_self
    cases others with
    | nil =>
      rw [charsItems, items, hitem.begins.skipBlanks_append,
        hitem.reads _ (endsNumber_bracket rest)]
      rfl
    | cons next others =>
      have hmore := ih (List.cons_ne_nil _ _)
        (fun other hother => hlist other (List.mem_cons_of_mem _ hother))
        fuel (Nat.le_of_succ_le_succ hfuel)
      rw [charsItems_cons_cons, List.append_assoc, List.cons_append, items,
        hitem.begins.skipBlanks_append, hitem.reads _ (endsNumber_comma _)]
      have hcomma (cs : List Char) : skipBlanks (',' :: cs) = ',' :: cs := rfl
      simp only [Option.bind_eq_bind, Option.bind_some, hcomma, hmore, Option.pure_def]

/-- There are no more items than characters. -/
theorem length_le_charsItems {list : List Json} (hlist : ∀ item ∈ list, Begins item.chars) :
    list.length ≤ (charsItems list).length := by
  induction list with
  | nil => exact Nat.zero_le _
  | cons item others ih =>
    obtain ⟨c, cs, hitem, -⟩ := hlist item List.mem_cons_self
    have hothers := ih fun other hother => hlist other (List.mem_cons_of_mem _ hother)
    cases others with
    | nil =>
      rw [charsItems, hitem]
      simp
    | cons next others =>
      rw [charsItems_cons_cons, hitem]
      simp only [List.length_cons, List.length_append] at hothers ⊢
      omega

/-- An array is read back if each of its items is. -/
theorem arrayBody_charsItems {one : List Char → Option (Json × List Char)} {list : List Json}
    (hlist : ∀ item ∈ list, ReadsBack one item) (rest : List Char) :
    arrayBody one (charsItems list ++ ']' :: rest) = some (.array list, rest) := by
  cases list with
  | nil => rfl
  | cons item others =>
    have hlength := length_le_charsItems fun other hother => (hlist other hother).begins
    have hitems := items_charsItems (List.cons_ne_nil item others) hlist
      ((charsItems (item :: others) ++ ']' :: rest).length + 1) (by
        rw [List.length_append]
        omega) rest
    have hbegins : Begins (charsItems (item :: others)) := by
      obtain ⟨c, cs, hitem, hblank, hbracket⟩ := (hlist item List.mem_cons_self).begins
      cases others with
      | nil => exact ⟨c, cs, by rw [charsItems, hitem], hblank, hbracket⟩
      | cons next others =>
        exact ⟨c, _, by rw [charsItems_cons_cons, hitem, List.cons_append], hblank, hbracket⟩
    unfold arrayBody
    rw [hbegins.skipBlanks_append]
    split
    · rename_i heq
      obtain ⟨c, cs, hcons, -, hbracket⟩ := hbegins
      rw [hcons] at heq
      exact absurd (List.cons.inj heq).1 hbracket
    · rw [hitems]
      rfl

theorem valueWith_of_digit {c : Char} (hc : c = '-' ∨ c.isDigit = true)
    (inner : Option (List Char → Option (Json × List Char))) (cs : List Char) :
    valueWith inner (c :: cs) = number (c :: cs) := by
  unfold valueWith
  split
  case h_7 => rfl
  all_goals
    rename_i heq
    cases heq
    exact absurd hc (by decide)

theorem word_append (letters : List Char) (json : Json) (rest : List Char) :
    word letters json (letters ++ rest) = some (json, rest) := by
  rw [word, List.take_left, if_pos rfl, List.drop_left]

theorem value_eq_valueWith (depth : Nat) : ∃ inner, value depth = valueWith inner := by
  cases depth with
  | zero => exact ⟨none, rfl⟩
  | succ depth => exact ⟨some (value depth), rfl⟩

/-- A value is read back from the front of a text. -/
theorem value_chars {depth : Nat} {json : Json} (hreadable : Readable depth json)
    (rest : List Char) (hends : EndsNumber rest) :
    value depth (json.chars ++ rest) = some (json, rest) := by
  induction hreadable generalizing rest with
  | @null depth =>
    obtain ⟨inner, hvalue⟩ := value_eq_valueWith depth
    rw [hvalue, chars]
    exact word_append ['n', 'u', 'l', 'l'] .null rest
  | @bool depth b =>
    obtain ⟨inner, hvalue⟩ := value_eq_valueWith depth
    rw [hvalue]
    cases b with
    | true =>
      rw [chars]
      exact word_append ['t', 'r', 'u', 'e'] (.bool true) rest
    | false =>
      rw [chars]
      exact word_append ['f', 'a', 'l', 's', 'e'] (.bool false) rest
  | @integer depth i hlow hhigh =>
    obtain ⟨inner, hvalue⟩ := value_eq_valueWith depth
    have hnumber := number_toString hlow hhigh hends
    rw [hvalue, chars]
    rcases Leading.toList_toString i with ⟨-, d, digits, hdigit, -, htext⟩ | ⟨-, htext⟩
    · rw [htext, List.cons_append] at hnumber ⊢
      rw [valueWith_of_digit (.inr hdigit), hnumber]
    · rw [htext, List.cons_append] at hnumber ⊢
      rw [valueWith_of_digit (.inl rfl), hnumber]
  | @text depth s =>
    obtain ⟨inner, hvalue⟩ := value_eq_valueWith depth
    have hbody := textBody_quoted s.toList rest
    rw [hvalue, chars, quoted, List.cons_append, List.append_assoc, List.singleton_append]
    simp only [valueWith, hbody, Option.map_some, String.ofList_toList]
  | @array depth items hitems ih =>
    have hlist : ∀ item ∈ items, ReadsBack (value depth) item := fun item hitem =>
      ⟨(hitems item hitem).begins, ih item hitem⟩
    have hbody := arrayBody_charsItems hlist rest
    rw [chars, List.cons_append, List.append_assoc, List.singleton_append]
    exact hbody

/-- The text of a whole value is read back. -/
theorem read?_chars {json : Json} (hreadable : Readable maxDepth json) :
    read? json.chars = some json := by
  have hblanks := hreadable.begins.skipBlanks_append []
  have hvalue := value_chars hreadable [] endsNumber_nil
  rw [List.append_nil] at hblanks hvalue
  rw [read?, hblanks, hvalue]
  rfl

end Json
end EngineLink
