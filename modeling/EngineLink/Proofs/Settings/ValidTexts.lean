import EngineLink.Proofs.Number.Numerals
import EngineLink.Settings.Load

/-!
# Texts and nodes that give a setting

A variable gives its setting only if its text is valid: a list of languages between commas, or a
number.  A document gives a setting if its key has a node of the right kind.  Both are said here
without the readers, and each reader accepts exactly what is valid.

Main results:

- Theorem {lit}`trimmed_trim` and {lit}`trim_eq_of_trimmed`: a text without the blanks around it.
- Theorem {lit}`languages?_eq_some_iff` and {lit}`decimal?_eq_some_iff`: the texts of variables.
- Theorem {lit}`texts?_eq_some_iff` and {lit}`number?_eq_some_iff`: the nodes of documents.
-/

namespace EngineLink

/-! ## Texts without blanks around them -/

namespace Text

/-- What is left of some characters without the blanks around them. -/
def Trimmed (cs core : List Char) : Prop :=
  (∃ front back, cs = front ++ core ++ back ∧ (∀ c ∈ front, isBlank c = true) ∧
    ∀ c ∈ back, isBlank c = true) ∧
  (∀ c ∈ core.head?, isBlank c = false) ∧ ∀ c ∈ core.getLast?, isBlank c = false

variable {cs core : List Char}

/-- What is left after the blanks in front does not begin with one. -/
theorem head_dropWhile (cs : List Char) :
    ∀ c ∈ (cs.dropWhile isBlank).head?, isBlank c = false := by
  intro c hc
  have hhead := List.head?_dropWhile_not isBlank cs
  rw [Option.mem_def.mp hc] at hhead
  exact hhead

/-- Nothing is dropped from characters that do not begin with a blank. -/
theorem dropWhile_of_head (hhead : ∀ c ∈ cs.head?, isBlank c = false) :
    cs.dropWhile isBlank = cs := by
  cases cs with
  | nil => rfl
  | cons c rest => rw [List.dropWhile_cons, if_neg (by simp [hhead c rfl])]

theorem isBlank_of_mem_takeWhile {c : Char} (hc : c ∈ cs.takeWhile isBlank) : isBlank c = true :=
  List.all_eq_true.mp List.all_takeWhile c hc

/-- Blanks at the end are cut off, and only they. -/
theorem trimEnd_append_takeWhile (cs : List Char) :
    trimEnd cs ++ (cs.reverse.takeWhile isBlank).reverse = cs := by
  rw [trimEnd, ← List.reverse_append, List.takeWhile_append_dropWhile, List.reverse_reverse]

/-- Trimming cuts off blanks at both ends, and leaves none there. -/
theorem trimmed_trim (cs : List Char) : Trimmed cs (trim cs) := by
  have hend := trimEnd_append_takeWhile (cs.dropWhile isBlank)
  refine ⟨⟨cs.takeWhile isBlank, ((cs.dropWhile isBlank).reverse.takeWhile isBlank).reverse,
    ?_, fun c hc => isBlank_of_mem_takeWhile hc, ?_⟩, ?_, ?_⟩
  · rw [List.append_assoc, trim, hend, List.takeWhile_append_dropWhile]
  · intro c hc
    exact isBlank_of_mem_takeWhile (List.mem_reverse.mp hc)
  · -- the front of what is left is the front of the text without the blanks before it
    intro c hc
    apply head_dropWhile cs c
    rw [← hend, List.head?_append, ← trim, Option.mem_def.mp hc]
    rfl
  · intro c hc
    rw [trim, trimEnd, List.getLast?_reverse] at hc
    exact head_dropWhile _ c hc

/-- What is left between the blanks at both ends is determined, and trimming finds it. -/
theorem trim_eq_of_trimmed (htrimmed : Trimmed cs core) : trim cs = core := by
  obtain ⟨⟨front, back, rfl, hfront, hback⟩, hhead, hlast⟩ := htrimmed
  have hreverse : core.reverse.dropWhile isBlank = core.reverse := by
    apply dropWhile_of_head
    rwa [List.head?_reverse]
  have hend : trimEnd (core ++ back) = core := by
    rw [trimEnd, List.reverse_append, List.dropWhile_append_of_pos, hreverse, List.reverse_reverse]
    intro c hc
    exact hback c (List.mem_reverse.mp hc)
  rw [trim, List.append_assoc, List.dropWhile_append_of_pos hfront]
  cases core with
  | nil =>
    rw [List.nil_append, ← List.append_nil back, List.dropWhile_append_of_pos hback]
    rfl
  | cons c rest =>
    rw [dropWhile_of_head (fun d hd => hhead d (by simpa using hd)), hend]

end Text

namespace Settings

/-! ## Variables -/

/-- A piece of a text without commas, and what is left of it without blanks. -/
structure Piece where
  written : List Char
  core : List Char
  noComma : ',' ∉ written
  trimmed : Text.Trimmed written core

/-- The languages that a text gives: the pieces between its commas that are not blank, in order and
without the blanks around them.  There has to be one. -/
def HasLanguages (text : String) (languages : List String) : Prop :=
  languages ≠ [] ∧ ∃ parts : List Piece, parts ≠ [] ∧
    text.toList = [','].intercalate (parts.map Piece.written) ∧
    languages.map String.toList = (parts.map Piece.core).filter (· ≠ [])

/-- A decimal number without a sign, within sixty-four bits. -/
def IsUnsigned (digits : List Char) (n : UInt64) : Prop :=
  digits ≠ [] ∧ (∀ c ∈ digits, c.isDigit = true) ∧ Nat.ofDigitChars 10 digits 0 = n.toNat

/-- The number that a text gives, with blanks around it and a plus sign in front allowed. -/
def HasNumber (text : String) (n : UInt64) : Prop :=
  ∃ core, Text.Trimmed text.toList core ∧
    (IsUnsigned core n ∨ ∃ digits, core = '+' :: digits ∧ IsUnsigned digits n)

/-- A character other than a comma belongs to the first piece. -/
theorem pieces_cons_of_ne {c : Char} (hc : c ≠ ',') (rest : List Char) :
    ∃ piece others, pieces rest = piece :: others ∧
      pieces (c :: rest) = (c :: piece) :: others := by
  rw [pieces, if_neg hc]
  cases hpieces : pieces rest with
  | nil =>
    cases rest with
    | nil => cases hpieces
    | cons d rest =>
      rw [pieces] at hpieces
      split at hpieces
      · cases hpieces
      · split at hpieces <;> cases hpieces
  | cons piece others => exact ⟨piece, others, rfl, rfl⟩

/-- The pieces are those of the list library, which joins them again. -/
theorem pieces_eq_splitOn (cs : List Char) : pieces cs = cs.splitOn ',' := by
  induction cs with
  | nil => rfl
  | cons c rest ih =>
    simp only [List.splitOn] at ih ⊢
    rw [List.splitOnP_cons_eq_if_modifyHead, ← ih]
    by_cases hc : c = ','
    · rw [pieces, if_pos hc, if_pos (beq_iff_eq.mpr hc)]
    · obtain ⟨piece, others, hrest, hcons⟩ := pieces_cons_of_ne hc rest
      rw [if_neg (by simpa using hc), hcons, hrest]
      rfl

/-- No piece has a comma. -/
theorem comma_not_mem_pieces (cs : List Char) : ∀ piece ∈ pieces cs, ',' ∉ piece := by
  induction cs with
  | nil => exact List.forall_mem_singleton.mpr List.not_mem_nil
  | cons c rest ih =>
    by_cases hc : c = ','
    · rw [pieces, if_pos hc]
      exact List.forall_mem_cons.mpr ⟨List.not_mem_nil, ih⟩
    · obtain ⟨piece, others, hrest, hcons⟩ := pieces_cons_of_ne hc rest
      rw [hrest, List.forall_mem_cons] at ih
      rw [hcons, List.forall_mem_cons]
      refine ⟨?_, ih.2⟩
      rw [List.mem_cons, not_or]
      exact ⟨Ne.symm hc, ih.1⟩

/-- The pieces of a text are all that commas can have joined to it. -/
theorem pieces_intercalate {parts : List Piece} (hparts : parts ≠ []) :
    pieces ([','].intercalate (parts.map Piece.written)) = parts.map Piece.written := by
  rw [pieces_eq_splitOn]
  apply List.splitOn_intercalate
  · intro piece hpiece
    obtain ⟨part, -, rfl⟩ := List.mem_map.mp hpiece
    exact part.noComma
  · rwa [ne_eq, List.map_eq_nil_iff]

/-- The pieces of a text, each with what is left of it. -/
def trimmedPieces (cs : List Char) : List Piece :=
  (pieces cs).pmap (fun piece hpiece => ⟨piece, Text.trim piece, hpiece, Text.trimmed_trim piece⟩)
    (comma_not_mem_pieces cs)

theorem written_trimmedPieces (cs : List Char) :
    (trimmedPieces cs).map Piece.written = pieces cs := by
  rw [trimmedPieces, List.map_pmap, List.pmap_eq_map, List.map_id']

/-- What is left of a piece is what trimming leaves. -/
theorem core_eq_trim (parts : List Piece) :
    parts.map Piece.core = (parts.map Piece.written).map Text.trim := by
  rw [List.map_map]
  apply List.map_congr_left
  intro part _
  exact (Text.trim_eq_of_trimmed part.trimmed).symm

/-- The reader of languages in terms of the pieces it cuts. -/
theorem languages?_eq_some {text : String} {languages : List String} :
    languages? text = some languages ↔ languages ≠ [] ∧
      languages.map String.toList = ((pieces text.toList).map Text.trim).filter (· ≠ []) := by
  unfold languages?
  cases ((pieces text.toList).map Text.trim).filter (· ≠ []) with
  | nil =>
    constructor
    · exact fun hread => absurd hread (by simp)
    · rintro ⟨hsome, hlanguages⟩
      exact absurd (List.map_eq_nil_iff.mp hlanguages) hsome
  | cons core cores =>
    simp only [Option.some.injEq]
    constructor
    · rintro rfl
      refine ⟨by simp, ?_⟩
      rw [List.map_map]
      exact List.map_id'' (fun _ => String.toList_ofList) _
    · rintro ⟨-, hlanguages⟩
      rw [← hlanguages, List.map_map]
      exact List.map_id'' (fun _ => String.ofList_toList) _

/-- The reader of languages accepts exactly the texts that give some, and answers these. -/
theorem languages?_eq_some_iff {text : String} {languages : List String} :
    languages? text = some languages ↔ HasLanguages text languages := by
  rw [languages?_eq_some]
  constructor
  · rintro ⟨hsome, hlanguages⟩
    refine ⟨hsome, trimmedPieces text.toList, ?_, ?_, ?_⟩
    · intro hnone
      have hpieces := written_trimmedPieces text.toList
      rw [hnone, pieces_eq_splitOn] at hpieces
      exact List.splitOn_ne_nil ',' text.toList hpieces.symm
    · rw [written_trimmedPieces, pieces_eq_splitOn, List.intercalate_splitOn]
    · rw [core_eq_trim, written_trimmedPieces, hlanguages]
  · rintro ⟨hsome, parts, hparts, htext, hlanguages⟩
    refine ⟨hsome, ?_⟩
    rw [htext, pieces_intercalate hparts, ← core_eq_trim, hlanguages]

/-- The number of a run of digits is read as it is written, if it fits. -/
theorem unsigned?_eq_some_iff {digits : List Char} {n : UInt64} :
    unsigned? digits = some n ↔ IsUnsigned digits n := by
  have hall : digits.all (Leading.isDigit 10) = true ↔ ∀ c ∈ digits, c.isDigit = true := by
    simp only [List.all_eq_true, Leading.isDigit_ten]
  unfold unsigned?
  by_cases hdigits : digits ≠ [] ∧ digits.all (Leading.isDigit 10) = true
  · have hascii := hall.mp hdigits.2
    rw [if_pos hdigits, Leading.ofDigits_eq hascii]
    by_cases hfits : Nat.ofDigitChars 10 digits 0 < UInt64.size
    · rw [if_pos hfits, Option.some.injEq]
      constructor
      · rintro rfl
        exact ⟨hdigits.1, hascii, (UInt64.toNat_ofNat_of_lt' hfits).symm⟩
      · rintro ⟨-, -, hvalue⟩
        rw [hvalue, UInt64.ofNat_toNat]
    · rw [if_neg hfits]
      constructor
      · exact fun hread => absurd hread (by simp)
      · rintro ⟨-, -, hvalue⟩
        exact absurd (hvalue ▸ n.toNat_lt_size) hfits
  · rw [if_neg hdigits]
    constructor
    · exact fun hread => absurd hread (by simp)
    · rintro ⟨hsome, hascii, -⟩
      exact absurd ⟨hsome, hall.mpr hascii⟩ hdigits

/-- A sign is no digit, so at most one plus sign is passed over. -/
theorem not_isUnsigned_plus (digits : List Char) (n : UInt64) : ¬ IsUnsigned ('+' :: digits) n := by
  rintro ⟨-, hascii, -⟩
  exact absurd (hascii '+' List.mem_cons_self) (by decide)

/-- The reader of numbers accepts exactly the texts that give one, and answers it. -/
theorem decimal?_eq_some_iff {text : String} {n : UInt64} :
    decimal? text = some n ↔ HasNumber text n := by
  have htrim : HasNumber text n ↔ IsUnsigned (Text.trim text.toList) n ∨
      ∃ digits, Text.trim text.toList = '+' :: digits ∧ IsUnsigned digits n := by
    constructor
    · rintro ⟨core, hcore, hnumber⟩
      rwa [Text.trim_eq_of_trimmed hcore]
    · exact fun hnumber => ⟨_, Text.trimmed_trim _, hnumber⟩
  rw [htrim, decimal?]
  generalize Text.trim text.toList = core
  split
  · rename_i digits
    rw [unsigned?_eq_some_iff]
    constructor
    · exact fun hnumber => .inr ⟨digits, rfl, hnumber⟩
    · rintro (hnumber | ⟨others, hsame, hnumber⟩)
      · exact absurd hnumber (not_isUnsigned_plus digits n)
      · cases hsame
        exact hnumber
  · rename_i hplus
    rw [unsigned?_eq_some_iff]
    constructor
    · exact .inl
    · rintro (hnumber | ⟨digits, hsame, -⟩)
      · exact hnumber
      · exact absurd hsame (hplus digits)

/-! ## Nodes of documents -/

theorem text?_eq_some_iff {value : Toml.Value} {s : String} :
    text? value = some s ↔ value = .text s := by
  cases value <;> simp [text?]

/-- Some nodes are read as texts exactly if all of them are texts. -/
theorem mapM_text?_eq_some_iff {items : List Toml.Value} {texts : List String} :
    items.mapM text? = some texts ↔ items = texts.map .text := by
  induction items generalizing texts with
  | nil =>
    rw [List.mapM_nil, eq_comm (a := []), List.map_eq_nil_iff]
    exact Option.some_inj.trans eq_comm
  | cons item rest ih =>
    rw [List.mapM_cons]
    cases texts with
    | nil => simp [Option.bind_eq_some_iff]
    | cons s texts => simp [Option.bind_eq_some_iff, text?_eq_some_iff, ih]

/-- A node gives texts exactly if it is an array of texts and of nothing else. -/
theorem texts?_eq_some_iff {node : Toml.Node} {texts : List String} :
    texts? node = some texts ↔ node = .leaf (.array (texts.map .text)) := by
  rcases node with value | _ | _
  · cases value <;> simp [texts?, mapM_text?_eq_some_iff]
  · simp [texts?]
  · simp [texts?]

/-- A node gives a number exactly if it is that number, which is neither negative nor too large. -/
theorem number?_eq_some_iff {node : Toml.Node} {n : UInt64} :
    number? node = some n ↔ node = .leaf (.integer n.toNat) := by
  rcases node with value | _ | _
  · cases value with
    | integer i =>
      have hsize := n.toNat_lt_size
      rw [number?, Toml.Node.leaf.injEq, Toml.Value.integer.injEq]
      by_cases hrange : 0 ≤ i ∧ i < UInt64.size
      · rw [if_pos hrange, Option.some.injEq]
        have hfits : i.toNat < UInt64.size := by omega
        constructor
        · rintro rfl
          rw [UInt64.toNat_ofNat_of_lt' hfits]
          omega
        · rintro rfl
          rw [Int.toNat_natCast, UInt64.ofNat_toNat]
      · rw [if_neg hrange]
        constructor
        · exact fun hread => absurd hread (by simp)
        · rintro rfl
          exact absurd ⟨by omega, by omega⟩ hrange
    | _ => simp [number?]
  · simp [number?]
  · simp [number?]

end Settings
end EngineLink
