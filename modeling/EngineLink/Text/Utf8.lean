/-!
# Texts as bytes

Bytes are lists, so that a message can be taken apart from its front.  A text is
written as its UTF-8 bytes, and only bytes that are such a writing read as a text.

A text can also be looked through byte by byte, each byte taken for a character
({lit}`units`).  That finds characters of seven bits where they are, because no byte of
another character looks like one; a part found that way is cut out by its places
among the bytes ({lit}`slice?`).

Main results:

- Theorem {lit}`decode?_encode`: the bytes of a text read as the text.
- Theorem {lit}`takeWhile_units`: a run of characters of seven bits is the same run of
  bytes.
- Theorem {lit}`slice?_append`: a part between whole characters can be cut out.
-/

namespace EngineLink

/-- A string of bytes. -/
abbrev Bytes := List UInt8

namespace Utf8

/-- The UTF-8 bytes of a text. -/
def encode (s : String) : Bytes := s.toUTF8.data.toList

/-- The text written by some bytes, if they are valid UTF-8. -/
def decode? (bytes : Bytes) : Option String := String.fromUTF8? ⟨bytes.toArray⟩

/-- The text without a byte order mark. -/
def withoutMark : List Char → List Char
  | c :: rest => if c.toNat = 0xfeff then rest else c :: rest
  | [] => []

/-- The bytes of a text, each one taken for a character. -/
def units (text : String) : List Char := (encode text).map fun b => Char.ofNat b.toNat

/-- The part of a text between two places among its bytes.  There is none unless the
places are in order and each is at the beginning of a character or at the end. -/
def slice? (text : String) (start stop : Nat) : Option String :=
  if h : start ≤ stop ∧ String.Pos.Raw.IsValid text ⟨start⟩ ∧
      String.Pos.Raw.IsValid text ⟨stop⟩ then
    some (text.extract ⟨⟨start⟩, h.2.1⟩ ⟨⟨stop⟩, h.2.2⟩)
  else none

/-- Reading back the bytes of a text gives the text. -/
@[simp] theorem decode?_encode (s : String) : decode? (encode s) = some s := by
  have h : (⟨(encode s).toArray⟩ : ByteArray) = s.toUTF8 := by simp [encode]
  unfold decode?
  rw [h]
  unfold String.fromUTF8?
  rw [String.toUTF8_eq_toByteArray, dif_pos s.isValidUTF8]
  rfl

/-- Bytes that read as a text are the bytes of that text. -/
theorem encode_of_decode? {bytes : Bytes} {s : String} (h : decode? bytes = some s) :
    encode s = bytes := by
  simp only [decode?, String.fromUTF8?] at h
  split at h
  · cases h
    simp [encode, String.fromUTF8]
  · cases h

/-! ## Characters among the bytes -/

theorem encode_ofList (cs : List Char) :
    encode (String.ofList cs) = cs.flatMap String.utf8EncodeChar := by
  simp [encode, List.utf8Encode]

theorem encodeChar_of_lt {c : Char} (hascii : c.toNat < 128) :
    String.utf8EncodeChar c = [UInt8.ofNat c.toNat] := by
  have hsmall : c.val.toNat ≤ 0x7f := Nat.le_of_lt_succ hascii
  simp only [String.utf8EncodeChar]
  rw [if_pos hsmall]
  rfl

/-- A character of more than seven bits has no byte of seven bits. -/
theorem le_of_mem_encodeChar {c : Char} (hother : 128 ≤ c.toNat) {b : UInt8}
    (hb : b ∈ String.utf8EncodeChar c) : 128 ≤ b.toNat := by
  have hlarge : ¬ c.val.toNat ≤ 0x7f := Nat.not_le.mpr hother
  have hbyte : ∀ n, 128 ≤ n → n < 256 → 128 ≤ (UInt8.ofNat n).toNat := by
    intro n hlow hhigh
    rw [UInt8.toNat_ofNat_of_lt' hhigh]
    exact hlow
  -- Two, three or four bytes, each with its highest bit set.
  simp only [String.utf8EncodeChar] at hb
  rw [if_neg hlarge] at hb
  split at hb
  · simp only [List.mem_cons, List.not_mem_nil, or_false] at hb
    rcases hb with rfl | rfl <;> exact hbyte _ (by omega) (by omega)
  · split at hb
    · simp only [List.mem_cons, List.not_mem_nil, or_false] at hb
      rcases hb with rfl | rfl | rfl <;> exact hbyte _ (by omega) (by omega)
    · simp only [List.mem_cons, List.not_mem_nil, or_false] at hb
      rcases hb with rfl | rfl | rfl | rfl <;> exact hbyte _ (by omega) (by omega)

/-- A character of seven bits is its own byte. -/
theorem units_cons_of_lt {c : Char} (hascii : c.toNat < 128) (rest : List Char) :
    units (.ofList (c :: rest)) = c :: units (.ofList rest) := by
  have hbyte : (UInt8.ofNat c.toNat).toNat = c.toNat :=
    UInt8.toNat_ofNat_of_lt' (Nat.lt_trans hascii (by decide))
  simp only [units, encode_ofList, List.flatMap_cons, encodeChar_of_lt hascii, List.cons_append,
    List.nil_append, List.map_cons, hbyte, Char.ofNat_toNat]

/-- The first byte of any other character is none of seven bits. -/
theorem units_cons_of_le {c : Char} (hother : 128 ≤ c.toNat) (rest : List Char) :
    ∃ u us, units (.ofList (c :: rest)) = u :: us ∧ 128 ≤ u.toNat := by
  cases hbytes : String.utf8EncodeChar c with
  | nil => exact absurd hbytes String.utf8EncodeChar_ne_nil
  | cons b bs =>
    have hlow : 128 ≤ b.toNat := le_of_mem_encodeChar hother (hbytes ▸ List.mem_cons_self)
    have hhigh := b.toNat_lt
    have hunit : (Char.ofNat b.toNat).toNat = b.toNat := by
      rw [Char.ofNat, dif_pos (.inl (by omega))]
      rfl
    have hunits : units (.ofList (c :: rest)) = Char.ofNat b.toNat ::
        ((bs ++ rest.flatMap String.utf8EncodeChar).map fun b => Char.ofNat b.toNat) := by
      simp only [units, encode_ofList, List.flatMap_cons, hbytes, List.cons_append, List.map_cons]
    exact ⟨_, _, hunits, Nat.le_trans hlow (Nat.le_of_eq hunit.symm)⟩

theorem length_units (text : String) : (units text).length = text.utf8ByteSize := by
  simp [units, encode]

/-- Characters of seven bits are their own bytes. -/
theorem units_eq_self {cs : List Char} (hascii : ∀ c ∈ cs, c.toNat < 128) :
    units (.ofList cs) = cs := by
  induction cs with
  | nil => rfl
  | cons c rest ih =>
    have hrest : ∀ d ∈ rest, d.toNat < 128 := fun d hd => hascii d (List.mem_cons_of_mem _ hd)
    rw [units_cons_of_lt (hascii c List.mem_cons_self), ih hrest]

section Runs

variable {p : Char → Bool} (hp : ∀ c, p c = true → c.toNat < 128)

include hp

/-- A run of characters of seven bits is the same run of bytes. -/
theorem takeWhile_units (cs : List Char) :
    (units (.ofList cs)).takeWhile p = cs.takeWhile p := by
  induction cs with
  | nil => rfl
  | cons c rest ih =>
    by_cases hascii : c.toNat < 128
    · rw [units_cons_of_lt hascii, List.takeWhile_cons, List.takeWhile_cons, ih]
    · obtain ⟨u, us, hunits, hu⟩ := units_cons_of_le (Nat.not_lt.mp hascii) rest
      have hchar : ¬ p c = true := fun h => hascii (hp c h)
      have hunit : ¬ p u = true := fun h => Nat.not_lt.mpr hu (hp u h)
      rw [hunits, List.takeWhile_cons, List.takeWhile_cons, if_neg hchar, if_neg hunit]

/-- What follows such a run are the bytes of the characters that follow it. -/
theorem dropWhile_units (cs : List Char) :
    (units (.ofList cs)).dropWhile p = units (.ofList (cs.dropWhile p)) := by
  induction cs with
  | nil => rfl
  | cons c rest ih =>
    by_cases hascii : c.toNat < 128
    · rw [units_cons_of_lt hascii, List.dropWhile_cons, List.dropWhile_cons, ih]
      split
      · rfl
      · rw [units_cons_of_lt hascii]
    · obtain ⟨u, us, hunits, hu⟩ := units_cons_of_le (Nat.not_lt.mp hascii) rest
      have hchar : ¬ p c = true := fun h => hascii (hp c h)
      have hunit : ¬ p u = true := fun h => Nat.not_lt.mpr hu (hp u h)
      rw [hunits, List.dropWhile_cons, List.dropWhile_cons, if_neg hchar, if_neg hunit, hunits]

end Runs

/-- A part between whole characters can be cut out. -/
theorem slice?_append (front middle back : String) :
    slice? (front ++ middle ++ back) front.utf8ByteSize (front.utf8ByteSize + middle.utf8ByteSize) =
      some middle := by
  have hstart : String.Pos.Raw.IsValid (front ++ middle ++ back) ⟨front.utf8ByteSize⟩ := by
    rw [String.Pos.Raw.isValid_iff_exists_append]
    exact ⟨front, middle ++ back, String.append_assoc, rfl⟩
  have hstop : String.Pos.Raw.IsValid (front ++ middle ++ back)
      ⟨front.utf8ByteSize + middle.utf8ByteSize⟩ := by
    rw [String.Pos.Raw.isValid_iff_exists_append]
    refine ⟨front ++ middle, back, rfl, ?_⟩
    rw [String.rawEndPos, String.utf8ByteSize_append]
  have hbytes : (front.toByteArray ++ (middle.toByteArray ++ back.toByteArray)).extract
      front.toByteArray.size (front.toByteArray.size + middle.toByteArray.size) =
        middle.toByteArray :=
    (ByteArray.extract_append_size_add (i := 0)).trans (ByteArray.extract_append_eq_left rfl)
  rw [slice?, dif_pos ⟨Nat.le_add_right _ _, hstart, hstop⟩, Option.some.injEq,
    ← String.toByteArray_inj, String.toByteArray_extract]
  simp only [String.toByteArray_append, ByteArray.append_assoc]
  exact hbytes

end Utf8
end EngineLink
