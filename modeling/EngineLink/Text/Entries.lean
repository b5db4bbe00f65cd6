/-!
# Values by name

A list of values under distinct names, in increasing order of the names.
-/

namespace EngineLink
namespace Entries

/-- Put a value under a name, before the first greater name and in place of the
value that stood there. -/
def insert {α : Type} (name : String) (value : α) : List (String × α) → List (String × α)
  | [] => [(name, value)]
  | (n, v) :: rest =>
    if name < n then (name, value) :: (n, v) :: rest
    else if n < name then (n, v) :: insert name value rest
    else (name, value) :: rest

/-- Every entry after an insertion is the new one or an old one. -/
theorem mem_insert {α : Type} {name : String} {value : α} {entries : List (String × α)}
    {e : String × α} (h : e ∈ insert name value entries) : e = (name, value) ∨ e ∈ entries := by
  induction entries with
  | nil => simpa [insert] using h
  | cons head rest ih =>
    obtain ⟨n, v⟩ := head
    simp only [insert] at h
    split at h
    · simpa using h
    · split at h
      · rcases List.mem_cons.mp h with h | h
        · exact .inr (by simp [h])
        · rcases ih h with h | h
          · exact .inl h
          · exact .inr (List.mem_cons_of_mem _ h)
      · rcases List.mem_cons.mp h with h | h
        · exact .inl h
        · exact .inr (List.mem_cons_of_mem _ h)

/-- Insertion keeps the names in increasing order. -/
theorem ordered_insert {α : Type} (name : String) (value : α) {entries : List (String × α)}
    (h : entries.Pairwise (fun a b => a.1 < b.1)) :
    (insert name value entries).Pairwise (fun a b => a.1 < b.1) := by
  induction entries with
  | nil => simp [insert]
  | cons head rest ih =>
    obtain ⟨n, v⟩ := head
    rw [List.pairwise_cons] at h
    simp only [insert]
    split
    next lt =>
      refine List.pairwise_cons.mpr ⟨?_, List.pairwise_cons.mpr h⟩
      intro e he
      rcases List.mem_cons.mp he with rfl | he
      · exact lt
      · exact String.lt_trans lt (h.1 e he)
    next =>
      split
      next gt =>
        refine List.pairwise_cons.mpr ⟨?_, ih h.2⟩
        intro e he
        rcases mem_insert he with rfl | he
        · exact gt
        · exact h.1 e he
      next nlt ngt =>
        have same : name = n := String.le_antisymm ngt nlt
        refine List.pairwise_cons.mpr ⟨?_, h.2⟩
        intro e he
        simpa [same] using h.1 e he

/-- The value under a name. -/
def find? {α : Type} (name : String) (entries : List (String × α)) : Option α :=
  (entries.find? fun e => e.1 = name).map (·.2)

end Entries
end EngineLink
