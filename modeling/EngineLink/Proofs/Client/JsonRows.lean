import EngineLink.Proofs.Json.RoundTrip
import EngineLink.Proofs.Reference.LinkCalls
import Mathlib.Data.List.Forall2

/-!
# Rows as JSON

The rows of a query that is not paged come across as one JSON text.  Without doubles among them
nothing is lost on the way: the text is read back as the array of arrays it was written for, and
every value can be told from what it is shown as.

Main results:

- Theorem {lit}`read?_jsonRows`: the text of some rows is read back as the array of arrays it was
  written for.
- Theorem {lit}`Value.ShownAs.unique`: what a value is shown as belongs to no other value.
- Theorem {lit}`json_rows_lose_nothing`: both, and what the two calls answer that bring such rows.
-/

namespace EngineLink

open Effects Reference

/-! ## Values -/

namespace Value

/-- A value is no double. -/
def IsExact (v : Value) : Prop := ∀ x, v ≠ .real x

/-- What a value is to be shown as: an integer as the same integer, a text as the same text, and a
blob as the list of its bytes. -/
inductive ShownAs : Value → Json → Prop
  | null : ShownAs .null .null
  | integer (v : Int64) : ShownAs (.integer v) (.integer v.toInt)
  | text (s : String) : ShownAs (.text s) (.text s)
  | blob (bytes : Bytes) : ShownAs (.blob bytes) (.array (bytes.map fun b => .integer b.toNat))

theorem IsExact.shownAs {v : Value} (hexact : v.IsExact) : v.ShownAs v.toJson := by
  cases v with
  | null => exact .null
  | integer v => exact .integer v
  | real x => exact absurd rfl (hexact x)
  | text s => exact .text s
  | blob bytes => exact .blob bytes

theorem toJson_bytes_injective :
    Function.Injective fun bytes : Bytes => bytes.map fun b => Json.integer b.toNat := by
  refine List.map_injective_iff.mpr fun b c hsame => UInt8.toNat_inj.mp ?_
  exact Int.ofNat_inj.mp (Json.integer.inj hsame)

/-- What a value is shown as belongs to no other value. -/
theorem ShownAs.unique {v w : Value} {json : Json} (hv : v.ShownAs json) (hw : w.ShownAs json) :
    v = w := by
  cases hv with
  | null =>
    cases hw
    rfl
  | text s =>
    cases hw
    rfl
  | integer v =>
    generalize hjson : Json.integer v.toInt = json at hw
    cases hw with
    | integer w => rw [Int64.toInt_inj.mp (Json.integer.inj hjson)]
    | _ => cases hjson
  | blob bytes =>
    generalize hjson : Json.array (bytes.map fun b => .integer b.toNat) = json at hw
    cases hw with
    | blob others => rw [toJson_bytes_injective (Json.array.inj hjson)]
    | _ => cases hjson

/-- It is read back, one array inside another at most. -/
theorem ShownAs.readable {v : Value} {json : Json} (hshown : v.ShownAs json) (depth : Nat) :
    Json.Readable (depth + 1) json := by
  cases hshown with
  | null => exact .null
  | integer v => exact .integer v.le_toInt (Int.lt_trans v.toInt_lt (by decide))
  | text s => exact .text s
  | blob bytes =>
    refine .array fun item hitem => ?_
    obtain ⟨b, -, rfl⟩ := List.mem_map.mp hitem
    have hbyte := b.toNat_lt
    exact .integer (by omega) (by omega)

end Value

/-! ## Rows -/

/-- No double is among the values of some rows. -/
def ExactRows (rows : List Row) : Prop := ∀ row ∈ rows, ∀ v ∈ row, v.IsExact

/-- What some rows are shown as. -/
def jsonRows (rows : List Row) : List (List Json) := rows.map fun row => row.map Value.toJson

/-- Row by row and value by value, what some rows are to be shown as. -/
def ShownRows : List Row → List (List Json) → Prop := List.Forall₂ (List.Forall₂ Value.ShownAs)

theorem ExactRows.shownRows {rows : List Row} (hexact : ExactRows rows) :
    ShownRows rows (jsonRows rows) := by
  rw [ShownRows, jsonRows, List.forall₂_map_right_iff, List.forall₂_same]
  intro row hrow
  rw [List.forall₂_map_right_iff, List.forall₂_same]
  intro v hv
  exact (hexact row hrow v hv).shownAs

theorem rows?_ofRows (rows : List (List Json)) : (Json.ofRows rows).rows? = some rows := by
  rw [Json.ofRows, Json.rows?, Json.items?, Option.bind_some]
  induction rows with
  | nil => rfl
  | cons row rows ih =>
    rw [List.map_cons, List.mapM_cons, ih]
    rfl

/-- The text of some rows is read back as the array of arrays it was written for. -/
theorem read?_jsonRows {rows : List Row} (hexact : ExactRows rows) :
    Json.read? (Json.ofRows (jsonRows rows)).write.toList =
      some (Json.ofRows (jsonRows rows)) := by
  have hreadable : Json.Readable Json.maxDepth (Json.ofRows (jsonRows rows)) := by
    refine .array fun line hline => ?_
    obtain ⟨json, hjson, rfl⟩ := List.mem_map.mp hline
    obtain ⟨row, hrow, rfl⟩ := List.mem_map.mp hjson
    refine .array fun item hitem => ?_
    obtain ⟨v, hv, rfl⟩ := List.mem_map.mp hitem
    exact (hexact row hrow v hv).shownAs.readable _
  rw [Json.write, String.toList_ofList, Json.read?_chars hreadable]

theorem readRows_jsonRows {rows : List Row} (hexact : ExactRows rows) :
    Link.readRows (Utf8.encode (Json.ofRows (jsonRows rows)).write) = .ok (jsonRows rows) := by
  rw [Link.readRows, Utf8.decode?_encode, Option.bind_some, read?_jsonRows hexact,
    Option.bind_some, rows?_ofRows]

theorem ShownRows.unique {rows others : List Row} {json : List (List Json)}
    (hrows : ShownRows rows json) (hothers : ShownRows others json) : rows = others := by
  have hunique : Relator.LeftUnique Value.ShownAs := fun _ _ _ hv hw => hv.unique hw
  exact hunique.forall₂.forall₂ hrows hothers

/-! ## Calls -/

/-- Of the rows of a statement, the first one at most is found when no more are wanted. -/
theorem rowsOf_firstRow {sql : String} {args : List Value} {rows : List Row}
    {s s' : Instance × Disk} (hrows : Instance.rowsOf (.query sql args) s = (.ok rows, s')) :
    Instance.rowsOf (.firstRow sql args) s = (.ok (rows.take 1), s') := by
  simp only [Instance.rowsOf, bind_apply, Message.DbRequest.query, Message.DbRequest.firstRow]
    at hrows ⊢
  rcases hrun : Instance.onCollection (Connection.execute sql args) s with ⟨_ | found, s''⟩ <;>
    rw [hrun] at hrows
  · cases hrows
  · cases hrows
    rfl

section Calls

variable {link : Link World} {i : Instance} {s : Instance × Disk} {rows : List Row}

/-- A request for rows answers what they are shown as. -/
theorem jsonQuery_of_rowsOf {request : Message.DbRequest} (hreaches : Reaches link i)
    (hkind : request.kind = .query) (hencode : ∃ payload, encode request = .ok payload)
    (hrows : Instance.rowsOf request (i, link.engine.disk) = (.ok rows, s))
    (hexact : ExactRows rows) :
    Link.jsonQuery request link = (.ok (jsonRows rows), after link s) := by
  obtain ⟨payload, hencode⟩ := hencode
  have hquery : Instance.query request (i, link.engine.disk) =
      (.ok (Json.ofRows (jsonRows rows)), s) := by
    simp only [Instance.query, hkind, bind_apply, hrows, pure_apply]
    rfl
  have hdispatch : dispatch link.handle.raw .query payload (i, link.engine.disk) =
      (.ok (Utf8.encode (Json.ofRows (jsonRows rows)).write), s) := by
    simp only [dispatch, Reference.request, decode_encode hencode, bind_apply, hquery, pure_apply]
  obtain ⟨hlink, hanswer⟩ := invoke_known hreaches (Method.ofIds?_ids .query) payload
  rw [hdispatch] at hlink hanswer
  have hsend : Link.send .query request link =
      (.ok (Utf8.encode (Json.ofRows (jsonRows rows)).write), after link s) :=
    (send_of_ok .query hencode).trans (Prod.ext ((hanswer _).mpr rfl) hlink)
  simp only [Link.jsonQuery, bind_apply, hsend, readRows_jsonRows hexact, pure_apply]

end Calls

/-- The way of rows through JSON loses nothing.  Whatever the rows are, as long as no double is
among them, they are shown value by value as they are to be shown, as no other rows are, and the
text is read back as the same array of arrays.  On a link that reaches an instance, a query that
finds the rows there answers exactly this, and the call for the first row the first of it, or
none if there are no rows. -/
theorem json_rows_lose_nothing {rows : List Row} (hexact : ExactRows rows) :
    ShownRows rows (jsonRows rows) ∧
      (∀ others, ShownRows others (jsonRows rows) → others = rows) ∧
      Json.read? (Json.ofRows (jsonRows rows)).write.toList =
        some (Json.ofRows (jsonRows rows)) ∧
      ∀ (link : Link World) (i : Instance) (sql : String) (args : List Value)
        (s : Instance × Disk), Reaches link i →
        Instance.rowsOf (.query sql args) (i, link.engine.disk) = (.ok rows, s) →
        ((∃ payload, encode (Message.DbRequest.query sql args) = .ok payload) →
          Link.fullQuery sql args link = (.ok (jsonRows rows), after link s)) ∧
        ((∃ payload, encode (Message.DbRequest.firstRow sql args) = .ok payload) →
          Link.firstRow sql args link =
            (.ok (rows.head?.map fun row => row.map Value.toJson), after link s)) := by
  refine ⟨hexact.shownRows, fun others hothers => hothers.unique hexact.shownRows,
    read?_jsonRows hexact, fun link i sql args s hreaches hrows => ⟨fun hencode => ?_, ?_⟩⟩
  · exact jsonQuery_of_rowsOf hreaches rfl hencode hrows hexact
  · intro hencode
    have hfirst : ExactRows (rows.take 1) := fun row hrow => hexact row (List.mem_of_mem_take hrow)
    rw [Link.firstRow, bind_apply,
      jsonQuery_of_rowsOf hreaches rfl hencode (rowsOf_firstRow hrows) hfirst]
    cases rows <;> rfl

/-- The least integer, a text with characters of every kind, a blob and a null. -/
def hardRows : List Row :=
  [[.integer Int64.minValue, .text "\"\\\u0001é😀"], [.blob [0, 255], .null]]

/-- Such values come across. -/
theorem hard_rows_kept :
    ∃ link', Link.fullQuery "values (?, ?), (?, ?)" hardRows.flatten inMemory =
        (.ok [[.integer (-9223372036854775808), .text "\"\\\u0001é😀"],
          [.array [.integer 0, .integer 255], .null]], link') ∧
      Link.firstRow "values (?, ?), (?, ?)" hardRows.flatten inMemory =
        (.ok (some [.integer (-9223372036854775808), .text "\"\\\u0001é😀"]), link') := by
  have hexact : ExactRows hardRows := by simp [ExactRows, hardRows, Value.IsExact]
  have hfound : (Instance.rowsOf (.query "values (?, ?), (?, ?)" hardRows.flatten)
      (memoryInstance, inMemory.engine.disk)).1.toOption = some hardRows := by
    decide +kernel
  rcases hrows : Instance.rowsOf (.query "values (?, ?), (?, ?)" hardRows.flatten)
    (memoryInstance, inMemory.engine.disk) with ⟨_ | rows, s⟩
  · rw [hrows] at hfound
    cases hfound
  · rw [hrows] at hfound
    cases hfound
    obtain ⟨hfull, hfirst⟩ := (json_rows_lose_nothing hexact).2.2.2 inMemory memoryInstance _ _ s
      reaches_inMemory hrows
    exact ⟨after inMemory s, hfull ⟨_, encode_eq_ok_iff.mpr ⟨by decide +kernel, rfl⟩⟩,
      hfirst ⟨_, encode_eq_ok_iff.mpr ⟨by decide +kernel, rfl⟩⟩⟩

end EngineLink
