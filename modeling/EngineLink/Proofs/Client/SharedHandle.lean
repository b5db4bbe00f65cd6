import EngineLink.Proofs.Client.ActiveQuery
import EngineLink.Proofs.Page.Numbering

/-!
# Cursors of several threads on one handle

Threads that share a handle open and close cursors in any order.  To open one takes two steps,
because the lock is given up between them: the engine stores the result and gives it a number,
and only then is the number noted as that of the active query.  To close one is a single step.

When all cursors are closed, the result of the cursor that was asked for last is left behind
exactly if another cursor was noted between its being noted and its being closed, that is, if
the numbers were noted in another order than they were given out.

Main results:

- Theorem {lit}`openQuery_eq_ok_iff_steps`: the two steps are what opening a cursor does.
- Theorem {lit}`Numbered.passes`: one step of another cursor.
- Theorem {lit}`leaks_iff_overtaken`: when a result is left behind, for all orders of the steps.
- Theorem {lit}`overtaken_cursor_leaks`: steps of two threads after which one is.
-/

namespace EngineLink

open Effects Reference

/-! ## Steps of threads -/

/-- A cursor that a thread opens, and whether its query has been noted as the active one. -/
structure SharedCursor where
  cursor : Cursor
  noted : Bool

/-- A link with the cursors that were asked for on it, in this order. -/
structure SharedHandle where
  link : Link World
  cursors : List SharedCursor

/-- A step of some thread: the engine runs a paged query, the number of its result is noted, or
its cursor is closed. -/
inductive ThreadStep where
  | ask (sql : String) (args : List Value) (recentPages : Nat)
  | note (k : Nat)
  | close (k : Nat)
  deriving DecidableEq

namespace SharedHandle

/-- Take a step, if the engine answers and it is the turn of the cursor. -/
def step (h : SharedHandle) : ThreadStep → Option SharedHandle
  | .ask sql args recentPages =>
    match (Link.ask .pagedQuery (Message.DbRequest.query sql args) h.link :
      Except Error Page × Link World) with
    | (.ok page, link) =>
      some ⟨link, h.cursors ++ [⟨Cursor.create sql recentPages page, false⟩]⟩
    | (.error _, _) => none
  | .note k =>
    match h.cursors[k]? with
    | some ⟨cursor, false⟩ =>
      some
        { link :=
            { h.link with handle := { h.link.handle with active := some cursor.sequence } }
          cursors := h.cursors.set k ⟨cursor, true⟩ }
    | _ => none
  | .close k =>
    match h.cursors[k]? with
    | some ⟨cursor, true⟩ =>
      if cursor.closed then none
      else
        match (Cursor.close : CursorM World Unit) cursor h.link with
        | ((.ok _, cursor), link) => some ⟨link, h.cursors.set k ⟨cursor, true⟩⟩
        | ((.error _, _), _) => none
    | _ => none

/-- Take some steps. -/
def run (h : SharedHandle) : List ThreadStep → Option SharedHandle
  | [] => some h
  | s :: rest => (h.step s).bind fun h' => h'.run rest

/-- No call is on its way, and all cursors are closed. -/
def isIdle (h : SharedHandle) : Bool :=
  h.cursors.all fun entry => entry.noted && entry.cursor.closed

end SharedHandle

/-- Whether a cursor is noted before the given one is closed. -/
def notedBeforeClose (l : Nat) : List ThreadStep → Bool
  | [] => false
  | .ask _ _ _ :: rest => notedBeforeClose l rest
  | .note _ :: _ => true
  | .close k :: rest => if k = l then false else notedBeforeClose l rest

/-- Whether another cursor is noted after the given one and before that is closed. -/
def overtaken (l : Nat) : List ThreadStep → Bool
  | [] => false
  | .note k :: rest => if k = l then notedBeforeClose l rest else overtaken l rest
  | _ :: rest => overtaken l rest

section Inversion

variable {h h' : SharedHandle} {k : Nat}

/-! ## What a step does -/

theorem exists_of_step_ask {sql : String} {args : List Value} {recentPages : Nat}
    (hstep : h.step (.ask sql args recentPages) = some h') :
    ∃ page, Link.ask .pagedQuery (Message.DbRequest.query sql args) h.link = (.ok page, h'.link) ∧
      h'.cursors = h.cursors ++ [⟨Cursor.create sql recentPages page, false⟩] := by
  simp only [SharedHandle.step] at hstep
  rcases hask : (Link.ask .pagedQuery (Message.DbRequest.query sql args) h.link :
    Except Error Page × Link World) with ⟨_ | page, link⟩
  · rw [hask] at hstep
    cases hstep
  · rw [hask] at hstep
    cases hstep
    exact ⟨page, rfl, rfl⟩

theorem exists_of_step_note (hstep : h.step (.note k) = some h') :
    ∃ cursor, h.cursors[k]? = some ⟨cursor, false⟩ ∧
      h' = ⟨{ h.link with handle := { h.link.handle with active := some cursor.sequence } },
        h.cursors.set k ⟨cursor, true⟩⟩ := by
  simp only [SharedHandle.step] at hstep
  split at hstep
  · rename_i cursor hfound
    cases hstep
    exact ⟨cursor, hfound, rfl⟩
  · cases hstep

theorem exists_of_step_close (hstep : h.step (.close k) = some h') :
    ∃ cursor cursor', h.cursors[k]? = some ⟨cursor, true⟩ ∧ cursor.closed = false ∧
      cursor'.closed = true ∧ cursor'.sequence = cursor.sequence ∧
      h' = ⟨(Link.cancelQuery cursor.sequence h.link).2, h.cursors.set k ⟨cursor', true⟩⟩ := by
  simp only [SharedHandle.step] at hstep
  split at hstep
  · rename_i cursor hfound
    by_cases hclosed : cursor.closed = true
    · rw [if_pos hclosed] at hstep
      cases hstep
    · rw [if_neg hclosed, Cursor.close_apply, if_neg hclosed] at hstep
      refine ⟨cursor, { cursor with closed := true, recent := cursor.recent.map RecentPages.clear },
        hfound, Bool.not_eq_true _ ▸ hclosed, rfl, rfl, ?_⟩
      rcases hcancel : Link.cancelQuery cursor.sequence h.link with ⟨_ | ⟨⟩, link⟩
      · rw [hcancel] at hstep
        cases hstep
      · rw [hcancel] at hstep
        cases hstep
        rfl
  · cases hstep

/-- Asking for a cursor and noting it at once is what opening it does. -/
theorem openQuery_eq_ok_iff_steps {sql : String} {args : List Value} {recentPages : Nat}
    {c : Cursor} {link' : Link World} :
    Cursor.openQuery sql args recentPages h.link = (.ok c, link') ↔
      h.run [.ask sql args recentPages, .note h.cursors.length] =
        some ⟨link', h.cursors ++ [⟨c, true⟩]⟩ := by
  simp only [Cursor.openQuery, Link.firstPage, bind_apply, SharedHandle.run, SharedHandle.step]
  rcases (Link.ask .pagedQuery (Message.DbRequest.query sql args) h.link :
    Except Error Page × Link World) with ⟨fault | page, link⟩
  · constructor
    · intro hopen
      cases hopen
    · intro hsteps
      cases hsteps
  · simp only [Link.setHandle, modify_apply, pure_apply, Option.bind_some,
      List.getElem?_concat_length, List.set_append_right _ _ (Nat.le_refl _), Nat.sub_self,
      List.set_cons_zero]
    constructor
    · intro hopen
      cases hopen
      rfl
    · intro hsteps
      simp only [Option.some.injEq, SharedHandle.mk.injEq, List.append_cancel_left_eq,
        List.cons.injEq, SharedCursor.mk.injEq] at hsteps
      obtain ⟨rfl, ⟨rfl, -⟩, -⟩ := hsteps
      rfl

/-- No cursor is forgotten. -/
theorem length_le_of_step {s : ThreadStep} (hstep : h.step s = some h') :
    h.cursors.length ≤ h'.cursors.length := by
  cases s with
  | ask sql args recentPages =>
    obtain ⟨page, -, hcursors⟩ := exists_of_step_ask hstep
    simp [hcursors]
  | note k =>
    obtain ⟨cursor, -, rfl⟩ := exists_of_step_note hstep
    simp
  | close k =>
    obtain ⟨cursor, cursor', -, -, -, -, rfl⟩ := exists_of_step_close hstep
    simp

theorem length_le_of_run {steps : List ThreadStep} (hrun : h.run steps = some h') :
    h.cursors.length ≤ h'.cursors.length := by
  induction steps generalizing h with
  | nil =>
    cases hrun
    exact Nat.le_refl _
  | cons s rest ih =>
    obtain ⟨m, hstep, hrest⟩ := Option.bind_eq_some_iff.mp hrun
    exact Nat.le_trans (length_le_of_step hstep) (ih hrest)

end Inversion

/-! ## Numbers in the order of asking -/

/-- Cursors have their numbers in the order in which they were asked for.  The stored result is
that of the last one, and it is there at least until that cursor is closed. -/
structure Numbered (first : Int32) (results : ResultStore) (h : SharedHandle) : Prop where
  shows : Shows h.link h.link.handle.active results
  next_eq : results.next = ResultStore.numberAfter first h.cursors.length
  sequence_eq : ∀ k entry, h.cursors[k]? = some entry →
    entry.cursor.sequence = ResultStore.numberAfter first k
  newest : ∀ result, results.current = some result →
    ∃ l, h.cursors.length = l + 1 ∧ result.sequence = ResultStore.numberAfter first l
  stored : ∀ l entry, h.cursors.length = l + 1 → h.cursors[l]? = some entry →
    entry.cursor.closed = false → results.current.isSome = true

section Steps

variable {first : Int32} {results : ResultStore} {h h' : SharedHandle} {k l : Nat}

/-- A new cursor has the next number, and its result is the stored one. -/
theorem Numbered.ask {sql : String} {args : List Value} {recentPages : Nat}
    (hnumbered : Numbered first results h)
    (hstep : h.step (.ask sql args recentPages) = some h') :
    (∃ results', Numbered first results' h') ∧
      ∃ cursor, cursor.closed = false ∧ h'.cursors = h.cursors ++ [⟨cursor, false⟩] := by
  obtain ⟨page, hask, hcursors⟩ := exists_of_step_ask hstep
  refine ⟨?_, _, rfl, hcursors⟩
  have hends := askPaged_ends hnumbered.shows sql args
  rw [hask] at hends
  generalize overflows h.link sql args = overflow at hends
  cases hends with
  | answered rows budget hshows =>
    refine ⟨(results.store rows budget).2, ?_, ?_, ?_, ?_, ?_⟩
    · have hactive := hshows.active_eq
      rwa [← hactive] at hshows
    · rw [hcursors, List.length_append]
      exact congrArg ResultStore.successor hnumbered.next_eq
    · intro k entry hentry
      rw [hcursors] at hentry
      rcases Nat.lt_trichotomy k h.cursors.length with hlt | rfl | hgt
      · rw [List.getElem?_append_left hlt] at hentry
        exact hnumbered.sequence_eq k entry hentry
      · rw [List.getElem?_concat_length] at hentry
        cases hentry
        exact hnumbered.next_eq
      · rw [List.getElem?_eq_none (by simp; omega)] at hentry
        cases hentry
    · intro result hresult
      cases hresult
      exact ⟨h.cursors.length, by simp [hcursors], hnumbered.next_eq⟩
    · intro _ _ _ _ _
      rfl

/-- A cursor in place of one with the same number. -/
theorem Numbered.sequence_set (hnumbered : Numbered first results h) {old new : SharedCursor}
    (hold : h.cursors[k]? = some old) (hsequence : new.cursor.sequence = old.cursor.sequence) :
    ∀ j entry, (h.cursors.set k new)[j]? = some entry →
      entry.cursor.sequence = ResultStore.numberAfter first j := by
  intro j entry hentry
  by_cases hj : k = j
  · subst hj
    have hlength : k < h.cursors.length := (List.getElem?_eq_some_iff.mp hold).1
    rw [List.getElem?_set_self hlength] at hentry
    cases hentry
    rw [hsequence]
    exact hnumbered.sequence_eq k old hold
  · rw [List.getElem?_set_ne hj] at hentry
    exact hnumbered.sequence_eq j entry hentry

/-- The noted query is the active one; the results stay. -/
theorem Numbered.note (hnumbered : Numbered first results h)
    (hstep : h.step (.note k) = some h') :
    Numbered first results h' ∧
      h'.link.handle.active = some (ResultStore.numberAfter first k) ∧
      ∃ cursor, h.cursors[k]? = some ⟨cursor, false⟩ ∧
        h'.cursors = h.cursors.set k ⟨cursor, true⟩ := by
  obtain ⟨cursor, hfound, rfl⟩ := exists_of_step_note hstep
  have hsequence := hnumbered.sequence_eq k _ hfound
  refine ⟨⟨?_, ?_, ?_, ?_, ?_⟩, congrArg some hsequence, cursor, hfound, rfl⟩
  · exact hnumbered.shows.of_handle rfl rfl rfl
  · rw [List.length_set]
    exact hnumbered.next_eq
  · exact hnumbered.sequence_set hfound rfl
  · rw [List.length_set]
    exact hnumbered.newest
  · intro l entry hlength hentry hopen
    rw [List.length_set] at hlength
    by_cases hl : k = l
    · subst hl
      rw [List.getElem?_set_self (by omega)] at hentry
      cases hentry
      exact hnumbered.stored k _ hlength hfound hopen
    · rw [List.getElem?_set_ne hl] at hentry
      exact hnumbered.stored l entry hlength hentry hopen

/-- The stored result has another number than the cursors before the last one. -/
theorem Numbered.sequence_ne (hnumbered : Numbered first results h)
    (hlast : h.cursors.length = l + 1) (hfew : l < 2 ^ 31 - 1) (hk : k < h.cursors.length)
    (hne : k ≠ l) :
    ∀ result, results.current = some result →
      result.sequence ≠ ResultStore.numberAfter first k := by
  intro result hcurrent
  obtain ⟨l', hlast', hsequence⟩ := hnumbered.newest result hcurrent
  obtain rfl : l' = l := by omega
  rw [hsequence]
  exact ResultStore.numberAfter_ne first hne.symm hfew (by omega)

/-- A cursor that is closed discards its query if that is the active one. -/
theorem Numbered.close (hnumbered : Numbered first results h) (hfew : h.cursors.length < 2 ^ 31)
    (hstep : h.step (.close k) = some h') :
    Numbered first (if h.link.handle.active = some (ResultStore.numberAfter first k) then
        results.flush (ResultStore.numberAfter first k) else results) h' ∧
      h'.link.handle.active = (if h.link.handle.active = some (ResultStore.numberAfter first k) then
        none else h.link.handle.active) ∧
      ∃ cursor cursor', h.cursors[k]? = some ⟨cursor, true⟩ ∧ cursor.closed = false ∧
        cursor'.closed = true ∧ h'.cursors = h.cursors.set k ⟨cursor', true⟩ := by
  obtain ⟨cursor, cursor', hfound, hopen, hclosed, hkept, rfl⟩ := exists_of_step_close hstep
  have hsequence := hnumbered.sequence_eq k _ hfound
  have hk : k < h.cursors.length := (List.getElem?_eq_some_iff.mp hfound).1
  have hshows := hnumbered.shows.cancelQuery cursor.sequence
  simp only at hsequence
  rw [hsequence] at hshows ⊢
  have hactive := hshows.active_eq
  refine ⟨⟨?_, ?_, ?_, ?_, ?_⟩, hactive, cursor, cursor', hfound, hopen, hclosed, rfl⟩
  · rwa [← hactive] at hshows
  · rw [List.length_set, ← hnumbered.next_eq]
    split <;> rfl
  · exact hnumbered.sequence_set hfound hkept
  · intro result hresult
    rw [List.length_set]
    split at hresult
    · exact hnumbered.newest result (Option.eq_some_of_filter_eq_some hresult)
    · exact hnumbered.newest result hresult
  · intro l entry hlength hentry hopen'
    rw [List.length_set] at hlength
    have hl : k ≠ l := by
      rintro rfl
      rw [List.getElem?_set_self hk] at hentry
      cases hentry
      rw [hclosed] at hopen'
      cases hopen'
    rw [List.getElem?_set_ne hl] at hentry
    have hstored := hnumbered.stored l entry hlength hentry hopen'
    split
    · rw [ResultStore.current_flush (hnumbered.sequence_ne hlength (by omega) hk hl)]
      exact hstored
    · exact hstored

/-! ## The cursor asked for last -/

/-- While there is no new cursor and the last one is noted, a step other than its close leaves the
stored result in place, and only noting another cursor makes another query the active one. -/
theorem Numbered.passes {s : ThreadStep} {cursor : Cursor} (hnumbered : Numbered first results h)
    (hfew : l < 2 ^ 31 - 1) (hlast : h.cursors.length = l + 1)
    (hnoted : h.cursors[l]? = some ⟨cursor, true⟩) (hstep : h.step s = some h')
    (hlast' : h'.cursors.length = l + 1) (hother : s ≠ .close l) :
    (∃ results', Numbered first results' h' ∧ results'.current = results.current) ∧
      h'.cursors[l]? = some ⟨cursor, true⟩ ∧
      (h'.link.handle.active = some (ResultStore.numberAfter first l) ↔
        h.link.handle.active = some (ResultStore.numberAfter first l) ∧ ∀ k, s ≠ .note k) := by
  cases s with
  | ask sql args recentPages =>
    obtain ⟨-, new, -, hcursors⟩ := hnumbered.ask hstep
    rw [hcursors, List.length_append, List.length_singleton] at hlast'
    omega
  | note k =>
    obtain ⟨hnumbered', hactive, new, hfound, hcursors⟩ := hnumbered.note hstep
    have hne : k ≠ l := by
      rintro rfl
      rw [hnoted] at hfound
      cases hfound
    have hk : k < h.cursors.length := (List.getElem?_eq_some_iff.mp hfound).1
    refine ⟨⟨results, hnumbered', rfl⟩, ?_, ?_⟩
    · rw [hcursors, List.getElem?_set_ne hne, hnoted]
    · rw [hactive, Option.some.injEq]
      constructor
      · intro hsame
        exact absurd hsame (ResultStore.numberAfter_ne first hne (by omega) hfew)
      · intro ⟨_, hnone⟩
        exact absurd rfl (hnone k)
  | close k =>
    obtain ⟨hnumbered', hactive, old, new, hfound, -, -, hcursors⟩ :=
      hnumbered.close (by omega) hstep
    have hne : k ≠ l := by
      rintro rfl
      exact hother rfl
    have hk : k < h.cursors.length := (List.getElem?_eq_some_iff.mp hfound).1
    refine ⟨⟨_, hnumbered', ?_⟩, ?_, ?_⟩
    · split
      · exact ResultStore.current_flush (hnumbered.sequence_ne hlast hfew hk hne)
      · rfl
    · rw [hcursors, List.getElem?_set_ne hne, hnoted]
    · have hdiffer := ResultStore.numberAfter_ne first hne (by omega) hfew
      rw [hactive]
      split
      · rename_i hown
        rw [hown]
        simp [hdiffer]
      · simp

theorem noted_and_closed_of_isIdle {entry : SharedCursor} (hidle : h.isIdle = true)
    (hentry : h.cursors[k]? = some entry) : entry.noted = true ∧ entry.cursor.closed = true := by
  have hall := List.all_eq_true.mp hidle entry (List.mem_of_getElem? hentry)
  exact (Bool.and_eq_true _ _).mp hall

/-- Once the last cursor is closed, what is stored stays stored. -/
theorem storedResult_of_closed {steps : List ThreadStep} {cursor : Cursor}
    (hnumbered : Numbered first results h) (hfew : l < 2 ^ 31 - 1)
    (hlast : h.cursors.length = l + 1) (hnoted : h.cursors[l]? = some ⟨cursor, true⟩)
    (hclosed : cursor.closed = true) (hrun : h.run steps = some h')
    (hlast' : h'.cursors.length = l + 1) : storedResult h'.link = results.current := by
  induction steps generalizing h results with
  | nil =>
    cases hrun
    exact storedResult_eq hnumbered.shows
  | cons s rest ih =>
    obtain ⟨m, hstep, hrest⟩ := Option.bind_eq_some_iff.mp hrun
    have hlastm : m.cursors.length = l + 1 := by
      have hle := length_le_of_step hstep
      have hle' := length_le_of_run hrest
      omega
    have hother : s ≠ .close l := by
      rintro rfl
      obtain ⟨old, new, hfound, hopen, -⟩ := exists_of_step_close hstep
      rw [hnoted] at hfound
      cases hfound
      rw [hclosed] at hopen
      cases hopen
    obtain ⟨⟨results', hnumbered', hcurrent⟩, hnoted', -⟩ :=
      hnumbered.passes hfew hlast hnoted hstep hlastm hother
    rw [← hcurrent]
    exact ih hnumbered' hlastm hnoted' hrest

/-- Once the last cursor is noted, its result is left behind exactly if its query is not the
active one, or will not be when the cursor is closed. -/
theorem isSome_storedResult_of_noted {steps : List ThreadStep} {cursor : Cursor}
    (hnumbered : Numbered first results h) (hfew : l < 2 ^ 31 - 1)
    (hlast : h.cursors.length = l + 1) (hnoted : h.cursors[l]? = some ⟨cursor, true⟩)
    (hopen : cursor.closed = false) (hrun : h.run steps = some h')
    (hlast' : h'.cursors.length = l + 1) (hidle : h'.isIdle = true) :
    (storedResult h'.link).isSome = true ↔
      h.link.handle.active ≠ some (ResultStore.numberAfter first l) ∨
        notedBeforeClose l steps = true := by
  induction steps generalizing h results with
  | nil =>
    cases hrun
    obtain ⟨-, hclosed⟩ := noted_and_closed_of_isIdle hidle hnoted
    rw [hopen] at hclosed
    cases hclosed
  | cons s rest ih =>
    obtain ⟨m, hstep, hrest⟩ := Option.bind_eq_some_iff.mp hrun
    have hlastm : m.cursors.length = l + 1 := by
      have hle := length_le_of_step hstep
      have hle' := length_le_of_run hrest
      omega
    by_cases hown : s = .close l
    · subst hown
      obtain ⟨hnumbered', -, old, new, hfound, -, hclosed, hcursors⟩ :=
        hnumbered.close (by omega) hstep
      have hnoted' : m.cursors[l]? = some ⟨new, true⟩ := by
        rw [hcursors, List.getElem?_set_self (by omega)]
      rw [storedResult_of_closed hnumbered' hfew hlastm hnoted' hclosed hrest hlast']
      obtain ⟨result, hcurrent⟩ :=
        Option.isSome_iff_exists.mp (hnumbered.stored l _ hlast hnoted hopen)
      obtain ⟨l', hlength, hsequence⟩ := hnumbered.newest result hcurrent
      obtain rfl : l' = l := by omega
      have hflushed := ResultStore.current_flush_self hcurrent
      rw [hsequence] at hflushed
      by_cases hactive : h.link.handle.active = some (ResultStore.numberAfter first l')
      · simp [hactive, notedBeforeClose, hflushed]
      · simp [hactive, hcurrent]
    · obtain ⟨⟨results', hnumbered', -⟩, hnoted', hactive⟩ :=
        hnumbered.passes hfew hlast hnoted hstep hlastm hown
      rw [ih hnumbered' hlastm hnoted' hrest, ne_eq, hactive]
      cases s with
      | ask sql args recentPages => simp [notedBeforeClose]
      | note k => simp [notedBeforeClose]
      | close k =>
        have hne : k ≠ l := fun hsame => hown (hsame ▸ rfl)
        simp [notedBeforeClose, hne]

/-- Before the cursor that will be the last one is noted, and even before it is asked for, the
steps to come decide whether its result is left behind. -/
theorem isSome_storedResult_iff_overtaken {steps : List ThreadStep}
    (hnumbered : Numbered first results h) (hfew : l < 2 ^ 31 - 1)
    (hbefore : ∀ entry, h.cursors[l]? = some entry →
      entry.noted = false ∧ entry.cursor.closed = false)
    (hrun : h.run steps = some h') (hlast' : h'.cursors.length = l + 1)
    (hidle : h'.isIdle = true) :
    (storedResult h'.link).isSome = true ↔ overtaken l steps = true := by
  induction steps generalizing h results with
  | nil =>
    cases hrun
    obtain ⟨entry, hentry⟩ : ∃ entry, h'.cursors[l]? = some entry :=
      ⟨_, List.getElem?_eq_getElem (by omega)⟩
    obtain ⟨hnoted, -⟩ := noted_and_closed_of_isIdle hidle hentry
    rw [(hbefore entry hentry).1] at hnoted
    cases hnoted
  | cons s rest ih =>
    obtain ⟨m, hstep, hrest⟩ := Option.bind_eq_some_iff.mp hrun
    have hlengthm := length_le_of_run hrest
    have hlength := length_le_of_step hstep
    cases s with
    | ask sql args recentPages =>
      obtain ⟨⟨results', hnumbered'⟩, new, hnew, hcursors⟩ := hnumbered.ask hstep
      refine ih hnumbered' ?_ hrest
      intro entry hentry
      rw [hcursors, List.getElem?_append] at hentry
      split at hentry
      · exact hbefore entry hentry
      · obtain rfl := List.mem_singleton.mp (List.mem_of_getElem? hentry)
        exact ⟨rfl, hnew⟩
    | note k =>
      obtain ⟨hnumbered', hactive, cursor, hfound, hcursors⟩ := hnumbered.note hstep
      by_cases hk : k = l
      · subst hk
        have hl : k < h.cursors.length := (List.getElem?_eq_some_iff.mp hfound).1
        have hnoted : m.cursors[k]? = some ⟨cursor, true⟩ := by
          rw [hcursors, List.getElem?_set_self hl]
        rw [isSome_storedResult_of_noted hnumbered' hfew (by omega) hnoted
          (hbefore _ hfound).2 hrest hlast' hidle]
        simp [hactive, overtaken]
      · simp only [overtaken, if_neg hk]
        refine ih hnumbered' ?_ hrest
        rwa [hcursors, List.getElem?_set_ne hk]
    | close k =>
      obtain ⟨hnumbered', -, old, new, hfound, -, -, hcursors⟩ :=
        hnumbered.close (by omega) hstep
      have hk : k ≠ l := by
        rintro rfl
        cases (hbefore _ hfound).1
      refine ih hnumbered' ?_ hrest
      rwa [hcursors, List.getElem?_set_ne hk]

/-- Without a cursor there was no step. -/
theorem eq_nil_of_run {steps : List ThreadStep} (hrun : h.run steps = some h')
    (hnone : h'.cursors.length = 0) : steps = [] := by
  cases steps with
  | nil => rfl
  | cons s rest =>
    obtain ⟨m, hstep, hrest⟩ := Option.bind_eq_some_iff.mp hrun
    have hlengthm := length_le_of_run hrest
    have hlength := length_le_of_step hstep
    cases s with
    | ask sql args recentPages =>
      obtain ⟨page, -, hcursors⟩ := exists_of_step_ask hstep
      rw [hcursors, List.length_append, List.length_singleton] at hlengthm
      omega
    | note k =>
      obtain ⟨cursor, hfound, -⟩ := exists_of_step_note hstep
      have hk : k < h.cursors.length := (List.getElem?_eq_some_iff.mp hfound).1
      omega
    | close k =>
      obtain ⟨cursor, cursor', hfound, -⟩ := exists_of_step_close hstep
      have hk : k < h.cursors.length := (List.getElem?_eq_some_iff.mp hfound).1
      omega

end Steps

/-- Whatever the order of the steps is: when all threads are done and all cursors are closed, a
result is left behind exactly if, after the cursor that was asked for last was noted and before it
was closed, another cursor was noted. -/
theorem leaks_iff_overtaken {link : Link World} {i : Instance} {steps : List ThreadStep}
    {h : SharedHandle} (hreaches : Reaches link i) (hcurrent : i.results.current = none)
    (hrun : SharedHandle.run ⟨link, []⟩ steps = some h) (hidle : h.isIdle = true)
    (hfew : h.cursors.length < 2 ^ 31) :
    (storedResult h.link).isSome = true ↔ overtaken (h.cursors.length - 1) steps = true := by
  have hstart : Numbered i.results.next i.results ⟨link, []⟩ := by
    refine ⟨hreaches.shows, rfl, ?_, ?_, ?_⟩
    · intro k entry hentry
      cases hentry
    · intro result hresult
      rw [hcurrent] at hresult
      cases hresult
    · intro l entry hlength
      cases hlength
  cases hlast : h.cursors.length with
  | zero =>
    obtain rfl := eq_nil_of_run hrun hlast
    cases hrun
    rw [storedResult_eq hreaches.shows, hcurrent]
    rfl
  | succ l =>
    refine isSome_storedResult_iff_overtaken hstart (by omega) ?_ hrun hlast hidle
    intro entry hentry
    cases hentry

/-- Two threads, the second of which asks between the two steps of the first, but is noted only
after it. -/
def inOrder : List ThreadStep :=
  [.ask "values (1)" [] 0, .ask "values (2)" [] 0, .note 0, .note 1, .close 0, .close 1]

/-- Nothing is left behind then. -/
theorem cursors_in_order_do_not_leak :
    ∃ h, SharedHandle.run ⟨inMemory, []⟩ inOrder = some h ∧ h.isIdle = true ∧
      storedResult h.link = none := by
  have hends : (SharedHandle.run ⟨inMemory, []⟩ inOrder).map
      (fun h => (h.isIdle, h.cursors.length)) = some (true, 2) := by decide +kernel
  obtain ⟨h, hrun, hend⟩ := Option.map_eq_some_iff.mp hends
  obtain ⟨hidle, hlength⟩ := Prod.mk.inj hend
  have hleaks := leaks_iff_overtaken reaches_inMemory rfl hrun hidle (by omega)
  rw [hlength] at hleaks
  refine ⟨h, hrun, hidle, ?_⟩
  cases hstored : storedResult h.link with
  | none => rfl
  | some result =>
    rw [hstored] at hleaks
    exact absurd (hleaks.mp rfl) (by decide)

/-- The second thread is noted before the first, so that the number noted last is not that of the
stored result. -/
def outOfOrder : List ThreadStep :=
  [.ask "values (1)" [] 0, .ask "values (2)" [] 0, .note 1, .note 0, .close 1, .close 0]

/-- The result of the second thread is left behind, though both cursors are closed. -/
theorem overtaken_cursor_leaks :
    (SharedHandle.run ⟨inMemory, []⟩ outOfOrder).map
      (fun h => (h.isIdle, h.link.handle.active, (storedResult h.link).map (·.sequence))) =
        some (true, none, some 2) := by
  decide +kernel

end EngineLink
