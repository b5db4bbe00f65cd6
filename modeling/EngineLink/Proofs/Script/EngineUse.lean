import EngineLink.Script.World

/-!
# The use of an engine

An engine is a foreign thing: it must be set up once and before anything else, an instance must be
closed exactly once, and a handle must not be used before its instance is opened or after it is
closed.  To speak of that, any engine can keep a record of everything that reaches it, with what
came of it.  A record is read from its beginning by a small machine that knows what came of the
setup and which instances are open, and that stops at the first contact out of order.

Main results:

- Theorem {lit}`Usage.next_cases`: what a contact in order does.
- Theorem {lit}`Usage.outcomes_after` and {lit}`Usage.count_after`: what a record in order says
  about the setup, and about the instances of a handle.
- Theorem {lit}`Usage.wellUsed`: what a record in order means if no instance is open at its end.
-/

namespace EngineLink

/-! ## Records -/

namespace Contact

/-- What came of a setup. -/
def outcome? : Contact → Option (Except String Unit)
  | .setUp outcome => some outcome
  | _ => none

/-- The text of a setup that failed. -/
def failure? : Contact → Option String
  | .setUp (.error detail) => some detail
  | _ => none

/-- The handle of a new instance. -/
def given? : Contact → Option Int64
  | .opened _ reply => (Bootstrap.handleOf reply).toOption.map Handle.raw
  | _ => none

/-- The handle of an instance that is closed. -/
def closed? : Contact → Option Int64
  | .closed raw => some raw
  | _ => none

/-- The handle of an instance that must be open: it is closed, or a method of it is run. -/
def used? : Contact → Option Int64
  | .closed raw => some raw
  | .ran raw _ _ _ _ => some raw
  | _ => none

/-- An opening gives a handle exactly if its reply is a success that holds an integer other than
zero. -/
theorem given?_opened_eq_some_iff {init : Bytes} {reply : Option Reply} {raw : Int64} :
    given? (.opened init reply) = some raw ↔
      ∃ bytes, Outcome.ofReply reply = .ok (.success bytes) ∧
        decode bytes = .ok (Message.IntegerValue.mk raw) ∧ raw ≠ 0 := by
  simp only [given?, Bootstrap.handleOf]
  rcases Outcome.ofReply reply with fault | bytes | envelope
  · simp [Except.toOption]
  · simp only [Except.ok.injEq, Outcome.success.injEq, exists_eq_left']
    rcases (decode bytes : Except CodecFault Message.IntegerValue) with fault | message
    · simp [Except.toOption]
    · obtain ⟨value⟩ := message
      by_cases hzero : value = 0
      · simp only [if_pos hzero, Except.toOption, Option.map_none, reduceCtorEq, false_iff,
          Except.ok.injEq, Message.IntegerValue.mk.injEq, not_and, Decidable.not_not]
        exact fun hvalue => hvalue.symm.trans hzero
      · simp only [if_neg hzero, Except.toOption, Option.map_some, Handle.create,
          Option.some.injEq, Except.ok.injEq, Message.IntegerValue.mk.injEq]
        constructor
        · rintro rfl
          exact ⟨rfl, hzero⟩
        · exact And.left
  · simp [Except.toOption]

theorem eq_setUp {c : Contact} {detail : String} (hfailed : c.failure? = some detail) :
    c = .setUp (.error detail) := by
  cases c with
  | setUp outcome =>
    cases outcome with
    | error text =>
      cases hfailed
      rfl
    | ok value => cases hfailed
  | opened init reply => cases hfailed
  | closed raw => cases hfailed
  | ran raw service method payload reply => cases hfailed

theorem eq_closed {c : Contact} {raw : Int64} (hclosed : c.closed? = some raw) :
    c = .closed raw := by
  cases c with
  | closed raw =>
    cases hclosed
    rfl
  | setUp outcome => cases hclosed
  | opened init reply => cases hclosed
  | ran raw service method payload reply => cases hclosed

end Contact

/-- How many instances were opened under a handle. -/
def opens (raw : Int64) (record : List Contact) : Nat := record.countP (·.given? = some raw)

/-- How many instances were closed under a handle. -/
def closes (raw : Int64) (record : List Contact) : Nat := record.countP (·.closed? = some raw)

/-- An engine state with everything that reached it, the first contact first. -/
abbrev Recorded (σ : Type) := Noted (fun c contacts => contacts ++ [c]) σ

/-- The contacts so far, the first one first. -/
abbrev Recorded.contacts {σ : Type} (r : Recorded σ) : List Contact := r.notes

/-- A state of an engine that nothing has reached yet. -/
abbrev Recorded.start {σ : Type} (engine : σ) : Recorded σ := Noted.start engine

/-! ## Contacts in order -/

/-- What came of the setup, and the handles of the open instances. -/
structure Usage where
  outcome : Option (Except String Unit)
  live : List Int64

namespace Usage

/-- The usage of an engine that nothing has reached yet. -/
def start : Usage := ⟨none, []⟩

/-- Take in a contact, if it is in order: the setup comes once, an opening after a setup that
succeeded, and everything else while the instance is open. -/
def next (u : Usage) : Contact → Option Usage
  | .setUp outcome =>
    match u.outcome with
    | none => some { u with outcome := some outcome }
    | some _ => none
  | .opened init reply =>
    match u.outcome with
    | some (.ok ()) => some { u with live := (Contact.opened init reply).given?.toList ++ u.live }
    | _ => none
  | .closed raw => if raw ∈ u.live then some { u with live := u.live.erase raw } else none
  | .ran raw _ _ _ _ => if raw ∈ u.live then some u else none

/-- Take in the contacts of a record. -/
def after (u : Usage) (record : List Contact) : Option Usage := record.foldlM next u

theorem after_cons (u : Usage) (c : Contact) (record : List Contact) :
    u.after (c :: record) = (u.next c).bind (·.after record) :=
  rfl

theorem after_append (u : Usage) (record later : List Contact) :
    u.after (record ++ later) = (u.after record).bind (·.after later) :=
  List.foldlM_append

/-- One more contact. -/
theorem after_concat {u u' : Usage} {record : List Contact} (hrecord : u.after record = some u')
    (c : Contact) : u.after (record ++ [c]) = u'.next c := by
  rw [after_append, hrecord, Option.bind_some, after_cons]
  cases u'.next c <;> rfl

/-- Everything before a contact is in order, and so is the contact. -/
theorem of_after_cons {u u' : Usage} {before later : List Contact} {c : Contact}
    (hrecord : u.after (before ++ c :: later) = some u') :
    ∃ u₁ u₂, u.after before = some u₁ ∧ u₁.next c = some u₂ ∧ u₂.after later = some u' := by
  rw [after_append, Option.bind_eq_some_iff] at hrecord
  obtain ⟨u₁, hbefore, hrest⟩ := hrecord
  rw [after_cons, Option.bind_eq_some_iff] at hrest
  obtain ⟨u₂, hnext, hlater⟩ := hrest
  exact ⟨u₁, u₂, hbefore, hnext, hlater⟩

variable {u u' : Usage} {c : Contact}

/-- What a contact in order is, and what it does. -/
theorem next_cases (hnext : u.next c = some u') :
    (∃ outcome, c = .setUp outcome ∧ u.outcome = none ∧ u' = ⟨some outcome, u.live⟩) ∨
    (∃ init reply, c = .opened init reply ∧ u.outcome = some (.ok ()) ∧
      u' = ⟨u.outcome, c.given?.toList ++ u.live⟩) ∨
    (∃ raw, c = .closed raw ∧ raw ∈ u.live ∧ u' = ⟨u.outcome, u.live.erase raw⟩) ∨
    (∃ raw service method payload reply,
      c = .ran raw service method payload reply ∧ raw ∈ u.live ∧ u' = u) := by
  obtain ⟨known, live⟩ := u
  cases c with
  | setUp outcome =>
    rcases known with _ | known
    · cases hnext
      exact .inl ⟨outcome, rfl, rfl, rfl⟩
    · cases hnext
  | opened init reply =>
    rcases known with _ | _ | ⟨⟩
    · cases hnext
    · cases hnext
    · cases hnext
      exact .inr (.inl ⟨init, reply, rfl, rfl, rfl⟩)
  | closed raw =>
    by_cases hlive : raw ∈ live
    · simp only [next, if_pos hlive, Option.some.injEq] at hnext
      exact .inr (.inr (.inl ⟨raw, rfl, hlive, hnext.symm⟩))
    · simp only [next, if_neg hlive] at hnext
      cases hnext
  | ran raw service method payload reply =>
    by_cases hlive : raw ∈ live
    · simp only [next, if_pos hlive, Option.some.injEq] at hnext
      exact .inr (.inr (.inr ⟨raw, service, method, payload, reply, rfl, hlive, hnext.symm⟩))
    · simp only [next, if_neg hlive] at hnext
      cases hnext

/-- A contact in order that needs an open instance finds one. -/
theorem mem_live_of_used {raw : Int64} (hnext : u.next c = some u') (hused : c.used? = some raw) :
    raw ∈ u.live := by
  rcases next_cases hnext with ⟨_, rfl, -⟩ | ⟨_, _, rfl, -⟩ | ⟨_, rfl, hlive, -⟩ |
    ⟨_, _, _, _, _, rfl, hlive, -⟩
  · cases hused
  · cases hused
  · cases hused
    exact hlive
  · cases hused
    exact hlive

/-! ## What a record in order says -/

/-- A contact in order is no setup, unless there was none. -/
theorem outcomes_next (hnext : u.next c = some u') :
    u.outcome.toList ++ c.outcome?.toList = u'.outcome.toList := by
  rcases next_cases hnext with ⟨_, rfl, hnone, rfl⟩ | ⟨_, _, rfl, -, rfl⟩ | ⟨_, rfl, -, rfl⟩ |
    ⟨_, _, _, _, _, rfl, -, rfl⟩
  · rw [hnone]
    rfl
  · exact List.append_nil _
  · exact List.append_nil _
  · exact List.append_nil _

/-- What came of the setup is all that the record says about setups. -/
theorem outcomes_after {record : List Contact} (hrecord : u.after record = some u') :
    u.outcome.toList ++ record.filterMap Contact.outcome? = u'.outcome.toList := by
  induction record generalizing u with
  | nil =>
    cases hrecord
    exact List.append_nil _
  | cons c rest ih =>
    rw [after_cons, Option.bind_eq_some_iff] at hrecord
    obtain ⟨u₁, hnext, hrest⟩ := hrecord
    have hhead : (c :: rest).filterMap Contact.outcome? =
        c.outcome?.toList ++ rest.filterMap Contact.outcome? := by
      cases hc : c.outcome? <;> simp [hc]
    rw [hhead, ← List.append_assoc, outcomes_next hnext, ih hrest]

/-- The open instances of a handle after a contact in order. -/
theorem count_next (raw : Int64) (hnext : u.next c = some u') :
    u.live.count raw + (if c.given? = some raw then 1 else 0) =
      u'.live.count raw + (if c.closed? = some raw then 1 else 0) := by
  rcases next_cases hnext with ⟨_, rfl, -, rfl⟩ | ⟨_, _, hc, -, rfl⟩ | ⟨old, rfl, hlive, rfl⟩ |
    ⟨_, _, _, _, _, rfl, -, rfl⟩
  · rfl
  · have hclosed : c.closed? = none := by rw [hc]; rfl
    cases hgiven : c.given? with
    | none => simp [hclosed]
    | some new =>
      by_cases hnew : new = raw <;> simp [hclosed, hnew]
  · have hcount : u.live.count old ≠ 0 := by
      rw [Ne, List.count_eq_zero]
      exact fun hnot => hnot hlive
    by_cases hold : old = raw
    · subst hold
      simp only [Contact.given?, Contact.closed?, List.count_erase_self, reduceCtorEq, if_false,
        if_true]
      omega
    · simp [Contact.given?, Contact.closed?, hold, List.count_erase_of_ne (Ne.symm hold)]
  · rfl

/-- As many instances of a handle are open as were opened and not closed. -/
theorem count_after (raw : Int64) {record : List Contact} (hrecord : u.after record = some u') :
    u.live.count raw + opens raw record = u'.live.count raw + closes raw record := by
  induction record generalizing u with
  | nil =>
    cases hrecord
    rfl
  | cons c rest ih =>
    rw [after_cons, Option.bind_eq_some_iff] at hrecord
    obtain ⟨u₁, hnext, hrest⟩ := hrecord
    have hstep := count_next raw hnext
    have hrun := ih hrest
    simp only [opens, closes, List.countP_cons, decide_eq_true_eq] at hrun ⊢
    omega

end Usage

/-! ## Engines left as they were found -/

/-- What a program that is through with an engine leaves in its record. -/
structure WellUsed (record : List Contact) : Prop where
  /-- The engine is set up once at most. -/
  set_up_once : (record.filterMap Contact.outcome?).length ≤ 1
  /-- An instance is opened after a setup that succeeded. -/
  set_up_first : ∀ before init reply later, record = before ++ .opened init reply :: later →
    .setUp (.ok ()) ∈ before
  /-- After a setup that failed no instance is opened, and before it none was. -/
  none_opened : ∀ detail, .setUp (.error detail) ∈ record →
    ∀ init reply, .opened init reply ∉ record
  /-- As many instances of a handle are closed as were opened. -/
  closes_eq_opens : ∀ raw, closes raw record = opens raw record
  /-- Each opening is followed by a close that is not that of a later one. -/
  closed_later : ∀ before c later raw, record = before ++ c :: later → c.given? = some raw →
    opens raw later < closes raw later
  /-- An instance of a handle is open whenever a method is run of it, or one is closed. -/
  used_while_open : ∀ before c later raw, record = before ++ c :: later → c.used? = some raw →
    closes raw before < opens raw before
  /-- If a handle was given once, its instance is closed once after that, and the handle is used
  neither before it was given nor after it is closed. -/
  one_life : ∀ before c later raw, record = before ++ c :: later → c.given? = some raw →
    opens raw record = 1 → ∃ during rest, later = during ++ .closed raw :: rest ∧
      (∀ c' ∈ during, c'.closed? ≠ some raw) ∧ ∀ c' ∈ before ++ rest, c'.used? ≠ some raw

section Reading

variable {record before later : List Contact} {u : Usage} {c : Contact} {raw : Int64}

theorem opens_append (raw : Int64) (before later : List Contact) :
    opens raw (before ++ later) = opens raw before + opens raw later :=
  List.countP_append

theorem closes_append (raw : Int64) (before later : List Contact) :
    closes raw (before ++ later) = closes raw before + closes raw later :=
  List.countP_append

theorem opens_cons_of_given (hgiven : c.given? = some raw) (later : List Contact) :
    opens raw (c :: later) = opens raw later + 1 :=
  List.countP_cons_of_pos (decide_eq_true hgiven)

theorem closes_cons_of_given (hgiven : c.given? = some raw) (later : List Contact) :
    closes raw (c :: later) = closes raw later := by
  apply List.countP_cons_of_neg
  cases c with
  | opened init reply => simp [Contact.closed?]
  | setUp outcome => cases hgiven
  | closed raw => cases hgiven
  | ran raw service method payload reply => cases hgiven

theorem closes_cons_of_closed (hclosed : c.closed? = some raw) (later : List Contact) :
    closes raw (c :: later) = closes raw later + 1 :=
  List.countP_cons_of_pos (decide_eq_true hclosed)

/-- The openings and closings of a handle at any point of a record in order. -/
theorem Usage.opens_eq (hrecord : start.after record = some u) (raw : Int64) :
    opens raw record = u.live.count raw + closes raw record := by
  have hcount := count_after raw hrecord
  simpa [start] using hcount

/-- What a record in order says about the setup: all of it, if there was any. -/
theorem Usage.outcomes_eq (hrecord : start.after record = some u) :
    record.filterMap Contact.outcome? = u.outcome.toList :=
  outcomes_after hrecord

/-- An instance of the handle is open when it is used. -/
theorem Usage.closes_lt_opens (hrecord : start.after (before ++ c :: later) = some u)
    (hused : c.used? = some raw) : closes raw before < opens raw before := by
  obtain ⟨u₁, u₂, hbefore, hnext, -⟩ := of_after_cons hrecord
  have hlive : 0 < u₁.live.count raw := List.count_pos_iff.mpr (mem_live_of_used hnext hused)
  have hopens := opens_eq hbefore raw
  omega

/-- A setup has succeeded before an instance is opened. -/
theorem Usage.setUp_mem {init : Bytes} {reply : Option Reply}
    (hrecord : start.after (before ++ .opened init reply :: later) = some u) :
    .setUp (.ok ()) ∈ before := by
  obtain ⟨u₁, u₂, hbefore, hnext, -⟩ := of_after_cons hrecord
  have hok : u₁.outcome = some (.ok ()) := by
    rcases next_cases hnext with
      ⟨_, hc, -⟩ | ⟨_, _, -, hok, -⟩ | ⟨_, hc, -⟩ | ⟨_, _, _, _, _, hc, -⟩
    · cases hc
    · exact hok
    · cases hc
    · cases hc
  have hmem : Except.ok () ∈ before.filterMap Contact.outcome? := by
    rw [outcomes_eq hbefore, hok]
    exact List.mem_singleton_self _
  obtain ⟨c, hc, houtcome⟩ := List.mem_filterMap.mp hmem
  cases c with
  | setUp outcome =>
    cases houtcome
    exact hc
  | opened init reply => cases houtcome
  | closed raw => cases houtcome
  | ran raw service method payload reply => cases houtcome

/-- A contact that gives a handle away, for the only time in a record in order that leaves no
instance open: the instance is closed, and the handle is used in between only. -/
theorem Usage.one_life (hrecord : start.after (before ++ c :: later) = some u) (hlive : u.live = [])
    (hgiven : c.given? = some raw) (honce : opens raw (before ++ c :: later) = 1) :
    ∃ during rest, later = during ++ .closed raw :: rest ∧
      (∀ c' ∈ during, c'.closed? ≠ some raw) ∧ ∀ c' ∈ before ++ rest, c'.used? ≠ some raw := by
  have hcloses : closes raw (before ++ c :: later) = 1 := by
    have hopens := opens_eq hrecord raw
    rw [hlive, List.count_nil] at hopens
    omega
  rw [opens_append, opens_cons_of_given hgiven] at honce
  rw [closes_append, closes_cons_of_given hgiven] at hcloses
  have hbefore : closes raw before = 0 := by
    obtain ⟨u₁, u₂, hu₁, -, -⟩ := of_after_cons hrecord
    have hopens := opens_eq hu₁ raw
    omega
  obtain ⟨c', hc', hclosed⟩ : ∃ c' ∈ later, c'.closed? = some raw := by
    have hpos : 0 < closes raw later := by omega
    simpa [closes] using List.countP_pos_iff.mp hpos
  obtain rfl : c' = .closed raw := Contact.eq_closed hclosed
  obtain ⟨during, rest, rfl⟩ := List.append_of_mem hc'
  rw [closes_append, closes_cons_of_closed hclosed] at hcloses
  rw [opens_append] at honce
  refine ⟨during, rest, rfl, ?_, ?_⟩
  · have hnone : closes raw during = 0 := by omega
    simpa [closes, List.countP_eq_zero] using hnone
  · intro c' hmem hused
    rcases List.mem_append.mp hmem with hmem | hmem
    · obtain ⟨first, second, rfl⟩ := List.append_of_mem hmem
      rw [List.append_assoc, List.cons_append] at hrecord
      have hlt := closes_lt_opens hrecord hused
      rw [opens_append] at honce
      omega
    · -- the handle was given once and closed once before that
      obtain ⟨first, second, rfl⟩ := List.append_of_mem hmem
      have hlt : closes raw (before ++ c :: during ++ .closed raw :: first) <
          opens raw (before ++ c :: during ++ .closed raw :: first) := by
        apply closes_lt_opens _ hused
        · exact second
        · exact u
        · simpa using hrecord
      simp only [opens_append, closes_append, opens_cons_of_given hgiven,
        closes_cons_of_given hgiven, closes_cons_of_closed hclosed] at hlt honce hcloses
      have hclose : opens raw (.closed raw :: first) = opens raw first := rfl
      have hrest : opens raw (.closed raw :: (first ++ c' :: second)) =
          opens raw first + opens raw (c' :: second) := opens_append raw first _
      omega

/-- A record in order that leaves no instance open. -/
theorem Usage.wellUsed (hrecord : start.after record = some u) (hlive : u.live = []) :
    WellUsed record where
  set_up_once := by
    rw [outcomes_eq hrecord]
    cases u.outcome <;> simp
  set_up_first := by
    rintro before init reply later rfl
    exact setUp_mem hrecord
  none_opened := by
    intro detail hfailed init reply hopened
    obtain ⟨before, later, rfl⟩ := List.append_of_mem hopened
    have hok : .setUp (.ok ()) ∈ before ++ .opened init reply :: later :=
      List.mem_append_left _ (setUp_mem hrecord)
    -- both setups are all that the record says about setups
    have hboth {outcome : Except String Unit}
        (hmem : .setUp outcome ∈ before ++ .opened init reply :: later) :
        outcome ∈ u.outcome.toList := by
      rw [← outcomes_eq hrecord]
      exact List.mem_filterMap.mpr ⟨_, hmem, rfl⟩
    have h₁ := Option.mem_toList.mp (hboth hok)
    have h₂ := Option.mem_toList.mp (hboth hfailed)
    cases h₁.symm.trans h₂
  closes_eq_opens := by
    intro raw
    have hopens := opens_eq hrecord raw
    rw [hlive, List.count_nil] at hopens
    omega
  closed_later := by
    rintro before c later raw rfl hgiven
    obtain ⟨u₁, u₂, hbefore, -, -⟩ := of_after_cons hrecord
    have hopens := opens_eq hrecord raw
    have hopens₁ := opens_eq hbefore raw
    rw [hlive, List.count_nil, opens_append, opens_cons_of_given hgiven, closes_append,
      closes_cons_of_given hgiven] at hopens
    omega
  used_while_open := by
    rintro before c later raw rfl hused
    exact closes_lt_opens hrecord hused
  one_life := by
    rintro before c later raw rfl hgiven honce
    exact one_life hrecord hlive hgiven honce

end Reading
end EngineLink
