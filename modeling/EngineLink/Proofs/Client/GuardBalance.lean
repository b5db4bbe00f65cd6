import EngineLink.Proofs.Client.LockRoutine
import Mathlib.Data.List.Perm.Basic

/-!
# Guards and the holds of the lock

A guard takes a hold of the lock in one call and gives it up in another, which may be a commit, a
rollback, its going, or the end or the going of the session that has it.  Here one thread begins
and ends guards and sessions in any order, with any other calls in between.  Whatever the engine
replies, and whether or not the handle lets calls through, the lock is held once for every guard
that has not ended, and a guard that has ended asked once for the end of its transaction and gave
its hold up once.

Main results:

- Theorem {lit}`SessionCall.guardChange`: what a call of a session can do with its guard.
- Theorem {lit}`Holder.Kept.step`: what every call preserves.
- Theorem {lit}`holds_count_live_guards`: the holds and the ended guards after any calls.
-/

namespace EngineLink

/-! ## Guards that have ended -/

/-- Whether a deed is to ask for the end of a transaction, on whatever behalf. -/
def Deed.isTerminal : Deed → Bool
  | .invoke _ service method payload => (requestedEnd? service method payload).isSome
  | _ => false

/-- The controls that end a transaction are read as such. -/
theorem isTerminal_controlDeed (purpose : Purpose) (ending : Ending) :
    (Routine.controlDeed purpose ending.kind).isTerminal = true := by
  rw [Routine.controlDeed, Deed.isTerminal, requestedEnd?_of_encode (encode_control ending.kind)]
  cases ending <;> rfl

/-- A guard that has ended: how, and what was done at its end. -/
structure EndedGuard where
  ending : Ending
  deeds : List Deed

namespace EndedGuard

/-- The end was asked for once, and the lock was released once more than it was taken. -/
structure Settled (e : EndedGuard) : Prop where
  asked_once : e.deeds.filter Deed.isTerminal = [Routine.controlDeed .ends e.ending.kind]
  released_once : e.deeds.count .release = e.deeds.count .acquire + 1

theorem settled_endDeeds (ending : Ending) : Settled ⟨ending, Guard.endDeeds ending.kind⟩ where
  asked_once := by
    simp only [Guard.endDeeds, List.filter_cons, isTerminal_controlDeed]
    rfl
  released_once := by
    simp [Guard.endDeeds, Routine.controlDeed]

end EndedGuard

/-! ## Beginnings and ends on a link -/

namespace Link

variable {σ : Type} [Engine σ]

/-- A transaction that begins adds a hold, and one that does not adds none. -/
theorem holds_beginTransaction (link : Link σ) :
    (beginTransaction link).2.handle.holds =
      link.handle.holds + if (beginTransaction link).1.isOk then 1 else 0 := by
  have hholds := holds_control .begin link
  rw [beginTransaction_eq]
  generalize control .begin link = answer at hholds ⊢
  obtain ⟨fault | ⟨⟩, link'⟩ := answer
  · exact hholds
  · exact congrArg (· + 1) hholds

/-- A transaction that ends takes a hold away. -/
theorem holds_finishTransaction (kind : Message.RequestKind) (link : Link σ) :
    (finishTransaction kind link).2.handle.holds = link.handle.holds - 1 := by
  rw [finishTransaction_eq, holds_release, holds_control]

end Link

/-! ## The guard of a session -/

/-- How a session ends its guard at the outermost end. -/
def Session.chosen (s : Session) : Ending :=
  if s.frames.getLast?.any Frame.succeeds then .commit else .rollback

/-- What a call of a session can do with its guard: begin it, leave it as it is, or end it. -/
inductive GuardChange {σ : Type} (s : Session) (link : Link σ)
    (p : Performance σ (Except Error Unit × Session)) : Prop where
  | begun (hbefore : s.guarded = false) (hafter : p.value.2.guarded = true)
      (hholds : p.link.handle.holds = link.handle.holds + 1)
  | kept (hafter : p.value.2.guarded = s.guarded)
      (hholds : p.link.handle.holds = link.handle.holds)
  | ended (hbefore : s.guarded = true) (hafter : p.value.2.guarded = false)
      (hdeeds : p.deeds = Guard.endDeeds s.chosen.kind)
      (hholds : p.link.handle.holds = link.handle.holds - 1)

/-- A call of a session that has its guard exactly while frames are open. -/
theorem SessionCall.guardChange {σ : Type} [Engine σ] (call : SessionCall) {s : Session}
    (hguarded : s.guarded = s.inTransaction) (link : Link σ) :
    let p := (call.routine s).exec link
    GuardChange s link p ∧ p.value.2.guarded = p.value.2.inTransaction := by
  obtain ⟨frames, guarded⟩ := s
  cases frames with
  | nil =>
    obtain rfl : guarded = false := hguarded
    cases call with
    | begin =>
      have hholds := Link.holds_beginTransaction link
      simp only [routine, Routine.exec_bind, Guard.exec_begin]
      generalize Link.beginTransaction link = answer at hholds ⊢
      obtain ⟨fault | ⟨⟩, link'⟩ := answer
      · exact ⟨.kept rfl hholds, rfl⟩
      · exact ⟨.begun rfl rfl hholds, rfl⟩
    | mark => exact ⟨.kept rfl rfl, rfl⟩
    | finish => exact ⟨.kept rfl rfl, rfl⟩
  | cons frame outer =>
    obtain rfl : guarded = true := hguarded
    cases call with
    | begin => exact ⟨.kept rfl rfl, rfl⟩
    | mark => exact ⟨.kept rfl rfl, rfl⟩
    | finish =>
      cases outer with
      | cons parent outer => exact ⟨.kept rfl rfl, rfl⟩
      | nil =>
        have hkind : (Session.chosen ⟨[frame], true⟩).kind =
            if frame.succeeds then .commit else .rollback := by
          cases hsucceeds : frame.succeeds <;> simp [Session.chosen, hsucceeds, Ending.kind]
        have hholds :=
          Link.holds_finishTransaction (if frame.succeeds then .commit else .rollback) link
        simp only [routine, Routine.exec_bind, Guard.exec_spend, if_true, Routine.exec_pure,
          List.append_nil]
        exact ⟨.ended rfl rfl (by rw [hkind]) hholds, rfl⟩

/-! ## Counting -/

section Counting

variable {α : Type} (counted : α → Bool) {l : List α} {place : Nat} {a : α}

/-- A count without the element at a place. -/
theorem countP_eraseIdx_add (hfound : l[place]? = some a) :
    (l.eraseIdx place).countP counted + (if counted a then 1 else 0) = l.countP counted := by
  obtain ⟨hplace, rfl⟩ := List.getElem?_eq_some_iff.mp hfound
  have hperm := List.getElem_cons_eraseIdx_perm hplace
  rw [← hperm.countP_eq counted, List.countP_cons]

/-- A count with another element at a place. -/
theorem countP_set_add (hfound : l[place]? = some a) (b : α) :
    (l.set place b).countP counted + (if counted a then 1 else 0) =
      l.countP counted + if counted b then 1 else 0 := by
  obtain ⟨hplace, rfl⟩ := List.getElem?_eq_some_iff.mp hfound
  have hmember := List.getElem_mem hplace
  rw [List.countP_set hplace]
  by_cases hcounted : counted l[place] = true
  · have hpos : 0 < l.countP counted := List.countP_pos_iff.mpr ⟨_, hmember, hcounted⟩
    rw [if_pos hcounted]
    omega
  · rw [if_neg hcounted]
    omega

end Counting

/-! ## One thread with guards and sessions -/

/-- A thread with guards and sessions on a link, the number of guards it has begun, and those that
have ended. -/
structure Holder (σ : Type) where
  link : Link σ
  guards : List Guard
  sessions : List Session
  begun : Nat
  ended : List EndedGuard

/-- A call of such a thread.  Guards and sessions go by their places. -/
inductive HolderCall where
  | begin
  | finish (ending : Ending) (place : Nat)
  | newSession
  | session (call : SessionCall) (place : Nat)
  | dropSession (place : Nat)
  | call (service method : UInt32) (payload : Bytes)
  | note (active : Option Int32)
  | close

namespace Holder

variable {σ : Type}

/-- A thread without guards and sessions. -/
def start (link : Link σ) : Holder σ := ⟨link, [], [], 0, []⟩

/-- The guards that have not ended, those of sessions among them. -/
def live (h : Holder σ) : Nat := h.guards.countP Guard.held + h.sessions.countP Session.guarded

variable [Engine σ]

/-- Make a call.  A session's guard begins if the session has it after and not before the call, and
it ends if the session has it before and not after. -/
def step (h : Holder σ) : HolderCall → Holder σ
  | .begin =>
    let p := Guard.begin.exec h.link
    { h with
      link := p.link
      guards := h.guards ++ p.value.toOption.toList
      begun := h.begun + p.value.toOption.toList.length }
  | .finish ending place =>
    match h.guards[place]? with
    | none => h
    | some g =>
      let p := (ending.routine g).exec h.link
      { h with
        link := p.link
        guards := h.guards.eraseIdx place
        ended := ⟨ending, p.deeds⟩ :: h.ended }
  | .newSession => { h with sessions := h.sessions ++ [Session.empty] }
  | .session call place =>
    match h.sessions[place]? with
    | none => h
    | some s =>
      let p := (call.routine s).exec h.link
      { h with
        link := p.link
        sessions := h.sessions.set place p.value.2
        begun := if !s.guarded && p.value.2.guarded then h.begun + 1 else h.begun
        ended :=
          if s.guarded && !p.value.2.guarded then ⟨s.chosen, p.deeds⟩ :: h.ended else h.ended }
  | .dropSession place =>
    match h.sessions[place]? with
    | none => h
    | some s =>
      let p := s.leave.exec h.link
      { h with
        link := p.link
        sessions := h.sessions.eraseIdx place
        ended := if s.guarded then ⟨.drop, p.deeds⟩ :: h.ended else h.ended }
  | .call service method payload =>
    { h with link := ((Routine.call .plain service method payload).exec h.link).link }
  | .note active => { h with link := { h.link with handle := { h.link.handle with active } } }
  | .close => { h with link := (Routine.closeHandle.exec h.link).link }

/-- Make some calls. -/
def run (h : Holder σ) (calls : List HolderCall) : Holder σ := calls.foldl step h

/-- The lock is held once for every guard that has not ended, and those that have ended make up the
rest of the guards begun.  A guard has its hold until it ends, a session has its guard exactly
while frames are open, and the guards that have ended are settled. -/
structure Kept (h : Holder σ) : Prop where
  holds_eq : h.link.handle.holds = h.live
  begun_eq : h.begun = h.live + h.ended.length
  held : ∀ g ∈ h.guards, g = ⟨true⟩
  guarded : ∀ s ∈ h.sessions, s.guarded = s.inTransaction
  settled : ∀ e ∈ h.ended, e.Settled

omit [Engine σ] in
theorem kept_start {link : Link σ} (hfree : link.handle.holds = 0) : (start link).Kept where
  holds_eq := hfree
  begun_eq := rfl
  held _ hmember := nomatch hmember
  guarded _ hmember := nomatch hmember
  settled _ hmember := nomatch hmember

section Changes

variable {h h' : Holder σ} (hkept : h.Kept) (hheld : ∀ g ∈ h'.guards, g = ⟨true⟩)
  (hguarded : ∀ s ∈ h'.sessions, s.guarded = s.inTransaction)

include hkept hheld hguarded

omit [Engine σ] in
/-- No guard begins or ends. -/
theorem Kept.of_same (hholds : h'.link.handle.holds = h.link.handle.holds)
    (hlive : h'.live = h.live) (hbegun : h'.begun = h.begun) (hended : h'.ended = h.ended) :
    h'.Kept where
  holds_eq := by rw [hholds, hlive, hkept.holds_eq]
  begun_eq := by rw [hbegun, hlive, hended, hkept.begun_eq]
  held := hheld
  guarded := hguarded
  settled := hended ▸ hkept.settled

omit [Engine σ] in
/-- A guard begins, which adds a hold. -/
theorem Kept.of_begun (hholds : h'.link.handle.holds = h.link.handle.holds + 1)
    (hlive : h'.live = h.live + 1) (hbegun : h'.begun = h.begun + 1) (hended : h'.ended = h.ended) :
    h'.Kept where
  holds_eq := by rw [hholds, hlive, hkept.holds_eq]
  begun_eq := by rw [hbegun, hlive, hended, hkept.begun_eq, Nat.add_right_comm]
  held := hheld
  guarded := hguarded
  settled := hended ▸ hkept.settled

omit [Engine σ] in
/-- A guard ends and takes its hold along. -/
theorem Kept.of_ended (ending : Ending) (hholds : h'.link.handle.holds = h.link.handle.holds - 1)
    (hlive : h'.live + 1 = h.live) (hbegun : h'.begun = h.begun)
    (hended : h'.ended = ⟨ending, Guard.endDeeds ending.kind⟩ :: h.ended) : h'.Kept where
  holds_eq := by rw [hholds, hkept.holds_eq, ← hlive, Nat.add_sub_cancel]
  begun_eq := by
    rw [hbegun, hended, hkept.begun_eq, ← hlive, List.length_cons]
    omega
  held := hheld
  guarded := hguarded
  settled := by
    rw [hended, List.forall_mem_cons]
    exact ⟨EndedGuard.settled_endDeeds ending, hkept.settled⟩

end Changes

variable {h : Holder σ}

theorem Kept.begin (hkept : h.Kept) : (h.step .begin).Kept := by
  have hholds := Link.holds_beginTransaction h.link
  simp only [step, Guard.exec_begin]
  generalize Link.beginTransaction h.link = answer at hholds ⊢
  obtain ⟨fault | ⟨⟩, link'⟩ := answer
  · simp only [Except.map, Except.toOption, Option.toList, List.append_nil]
    exact hkept.of_same hkept.held hkept.guarded hholds rfl rfl rfl
  · simp only [Except.map, Except.toOption, Option.toList]
    refine hkept.of_begun ?_ hkept.guarded hholds ?_ rfl rfl
    · intro g hmember
      rcases List.mem_append.mp hmember with hmember | hmember
      · exact hkept.held g hmember
      · exact List.mem_singleton.mp hmember
    · simp [live, Nat.add_right_comm]

theorem Kept.finish (hkept : h.Kept) (ending : Ending) (place : Nat) :
    (h.step (.finish ending place)).Kept := by
  simp only [step]
  cases hfound : h.guards[place]? with
  | none => exact hkept
  | some g =>
    obtain rfl := hkept.held g (List.mem_of_getElem? hfound)
    have hcount := countP_eraseIdx_add Guard.held hfound
    simp only [if_true] at hcount
    simp only [Ending.exec_routine]
    refine hkept.of_ended ?_ hkept.guarded ending (Link.holds_finishTransaction ..) ?_ rfl rfl
    · exact fun g hmember => hkept.held g (List.mem_of_mem_eraseIdx hmember)
    · rw [live, live, ← hcount, Nat.add_right_comm]

/-- A session does with its guard what its call can do with it. -/
theorem Kept.session (hkept : h.Kept) (call : SessionCall) (place : Nat) :
    (h.step (.session call place)).Kept := by
  simp only [step]
  cases hfound : h.sessions[place]? with
  | none => exact hkept
  | some s =>
    obtain ⟨hchange, hafter⟩ :=
      call.guardChange (hkept.guarded s (List.mem_of_getElem? hfound)) h.link
    simp only at hchange hafter ⊢
    generalize (call.routine s).exec h.link = p at hchange hafter
    have hcount := countP_set_add Session.guarded hfound p.value.2
    have hguarded : ∀ s' ∈ h.sessions.set place p.value.2, s'.guarded = s'.inTransaction := by
      intro s' hmember
      rcases List.mem_or_eq_of_mem_set hmember with hmember | rfl
      · exact hkept.guarded s' hmember
      · exact hafter
    cases hchange with
    | begun hbefore hnow hholds =>
      simp only [hbefore, hnow, Bool.false_eq_true, if_true, if_false] at hcount
      refine hkept.of_begun hkept.held hguarded hholds ?_ (by simp [hbefore, hnow])
        (by simp [hbefore])
      simp only [live]
      omega
    | kept hnow hholds =>
      simp only [hnow] at hcount
      refine hkept.of_same hkept.held hguarded hholds ?_ (by simp [hnow]) (by simp [hnow])
      simp only [live]
      omega
    | ended hbefore hnow hdeeds hholds =>
      simp only [hbefore, hnow, Bool.false_eq_true, if_true, if_false] at hcount
      refine hkept.of_ended hkept.held hguarded s.chosen hholds ?_ (by simp [hbefore])
        (by simp [hbefore, hnow, hdeeds])
      simp only [live]
      omega

theorem Kept.dropSession (hkept : h.Kept) (place : Nat) : (h.step (.dropSession place)).Kept := by
  simp only [step]
  cases hfound : h.sessions[place]? with
  | none => exact hkept
  | some s =>
    have hcount := countP_eraseIdx_add Session.guarded hfound
    have hguarded : ∀ s' ∈ h.sessions.eraseIdx place, s'.guarded = s'.inTransaction :=
      fun s' hmember => hkept.guarded s' (List.mem_of_mem_eraseIdx hmember)
    by_cases hs : s.guarded = true
    · simp only [if_pos hs] at hcount
      simp only [Session.leave, hs, if_true, Guard.exec_discard]
      have hholds := Link.holds_finishTransaction .rollback h.link
      refine hkept.of_ended hkept.held hguarded .drop hholds ?_ rfl rfl
      rw [live, live, ← hcount, Nat.add_assoc]
    · simp only [if_neg hs] at hcount
      simp only [Session.leave, if_neg hs, Routine.exec_pure]
      refine hkept.of_same hkept.held hguarded rfl ?_ rfl rfl
      rw [live, live, ← hcount, Nat.add_zero]

theorem Kept.newSession (hkept : h.Kept) : (h.step .newSession).Kept := by
  refine hkept.of_same hkept.held ?_ rfl ?_ rfl rfl
  · intro s hmember
    rcases List.mem_append.mp hmember with hmember | hmember
    · exact hkept.guarded s hmember
    · rw [List.mem_singleton.mp hmember]
      rfl
  · simp [step, live, Session.empty]

omit [Engine σ] in
/-- A call that has nothing to do with guards and sessions. -/
theorem Kept.of_holds (hkept : h.Kept) {link : Link σ}
    (hholds : link.handle.holds = h.link.handle.holds) : Kept { h with link } :=
  hkept.of_same hkept.held hkept.guarded hholds rfl rfl rfl

/-- What every call preserves. -/
theorem Kept.step (hkept : h.Kept) (call : HolderCall) : (h.step call).Kept := by
  cases call with
  | begin => exact hkept.begin
  | finish ending place => exact hkept.finish ending place
  | newSession => exact hkept.newSession
  | session call place => exact hkept.session call place
  | dropSession place => exact hkept.dropSession place
  | call service method payload =>
    refine hkept.of_holds ?_
    rw [Routine.exec_call, Link.holds_invoke]
  | note active => exact hkept.of_holds rfl
  | close =>
    refine hkept.of_holds ?_
    rw [Routine.exec_closeHandle, Link.holds_close]

/-- What every run preserves. -/
theorem Kept.run (hkept : h.Kept) (calls : List HolderCall) : (h.run calls).Kept := by
  induction calls generalizing h with
  | nil => exact hkept
  | cons call rest ih => exact ih (hkept.step call)

/-- What a call does to the link, as the calls of the link and of a session have it. -/
def linkAfter (h : Holder σ) : HolderCall → Link σ
  | .begin => (Link.beginTransaction h.link).2
  | .finish ending place =>
    if place < h.guards.length then (Link.finishTransaction ending.kind h.link).2 else h.link
  | .newSession => h.link
  | .session call place => h.sessions[place]?.elim h.link fun s => (call.run s h.link).2
  | .dropSession place => h.sessions[place]?.elim h.link fun s => s.discard h.link
  | .call service method payload => (Link.invoke service method payload h.link).2
  | .note active => { h.link with handle := { h.link.handle with active } }
  | .close => h.link.close

/-- The deeds come to what the calls of the link and of a session do. -/
theorem Kept.link_step (hkept : h.Kept) (call : HolderCall) :
    (h.step call).link = h.linkAfter call := by
  cases call with
  | begin => simp only [Holder.step, linkAfter, Guard.exec_begin]
  | finish ending place =>
    simp only [Holder.step, linkAfter]
    by_cases hplace : place < h.guards.length
    · have hheld := hkept.held _ (List.getElem_mem hplace)
      simp only [List.getElem?_eq_getElem hplace, hheld, Ending.exec_routine, if_pos hplace]
    · simp only [List.getElem?_eq_none (Nat.le_of_not_lt hplace), if_neg hplace]
  | newSession => rfl
  | session call place =>
    simp only [Holder.step, linkAfter]
    cases h.sessions[place]? with
    | none => rfl
    | some s => exact (call.exec_routine s h.link).2
  | dropSession place =>
    simp only [Holder.step, linkAfter]
    cases h.sessions[place]? with
    | none => rfl
    | some s => exact s.exec_leave h.link
  | call service method payload => simp only [Holder.step, linkAfter, Routine.exec_call]
  | note active => rfl
  | close => simp only [Holder.step, linkAfter, Routine.exec_closeHandle]

/-- What can be said between two calls. -/
structure Balanced (h : Holder σ) : Prop where
  /-- The lock is held once for every guard that has not ended. -/
  holds_eq : h.link.handle.holds = h.live
  /-- Every guard begun has not ended yet or is among those that have. -/
  begun_eq : h.begun = h.live + h.ended.length
  /-- A beginning that fails adds no hold. -/
  refused : ∀ fault, (Link.beginTransaction h.link).1 = .error fault →
    (Link.beginTransaction h.link).2.handle.holds = h.link.handle.holds
  /-- A guard that has ended asked for the end once and gave its hold up once. -/
  settled : ∀ e ∈ h.ended, e.Settled
  /-- The next call does to the link what it is to do. -/
  link_step : ∀ call, (h.step call).link = h.linkAfter call

end Holder

/-- Every guard ends once, and the lock is held as often as there are guards.  After any calls of
one thread on any engine, whatever it replied, the holds are those of the guards that have not
ended; a beginning that fails adds none; and every guard that has ended asked once for the commit
or the rollback and released its hold once, also if the handle was closed or poisoned by then. -/
theorem holds_count_live_guards {σ : Type} [Engine σ] {link : Link σ}
    (hfree : link.handle.holds = 0) (calls : List HolderCall) :
    ((Holder.start link).run calls).Balanced := by
  have hkept := (Holder.kept_start hfree).run calls
  refine ⟨hkept.holds_eq, hkept.begun_eq, ?_, hkept.settled, hkept.link_step⟩
  intro fault hrefused
  rw [Link.holds_beginTransaction, hrefused]
  rfl

/-- Two guards and a session on an engine that begins one transaction only.  The guard that began
it is left with a handle that was closed in the meantime. -/
theorem guard_outlives_handle :
    let calls : List HolderCall :=
      [.begin, .begin, .newSession, .session .begin 0, .close, .finish .commit 0]
    stubborn.handle.holds = 0 ∧ ((Holder.start stubborn).run (calls.take 5)).live = 1 ∧
      ((Holder.start stubborn).run calls).live = 0 ∧
      ((Holder.start stubborn).run calls).ended.length = 1 ∧
      ((Holder.start stubborn).run calls).Balanced :=
  ⟨rfl, by decide +kernel, by decide +kernel, by decide +kernel, holds_count_live_guards rfl _⟩

end EngineLink
