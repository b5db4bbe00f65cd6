import EngineLink.Proofs.Client.LockRoutine
import Mathlib.Data.List.Perm.Basic
import Mathlib.Logic.Function.Basic

/-!
# Transactions of several threads on one handle

Threads that share a handle go about their routines one deed at a time, in any order.  A thread
that wants the lock waits while another one holds it.  From the deed that begins the transaction
of a guard to the deed that asks for its end, the engine is called by the thread of the guard only,
exempt methods apart, and only that thread can close the handle.

What carries this is a discipline of the routines: along each of them a thread knows how many holds
it has besides those of its guards, a beginning that succeeds turns one of these into the hold of
the new guard, and the engine is not called without a hold, unless the method is exempt.

Main results:

- Theorem {lit}`Task.disciplined_begin`: the beginning of a guard keeps to the discipline.
- Theorem {lit}`Workers.Orderly.step`: what every deed of every thread preserves.
- Theorem {lit}`Workers.Orderly.undisturbed`: a thread that is not interrupted does what the call
  does.
- Theorem {lit}`transactions_are_serial`: who calls the engine during a transaction, and who waits.
-/

namespace EngineLink

/-! ## Tasks -/

/-- What a thread can set out to do. -/
inductive Task where
  | call (service method : UInt32) (payload : Bytes)
  | begin
  | finish (ending : Ending) (g : Guard)
  | close

/-- The deeds of a task, which may leave the thread with a guard. -/
def Task.routine : Task → Routine (Option Guard)
  | .call service method payload => do
    let _ ← Routine.call .plain service method payload
    return none
  | .begin => do return (← Guard.begin).toOption
  | .finish ending g => do
    ending.routine g
    return none
  | .close => do
    Routine.closeHandle
    return none

/-! ## The discipline of routines -/

/-- What is still to do is in order for a thread that has some holds besides those of its guards
and may have a guard under way, which has a hold of its own.  The engine is called with a hold,
unless the method is exempt.  A beginning that succeeds turns a hold into that of the guard, and
the end of the guard turns it back. -/
inductive Disciplined : Nat → Bool → Routine (Option Guard) → Prop where
  | idle : Disciplined 0 false (.done none)
  | keeping : Disciplined 0 true (.done (some ⟨true⟩))
  | acquire {holds : Nat} {underWay : Bool} {rest : Routine (Option Guard)}
      (hrest : Disciplined (holds + 1) underWay rest) : Disciplined holds underWay (.acquire rest)
  | release {holds : Nat} {underWay : Bool} {rest : Routine (Option Guard)}
      (hrest : Disciplined holds underWay rest) : Disciplined (holds + 1) underWay (.release rest)
  | plain {holds : Nat} {underWay : Bool} {service method : UInt32} {payload : Bytes}
      {rest : Except Error Bytes → Routine (Option Guard)}
      (hlock : Method.idsExempt service method = false → 0 < holds)
      (hrest : ∀ answer, Disciplined holds underWay (rest answer)) :
      Disciplined holds underWay (.invoke .plain service method payload rest)
  | begins {holds : Nat} {rest : Except Error Bytes → Routine (Option Guard)}
      (hok : ∀ bytes, Disciplined holds true (rest (.ok bytes)))
      (herror : ∀ fault, Disciplined (holds + 1) false (rest (.error fault))) :
      Disciplined (holds + 1) false (.invoke .begins Method.query.ids.1 Method.query.ids.2
        (Wired.toItem (Message.DbRequest.control .begin)).write rest)
  | ends {holds : Nat} (ending : Ending) {rest : Except Error Bytes → Routine (Option Guard)}
      (hrest : ∀ answer, Disciplined (holds + 1) false (rest answer)) :
      Disciplined holds true (.invoke .ends Method.query.ids.1 Method.query.ids.2
        (Wired.toItem (Message.DbRequest.control ending.kind)).write rest)
  | close {holds : Nat} {underWay : Bool} {rest : Routine (Option Guard)} (hlock : 0 < holds)
      (hrest : Disciplined holds underWay rest) : Disciplined holds underWay (.close rest)

namespace Task

/-- A call by numbers takes the lock and gives it up again, or does without. -/
theorem disciplined_call (service method : UInt32) (payload : Bytes) :
    Disciplined 0 false (Task.call service method payload).routine := by
  simp only [routine, Routine.call]
  by_cases hexempt : Method.idsExempt service method = true
  · rw [if_pos hexempt]
    refine .plain (fun hnot => ?_) fun answer => .idle
    rw [hexempt] at hnot
    cases hnot
  · rw [if_neg hexempt]
    exact .acquire (.plain (fun _ => Nat.one_pos) fun answer => .release .idle)

/-- A beginning keeps one of its two holds for the guard if the engine accepts it. -/
theorem disciplined_begin : Disciplined 0 false Task.begin.routine := by
  simp only [routine, Guard.begin, Routine.control, encode_control, Routine.call, idsExempt_query]
  refine .acquire (.acquire (.begins (fun bytes => ?_) fun fault => ?_))
  · exact .release .keeping
  · exact .release (.release .idle)

/-- The end of a guard gives up the hold of the guard along with that of the call. -/
theorem disciplined_finish (ending : Ending) :
    Disciplined 0 true (Task.finish ending ⟨true⟩).routine := by
  cases ending <;>
    simp only [routine, Ending.routine, Guard.spend, Guard.discard, Guard.finish, Routine.control,
      encode_control, Routine.call, idsExempt_query]
  · exact .acquire (.ends .commit fun answer => .release (.release .idle))
  · exact .acquire (.ends .rollback fun answer => .release (.release .idle))
  · exact .acquire (.ends .drop fun answer => .release (.release .idle))

theorem disciplined_close : Disciplined 0 false Task.close.routine :=
  .acquire (.close Nat.one_pos (.release .idle))

end Task

/-! ## What happened -/

/-- A deed of a thread in its task of the given number, and whether the engine answered with
success if it was called. -/
structure Happening where
  thread : Nat
  number : Nat
  deed : Deed
  succeeded : Bool
  deriving DecidableEq

namespace Happening

/-- The transaction of a guard has begun. -/
def BeginsGuard (h : Happening) : Prop :=
  h.deed = Routine.controlDeed .begins .begin ∧ h.succeeded = true

/-- A guard has asked for the end of its transaction. -/
def EndsGuard (h : Happening) : Prop :=
  ∃ ending : Ending, h.deed = Routine.controlDeed .ends ending.kind

/-- The engine was called with a method that is not exempt, or the handle was closed. -/
def NeedsLock (h : Happening) : Prop :=
  match h.deed with
  | .invoke _ service method _ => Method.idsExempt service method = false
  | .close => True
  | _ => False

end Happening

/-- A thread is in the transaction of its guard of the given number, given what happened, the
latest first. -/
def InTransaction (t number : Nat) : List Happening → Prop
  | [] => False
  | h :: earlier =>
    (h.thread = t ∧ h.number = number ∧ h.BeginsGuard) ∨
      InTransaction t number earlier ∧ ¬ (h.thread = t ∧ h.number = number ∧ h.EndsGuard)

/-- Only a call of the engine on behalf of a guard begins a transaction. -/
theorem not_beginsGuard {h : Happening}
    (hdeed : ∀ service method payload, h.deed ≠ .invoke .begins service method payload) :
    ¬ h.BeginsGuard :=
  fun hbegins => hdeed _ _ _ hbegins.1

/-- A transaction that lasts after a deed that begins none has lasted before. -/
theorem inTransaction_of_cons {t n : Nat} {h : Happening} {earlier : List Happening}
    (hnot : ¬ h.BeginsGuard) (hin : InTransaction t n (h :: earlier)) :
    InTransaction t n earlier := by
  rcases hin with ⟨-, -, hbegins⟩ | ⟨hin, -⟩
  · exact absurd hbegins hnot
  · exact hin

/-- A transaction that has begun lasts until its guard asks for the end. -/
theorem inTransaction_of_begun {b : Happening} {between : List Happening}
    (hbegins : b.BeginsGuard) (earlier : List Happening)
    (hlasts : ∀ h ∈ between, ¬ (h.thread = b.thread ∧ h.number = b.number ∧ h.EndsGuard)) :
    InTransaction b.thread b.number (between ++ b :: earlier) := by
  induction between with
  | nil => exact .inl ⟨rfl, rfl, hbegins⟩
  | cons h between ih =>
    rw [List.forall_mem_cons] at hlasts
    exact .inr ⟨ih hlasts.2, hlasts.1⟩

/-! ## Threads -/

/-- A thread: the guards it has, each with the number of the task that began it, and the task it
is at, with its number and what is still to do. -/
structure Worker where
  guards : List (Nat × Guard)
  current : Option (Nat × Routine (Option Guard))

/-- Threads that share a handle.  The owner of the lock counts while the lock is held. -/
structure Workers (σ : Type) where
  link : Link σ
  owner : Nat
  workers : Nat → Worker
  next : Nat
  log : List Happening

/-- What comes next: a thread without a task sets out for one, or a thread goes on with its task
by one deed.  Guards go by their places. -/
inductive Pick where
  | call (t : Nat) (service method : UInt32) (payload : Bytes)
  | begin (t : Nat)
  | finish (t : Nat) (ending : Ending) (place : Nat)
  | close (t : Nat)
  | go (t : Nat)

/-- The thread that is picked. -/
def Pick.thread : Pick → Nat
  | .call t _ _ _ | .begin t | .finish t _ _ | .close t | .go t => t

namespace Workers

variable {σ : Type}

/-- Threads without guards and tasks. -/
def start (link : Link σ) : Workers σ := ⟨link, 0, fun _ => ⟨[], none⟩, 0, []⟩

/-- How often a thread holds the lock. -/
def heldBy (m : Workers σ) (t : Nat) : Nat := if m.owner = t then m.link.handle.holds else 0

/-- Whether a thread can take the lock. -/
def isFree (m : Workers σ) (t : Nat) : Bool := m.link.handle.holds = 0 ∨ m.owner = t

/-- A thread without a task sets out for one. -/
def setOut (m : Workers σ) (t number : Nat) (guards : List (Nat × Guard)) (task : Task) :
    Workers σ :=
  if (m.workers t).current.isSome then m
  else
    { m with
      workers := Function.update m.workers t ⟨guards, some (number, task.routine)⟩
      next := m.next + 1 }

/-- A thread has done a deed. -/
def advance (m : Workers σ) (t number : Nat) (deed : Deed) (succeeded : Bool)
    (rest : Routine (Option Guard)) (link : Link σ) (owner : Nat) : Workers σ :=
  { m with
    link, owner
    workers := Function.update m.workers t ⟨(m.workers t).guards, some (number, rest)⟩
    log := ⟨t, number, deed, succeeded⟩ :: m.log }

variable [Engine σ]

/-- A thread goes on with its task by one deed.  It stays where it is if it wants the lock while
another thread holds it. -/
def go (m : Workers σ) (t : Nat) : Workers σ :=
  match (m.workers t).current with
  | none => m
  | some (number, .done kept) =>
    { m with
      workers := Function.update m.workers t
        ⟨(m.workers t).guards ++ kept.toList.map fun g => (number, g), none⟩ }
  | some (number, .acquire rest) =>
    if m.isFree t then m.advance t number .acquire true rest m.link.acquire t else m
  | some (number, .release rest) => m.advance t number .release true rest m.link.release m.owner
  | some (number, .invoke purpose service method payload rest) =>
    let answered := Link.invoke service method payload m.link
    m.advance t number (.invoke purpose service method payload) answered.1.isOk (rest answered.1)
      answered.2 m.owner
  | some (number, .close rest) => m.advance t number .close true rest m.link.close m.owner

/-- What becomes of the threads by a pick. -/
def step (m : Workers σ) : Pick → Workers σ
  | .call t service method payload =>
    m.setOut t m.next (m.workers t).guards (.call service method payload)
  | .begin t => m.setOut t m.next (m.workers t).guards .begin
  | .finish t ending place =>
    match (m.workers t).guards[place]? with
    | none => m
    | some (number, g) =>
      m.setOut t number ((m.workers t).guards.eraseIdx place) (.finish ending g)
  | .close t => m.setOut t m.next (m.workers t).guards .close
  | .go t => m.go t

/-- What becomes of the threads by some picks. -/
def run (m : Workers σ) (picks : List Pick) : Workers σ := picks.foldl step m

/-! ## The order of the threads -/

end Workers

/-- How the holds of a thread go with its guards and its task, and which transactions last: those of
the guards it has and of the guard under way. -/
inductive Worker.Keeps (w : Worker) (held : Nat) (lasts : Nat → Prop) : Prop where
  | idle (hcurrent : w.current = none) (hheld : held = w.guards.length)
      (hlasts : ∀ n, lasts n → n ∈ w.guards.map Prod.fst)
  | busy {number : Nat} {rest : Routine (Option Guard)} {holds : Nat} {underWay : Bool}
      (hcurrent : w.current = some (number, rest)) (hrest : Disciplined holds underWay rest)
      (hheld : held = w.guards.length + holds + underWay.toNat)
      (hlasts : ∀ n, lasts n → n ∈ w.guards.map Prod.fst ∨ underWay = true ∧ n = number)

/-- A guard whose transaction lasts has a hold. -/
theorem Worker.Keeps.held_pos {w : Worker} {held : Nat} {lasts : Nat → Prop}
    (hkeeps : w.Keeps held lasts) {n : Nat} (hn : lasts n) : 0 < held := by
  have hpos (hmember : n ∈ w.guards.map Prod.fst) : 0 < w.guards.length := by
    simpa using List.length_pos_of_mem hmember
  cases hkeeps with
  | idle hcurrent hheld hlasts =>
    rw [hheld]
    exact hpos (hlasts n hn)
  | busy hcurrent hrest hheld hlasts =>
    rcases hlasts n hn with hmember | ⟨hunderWay, -⟩
    · have := hpos hmember
      omega
    · rw [hunderWay, Bool.toNat_true] at hheld
      omega

/-- Fewer transactions may last. -/
theorem Worker.Keeps.mono {w : Worker} {held : Nat} {lasts lasts' : Nat → Prop}
    (hkeeps : w.Keeps held lasts) (hfewer : ∀ n, lasts' n → lasts n) : w.Keeps held lasts' := by
  cases hkeeps with
  | idle hcurrent hheld hlasts => exact .idle hcurrent hheld fun n hn => hlasts n (hfewer n hn)
  | busy hcurrent hrest hheld hlasts =>
    exact .busy hcurrent hrest hheld fun n hn => hlasts n (hfewer n hn)

namespace Workers

variable {σ : Type}

/-- Every thread has the holds that belong to its guards and its task, and a thread in a
transaction has the guard of it.  Whoever needed the lock was the thread in a transaction, if
there was one. -/
structure Orderly (m : Workers σ) : Prop where
  guards_held : ∀ t, ∀ g ∈ (m.workers t).guards, g.2 = ⟨true⟩
  keeps : ∀ t, (m.workers t).Keeps (m.heldBy t) fun n => InTransaction t n m.log
  serial : ∀ later h earlier, m.log = later ++ h :: earlier → h.NeedsLock →
    ∀ t n, InTransaction t n earlier → h.thread = t

variable {m : Workers σ} {t : Nat}

theorem orderly_start {link : Link σ} (hfree : link.handle.holds = 0) : (start link).Orderly where
  guards_held _ _ hmember := nomatch hmember
  keeps t := by
    refine .idle rfl ?_ fun n hn => False.elim hn
    simp [heldBy, start, hfree]
  serial later h earlier hlog := by
    simp [start] at hlog

theorem eq_owner_of_heldBy_pos (hheld : 0 < m.heldBy t) : m.owner = t := by
  by_contra hother
  rw [heldBy, if_neg hother] at hheld
  exact Nat.lt_irrefl 0 hheld

/-- A change of one thread is in order if the thread keeps what it is to keep, the holds of the
others stay as they are, and no transaction of theirs begins. -/
theorem Orderly.of_update (hm : m.Orderly) {m' : Workers σ} {w : Worker}
    (hworkers : m'.workers = Function.update m.workers t w) (hguards : ∀ g ∈ w.guards, g.2 = ⟨true⟩)
    (hkeeps : w.Keeps (m'.heldBy t) fun n => InTransaction t n m'.log)
    (hothers : ∀ t', t' ≠ t → m'.heldBy t' = m.heldBy t' ∧
      ∀ n, InTransaction t' n m'.log → InTransaction t' n m.log)
    (hserial : ∀ later h earlier, m'.log = later ++ h :: earlier → h.NeedsLock →
      ∀ t n, InTransaction t n earlier → h.thread = t) :
    m'.Orderly := by
  refine ⟨fun t' => ?_, fun t' => ?_, hserial⟩
  · by_cases ht : t' = t
    · subst ht
      simpa only [hworkers, Function.update_self] using hguards
    · simpa only [hworkers, Function.update_of_ne ht] using hm.guards_held t'
  · by_cases ht : t' = t
    · subst ht
      simpa only [hworkers, Function.update_self] using hkeeps
    · obtain ⟨hheld, hfewer⟩ := hothers t' ht
      rw [hworkers, Function.update_of_ne ht, hheld]
      exact (hm.keeps t').mono hfewer

/-- A thread that sets out has the guards it had, one of them under way if it is to end it. -/
theorem Orderly.setOut (hm : m.Orderly) {number : Nat} {guards : List (Nat × Guard)} {task : Task}
    {underWay : Bool} (hguards : ∀ g ∈ guards, g.2 = ⟨true⟩)
    (hrest : Disciplined 0 underWay task.routine)
    (hlength : (m.workers t).guards.length = guards.length + underWay.toNat)
    (hlasting : ∀ n ∈ (m.workers t).guards.map Prod.fst,
      n ∈ guards.map Prod.fst ∨ underWay = true ∧ n = number) :
    (m.setOut t number guards task).Orderly := by
  unfold Workers.setOut
  by_cases hbusy : (m.workers t).current.isSome = true
  · rw [if_pos hbusy]
    exact hm
  rw [if_neg hbusy]
  refine hm.of_update rfl hguards ?_ (fun _ _ => ⟨rfl, fun _ => id⟩) hm.serial
  cases hm.keeps t with
  | busy hcurrent => simp [hcurrent] at hbusy
  | idle hcurrent hheld hlasts =>
    exact .busy rfl hrest (hheld.trans hlength) fun n hn => hlasting n (hlasts n hn)

/-- A thread goes on in order if the holds of the other threads stay as they are, and if it had a
hold when it needed one. -/
theorem Orderly.advance (hm : m.Orderly) {number : Nat} {deed : Deed} {succeeded : Bool}
    {rest : Routine (Option Guard)} {link : Link σ} {owner holds : Nat} {underWay : Bool}
    (hrest : Disciplined holds underWay rest)
    (hheld : (if owner = t then link.handle.holds else 0) =
      (m.workers t).guards.length + holds + underWay.toNat)
    (hothers : ∀ t', t' ≠ t → (if owner = t' then link.handle.holds else 0) = m.heldBy t')
    (hin : ∀ n, InTransaction t n (⟨t, number, deed, succeeded⟩ :: m.log) →
      n ∈ (m.workers t).guards.map Prod.fst ∨ underWay = true ∧ n = number)
    (hlock : Happening.NeedsLock ⟨t, number, deed, succeeded⟩ → 0 < m.heldBy t) :
    (m.advance t number deed succeeded rest link owner).Orderly := by
  refine hm.of_update rfl (hm.guards_held t) (.busy rfl hrest hheld hin)
    (fun t' ht => ⟨hothers t' ht, fun n hn => ?_⟩) ?_
  · exact hn.elim (fun hbegun => absurd hbegun.1.symm ht) And.left
  · intro later h earlier hlog hneeds t' n hn
    cases later with
    | nil =>
      -- the deed just done: whoever is in a transaction has a hold, and so has this thread
      obtain ⟨rfl, rfl⟩ := List.cons.inj hlog
      have hother := eq_owner_of_heldBy_pos ((hm.keeps t').held_pos hn)
      exact (eq_owner_of_heldBy_pos (hlock hneeds)).symm.trans hother
    | cons last later =>
      obtain ⟨-, hlog⟩ := List.cons.inj hlog
      exact hm.serial later h earlier hlog hneeds t' n hn

/-- Taking the lock is in order if it is free for the thread. -/
theorem Orderly.acquire (hm : m.Orderly) {number holds : Nat} {rest : Routine (Option Guard)}
    {underWay : Bool} (hfree : m.isFree t = true) (hrest : Disciplined (holds + 1) underWay rest)
    (hheld : m.heldBy t = (m.workers t).guards.length + holds + underWay.toNat)
    (hlasts : ∀ n, InTransaction t n m.log →
      n ∈ (m.workers t).guards.map Prod.fst ∨ underWay = true ∧ n = number) :
    (m.advance t number .acquire true rest m.link.acquire t).Orderly := by
  have hfree : m.link.handle.holds = 0 ∨ m.owner = t := of_decide_eq_true hfree
  have hown : m.heldBy t = m.link.handle.holds := by
    rcases hfree with hzero | howner
    · simp [heldBy, hzero]
    · rw [heldBy, if_pos howner]
  refine hm.advance hrest ?_ (fun t' ht => ?_) (fun n hn => ?_) fun hneeds => False.elim hneeds
  · rw [if_pos rfl, Link.holds_acquire]
    omega
  · rw [if_neg (Ne.symm ht), heldBy]
    rcases hfree with hzero | howner
    · simp [hzero]
    · rw [howner, if_neg (Ne.symm ht)]
  · exact hlasts n (inTransaction_of_cons (not_beginsGuard (by simp)) hn)

/-- Releasing the lock is in order for a thread that holds it. -/
theorem Orderly.release (hm : m.Orderly) {number holds : Nat} {rest : Routine (Option Guard)}
    {underWay : Bool} (hrest : Disciplined holds underWay rest)
    (hheld : m.heldBy t = (m.workers t).guards.length + (holds + 1) + underWay.toNat)
    (hlasts : ∀ n, InTransaction t n m.log →
      n ∈ (m.workers t).guards.map Prod.fst ∨ underWay = true ∧ n = number) :
    (m.advance t number .release true rest m.link.release m.owner).Orderly := by
  have howner : m.owner = t := eq_owner_of_heldBy_pos (by omega)
  refine hm.advance hrest ?_ (fun t' ht => ?_) (fun n hn => ?_) fun hneeds => False.elim hneeds
  · rw [heldBy, if_pos howner] at hheld
    rw [if_pos howner, Link.holds_release]
    omega
  · have hother : m.owner ≠ t' := fun h => ht (h.symm.trans howner)
    rw [heldBy, if_neg hother, if_neg hother]
  · exact hlasts n (inTransaction_of_cons (not_beginsGuard (by simp)) hn)

/-- A deed that does not touch the lock is in order for a thread that has a hold if it needs
one. -/
theorem Orderly.advance_of_holds (hm : m.Orderly) {number : Nat} {deed : Deed} {succeeded : Bool}
    {rest : Routine (Option Guard)} {link : Link σ} {holds : Nat} {underWay : Bool}
    (hlink : link.handle.holds = m.link.handle.holds) (hrest : Disciplined holds underWay rest)
    (hheld : m.heldBy t = (m.workers t).guards.length + holds + underWay.toNat)
    (hin : ∀ n, InTransaction t n (⟨t, number, deed, succeeded⟩ :: m.log) →
      n ∈ (m.workers t).guards.map Prod.fst ∨ underWay = true ∧ n = number)
    (hlock : Happening.NeedsLock ⟨t, number, deed, succeeded⟩ → 0 < m.heldBy t) :
    (m.advance t number deed succeeded rest link m.owner).Orderly := by
  refine hm.advance hrest ?_ (fun t' _ => ?_) hin hlock
  · rw [hlink]
    exact hheld
  · rw [hlink, heldBy]

/-- A thread that has done its task has the guard it keeps. -/
theorem Orderly.settle (hm : m.Orderly) {guards : List (Nat × Guard)}
    (hguards : ∀ g ∈ guards, g.2 = ⟨true⟩) (hheld : m.heldBy t = guards.length)
    (hlasts : ∀ n, InTransaction t n m.log → n ∈ guards.map Prod.fst) :
    Orderly { m with workers := Function.update m.workers t ⟨guards, none⟩ } :=
  hm.of_update rfl hguards (.idle rfl hheld hlasts) (fun _ _ => ⟨rfl, fun _ => id⟩) hm.serial

variable [Engine σ]

/-- What every deed preserves. -/
theorem Orderly.go (hm : m.Orderly) (t : Nat) : (m.go t).Orderly := by
  unfold Workers.go
  cases hm.keeps t with
  | idle hcurrent =>
    simp only [hcurrent]
    exact hm
  | @busy number rest holds underWay hcurrent hrest hheld hlasts =>
    simp only [hcurrent]
    have hguards := hm.guards_held t
    cases hrest with
    | idle =>
      simp only [Option.toList, List.map_nil, List.append_nil]
      refine hm.settle hguards hheld fun n hn => ?_
      exact (hlasts n hn).resolve_right fun h => nomatch h.1
    | keeping =>
      refine hm.settle ?_ ?_ fun n hn => ?_
      · intro g hmember
        rcases List.mem_append.mp hmember with hmember | hmember
        · exact hguards g hmember
        · rw [List.mem_singleton.mp hmember]
      · simpa using hheld
      · rcases hlasts n hn with hmember | ⟨-, rfl⟩
        · rw [List.map_append]
          exact List.mem_append_left _ hmember
        · simp
    | acquire hrest =>
      by_cases hfree : m.isFree t = true
      · simp only [if_pos hfree]
        exact hm.acquire hfree hrest hheld hlasts
      · simp only [if_neg hfree]
        exact hm
    | release hrest => exact hm.release hrest hheld hlasts
    | plain hlock hrest =>
      refine hm.advance_of_holds (Link.holds_invoke ..) (hrest _) hheld (fun n hn => ?_) ?_
      · exact hlasts n (inTransaction_of_cons (not_beginsGuard (by simp)) hn)
      · intro hneeds
        have := hlock hneeds
        omega
    | begins hok herror =>
      have hholds := Link.holds_invoke Method.query.ids.1 Method.query.ids.2
        (Wired.toItem (Message.DbRequest.control .begin)).write m.link
      dsimp only
      generalize Link.invoke Method.query.ids.1 Method.query.ids.2
        (Wired.toItem (Message.DbRequest.control .begin)).write m.link = answer at hholds ⊢
      have hlock : 0 < m.heldBy t := by omega
      obtain ⟨fault | bytes, link'⟩ := answer
      · refine hm.advance_of_holds hholds (herror fault) hheld (fun n hn => ?_) fun _ => hlock
        exact hlasts n (inTransaction_of_cons (fun hbegins => Bool.false_ne_true hbegins.2) hn)
      · refine hm.advance_of_holds hholds (hok bytes) ?_ (fun n hn => ?_) fun _ => hlock
        · rw [hheld, Bool.toNat_true, Bool.toNat_false]
          omega
        · rcases hn with ⟨-, hnumber, -⟩ | ⟨hn, -⟩
          · exact .inr ⟨rfl, hnumber.symm⟩
          · exact .inl ((hlasts n hn).resolve_right fun h => nomatch h.1)
    | ends ending hrest =>
      refine hm.advance_of_holds (Link.holds_invoke ..) (hrest _) hheld (fun n hn => ?_) fun _ => ?_
      · rcases hn with ⟨-, -, hbegins, -⟩ | ⟨hn, hnot⟩
        · simp [Routine.controlDeed] at hbegins
        · refine .inl ((hlasts n hn).resolve_right fun h => hnot ⟨rfl, h.2.symm, ending, rfl⟩)
      · rw [hheld, Bool.toNat_true]
        omega
    | close hlock hrest =>
      refine hm.advance_of_holds (Link.holds_close _) hrest hheld (fun n hn => ?_) fun _ => ?_
      · exact hlasts n (inTransaction_of_cons (not_beginsGuard (by simp)) hn)
      · omega

omit [Engine σ] in
/-- A thread sets out for a task that has nothing to do with the guards it has. -/
theorem Orderly.setOut_fresh (hm : m.Orderly) {task : Task} (number : Nat)
    (hrest : Disciplined 0 false task.routine) :
    (m.setOut t number (m.workers t).guards task).Orderly :=
  hm.setOut (hm.guards_held t) hrest rfl fun _ hmember => .inl hmember

/-- A thread sets out to end one of its guards. -/
theorem Orderly.finish (hm : m.Orderly) (t : Nat) (ending : Ending) (place : Nat) :
    (m.step (.finish t ending place)).Orderly := by
  simp only [Workers.step]
  cases hfound : (m.workers t).guards[place]? with
  | none => exact hm
  | some entry =>
    obtain ⟨number, g⟩ := entry
    obtain ⟨hplace, hentry⟩ := List.getElem?_eq_some_iff.mp hfound
    obtain rfl : g = ⟨true⟩ := hm.guards_held t _ (List.mem_of_getElem? hfound)
    have hperm := List.getElem_cons_eraseIdx_perm hplace
    rw [hentry] at hperm
    refine hm.setOut ?_ (Task.disciplined_finish ending) ?_ fun n hmember => ?_
    · exact fun g hmember => hm.guards_held t g (List.mem_of_mem_eraseIdx hmember)
    · exact hperm.length_eq.symm
    · rw [← (hperm.map Prod.fst).mem_iff, List.map_cons, List.mem_cons] at hmember
      rcases hmember with rfl | hmember
      · exact .inr ⟨rfl, rfl⟩
      · exact .inl hmember

/-- What every pick preserves. -/
theorem Orderly.step (hm : m.Orderly) (pick : Pick) : (m.step pick).Orderly := by
  cases pick with
  | call t service method payload =>
    exact hm.setOut_fresh m.next (Task.disciplined_call service method payload)
  | begin t => exact hm.setOut_fresh m.next Task.disciplined_begin
  | finish t ending place => exact hm.finish t ending place
  | close t => exact hm.setOut_fresh m.next Task.disciplined_close
  | go t => exact hm.go t

/-- What every run preserves. -/
theorem Orderly.run (hm : m.Orderly) (picks : List Pick) : (m.run picks).Orderly := by
  induction picks generalizing m with
  | nil => exact hm
  | cons pick rest ih => exact ih (hm.step pick)

/-! ## Threads that are not disturbed -/

/-- Other threads do not touch the task of a thread. -/
theorem workers_step {pick : Pick} (hother : pick.thread ≠ t) :
    (m.step pick).workers t = m.workers t := by
  have hne : t ≠ pick.thread := Ne.symm hother
  have hsetOut (number : Nat) (guards : List (Nat × Guard)) (task : Task) :
      (m.setOut pick.thread number guards task).workers t = m.workers t := by
    unfold setOut
    split
    · rfl
    · exact Function.update_of_ne hne _ _
  cases pick with
  | call t' service method payload => exact hsetOut ..
  | begin t' => exact hsetOut ..
  | finish t' ending place =>
    simp only [step]
    split
    · rfl
    · exact hsetOut ..
  | close t' => exact hsetOut ..
  | go t' =>
    simp only [step, go]
    split
    · rfl
    · exact Function.update_of_ne hne _ _
    · split
      · exact Function.update_of_ne hne _ _
      · rfl
    · exact Function.update_of_ne hne _ _
    · exact Function.update_of_ne hne _ _
    · exact Function.update_of_ne hne _ _

theorem workers_run {picks : List Pick} (hothers : ∀ pick ∈ picks, pick.thread ≠ t) :
    (m.run picks).workers t = m.workers t := by
  induction picks generalizing m with
  | nil => rfl
  | cons pick rest ih =>
    rw [List.forall_mem_cons] at hothers
    exact (ih hothers.2).trans (workers_step hothers.1)

/-- A thread that is not interrupted gets done with its task, and this is the link then. -/
def GetsDone (m : Workers σ) (t : Nat) (link : Link σ) : Prop :=
  ∃ steps, let m' := m.run (List.replicate steps (.go t))
    m'.link = link ∧ (m'.workers t).current = none

/-- One deed more, before the others. -/
theorem GetsDone.of_go {link : Link σ} (hdone : (m.go t).GetsDone t link) : m.GetsDone t link := by
  obtain ⟨steps, hsteps⟩ := hdone
  exact ⟨steps + 1, hsteps⟩

/-- A thread that can have the lock and is not interrupted does what its routine does. -/
theorem getsDone_of_current {rest : Routine (Option Guard)} {number : Nat}
    (hcurrent : (m.workers t).current = some (number, rest))
    (hfree : m.link.handle.holds = 0 ∨ m.owner = t) : m.GetsDone t (rest.exec m.link).link := by
  induction rest generalizing m with
  | done value =>
    refine .of_go ⟨0, ?_⟩
    simp [run, go, hcurrent, Routine.exec]
  | acquire rest ih =>
    have hgo : m.go t = m.advance t number .acquire true rest m.link.acquire t := by
      simp only [go, hcurrent, isFree, hfree, decide_true, if_true]
    refine .of_go (hgo ▸ ih ?_ (.inr rfl))
    simp [advance]
  | release rest ih =>
    have hgo : m.go t = m.advance t number .release true rest m.link.release m.owner := by
      simp only [go, hcurrent]
    refine .of_go (hgo ▸ ih ?_ (hfree.imp_left fun hzero => ?_))
    · simp [advance]
    · simp [advance, hzero]
  | invoke purpose service method payload rest ih =>
    let answered := Link.invoke service method payload m.link
    have hgo : m.go t = m.advance t number (.invoke purpose service method payload)
        answered.1.isOk (rest answered.1) answered.2 m.owner := by
      simp only [go, hcurrent, answered]
    refine .of_go (hgo ▸ ih answered.1 ?_ (hfree.imp_left fun hzero => ?_))
    · simp [advance]
    · exact (Link.holds_invoke ..).trans hzero
  | close rest ih =>
    have hgo : m.go t = m.advance t number .close true rest m.link.close m.owner := by
      simp only [go, hcurrent]
    refine .of_go (hgo ▸ ih ?_ (hfree.imp_left fun hzero => ?_))
    · simp [advance]
    · exact (Link.holds_close _).trans hzero

/-- What becomes of the link by a pick of a thread without a task, as the calls of the link have
it. -/
def linkAfter (m : Workers σ) : Pick → Link σ
  | .call _ service method payload => (Link.invoke service method payload m.link).2
  | .begin _ => (Link.beginTransaction m.link).2
  | .finish t ending place =>
    if place < (m.workers t).guards.length then (Link.finishTransaction ending.kind m.link).2
    else m.link
  | .close _ => m.link.close
  | .go _ => m.link

/-- A task comes to what its routine comes to. -/
theorem getsDone_setOut (number : Nat) (guards : List (Nat × Guard)) {task : Task} {link : Link σ}
    (hidle : (m.workers t).current = none) (hfree : m.link.handle.holds = 0 ∨ m.owner = t)
    (hexec : (task.routine.exec m.link).link = link) :
    (m.setOut t number guards task).GetsDone t link := by
  have hsetOut : m.setOut t number guards task =
      { m with
        workers := Function.update m.workers t ⟨guards, some (number, task.routine)⟩
        next := m.next + 1 } := by
    simp [setOut, hidle]
  have hcurrent : (Function.update m.workers t ⟨guards, some (number, task.routine)⟩ t).current =
      some (number, task.routine) := by
    rw [Function.update_self]
  rw [hsetOut, ← hexec]
  exact getsDone_of_current hcurrent hfree

/-- A thread that can have the lock and is not interrupted does to the link what the call of the
link does. -/
theorem Orderly.undisturbed (hm : m.Orderly) (pick : Pick)
    (hidle : (m.workers pick.thread).current = none)
    (hfree : m.link.handle.holds = 0 ∨ m.owner = pick.thread) :
    (m.step pick).GetsDone pick.thread (m.linkAfter pick) := by
  cases pick with
  | call t service method payload =>
    refine getsDone_setOut _ _ hidle hfree ?_
    simp only [Task.routine, Routine.exec_bind, Routine.exec_call, Routine.exec_pure, linkAfter]
  | begin t =>
    refine getsDone_setOut _ _ hidle hfree ?_
    simp only [Task.routine, Routine.exec_bind, Guard.exec_begin, Routine.exec_pure, linkAfter]
  | finish t ending place =>
    simp only [Workers.step, linkAfter]
    by_cases hplace : place < (m.workers t).guards.length
    · have hheld := hm.guards_held t _ (List.getElem_mem hplace)
      simp only [List.getElem?_eq_getElem hplace, if_pos hplace]
      refine getsDone_setOut _ _ hidle hfree ?_
      simp only [hheld, Task.routine, Routine.exec_bind, Ending.exec_routine, Routine.exec_pure]
    · simp only [List.getElem?_eq_none (Nat.le_of_not_lt hplace), if_neg hplace]
      exact ⟨0, rfl, hidle⟩
  | close t =>
    refine getsDone_setOut _ _ hidle hfree ?_
    simp only [Task.routine, Routine.exec_bind, Routine.exec_closeHandle, Routine.exec_pure,
      linkAfter]
  | go t =>
    have hidle : (m.workers t).current = none := hidle
    have hgo : m.step (.go t) = m := by
      simp only [Workers.step, Workers.go, hidle]
    rw [hgo]
    exact ⟨0, rfl, hidle⟩

theorem routine_of_exempt {service method : UInt32} (payload : Bytes)
    (hexempt : Method.idsExempt service method = true) :
    (Task.call service method payload).routine =
      .invoke .plain service method payload fun _ => .done none := by
  simp only [Task.routine, Routine.call, if_pos hexempt]
  rfl

/-- A thread that does not own the lock waits with a call exactly if the handle says so. -/
theorem waits_iff_mustWait {service method : UInt32} (payload : Bytes)
    (hidle : (m.workers t).current = none) (howner : m.owner ≠ t) :
    ((m.step (.call t service method payload)).go t).log = m.log ↔
      m.link.handle.mustWait service method = true := by
  have hstep : m.step (.call t service method payload) =
      { m with
        workers := Function.update m.workers t
          ⟨(m.workers t).guards, some (m.next, (Task.call service method payload).routine)⟩
        next := m.next + 1 } := by
    simp [step, setOut, hidle]
  rw [hstep]
  by_cases hexempt : Method.idsExempt service method = true
  · have hroutine := routine_of_exempt payload hexempt
    simp [go, hroutine, advance, Handle.mustWait, hexempt]
  · have hroutine : ∃ rest, (Task.call service method payload).routine = .acquire rest :=
      ⟨_, by simp only [Task.routine, Routine.call, if_neg hexempt]; rfl⟩
    obtain ⟨rest, hroutine⟩ := hroutine
    by_cases hzero : m.link.handle.holds = 0
    · simp [go, hroutine, isFree, advance, Handle.mustWait, hzero]
    · have hpos : 0 < m.link.handle.holds := Nat.pos_of_ne_zero hzero
      simp [go, hroutine, isFree, Handle.mustWait, hexempt, hzero, hpos, howner]

/-- A thread that sets out for an exempt call calls the engine with its next deed, whatever the
other threads do until then. -/
theorem go_of_exempt {service method : UInt32} (payload : Bytes) {others : List Pick}
    (hidle : (m.workers t).current = none) (hexempt : Method.idsExempt service method = true)
    (hothers : ∀ pick ∈ others, pick.thread ≠ t) :
    let m' := (m.step (.call t service method payload)).run others
    ∃ succeeded,
      (m'.go t).log = ⟨t, m.next, .invoke .plain service method payload, succeeded⟩ :: m'.log := by
  intro m'
  have hworker : (m'.workers t).current =
      some (m.next, (Task.call service method payload).routine) := by
    rw [workers_run hothers]
    simp [step, setOut, hidle]
  have hroutine := routine_of_exempt payload hexempt
  refine ⟨(Link.invoke service method payload m'.link).1.isOk, ?_⟩
  simp only [go, hworker, hroutine, advance]

/-- What can be said of the threads between two deeds. -/
structure Serial (m : Workers σ) : Prop where
  /-- From the beginning of a guard's transaction until the guard asks for its end, every call of
  the engine with a method that is not exempt and every closing of the handle is a deed of the
  guard's thread. -/
  same_thread : ∀ later h between b earlier, m.log = later ++ h :: (between ++ b :: earlier) →
    b.BeginsGuard →
    (∀ e ∈ between, ¬ (e.thread = b.thread ∧ e.number = b.number ∧ e.EndsGuard)) →
    h.NeedsLock → h.thread = b.thread
  /-- An exempt call never waits: whatever the other threads do, its next deed is to call the
  engine. -/
  exempt : ∀ t service method payload others, (m.workers t).current = none →
    Method.idsExempt service method = true → (∀ pick ∈ others, pick.thread ≠ t) →
    let m' := (m.step (.call t service method payload)).run others
    ∃ succeeded,
      (m'.go t).log = ⟨t, m.next, .invoke .plain service method payload, succeeded⟩ :: m'.log
  /-- Another call waits exactly if the handle says so. -/
  waits_iff : ∀ t service method payload, (m.workers t).current = none → m.owner ≠ t →
    (((m.step (.call t service method payload)).go t).log = m.log ↔
      m.link.handle.mustWait service method = true)
  /-- A thread that can have the lock and is not interrupted does to the link what the call of the
  link does. -/
  undisturbed : ∀ pick, (m.workers pick.thread).current = none →
    (m.link.handle.holds = 0 ∨ m.owner = pick.thread) →
    (m.step pick).GetsDone pick.thread (m.linkAfter pick)

end Workers

/-- Transactions are serial.  However the deeds of the threads on a handle are interleaved, and
whatever the engine replies: from the beginning of a guard's transaction until the guard asks for
its end, every call of the engine with a method that is not exempt and every closing of the handle
is a deed of the guard's thread.  An exempt call never waits, any other one waits for a thread that
holds the lock, and a thread that is left alone does what the calls of the link do. -/
theorem transactions_are_serial {σ : Type} [Engine σ] {link : Link σ}
    (hfree : link.handle.holds = 0) (picks : List Pick) :
    ((Workers.start link).run picks).Serial := by
  have hm := (Workers.orderly_start hfree).run picks
  constructor
  · intro later h between b earlier hlog hbegins hlasts hneeds
    have hin := inTransaction_of_begun hbegins earlier hlasts
    exact hm.serial later h (between ++ b :: earlier) hlog hneeds b.thread b.number hin
  · intro t service method payload others hidle hexempt hothers
    exact Workers.go_of_exempt payload hidle hexempt hothers
  · intro t service method payload hidle howner
    exact Workers.waits_iff_mustWait payload hidle howner
  · exact hm.undisturbed

/-- A thread is in a transaction and calls the engine, while a second one waits to do so. -/
def contended : Workers Stubborn :=
  (Workers.start stubborn).run
    [.begin 1, .go 1, .go 1, .go 1, .call 2 2 0 [], .go 2, .go 1, .go 1, .call 1 2 0 [], .go 1,
      .go 1]

/-- The call in the transaction is that of the first thread, and a third one that is exempt goes
ahead while the second tries again. -/
theorem second_thread_waits :
    let call : Happening := ⟨1, 2, .invoke .plain 2 0 [], false⟩
    let begun : Happening := ⟨1, 0, Routine.controlDeed .begins .begin, true⟩
    let took : Happening := ⟨1, 0, .acquire, true⟩
    stubborn.handle.holds = 0 ∧
      contended.log = [call, ⟨1, 2, .acquire, true⟩, ⟨1, 0, .release, true⟩, begun, took, took] ∧
      call.NeedsLock ∧ begun.BeginsGuard ∧ call.thread = begun.thread ∧
      let m' := (contended.step (.call 3 0 1 [])).run [.go 2]
      ∃ succeeded,
        (m'.go 3).log = ⟨3, contended.next, .invoke .plain 0 1 [], succeeded⟩ :: m'.log := by
  intro call begun took
  have hlog : contended.log =
      [call, ⟨1, 2, .acquire, true⟩, ⟨1, 0, .release, true⟩, begun, took, took] := by
    decide +kernel
  have hneeds : call.NeedsLock := by
    show Method.idsExempt 2 0 = false
    decide
  have hfree : stubborn.handle.holds = 0 := rfl
  have hcontended : contended.Serial := transactions_are_serial hfree _
  refine ⟨hfree, hlog, hneeds, ⟨rfl, rfl⟩, ?_, ?_⟩
  · refine hcontended.same_thread [] call [⟨1, 2, .acquire, true⟩, ⟨1, 0, .release, true⟩] begun
      [took, took] hlog ⟨rfl, rfl⟩ ?_ hneeds
    simp [Happening.EndsGuard, Routine.controlDeed]
  · exact hcontended.exempt 3 0 1 [] [.go 2] rfl (by decide) (by simp [Pick.thread])

end EngineLink
