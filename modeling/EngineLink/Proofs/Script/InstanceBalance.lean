import EngineLink.Proofs.Script.TidySteps

/-!
# Programs that leave an engine in order

A script that reaches the engine through its clients only leaves a tidy world tidy, blocks inside
blocks included.  After the last step all objects go, and with them all instances.  The same
induction explains every attempt to open an instance: if the setup failed, it says so.

Main results:

- Theorem {lit}`Script.addClient_keeps`: an instance is opened, or an attempt fails.
- Theorem {lit}`Script.runTransaction_keeps`: a block whose body leaves the world tidy.
- Theorem {lit}`Script.runStep_keeps` and {lit}`Script.runBlock_keeps`: every step, and the steps
  of a block.
- Theorem {lit}`engine_left_in_order`: what a whole script leaves in the record of any engine.
-/

namespace EngineLink
namespace Script

open World (Tidy)

/-! ## Attempts to open an instance -/

namespace Answer

/-- The answers inside an answer. -/
def inner : Answer → List Answer
  | .mk _ _ _ inner _ => inner.getD []

end Answer

mutual

/-- What the attempts of a step to open an instance came to, by its answer: those with settings that
are not valid are none. -/
def Step.attempts : Step → Answer → List (Except Error Result)
  | .openClient _ _, answer => [answer.result]
  | .openWith _ settings, answer => if settings.validate.isOk then [answer.result] else []
  | .block _ steps, answer => attemptsAll steps answer.inner
  | .catching step, answer => step.attempts answer
  | .joining step, answer => step.attempts answer
  | _, _ => []

/-- What the attempts of some steps came to, by their answers. -/
def attemptsAll : List Step → List Answer → List (Except Error Result)
  | step :: steps, answer :: answers => step.attempts answer ++ attemptsAll steps answers
  | _, _ => []

end

/-- The errands that were waited for are no attempts. -/
theorem attempts_join (joined : List (Except Error (Option Bytes))) (later : List Event)
    (answer : Answer) :
    (step : Step) → step.attempts (answer.join joined later) = step.attempts answer
  | .openClient _ _ => by cases answer; rfl
  | .openWith _ _ => by cases answer; rfl
  | .block _ _ => by cases answer; rfl
  | .catching step => attempts_join joined later answer step
  | .joining step => attempts_join joined later answer step
  | .ensureSetUp => rfl
  | .instanceCount => rfl
  | .engineOpen _ => rfl
  | .engineRun _ _ _ _ => rfl
  | .engineClose _ => rfl
  | .writeFile _ _ => rfl
  | .client _ _ => rfl
  | .guard _ _ => rfl
  | .session _ _ => rfl
  | .cursor _ _ => rfl
  | .database _ _ => rfl
  | .statement _ _ _ => rfl
  | .raise => rfl

theorem attemptsAll_nil (steps : List Step) : attemptsAll steps [] = [] := by
  cases steps <;> rfl

mutual

/-- A step that reaches the engine through its clients, and not directly. -/
def Step.isIndirect : Step → Bool
  | .engineOpen _ => false
  | .engineRun _ _ _ _ => false
  | .engineClose _ => false
  | .block _ steps => allIndirect steps
  | .catching step => step.isIndirect
  | .joining step => step.isIndirect
  | _ => true

/-- Steps that reach the engine through its clients. -/
def allIndirect : List Step → Bool
  | [] => true
  | step :: steps => step.isIndirect && allIndirect steps

end

section Opening

variable {σ : Type}

/-- An attempt is still explained after computations that leave a tidy world tidy. -/
theorem KeepsTidy.explains {α β : Type} {act : ScriptM (Recorded σ) α} (hact : KeepsTidy act)
    {known : Option (Except String Unit)} {w : World (Recorded σ)} (htidy : Tidy known none w)
    {result : Except Error β} (hexplains : w.boot.Explains result) :
    (act w).2.boot.Explains result := by
  obtain ⟨outcome, houtcome, hfails⟩ := hexplains
  exact ⟨outcome, (hact _ w htidy.knowing).settled outcome houtcome, hfails⟩

variable [Hosted σ]

/-- What a way to open an instance leaves behind. -/
structure Opens (opening : Bootstrap (Journaled (Recorded σ)) →
    Except Error Handle × Bootstrap (Journaled (Recorded σ))) : Prop where
  opened : ∀ b raws, b.InOrder raws → Bootstrap.Opened raws (opening b)
  settled : ∀ b outcome, b.outcome = some outcome → (opening b).2.outcome = some outcome

theorem opens_openHandle (languages : List String) :
    Opens fun b : Bootstrap (Journaled (Recorded σ)) => b.openHandle languages where
  opened _ _ horder := horder.openHandle languages
  settled b outcome hknown := by
    rw [Bootstrap.outcome_openHandle, Bootstrap.outcome_ensureSetUp hknown]

theorem opens_openWith (settings : Settings) :
    Opens fun b : Bootstrap (Journaled (Recorded σ)) => b.openWith settings where
  opened _ _ horder := horder.openWith settings
  settled _ _ hknown := Bootstrap.outcome_openWith_of_known settings hknown

variable {opening : Bootstrap (Journaled (Recorded σ)) →
    Except Error Handle × Bootstrap (Journaled (Recorded σ))}

/-- A client is added for an instance that was opened; what came of the opening is answered. -/
theorem addClient_keeps (hopens : Opens opening) (name : String) (recentPages : Nat)
    {known : Option (Except String Unit)} {w : World (Recorded σ)} (htidy : Tidy known none w) :
    Tidy known none (addClient name recentPages opening w).2 ∧
      ((opening w.boot).2.Explains (opening w.boot).1 →
        (addClient name recentPages opening w).2.boot.Explains
          (addClient name recentPages opening w).1) := by
  have hopened := hopens.opened w.boot w.raws htidy.inOrder
  have hsettled := hopens.settled w.boot
  rcases hresult : opening w.boot with ⟨result, boot⟩
  rw [hresult] at hopened hsettled
  simp only [addClient, bind_apply_world, get_apply_world, hresult]
  cases result with
  | error fault =>
    refine ⟨htidy.withBoot hopened hsettled, ?_⟩
    rintro ⟨outcome, houtcome, hfails⟩
    refine ⟨outcome, houtcome, ?_⟩
    intro detail hfailed
    cases hfails detail hfailed
    rfl
  | ok handle =>
    obtain ⟨hraw, horder⟩ := hopened
    have hadded := htidy.addHandle hraw horder hsettled
    refine ⟨Shelf.lawful_clients.put hadded name, ?_⟩
    rintro ⟨outcome, houtcome, hfails⟩
    refine ⟨outcome, ?_, ?_⟩
    · exact (Shelf.lawful_clients.put hadded.knowing name).settled outcome houtcome
    · intro detail hfailed
      cases hfails detail hfailed

end Opening

/-! ## Steps -/

section Steps

variable {σ α β : Type}

/-- A step leaves a tidy world tidy, and explains its attempts to open an instance. -/
def KeepsStep (step : Step) (act : ScriptM (Recorded σ) Answer) : Prop :=
  ∀ known w, Tidy known none w →
    Tidy known none (act w).2 ∧ ∀ attempt ∈ step.attempts (act w).1, (act w).2.boot.Explains attempt

theorem KeepsTidy.step {act : ScriptM (Recorded σ) Answer} (hact : KeepsTidy act) {step : Step}
    (hnone : ∀ answer, step.attempts answer = []) : KeepsStep step act := by
  intro known w htidy
  refine ⟨hact known w htidy, ?_⟩
  rw [hnone]
  exact fun _ hmem => absurd hmem List.not_mem_nil

/-! ## Blocks -/

/-- A tidy world in which the attempts of a block are explained, as far as it was run. -/
def BlockTidy (known : Option (Except String Unit)) (steps : List Step) (log : BlockLog)
    (w : World (Recorded σ)) : Prop :=
  Tidy known none w ∧ ∀ attempt ∈ attemptsAll steps log.answers.reverse, w.boot.Explains attempt

/-- A computation inside a block that leaves it so. -/
def KeepsBlock (steps : List Step) (act : BlockM (Recorded σ) α) : Prop :=
  ∀ known log w, BlockTidy known steps log w →
    BlockTidy known steps (act log w).1.2 (act log w).2

variable {steps : List Step}

theorem keepsBlock_pure (a : α) : KeepsBlock steps (pure a : BlockM (Recorded σ) α) :=
  fun _ _ _ htidy => htidy

theorem KeepsBlock.bind {act : BlockM (Recorded σ) α} {next : α → BlockM (Recorded σ) β}
    (hact : KeepsBlock steps act) (hnext : ∀ a, KeepsBlock steps (next a)) :
    KeepsBlock steps (act >>= next) :=
  fun known log w htidy => hnext _ known _ _ (hact known log w htidy)

theorem KeepsTidy.inBlock {act : ScriptM (Recorded σ) α} (hact : KeepsTidy act) :
    KeepsBlock steps (inBlock act) := by
  intro known log w htidy
  refine ⟨hact known w htidy.1, ?_⟩
  intro attempt hmem
  exact hact.explains htidy.1 (htidy.2 attempt hmem)

/-- A block: its beginning, its body and its end. -/
theorem keepsBlock_within {begin mark finish : BlockM (Recorded σ) (Except Error Unit)}
    {body : BlockM (Recorded σ) (Except Error α)} (hbegin : KeepsBlock steps begin)
    (hmark : KeepsBlock steps mark) (hfinish : KeepsBlock steps finish)
    (hbody : KeepsBlock steps body) :
    KeepsBlock steps (Session.within begin mark finish body) := by
  refine hbegin.bind fun begun => ?_
  cases begun with
  | error fault => exact keepsBlock_pure _
  | ok value =>
    refine hbody.bind fun result => ?_
    cases result with
    | error fault => exact hfinish.bind fun _ => keepsBlock_pure _
    | ok value =>
      refine hmark.bind fun marked => ?_
      cases marked with
      | error fault => exact keepsBlock_pure _
      | ok value =>
        refine hfinish.bind fun finished => ?_
        cases finished with
        | error fault => exact keepsBlock_pure _
        | ok value => exact keepsBlock_pure _

/-- Steps are run one after the other, as far as they go: the world stays tidy, and their attempts
are explained. -/
def RunsTidily (steps : List Step) (act : BlockM (Recorded σ) α) : Prop :=
  ∀ known log w, Tidy known none w → Tidy known none (act log w).2 ∧
    ∃ answers, (act log w).1.2.answers = answers.reverse ++ log.answers ∧
      ∀ attempt ∈ attemptsAll steps answers, (act log w).2.boot.Explains attempt

theorem RunsTidily.keepsTidy {act : BlockM (Recorded σ) α} (hact : RunsTidily steps act)
    (log : BlockLog) : KeepsTidy (act log : ScriptM (Recorded σ) (α × BlockLog)) :=
  fun known w htidy => (hact known log w htidy).1

variable [Hosted σ]

/-- A block whose body is run so. -/
theorem runTransaction_keeps (name database : String)
    {body : BlockM (Recorded σ) (Except Error Unit)} (hbody : RunsTidily steps body) :
    KeepsStep (.block database steps) (runTransaction name body) := by
  have hrun : KeepsBlock steps (runBody body) := by
    intro known log w htidy
    have hstate : runBody body log w = body ⟨some (takeEvents w).1, []⟩ (takeEvents w).2 := rfl
    have htaken := keepsTidy_takeEvents known w htidy.1
    obtain ⟨hafter, answers, hanswers, hexplains⟩ :=
      hbody known ⟨some (takeEvents w).1, []⟩ _ htaken
    rw [hstate]
    refine ⟨hafter, ?_⟩
    rw [hanswers, List.append_nil, List.reverse_reverse]
    exact hexplains
  intro known w htidy
  -- nothing was answered before the block begins
  have hbefore : BlockTidy known steps ⟨none, []⟩ w := by
    refine ⟨htidy, ?_⟩
    rw [List.reverse_nil, attemptsAll_nil]
    exact fun _ hmem => absurd hmem List.not_mem_nil
  have hafter := keepsBlock_within (keepsTidy_onDatabase name asks_beginSession).inBlock
    (keepsTidy_onDatabase name asks_markSession).inBlock
    (keepsTidy_onDatabase name asks_finishSession).inBlock hrun known ⟨none, []⟩ w hbefore
  exact ⟨hafter.1.of_contacts rfl, hafter.2⟩

end Steps

/-! ## Scripts -/

section Scripts

variable {σ : Type}

theorem bind_apply_block {α β : Type} (act : BlockM σ α) (next : α → BlockM σ β) (log : BlockLog)
    (w : World σ) :
    (act >>= next) log w = next (act log w).1.1 (act log w).1.2 (act log w).2 :=
  rfl

theorem inBlock_apply {α : Type} (act : ScriptM σ α) (log : BlockLog) (w : World σ) :
    inBlock act log w = (((act w).1, log), (act w).2) :=
  rfl

theorem modify_apply_block (change : BlockLog → BlockLog) (log : BlockLog) (w : World σ) :
    (modify change : BlockM σ PUnit) log w = (((), change log), w) :=
  rfl

variable [Hosted σ]

/-- A block goes on after a step, or ends with its error. -/
theorem runBlock_cons {name : String} {step : Step} {answer : Answer}
    {w w' : World σ} (rest : List Step) (log : BlockLog)
    (hstep : runStep (some name) step w = (answer, w')) :
    runBlock name (step :: rest) log w =
        runBlock name rest { log with answers := answer :: log.answers } w' ∨
      ∃ fault, runBlock name (step :: rest) log w =
        ((.error fault, { log with answers := answer :: log.answers }), w') := by
  rw [runBlock]
  simp only [bind_apply_block, inBlock_apply, modify_apply_block, hstep]
  cases answer.result with
  | ok value => exact .inl rfl
  | error fault =>
    cases step with
    | catching inner => exact .inl rfl
    | _ => exact .inr ⟨fault, rfl⟩

mutual

/-- Every step leaves a tidy world tidy, and explains its attempts to open an instance. -/
theorem runStep_keeps (own : Option String) :
    (step : Step) → step.isIndirect = true →
      KeepsStep step (runStep own step : ScriptM (Recorded σ) Answer)
  | .ensureSetUp, _ => by
    apply KeepsTidy.step _ fun _ => rfl
    apply KeepsTidy.answered
    intro known w htidy
    exact htidy.withBoot htidy.inOrder.ensureSetUp fun _ => Bootstrap.outcome_ensureSetUp
  | .openClient client languages, _ => by
    intro known w htidy
    obtain ⟨hafter, hexplains⟩ := addClient_keeps (opens_openHandle languages) client 0 htidy
    refine ⟨hafter.of_contacts rfl, ?_⟩
    intro attempt hmem
    obtain rfl := List.mem_singleton.mp hmem
    exact hexplains (w.boot.explains_openHandle languages)
  | .openWith client settings, _ => by
    intro known w htidy
    obtain ⟨hafter, hexplains⟩ :=
      addClient_keeps (opens_openWith settings) client settings.recentPages.toNat htidy
    refine ⟨hafter.of_contacts rfl, ?_⟩
    intro attempt hmem
    cases hvalid : settings.validate with
    | error fault =>
      simp only [Step.attempts, hvalid, Except.isOk, Except.toBool, Bool.false_eq_true,
        if_false] at hmem
      cases hmem
    | ok value =>
      simp only [Step.attempts, hvalid, Except.isOk, Except.toBool, if_true] at hmem
      obtain rfl := List.mem_singleton.mp hmem
      exact hexplains (Bootstrap.explains_openWith hvalid w.boot)
  | .instanceCount, _ => by
    apply KeepsTidy.step _ fun _ => rfl
    exact KeepsTidy.answered fun _ _ htidy => htidy
  | .writeFile name content, _ => by
    apply KeepsTidy.step _ fun _ => rfl
    exact KeepsTidy.answered fun _ _ htidy => htidy.of_contacts rfl
  | .client name step, _ => by
    apply KeepsTidy.step _ fun _ => rfl
    apply KeepsTidy.answered
    apply keepsTidy_get_bind
    intro known w htidy
    cases Entries.find? name w.clients with
    | some held => exact runClient_keeps name held step known w htidy
    | none => exact htidy
  | .guard name step, _ => by
    apply KeepsTidy.step _ fun _ => rfl
    apply KeepsTidy.answered
    apply keepsTidy_get_bind
    intro known w htidy
    cases hfound : Entries.find? name w.guards with
    | some held => exact runGuard_keeps htidy hfound step
    | none => exact htidy
  | .session name step, _ => (runSession_keeps name step).answered.step fun _ => rfl
  | .cursor name step, _ => (runCursor_keeps name step).answered.step fun _ => rfl
  | .database name step, _ => by
    apply KeepsTidy.step _ fun _ => rfl
    apply KeepsTidy.answered
    apply keepsTidy_get_bind
    intro known w htidy
    cases Entries.find? (own.getD name) w.databases with
    | some held => exact runDatabase_keeps (own.getD name) held step known w htidy
    | none => exact htidy
  | .statement database sql steps, _ => by
    apply KeepsTidy.step _ fun _ => rfl
    apply keepsTidy_get_bind
    intro known w htidy
    cases Entries.find? (own.getD database) w.databases with
    | some held =>
      exact ((runStatement_keeps held (Statement.create sql) steps).bind fun answers =>
        keepsTidy_takeEvents.answering _) known w htidy
    | none => exact htidy
  | .block database steps, hindirect =>
    runTransaction_keeps _ database (runBlock_keeps _ steps hindirect)
  | .raise, _ => by
    apply KeepsTidy.step _ fun _ => rfl
    exact KeepsTidy.answered (keepsTidy_pure _)
  | .catching step, hindirect => runStep_keeps own step hindirect
  | .joining step, hindirect => by
    intro known w htidy
    obtain ⟨hafter, hexplains⟩ := runStep_keeps own step hindirect known w htidy
    have hwait : KeepsTidy (runWaiting >>= fun joined : List (Except Error (Option Bytes)) =>
        takeEvents >>= fun events => pure (joined, events) : ScriptM (Recorded σ) _) :=
      runWaiting_keeps.bind fun _ => keepsTidy_takeEvents.answering _
    refine ⟨hwait known _ hafter, ?_⟩
    intro attempt hmem
    apply hwait.explains hafter
    apply hexplains
    rw [← attempts_join _ _ _ step]
    exact hmem

/-- The steps of a block do, one after the other. -/
theorem runBlock_keeps (name : String) :
    (steps : List Step) → allIndirect steps = true →
      RunsTidily steps (runBlock name steps : BlockM (Recorded σ) (Except Error Unit))
  | [], _ => by
    intro known log w htidy
    exact ⟨htidy, [], rfl, fun _ hmem => absurd hmem List.not_mem_nil⟩
  | step :: rest, hindirect => by
    obtain ⟨hfirst, hrest⟩ := Bool.and_eq_true_iff.mp hindirect
    intro known log w htidy
    obtain ⟨hafter, hexplains⟩ := runStep_keeps (some name) step hfirst known w htidy
    generalize hanswer : runStep (some name) step w = outcome at hafter hexplains
    obtain ⟨answer, w'⟩ := outcome
    rcases runBlock_cons rest log hanswer with hgoesOn | ⟨fault, hends⟩
    · have hlater := runBlock_keeps name rest hrest
      obtain ⟨hend, answers, hanswers, hothers⟩ :=
        hlater known { log with answers := answer :: log.answers } w' hafter
      rw [hgoesOn]
      refine ⟨hend, answer :: answers, ?_, ?_⟩
      · rw [hanswers, List.reverse_cons, List.append_assoc]
        rfl
      · intro attempt hmem
        rcases List.mem_append.mp hmem with hmem | hmem
        · exact (hlater.keepsTidy _).explains hafter (hexplains attempt hmem)
        · exact hothers attempt hmem
    · rw [hends]
      refine ⟨hafter, [answer], rfl, ?_⟩
      intro attempt hmem
      rw [attemptsAll, attemptsAll_nil, List.append_nil] at hmem
      exact hexplains attempt hmem

end

/-- Steps outside of blocks are run one after the other. -/
theorem runSteps_keeps (steps : List Step) (hindirect : allIndirect steps = true)
    {known : Option (Except String Unit)} {w : World (Recorded σ)} (htidy : Tidy known none w) :
    Tidy known none (steps.mapM (runStep none) w).2 ∧
      ∀ attempt ∈ attemptsAll steps (steps.mapM (runStep none) w).1,
        (steps.mapM (runStep none) w).2.boot.Explains attempt := by
  induction steps generalizing known w with
  | nil => exact ⟨htidy, fun _ hmem => absurd hmem List.not_mem_nil⟩
  | cons step rest ih =>
    obtain ⟨hfirst, hrest⟩ := Bool.and_eq_true_iff.mp hindirect
    obtain ⟨hafter, hexplains⟩ := runStep_keeps none step hfirst known w htidy
    rw [mapM_cons_apply]
    refine ⟨(ih hrest hafter).1, ?_⟩
    intro attempt hmem
    rcases List.mem_append.mp hmem with hmem | hmem
    · have hlater : KeepsTidy (rest.mapM (runStep none) : ScriptM (Recorded σ) (List Answer)) :=
        fun _ _ htidy => (ih hrest htidy).1
      exact hlater.explains hafter (hexplains attempt hmem)
    · exact (ih hrest hafter).2 attempt hmem

omit [Hosted σ] in
/-- Nothing has reached the engine before the first step. -/
theorem tidy_start (engine : σ) : Tidy none none (World.start (Recorded.start engine)) where
  inOrder := ⟨[], rfl, List.Perm.refl _⟩
  settled := fun _ hknown => absurd hknown (Option.some_ne_none _).symm
  owned := fun _ hraw => absurd rfl hraw
  named := ⟨.nil, .nil, .nil, .nil, .nil⟩

end Scripts

/-! ## Whole scripts -/

/-- The answers of a script and the world after its last step. -/
def played {σ : Type} [Hosted σ] (engine : σ) (steps : List Step) : List Answer × World σ :=
  (steps.mapM (runStep none)).run (World.start engine)

/-- Everything that reaches an engine while a script is run and all objects go. -/
def recordOf {σ : Type} [Hosted σ] (engine : σ) (steps : List Step) : List Contact :=
  (played (Recorded.start engine) steps).2.dropAll.boot.engine.engine.contacts

/-- What comes of a script: its answers, and the events of letting all objects go. -/
theorem run_eq_played {σ : Type} [Hosted σ] (engine : σ) (steps : List Step) :
    run engine steps = ((played engine steps).1, (played engine steps).2.dropAll.takeEvents.1) :=
  rfl

end Script

/-- A script leaves its engine in order.  Whatever the engine answers, and whatever clients,
cursors, guards, sessions and databases the script opens, copies, closes and lets go, also inside
blocks: the engine is set up once at most, before any instance is opened; every instance that was
opened is closed once, also if its page size is refused; and no handle is used before its instance
is opened or after it is closed.  If the setup fails, no instance is opened, and every attempt
with settings that are valid says so.  The script reaches the engine through its clients, and no
errand waits at its end. -/
theorem engine_left_in_order {σ : Type} [Hosted σ] (engine : σ) (steps : List Script.Step)
    (hindirect : Script.allIndirect steps = true)
    (hjoined : (Script.played (Recorded.start engine) steps).2.waiting = []) :
    WellUsed (Script.recordOf engine steps) ∧
      ∀ detail, .setUp (.error detail) ∈ Script.recordOf engine steps →
        ∀ attempt ∈ Script.attemptsAll steps (Script.run (Recorded.start engine) steps).1,
          attempt = .error (.setup detail) := by
  have hsteps := Script.runSteps_keeps steps hindirect (Script.tidy_start engine)
  have htidy : (Script.played (Recorded.start engine) steps).2.Tidy none none := hsteps.1
  have hrecord : Usage.start.after (Script.recordOf engine steps) =
      some ⟨(Script.played (Recorded.start engine) steps).2.dropAll.boot.outcome, []⟩ :=
    htidy.live_dropAll hjoined
  refine ⟨Usage.wellUsed hrecord rfl, ?_⟩
  intro detail hfailed attempt hmem
  rw [Script.run_eq_played] at hmem
  obtain ⟨outcome, houtcome, hfails⟩ := hsteps.2 attempt hmem
  apply hfails
  -- what came of the setup is known to the end, and it is all that the record says about setups
  have hknown := htidy.knowing.dropAll.settled outcome houtcome
  have hsaid : .error detail ∈ (Script.recordOf engine steps).filterMap Contact.outcome? :=
    List.mem_filterMap.mpr ⟨_, hfailed, rfl⟩
  rw [Usage.outcomes_eq hrecord, hknown] at hsaid
  exact (List.mem_singleton.mp hsaid).symm

/-- An engine that gives the handles 5, 9 and 11.  It has nothing to say to the first method,
answers the second one with no bytes and the third one with a page, and has nothing to say after
that. -/
def terse : Scripted :=
  ⟨none, [integerReply 5, integerReply 9, integerReply 11],
    [none, some (.success []),
      (encode (Page.mk 1 0 1 [[.integer 3]])).toOption.map Reply.success], []⟩
where
  /-- The reply of success with a number. -/
  integerReply (value : Int64) : Option Reply :=
    (encode (Message.IntegerValue.mk value)).toOption.map Reply.success

/-- A page size is refused; a guard outlives its handle; and a cursor is left to the end. -/
def busySteps : List Script.Step :=
  [.openWith "a" ⟨["en"], some 100, 0⟩, .openClient "b" ["en"], .client "b" (.copy "c" none),
    .client "b" (.begin "g"), .client "b" .drop, .client "c" .close, .openClient "d" ["en"],
    .client "d" (.newCursor "rows" "values (3)" [])]

/-- Three instances are opened and closed.  The handle of the first one is used for the page size;
that of the second one to begin a transaction, but not to roll it back after it was closed; and
that of the third one for the rows, and to give them back.  If the setup fails, nothing of it
happens. -/
theorem three_instances_are_closed :
    let record := Script.recordOf terse busySteps
    let failing := { terse with setUpError := some "no disk" }
    (record.filterMap Contact.given? = [5, 9, 11] ∧ record.filterMap Contact.closed? = [5, 9, 11] ∧
      record.filterMap Contact.used? = [5, 5, 9, 9, 11, 11, 11] ∧ WellUsed record) ∧
    (Script.attemptsAll busySteps (Script.run (Recorded.start failing) busySteps).1).length = 3 ∧
      ∀ attempt ∈ Script.attemptsAll busySteps (Script.run (Recorded.start failing) busySteps).1,
        attempt = .error (.setup "no disk") := by
  have hjoined : (Script.played (Recorded.start terse) busySteps).2.waiting = [] :=
    List.isEmpty_iff.mp (by decide +kernel)
  have hfailing : (Script.played (Recorded.start { terse with setUpError := some "no disk" })
      busySteps).2.waiting = [] := List.isEmpty_iff.mp (by decide +kernel)
  refine ⟨⟨by decide +kernel, by decide +kernel, by decide +kernel, ?_⟩, by decide +kernel, ?_⟩
  · exact (engine_left_in_order terse busySteps rfl hjoined).1
  · apply (engine_left_in_order _ busySteps rfl hfailing).2
    have hsaid : (Script.recordOf { terse with setUpError := some "no disk" } busySteps).filterMap
        Contact.failure? = ["no disk"] := by decide +kernel
    have hmem := hsaid ▸ List.mem_singleton_self "no disk"
    obtain ⟨c, hmem, hfailed⟩ := List.mem_filterMap.mp hmem
    exact Contact.eq_setUp hfailed ▸ hmem

end EngineLink
