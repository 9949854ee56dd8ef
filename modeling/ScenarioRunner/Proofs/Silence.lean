import ScenarioRunner.Proofs.Likeness
import ScenarioRunner.Proofs.Loading
import ScenarioRunner.Proofs.Numbering
import ScenarioRunner.Proofs.Pacing

/-!
What is printed by a run that is to be quiet: nothing but the details of a verbose run, which are the
counts of located elements and the interactions that are done.
-/

namespace ScenarioRunner

variable {σ α β ε : Type} {host : Host σ}

/-- A step that keeps what it finds. -/
def Step.locates : Step → Bool
  | .locate _ _ _ => true
  | _ => false

/-- The steps before the one that failed, or all of them. -/
def passedSteps (list : List Step) : Option Nat → List Step
  | none => list
  | some number => list.take (number - 1)

/-- What prints nothing when deeds are told does nothing. -/
theorem Program.TellsDeeds.not_hasDeed {program : Program α}
    (silent : program.TellsDeeds host false) (tells : program.TellsDeeds host true)
    (world : World σ) : ¬ HasDeed (program.log host world) := by
  have told := (tells world).mp (silent.prints_eq_nil world)
  exact fun deed => told ⟨rfl, deed⟩

/-- A part of a run that has something to tell: a passed step that locates, or a deed. -/
def HasDetail (passed : List Step) (journal : List JournalEntry) : Prop :=
  (∃ step ∈ passed, step.locates = true) ∨ HasDeed journal

namespace Attempt

/-- A silent attempt that is followed by a line prints the line once it passes. -/
theorem prints_line (verbose : Bool) {attempt : Attempt ε α} {line : α → Text.Styled}
    (value : α → β) (silent : TellsDeeds host false attempt) (world : World σ) :
    let whole : Attempt ε β := do
      let found ← attempt
      Program.printIf verbose (line found)
      return value found
    whole.run.prints host world =
      match (attempt.run.run host world).1 with
      | .ok found => if verbose then line found else []
      | .error _ => [] := by
  intro whole
  simp only [whole]
  rw [ExceptT.run_bind, Program.prints_bind, silent.prints_eq_nil, List.nil_append]
  generalize attempt.run.run host world = ended
  obtain ⟨result, middle⟩ := ended
  cases result with
  | error fault => rfl
  | ok found =>
      dsimp only
      rw [Program.run_lift_bind, Program.prints_bind, Program.prints_printIf]
      exact List.append_nil _

/-- When a silent attempt is followed by a line, the line is printed when the attempt passes. -/
theorem prints_then_line (verbose : Bool) {attempt : Attempt ε α} {line : α → Text.Styled}
    (value : α → β) (silent : TellsDeeds host false attempt)
    (tells : TellsDeeds host true attempt) (nonempty : ∀ found, line found ≠ [])
    (world : World σ) :
    let whole : Attempt ε β := do
      let found ← attempt
      Program.printIf verbose (line found)
      return value found
    (whole.run.prints host world = [] ↔
      ¬ (verbose = true ∧ ∃ result, (whole.run.run host world).1 = .ok result)) ∧
    ¬ HasDeed (whole.run.log host world) := by
  intro whole
  have still := Program.TellsDeeds.not_hasDeed silent tells world
  simp only [whole]
  rw [prints_line verbose value silent, ExceptT.run_bind, Program.log_bind, Program.run_bind,
    hasDeed_append, or_iff_right still]
  generalize attempt.run.run host world = ended
  obtain ⟨result, middle⟩ := ended
  cases result with
  | error fault => simp [not_hasDeed_nil]
  | ok found =>
      dsimp only
      rw [Program.run_lift_bind, Program.log_bind, Program.run_bind, Program.log_printIf]
      cases verbose <;> simp [nonempty, ExceptT.run_pure, not_hasDeed_nil]

theorem detail_ne_nil (count : Nat) :
    [Text.plain s!"    {count} element(s) matched\n"] ≠ [] := nofun

/-- A step that locates resolves its chain, tells how many elements it has found, and keeps the
chain. -/
theorem perform_locate {options : RunOptions} {stored : StoredChains} {target chain : Chain}
    (expanded : stored.expand target = .ok chain) (storeAs : Option String)
    (timeout : Option UInt64) :
    perform options stored (.locate target storeAs timeout) = (do
      let elements ← resolve options.pollInterval (options.window timeout) chain
      Program.printIf options.verbose [Text.plain s!"    {elements.length} element(s) matched\n"]
      return stored.after (.locate target storeAs timeout)) := by
  simp only [perform, expanded]
  cases storeAs <;> simp only [StoredChains.after, expanded] <;> rfl

/-- A step tells of its deeds, and of the elements it has located once it passes. -/
theorem prints_perform (host : Host σ) (options : RunOptions) (stored : StoredChains)
    (step : Step) (world : World σ) :
    (perform options stored step).run.prints host world = [] ↔
      ¬ (options.verbose = true ∧
        ((step.locates = true ∧
          ∃ result, ((perform options stored step).run.run host world).1 = .ok result) ∨
        HasDeed ((perform options stored step).run.log host world))) := by
  have other (unlocated : step.locates = false)
      (tells : TellsDeeds host options.verbose (perform options stored step)) :
      (perform options stored step).run.prints host world = [] ↔
        ¬ (options.verbose = true ∧
          ((step.locates = true ∧
            ∃ result, ((perform options stored step).run.run host world).1 = .ok result) ∨
          HasDeed ((perform options stored step).run.log host world))) := by
    simpa [unlocated] using tells world
  cases step with
  | locate target storeAs timeout =>
      cases expanded : stored.expand target with
      | error fault =>
          have thrown :
              perform options stored (.locate target storeAs timeout) = throw (.failed fault) := by
            simp only [perform, expanded]
            rfl
          rw [thrown, ExceptT.run_throw]
          simp [not_hasDeed_nil]
      | ok chain =>
          obtain ⟨told, still⟩ := prints_then_line options.verbose
            (fun _ => stored.after (.locate target storeAs timeout))
            (tellsDeeds_resolve options.pollInterval (options.window timeout) chain)
            (tellsDeeds_resolve _ _ chain) (fun elements => detail_ne_nil elements.length) world
          rw [perform_locate expanded, told, or_iff_left still]
          simp [Step.locates]
  | navigate url =>
      exact other rfl ((tellsDeeds_request fun _ => rfl).failing.bind fun _ => .pure _)
  | interact target interactions timeout =>
      exact other rfl ((TellsDeeds.result _).failing.bind fun chain =>
        (tellsDeeds_forM _ chain interactions).bind fun _ => .pure _)
  | assertPresent target timeout =>
      exact other rfl ((TellsDeeds.result _).failing.bind fun chain =>
        (tellsDeeds_resolve _ _ chain).bind fun _ => .pure _)
  | assertAbsent target timeout =>
      exact other rfl ((TellsDeeds.result _).failing.bind fun chain =>
        (tellsDeeds_waitAbsent _ _ chain).bind fun _ => .pure _)
  | assertUrlContains fragment timeout =>
      exact other rfl ((tellsDeeds_waitUrl _ _ fragment).bind fun _ => .pure _)

end Attempt

/-- A step is announced without a word, and performed in the world that is left. -/
theorem Executor.exists_opened (host : Host σ) (options : RunOptions) (executor : Executor)
    (step : Step) (world : World σ) :
    ∃ opened : World σ,
      (executor.execute options step).run.prints host world =
        (Attempt.perform options executor.stored step).run.prints host opened ∧
      (executor.execute options step).run.log host world =
        .event world.now (.stepBegan (executor.stepNumber + 1) step executor.stored) ::
          (Attempt.perform options executor.stored step).run.log host opened ∧
      ((executor.execute options step).run.run host world).1 =
        executor.advance step
          ((Attempt.perform options executor.stored step).run.run host opened).1 := by
  have noted := Program.runs_run host
    (Program.note (.stepBegan (executor.stepNumber + 1) step executor.stored)) world
  have announced := (Program.runs_note noted).1
  have wordless : (Program.note (.stepBegan (executor.stepNumber + 1) step executor.stored)).prints
      host world = [] := (Program.tellsDeeds_note _).prints_eq_nil world
  unfold execute
  rw [Program.run_lift_bind, Program.prints_bind, Program.log_bind, Program.run_bind, wordless,
    announced]
  generalize (Program.note (.stepBegan (executor.stepNumber + 1) step executor.stored)).run host
    world = opening
  refine ⟨opening.2, ?_⟩
  rw [Attempt.run_outcome_bind, Program.prints_bind, Program.log_bind, Program.run_bind]
  generalize (Attempt.perform options executor.stored step).run.run host opening.2 = ended
  obtain ⟨(fault | breakdown) | stored, after⟩ := ended
  · exact ⟨List.append_nil _, congrArg _ (List.append_nil _), rfl⟩
  · exact ⟨List.append_nil _, congrArg _ (List.append_nil _), rfl⟩
  · exact ⟨List.append_nil _, congrArg _ (List.append_nil _), rfl⟩

/-- A step has passed when it leaves stored chains. -/
theorem Executor.exists_passed_iff {executor : Executor} {step : Step}
    {result : Except (Stop Fault) StoredChains} :
    (∃ next, executor.advance step result = .ok (.ok (), next)) ↔
      ∃ stored, result = .ok stored := by
  rcases result with (fault | breakdown) | stored <;> simp [advance]

/-- A step tells the same when it is executed. -/
theorem Executor.prints_execute (host : Host σ) (options : RunOptions) (executor : Executor)
    (step : Step) (world : World σ) :
    (executor.execute options step).run.prints host world = [] ↔
      ¬ (options.verbose = true ∧
        ((step.locates = true ∧ ∃ next,
          ((executor.execute options step).run.run host world).1 = .ok (.ok (), next)) ∨
        HasDeed ((executor.execute options step).run.log host world))) := by
  obtain ⟨opened, printed, recorded, ended⟩ := exists_opened host options executor step world
  rw [printed, recorded, ended, exists_passed_iff, Attempt.prints_perform]
  simp [HasDeed]

/-- The announcement of a step. -/
def JournalEntry.beginsStep : JournalEntry → Bool
  | .event _ (.stepBegan _ _ _) => true
  | _ => false

/-- The number of steps that were begun. -/
def stepsBegun (journal : List JournalEntry) : Nat := journal.countP JournalEntry.beginsStep

theorem stepsBegun_append (first second : List JournalEntry) :
    stepsBegun (first ++ second) = stepsBegun first + stepsBegun second :=
  List.countP_append

theorem JournalEntry.InWindow.not_beginsStep {interval deadline : Nat} {entry : JournalEntry}
    (inside : entry.InWindow interval deadline) : entry.beginsStep = false := by
  cases entry with
  | event time event =>
      cases event with
      | stepBegan number step stored => exact inside.elim
      | _ => rfl
  | _ => rfl

/-- No step begins in a window. -/
theorem Paced.stepsBegun_eq_zero {interval deadline : Nat} {journal : List JournalEntry}
    (paced : Paced interval deadline journal) : stepsBegun journal = 0 :=
  List.countP_eq_zero.mpr fun entry member => by
    simp [(paced.inside entry member).not_beginsStep]

theorem InteractionsPaced.stepsBegun_eq_zero {interval timeout opened ended : Nat}
    {interactions : List Interaction} {journal : List JournalEntry}
    (paced : InteractionsPaced interval timeout opened interactions journal ended) :
    stepsBegun journal = 0 := by
  induction paced with
  | ended now left => rfl
  | @window opened middle last interaction rest window journal timed fits paced continued ih =>
      have announced : stepsBegun [.event opened (.interactionBegan interaction)] = 0 := rfl
      rw [← List.singleton_append, stepsBegun_append, announced, stepsBegun_append,
        paced.stepsBegun_eq_zero, ih]

/-- No step begins while another one is performed. -/
theorem StepPaced.stepsBegun_eq_zero {options : RunOptions} {step : Step} {opened ended : Nat}
    {journal : List JournalEntry} (paced : StepPaced options step opened journal ended) :
    stepsBegun journal = 0 := by
  cases paced with
  | single timed paced => exact paced.stepsBegun_eq_zero
  | several windows => exact windows.stepsBegun_eq_zero

/-- An execution begins one step. -/
theorem Executor.stepsBegun_execute {options : RunOptions} {executor : Executor} {step : Step}
    {before after : World σ} {journal : List JournalEntry}
    {ended : Except Breakdown (Except Failure Unit × Executor)}
    (ran : (executor.execute options step).Runs host before journal after ended) :
    stepsBegun journal = 1 := by
  obtain ⟨opened, rest, outcome, rfl, -, -, attempted, -⟩ := Executor.runs_execute ran
  have announced : stepsBegun [.event before.now (.stepBegan (executor.stepNumber + 1) step
      executor.stored)] = 1 := rfl
  rw [← List.singleton_append, stepsBegun_append, announced,
    (Attempt.stepPaced_of_perform attempted).stepsBegun_eq_zero]

theorem Executor.stepNumber_of_execute {options : RunOptions} {executor next : Executor}
    {step : Step} {result : Except Failure Unit} {before after : World σ}
    {journal : List JournalEntry}
    (ran : (executor.execute options step).Runs host before journal after (.ok (result, next))) :
    next.stepNumber = executor.stepNumber + 1 := by
  obtain ⟨_, outcome, -, -, told⟩ := Executor.performed_of_execute ran
  rcases outcome with (fault | breakdown) | value <;> cases told <;> rfl

theorem hasDetail_append {first second : List Step} {journal rest : List JournalEntry} :
    HasDetail (first ++ second) (journal ++ rest) ↔
      HasDetail first journal ∨ HasDetail second rest := by
  simp only [HasDetail, List.mem_append, or_and_right, exists_or, hasDeed_append]
  exact or_or_or_comm

/-- Without a step that passed, only deeds are told. -/
theorem hasDetail_nil {journal : List JournalEntry} : HasDetail [] journal ↔ HasDeed journal := by
  simp [HasDetail]

/-- A step that passes comes before the others that pass. -/
theorem passedSteps_cons (step : Step) (rest : List Step) {place : Option Nat}
    (later : place ≠ some 0) :
    passedSteps (step :: rest) (place.map (· + 1)) = step :: passedSteps rest place := by
  cases place with
  | none => rfl
  | some number =>
      obtain ⟨count, rfl⟩ : ∃ count, number = count + 1 :=
        Nat.exists_eq_succ_of_ne_zero fun first => later (congrArg some first)
      rfl

theorem Program.printIf_false_bind (text : Text.Styled) (next : Unit → Program α) :
    printIf false text >>= next = next () := rfl

/-- The place of the step that has not passed, among steps of which the first comes after as many. -/
def Run.stoppedAt (journal : List JournalEntry) (passed : Nat) :
    Except Breakdown (Option FailedStep) → Option Nat
  | .ok failed => failed.map fun stopped => stopped.number - passed
  | .error _ => some (stepsBegun journal)

/-- Steps that break down have begun the one that breaks down. -/
theorem Run.stepsBegun_pos {options : RunOptions} {executor : Executor} {list : List Step}
    {before after : World σ} {journal : List JournalEntry} {breakdown : Breakdown}
    (ran : (Run.steps options executor list).Runs host before journal after (.error breakdown)) :
    0 < stepsBegun journal := by
  cases list with
  | nil => cases (Attempt.runs_pure_iff.mp ran).1
  | cons step rest =>
      obtain ⟨first, middle, executed, ran_step, continued⟩ := executed_of_steps ran
      have begun := Executor.stepsBegun_execute ran_step
      rcases executed with broken | ⟨failure | value, next⟩
      · obtain ⟨-, rfl, -⟩ := continued
        omega
      · cases continued.2.2
      · obtain ⟨resumed, later, -, -, rfl⟩ := continued
        rw [stepsBegun_append]
        omega

/-- The steps that come after one that passes stop one place further on among all. -/
theorem Run.stoppedAt_cons {options : RunOptions} {executor next : Executor} {step : Step}
    {rest : List Step} {before middle resumed after : World σ} {first journal : List JournalEntry}
    {ended : Except Breakdown (Option FailedStep)}
    (executed : (executor.execute options step).Runs host before first middle (.ok (.ok (), next)))
    (ran : (Run.steps options next rest).Runs host resumed journal after ended) :
    passedSteps (step :: rest) (stoppedAt (first ++ journal) executor.stepNumber ended) =
      step :: passedSteps rest (stoppedAt journal next.stepNumber ended) := by
  have counted := Executor.stepNumber_of_execute executed
  have begun := Executor.stepsBegun_execute executed
  have further : stoppedAt (first ++ journal) executor.stepNumber ended =
      (stoppedAt journal next.stepNumber ended).map (· + 1) ∧
      stoppedAt journal next.stepNumber ended ≠ some 0 := by
    rcases ended with breakdown | (none | stopped)
    · have some_begun := stepsBegun_pos ran
      rw [stoppedAt, stoppedAt, stepsBegun_append, begun, Option.map_some, Nat.add_comm]
      simpa using Nat.ne_of_gt some_begun
    · exact ⟨rfl, nofun⟩
    · have beyond := Run.lt_number_of_steps ran
      simp only [stoppedAt, Option.map_some, ne_eq, Option.some.injEq]
      omega
  rw [further.1, passedSteps_cons step rest further.2]

/-- Quiet steps tell of the located elements of those that pass, and of all deeds. -/
theorem Run.prints_steps (host : Host σ) {options : RunOptions} (quiet : options.quiet = true)
    (executor : Executor) (list : List Step) (world : World σ) :
    (Run.steps options executor list).run.prints host world = [] ↔
      ¬ (options.verbose = true ∧ HasDetail
        (passedSteps list (stoppedAt ((Run.steps options executor list).run.log host world)
          executor.stepNumber ((Run.steps options executor list).run.run host world).1))
        ((Run.steps options executor list).run.log host world)) := by
  induction list generalizing executor world with
  | nil => simp [Run.steps, HasDetail, passedSteps, stoppedAt, not_hasDeed_nil, ExceptT.run_pure]
  | cons step rest ih =>
      have told := executor.prints_execute host options step world
      have ran := Program.runs_run host (executor.execute options step).run world
      rw [Run.steps, ExceptT.run_bind, Program.prints_bind, Program.log_bind, Program.run_bind,
        List.append_eq_nil_iff, told]
      generalize (executor.execute options step).run.log host world = first at ran ⊢
      generalize (executor.execute options step).run.run host world = ended at ran ⊢
      obtain ⟨breakdown | ⟨failure | value, next⟩, middle⟩ := ended
      · have begun := Executor.stepsBegun_execute ran
        simp [HasDetail, passedSteps, stoppedAt, begun]
      · have counted := Executor.stepNumber_of_execute ran
        dsimp only
        rw [Program.run_lift_bind, quiet, Bool.not_true, Program.printIf_false_bind]
        have alone : next.stepNumber - executor.stepNumber - 1 = 0 := by omega
        simp [HasDetail, passedSteps, stoppedAt, alone, ExceptT.run_pure]
      · dsimp only
        rw [Program.run_lift_bind, quiet, Bool.not_true, Program.printIf_false_bind, ih next middle,
          stoppedAt_cons ran (Program.runs_run host (Run.steps options next rest).run middle),
          ← List.singleton_append, hasDetail_append]
        have alone : HasDetail [step] first ↔ step.locates = true ∨ HasDeed first := by
          simp [HasDetail]
        have passes : ∃ after, (Except.ok (Except.ok value, next) :
            Except Breakdown (Except Failure Unit × Executor)) = .ok (.ok (), after) := ⟨next, rfl⟩
        rw [alone]
        grind

namespace Run

theorem tellsDeeds_saveScreenshot (verbose : Bool) (directory : Path) (name : String)
    (number : Nat) :
    Program.TellsDeeds host verbose (saveScreenshot directory name number) := by
  refine (Program.tellsDeeds_call fun _ => rfl).bind fun image => ?_
  cases image with
  | error error => exact .pure _
  | ok image =>
      refine (Program.tellsDeeds_createDirectory directory).bind fun made => ?_
      cases made with
      | error error => exact .pure _
      | ok value =>
          refine (Program.tellsDeeds_writeFile _ image).bind fun saved => ?_
          cases saved with
          | error error => exact .pure _
          | ok value => exact .pure _

theorem tellsDeeds_screenshotOf (verbose : Bool) (options : RunOptions) (scenario : Scenario)
    (failed : Option FailedStep) :
    Program.TellsDeeds host verbose (screenshotOf options scenario failed) := by
  unfold screenshotOf
  split
  · exact tellsDeeds_saveScreenshot verbose _ _ _
  · exact .pure _

theorem tellsDeeds_conclude {options : RunOptions} (quiet : options.quiet = true) (verbose : Bool)
    (failed : Option FailedStep) (screenshot : Option Path) :
    Program.TellsDeeds host verbose (conclude options failed screenshot) := by
  unfold conclude
  simp only [quiet, Bool.not_true]
  cases failed with
  | none => exact (Program.tellsDeeds_printIf _).bind fun _ => .pure _
  | some stopped =>
      cases screenshot with
      | none => exact (Program.tellsDeeds_printIf _).bind fun _ => .pure _
      | some path =>
          exact (Program.tellsDeeds_printIf _).bind fun _ =>
            (Program.tellsDeeds_printIf _).bind fun _ => .pure _

/-- Nothing is told at the end of a quiet run. -/
theorem tellsDeeds_ending (host : Host σ) {options : RunOptions} (quiet : options.quiet = true)
    (verbose : Bool) (scenario : Scenario) (started : Nat) (failed : Option FailedStep) :
    Program.TellsDeeds host verbose (ending options scenario started failed) := by
  refine (tellsDeeds_screenshotOf verbose options scenario failed).bind fun screenshot => ?_
  refine (Program.tellsDeeds_call fun _ => rfl).bind fun _ => ?_
  refine Program.tellsDeeds_clock.bind fun finished => ?_
  exact (tellsDeeds_conclude quiet verbose failed screenshot).bind fun verdict => .pure _

/-- A quiet run goes from its steps to its end. -/
theorem scenario_eq_of_quiet {options : RunOptions} (quiet : options.quiet = true)
    (scenario : Scenario) :
    Run.scenario options scenario = (do
      let started ← Program.clock
      let failed ← steps options .start scenario.steps
      ending options scenario started failed) := by
  unfold Run.scenario
  rw [quiet]
  rfl

/-- The steps of a report that passed. -/
def passed (scenario : Scenario) (report : Report) : List Step :=
  passedSteps scenario.steps report.failedStep?

/-- The steps of a run that passed. A run without a report has passed the steps before the last that it
has begun. -/
def passedIn (scenario : Scenario) (journal : List JournalEntry) :
    Except Breakdown Report → List Step
  | .ok report => passed scenario report
  | .error _ => passedSteps scenario.steps (some (stepsBegun journal))

/-- A quiet run tells of the located elements of the steps that pass, and of all deeds. -/
theorem prints_scenario (host : Host σ) {options : RunOptions} (quiet : options.quiet = true)
    (scenario : Scenario) (world : World σ) :
    (Run.scenario options scenario).run.prints host world = [] ↔
      ¬ (options.verbose = true ∧ HasDetail
        (passedIn scenario ((Run.scenario options scenario).run.log host world)
          ((Run.scenario options scenario).run.run host world).1)
        ((Run.scenario options scenario).run.log host world)) := by
  have silent : Program.clock.prints host world = [] := rfl
  have unread : Program.clock.log host world = [] := rfl
  have read : Program.clock.run host world = (world.now, world) := rfl
  rw [scenario_eq_of_quiet quiet, Program.run_lift_bind, Program.prints_bind, Program.log_bind,
    Program.run_bind, silent, unread, read, List.nil_append, List.nil_append, ExceptT.run_bind,
    Program.prints_bind, Program.log_bind, Program.run_bind, List.append_eq_nil_iff,
    prints_steps host quiet .start scenario.steps world]
  generalize (steps options .start scenario.steps).run.run host world = ended
  generalize (steps options .start scenario.steps).run.log host world = first
  obtain ⟨breakdown | failed, middle⟩ := ended
  · simp [passedIn, stoppedAt]
  · have parted := tellsDeeds_ending host quiet options.verbose scenario world.now failed middle
    have stopped := failedStep_ending
      (Program.runs_run host (ending options scenario world.now failed) middle)
    have same : passed scenario
        ((ending options scenario world.now failed).run host middle).1 =
        passedSteps scenario.steps (stoppedAt first Executor.start.stepNumber (.ok failed)) := by
      rw [passed, stopped]
      rfl
    have lifted : (liftM (ending options scenario world.now failed) : Attempt Breakdown Report).run =
      Except.ok <$> ending options scenario world.now failed := rfl
    dsimp only
    rw [lifted, Program.prints_map, Program.log_map, Program.run_map, parted, passedIn, same,
      ← hasDetail_nil, ← not_or, ← and_or_left, ← hasDetail_append, List.append_nil]

/-- A quiet run that is not verbose tells of nothing. -/
theorem tellsDeeds_scenario (host : Host σ) {options : RunOptions} (quiet : options.quiet = true)
    (terse : options.verbose = false) (scenario : Scenario) :
    TellsDeeds host false (Run.scenario options scenario) := by
  intro world
  simp [prints_scenario host quiet scenario world, terse]

end Run

namespace CommandLine

/-- The steps that passed in the scenarios that were run. -/
def passedOf (scenarios : List Scenario) (reports : List Report) : List Step :=
  (scenarios.zip reports).flatMap fun ran => Run.passed ran.1 ran.2

/-- Scenarios that are run for their reports as data tell of nothing but details. -/
theorem prints_runEach (host : Host σ) (settings : Settings) {overrides : Overrides}
    (json : overrides.json = true) {scenarios : List Scenario} {world : World σ}
    {reports : List Report} {failure : Option Error}
    (ended : ((runEach settings overrides scenarios).run.run host world).1 = .ok (reports, failure)) :
    (runEach settings overrides scenarios).run.prints host world = [] ↔
      ¬ (overrides.verbose = true ∧ HasDetail (passedOf scenarios reports)
        ((runEach settings overrides scenarios).run.log host world)) := by
  induction scenarios generalizing world reports failure with
  | nil => simp [runEach, passedOf, hasDetail_nil, not_hasDeed_nil, ExceptT.run_pure]
  | cons scenario rest ih =>
      have opens (verbose : Bool) : Program.TellsDeeds host verbose
          (Program.openSession (WebDriver.sessionRequest settings)) :=
        Program.tellsDeeds_openSession _
      have undone := (opens false).not_hasDeed (opens true) world
      have quiet : (settings.runOptions scenario.baseUrl overrides).quiet = true := json
      have detailed : (settings.runOptions scenario.baseUrl overrides).verbose =
          overrides.verbose := rfl
      rw [runEach, Program.run_lift_bind, Program.run_bind] at ended
      rw [runEach, Program.run_lift_bind, Program.prints_bind, Program.log_bind,
        (opens false).prints_eq_nil, List.nil_append]
      generalize (Program.openSession (WebDriver.sessionRequest settings)).run host world =
        opening at ended ⊢
      obtain ⟨error | value, started⟩ := opening
      · obtain ⟨rfl, rfl⟩ := Prod.mk.inj (Except.ok.inj ended)
        simp [passedOf, hasDetail_nil, undone, ExceptT.run_pure]
      · dsimp only at ended ⊢
        rw [ExceptT.run_bind, Program.run_bind] at ended
        rw [ExceptT.run_bind, Program.prints_bind, Program.log_bind, List.append_eq_nil_iff,
          Run.prints_scenario host quiet scenario started, detailed]
        generalize (Run.scenario (settings.runOptions scenario.baseUrl overrides) scenario).run.run
          host started = run at ended ⊢
        obtain ⟨breakdown | report, middle⟩ := run
        · cases ended
        dsimp only at ended ⊢
        rw [ExceptT.run_bind, Program.run_bind] at ended
        rw [ExceptT.run_bind, Program.prints_bind, Program.log_bind, List.append_eq_nil_iff]
        cases others : ((runEach settings overrides rest).run.run host middle).1 with
        | error breakdown =>
            rw [others] at ended
            cases ended
        | ok gathered =>
            obtain ⟨later, stopped⟩ := gathered
            rw [others] at ended
            obtain ⟨rfl, rfl⟩ := Prod.mk.inj (Except.ok.inj ended)
            rw [ih others]
            have joined : passedOf (scenario :: rest) (report :: later) =
                [] ++ (Run.passed scenario report ++ passedOf rest later) := rfl
            have told : Run.passedIn scenario
                ((Run.scenario (settings.runOptions scenario.baseUrl overrides) scenario).run.log
                  host started) (.ok report) = Run.passed scenario report := rfl
            rw [joined, hasDetail_append, hasDetail_nil, or_iff_right undone, told]
            simp only [ExceptT.run_pure, Program.prints_pure, Program.log_pure, and_true,
              List.append_nil, hasDetail_append]
            grind

/-- Without the details of verbose runs nothing at all is told. -/
theorem tellsDeeds_runEach (host : Host σ) (settings : Settings) {overrides : Overrides}
    (json : overrides.json = true) (terse : overrides.verbose = false) (scenarios : List Scenario) :
    TellsDeeds host false (runEach settings overrides scenarios) := by
  induction scenarios with
  | nil => exact .pure _
  | cons scenario rest ih =>
      refine (TellsDeeds.lift (Program.tellsDeeds_openSession _)).bind fun session => ?_
      cases session with
      | error error => exact .pure _
      | ok value =>
          exact (Run.tellsDeeds_scenario host json terse scenario).bind fun report =>
            ih.bind fun gathered => .pure _

end CommandLine

/-- When a run that is to be quiet is silent. It prints nothing, unless it is verbose and a step that
locates passes or something is done to an element. In the same cases a command that reports data
prints nothing but the reports of the scenarios that were run, or nothing at all where one of them is
no data. Where a run breaks down there are no reports, and what is not verbose prints nothing. -/
theorem CommandLine.silent_iff (host : Host σ) :
    (∀ (options : RunOptions) (scenario : Scenario) (before : World σ), options.quiet = true →
      (((Run.scenario options scenario).run.run host before).2.printed = before.printed ↔
        ¬ (options.verbose = true ∧ HasDetail
          (Run.passedIn scenario ((Run.scenario options scenario).run.log host before)
            ((Run.scenario options scenario).run.run host before).1)
          ((Run.scenario options scenario).run.log host before)))) ∧
    ∀ (locations : Locations) (paths : List Path) (builtin : Option String)
        (overrides : Overrides) (settings : Settings) (scenarios : List Scenario)
        (before loaded : World σ), overrides.json = true →
      (prepare locations paths builtin overrides).run.run host before =
        (.ok (settings, scenarios), loaded) →
      let runs := (runEach settings overrides scenarios).run
      let printed := (((Command.run paths builtin overrides).program locations).run.run host
        before).2.printed
      let detailed (reports : List Report) := overrides.verbose = true ∧
        HasDetail (passedOf scenarios reports) (runs.log host loaded)
      (∀ reports failure told, (runs.run host loaded).1 = .ok (reports, failure) → reports ≠ [] →
        reports.mapM Report.toJson = .ok told →
        (printed = before.printed ++ reportsText told ↔ ¬ detailed reports)) ∧
      (∀ reports failure error, (runs.run host loaded).1 = .ok (reports, failure) →
        reports.mapM Report.toJson = .error error →
        (printed = before.printed ↔ ¬ detailed reports)) ∧
      ∀ breakdown, (runs.run host loaded).1 = .error breakdown → overrides.verbose = false →
        printed = before.printed := by
  constructor
  · intro options scenario before quiet
    rw [Program.printed_run_eq_iff, Run.prints_scenario host quiet]
  · intro locations paths builtin overrides settings scenarios before loaded json prepared runs
      printed detailed
    obtain ⟨-, -, told⟩ := runs_runPrepared host settings overrides scenarios loaded
    have unheard : (prepare locations paths builtin overrides).run.prints host before = [] :=
      (onlyReads_prepare locations paths builtin overrides).prints_eq_nil before
    have whole : printed = before.printed ++ (runs.prints host loaded ++
        tellingOf overrides.json (runs.run host loaded).1) := by
      have first : (prepare locations paths builtin overrides).failing.run.run host before =
          (.ok (settings, scenarios), loaded) := by
        rw [Attempt.run_failing, Program.run_map, prepared]
        rfl
      rw [← told]
      simp only [printed]
      rw [Program.printed_run, Command.program, runScenarios_eq, ExceptT.run_bind,
        Program.prints_bind, Attempt.run_failing, Program.prints_map, unheard, ← Attempt.run_failing,
        first, List.nil_append]
    rw [json] at whole
    refine ⟨?_, ?_, ?_⟩
    · intro reports failure data ended some_run written
      have telling : tellingOf true (runs.run host loaded).1 = reportsText data := by
        rw [ended, tellingOf, toldAfter, if_pos (by simp [some_run]), toldText, if_pos rfl, written]
        rfl
      rw [whole, telling, List.append_right_inj, List.append_left_eq_self,
        prints_runEach host settings json ended]
    · intro reports failure error ended unwritten
      have telling : tellingOf true (runs.run host loaded).1 = [] := by
        rw [ended, tellingOf, toldAfter, toldText, if_pos rfl, unwritten]
        exact ite_self _
      rw [whole, telling, List.append_nil, List.append_right_eq_self,
        prints_runEach host settings json ended]
    · intro breakdown ended terse
      rw [whole, ended, tellingOf, List.append_nil,
        (tellsDeeds_runEach host settings json terse scenarios).prints_eq_nil, List.append_nil]

/-- A page is opened and looked at. -/
def Scenario.checking : Scenario where
  name := "checking"
  description := none
  baseUrl := none
  vars := []
  steps := [.navigate "/start", .assertPresent [.get ".menu"] none]

/-- A file with one scenario in it. -/
def Scenario.openingText : String := "{name: opening, steps: [{action: navigate, url: /}]}"

/-- The scenario of that file. -/
def Scenario.opening : Scenario := ⟨"opening", none, none, [], [.navigate "/"]⟩

theorem Scenario.fromYaml_openingText : Scenario.fromYaml openingText = .ok opening := by
  decide +kernel

/-- A working directory with that file in it. -/
def FileTree.withOpening : FileTree := [([Path.ofText "s"], .file Scenario.openingText.toUTF8)]

theorem pathNames_opening : pathNames "s" = [Path.ofText "s"] := by decide

theorem FileTree.read_withOpening :
    FileTree.withOpening.read "s" = .ok Scenario.openingText.toUTF8 := by
  simp only [read, walk, pathNames_opening]
  rfl

/-- A verbose run without details is silent when it is to be quiet, and a command that is not verbose
prints its reports alone. -/
theorem CommandLine.silent_iff_checking :
    ((Run.scenario { RunOptions.plain with verbose := true } .checking).run.run Host.agreeable
      (.start () [])).2.printed = [] ∧
    ∃ told, told ≠ [] ∧
      (((Command.run ["s"] none { json := true }).program ⟨"", ""⟩).run.run Host.agreeable
        (.start () .withOpening)).2.printed = reportsText told := by
  constructor
  · have plainly : ¬ HasDetail
        (Run.passedIn .checking
          ((Run.scenario { RunOptions.plain with verbose := true } .checking).run.log
            Host.agreeable (.start () []))
          ((Run.scenario { RunOptions.plain with verbose := true } .checking).run.run
            Host.agreeable (.start () [])).1)
        ((Run.scenario { RunOptions.plain with verbose := true } .checking).run.log Host.agreeable
          (.start () [])) := by
      unfold HasDetail HasDeed
      decide
    exact ((CommandLine.silent_iff Host.agreeable).1 { RunOptions.plain with verbose := true }
      .checking (.start () []) rfl).mpr fun told => plainly told.2
  · have decoded : String.fromUTF8? Scenario.openingText.toUTF8 = some Scenario.openingText := by
      decide +kernel
    have prepared : (prepare ⟨"", ""⟩ ["s"] none { json := true }).run.run Host.agreeable
        (.start () .withOpening) = _ :=
      run_prepare rfl rfl FileTree.read_withOpening decoded Scenario.fromYaml_openingText
    have ended : ((runEach (({} : Settings).override { json := true }).1 { json := true }
        [.opening]).run.run Host.agreeable (.start () .withOpening)).1 =
          .ok ([⟨"opening", 1, .passed, 0⟩], none) := by
      decide +kernel
    obtain ⟨whole, -⟩ := (CommandLine.silent_iff Host.agreeable).2 ⟨"", ""⟩ ["s"] none
      { json := true } _ _ _ _ rfl prepared
    exact ⟨_, List.cons_ne_nil _ _, (whole _ _ _ ended (List.cons_ne_nil _ _) rfl).mpr
      fun told => Bool.false_ne_true told.1⟩

/-- A quiet run that prints the details of a verbose one. -/
theorem Run.prints_tour_verbose :
    ∃ options : RunOptions, options.quiet = true ∧
      ((Run.scenario options .tour).run.run Host.agreeable (.start () [])).2.printed =
        [Text.plain "    1 element(s) matched\n", Text.plain "    click ",
          Text.dimmed "get '.menu' > contains 'Next'", Text.plain "\n"] :=
  ⟨{ RunOptions.plain with verbose := true }, rfl, rfl⟩

end ScenarioRunner
