import ScenarioRunner.Proofs.Course

/-!
What a run tells does not change what it does. Runs that differ in what they print and in where they
keep screenshots go the same way through their steps, and so they do in browsers that differ in how
they take screenshots and how they end the session.
-/

namespace ScenarioRunner

variable {σ α β ε : Type} {host host' : Host σ} {options options' : RunOptions}

/-- Options that differ only in what is printed and in where screenshots are kept. -/
def RunOptions.SameTest (options options' : RunOptions) : Prop :=
  ∃ screenshotDirectory verbose quiet,
    options' = { options with screenshotDirectory, verbose, quiet }

namespace Attempt

/-- Two attempts that do the same, apart from what they print. -/
abbrev Echoes (attempt attempt' : Attempt ε α) : Prop := Program.Echoes attempt.run attempt'.run

theorem Echoes.bind {attempt attempt' : Attempt ε α} {next next' : α → Attempt ε β}
    (first : Echoes attempt attempt') (others : ∀ value, Echoes (next value) (next' value)) :
    Echoes (attempt >>= next) (attempt' >>= next') := by
  unfold Echoes
  rw [ExceptT.run_bind, ExceptT.run_bind]
  apply Program.Echoes.bind first
  intro result
  cases result with
  | error fault => exact .refl _
  | ok value => exact others value

/-- What follows the same attempt. -/
theorem Echoes.after (attempt : Attempt ε α) {next next' : α → Attempt ε β}
    (others : ∀ value, Echoes (next value) (next' value)) :
    Echoes (attempt >>= next) (attempt >>= next') :=
  Echoes.bind (.refl _) others

/-- Lines may be printed before the same is done. -/
theorem Echoes.printIf (wanted wanted' : Bool) (text : Text.Styled) {next next' : Unit → Attempt ε α}
    (others : ∀ value, Echoes (next value) (next' value)) :
    Echoes (liftM (Program.printIf wanted text) >>= next)
      (liftM (Program.printIf wanted' text) >>= next') :=
  Echoes.bind ((Program.Echoes.printIf wanted wanted' text text).map Except.ok) others

theorem echoes_lookUntil {look look' : Attempt (Stop Fault) (Look α)}
    {otherwise otherwise' : Attempt (Stop Fault) α} (deadline : Nat) (looks : Echoes look look')
    (others : Echoes otherwise otherwise') :
    Echoes (lookUntil deadline look otherwise) (lookUntil deadline look' otherwise') := by
  apply looks.bind
  intro seen
  cases seen with
  | settled value => exact .refl _
  | unsettled fault =>
      apply Echoes.after
      intro now
      dsimp only
      split
      · exact .refl _
      · exact others

theorem echoes_pollUntil {look look' : Attempt (Stop Fault) (Look α)}
    (interval deadline patience : Nat) (looks : Echoes look look') :
    Echoes (pollUntil interval deadline look patience)
      (pollUntil interval deadline look' patience) := by
  induction patience with
  | zero => exact echoes_lookUntil deadline looks (.refl _)
  | succ patience ih => exact echoes_lookUntil deadline looks (.after _ fun _ => ih)

theorem echoes_poll {look look' : Nat → Attempt (Stop Fault) (Look α)} (interval timeout : Nat)
    (looks : ∀ deadline, Echoes (look deadline) (look' deadline)) :
    Echoes (poll interval timeout look) (poll interval timeout look') := by
  apply Echoes.after
  intro start
  split
  · exact echoes_pollUntil interval _ _ (looks (start + timeout))
  · exact .refl _

/-- What is done to an element does not depend on whether it is told. -/
theorem echoes_tryInteraction (same : options.SameTest options') (chain : Chain)
    (interaction : Interaction) (deadline : Nat) :
    Echoes (tryInteraction options chain interaction deadline)
      (tryInteraction options' chain interaction deadline) := by
  obtain ⟨screenshotDirectory, verbose, quiet, rfl⟩ := same
  apply Echoes.after
  intro now
  apply Echoes.after
  intro elements
  cases elements with
  | nil => exact .refl _
  | cons element others =>
      apply Echoes.after
      intro result
      cases result with
      | ok value => exact .printIf options.verbose verbose _ fun _ => .refl _
      | error fault => cases fault <;> exact .refl _

theorem echoes_interact (same : options.SameTest options') (timeout : Nat) (chain : Chain)
    (interaction : Interaction) :
    Echoes (interact options timeout chain interaction)
      (interact options' timeout chain interaction) := by
  have tries := echoes_tryInteraction same chain interaction
  obtain ⟨screenshotDirectory, verbose, quiet, rfl⟩ := same
  exact .after _ fun _ => echoes_poll _ timeout tries

theorem echoes_forM (same : options.SameTest options') (timeout : Nat) (chain : Chain)
    (interactions : List Interaction) :
    Echoes (interactions.forM (interact options timeout chain))
      (interactions.forM (interact options' timeout chain)) := by
  induction interactions with
  | nil =>
      show Echoes (pure ()) (pure ())
      exact .refl _
  | cons interaction rest ih =>
      exact (echoes_interact same timeout chain interaction).bind fun _ => ih

theorem echoes_perform (same : options.SameTest options') (stored : StoredChains) (step : Step) :
    Echoes (perform options stored step) (perform options' stored step) := by
  have interacts := echoes_forM same
  obtain ⟨screenshotDirectory, verbose, quiet, rfl⟩ := same
  cases step with
  | locate target storeAs timeout =>
      apply Echoes.after
      intro chain
      apply Echoes.after
      intro elements
      exact .printIf options.verbose verbose _ fun _ => .refl _
  | interact target interactions timeout =>
      apply Echoes.after
      intro chain
      exact (interacts _ chain interactions).bind fun _ => .refl _
  | _ => exact .refl _

end Attempt

theorem Executor.echoes_execute (same : options.SameTest options') (executor : Executor)
    (step : Step) :
    Attempt.Echoes (executor.execute options step) (executor.execute options' step) := by
  apply Attempt.Echoes.after
  intro _
  have performs := Attempt.echoes_perform same executor.stored step
  exact Attempt.Echoes.bind (performs.map Except.ok) fun _ => .refl _

/-- The steps of a run are the same whatever is told of them. -/
theorem Run.echoes_steps (same : options.SameTest options') (executor : Executor)
    (list : List Step) :
    Attempt.Echoes (steps options executor list) (steps options' executor list) := by
  induction list generalizing executor with
  | nil => exact .refl _
  | cons step rest ih =>
      apply (Executor.echoes_execute same executor step).bind
      intro executed
      obtain ⟨result, next⟩ := executed
      cases result with
      | ok value => exact .printIf _ _ _ fun _ => ih next
      | error failure => exact .printIf _ _ _ fun _ => .refl _

/-- Browsers that answer every call of a step in the same way. -/
def Host.AgreeAtWork (host host' : Host σ) : Prop :=
  ∀ call : Call, call.parts = false → host.call call = host'.call call

/-- What steps ask for comes about in the same way in both browsers. -/
theorem Host.AgreeAtWork.enact (agree : host.AgreeAtWork host') {world : World σ}
    {effect : Effect}
    (works : ∀ entry ∈ effect.entries world.now (world.enact host effect).2.now
      (world.enact host effect).1, entry.IsStepWork) :
    world.enact host effect = world.enact host' effect := by
  cases effect with
  | call asked =>
      have working : asked.parts = false := works _ List.mem_cons_self
      simp only [World.enact, agree asked working]
  | openSession request => exact (works _ List.mem_cons_self).elim
  | _ => rfl

/-- A program that does the work of steps runs in the same way in both browsers. -/
theorem Host.AgreeAtWork.runs (agree : host.AgreeAtWork host') {program : Program α}
    {before after : World σ} {journal : List JournalEntry} {value : α}
    (ran : program.Runs host before journal after value)
    (works : ∀ entry ∈ journal, entry.IsStepWork) :
    program.Runs host' before journal after value := by
  obtain ⟨ended, rfl⟩ := ran
  induction program generalizing before with
  | done result => exact ⟨ended, rfl⟩
  | perform effect next ih =>
      obtain ⟨first, others⟩ := List.forall_mem_append.mp works
      have same := agree.enact first
      obtain ⟨continued, recorded⟩ := ih _ ended others
      constructor
      · rwa [Program.run, ← same]
      · rw [Program.log, Program.log, ← same, recorded]

namespace Run

/-- Steps go the same way in both browsers whatever is told of them. -/
theorem steps_of_sameTest (agree : host.AgreeAtWork host') (same : options.SameTest options')
    {executor : Executor} {list : List Step} {before before' after after' : World σ}
    {journal journal' : List JournalEntry} {ended ended' : Except Breakdown (Option FailedStep)}
    (alike : before.Alike before')
    (ran : (steps options executor list).Runs host before journal after ended)
    (again : (steps options' executor list).Runs host' before' journal' after' ended') :
    ended = ended' ∧ journal = journal' := by
  -- the browser is exchanged under the same options first, then the options in the same browser
  have elsewhere : (steps options executor list).Runs host' before journal after ended :=
    agree.runs ran (isStepWork_of_steps ran)
  obtain ⟨same_end, same_journal, -⟩ :=
    (echoes_steps same executor list).alike alike elsewhere again
  exact ⟨same_end, same_journal⟩

end Run

/-- An entry of what follows the steps of a run. -/
def JournalEntry.Parts : JournalEntry → Prop
  | .call _ _ asked _ => asked.parts = true
  | _ => False

theorem JournalEntry.IsParting.parts {entry : JournalEntry} (parting : entry.IsParting) :
    entry.Parts := by
  cases entry with
  | call started finished asked outcome =>
      cases asked with
      | screenshot => rfl
      | _ => exact parting.elim
  | _ => exact parting.elim

/-- Two reports that say the same of the test. -/
structure Report.Agrees (report report' : Report) : Prop where
  passed : report.passed = report'.passed
  stepsRun : report.stepsRun = report'.stepsRun
  stepsTotal : report.stepsTotal = report'.stepsTotal
  failedStep : report.failedStep? = report'.failedStep?
  error : report.error? = report'.error?

/-- Verdicts on the same step agree, whatever became of its screenshot. -/
theorem Report.agrees_of_verdict {report report' : Report} {failed : Option FailedStep}
    {screenshot screenshot' : Option Path} (verdict : report.verdict = .on failed screenshot)
    (verdict' : report'.verdict = .on failed screenshot')
    (total : report.stepsTotal = report'.stepsTotal) : report.Agrees report' := by
  cases failed with
  | none =>
      have same : report.verdict = report'.verdict := verdict.trans verdict'.symm
      constructor <;> simp only [passed, stepsRun, failedStep?, error?, same, total]
  | some stopped =>
      rw [Verdict.on] at verdict verdict'
      constructor <;> simp [passed, stepsRun, failedStep?, error?, verdict, verdict', total]

/-- Two runs that come to the same: their reports agree, or both break down in the same way. -/
inductive Run.AgreeingEnds : Except Breakdown Report → Except Breakdown Report → Prop where
  | reported {report report' : Report} (agrees : report.Agrees report') :
      AgreeingEnds (.ok report) (.ok report')
  | broken (breakdown : Breakdown) : AgreeingEnds (.error breakdown) (.error breakdown)

/-- What follows the steps of a run is a screenshot perhaps and the end of the session. -/
theorem Run.parts_of_runs_ending {scenario : Scenario} {started : Nat} {failed : Option FailedStep}
    {before after : World σ} {journal : List JournalEntry} {report : Report}
    (ran : (ending options scenario started failed).Runs host before journal after report) :
    ∀ entry ∈ journal, entry.Parts := by
  obtain ⟨shots, screenshot, asked, closed, outcome, rfl, taken, -⟩ := runs_ending ran
  exact List.forall_mem_append.mpr
    ⟨fun entry member => (taken.parting entry member).parts, List.forall_mem_singleton.mpr rfl⟩

/-- Runs that leave their steps in the same way come to the same. -/
theorem Run.agreeingEnds_of_ending {scenario : Scenario} {started started' : Nat}
    {failed : Option FailedStep} {before before' after after' : World σ}
    {journal journal' : List JournalEntry} {report report' : Report}
    (ran : (ending options scenario started failed).Runs host before journal after report)
    (again : (ending options' scenario started' failed).Runs host' before' journal' after' report') :
    AgreeingEnds (.ok report) (.ok report') := by
  obtain ⟨_, screenshot, _, _, _, -, -, -, total, verdict⟩ := runs_ending ran
  obtain ⟨_, screenshot', _, _, _, -, -, -, total', verdict'⟩ := runs_ending again
  exact .reported (Report.agrees_of_verdict verdict verdict' (total.trans total'.symm))

/-- What a run tells does not change the test. Two runs whose options differ only in what is printed
and in where screenshots are kept, in browsers that differ only in how they take screenshots and how
they end the session, go through their steps with the same calls at the same times. What follows in
each is a screenshot perhaps and the end of the session, and the reports agree. If one of them breaks
down, so does the other. -/
theorem Run.agrees_of_sameTest (agree : host.AgreeAtWork host')
    (same : options.SameTest options') (scenario : Scenario) (before : World σ) :
    let test (options : RunOptions) : Program (Except Breakdown (Option FailedStep)) :=
      (Run.steps options .start scenario.steps).run
    let whole (options : RunOptions) : Program (Except Breakdown Report) :=
      (Run.scenario options scenario).run
    ∃ working parting parting',
      (test options).log host before = working ∧ (test options').log host' before = working ∧
      (whole options).log host before = working ++ parting ∧
      (whole options').log host' before = working ++ parting' ∧
      (∀ entry ∈ working, entry.IsStepWork) ∧
      (∀ entry ∈ parting ++ parting', entry.Parts) ∧
      AgreeingEnds ((whole options).run host before).1 ((whole options').run host' before).1 := by
  intro test whole
  obtain ⟨working, middle, stepped, ran, followed⟩ :=
    parts_of_scenario (Program.runs_run host (whole options) before)
  obtain ⟨working', middle', stepped', again, followed'⟩ :=
    parts_of_scenario (Program.runs_run host' (whole options') before)
  have opens := alike_opening host options scenario before
  have opens' := alike_opening host' options' scenario before
  obtain ⟨-, same_log, -⟩ := (Program.runs_run host (test options) before).alike opens ran
  obtain ⟨-, same_log', -⟩ := (Program.runs_run host' (test options') before).alike opens' again
  obtain ⟨rfl, rfl⟩ := steps_of_sameTest agree same (opens.symm.trans opens') ran again
  have works := isStepWork_of_steps ran
  cases stepped with
  | ok failed =>
      obtain ⟨parting, report, ended, recorded, told⟩ := followed
      obtain ⟨parting', report', ended', recorded', told'⟩ := followed'
      refine ⟨working, parting, parting', same_log, same_log', recorded, recorded', works, ?_, ?_⟩
      · exact List.forall_mem_append.mpr
          ⟨parts_of_runs_ending ended, parts_of_runs_ending ended'⟩
      · rw [told, told']
        exact agreeingEnds_of_ending ended ended'
  | error breakdown =>
      obtain ⟨-, recorded, told⟩ := followed
      obtain ⟨-, recorded', told'⟩ := followed'
      refine ⟨working, [], [], same_log, same_log', by simpa using recorded,
        by simpa using recorded', works, by simp, ?_⟩
      rw [told, told']
      exact .broken breakdown

/-- The same browser, but it takes long to refuse screenshots and the end of the session. -/
def Host.clinging (host : Host σ) : Host σ where
  openSession := host.openSession
  call
    | .screenshot, _, state => ⟨.error (.webDriver "unknown error" "busy"), 50, state⟩
    | .close, _, state => ⟨.error (.webDriver "unknown error" "busy"), 50, state⟩
    | asked, now, state => host.call asked now state

theorem Host.agreeAtWork_clinging (host : Host σ) : host.AgreeAtWork host.clinging := by
  intro call working
  cases call with
  | screenshot => cases working
  | close => cases working
  | _ => rfl

/-- Options of a run that tells everything and keeps no screenshots. -/
def RunOptions.talkative : RunOptions := { RunOptions.plain with verbose := true, quiet := false }

/-- The tour fails at its second step when every search is refused, with every detail told as well
as in silence. -/
theorem Run.agrees_of_sameTest_refusing :
    let ended (host : Host Unit) (options : RunOptions) : Except Breakdown Report :=
      ((Run.scenario options .tour).run.run host (World.start () [])).1
    Host.refusing.AgreeAtWork Host.refusing.clinging ∧
      RunOptions.talkative.SameTest .photographing ∧
      (∃ report, ended Host.refusing .talkative = .ok report ∧ report.failedStep? = some 2) ∧
      ∃ report, ended Host.refusing.clinging .photographing = .ok report ∧
        report.failedStep? = some 2 := by
  intro ended
  have agree := Host.agreeAtWork_clinging Host.refusing
  have same : RunOptions.talkative.SameTest .photographing := ⟨_, _, _, rfl⟩
  have told : (ended Host.refusing.clinging .photographing).map Report.failedStep? =
      .ok (some 2) := by rfl
  obtain ⟨report', reported', second'⟩ := ok_of_map told
  obtain ⟨_, _, _, -, -, -, -, -, -, agreeing⟩ :=
    Run.agrees_of_sameTest agree same .tour (World.start () [])
  have agreed : Run.AgreeingEnds (ended Host.refusing .talkative) (.ok report') :=
    reported' ▸ agreeing
  refine ⟨agree, same, ?_, report', reported', second'.symm⟩
  generalize ended Host.refusing .talkative = first at agreed
  cases agreed with
  | @reported report _ agrees => exact ⟨report, rfl, agrees.failedStep.trans second'.symm⟩

end ScenarioRunner
