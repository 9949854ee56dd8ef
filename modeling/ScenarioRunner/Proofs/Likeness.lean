import ScenarioRunner.Proofs.Ending

/-!
Runs that begin in worlds that are alike. A run that is at the same step in both ends in the same way.
-/

namespace ScenarioRunner

variable {σ : Type} {host : Host σ}

/-- The first of several steps is attempted. The others follow when it passes, and when it fails or
breaks down the run of the steps is over. -/
theorem Run.runs_steps_cons {options : RunOptions} {executor : Executor} {step : Step}
    {rest : List Step} {before after : World σ} {journal : List JournalEntry}
    {ended : Except Breakdown (Option FailedStep)}
    (ran : (Run.steps options executor (step :: rest)).Runs host before journal after ended) :
    ∃ opened first middle outcome, before.Alike opened ∧
      Attempt.Runs host (Attempt.perform options executor.stored step) opened first middle
        outcome ∧ calls first <+: calls journal ∧
      match outcome with
      | .ok stored => ∃ resumed later, middle.Alike resumed ∧
          (Run.steps options ⟨stored, executor.stepNumber + 1⟩ rest).Runs host resumed later after
            ended ∧
          calls journal = calls first ++ calls later
      | .error (.failed fault) => middle.Alike after ∧ calls journal = calls first ∧
          ended = .ok (some ⟨executor.stepNumber + 1, step,
            fault.failure (executor.stepNumber + 1) step⟩)
      | .error (.broken breakdown) => middle.Alike after ∧ calls journal = calls first ∧
          ended = .error breakdown := by
  obtain ⟨_, middle, executed, ran_step, continued⟩ := Run.executed_of_steps ran
  obtain ⟨opened, first, outcome, rfl, opens, attempted, rfl⟩ :=
    Executor.attempted_of_execute ran_step
  refine ⟨opened, first, middle, outcome, opens, attempted, ?_⟩
  rcases outcome with (fault | breakdown) | stored
  · obtain ⟨stops, rfl, rfl⟩ := continued
    exact ⟨by simp, stops, by simp, rfl⟩
  · obtain ⟨rfl, rfl, rfl⟩ := continued
    exact ⟨by simp, .refl _, by simp, rfl⟩
  · obtain ⟨resumed, later, resumes, resumption, rfl⟩ := continued
    exact ⟨by simp, resumed, later, resumes, resumption, by simp⟩

namespace Run

/-- A screenshot depends on the number of the step that failed, not on what the step was. -/
theorem screenshotOf_congr {options options' : RunOptions} {scenario scenario' : Scenario}
    {failed failed' : Option FailedStep}
    (directories : options.screenshotDirectory = options'.screenshotDirectory)
    (names : scenario.name = scenario'.name)
    (numbers : failed.map FailedStep.number = failed'.map FailedStep.number) :
    screenshotOf options scenario failed = screenshotOf options' scenario' failed' := by
  unfold screenshotOf
  rw [directories, names]
  cases failed with
  | none =>
      obtain rfl : failed' = none := Option.map_eq_none_iff.mp numbers.symm
      rfl
  | some stopped =>
      obtain ⟨stopped', rfl, same⟩ := Option.map_eq_some_iff.mp numbers.symm
      cases options'.screenshotDirectory with
      | none => rfl
      | some directory => simp only [same]

/-- Two runs that come to their end in the same way part with the same calls, and each tells of the
step that failed in it. -/
theorem ending_alike {options options' : RunOptions} {scenario scenario' : Scenario}
    {failed failed' : Option FailedStep} {started : Nat} {before before' after after' : World σ}
    {journal journal' : List JournalEntry} {report report' : Report}
    (directories : options.screenshotDirectory = options'.screenshotDirectory)
    (names : scenario.name = scenario'.name)
    (numbers : failed.map FailedStep.number = failed'.map FailedStep.number)
    (alike : before.Alike before')
    (ran : (ending options scenario started failed).Runs host before journal after report)
    (again : (ending options' scenario' started failed').Runs host before' journal' after'
      report') :
    journal = journal' ∧ report.duration = report'.duration ∧
      report.verdict.Tells failed ∧ report'.verdict.Tells failed' := by
  unfold ending at ran again
  rw [← screenshotOf_congr directories names numbers] at again
  obtain ⟨first, _, _, _, saved, fromClose, rfl⟩ := Program.runs_bind_iff.mp ran
  obtain ⟨first', _, _, _, saved', fromClose', rfl⟩ := Program.runs_bind_iff.mp again
  obtain ⟨rfl, rfl, still⟩ := saved.alike alike saved'
  obtain ⟨closing, _, _, _, closed, fromClock, rfl⟩ := Program.runs_bind_iff.mp fromClose
  obtain ⟨closing', _, _, _, closed', fromClock', rfl⟩ := Program.runs_bind_iff.mp fromClose'
  obtain ⟨rfl, rfl, ends⟩ := closed.alike still closed'
  obtain ⟨_, _, finished, _, read, fromVerdict, rfl⟩ := Program.runs_bind_iff.mp fromClock
  obtain ⟨_, _, finished', _, read', fromVerdict', rfl⟩ := Program.runs_bind_iff.mp fromClock'
  obtain ⟨rfl, rfl, -⟩ := read.alike ends read'
  obtain ⟨_, _, verdict, _, concluded, reported, rfl⟩ := Program.runs_bind_iff.mp fromVerdict
  obtain ⟨_, _, verdict', _, concluded', reported', rfl⟩ := Program.runs_bind_iff.mp fromVerdict'
  obtain ⟨rfl, -, rfl⟩ := runs_conclude concluded
  obtain ⟨rfl, -, rfl⟩ := runs_conclude concluded'
  obtain ⟨rfl, rfl, rfl⟩ := Program.runs_pure_iff.mp reported
  obtain ⟨rfl, rfl, rfl⟩ := Program.runs_pure_iff.mp reported'
  exact ⟨rfl, rfl, Verdict.tells_on _ _, Verdict.tells_on _ _⟩

end Run

/-- The verdict tells the number of the step that failed. -/
theorem Verdict.Tells.failedStep {report : Report} {failed : Option FailedStep}
    (tells : report.verdict.Tells failed) : report.failedStep? = failed.map FailedStep.number := by
  cases failed with
  | none =>
      have passed : report.verdict = .passed := tells
      simp only [Report.failedStep?, passed, Option.map_none]
  | some stopped =>
      obtain ⟨screenshot, failed⟩ := tells
      simp only [Report.failedStep?, failed, Option.map_some]

/-- What is reported of the step that failed, apart from the step itself. -/
def FailedStep.told (failed : FailedStep) : Nat × Failure := (failed.number, failed.failure)

/-- What can be seen of the steps of a run: their calls, and the number and the failure of the step
that fails, or the breakdown. -/
def Run.seen (host : Host σ) (options : RunOptions) (list : List Step) (before : World σ) :
    List CallRecord × Except Breakdown (Option (Nat × Failure)) :=
  let steps : Program (Except Breakdown (Option FailedStep)) := (Run.steps options .start list).run
  (calls (steps.log host before), (steps.run host before).1.map (Option.map FailedStep.told))

theorem Run.failedStep_ending {options : RunOptions} {scenario : Scenario} {started : Nat}
    {failed : Option FailedStep} {before after : World σ} {journal : List JournalEntry}
    {report : Report}
    (ran : (Run.ending options scenario started failed).Runs host before journal after report) :
    report.failedStep? = failed.map FailedStep.number := by
  obtain ⟨_, screenshot, _, _, _, -, -, -, -, verdict⟩ := Run.runs_ending ran
  exact Verdict.Tells.failedStep (verdict ▸ Verdict.tells_on failed screenshot)

end ScenarioRunner
