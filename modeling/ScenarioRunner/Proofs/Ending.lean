import ScenarioRunner.Proofs.Stepping

/-!
What a run does after its steps: a screenshot of a failure, the end of the session and the report.
-/

namespace ScenarioRunner

variable {σ : Type} {host : Host σ}

/-- A call leaves the files as they are. -/
theorem Program.files_call {call : Call} {before after : World σ} {journal : List JournalEntry}
    {outcome : call.Outcome} (ran : (Program.call call).Runs host before journal after outcome) :
    after.files = before.files := by
  obtain ⟨enacted, -⟩ := runs_ask_iff.mp ran
  obtain ⟨-, rfl⟩ := Prod.mk.inj enacted
  rfl

/-- A change that succeeds has made the files what they are. -/
theorem World.changed_of_change {world after : World σ} {result : Except FileError FileTree}
    (changed : world.change result = (.ok (), after)) : result = .ok after.files := by
  cases result with
  | error reason => cases changed
  | ok files =>
      cases changed
      rfl

/-- What follows the steps of a run before the session ends: a screenshot perhaps. -/
def JournalEntry.IsParting : JournalEntry → Prop
  | .call _ _ .screenshot _ => True
  | _ => False

/-- The verdict tells of the step that failed. -/
def Verdict.Tells (verdict : Verdict) : Option FailedStep → Prop
  | none => verdict = .passed
  | some stopped => ∃ screenshot, verdict =
      .failed stopped.number s!"{stopped.failure.message} ({stopped.step.display})" screenshot

/-- The verdict on a run with the screenshot of its failure. -/
def Verdict.on (failed : Option FailedStep) (screenshot : Option Path) : Verdict :=
  match failed with
  | none => .passed
  | some stopped =>
    .failed stopped.number s!"{stopped.failure.message} ({stopped.step.display})" screenshot

theorem Verdict.tells_on (failed : Option FailedStep) (screenshot : Option Path) :
    (Verdict.on failed screenshot).Tells failed := by
  cases failed with
  | none => rfl
  | some stopped => exact ⟨screenshot, rfl⟩

/-- The screenshot that a run takes of a failure when there is a directory for it. Its path is told only
when the file there holds the image. -/
structure Photographed (options : RunOptions) (failed : Option FailedStep) (files : FileTree)
    (shots : List JournalEntry) (screenshot : Option Path) : Prop where
  parting : ∀ entry ∈ shots, entry.IsParting
  called : (calls shots).map CallRecord.call =
    if failed.isSome ∧ options.screenshotDirectory.isSome then [.screenshot] else []
  saved : ∀ place, screenshot = some place → failed.isSome ∧ ∃ started finished image,
    calls shots = [⟨started, finished, .screenshot, .ok image⟩] ∧ files.read place = .ok image

/-- Only a failure is photographed. -/
theorem Photographed.eq_nil {options : RunOptions} {files : FileTree} {shots : List JournalEntry}
    {screenshot : Option Path} (taken : Photographed options none files shots screenshot) :
    shots = [] := by
  cases shots with
  | nil => rfl
  | cons entry rest =>
      have parting := taken.parting entry List.mem_cons_self
      cases entry with
      | call started finished asked outcome => cases taken.called
      | _ => exact parting.elim

namespace Run

/-- A screenshot is one call. A path is told only when the file there holds the image. -/
theorem runs_saveScreenshot {directory : Path} {name : String} {number : Nat} {before after : World σ}
    {journal : List JournalEntry} {path : Option Path}
    (ran : (saveScreenshot directory name number).Runs host before journal after path) :
    ∃ started finished outcome, journal = [.call started finished .screenshot outcome] ∧
      ∀ place, path = some place →
        ∃ image, outcome = .ok image ∧ after.files.read place = .ok image := by
  obtain ⟨_, taken, outcome, _, called, continued, rfl⟩ := Program.runs_bind_iff.mp ran
  obtain ⟨rfl, -, -, -⟩ := Program.runs_call called
  refine ⟨before.now, taken.now, outcome, ?_⟩
  cases outcome with
  | error error =>
      obtain ⟨rfl, rfl, rfl⟩ := Program.runs_pure_iff.mp continued
      exact ⟨rfl, nofun⟩
  | ok image =>
      obtain ⟨_, _, made, _, created, placed, rfl⟩ := Program.runs_bind_iff.mp continued
      obtain ⟨-, rfl⟩ := Program.runs_ask_iff.mp created
      cases made with
      | error reason =>
          obtain ⟨rfl, rfl, rfl⟩ := Program.runs_pure_iff.mp placed
          exact ⟨rfl, nofun⟩
      | ok value =>
          obtain ⟨_, _, saved, _, wrote, told, rfl⟩ := Program.runs_bind_iff.mp placed
          obtain ⟨enacted, rfl⟩ := Program.runs_ask_iff.mp wrote
          cases saved with
          | error reason =>
              obtain ⟨rfl, rfl, rfl⟩ := Program.runs_pure_iff.mp told
              exact ⟨rfl, nofun⟩
          | ok value =>
              obtain ⟨rfl, rfl, rfl⟩ := Program.runs_pure_iff.mp told
              refine ⟨rfl, ?_⟩
              rintro place ⟨⟩
              exact ⟨image, rfl, FileTree.read_of_write (World.changed_of_change enacted)⟩

theorem photographed_of_screenshotOf {options : RunOptions} {scenario : Scenario}
    {failed : Option FailedStep} {before after : World σ} {journal : List JournalEntry}
    {path : Option Path}
    (ran : (screenshotOf options scenario failed).Runs host before journal after path) :
    Photographed options failed after.files journal path := by
  cases failed with
  | none =>
      obtain ⟨rfl, rfl, rfl⟩ := Program.runs_pure_iff.mp ran
      exact ⟨nofun, rfl, nofun⟩
  | some stopped =>
      cases directory : options.screenshotDirectory with
      | none =>
          simp only [screenshotOf, directory] at ran
          obtain ⟨rfl, rfl, rfl⟩ := Program.runs_pure_iff.mp ran
          exact ⟨nofun, by simp [directory], nofun⟩
      | some place =>
          simp only [screenshotOf, directory] at ran
          obtain ⟨started, finished, outcome, rfl, saved⟩ := runs_saveScreenshot ran
          refine ⟨?_, by simp [directory], fun place told => ?_⟩
          · simp [JournalEntry.IsParting]
          · obtain ⟨image, rfl, held⟩ := saved place told
            exact ⟨rfl, started, finished, image, rfl, held⟩

theorem runs_conclude {options : RunOptions} {failed : Option FailedStep}
    {screenshot : Option Path} {before after : World σ} {journal : List JournalEntry}
    {verdict : Verdict}
    (ran : (conclude options failed screenshot).Runs host before journal after verdict) :
    journal = [] ∧ before.Alike after ∧ verdict = .on failed screenshot := by
  cases failed with
  | none =>
      obtain ⟨_, _, _, _, printed, told, rfl⟩ := Program.runs_bind_iff.mp ran
      have still := Program.alike_printIf printed
      obtain ⟨rfl, -, -⟩ := Program.runs_printIf printed
      obtain ⟨rfl, rfl, rfl⟩ := Program.runs_pure_iff.mp told
      exact ⟨rfl, still, rfl⟩
  | some stopped =>
      have announced : ∃ middle rest, before.Alike middle ∧ journal = rest ∧
          (do
            Program.printIf (!options.quiet) (closing .red "✗" "Scenario Failed")
            let error := s!"{stopped.failure.message} ({stopped.step.display})"
            return Verdict.failed stopped.number error screenshot).Runs host middle rest after
              verdict := by
        cases screenshot with
        | none => exact ⟨before, journal, .refl _, rfl, ran⟩
        | some path =>
            obtain ⟨_, middle, _, rest, shown, continued, rfl⟩ := Program.runs_bind_iff.mp ran
            have still := Program.alike_printIf shown
            obtain ⟨rfl, -, -⟩ := Program.runs_printIf shown
            exact ⟨middle, rest, still, rfl, continued⟩
      obtain ⟨middle, _, still, rfl, continued⟩ := announced
      obtain ⟨_, _, _, _, printed, told, rfl⟩ := Program.runs_bind_iff.mp continued
      have ends := Program.alike_printIf printed
      obtain ⟨rfl, -, -⟩ := Program.runs_printIf printed
      obtain ⟨rfl, rfl, rfl⟩ := Program.runs_pure_iff.mp told
      exact ⟨rfl, still.trans ends, rfl⟩

/-- After its steps a run takes the screenshot of a failure, closes the session and reports. -/
theorem parts_of_ending {options : RunOptions} {scenario : Scenario} {started : Nat}
    {failed : Option FailedStep} {before after : World σ} {journal : List JournalEntry}
    {report : Report}
    (ran : (ending options scenario started failed).Runs host before journal after report) :
    ∃ shots photographed screenshot asked closed outcome,
      (screenshotOf options scenario failed).Runs host before shots photographed screenshot ∧
      after.files = photographed.files ∧ journal = shots ++ [.call asked closed .close outcome] ∧
      report.name = scenario.name ∧ report.stepsTotal = scenario.steps.length ∧
      report.verdict = .on failed screenshot := by
  obtain ⟨shots, photographed, screenshot, _, saved, fromClose, rfl⟩ :=
    Program.runs_bind_iff.mp ran
  obtain ⟨_, closed, outcome, _, closes, fromClock, rfl⟩ := Program.runs_bind_iff.mp fromClose
  have same_files := Program.files_call closes
  obtain ⟨rfl, -, -, -⟩ := Program.runs_call closes
  obtain ⟨_, ended, finished, _, read, fromVerdict, rfl⟩ := Program.runs_bind_iff.mp fromClock
  obtain ⟨rfl, rfl, rfl⟩ := Program.runs_clock read
  obtain ⟨_, _, verdict, _, concluded, reported, rfl⟩ := Program.runs_bind_iff.mp fromVerdict
  obtain ⟨rfl, still, rfl⟩ := runs_conclude concluded
  obtain ⟨rfl, rfl, rfl⟩ := Program.runs_pure_iff.mp reported
  exact ⟨shots, photographed, screenshot, photographed.now, ended.now, outcome, saved,
    still.files.symm.trans same_files, rfl, rfl, rfl, rfl⟩

theorem runs_ending {options : RunOptions} {scenario : Scenario} {started : Nat}
    {failed : Option FailedStep} {before after : World σ} {journal : List JournalEntry}
    {report : Report}
    (ran : (ending options scenario started failed).Runs host before journal after report) :
    ∃ shots screenshot asked closed outcome,
      journal = shots ++ [.call asked closed .close outcome] ∧
      Photographed options failed after.files shots screenshot ∧ report.name = scenario.name ∧
      report.stepsTotal = scenario.steps.length ∧ report.verdict = .on failed screenshot := by
  obtain ⟨shots, photographed, screenshot, asked, closed, outcome, saved, same_files, parted, told⟩ :=
    parts_of_ending ran
  have taken := photographed_of_screenshotOf saved
  rw [← same_files] at taken
  exact ⟨shots, screenshot, asked, closed, outcome, parted, taken, told⟩

/-- The world in which the first step of a run begins, below the heading. -/
def opening (host : Host σ) (options : RunOptions) (scenario : Scenario) (before : World σ) :
    World σ :=
  ((Program.printIf (!options.quiet) (heading scenario)).run host before).2

theorem alike_opening (host : Host σ) (options : RunOptions) (scenario : Scenario)
    (before : World σ) : before.Alike (opening host options scenario before) :=
  Program.alike_printIf (Program.runs_run host _ before)

/-- A run goes through its steps and ends, or breaks down in them. -/
theorem parts_of_scenario {options : RunOptions} {scenario : Scenario} {before after : World σ}
    {journal : List JournalEntry} {ended : Except Breakdown Report}
    (ran : (Run.scenario options scenario).Runs host before journal after ended) :
    ∃ first middle stepped,
      (steps options Executor.start scenario.steps).Runs host
        (opening host options scenario before) first middle stepped ∧
      match stepped with
      | .ok failed => ∃ last report,
          (ending options scenario before.now failed).Runs host middle last after report ∧
          journal = first ++ last ∧ ended = .ok report
      | .error breakdown => middle = after ∧ journal = first ∧ ended = .error breakdown := by
  obtain ⟨_, _, _, _, started, fromHeading, rfl⟩ := Attempt.runs_lift_bind_iff.mp ran
  obtain ⟨rfl, rfl, rfl⟩ := Program.runs_clock started
  obtain ⟨_, opened, _, _, headed, fromSteps, rfl⟩ := Attempt.runs_lift_bind_iff.mp fromHeading
  have opens : opening host options scenario _ = opened := congrArg Prod.snd headed.result
  obtain ⟨rfl, -, -⟩ := Program.runs_printIf headed
  subst opens
  rcases Attempt.runs_bind_iff.mp fromSteps with ⟨breakdown, stepped, rfl⟩ | ⟨first, middle, failed,
    last, stepped, ends, rfl⟩
  · exact ⟨_, after, .error breakdown, stepped, rfl, rfl, rfl⟩
  · obtain ⟨report, ended, rfl⟩ := Attempt.runs_lift_iff.mp ends
    exact ⟨first, middle, .ok failed, stepped, last, report, ended, rfl, rfl⟩

/-- A run that comes to its report goes through its steps before it ends. -/
theorem ending_of_scenario {options : RunOptions} {scenario : Scenario} {before after : World σ}
    {journal : List JournalEntry} {report : Report}
    (ran : (Run.scenario options scenario).Runs host before journal after (.ok report)) :
    ∃ first middle failed last,
      (steps options Executor.start scenario.steps).Runs host
        (opening host options scenario before) first middle (.ok failed) ∧
      (ending options scenario before.now failed).Runs host middle last after report ∧
      journal = first ++ last := by
  obtain ⟨first, middle, stepped, ran_steps, followed⟩ := parts_of_scenario ran
  cases stepped with
  | error breakdown =>
      obtain ⟨-, -, impossible⟩ := followed
      cases impossible
  | ok failed =>
      obtain ⟨last, _, ended, rfl, same⟩ := followed
      cases same
      exact ⟨first, middle, failed, last, ran_steps, ended, rfl⟩

/-- A run begins where its first step begins, goes through its steps and ends. -/
theorem steps_of_scenario {options : RunOptions} {scenario : Scenario} {before after : World σ}
    {journal : List JournalEntry} {report : Report}
    (ran : (Run.scenario options scenario).Runs host before journal after (.ok report)) :
    ∃ opened first middle failed last, before.Alike opened ∧
      (steps options Executor.start scenario.steps).Runs host opened first middle (.ok failed) ∧
      (ending options scenario before.now failed).Runs host middle last after report ∧
      journal = first ++ last := by
  obtain ⟨first, middle, failed, last, stepped, ended, recorded⟩ := ending_of_scenario ran
  exact ⟨_, first, middle, failed, last, alike_opening host options scenario before, stepped,
    ended, recorded⟩

/-- A run goes through its steps, parts and tells what came of them. -/
theorem runs_scenario {options : RunOptions} {scenario : Scenario} {before after : World σ}
    {journal : List JournalEntry} {report : Report}
    (ran : (Run.scenario options scenario).Runs host before journal after (.ok report)) :
    ∃ middle entries failed parting started finished outcome,
      (steps options Executor.start scenario.steps).Runs host
        (opening host options scenario before) entries middle (.ok failed) ∧
      journal = entries ++ (parting ++ [.call started finished .close outcome]) ∧
      (∀ entry ∈ parting, entry.IsParting) ∧ (failed = none → parting = []) ∧
      report.verdict.Tells failed := by
  obtain ⟨first, middle, failed, _, stepped, ended, rfl⟩ := ending_of_scenario ran
  obtain ⟨shots, screenshot, asked, closed, outcome, rfl, taken, -, -, verdict⟩ := runs_ending ended
  refine ⟨middle, first, failed, shots, asked, closed, outcome, stepped, rfl, taken.parting, ?_, ?_⟩
  · rintro rfl
    exact taken.eq_nil
  · rw [verdict]
    exact Verdict.tells_on failed screenshot

end Run

end ScenarioRunner
