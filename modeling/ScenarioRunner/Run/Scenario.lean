import ScenarioRunner.Run.Executor
import ScenarioRunner.Run.Report

/-!
The run of a whole scenario: its steps up to the first failure, a screenshot of what the failure left,
and the end of the session.
-/

namespace ScenarioRunner

/-- A step that failed. -/
structure FailedStep where
  number : Nat
  step : Step
  failure : Failure
deriving DecidableEq, Repr

namespace Run

open Text

/-- The heading of a run. -/
def heading (scenario : Scenario) : Styled :=
  [plain "\n", boldly .blue "Running Scenario:", plain " ", boldly .white scenario.name,
    plain "\n"] ++
  (match scenario.description with
    | some description => [plain "  ", dimmed description, plain "\n"]
    | none => []) ++
  [plain "\n", coloured .cyan "Steps:", plain "\n"]

def passedStepLine (number : Nat) (step : Step) : Styled :=
  [plain "  ", coloured .green "✓", plain s!" Step {number}: ", dimmed step.display, plain "\n"]

def failedStepLines (failed : FailedStep) : Styled :=
  [plain "  ", coloured .red "✗", plain s!" Step {failed.number}: {failed.step.display}\n    ",
    coloured .red failed.failure.message, plain "\n"]

def screenshotLine (path : Path) : Styled :=
  [plain "    Screenshot: ", dimmed path.display, plain "\n"]

/-- The closing lines of a run. -/
def closing (colour : Colour) (mark words : String) : Styled :=
  [plain "\n", boldly colour mark, plain " ", boldly colour words, plain "\n\n"]

/-- The steps in order up to the first that fails. -/
def steps (options : RunOptions) :
    Executor → List Step → Attempt Breakdown (Option FailedStep)
  | _, [] => return none
  | executor, step :: rest => do
    let (result, next) ← executor.execute options step
    match result with
    | .ok () =>
      Program.printIf (!options.quiet) (passedStepLine next.stepNumber step)
      steps options next rest
    | .error failure =>
      let failed : FailedStep := ⟨next.stepNumber, step, failure⟩
      Program.printIf (!options.quiet) (failedStepLines failed)
      return some failed

/-- Letters, digits, dashes and underscores of a name are kept in the name of a file. -/
def fileName (name : String) : String :=
  String.ofList (name.toList.map fun c => if c.isAlphanum || c == '-' || c == '_' then c else '_')

/-- The screenshot of a failed step names the scenario and the step. -/
def screenshotPath (directory : Path) (scenarioName : String) (number : Nat) : Path :=
  joinPath directory s!"{fileName scenarioName}-step{number}.png"

/-- A screenshot that cannot be taken or written is left out. -/
def saveScreenshot (directory : Path) (scenarioName : String) (number : Nat) :
    Program (Option Path) := do
  match ← Program.call .screenshot with
  | .error _ => return none
  | .ok image =>
    match ← Program.createDirectory directory with
    | .error _ => return none
    | .ok () =>
      let path := screenshotPath directory scenarioName number
      match ← Program.writeFile path image with
      | .error _ => return none
      | .ok () => return some path

/-- A screenshot is saved after a failure when there is a directory for it. -/
def screenshotOf (options : RunOptions) (scenario : Scenario) (failed : Option FailedStep) :
    Program (Option Path) :=
  match failed, options.screenshotDirectory with
  | some failed, some directory => saveScreenshot directory scenario.name failed.number
  | _, _ => return none

/-- The verdict and the lines that tell it. -/
def conclude (options : RunOptions) (failed : Option FailedStep) (screenshot : Option Path) :
    Program Verdict := do
  match failed with
  | none =>
    Program.printIf (!options.quiet) (closing .green "✓" "Scenario Passed")
    return .passed
  | some failed =>
    match screenshot with
    | some path => Program.printIf (!options.quiet) (screenshotLine path)
    | none => pure ()
    Program.printIf (!options.quiet) (closing .red "✗" "Scenario Failed")
    let error := s!"{failed.failure.message} ({failed.step.display})"
    return .failed failed.number error screenshot

/-- What follows the steps. The session is closed whatever the outcome, and a refusal to close changes
nothing. -/
def ending (options : RunOptions) (scenario : Scenario) (started : Nat)
    (failed : Option FailedStep) : Program Report := do
  let screenshot ← screenshotOf options scenario failed
  let _ ← Program.call .close
  let finished ← Program.clock
  let verdict ← conclude options failed screenshot
  return {
    name := scenario.name
    stepsTotal := scenario.steps.length
    verdict
    duration := finished - started }

/-- A scenario from its first step to the end of its session. -/
def scenario (options : RunOptions) (scenario : Scenario) : Attempt Breakdown Report := do
  let started ← Program.clock
  Program.printIf (!options.quiet) (heading scenario)
  let failed ← steps options Executor.start scenario.steps
  ending options scenario started failed

end Run

end ScenarioRunner
