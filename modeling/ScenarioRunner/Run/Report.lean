import ScenarioRunner.Error
import ScenarioRunner.Files
import ScenarioRunner.Json.Writer

/-!
What is reported of a scenario that was run.
-/

namespace ScenarioRunner

/-- A scenario passes, or fails at a step whose error is told together with the step. -/
inductive Verdict where
  | passed
  | failed (step : Nat) (error : String) (screenshot : Option Path)
deriving DecidableEq, Repr

structure Report where
  name : String
  stepsTotal : Nat
  verdict : Verdict
  duration : Nat
deriving DecidableEq, Repr

namespace Report

def passed (report : Report) : Bool := report.verdict == .passed

/-- A scenario that fails runs no further than the failing step. -/
def stepsRun (report : Report) : Nat :=
  match report.verdict with
  | .passed => report.stepsTotal
  | .failed step _ _ => step

def failedStep? (report : Report) : Option Nat :=
  match report.verdict with
  | .passed => none
  | .failed step _ _ => some step

def error? (report : Report) : Option String :=
  match report.verdict with
  | .passed => none
  | .failed _ error _ => some error

def screenshot? (report : Report) : Option Path :=
  match report.verdict with
  | .passed => none
  | .failed _ _ screenshot => screenshot

/-- A path as data has to be a text. -/
def pathJson (path : Path) : Except Error Json :=
  match path.text? with
  | some text => .ok (.text text)
  | none => .error (.json "path contains invalid UTF-8 characters")

/-- The fields of a report in the order in which they are written. -/
def toJson (report : Report) : Except Error Json := do
  let screenshot ← report.screenshot?.mapM pathJson
  return .object [
    ("name", .text report.name),
    ("passed", .bool report.passed),
    ("steps_run", .nat report.stepsRun),
    ("steps_total", .nat report.stepsTotal),
    ("failed_step", .ofOption (report.failedStep?.map .nat)),
    ("error", .ofTextOption report.error?),
    ("screenshot", .ofOption screenshot),
    ("duration_ms", .nat report.duration)]

end Report

end ScenarioRunner
