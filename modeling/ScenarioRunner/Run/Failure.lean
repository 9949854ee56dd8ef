import ScenarioRunner.Error
import ScenarioRunner.Scenario.Basic

/-!
Why steps fail, and how a failure is reported.
-/

namespace ScenarioRunner

/-- What the last look for a chain showed when it was not found in time. -/
inductive Absence where
  | noMatch (link : Link)
  | lookupFailed (error : Error)
deriving DecidableEq, Repr

def Absence.message : Absence → String
  | .noMatch link => s!"no element matched {link.display}"
  | .lookupFailed error => s!"last lookup failed: {error.message}"

/-- What the last look for a chain showed when it did not go away in time. -/
inductive Presence where
  | matched (count : Nat)
  | lookupFailed (error : Error)
deriving DecidableEq, Repr

def Presence.message : Presence → String
  | .matched count => s!"still matched {count} element(s), expected none"
  | .lookupFailed error =>
    s!"could not confirm it is gone, last lookup failed: {error.message}"

/-- What ends a step. -/
inductive Fault where
  | refused (error : Error)
  | badKeys (error : Error)
  | neverLocated (name : String)
  | misplacedName (name : String)
  | notFound (timeout : Nat) (chain : Chain) (reason : Absence)
  | notGone (timeout : Nat) (chain : Chain) (reason : Presence)
  | otherUrl (timeout : Nat) (fragment url : String)
  | notPerformed (interaction : Interaction) (chain : Chain) (error : Error)
deriving DecidableEq, Repr

namespace Fault

def message : Fault → String
  | .refused error => error.message
  | .badKeys error => error.message
  | .neverLocated name => s!"alias '@{name}' was never located"
  | .misplacedName name => s!"alias '@{name}' must start the target"
  | .notFound timeout chain reason =>
    s!"Timed out after {timeout}ms waiting for {Chain.display chain}: {reason.message}"
  | .notGone timeout chain reason =>
    s!"Timed out after {timeout}ms: {Chain.display chain} {reason.message}"
  | .otherUrl timeout fragment url =>
    s!"Timed out after {timeout}ms: expected URL to contain '{fragment}', got '{url}'"
  | .notPerformed interaction chain error =>
    s!"Could not {interaction.display} {Chain.display chain}: {error.message}"

end Fault

/-- A failure carries the number of its step, or is an error that is reported as it came. -/
inductive Failure where
  | numbered (step : Nat) (fault : Fault)
  | bare (error : Error)
deriving DecidableEq, Repr

def Failure.toError : Failure → Error
  | .numbered step fault => .stepFailure step fault.message
  | .bare error => error

def Failure.message (failure : Failure) : String := failure.toError.message

/-- Steps that look for elements to keep or to act on report errors of others as they came. -/
def Step.reportsBare : Step → Bool
  | .locate _ _ _ => true
  | .interact _ _ _ => true
  | _ => false

/-- The report of a fault that ended a step. An error that already carries the number of a step is
reported as it came. -/
def Fault.failure (number : Nat) (step : Step) (fault : Fault) : Failure :=
  match fault with
  | .refused error =>
    if step.reportsBare || error.isStepFailure then .bare error else .numbered number fault
  | .badKeys error => if step.reportsBare then .bare error else .numbered number fault
  | fault => .numbered number fault

end ScenarioRunner
