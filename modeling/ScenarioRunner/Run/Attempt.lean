import ScenarioRunner.Run.Program

/-!
Programs that may end early: with a cause that can be told, or because the run as a whole breaks
down.
-/

namespace ScenarioRunner

/-- What ends a run without a result. A window would close later than the clock can show, there is no
element where one is taken for granted, or a wait that takes no time comes to no end. -/
inductive Breakdown where
  | beyondClock (opened timeout : Nat)
  | nothingToActOn
  | unending
deriving DecidableEq, Repr

/-- What ends an attempt that may break down. -/
inductive Stop (ε : Type) where
  | failed (cause : ε)
  | broken (breakdown : Breakdown)
deriving DecidableEq, Repr

/-- A program that something may end early. -/
abbrev Attempt (ε α : Type) := ExceptT ε Program α

namespace Attempt

variable {ε ε' α : Type}

/-- The end of an attempt as a value. -/
def outcome (attempt : Attempt ε α) : Attempt ε' (Except ε α) :=
  ExceptT.mk (Except.ok <$> attempt.run)

/-- An attempt that never breaks down, among those that may. -/
def failing (attempt : Attempt ε α) : Attempt (Stop ε) α := attempt.adapt .failed

/-- An attempt that does not fail, among those that may. -/
def breaking (attempt : Attempt Breakdown α) : Attempt (Stop ε) α := attempt.adapt .broken

end Attempt

end ScenarioRunner
