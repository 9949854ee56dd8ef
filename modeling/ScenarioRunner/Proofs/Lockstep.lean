import Mathlib.Data.List.Forall2
import ScenarioRunner.Proofs.Numbering
import ScenarioRunner.Proofs.Outlasting
import ScenarioRunner.Proofs.Persistence

/-!
Runs with longer windows beside runs with shorter ones. They go in step up to the step that fails in
its shorter window, unless a longer window would close later than the clock can show.
-/

namespace ScenarioRunner

variable {σ : Type} {host : Host σ}

namespace Run

section Longer

variable {options options' : RunOptions} {list list' : List Step} {before : World σ}

end Longer

end Run

/-- A window that the clock cannot close is not waited in at all. -/
example : (Program.run Host.agreeable
    (Run.scenario { RunOptions.plain with defaultTimeout := clockEnd } .tour).run
      (.start () [])).1 = .error (.beyondClock 0 clockEnd) := by
  rfl

end ScenarioRunner
