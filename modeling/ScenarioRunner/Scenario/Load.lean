import ScenarioRunner.Scenario.Builtin
import ScenarioRunner.Scenario.Decode
import ScenarioRunner.Scenario.Interpolation
import ScenarioRunner.Scenario.Wellformed

/-!
From a text to a scenario that may run.
-/

namespace ScenarioRunner.Scenario

/-- A scenario is read, its references are replaced, and what comes of that has to keep the rules. -/
def fromYaml (text : String) : Except Error Scenario := do
  let raw ← (ofYaml text).mapError fun reason => Error.scenarioParse reason.message
  let scenario ← raw.interpolated
  scenario.validate
  return scenario

/-- A scenario that comes with the program. -/
def builtin (name : String) : Except Error Scenario := do
  fromYaml (← BuiltinScenario.source name)

end ScenarioRunner.Scenario
