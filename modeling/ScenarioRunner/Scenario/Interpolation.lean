import ScenarioRunner.Scenario.Basic

/-!
Substitution of the constants of a scenario in its texts. Names of stored chains are not texts.
-/

namespace ScenarioRunner

namespace Link

/-- The argument of a link is replaced; a stored chain keeps its name. -/
def interpolated (vars : Variables) : Link → Except Error Link
  | .get selector => .get <$> interpolate vars selector
  | .find selector => .find <$> interpolate vars selector
  | .contains text => .contains <$> interpolate vars text
  | .parent => .ok .parent
  | .stored name => .ok (.stored name)

end Link

/-- The first link whose text cannot be replaced decides the error. -/
def Chain.interpolated (vars : Variables) (chain : Chain) : Except Error Chain :=
  chain.mapM (Link.interpolated vars)

/-- Only typed text is a text. -/
def Interaction.interpolated (vars : Variables) : Interaction → Except Error Interaction
  | .typeText text => .typeText <$> interpolate vars text
  | .click => .ok .click
  | .clear => .ok .clear
  | .reveal => .ok .reveal

/-- The target of a step is replaced before its typed texts. -/
def Step.interpolated (vars : Variables) : Step → Except Error Step
  | .navigate url => .navigate <$> interpolate vars url
  | .locate target storeAs timeout => do
    let target ← Chain.interpolated vars target
    return .locate target storeAs timeout
  | .interact target interactions timeout => do
    let target ← Chain.interpolated vars target
    let interactions ← interactions.mapM (Interaction.interpolated vars)
    return .interact target interactions timeout
  | .assertPresent target timeout => do
    let target ← Chain.interpolated vars target
    return .assertPresent target timeout
  | .assertAbsent target timeout => do
    let target ← Chain.interpolated vars target
    return .assertAbsent target timeout
  | .assertUrlContains fragment timeout => do
    let fragment ← interpolate vars fragment
    return .assertUrlContains fragment timeout

/-- The base URL of a scenario, if it has one, with its references replaced. -/
def Scenario.interpolatedBaseUrl (scenario : Scenario) : Except Error (Option String) :=
  match scenario.baseUrl with
  | none => .ok none
  | some url => some <$> interpolate scenario.vars url

/-- The base URL is replaced first and then the steps in order. -/
def Scenario.interpolated (scenario : Scenario) : Except Error Scenario := do
  let baseUrl ← scenario.interpolatedBaseUrl
  let steps ← scenario.steps.mapM (Step.interpolated scenario.vars)
  return { scenario with baseUrl, steps }

end ScenarioRunner
