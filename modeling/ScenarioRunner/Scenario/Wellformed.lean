import ScenarioRunner.Scenario.Basic

/-!
The rules that a scenario has to keep before it may run, and the first rule that it breaks.
-/

namespace ScenarioRunner

/-- What is wrong with the chain of a step. -/
inductive ChainFault where
  | empty
  | badStart (link : Link)
  | misplacedName (name : String)
  | undefinedName (name : String)
  | emptyArgument (link : Link)
deriving DecidableEq, Repr

def ChainFault.message : ChainFault → String
  | .empty => "target is empty"
  | .badStart link => s!"target cannot start with '{link.display}'"
  | .misplacedName name => s!"alias '@{name}' must start the target"
  | .undefinedName name => s!"alias '@{name}' is not defined by an earlier locate step"
  | .emptyArgument link => s!"empty argument to '{link.display}'"

/-- What is wrong with a step. -/
inductive StepFault where
  | chain (fault : ChainFault)
  | blankUrl
  | emptyFragment
  | noInteractions
  | badKeys (error : Error)
  | blankName
deriving DecidableEq, Repr

def StepFault.message : StepFault → String
  | .chain fault => fault.message
  | .blankUrl => "navigate url is empty"
  | .emptyFragment => "url fragment is empty"
  | .noInteractions => "'perform' lists no interactions"
  | .badKeys error => error.message
  | .blankName => "alias name is empty"

/-- What is wrong with a scenario. -/
inductive ScenarioFault where
  | blankName
  | noSteps (name : String)
  | atStep (number : Nat) (fault : StepFault)
deriving DecidableEq, Repr

def ScenarioFault.message : ScenarioFault → String
  | .blankName => "scenario name is empty"
  | .noSteps name => s!"scenario '{name}' has no steps"
  | .atStep number fault => s!"step {number}: {fault.message}"

/-- A broken rule as it is reported. -/
def ScenarioFault.toError (fault : ScenarioFault) : Error := .scenarioInvalid fault.message

/-- A link that moves from the elements found so far cannot come first. -/
def Link.needsSubject : Link → Bool
  | .parent => true
  | .find _ => true
  | _ => false

/-- The text that a link searches with. -/
def Link.argument? : Link → Option String
  | .get selector => some selector
  | .find selector => some selector
  | .contains text => some text
  | .parent => none
  | .stored _ => none

/-- A link is judged by its place: a stored chain comes first and has a name known by then. -/
def Link.check (known : List String) (first : Bool) : Link → Except ChainFault Unit
  | .stored name =>
    if !first then .error (.misplacedName name)
    else if known.contains name then .ok ()
    else .error (.undefinedName name)
  | link => if link.argument? = some "" then .error (.emptyArgument link) else .ok ()

/-- A chain starts with a link that needs no subject, and every link is sound. -/
def Chain.check (known : List String) : Chain → Except ChainFault Unit
  | [] => .error .empty
  | link :: rest => do
    if link.needsSubject then throw (.badStart link)
    link.check known true
    rest.forM (Link.check known false)

/-- Typed text may name known keys only. -/
def Interaction.check : Interaction → Except StepFault Unit
  | .typeText text =>
    match Text.expandKeys text with
    | .ok _ => .ok ()
    | .error error => .error (.badKeys error)
  | _ => .ok ()

/-- The target of a step is judged before the rest of it. -/
def Step.check (known : List String) (step : Step) : Except StepFault Unit := do
  match step.target? with
  | some target => (Chain.check known target).mapError .chain
  | none => pure ()
  match step with
  | .navigate url => if Text.isBlank url then throw .blankUrl
  | .assertUrlContains fragment _ => if fragment = "" then throw .emptyFragment
  | .interact _ interactions _ =>
    if interactions.isEmpty then throw .noInteractions
    interactions.forM Interaction.check
  | .locate _ (some name) _ => if Text.isBlank name then throw .blankName
  | _ => pure ()

/-- A step adds the name it stores to the names known to later steps. -/
def Step.addName (known : List String) (step : Step) : List String :=
  step.storedName?.toList ++ known

/-- The steps from a number on are judged in order. -/
def checkSteps : Nat → List String → List Step → Except ScenarioFault Unit
  | _, _, [] => .ok ()
  | number, known, step :: rest =>
    match step.check known with
    | .error fault => .error (.atStep number fault)
    | .ok () => checkSteps (number + 1) (step.addName known) rest

/-- The first rule that a scenario breaks is its fault. -/
def Scenario.check (scenario : Scenario) : Except ScenarioFault Unit := do
  if Text.isBlank scenario.name then throw .blankName
  if scenario.steps.isEmpty then throw (.noSteps scenario.name)
  checkSteps 1 [] scenario.steps

/-- A scenario is well formed when no rule is broken. -/
def Scenario.validate (scenario : Scenario) : Except Error Unit :=
  scenario.check.mapError ScenarioFault.toError

end ScenarioRunner
