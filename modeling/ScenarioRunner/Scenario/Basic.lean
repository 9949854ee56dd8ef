import ScenarioRunner.Scenario.Variables

/-!
Scenarios: a name and an ordered list of steps against a web page. A target is a chain of links,
each of which narrows or moves the elements found by the links before it.
-/

namespace ScenarioRunner

/-- A stored link stands for the chain that an earlier step remembered under the name. -/
inductive Link where
  | get (selector : String)
  | find (selector : String)
  | contains (text : String)
  | parent
  | stored (name : String)
deriving DecidableEq, Repr

/-- Links are followed from left to right. -/
abbrev Chain := List Link

/-- What is done to a found element. -/
inductive Interaction where
  | click
  | typeText (text : String)
  | clear
  | reveal
deriving DecidableEq, Repr

/-- Timeouts are in milliseconds; a step without one uses the timeout of the run. -/
inductive Step where
  | navigate (url : String)
  | locate (target : Chain) (storeAs : Option String) (timeout : Option UInt64)
  | interact (target : Chain) (interactions : List Interaction) (timeout : Option UInt64)
  | assertPresent (target : Chain) (timeout : Option UInt64)
  | assertAbsent (target : Chain) (timeout : Option UInt64)
  | assertUrlContains (fragment : String) (timeout : Option UInt64)
deriving DecidableEq, Repr

/-- The base URL of a scenario takes the place of the configured one. -/
structure Scenario where
  name : String
  description : Option String
  baseUrl : Option String
  vars : Variables
  steps : List Step
deriving DecidableEq, Repr

def Link.display : Link → String
  | .get selector => s!"get '{selector}'"
  | .find selector => s!"find '{selector}'"
  | .contains text => s!"contains '{text}'"
  | .parent => "parent"
  | .stored name => s!"@{name}"

/-- The links of a chain in reading order. -/
def Chain.display (chain : Chain) : String :=
  String.intercalate " > " (chain.map Link.display)

def Interaction.display : Interaction → String
  | .click => "click"
  | .typeText text => s!"type '{text}'"
  | .clear => "clear"
  | .reveal => "show"

namespace Step

/-- The step in words. -/
def display : Step → String
  | .navigate url => s!"navigate '{url}'"
  | .locate target (some name) _ => s!"locate {Chain.display target} as @{name}"
  | .locate target none _ => s!"locate {Chain.display target}"
  | .interact target interactions _ =>
    String.intercalate ", " (interactions.map Interaction.display) ++ " on " ++
      Chain.display target
  | .assertPresent target _ => s!"assert present: {Chain.display target}"
  | .assertAbsent target _ => s!"assert absent: {Chain.display target}"
  | .assertUrlContains fragment _ => s!"assert url contains '{fragment}'"

/-- The chain that a step looks for, if it looks for one. -/
def target? : Step → Option Chain
  | .navigate _ => none
  | .locate target _ _ => some target
  | .interact target _ _ => some target
  | .assertPresent target _ => some target
  | .assertAbsent target _ => some target
  | .assertUrlContains _ _ => none

/-- The timeout that a step sets for itself. -/
def timeout? : Step → Option UInt64
  | .navigate _ => none
  | .locate _ _ timeout => timeout
  | .interact _ _ timeout => timeout
  | .assertPresent _ timeout => timeout
  | .assertAbsent _ timeout => timeout
  | .assertUrlContains _ timeout => timeout

/-- The name under which a step remembers its chain. -/
def storedName? : Step → Option String
  | .locate _ storeAs _ => storeAs
  | _ => none

end Step

end ScenarioRunner
