import ScenarioRunner.Scenario.StepDecode
import ScenarioRunner.Yaml.Reading

/-!
Scenarios as data, in YAML and in JSON. A scenario has five fields and no others.
-/

namespace ScenarioRunner

/-- The fields of a scenario in their order. -/
inductive ScenarioField where
  | name
  | description
  | baseUrl
  | vars
  | steps
deriving DecidableEq, Repr

namespace ScenarioField

def label : ScenarioField → String
  | .name => "name"
  | .description => "description"
  | .baseUrl => "base_url"
  | .vars => "vars"
  | .steps => "steps"

def all : List ScenarioField := [.name, .description, .baseUrl, .vars, .steps]

end ScenarioField

/-- The fields of a scenario that were given so far. -/
structure ScenarioParts where
  name : Option String := none
  description : Option (Option String) := none
  baseUrl : Option (Option String) := none
  vars : Option Variables := none
  steps : Option (List Step) := none

/-- How a format reads the values that a scenario is made of. -/
structure ScenarioFormat (m : Type → Type) (value : Type) where
  text : value → m String
  optionalText : value → m (Option String)
  vars : value → m Variables
  steps : value → m (List Step)

namespace ScenarioParts

def has (parts : ScenarioParts) : ScenarioField → Bool
  | .name => parts.name.isSome
  | .description => parts.description.isSome
  | .baseUrl => parts.baseUrl.isSome
  | .vars => parts.vars.isSome
  | .steps => parts.steps.isSome

/-- The field takes the value that the format reads. -/
def read {m : Type → Type} [Monad m] {value : Type} (format : ScenarioFormat m value)
    (parts : ScenarioParts) (field : ScenarioField) (given : value) : m ScenarioParts :=
  match field with
  | .name => return { parts with name := ← format.text given }
  | .description => return { parts with description := ← format.optionalText given }
  | .baseUrl => return { parts with baseUrl := ← format.optionalText given }
  | .vars => return { parts with vars := ← format.vars given }
  | .steps => return { parts with steps := ← format.steps given }

/-- Only the name and the steps have to be given. -/
def finish (parts : ScenarioParts) : Decoded Scenario :=
  match parts.name, parts.steps with
  | none, _ => .error (.missingField "name")
  | some _, none => .error (.missingField "steps")
  | some name, some steps =>
    .ok {
      name := name
      description := parts.description.join
      baseUrl := parts.baseUrl.join
      vars := parts.vars.getD []
      steps := steps }

variable {m : Type → Type} [Monad m] [MonadExceptOf DecodeError m] {value : Type}

/-- Every key has to be a field of a scenario, and none may stand twice. -/
def readEntries (format : ScenarioFormat m value) :
    ScenarioParts → List (m String × value) → m ScenarioParts
  | parts, [] => return parts
  | parts, (key, given) :: rest => do
    let label ← key
    match ScenarioField.all.find? (·.label == label) with
    | none => throw (DecodeError.unknownField label)
    | some field =>
      if parts.has field then throw (DecodeError.duplicateField label)
      readEntries format (← parts.read format field given) rest

/-- The items are all the fields in order. -/
def readItems (format : ScenarioFormat m value) :
    ScenarioParts → List ScenarioField → List value → m ScenarioParts
  | parts, [], [] => return parts
  | parts, field :: fields, item :: items => do
    readItems format (← parts.read format field item) fields items
  | _, _, _ => throw DecodeError.malformed

end ScenarioParts

namespace Scenario

def jsonText (json : Json) : Decoded String := Decoder.text (.ofJson json)

def jsonOptionalText (json : Json) : Decoded (Option String) :=
  Decoder.optional Decoder.text (.ofJson json)

def jsonVariables : Json → Decoded Variables
  | .object members =>
    members.foldlM (fun (vars : Variables) (name, value) => do
      return vars.insert name (← jsonText value)) []
  | _ => .error .malformed

def jsonSteps (json : Json) : Decoded (List Step) := Decoder.list Step.decode (.ofJson json)

def jsonFormat : ScenarioFormat (Except DecodeError) Json where
  text := jsonText
  optionalText := jsonOptionalText
  vars := jsonVariables
  steps := jsonSteps

/-- An object with the fields of a scenario, or a list of all of them in order. -/
def ofJson : Json → Decoded Scenario
  | .object members => do
    let entries : List (Decoded String × Json) := members.map fun (name, value) => (.ok name, value)
    (← ScenarioParts.readEntries jsonFormat {} entries).finish
  | .array items => do
    (← ScenarioParts.readItems jsonFormat {} ScenarioField.all items).finish
  | _ => .error .malformed

open Yaml

/-- A later constant takes the place of an earlier one with its name. -/
def yamlVariables (scope : Scope) (node : Node) : Tracked Variables := do
  let entries ← entriesOf scope node
  entries.foldlM (fun (vars : Variables) (key, value) => do
    let name ← textOf scope key
    return vars.insert name (← textOf scope value)) []

/-- The fuel that reaches through every level and reference of a document. -/
def yamlFuel : Nat := 2 * nestingLimit + 2

/-- The collections that a value inside a step may still nest. -/
def yamlStepLevels : Nat := nestingLimit - 3

/-- The action of a step is a name however its scalar is spelled. -/
def yamlStep (scope : Scope) (node : Node) : Tracked Step := do
  let read := content scope yamlFuel yamlStepLevels
  match ← scope.resolve node with
  | .mapping properties entries => do
    if properties.tag.any isLocalTag then throw .malformed
    let pending : List (PendingEntry Tracked) := entries.map fun (key, value) =>
      { key := read key, name := textOf scope value, value := read value }
    let (action, kept) ← takeAction none [] pending
    liftM (Step.ofEntries action kept)
  | .sequence properties items => do
    if properties.tag.any isLocalTag then throw .malformed
    match items with
    | [] => throw (.missingField "action")
    | first :: rest => do
      let action ← liftM (Action.ofName (← textOf scope first))
      let rest ← rest.mapM read
      liftM (Step.ofItems action rest)
  | _ => throw .malformed

def yamlSteps (scope : Scope) (node : Node) : Tracked (List Step) := do
  (← itemsOf scope node).mapM (yamlStep scope)

def yamlFormat (scope : Scope) : ScenarioFormat Tracked Node where
  text := textOf scope
  optionalText := optionalTextOf scope
  vars := yamlVariables scope
  steps := yamlSteps scope

/-- A mapping with the fields of a scenario; a text without a document has none of them. -/
def ofYamlRoot (scope : Scope) (root : Option Node) : Tracked Scenario := do
  let entries ← match root with
    | none => pure []
    | some node => entriesOf scope node
  let entries : List (Tracked String × Node) := entries.map fun (key, value) =>
    (textOf scope key, value)
  let parts ← ScenarioParts.readEntries (yamlFormat scope) {} entries
  liftM parts.finish

/-- The scenario that a YAML text describes. -/
def ofYaml (text : String) : Decoded Scenario := decodeText text ofYamlRoot

end Scenario

end ScenarioRunner
