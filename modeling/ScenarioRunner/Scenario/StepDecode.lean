import ScenarioRunner.Content
import ScenarioRunner.Scenario.Basic

/-!
Steps as data. The action of a step names its kind, and the kind says which fields belong to it;
other fields are passed over. A step may also be a list of its action and its fields in order.
-/

namespace ScenarioRunner

def Link.decode : Decoder Link :=
  Decoder.choice [
    ("get", .withText .get), ("find", .withText .find), ("contains", .withText .contains),
    ("parent", .unit .parent), ("alias", .withText .stored)]

def Interaction.decode : Decoder Interaction :=
  Decoder.choice [
    ("click", .unit .click), ("type", .withText .typeText), ("clear", .unit .clear),
    ("show", .unit .reveal)]

/-- The kinds of steps. -/
inductive Action where
  | navigate
  | locate
  | interact
  | assertPresent
  | assertAbsent
  | assertUrlContains
deriving DecidableEq, Repr

/-- The fields that steps are made of. -/
inductive StepField where
  | url
  | target
  | storeAs
  | interactions
  | fragment
  | timeout
deriving DecidableEq, Repr

def StepField.name : StepField → String
  | .url => "url"
  | .target => "target"
  | .storeAs => "as"
  | .interactions => "perform"
  | .fragment => "fragment"
  | .timeout => "timeout_ms"

namespace Action

def names : List (String × Action) := [
  ("navigate", .navigate), ("locate", .locate), ("interact", .interact),
  ("assert_present", .assertPresent), ("assert_absent", .assertAbsent),
  ("assert_url_contains", .assertUrlContains)]

def ofName (name : String) : Decoded Action := Decoder.name names (.text name)

def name (action : Action) : String :=
  match names.find? (·.2 == action) with
  | some entry => entry.1
  | none => ""

/-- The fields of a kind of step in their order. -/
def fields : Action → List StepField
  | .navigate => [.url]
  | .locate => [.target, .storeAs, .timeout]
  | .interact => [.target, .interactions, .timeout]
  | .assertPresent => [.target, .timeout]
  | .assertAbsent => [.target, .timeout]
  | .assertUrlContains => [.fragment, .timeout]

end Action

/-- The fields of a step that were given so far. -/
structure StepParts where
  url : Option String := none
  target : Option Chain := none
  storeAs : Option (Option String) := none
  interactions : Option (List Interaction) := none
  fragment : Option String := none
  timeout : Option (Option UInt64) := none

namespace StepParts

def has (parts : StepParts) : StepField → Bool
  | .url => parts.url.isSome
  | .target => parts.target.isSome
  | .storeAs => parts.storeAs.isSome
  | .interactions => parts.interactions.isSome
  | .fragment => parts.fragment.isSome
  | .timeout => parts.timeout.isSome

/-- The field takes the value that its content decodes to. -/
def read (parts : StepParts) (field : StepField) (content : Content) : Decoded StepParts :=
  match field with
  | .url => (Decoder.text content).map fun url => { parts with url }
  | .target => (Decoder.list Link.decode content).map fun target => { parts with target }
  | .storeAs =>
    (Decoder.optional Decoder.text content).map fun storeAs => { parts with storeAs }
  | .interactions =>
    (Decoder.list Interaction.decode content).map fun interactions =>
      { parts with interactions }
  | .fragment => (Decoder.text content).map fun fragment => { parts with fragment }
  | .timeout => (Decoder.optional Decoder.word content).map fun timeout => { parts with timeout }

/-- A required field that was not given is an error. -/
def require {α : Type} (field : StepField) (value : Option α) : Decoded α :=
  match value with
  | some value => .ok value
  | none => .error (.missingField field.name)

/-- The step, when every field that its kind requires was given. -/
def finish (parts : StepParts) : Action → Decoded Step
  | .navigate => return .navigate (← require .url parts.url)
  | .locate =>
    return .locate (← require .target parts.target) parts.storeAs.join parts.timeout.join
  | .interact => do
    let target ← require .target parts.target
    return .interact target (← require .interactions parts.interactions) parts.timeout.join
  | .assertPresent =>
    return .assertPresent (← require .target parts.target) parts.timeout.join
  | .assertAbsent => return .assertAbsent (← require .target parts.target) parts.timeout.join
  | .assertUrlContains =>
    return .assertUrlContains (← require .fragment parts.fragment) parts.timeout.join

/-- A key names a field of the action, counts to it from zero, or has no meaning there. -/
def fieldOfKey (action : Action) : Content → Decoded (Option StepField)
  | .text name => .ok (action.fields.find? (·.name == name))
  | .whole value => if 0 ≤ value then .ok action.fields[value.toNat]? else .error .malformed
  | _ => .error .malformed

/-- Entries are read in order, and none twice. -/
def readEntries (action : Action) : StepParts → List (Content × Content) → Decoded StepParts
  | parts, [] => .ok parts
  | parts, (key, value) :: rest => do
    match ← fieldOfKey action key with
    | none => readEntries action parts rest
    | some field =>
      if parts.has field then throw (.duplicateField field.name)
      readEntries action (← parts.read field value) rest

/-- Items are the fields in order, neither fewer nor more. -/
def readItems : StepParts → List StepField → List Content → Decoded StepParts
  | parts, [], [] => .ok parts
  | parts, field :: fields, item :: items => do
    readItems (← parts.read field item) fields items
  | _, _, _ => .error .malformed

end StepParts

/-- The entries of a step without its action. -/
def Step.ofEntries (action : Action) (entries : List (Content × Content)) : Decoded Step := do
  (← StepParts.readEntries action {} entries).finish action

/-- The items of a step after its action. -/
def Step.ofItems (action : Action) (items : List Content) : Decoded Step := do
  (← StepParts.readItems {} action.fields items).finish action

/-- An entry of a table whose parts are read on demand: the key, the value as a name, and the value
as data. -/
structure PendingEntry (m : Type → Type) where
  key : m Content
  name : m String
  value : m Content

/-- The action is taken out of the entries of a step; the first fault in their order counts. -/
def takeAction {m : Type → Type} [Monad m] [MonadExceptOf DecodeError m]
    (found : Option Action) (kept : List (Content × Content)) :
    List (PendingEntry m) → m (Action × List (Content × Content))
  | [] =>
    match found with
    | some action => return (action, kept.reverse)
    | none => throw (.missingField "action")
  | entry :: rest => do
    match ← entry.key with
    | .text "action" =>
      if found.isSome then throw (DecodeError.duplicateField "action")
      let name ← entry.name
      match Action.ofName name with
      | .ok action => takeAction (some action) kept rest
      | .error reason => throw reason
    | key => takeAction found ((key, ← entry.value) :: kept) rest

/-- A table or a list that describes a step. -/
def Step.decode : Decoder Step
  | .table entries => do
    let pending : List (PendingEntry (Except DecodeError)) := entries.map fun (key, value) =>
      { key := pure key, name := Decoder.text value, value := pure value }
    let (action, kept) ← takeAction none [] pending
    Step.ofEntries action kept
  | .list [] => .error (.missingField "action")
  | .list (first :: rest) => do
    let action ← Action.ofName (← Decoder.text first)
    Step.ofItems action rest
  | _ => .error .malformed

end ScenarioRunner
