import ScenarioRunner.Yaml.Document
import ScenarioRunner.Yaml.PlainValue

/-!
The values of nodes. References are followed, and both the nesting and the number of followed
references are bounded, so that a text cannot stand for more data than its size accounts for.
-/

namespace ScenarioRunner.Yaml

/-- Decoding counts the references that may still be followed. -/
abbrev Tracked (α : Type) := StateT Nat (Except DecodeError) α

/-- What decoding needs to know of a document: its anchored nodes. -/
structure Scope where
  anchored : List (Nat × Node)

namespace Scope

/-- Of several nodes with one number the last counts. -/
def ofRoot (root : Node) : Scope := ⟨root.anchored.reverse⟩

/-- A reference leads to a node of the document as long as references may be followed. -/
def follow (scope : Scope) (anchor : Nat) : Tracked Node := do
  match ← get with
  | 0 => throw .malformed
  | left + 1 =>
    StateT.set left
    match scope.anchored.lookup anchor with
    | some node => return node
    | none => throw .malformed

/-- A node behind at most one reference. -/
def resolve (scope : Scope) : Node → Tracked Node
  | .reference anchor => scope.follow anchor
  | node => return node

end Scope

/-- The document allows a hundred references for each of its marks. -/
def referenceLimit (root : Node) : Nat := 100 * root.eventCount

/-- The nesting of collections that is read. -/
def nestingLimit : Nat := 128

/-- The names of the value types that a tag can ask for. -/
def tagName (name : String) : String := "tag:yaml.org,2002:" ++ name

/-- A tag of the document's own has no meaning here. -/
def isLocalTag (tag : String) : Bool := tag.toList.head? == some '!'

/-- A tag decides how the text of a scalar is read; without one, quotes make it text. -/
def scalarContent (tag : Option String) (isPlain : Bool) (text : String) : Decoded Content :=
  match tag with
  | none => if isPlain then plainContent text else .ok (.text text)
  | some tag =>
    if isLocalTag tag then .error .malformed
    else if tag == tagName "bool" then
      match truthWord? text with
      | some value => .ok (.bool value)
      | none => .error .malformed
    else if tag == tagName "int" then
      match (wholeNumber? text.toList).bind wholeContent? with
      | some content => content
      | none => .error .malformed
    else if tag == tagName "float" then
      if isDecimal text.toList then .ok .decimal else .error .malformed
    else if tag == tagName "null" then
      if isNullWord text then .ok .null else .error .malformed
    else .ok (.text text)

/-- The data of a node. The fuel bounds the descent; the levels are those that may still be nested. -/
def content (scope : Scope) : Nat → Nat → Node → Tracked Content
  | 0, _, _ => throw .malformed
  | fuel + 1, levels, node =>
    match node with
    | .scalar properties isPlain text => liftM (scalarContent properties.tag isPlain text)
    | .reference anchor => do content scope fuel levels (← scope.follow anchor)
    | .unreadable => throw .malformed
    | .sequence properties items => do
      if properties.tag.any isLocalTag then throw .malformed
      match levels with
      | 0 => throw .malformed
      | levels + 1 => return .list (← items.mapM (content scope fuel levels))
    | .mapping properties entries => do
      if properties.tag.any isLocalTag then throw .malformed
      match levels with
      | 0 => throw .malformed
      | levels + 1 =>
        let entries ← entries.mapM fun (key, value) => do
          return (← content scope fuel levels key, ← content scope fuel levels value)
        return .table entries

/-- The text of a scalar as it is written, whatever it spells. -/
def textOf (scope : Scope) (node : Node) : Tracked String := do
  match ← scope.resolve node with
  | .scalar _ _ text => return text
  | _ => throw .malformed

/-- A plain null stands for a text that is not given. -/
def optionalTextOf (scope : Scope) (node : Node) : Tracked (Option String) := do
  match ← scope.resolve node with
  | .scalar properties isPlain text =>
    if !isPlain then return some text
    else
      match properties.tag with
      | none => return if text == "" || isNullWord text then none else some text
      | some tag =>
        if tag == tagName "null" then
          if isNullWord text then return none else throw .malformed
        else return some text
  | _ => throw .malformed

/-- The items of a sequence; a node that is left out has none. -/
def itemsOf (scope : Scope) (node : Node) : Tracked (List Node) := do
  match ← scope.resolve node with
  | .sequence _ items => return items
  | .scalar _ true "" => return []
  | _ => throw .malformed

/-- The entries of a mapping; a node that is left out has none. -/
def entriesOf (scope : Scope) (node : Node) : Tracked (List (Node × Node)) := do
  match ← scope.resolve node with
  | .mapping _ entries => return entries
  | .scalar _ true "" => return []
  | _ => throw .malformed

/-- Decodes the root of a text. Faults of the text behind the decoded data are reported last. -/
def decodeText {α : Type} (text : String) (decode : Scope → Option Node → Tracked α) :
    Decoded α :=
  let document := Document.ofText text
  let root := document.root.getD (.empty {})
  match (decode (Scope.ofRoot root) document.root).run (referenceLimit root) with
  | .error reason => .error reason
  | .ok (value, _) => if document.sound then .ok value else .error .malformed

end ScenarioRunner.Yaml
