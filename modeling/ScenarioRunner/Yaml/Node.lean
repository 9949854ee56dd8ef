/-!
The nodes of a YAML document. What cannot be read is a node of its own, so that everything before
the first fault of a text is still known.
-/

namespace ScenarioRunner.Yaml

/-- What may stand before a node. Anchors are numbered. -/
structure Properties where
  anchor : Option Nat := none
  tag : Option String := none
deriving DecidableEq, Repr

/-- A reference stands for the node with the anchor of that number. -/
inductive Node where
  | scalar (properties : Properties) (isPlain : Bool) (text : String)
  | sequence (properties : Properties) (items : List Node)
  | mapping (properties : Properties) (entries : List (Node × Node))
  | reference (anchor : Nat)
  | unreadable
deriving Repr

namespace Node

instance : Inhabited Node := ⟨.unreadable⟩

/-- A node that is left out is a plain scalar without text. -/
def empty (properties : Properties) : Node := .scalar properties true ""

mutual

/-- The anchored nodes in the order in which they start. -/
def anchored : Node → List (Nat × Node)
  | .scalar properties isPlain text =>
    (properties.anchor.map fun anchor => (anchor, Node.scalar properties isPlain text)).toList
  | .sequence properties items =>
    (properties.anchor.map fun anchor => (anchor, Node.sequence properties items)).toList ++
      anchoredItems items
  | .mapping properties entries =>
    (properties.anchor.map fun anchor => (anchor, Node.mapping properties entries)).toList ++
      anchoredEntries entries
  | .reference _ => []
  | .unreadable => []

def anchoredItems : List Node → List (Nat × Node)
  | [] => []
  | item :: rest => anchored item ++ anchoredItems rest

def anchoredEntries : List (Node × Node) → List (Nat × Node)
  | [] => []
  | (key, value) :: rest => anchored key ++ anchored value ++ anchoredEntries rest

end

mutual

/-- The marks that a document is read from: one for a scalar or a reference, two for a collection. -/
def eventCount : Node → Nat
  | .scalar _ _ _ => 1
  | .sequence _ items => eventCountItems items + 2
  | .mapping _ entries => eventCountEntries entries + 2
  | .reference _ => 1
  | .unreadable => 0

def eventCountItems : List Node → Nat
  | [] => 0
  | item :: rest => eventCount item + eventCountItems rest

def eventCountEntries : List (Node × Node) → Nat
  | [] => 0
  | (key, value) :: rest => eventCount key + eventCount value + eventCountEntries rest

end

end Node

end ScenarioRunner.Yaml
