import ScenarioRunner.Run.Attempt
import ScenarioRunner.Run.Failure

/-!
One evaluation of a chain against the page as it is. The elements found by the links so far are the
subject of the next link.
-/

namespace ScenarioRunner

namespace Attempt

/-- A refused call is a fault. -/
def request (call : Call) : Attempt Fault call.Answer :=
  ExceptT.mk ((Except.mapError Fault.refused) <$> Program.call call)

def search (locator : Locator) (scope : Option ElementId) : Attempt Fault (List ElementId) :=
  request (.find locator scope)

end Attempt

/-- What a chain leads to: elements, or a link at a position that matched nothing. -/
inductive Lookup where
  | found (elements : List ElementId)
  | missing (position : Nat) (link : Link)
deriving DecidableEq, Repr

namespace Lookup

/-- The matches below each element, one after the other. -/
def collectBelow (locator : Locator) : List ElementId → Attempt Fault (List ElementId)
  | [] => pure []
  | scope :: rest => do
    let found ← Attempt.search locator (some scope)
    return found ++ (← collectBelow locator rest)

/-- The matches below the first element that has any. -/
def firstBelow (locator : Locator) : List ElementId → Attempt Fault (List ElementId)
  | [] => pure []
  | scope :: rest => do
    let found ← Attempt.search locator (some scope)
    if found.isEmpty then firstBelow locator rest else return found

/-- An element is added when it is not listed yet. -/
def addNew (listed : List ElementId) (element : ElementId) : List ElementId :=
  if listed.contains element then listed else listed ++ [element]

/-- The parents of each element after those listed so far, none of them twice. -/
def collectParents (listed : List ElementId) : List ElementId → Attempt Fault (List ElementId)
  | [] => pure listed
  | element :: rest => do
    let parents ← Attempt.search .parent (some element)
    collectParents (parents.foldl addNew listed) rest

/-- The elements that one link leads to from the subject. A text is looked for in the document when
there is no subject yet, and only its first match counts. -/
def follow (subject : Option (List ElementId)) : Link → Attempt Fault (List ElementId)
  | .get selector => Attempt.search (.css selector) none
  | .find selector => collectBelow (.css selector) (subject.getD [])
  | .contains text => do
    let found ← match subject with
      | none => Attempt.search (.containsText text) none
      | some scopes => firstBelow (.containsText text) scopes
    return found.take 1
  | .parent => collectParents [] (subject.getD [])
  | .stored name => throw (.misplacedName name)

/-- The links from a position on, as long as each of them matches something. -/
def followAll (position : Nat) (subject : Option (List ElementId)) : Chain → Attempt Fault Lookup
  | [] => return .found (subject.getD [])
  | link :: rest => do
    Program.note (.linkFollowed subject link)
    let next ← follow subject link
    if next.isEmpty then return .missing position link
    else followAll (position + 1) (some next) rest

/-- A chain is evaluated from its first link. -/
def evaluate (chain : Chain) : Attempt Fault Lookup := do
  Program.note (.lookupBegan chain)
  followAll 0 none chain

end Lookup

end ScenarioRunner
