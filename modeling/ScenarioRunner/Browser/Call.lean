import ScenarioRunner.Error
import ScenarioRunner.Browser.Locator

/-!
The calls that a browser session answers. None of them waits for the page: a search returns what
the page holds at that moment.
-/

namespace ScenarioRunner

/-- One request to a browser session. -/
inductive Call where
  | navigate (url : String)
  | currentUrl
  | find (locator : Locator) (scope : Option ElementId)
  | click (element : ElementId)
  | sendKeys (element : ElementId) (keys : String)
  | clear (element : ElementId)
  | reveal (element : ElementId)
  | screenshot
  | close
deriving DecidableEq, Repr

namespace Call

/-- What a granted call brings back. -/
def Answer : Call → Type
  | .currentUrl => String
  | .find _ _ => List ElementId
  | .screenshot => ByteArray
  | _ => Unit

/-- A call is granted with its answer or refused. -/
abbrev Outcome (call : Call) : Type := Except Error call.Answer

end Call

end ScenarioRunner
