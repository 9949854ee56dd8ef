import ScenarioRunner.Browser.XPathLiteral

/-!
How elements are found relative to an element or to the document.
-/

namespace ScenarioRunner

/-- The name that a browser gives to an element of the page. -/
structure ElementId where
  name : String
deriving DecidableEq, Repr

/-- A text locator matches elements that own a piece of text with the text inside. -/
inductive Locator where
  | css (selector : String)
  | containsText (text : String)
  | parent
deriving DecidableEq, Repr

namespace Locator

/-- The location strategy that a browser is asked to use. -/
def strategy : Locator → String
  | .css _ => "css selector"
  | .containsText _ => "xpath"
  | .parent => "xpath"

/-- The expression that the strategy evaluates. -/
def expression : Locator → String
  | .css selector => selector
  | .containsText text =>
    "descendant-or-self::*[not(self::script or self::style or self::title)]" ++
      "[text()[contains(., " ++ xpathLiteral text ++ ")]]"
  | .parent => ".."

theorem expression_containsText (text : String) :
    (containsText text).expression =
      "descendant-or-self::*[not(self::script or self::style or self::title)]" ++
        "[text()[contains(., " ++ xpathLiteral text ++ ")]]" := rfl

def display : Locator → String
  | .css selector => s!"get '{selector}'"
  | .containsText text => s!"contains '{text}'"
  | .parent => "parent"

end Locator

end ScenarioRunner
