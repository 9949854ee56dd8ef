import ScenarioRunner.Files
import ScenarioRunner.Text.Search

/-!
The settings of one run.
-/

namespace ScenarioRunner

/-- Relative addresses are joined to the base URL; times are in milliseconds. -/
structure RunOptions where
  baseUrl : String
  defaultTimeout : Nat
  pollInterval : Nat
  screenshotDirectory : Option Path
  verbose : Bool
  quiet : Bool
deriving DecidableEq, Repr

/-- The window of a step: its own timeout, or that of the run. -/
def RunOptions.window (options : RunOptions) (timeout : Option UInt64) : Nat :=
  (timeout.map UInt64.toNat).getD options.defaultTimeout

/-- The text without the slashes at its end. -/
def dropTrailingSlashes (text : String) : String :=
  String.ofList (text.toList.reverse.dropWhile (· == '/')).reverse

/-- An address that is not absolute stands below the base, with one slash between them. -/
def joinUrl (base url : String) : String :=
  if Text.beginsWith url "http://" || Text.beginsWith url "https://" then url
  else dropTrailingSlashes base ++ "/" ++ String.ofList (url.toList.dropWhile (· == '/'))

end ScenarioRunner
