/-!
What can go wrong, by cause, and the wording that a user reads.
-/

namespace ScenarioRunner

/-- Why data does not have the shape it should have. -/
inductive DecodeError where
  | missingField (name : String)
  | unknownField (name : String)
  | unknownVariant (name : String)
  | duplicateField (name : String)
  | malformed
deriving DecidableEq, Repr

/-- A name is quoted up to its first backtick, so that the closing backtick ends the quotation. -/
def DecodeError.quoteName (name : String) : String :=
  "`" ++ String.ofList (name.toList.takeWhile (· != '\x60')) ++ "`"

/-- A shape that has no single name at fault has no wording of its own. -/
def DecodeError.message : DecodeError → String
  | .missingField name => "missing field " ++ quoteName name
  | .unknownField name => "unknown field " ++ quoteName name
  | .unknownVariant name => "unknown variant " ++ quoteName name
  | .duplicateField name => "duplicate field " ++ quoteName name
  | .malformed => ""

/-- Everything that can be reported to a user instead of a result. -/
inductive Error where
  | config (detail : String)
  | configParse (detail : String)
  | scenarioParse (detail : String)
  | scenarioInvalid (detail : String)
  | undefinedVariable (name : String)
  | unknownKey (name : String)
  | unknownBuiltin (name available : String)
  | browserUnreachable (url reason : String)
  | webDriver (code message : String)
  | protocol (detail : String)
  | http (detail : String)
  | stepFailure (step : Nat) (detail : String)
  | io (detail : String)
  | fileRead (path detail : String)
  | json (detail : String)
deriving DecidableEq, Repr

namespace Error

/-- The wording names the selector, step or endpoint at fault. -/
def message : Error → String
  | .config detail => s!"Configuration error: {detail}"
  | .configParse detail => s!"Invalid configuration file: {detail}"
  | .scenarioParse detail => s!"Failed to parse scenario: {detail}"
  | .scenarioInvalid detail => s!"Invalid scenario: {detail}"
  | .undefinedVariable name => "Undefined variable '$\x7b" ++ name ++ "\x7d'. Declare it under 'vars'"
  | .unknownKey name => "Unknown special key '\x7b" ++ name ++ "\x7d'"
  | .unknownBuiltin name available =>
    s!"Unknown built-in scenario '{name}'. Available: {available}"
  | .browserUnreachable url reason =>
    s!"WebDriver not reachable at {url}: {reason}. Is chromedriver/geckodriver running?"
  | .webDriver code message => s!"WebDriver error '{code}': {message}"
  | .protocol detail => s!"WebDriver protocol error: {detail}"
  | .http detail => s!"HTTP error: {detail}"
  | .stepFailure step detail => s!"Step {step} failed: {detail}"
  | .io detail => s!"IO error: {detail}"
  | .fileRead path detail => s!"Failed to read file '{path}': {detail}"
  | .json detail => s!"JSON error: {detail}"

/-- These errors come from a page that is drawn anew or still moves, and may pass. -/
def transientCodes : List String :=
  ["stale element reference", "element not interactable", "element click intercepted"]

/-- An error is worth another try when a WebDriver server told it with a passing code. -/
def isTransient : Error → Bool
  | .webDriver code _ => transientCodes.contains code
  | _ => false

/-- The error carries the number of a step. -/
def isStepFailure : Error → Bool
  | .stepFailure _ _ => true
  | _ => false

end Error

/-- Only a result that fails is mapped to a failure. -/
theorem error_of_map {ε α β : Type} {result : Except ε α} {f : α → β} {error : ε}
    (failed : result.map f = .error error) : result = .error error := by
  cases result with
  | error other =>
    cases failed
    rfl
  | ok value => cases failed

theorem ok_of_map {ε α β : Type} {result : Except ε α} {f : α → β} {value : β}
    (mapped : result.map f = .ok value) : ∃ source, result = .ok source ∧ value = f source := by
  cases result with
  | error error => cases mapped
  | ok source =>
    cases mapped
    exact ⟨source, rfl, rfl⟩

theorem map_of_map {ε α β γ : Type} (result : Except ε α) (f : α → β) (g : β → γ) :
    (result.map f).map g = result.map fun value => g (f value) := by
  cases result <;> rfl

end ScenarioRunner
