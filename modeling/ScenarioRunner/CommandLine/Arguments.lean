import ScenarioRunner.Settings

/-!
The arguments of the command line. Arguments that do not follow the usage of their command give no
command at all.
-/

namespace ScenarioRunner.CommandLine

/-- What the program is asked to do. -/
inductive Command where
  | run (paths : List Path) (builtin : Option String) (overrides : Overrides)
  | validate (paths : List Path)
  | source (name : Option String)
  | logs (lines : Nat) (clear : Bool)
deriving DecidableEq, Repr

/-- A switch stands alone; an option takes a value. -/
structure Usage where
  switches : List String
  options : List String
  letters : List (Char × String)

/-- The given arguments in order: a switch, an option with its value, or a value of no option. -/
inductive Argument where
  | switch (name : String)
  | option (name value : String)
  | positional (value : String)
deriving DecidableEq, Repr

/-- A dash with more behind it starts an option, and a lone dash is a value. -/
def looksLikeOption (text : List Char) : Bool :=
  match text with
  | '-' :: _ :: _ => true
  | _ => false

/-- The name and, behind an equals sign, the value of a long option. -/
def splitAtEquals (text : List Char) : String × Option String :=
  let name := text.takeWhile (· != '=')
  match text.dropWhile (· != '=') with
  | [] => (String.ofList name, none)
  | _ :: value => (String.ofList name, some (String.ofList value))

/-- Letters behind one dash: switches, the last of which may be an option with its value behind it. -/
def readLetters (usage : Usage) : List Char → Option (List Argument × Option String)
  | [] => some ([], none)
  | letter :: rest =>
    match usage.letters.lookup letter with
    | none => none
    | some name =>
      if usage.switches.contains name then
        (readLetters usage rest).map fun (arguments, pending) =>
          (.switch name :: arguments, pending)
      else
        match rest with
        | [] => some ([], some name)
        | '=' :: value => some ([.option name (String.ofList value)], none)
        | value => some ([.option name (String.ofList value)], none)

/-- The arguments in order. A pending option takes the next argument as its value. Behind two dashes
everything is a value of no option. -/
def readArguments (usage : Usage) : Option String → List String → Option (List Argument)
  | none, [] => some []
  | some _, [] => none
  | pending, text :: rest =>
    let characters := text.toList
    match pending with
    | some name =>
      if looksLikeOption characters then none
      else (readArguments usage none rest).map (.option name text :: ·)
    | none =>
      match characters with
      | ['-', '-'] => some (rest.map .positional)
      | '-' :: '-' :: long =>
        let (name, value) := splitAtEquals long
        if usage.switches.contains name then
          if value.isSome then none
          else (readArguments usage none rest).map (.switch name :: ·)
        else if usage.options.contains name then
          match value with
          | some value => (readArguments usage none rest).map (.option name value :: ·)
          | none => readArguments usage (some name) rest
        else none
      | '-' :: c :: letters =>
        match readLetters usage (c :: letters) with
        | none => none
        | some (arguments, pending) =>
          (readArguments usage pending rest).map (arguments ++ ·)
      | _ => (readArguments usage none rest).map (.positional text :: ·)

/-- The value of an option that is given at most once. -/
def optionValue (arguments : List Argument) (name : String) : Option (Option String) :=
  let values := arguments.filterMap fun argument => match argument with
    | .option given value => if given == name then some value else none
    | _ => none
  match values with
  | [] => some none
  | [value] => some (some value)
  | _ => none

/-- Whether a switch is given, which it may be once. -/
def switchValue (arguments : List Argument) (name : String) : Option Bool :=
  match arguments.filter (· == .switch name) with
  | [] => some false
  | [_] => some true
  | _ => none

def positionals (arguments : List Argument) : List String :=
  arguments.filterMap fun argument => match argument with
    | .positional value => some value
    | _ => none

/-- A path is not empty. -/
def pathValue (text : String) : Option Path := if text == "" then none else some text

/-- A whole number of 64 bits; a plus sign may stand before it. -/
def wordValue (text : String) : Option UInt64 :=
  let digits := match text.toList with
    | '+' :: digits => digits
    | digits => digits
  if digits.isEmpty || !digits.all Char.isDigit then none
  else
    let value := digits.foldl (fun value digit => value * 10 + (digit.toNat - 48)) 0
    if value < Nat.pow 2 64 then some value.toUInt64 else none

/-- A value that is not given, or one that can be read. -/
def optionally {α : Type} (read : String → Option α) : Option String → Option (Option α)
  | none => some none
  | some text => (read text).map some

def runUsage : Usage where
  switches := ["headed", "json", "verbose"]
  options := ["builtin", "base-url", "webdriver-url", "browser", "timeout-ms", "screenshot-dir"]
  letters := [('v', "verbose")]

def readRun (texts : List String) : Option Command := do
  let arguments ← readArguments runUsage none texts
  let paths ← (positionals arguments).mapM pathValue
  let builtin ← optionValue arguments "builtin"
  let baseUrl ← optionValue arguments "base-url"
  let webDriverUrl ← optionValue arguments "webdriver-url"
  let browser ← optionValue arguments "browser"
  let headed ← switchValue arguments "headed"
  let timeout ← optionally wordValue (← optionValue arguments "timeout-ms")
  let screenshotDirectory ← optionally pathValue (← optionValue arguments "screenshot-dir")
  let json ← switchValue arguments "json"
  let verbose ← switchValue arguments "verbose"
  return .run paths builtin
    { baseUrl, webDriverUrl, browser, headed, timeout, screenshotDirectory, json, verbose }

/-- A command without options. -/
def plainUsage : Usage where
  switches := []
  options := []
  letters := []

def readValidate (texts : List String) : Option Command := do
  let arguments ← readArguments plainUsage none texts
  let paths ← (positionals arguments).mapM pathValue
  if paths.isEmpty then none else return .validate paths

def readSource (texts : List String) : Option Command := do
  let arguments ← readArguments plainUsage none texts
  match positionals arguments with
  | [] => return .source none
  | [name] => return .source (some name)
  | _ => none

def logsUsage : Usage where
  switches := ["clear"]
  options := ["lines"]
  letters := [('n', "lines")]

/-- The lines of the log that are shown unless a number is given. -/
def defaultLogLines : Nat := 50

def readLogs (texts : List String) : Option Command := do
  let arguments ← readArguments logsUsage none texts
  if !(positionals arguments).isEmpty then none
  else
    let lines ← optionally wordValue (← optionValue arguments "lines")
    let clear ← switchValue arguments "clear"
    return .logs ((lines.map UInt64.toNat).getD defaultLogLines) clear

/-- The first argument names the command. -/
def Command.ofArguments : List String → Option Command
  | "run" :: rest => readRun rest
  | "validate" :: rest => readValidate rest
  | "show" :: rest => readSource rest
  | "logs" :: rest => readLogs rest
  | _ => none

end ScenarioRunner.CommandLine
