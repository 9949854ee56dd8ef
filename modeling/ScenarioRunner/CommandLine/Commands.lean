import ScenarioRunner.CommandLine.Arguments
import ScenarioRunner.Json.Writer
import ScenarioRunner.Run.Scenario
import ScenarioRunner.Scenario.Load
import ScenarioRunner.WebDriver.Messages

/-!
What the commands do.
-/

namespace ScenarioRunner.CommandLine

open Text

/-- Where the program keeps its settings and its log. -/
structure Locations where
  settingsFile : Path
  logFile : Path

/-- The directories that the program makes its own are called by its name. -/
def programName : String := "uiflow"

/-- The places of the program among the settings and among the data of a user. -/
def Locations.below (settingsDirectory dataDirectory : Path) : Locations where
  settingsFile := joinPath (joinPath settingsDirectory programName) "config.toml"
  logFile := joinPath (joinPath (joinPath dataDirectory programName) "logs") "runs.log"

/-- A command that an error may end. -/
abbrev Action (α : Type) := Attempt Error α

/-- A file of text. -/
def readTextFile (path : Path) : Action String := do
  match ← Program.readFile path with
  | .error reason => throw (.fileRead path.display reason.message)
  | .ok content =>
    match String.fromUTF8? content with
    | some text => return text
    | none => throw (.fileRead path.display "stream did not contain valid UTF-8")

/-- The settings of the file, or the defaults where there is none. -/
def loadSettings (locations : Locations) : Action Settings := do
  if ← Program.fileExists locations.settingsFile then
    liftM (Settings.ofText (← readTextFile locations.settingsFile))
  else
    return {}

def loadScenario (path : Path) : Action Scenario := do
  liftM (Scenario.fromYaml (← readTextFile path))

/-- A scenario that is asked for by its path is named in the error that keeps it from loading. -/
def loadRequested (path : Path) : Action Scenario := do
  match ← (loadScenario path).outcome with
  | .ok scenario => return scenario
  | .error error => throw (.config s!"{path.display}: {error.message}")

/-- Every scenario is loaded before the first one runs. -/
def loadScenarios (paths : List Path) (builtin : Option String) : Action (List Scenario) := do
  let first ← match builtin with
    | some name => liftM ((Scenario.builtin name).map ([·]))
    | none => pure []
  let rest ← paths.mapM loadRequested
  if (first ++ rest).isEmpty then
    throw (.config "No scenarios given. Pass scenario files or --builtin <name>")
  return first ++ rest

/-- The scenarios one after the other, each in a session of its own. The first session that cannot be
started ends the runs, and the reports gathered before it are kept. -/
def runEach (settings : Settings) (overrides : Overrides) :
    List Scenario → Attempt Breakdown (List Report × Option Error)
  | [] => return ([], none)
  | scenario :: rest => do
    let session : Except Error Unit ← Program.openSession (WebDriver.sessionRequest settings)
    match session with
    | .error error => return ([], some error)
    | .ok () =>
      let options := settings.runOptions scenario.baseUrl overrides
      let report ← Run.scenario options scenario
      let (reports, failure) ← runEach settings overrides rest
      return (report :: reports, failure)

def summaryLine (report : Report) : Styled :=
  match report.verdict with
  | .passed =>
    [plain "  ", coloured .green "✓",
      plain s!" {report.name} ({report.stepsTotal} steps, {report.duration}ms)\n"]
  | .failed step _ _ =>
    [plain "  ", coloured .red "✗",
      plain s!" {report.name} (failed at step {step}/{report.stepsTotal})\n"]

/-- A line for each scenario and the number that passed. -/
def summary (reports : List Report) : Styled :=
  let passed := (reports.filter (·.passed)).length
  [coloured .cyan "Summary:", plain "\n"] ++ reports.flatMap summaryLine ++
    [plain s!"\n  {passed}/{reports.length} scenarios passed\n\n"]

/-- Reports as data, or a summary when there are several. -/
def tellReports (json : Bool) (reports : List Report) : Action Unit := do
  if json then
    let told ← liftM (reports.mapM Report.toJson)
    Program.print [plain (Json.array told).renderIndented, plain "\n"]
  else Program.printIf (1 < reports.length) (summary reports)

/-- The settings with the overrides in place and the scenarios to run. -/
def prepare (locations : Locations) (paths : List Path) (builtin : Option String)
    (overrides : Overrides) : Action (Settings × List Scenario) := do
  let (settings, overridden) := (← loadSettings locations).override overrides
  liftM overridden
  return (settings, ← loadScenarios paths builtin)

/-- What was gathered is told even when a later session failed. -/
def conclude (json : Bool) (reports : List Report) (failure : Option Error) : Action Bool := do
  if !reports.isEmpty || failure.isNone then
    tellReports json reports
  match failure with
  | some error => throw error
  | none => return reports.all (·.passed)

/-- Whether every scenario passed. -/
def runScenarios (locations : Locations) (paths : List Path) (builtin : Option String)
    (overrides : Overrides) : Attempt (Stop Error) Bool := do
  let (settings, scenarios) ← (prepare locations paths builtin overrides).failing
  let (reports, failure) ← (runEach settings overrides scenarios).breaking
  (conclude overrides.json reports failure).failing

def validLine (path : Path) (scenario : Scenario) : Styled :=
  [plain "  ", coloured .green "✓",
    plain s!" {path.display} ({scenario.name}, {scenario.steps.length} steps)\n"]

def invalidLine (path : Path) (error : Error) : Styled :=
  [plain "  ", coloured .red "✗", plain s!" {path.display}: {error.message}\n"]

/-- Whether every file holds a scenario that may run. -/
def validateFiles : List Path → Action Bool
  | [] => return true
  | path :: rest => do
    let valid ← match ← (loadScenario path).outcome with
      | .ok scenario => do
        Program.print (validLine path scenario)
        pure true
      | .error error => do
        Program.print (invalidLine path error)
        pure false
    return valid && (← validateFiles rest)

/-- The text of a scenario, or the names of all. -/
def tellSource : Option String → Action Unit
  | some name => do
    let text ← liftM (BuiltinScenario.source name)
    Program.print [plain text]
  | none => Program.print (BuiltinScenario.names.map fun name => plain (name ++ "\n"))

/-- The lines of a text without their ends; a text that ends a line has no line behind it. -/
def linesOf (text : String) : List String :=
  let pieces := text.splitOn "\n"
  let ended := pieces.dropLast.map fun line =>
    if line.endsWith "\r" then String.ofList line.toList.dropLast else line
  match pieces.getLast? with
  | none => ended
  | some "" => ended
  | some last => ended ++ [last]

/-- The last lines of the log, or an empty log. -/
def tellLogs (locations : Locations) (lines : Nat) (clear : Bool) : Action Unit := do
  let present : Bool ← Program.fileExists locations.logFile
  if clear then
    if present then
      match ← Program.writeFile locations.logFile .empty with
      | .error reason => throw (.io reason.message)
      | .ok () => pure ()
    Program.print [plain "Run log cleared\n"]
  else if !present then
    Program.print [plain s!"No run log yet at {locations.logFile.display}\n"]
  else
    let all := linesOf (← readTextFile locations.logFile)
    Program.print ((all.drop (all.length - lines)).map fun line => plain (line ++ "\n"))

/-- A command as a program; false means that a scenario failed. -/
def Command.program (locations : Locations) : Command → Attempt (Stop Error) Bool
  | .run paths builtin overrides => runScenarios locations paths builtin overrides
  | .validate paths => (validateFiles paths).failing
  | .source name => Attempt.failing ((fun _ => true) <$> tellSource name)
  | .logs lines clear => Attempt.failing ((fun _ => true) <$> tellLogs locations lines clear)

end ScenarioRunner.CommandLine
