import ScenarioRunner.Content
import ScenarioRunner.Run.Options
import ScenarioRunner.Scenario.Basic
import ScenarioRunner.Text.LowerCase
import ScenarioRunner.Toml.Reader

/-!
The settings of the program: a file gives them, the command line overrides some of them, and a
scenario may name a base URL of its own.
-/

namespace ScenarioRunner

/-- The browsers that can be asked for. -/
inductive BrowserKind where
  | chrome
  | firefox
deriving DecidableEq, Repr

namespace BrowserKind

/-- The name of a browser among the capabilities of a session. -/
def name : BrowserKind → String
  | .chrome => "chrome"
  | .firefox => "firefox"

/-- The spellings that are understood. -/
def spellings : List (String × BrowserKind) :=
  [("chrome", .chrome), ("chromium", .chrome), ("firefox", .firefox)]

/-- A browser by its name in any letter case. -/
def ofText (text : String) : Except Error BrowserKind :=
  let wanted := Text.lower text
  match spellings.lookup wanted with
  | some kind => .ok kind
  | none => .error (.config s!"Unknown browser '{wanted}'. Supported: chrome, firefox")

end BrowserKind

/-- The server that drives the browser, and the browser it is asked for. -/
structure WebDriverSettings where
  url : String := "http://localhost:4444"
  browser : BrowserKind := .chrome
  headless : Bool := true
  windowWidth : UInt32 := 1280
  windowHeight : UInt32 := 900
deriving DecidableEq, Repr

/-- Milliseconds, except for the time that a request may take. -/
structure Timeouts where
  defaultCommand : UInt64 := 4000
  pollInterval : UInt64 := 100
  pageLoad : UInt64 := 60000
  requestSeconds : UInt64 := 60
deriving DecidableEq, Repr

structure Settings where
  baseUrl : String := "http://localhost:11011"
  webDriver : WebDriverSettings := {}
  timeouts : Timeouts := {}
  screenshotDirectory : Option Path := none
deriving DecidableEq, Repr

namespace Settings

/-- The fields of a section: the entries of a table, or the items of an array in the order of the
names. -/
def fields (names : List String) : Toml → Decoded (List (String × Toml))
  | .table _ entries => .ok entries
  | .array items => .ok (names.zip items)
  | .tables elements => .ok (names.zip (elements.map fun entries => .table .header entries))
  | _ => .error .malformed

def text : Toml → Decoded String
  | .text value => .ok value
  | _ => .error .malformed

def truth : Toml → Decoded Bool
  | .bool value => .ok value
  | _ => .error .malformed

/-- A whole number from zero up to below the bound. -/
def natBelow (bound : Nat) : Toml → Decoded Nat
  | .whole value => if 0 ≤ value && value < bound then .ok value.toNat else .error .malformed
  | _ => .error .malformed

def word (value : Toml) : Decoded UInt64 := Nat.toUInt64 <$> natBelow (Nat.pow 2 64) value

def halfWord (value : Toml) : Decoded UInt32 := Nat.toUInt32 <$> natBelow (Nat.pow 2 32) value

def isEmptySection : Toml → Bool
  | .table _ [] => true
  | .array [] => true
  | _ => false

/-- A browser is named exactly, alone or as the only key of an empty table. -/
def browserKind : Toml → Decoded BrowserKind
  | .text name => named name
  | .table _ [(name, argument)] => do
    let kind ← named name
    if isEmptySection argument then return kind else throw .malformed
  | _ => .error .malformed
where
  named (name : String) : Decoded BrowserKind :=
    match [BrowserKind.chrome, .firefox].find? (·.name == name) with
    | some kind => .ok kind
    | none => .error (.unknownVariant name)

/-- The fields change a section in their order; names without a meaning are passed over. -/
def readSection {α : Type} (names : List String) (change : α → String → Toml → Decoded α)
    (start : α) (given : Toml) : Decoded α := do
  (← fields names given).foldlM (fun current (name, value) => change current name value) start

def changeTarget (baseUrl : String) (name : String) (value : Toml) : Decoded String :=
  if name == "base_url" then text value else .ok baseUrl

def changeWebDriver (settings : WebDriverSettings) (name : String) (value : Toml) :
    Decoded WebDriverSettings :=
  if name == "url" then return { settings with url := ← text value }
  else if name == "browser" then return { settings with browser := ← browserKind value }
  else if name == "headless" then return { settings with headless := ← truth value }
  else if name == "window_width" then
    return { settings with windowWidth := ← halfWord value }
  else if name == "window_height" then
    return { settings with windowHeight := ← halfWord value }
  else .ok settings

def changeTimeouts (timeouts : Timeouts) (name : String) (value : Toml) : Decoded Timeouts :=
  if name == "default_command_ms" then
    return { timeouts with defaultCommand := ← word value }
  else if name == "poll_interval_ms" then
    return { timeouts with pollInterval := ← word value }
  else if name == "page_load_ms" then
    return { timeouts with pageLoad := ← word value }
  else if name == "request_secs" then
    return { timeouts with requestSeconds := ← word value }
  else .ok timeouts

def changeOutput (directory : Option Path) (name : String) (value : Toml) :
    Decoded (Option Path) :=
  if name == "screenshot_dir" then return some ↑(← text value) else .ok directory

def webDriverNames : List String := ["url", "browser", "headless", "window_width", "window_height"]

def timeoutNames : List String :=
  ["default_command_ms", "poll_interval_ms", "page_load_ms", "request_secs"]

/-- A section of the file changes its part of the settings. -/
def change (settings : Settings) (name : String) (value : Toml) : Decoded Settings :=
  if name == "target" then
    return { settings with baseUrl := ← readSection ["base_url"] changeTarget settings.baseUrl value }
  else if name == "webdriver" then
    return { settings with
      webDriver := ← readSection webDriverNames changeWebDriver settings.webDriver value }
  else if name == "timeouts" then
    return { settings with
      timeouts := ← readSection timeoutNames changeTimeouts settings.timeouts value }
  else if name == "output" then
    return { settings with
      screenshotDirectory :=
        ← readSection ["screenshot_dir"] changeOutput settings.screenshotDirectory value }
  else .ok settings

/-- The settings that a file describes, on top of the defaults. -/
def decode (document : String) : Decoded Settings :=
  match Toml.parse? document with
  | none => .error .malformed
  | some entries =>
    entries.foldlM (fun settings (name, value) => change settings name value) {}

/-- Polls without a delay between them would never let time pass. -/
def ofText (document : String) : Except Error Settings :=
  match decode document with
  | .error reason => .error (.configParse reason.message)
  | .ok settings =>
    if settings.timeouts.pollInterval = 0 then
      .error (.configParse "timeouts.poll_interval_ms must be greater than zero")
    else .ok settings

end Settings

/-- What the command line says about a run. -/
structure Overrides where
  baseUrl : Option String := none
  webDriverUrl : Option String := none
  browser : Option String := none
  headed : Bool := false
  timeout : Option UInt64 := none
  screenshotDirectory : Option Path := none
  json : Bool := false
  verbose : Bool := false
deriving DecidableEq, Repr

namespace Settings

/-- The address of the server is overridden first. -/
def overrideServer (settings : Settings) (overrides : Overrides) : Settings :=
  match overrides.webDriverUrl with
  | some url => { settings with webDriver := { settings.webDriver with url } }
  | none => settings

/-- A known browser and everything after it. -/
def overrideRest (settings : Settings) (overrides : Overrides) (browser : BrowserKind) :
    Settings :=
  let webDriver := { settings.webDriver with
    browser
    headless := settings.webDriver.headless && !overrides.headed }
  let timeouts := { settings.timeouts with
    defaultCommand := overrides.timeout.getD settings.timeouts.defaultCommand }
  { settings with
    webDriver
    timeouts
    screenshotDirectory := overrides.screenshotDirectory.or settings.screenshotDirectory }

/-- The settings with the overrides in place. A browser that is not known ends the work after the
address of the server. -/
def override (settings : Settings) (overrides : Overrides) : Settings × Except Error Unit :=
  let addressed := settings.overrideServer overrides
  match overrides.browser with
  | none => (addressed.overrideRest overrides addressed.webDriver.browser, .ok ())
  | some name =>
    match BrowserKind.ofText name with
    | .ok browser => (addressed.overrideRest overrides browser, .ok ())
    | .error error => (addressed, .error error)

/-- The base URL comes from the command line, then the scenario, then the file. -/
def runOptions (settings : Settings) (scenarioBaseUrl : Option String) (overrides : Overrides) :
    RunOptions where
  baseUrl := (overrides.baseUrl.or scenarioBaseUrl).getD settings.baseUrl
  defaultTimeout := settings.timeouts.defaultCommand.toNat
  pollInterval := settings.timeouts.pollInterval.toNat
  screenshotDirectory := settings.screenshotDirectory
  verbose := overrides.verbose
  quiet := overrides.json

theorem pollInterval_override (settings : Settings) (overrides : Overrides) :
    (settings.override overrides).1.timeouts.pollInterval = settings.timeouts.pollInterval := by
  unfold override overrideServer
  split <;> split <;> (try split) <;> rfl

theorem pollInterval_pos_of_ofText {document : String} {settings : Settings}
    (read : ofText document = .ok settings) : 0 < settings.timeouts.pollInterval.toNat := by
  unfold ofText at read
  split at read
  · cases read
  · split at read
    · cases read
    next positive =>
      cases read
      exact Nat.pos_of_ne_zero fun zero => positive (UInt64.toNat_inj.mp zero)

/-- A run with the settings of a file, or with the defaults, always lets time pass between two
looks. -/
theorem pollInterval_pos {settings : Settings}
    (loaded : settings = {} ∨ ∃ document, ofText document = .ok settings)
    (scenarioBaseUrl : Option String) (overrides : Overrides) :
    0 < ((settings.override overrides).1.runOptions scenarioBaseUrl overrides).pollInterval := by
  change 0 < (settings.override overrides).1.timeouts.pollInterval.toNat
  rw [pollInterval_override]
  rcases loaded with rfl | ⟨document, read⟩
  · decide
  · exact pollInterval_pos_of_ofText read

end Settings

end ScenarioRunner
