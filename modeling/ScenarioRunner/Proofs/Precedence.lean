import ScenarioRunner.Proofs.Given
import ScenarioRunner.WebDriver.Messages

/-!
Where the settings of a run come from. The command line comes first, then the scenario, then the file and
then the defaults; the session that a run asks for is described by the settings that are left.
-/

namespace ScenarioRunner

namespace WebDriver

/-- The value at the end of a path of members. -/
def memberAt? (path : List String) (value : Json) : Option Json :=
  path.foldlM (fun value name => value.get? name) value

/-- Where the options stand that only one browser understands. -/
def optionsKey : BrowserKind → String
  | .chrome => "goog:chromeOptions"
  | .firefox => "moz:firefoxOptions"

/-- What makes a browser run without a window. -/
def headlessSwitch : BrowserKind → String
  | .chrome => "--headless=new"
  | .firefox => "-headless"

/-- What gives the window of a browser its size. -/
def sizeSwitches (width height : UInt32) : BrowserKind → List String
  | .chrome => ["--window-size=" ++ toString width ++ "," ++ toString height]
  | .firefox => ["--width=" ++ toString width, "--height=" ++ toString height]

/-- The arguments that a browser is started with, if the request has options for it. -/
def switches? (body : Json) (browser : BrowserKind) : Option (List String) := do
  let options ← memberAt? ["capabilities", "alwaysMatch", optionsKey browser] body
  (← (← options.get? "args").array?).mapM Json.text?

/-- The request is for the one browser, with or without a window, and for nothing of any other. -/
structure AsksFor (body : Json) (browser : BrowserKind) (headless : Bool)
    (width height : UInt32) (pageLoad : UInt64) : Prop where
  named : memberAt? ["capabilities", "alwaysMatch", "browserName"] body = some (.text browser.name)
  loads : memberAt? ["capabilities", "alwaysMatch", "timeouts", "pageLoad"] body =
    some (.nat pageLoad.toNat)
  alone : ∀ other, (memberAt? ["capabilities", "alwaysMatch", optionsKey other] body).isSome ↔
    other = browser
  starts : ∃ switches, switches? body browser = some switches ∧
    sizeSwitches width height browser <+: switches ∧
    (headlessSwitch browser ∈ switches ↔ headless = true)

/-- The size of a window says nothing about whether there is one. -/
theorem headlessSwitch_not_mem_sizeSwitches (width height : UInt32) (browser : BrowserKind) :
    headlessSwitch browser ∉ sizeSwitches width height browser := by
  -- the third letter tells them apart
  have letter {text other : String} (same : text = other) :
      text.toList[2]? = other.toList[2]? := by rw [same]
  cases browser with
  | chrome =>
      simp only [headlessSwitch, sizeSwitches, List.mem_singleton]
      intro same
      simpa using letter same
  | firefox =>
      simp only [headlessSwitch, sizeSwitches, List.mem_cons, List.not_mem_nil, or_false, not_or]
      exact ⟨fun same => by simpa using letter same, fun same => by simpa using letter same⟩

theorem asksFor_sessionBody (settings : WebDriverSettings) (pageLoad : UInt64) :
    AsksFor (sessionBody settings pageLoad) settings.browser settings.headless settings.windowWidth
      settings.windowHeight pageLoad := by
  obtain ⟨url, browser, headless, width, height⟩ := settings
  have unsized := headlessSwitch_not_mem_sizeSwitches width height browser
  constructor
  · cases browser <;> rfl
  · cases browser <;> rfl
  · intro other
    rw [← decide_eq_true_iff (p := other = browser), ← Bool.eq_iff_iff]
    cases browser <;> cases other <;> rfl
  · have sized : ∃ more, switches? (sessionBody ⟨url, browser, headless, width, height⟩ pageLoad)
          browser = some (sizeSwitches width height browser ++ more) ∧
        (headlessSwitch browser ∈ more ↔ headless = true) := by
      cases browser with
      | chrome =>
          refine ⟨if headless then ["--headless=new", "--disable-gpu"] else [], ?_, ?_⟩
          · cases headless <;> rfl
          · cases headless <;> decide
      | firefox =>
          refine ⟨if headless then ["-headless"] else [], ?_, ?_⟩
          · cases headless <;> rfl
          · cases headless <;> decide
    obtain ⟨more, read, windowless⟩ := sized
    refine ⟨_, read, List.prefix_append _ _, ?_⟩
    rw [List.mem_append, or_iff_right unsized, windowless]

end WebDriver

namespace BrowserKind

/-- A browser is found by the spellings that are understood, in any letter case. -/
theorem ofText_eq_ok_iff {name : String} {browser : BrowserKind} :
    ofText name = .ok browser ↔ (Text.lower name, browser) ∈ spellings := by
  constructor
  · intro found
    rw [ofText] at found
    split at found
    next kind listed =>
      cases found
      obtain ⟨front, back, split, -⟩ := List.lookup_eq_some_iff.mp listed
      rw [split]
      simp
    next => cases found
  · intro member
    simp only [spellings, List.mem_cons, Prod.mk.injEq, List.not_mem_nil, or_false] at member
    rcases member with ⟨spelled, rfl⟩ | ⟨spelled, rfl⟩ | ⟨spelled, rfl⟩
    all_goals
      rw [ofText, spelled]
      rfl

end BrowserKind

namespace Settings

/-- What the settings become when the browser of the command line, if it names one, is known. -/
theorem override_of_ok {settings : Settings} {overrides : Overrides}
    (applied : (settings.override overrides).2 = .ok ()) :
    ∃ browser, settings.override overrides =
        ({ settings with
            webDriver := { settings.webDriver with
              url := overrides.webDriverUrl.getD settings.webDriver.url
              browser
              headless := settings.webDriver.headless && !overrides.headed }
            timeouts := { settings.timeouts with
              defaultCommand := overrides.timeout.getD settings.timeouts.defaultCommand }
            screenshotDirectory :=
              overrides.screenshotDirectory.or settings.screenshotDirectory }, .ok ()) ∧
      match overrides.browser with
      | some name => BrowserKind.ofText name = .ok browser
      | none => browser = settings.webDriver.browser := by
  obtain ⟨baseUrl, serverUrl, name, headed, timeout, directory, json, verbose⟩ := overrides
  cases name with
  | none =>
      refine ⟨settings.webDriver.browser, ?_, rfl⟩
      cases serverUrl <;> rfl
  | some name =>
      cases known : BrowserKind.ofText name with
      | error error => simp [override, known] at applied
      | ok browser =>
          refine ⟨browser, ?_, known⟩
          cases serverUrl <;> simp [override, overrideServer, overrideRest, known]

/-- Whether overrides succeed does not depend on the settings that they are for. -/
theorem override_snd_eq (settings other : Settings) (overrides : Overrides) :
    (settings.override overrides).2 = (other.override overrides).2 := by
  unfold override
  cases overrides.browser with
  | none => rfl
  | some name =>
      dsimp only
      cases BrowserKind.ofText name <;> rfl

/-- Overrides that are in place change nothing when they are applied again. -/
theorem override_override {settings : Settings} {overrides : Overrides}
    (applied : (settings.override overrides).2 = .ok ()) :
    (settings.override overrides).1.override overrides =
      ((settings.override overrides).1, .ok ()) := by
  have applied_again : ((settings.override overrides).1.override overrides).2 = .ok () :=
    (override_snd_eq _ settings overrides).trans applied
  obtain ⟨browser, changed, known⟩ := override_of_ok applied
  obtain ⟨second, changed_again, known_again⟩ := override_of_ok applied_again
  have same : second = browser := by
    cases named : overrides.browser with
    | none =>
        simp only [named] at known_again
        rw [known_again, changed]
    | some name =>
        simp only [named] at known known_again
        exact Except.ok.inj (known_again.symm.trans known)
  rw [changed_again, changed, same]
  obtain ⟨_, serverUrl, _, headed, timeout, directory, _, _⟩ := overrides
  cases serverUrl <;> cases timeout <;> cases directory <;> simp

end Settings

/-- What a run is told and what its session is asked to be. Each setting comes from the first place that
gives it, in the order of the command line, the scenario, the file and the defaults. -/
structure Precedence (given : GivenSettings) (scenario : Scenario) (overrides : Overrides)
    (chosen : Settings) (options : RunOptions) (request : SessionRequest) : Prop where
  baseUrl : options.baseUrl =
    ((overrides.baseUrl.or scenario.baseUrl).or given.baseUrl).getD "http://localhost:11011"
  defaultTimeout : options.defaultTimeout =
    ((overrides.timeout.or given.timeouts.defaultCommand).getD 4000).toNat
  pollInterval : options.pollInterval = (given.timeouts.pollInterval.getD 100).toNat
  screenshotDirectory : options.screenshotDirectory =
    overrides.screenshotDirectory.or given.screenshotDirectory
  serverUrl : request.serverUrl =
    (overrides.webDriverUrl.or given.webDriver.url).getD "http://localhost:4444"
  requestSeconds : request.requestSeconds = (given.timeouts.requestSeconds.getD 60).toNat
  browser : match overrides.browser with
    | some name => (Text.lower name, chosen.webDriver.browser) ∈ BrowserKind.spellings
    | none => chosen.webDriver.browser = given.webDriver.browser.getD .chrome
  capabilities : WebDriver.AsksFor request.capabilities chosen.webDriver.browser
    (given.webDriver.headless.getD true && !overrides.headed)
    (given.webDriver.windowWidth.getD 1280) (given.webDriver.windowHeight.getD 900)
    (given.timeouts.pageLoad.getD 60000)

/-- Settings follow one order of precedence from the file to the session. A file that is accepted gives
each setting at most once, under its own key. When the browser of the command line is known, all settings
of all runs come from the first of the command line, the scenario, the file and the defaults that gives
them; settings without a flag stay as they are in the file, and flags that are applied again change
nothing. -/
theorem Settings.settled_in_order {text : String} {settings : Settings} {overrides : Overrides}
    (accepted : ofText text = .ok settings) (applied : (settings.override overrides).2 = .ok ()) :
    let chosen := (settings.override overrides).1
    ∃ document given, Toml.parse? text = some document ∧ Toml.DistinctKeys document ∧
      GivenSettings.ofDocument document = .ok given ∧ settings = given.settings ∧
      (∀ scenario, Precedence given scenario overrides chosen
        (chosen.runOptions scenario.baseUrl overrides) (WebDriver.sessionRequest chosen)) ∧
      chosen = { settings with
        webDriver := { settings.webDriver with
          url := chosen.webDriver.url
          browser := chosen.webDriver.browser
          headless := chosen.webDriver.headless }
        timeouts := { settings.timeouts with
          defaultCommand := chosen.timeouts.defaultCommand }
        screenshotDirectory := chosen.screenshotDirectory } ∧
      chosen.override overrides = (chosen, .ok ()) := by
  intro chosen
  obtain ⟨document, given, parsed, distinct, read, rfl⟩ := given_of_ofText accepted
  obtain ⟨browser, changed, known⟩ := override_of_ok applied
  have chosen_eq : chosen = _ := congrArg Prod.fst changed
  refine ⟨document, given, parsed, distinct, read, rfl, fun scenario => ?_, ?_,
    override_override applied⟩
  · rw [chosen_eq]
    exact {
      baseUrl := by
        rw [Option.getD_or]
        rfl
      defaultTimeout := by
        rw [Option.getD_or]
        rfl
      pollInterval := rfl
      screenshotDirectory := rfl
      serverUrl := by
        rw [Option.getD_or]
        rfl
      requestSeconds := rfl
      browser := by
        cases named : overrides.browser with
        | none =>
            simp only [named] at known
            exact known
        | some name =>
            simp only [named] at known
            exact BrowserKind.ofText_eq_ok_iff.mp known
      capabilities := WebDriver.asksFor_sessionBody _ _ }
  · rw [chosen_eq]

/-- The command line names a browser in its own way and asks for a window, a scenario has an address of its
own, and a file gives the rest in three notations. -/
theorem Settings.settled_in_order_mixed :
    let text := "target.base_url = \"http://file\"\nwebdriver = \x7burl = \"http://grid\", " ++
      "window_width = 800\x7d\n[timeouts]\npage_load_ms = 5_000\n[output]\nscreenshot_dir = 'shots'\n"
    let settings : Settings := {
      baseUrl := "http://file"
      webDriver := { url := "http://grid", windowWidth := 800 }
      timeouts := { pageLoad := 5000 }
      screenshotDirectory := some "shots" }
    let overrides : Overrides := { browser := some "FireFox", headed := true, timeout := some 250 }
    let chosen := (settings.override overrides).1
    let options := chosen.runOptions (some "http://scenario") overrides
    let request := WebDriver.sessionRequest chosen
    ofText text = .ok settings ∧ (settings.override overrides).2 = .ok () ∧
      options.baseUrl = "http://scenario" ∧ options.defaultTimeout = 250 ∧
      options.screenshotDirectory = some "shots" ∧ request.serverUrl = "http://grid" ∧
      WebDriver.AsksFor request.capabilities .firefox false 800 900 5000 ∧
      chosen.override overrides = (chosen, .ok ()) := by
  intro text settings overrides chosen options request
  have accepted : ofText text = .ok settings := by decide +kernel
  have applied : (settings.override overrides).2 = .ok () := by decide +kernel
  obtain ⟨document, given, -, -, -, same, precedence, -, again⟩ := settled_in_order accepted applied
  have first := precedence ⟨"s", none, some "http://scenario", [], []⟩
  have server : given.webDriver.url.getD _ = "http://grid" :=
    (congrArg (fun settings => settings.webDriver.url) same).symm
  have width : given.webDriver.windowWidth.getD 1280 = 800 :=
    (congrArg (fun settings => settings.webDriver.windowWidth) same).symm
  have height : given.webDriver.windowHeight.getD 900 = 900 :=
    (congrArg (fun settings => settings.webDriver.windowHeight) same).symm
  have load : given.timeouts.pageLoad.getD 60000 = 5000 :=
    (congrArg (fun settings => settings.timeouts.pageLoad) same).symm
  have directory : given.screenshotDirectory = some "shots" :=
    (congrArg (fun settings => settings.screenshotDirectory) same).symm
  have windowed : (given.webDriver.headless.getD true && !overrides.headed) = false :=
    Bool.and_false _
  have asked := first.capabilities
  rw [windowed, width, height, load] at asked
  exact ⟨accepted, applied, first.baseUrl, first.defaultTimeout,
    first.screenshotDirectory.trans directory, first.serverUrl.trans server, asked, again⟩

end ScenarioRunner
