import ScenarioRunner.Proofs.Grounding
import ScenarioRunner.Proofs.Uniqueness
import ScenarioRunner.Settings

/-!
What a file gives of the settings, key by key. Reading a file goes through its entries in their order;
each of them changes one setting, so that every setting has the value of its own key, or its default when
the file does not have the key.
-/

namespace ScenarioRunner

/-- What a file gives of the browser and of the server that drives it. -/
structure GivenWebDriver where
  url : Option String
  browser : Option BrowserKind
  headless : Option Bool
  windowWidth : Option UInt32
  windowHeight : Option UInt32

/-- What a file gives of the times. -/
structure GivenTimeouts where
  defaultCommand : Option UInt64
  pollInterval : Option UInt64
  pageLoad : Option UInt64
  requestSeconds : Option UInt64

/-- What a file gives of the settings. -/
structure GivenSettings where
  baseUrl : Option String
  webDriver : GivenWebDriver
  timeouts : GivenTimeouts
  screenshotDirectory : Option Path

def GivenWebDriver.settings (given : GivenWebDriver) : WebDriverSettings where
  url := given.url.getD "http://localhost:4444"
  browser := given.browser.getD .chrome
  headless := given.headless.getD true
  windowWidth := given.windowWidth.getD 1280
  windowHeight := given.windowHeight.getD 900

def GivenTimeouts.settings (given : GivenTimeouts) : Timeouts where
  defaultCommand := given.defaultCommand.getD 4000
  pollInterval := given.pollInterval.getD 100
  pageLoad := given.pageLoad.getD 60000
  requestSeconds := given.requestSeconds.getD 60

/-- What is given, and the defaults for everything else. -/
def GivenSettings.settings (given : GivenSettings) : Settings where
  baseUrl := given.baseUrl.getD "http://localhost:11011"
  webDriver := given.webDriver.settings
  timeouts := given.timeouts.settings
  screenshotDirectory := given.screenshotDirectory

section Reading

open Settings

variable (entries : Toml.Entries)

/-- The value of a key in a section, if the section has the key. -/
def givenAt {α : Type} (key : String) (read : Toml → Decoded α) : Decoded (Option α) :=
  (entries.lookup key).mapM read

/-- A path that is written as a text. -/
def path (value : Toml) : Decoded Path := Path.ofText <$> text value

def GivenWebDriver.ofSection : Decoded GivenWebDriver := do
  return {
    url := ← givenAt entries "url" text
    browser := ← givenAt entries "browser" browserKind
    headless := ← givenAt entries "headless" truth
    windowWidth := ← givenAt entries "window_width" halfWord
    windowHeight := ← givenAt entries "window_height" halfWord }

def GivenTimeouts.ofSection : Decoded GivenTimeouts := do
  return {
    defaultCommand := ← givenAt entries "default_command_ms" word
    pollInterval := ← givenAt entries "poll_interval_ms" word
    pageLoad := ← givenAt entries "page_load_ms" word
    requestSeconds := ← givenAt entries "request_secs" word }

/-- The fields of a section; a document without the section has none. -/
def sectionOf (names : List String) (title : String) : Decoded Toml.Entries :=
  match entries.lookup title with
  | none => .ok []
  | some table => fields names table

/-- The settings that a document gives, each looked up on its own. -/
def GivenSettings.ofDocument : Decoded GivenSettings := do
  return {
    baseUrl := ← givenAt (← sectionOf entries ["base_url"] "target") "base_url" text
    webDriver := ← GivenWebDriver.ofSection (← sectionOf entries webDriverNames "webdriver")
    timeouts := ← GivenTimeouts.ofSection (← sectionOf entries timeoutNames "timeouts")
    screenshotDirectory :=
      ← givenAt (← sectionOf entries ["screenshot_dir"] "output") "screenshot_dir" path }

end Reading

namespace Settings

/-- A part of a state that changes with the value of one name only. -/
structure Governs {σ α : Type} (step : σ → String → Toml → Decoded σ) (name : String)
    (part : σ → α) (read : α → Toml → Decoded α) : Prop where
  own : ∀ {state next : σ} {value : Toml}, step state name value = .ok next →
    read (part state) value = .ok (part next)
  others : ∀ {state next : σ} {other : String} {value : Toml}, other ≠ name →
    step state other value = .ok next → part next = part state

variable {σ α β : Type} {step : σ → String → Toml → Decoded σ} {name : String} {part : σ → α}
  {read : α → Toml → Decoded α}

/-- Among entries with a key each the part is read from its own entry. -/
theorem Governs.of_foldlM (governs : Governs step name part read) {entries : Toml.Entries}
    (once : (entries.map Prod.fst).Nodup) {start final : σ}
    (folded : entries.foldlM (fun current (name, value) => step current name value) start =
      .ok final) :
    match entries.lookup name with
    | none => part final = part start
    | some value => read (part start) value = .ok (part final) := by
  induction entries generalizing start with
  | nil =>
      cases folded
      rfl
  | cons entry rest ih =>
      obtain ⟨other, value⟩ := entry
      obtain ⟨next, changed, continued⟩ := ok_of_bind folded
      obtain ⟨alone, rest_once⟩ := List.nodup_cons.mp once
      have later := ih rest_once continued
      rw [List.lookup_cons]
      by_cases own : name = other
      · -- no later entry has the name, so the part keeps what this one gives it
        subst own
        have absent : rest.lookup name = none := by
          refine List.lookup_eq_none_iff.mpr fun entry member => ?_
          have different : name ≠ entry.1 := fun same =>
            alone (List.mem_map.mpr ⟨entry, member, same.symm⟩)
          simpa using different
        simp only [absent] at later
        simp only [beq_self_eq_true, later]
        exact governs.own changed
      · have kept := governs.others (Ne.symm own) changed
        simp only [beq_false_of_ne own]
        rwa [kept] at later

/-- A part that a change sets is what was read for it. -/
theorem read_of_bind {result : Decoded α} {set : α → σ} {next : σ}
    (changed : (do return set (← result)) = .ok next) (sets : ∀ value, part (set value) = value) :
    result = .ok (part next) := by
  obtain ⟨value, read, same⟩ := ok_of_bind changed
  cases same
  rw [sets, read]

/-- A part that a change does not set stays as it was. -/
theorem part_of_bind {result : Decoded β} {set : β → σ} {next : σ} {kept : α}
    (changed : (do return set (← result)) = .ok next) (unset : ∀ value, part (set value) = kept) :
    part next = kept := by
  obtain ⟨value, -, same⟩ := ok_of_bind changed
  cases same
  exact unset value

/-- The settings of the browser have a key each. -/
theorem governs_changeWebDriver :
    Governs changeWebDriver "url" (·.url) (fun _ => text) ∧
    Governs changeWebDriver "browser" (·.browser) (fun _ => browserKind) ∧
    Governs changeWebDriver "headless" (·.headless) (fun _ => truth) ∧
    Governs changeWebDriver "window_width" (·.windowWidth) (fun _ => halfWord) ∧
    Governs changeWebDriver "window_height" (·.windowHeight) (fun _ => halfWord) := by
  refine ⟨?_, ?_, ?_, ?_, ?_⟩
  all_goals
    constructor
    · intro state next value changed
      rw [changeWebDriver] at changed
      repeat rw [if_neg (by decide)] at changed
      rw [if_pos (by decide)] at changed
      exact read_of_bind changed fun _ => rfl
    · intro state next other value different changed
      simp only [changeWebDriver, beq_iff_eq, different, if_false] at changed
      iterate 4
        split at changed
        · exact part_of_bind changed fun _ => rfl
      cases changed
      rfl

/-- The times have a key each. -/
theorem governs_changeTimeouts :
    Governs changeTimeouts "default_command_ms" (·.defaultCommand) (fun _ => word) ∧
    Governs changeTimeouts "poll_interval_ms" (·.pollInterval) (fun _ => word) ∧
    Governs changeTimeouts "page_load_ms" (·.pageLoad) (fun _ => word) ∧
    Governs changeTimeouts "request_secs" (·.requestSeconds) (fun _ => word) := by
  refine ⟨?_, ?_, ?_, ?_⟩
  all_goals
    constructor
    · intro state next value changed
      rw [changeTimeouts] at changed
      repeat rw [if_neg (by decide)] at changed
      rw [if_pos (by decide)] at changed
      exact read_of_bind changed fun _ => rfl
    · intro state next other value different changed
      simp only [changeTimeouts, beq_iff_eq, different, if_false] at changed
      iterate 3
        split at changed
        · exact part_of_bind changed fun _ => rfl
      cases changed
      rfl

theorem governs_changeTarget : Governs changeTarget "base_url" id (fun _ => text) where
  own changed := changed
  others different changed := by
    simp only [changeTarget, beq_iff_eq, different, if_false] at changed
    cases changed
    rfl

theorem governs_changeOutput :
    Governs changeOutput "screenshot_dir" id (fun _ value => some <$> path value) where
  own {state next value} changed := by
    have own : (do return some (Path.ofText (← text value))) = .ok next := changed
    rw [id, ← own, path]
    cases text value <;> rfl
  others different changed := by
    simp only [changeOutput, beq_iff_eq, different, if_false] at changed
    cases changed
    rfl

/-- The sections of a document have a title each. -/
theorem governs_change :
    Governs change "target" (·.baseUrl) (readSection ["base_url"] changeTarget) ∧
    Governs change "webdriver" (·.webDriver) (readSection webDriverNames changeWebDriver) ∧
    Governs change "timeouts" (·.timeouts) (readSection timeoutNames changeTimeouts) ∧
    Governs change "output" (·.screenshotDirectory)
      (readSection ["screenshot_dir"] changeOutput) := by
  refine ⟨?_, ?_, ?_, ?_⟩
  all_goals
    constructor
    · intro state next value changed
      rw [change] at changed
      repeat rw [if_neg (by decide)] at changed
      rw [if_pos (by decide)] at changed
      exact read_of_bind changed fun _ => rfl
    · intro state next other value different changed
      simp only [change, beq_iff_eq, different, if_false] at changed
      iterate 3
        split at changed
        · exact part_of_bind changed fun _ => rfl
      cases changed
      rfl

/-- The fields of a section have a name each. -/
theorem once_of_fields {names : List String} (named : names.Nodup) {table : Toml}
    (keyed : table.KeyedOnce) {entries : Toml.Entries} (given : fields names table = .ok entries) :
    (entries.map Prod.fst).Nodup := by
  revert given
  have zipped (items : List Toml) : ((names.zip items).map Prod.fst).Nodup := by
    rw [List.zip_eq_zip_take_min, List.map_fst_zip (by simp)]
    exact named.sublist (List.take_sublist _ _)
  fun_cases fields names table with
  | case1 kind entries =>
      rintro ⟨⟩
      exact (Toml.keyedOnce_table_iff.mp keyed).once
  | case2 items => rintro ⟨⟩; exact zipped items
  | case3 elements => rintro ⟨⟩; exact zipped _
  | case4 => nofun

section Sections

variable {entries : Toml.Entries} {start final : σ}

/-- What is given under a key is what the part becomes that the key governs. -/
theorem Governs.given {read : Toml → Decoded α} (governs : Governs step name part fun _ => read)
    (once : (entries.map Prod.fst).Nodup)
    (folded : entries.foldlM (fun current (name, value) => step current name value) start =
      .ok final) :
    ∃ given, givenAt entries name read = .ok given ∧ part final = given.getD (part start) := by
  have own := governs.of_foldlM once folded
  cases found : entries.lookup name with
  | none =>
      simp only [found] at own
      exact ⟨none, by rw [givenAt, found]; rfl, own⟩
  | some value =>
      simp only [found] at own
      refine ⟨some (part final), ?_, rfl⟩
      rw [givenAt, found, Option.mapM_some, own]
      rfl

theorem given_of_changeWebDriver (once : (entries.map Prod.fst).Nodup) {settings : WebDriverSettings}
    (folded : entries.foldlM (fun current (name, value) => changeWebDriver current name value) {} =
      .ok settings) :
    ∃ given, GivenWebDriver.ofSection entries = .ok given ∧ settings = given.settings := by
  obtain ⟨urls, browsers, headless, widths, heights⟩ := governs_changeWebDriver
  obtain ⟨url, read_url, same_url⟩ := urls.given once folded
  obtain ⟨browser, read_browser, same_browser⟩ := browsers.given once folded
  obtain ⟨windowless, read_headless, same_headless⟩ := headless.given once folded
  obtain ⟨width, read_width, same_width⟩ := widths.given once folded
  obtain ⟨height, read_height, same_height⟩ := heights.given once folded
  refine ⟨⟨url, browser, windowless, width, height⟩, ?_, ?_⟩
  · simp only [GivenWebDriver.ofSection, read_url, read_browser, read_headless, read_width,
      read_height]
    rfl
  · obtain ⟨_, _, _, _, _⟩ := settings
    cases same_url
    cases same_browser
    cases same_headless
    cases same_width
    cases same_height
    rfl

theorem given_of_changeTimeouts (once : (entries.map Prod.fst).Nodup) {timeouts : Timeouts}
    (folded : entries.foldlM (fun current (name, value) => changeTimeouts current name value) {} =
      .ok timeouts) :
    ∃ given, GivenTimeouts.ofSection entries = .ok given ∧ timeouts = given.settings := by
  obtain ⟨commands, polls, loads, requests⟩ := governs_changeTimeouts
  obtain ⟨command, read_command, same_command⟩ := commands.given once folded
  obtain ⟨poll, read_poll, same_poll⟩ := polls.given once folded
  obtain ⟨load, read_load, same_load⟩ := loads.given once folded
  obtain ⟨request, read_request, same_request⟩ := requests.given once folded
  refine ⟨⟨command, poll, load, request⟩, ?_, ?_⟩
  · simp only [GivenTimeouts.ofSection, read_command, read_poll, read_load, read_request]
    rfl
  · obtain ⟨_, _, _, _⟩ := timeouts
    cases same_command
    cases same_poll
    cases same_load
    cases same_request
    rfl

theorem given_of_changeOutput (once : (entries.map Prod.fst).Nodup) {directory : Option Path}
    (folded : entries.foldlM (fun current (name, value) => changeOutput current name value) none =
      .ok directory) :
    givenAt entries "screenshot_dir" path = .ok directory := by
  have own := governs_changeOutput.of_foldlM once folded
  rw [givenAt]
  cases found : entries.lookup "screenshot_dir" with
  | none =>
      simp only [found] at own
      cases own
      rfl
  | some value =>
      simp only [found] at own
      exact own

end Sections

/-- The part of the settings that a section governs goes through the fields of the section. -/
theorem Governs.in_section {part : Settings → σ} {title : String} {names : List String}
    (governs : Governs change title part (readSection names step)) (named : names.Nodup)
    {document : Toml.Entries} (distinct : Toml.DistinctKeys document) {settings : Settings}
    (decoded : document.foldlM (fun settings (name, value) => change settings name value) {} =
      .ok settings) :
    ∃ entries, sectionOf document names title = .ok entries ∧ (entries.map Prod.fst).Nodup ∧
      entries.foldlM (fun current (name, value) => step current name value) (part {}) =
        .ok (part settings) := by
  have own := governs.of_foldlM distinct.once decoded
  cases titled : document.lookup title with
  | none =>
      simp only [titled] at own
      refine ⟨[], by rw [sectionOf, titled], List.nodup_nil, ?_⟩
      rw [own]
      rfl
  | some table =>
      simp only [titled] at own
      obtain ⟨entries, listed, folded⟩ := ok_of_bind own
      refine ⟨entries, by rw [sectionOf, titled]; exact listed, ?_, folded⟩
      exact once_of_fields named (distinct.of_lookup titled) listed

theorem decode_of_ofText {text : String} {settings : Settings} (accepted : ofText text = .ok settings) :
    decode text = .ok settings := by
  rw [ofText] at accepted
  split at accepted
  next => cases accepted
  next read decoded =>
    split at accepted
    next => cases accepted
    next =>
      cases accepted
      exact decoded

/-- A file that is accepted gives each setting under its own key, and those that it leaves out have their
defaults. -/
theorem given_of_ofText {text : String} {settings : Settings} (accepted : ofText text = .ok settings) :
    ∃ document given, Toml.parse? text = some document ∧ Toml.DistinctKeys document ∧
      GivenSettings.ofDocument document = .ok given ∧ settings = given.settings := by
  have decoded := decode_of_ofText accepted
  cases parsed : Toml.parse? text with
  | none => simp [decode, parsed] at decoded
  | some document =>
      simp only [decode, parsed] at decoded
      have distinct := Toml.distinctKeys_of_parse parsed
      obtain ⟨target, webDriver, timeouts, output⟩ := governs_change
      obtain ⟨_, listed_target, once, folded⟩ := target.in_section (by decide) distinct decoded
      obtain ⟨baseUrl, read_target, same_target⟩ := governs_changeTarget.given once folded
      obtain ⟨_, listed_driver, once, folded⟩ := webDriver.in_section (by decide) distinct decoded
      obtain ⟨driver, read_driver, same_driver⟩ := given_of_changeWebDriver once folded
      obtain ⟨_, listed_times, once, folded⟩ := timeouts.in_section (by decide) distinct decoded
      obtain ⟨times, read_times, same_times⟩ := given_of_changeTimeouts once folded
      obtain ⟨_, listed_output, once, folded⟩ := output.in_section (by decide) distinct decoded
      have read_output := given_of_changeOutput once folded
      refine ⟨document, ⟨baseUrl, driver, times, settings.screenshotDirectory⟩, rfl, distinct, ?_, ?_⟩
      · simp only [GivenSettings.ofDocument, bind, Except.bind, listed_target, read_target,
          listed_driver, read_driver, listed_times, read_times, listed_output, read_output]
        rfl
      · obtain ⟨_, _, _, _⟩ := settings
        cases same_target
        cases same_driver
        cases same_times
        rfl

end Settings

end ScenarioRunner
