import ScenarioRunner.Proofs.Course
import ScenarioRunner.Proofs.Screenshots
import ScenarioRunner.Proofs.Silence

/-!
The sessions of a command to run. Each scenario is run in a session of its own, which is closed before
the next one is asked for, and the first session that is refused ends the runs.
-/

namespace ScenarioRunner

variable {σ : Type} {host : Host σ}

namespace Run

end Run

namespace CommandLine

section Runs

variable {settings : Settings} {overrides : Overrides} {before after : World σ}
  {journal : List JournalEntry}

end Runs

section Readiness

variable {locations : Locations} {paths : List Path} {builtin : Option String}
  {overrides : Overrides} {world : World σ}

/-- There is one way to be ready. -/
theorem Ready.unique {settings settings' : Settings} {scenarios scenarios' : List Scenario}
    (ready : Ready host locations paths builtin overrides world settings scenarios)
    (again : Ready host locations paths builtin overrides world settings' scenarios') :
    settings = settings' ∧ scenarios = scenarios' := by
  have same := ready.run_prepare.symm.trans again.run_prepare
  exact Prod.mk.inj (Except.ok.inj (congrArg Prod.fst same))

/-- Settings that are loaded are those of a text, or the defaults. -/
theorem ofText_of_loadSettings {read : Settings}
    (loaded : ((loadSettings locations).run.run host world).1 = .ok read) :
    read = {} ∨ ∃ text, Settings.ofText text = .ok read := by
  obtain ⟨_, _, present, _, -, continued, -⟩ :=
    Attempt.runs_lift_bind_iff.mp (Attempt.runs_of_outcome loaded)
  cases present with
  | false =>
      obtain ⟨same, -, -⟩ := Attempt.runs_pure_iff.mp continued
      cases same
      exact .inl rfl
  | true =>
      rcases Attempt.runs_bind_iff.mp continued with ⟨error, -, same⟩ | ⟨_, _, text, _, -, parsed, -⟩
      · cases same
      · exact .inr ⟨text, (Attempt.runs_result_iff.mp parsed).1.symm⟩

/-- Scenarios that are loaded have been validated. -/
theorem Requested.validate_of_load {request : Requested} {scenario : Scenario}
    (loaded : (request.load.run.run host world).1 = .ok scenario) : scenario.validate = .ok () := by
  cases request with
  | builtin name =>
      have read : Scenario.builtin name = .ok scenario := loaded
      obtain ⟨text, -, parsed⟩ := ok_of_bind read
      exact Scenario.validate_of_fromYaml parsed
  | file path =>
      rcases Attempt.runs_bind_iff.mp (Attempt.runs_of_outcome loaded) with
        ⟨error, -, same⟩ | ⟨_, _, result, _, kept, told, -⟩
      · cases same
      obtain ⟨_, read, same⟩ := Attempt.runs_outcome_iff.mp kept
      cases same
      cases result with
      | error error => cases (Attempt.runs_throw_iff.mp told).1
      | ok own =>
          obtain ⟨same, -, -⟩ := Attempt.runs_pure_iff.mp told
          cases same
          rcases Attempt.runs_bind_iff.mp read with ⟨error, -, same⟩ | ⟨_, _, text, _, -, parsed, -⟩
          · cases same
          · exact Scenario.validate_of_fromYaml (Attempt.runs_result_iff.mp parsed).1.symm

theorem Ready.validated {settings : Settings} {scenarios : List Scenario}
    (ready : Ready host locations paths builtin overrides world settings scenarios) :
    ∀ scenario ∈ scenarios, scenario.validate = .ok () := by
  have each := ready.scenarios
  clear ready
  generalize requested paths builtin = requests at each
  induction each with
  | nil => simp
  | cons loaded _ ih => exact List.forall_mem_cons.mpr ⟨Requested.validate_of_load loaded, ih⟩

theorem Ready.waits {settings : Settings} {scenarios : List Scenario}
    (ready : Ready host locations paths builtin overrides world settings scenarios)
    (baseUrl : Option String) : 0 < (settings.runOptions baseUrl overrides).pollInterval := by
  obtain ⟨read, loaded, known⟩ := ready.settings
  have positive := Settings.pollInterval_pos (ofText_of_loadSettings loaded) baseUrl overrides
  rwa [known] at positive

end Readiness

end CommandLine

namespace CommandLine

open Text

end CommandLine

/-- The refusal of a session where another one is open. -/
def Error.busy : Error := .webDriver "session not created" "busy"

/-- A page on which everything passes, in a browser that starts one session only. -/
def Host.single : Host Bool where
  openSession _ _ taken := ⟨if taken then .error .busy else .ok (), 0, true⟩
  call call now taken := ⟨(Host.agreeable.call call now ()).answer, 0, taken⟩

/-- The directory of the screenshots is no text, so that the failure of the run is not told as data. -/
example : ((CommandLine.runScenarios ⟨"", ""⟩ ["s"] none
    { json := true, screenshotDirectory := some [0xFF] }).run.run (.picturing ⟨#[137]⟩)
      (.start () .withOpening)).1 =
    .error (.failed (.json "path contains invalid UTF-8 characters")) := by
  decide +kernel

end ScenarioRunner
