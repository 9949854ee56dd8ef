import ScenarioRunner.CommandLine.Commands
import ScenarioRunner.Proofs.Printing

/-!
What a command to run does before its first session and after its last. Before, it only reads: it
changes nothing, leaves nothing in the journal and prints nothing. After, it tells of the reports.
-/

namespace ScenarioRunner

variable {σ α β ε : Type} {host : Host σ}

/-- What comes after an attempt that passes goes on where it ended. -/
theorem Program.run_ok_bind {attempt : Attempt ε α} {next : α → Attempt ε β}
    {world after : World σ} {value : α}
    (passed : attempt.run.run host world = (.ok value, after)) :
    (attempt >>= next).run.run host world = (next value).run.run host after := by
  rw [ExceptT.run_bind, run_bind, passed]

/-- An attempt that fails ends what it was the first part of. -/
theorem Program.run_error_bind {attempt : Attempt ε α} {next : α → Attempt ε β}
    {world after : World σ} {fault : ε}
    (failed : attempt.run.run host world = (.error fault, after)) :
    (attempt >>= next).run.run host world = (.error fault, after) := by
  rw [ExceptT.run_bind, run_bind, failed]
  rfl

/-- A program that leaves the world as it is and nothing in the journal. -/
structure Program.OnlyReads (host : Host σ) (program : Program α) : Prop where
  still : ∀ world, (program.run host world).2 = world
  unrecorded : ∀ world, program.log host world = []

namespace Program.OnlyReads

theorem pure (value : α) : OnlyReads host (Pure.pure value : Program α) :=
  ⟨fun _ => rfl, fun _ => rfl⟩

theorem bind {program : Program α} {next : α → Program β} (first : OnlyReads host program)
    (continued : ∀ value, OnlyReads host (next value)) : OnlyReads host (program >>= next) := by
  constructor
  · intro world
    rw [run_bind, (continued _).still, first.still]
  · intro world
    rw [log_bind, first.unrecorded, (continued _).unrecorded, List.append_nil]

theorem map {program : Program α} (f : α → β) (first : OnlyReads host program) :
    OnlyReads host (f <$> program) := by
  rw [← bind_pure_comp]
  exact first.bind fun value => .pure (f value)

theorem fileExists (path : Path) : OnlyReads host (Program.fileExists path) :=
  ⟨fun _ => rfl, fun _ => rfl⟩

theorem readFile (path : Path) : OnlyReads host (Program.readFile path) :=
  ⟨fun _ => rfl, fun _ => rfl⟩

/-- What only reads ends in its value and in the world where it began. -/
theorem run_eq {program : Program α} (reads : OnlyReads host program) (world : World σ) :
    program.run host world = ((program.run host world).1, world) :=
  Prod.ext rfl (reads.still world)

theorem prints_eq_nil {program : Program α} (reads : OnlyReads host program) (world : World σ) :
    program.prints host world = [] :=
  printed_run_eq_iff.mp (congrArg World.printed (reads.still world))

end Program.OnlyReads

/-- A program that may fail and only reads. -/
abbrev OnlyReads (host : Host σ) (attempt : Attempt ε α) : Prop :=
  Program.OnlyReads host attempt.run

namespace OnlyReads

theorem pure (value : α) : OnlyReads host (Pure.pure value : Attempt ε α) :=
  Program.OnlyReads.pure _

theorem throw (fault : ε) : OnlyReads host (MonadExcept.throw fault : Attempt ε α) :=
  Program.OnlyReads.pure _

theorem bind {attempt : Attempt ε α} {next : α → Attempt ε β}
    (first : OnlyReads host attempt) (continued : ∀ value, OnlyReads host (next value)) :
    OnlyReads host (attempt >>= next) := by
  unfold OnlyReads
  rw [ExceptT.run_bind]
  refine Program.OnlyReads.bind first fun result => ?_
  cases result with
  | ok value => exact continued value
  | error fault => exact .pure _

theorem lift {program : Program α} (reads : program.OnlyReads host) :
    OnlyReads host (liftM program : Attempt ε α) :=
  Program.OnlyReads.map _ reads

theorem result (result : Except ε α) : OnlyReads host (liftM result : Attempt ε α) :=
  Program.OnlyReads.pure _

theorem mapM {f : α → Attempt ε β} (reads : ∀ value, OnlyReads host (f value))
    (list : List α) : OnlyReads host (list.mapM f) := by
  induction list with
  | nil => exact .pure _
  | cons value rest ih =>
      rw [List.mapM_cons]
      exact (reads value).bind fun first => ih.bind fun others => .pure _

end OnlyReads

section Lists

variable {f : α → Attempt ε β} {world : World σ}

/-- Where every one of several reads has a value, so have all together. -/
theorem run_mapM_ok (reads : ∀ value, OnlyReads host (f value)) {list : List α}
    {results : List β}
    (each : List.Forall₂ (fun value result => ((f value).run.run host world).1 = .ok result) list
      results) :
    (list.mapM f).run.run host world = (.ok results, world) := by
  induction each with
  | nil => rfl
  | @cons value result rest others first _ ih =>
      have passed : (f value).run.run host world = (.ok result, world) := by
        rw [(reads value).run_eq, first]
      rw [List.mapM_cons, Program.run_ok_bind passed, Program.run_ok_bind ih]
      rfl

/-- One of several reads that fails makes all together fail. -/
theorem run_mapM_error (reads : ∀ value, OnlyReads host (f value)) {list : List α} {value : α}
    {fault : ε} (member : value ∈ list)
    (broken : ((f value).run.run host world).1 = .error fault) :
    ∃ first, (list.mapM f).run.run host world = (.error first, world) := by
  induction list with
  | nil => exact absurd member List.not_mem_nil
  | cons head rest ih =>
      have ended := (reads head).run_eq world
      rw [List.mapM_cons]
      cases result : ((f head).run.run host world).1 with
      | error first =>
          rw [result] at ended
          exact ⟨first, Program.run_error_bind ended⟩
      | ok passed =>
          rw [result] at ended
          rw [Program.run_ok_bind ended]
          have later : value ∈ rest := by
            refine (List.mem_cons.mp member).resolve_left ?_
            rintro rfl
            rw [result] at broken
            cases broken
          obtain ⟨first, failed⟩ := ih later
          exact ⟨first, Program.run_error_bind failed⟩

end Lists

namespace CommandLine

open Text

theorem onlyReads_readTextFile (path : Path) : OnlyReads host (readTextFile path) := by
  refine (OnlyReads.lift (.readFile path)).bind fun read => ?_
  split
  · exact .throw _
  · split
    · exact .pure _
    · exact .throw _

theorem onlyReads_loadSettings (locations : Locations) :
    OnlyReads host (loadSettings locations) := by
  refine (OnlyReads.lift (.fileExists _)).bind fun present => ?_
  split
  · exact (onlyReads_readTextFile _).bind fun text => .result _
  · exact .pure _

theorem onlyReads_loadRequested (path : Path) : OnlyReads host (loadRequested path) := by
  have loaded : OnlyReads host (loadScenario path) :=
    (onlyReads_readTextFile path).bind fun text => .result _
  refine OnlyReads.bind (Program.OnlyReads.map _ loaded) fun outcome => ?_
  split
  · exact .pure _
  · exact .throw _

/-- What a command can ask to run. -/
inductive Requested where
  | builtin (name : String)
  | file (path : Path)

/-- A scenario that comes with the program is asked for first, the files follow in their order. -/
def requested (paths : List Path) (builtin : Option String) : List Requested :=
  builtin.toList.map .builtin ++ paths.map .file

def Requested.load : Requested → Action Scenario
  | .builtin name => liftM (Scenario.builtin name)
  | .file path => loadRequested path

theorem Requested.onlyReads_load (request : Requested) : OnlyReads host request.load := by
  cases request with
  | builtin name => exact .result _
  | file path => exact onlyReads_loadRequested path

/-- Everything that is asked for is loaded, and something must be. -/
theorem loadScenarios_eq (paths : List Path) (builtin : Option String) :
    loadScenarios paths builtin = (do
      let scenarios ← (requested paths builtin).mapM Requested.load
      if scenarios.isEmpty then
        throw (.config "No scenarios given. Pass scenario files or --builtin <name>")
      return scenarios) := by
  have files : (paths.map Requested.file).mapM Requested.load = paths.mapM loadRequested :=
    List.mapM_map
  cases builtin with
  | none => simp [loadScenarios, requested, files]
  | some name =>
      simp only [loadScenarios, requested, Option.toList_some, List.map_cons, List.map_nil,
        List.singleton_append, List.mapM_cons, files, Requested.load, bind_assoc, pure_bind]
      cases Scenario.builtin name with
      | error error => rfl
      | ok scenario => rfl

theorem onlyReads_loadScenarios (paths : List Path) (builtin : Option String) :
    OnlyReads host (loadScenarios paths builtin) := by
  rw [loadScenarios_eq]
  refine (OnlyReads.mapM Requested.onlyReads_load _).bind fun scenarios => ?_
  dsimp only
  split
  · exact .throw _
  · exact .pure _

theorem onlyReads_prepare (locations : Locations) (paths : List Path) (builtin : Option String)
    (overrides : Overrides) : OnlyReads host (prepare locations paths builtin overrides) := by
  refine (onlyReads_loadSettings locations).bind fun settings => ?_
  refine (OnlyReads.result _).bind fun _ => ?_
  exact (onlyReads_loadScenarios paths builtin).bind fun scenarios => .pure _

section Readiness

variable {locations : Locations} {paths : List Path} {builtin : Option String}
  {overrides : Overrides} {world : World σ}

/-- Everything that a command to run asks for can be loaded. -/
structure Ready (host : Host σ) (locations : Locations) (paths : List Path)
    (builtin : Option String) (overrides : Overrides) (world : World σ) (settings : Settings)
    (scenarios : List Scenario) : Prop where
  settings : ∃ read, ((loadSettings locations).run.run host world).1 = .ok read ∧
    read.override overrides = (settings, .ok ())
  asked : requested paths builtin ≠ []
  scenarios : List.Forall₂
    (fun request scenario => (request.load.run.run host world).1 = .ok scenario)
    (requested paths builtin) scenarios

/-- Something that a command to run asks for cannot be loaded, or it asks for nothing. -/
inductive Unready (host : Host σ) (locations : Locations) (paths : List Path)
    (builtin : Option String) (overrides : Overrides) (world : World σ) : Prop
  | settings {error : Error}
      (failed : ((loadSettings locations).run.run host world).1 = .error error)
  | overrides {read : Settings} {error : Error}
      (loaded : ((loadSettings locations).run.run host world).1 = .ok read)
      (failed : (read.override overrides).2 = .error error)
  | scenario {request : Requested} {error : Error} (member : request ∈ requested paths builtin)
      (failed : (request.load.run.run host world).1 = .error error)
  | nothing (none_asked : requested paths builtin = [])

theorem run_loadSettings_eq {result : Except Error Settings}
    (read : ((loadSettings locations).run.run host world).1 = result) :
    (loadSettings locations).run.run host world = (result, world) := by
  rw [(onlyReads_loadSettings locations).run_eq, read]

theorem Ready.ne_nil {settings : Settings} {scenarios : List Scenario}
    (ready : Ready host locations paths builtin overrides world settings scenarios) :
    scenarios ≠ [] := by
  rintro rfl
  exact ready.asked (List.forall₂_nil_right_iff.mp ready.scenarios)

/-- A command that is ready goes on to its runs in the world where it began. -/
theorem Ready.run_prepare {settings : Settings} {scenarios : List Scenario}
    (ready : Ready host locations paths builtin overrides world settings scenarios) :
    (prepare locations paths builtin overrides).run.run host world =
      (.ok (settings, scenarios), world) := by
  obtain ⟨read, loaded, known⟩ := ready.settings
  have some_loaded : scenarios.isEmpty = false := List.isEmpty_eq_false_iff.mpr ready.ne_nil
  have gathered : (loadScenarios paths builtin).run.run host world = (.ok scenarios, world) := by
    rw [loadScenarios_eq,
      Program.run_ok_bind (run_mapM_ok Requested.onlyReads_load ready.scenarios)]
    simp only [some_loaded]
    rfl
  have passed : (liftM (Except.ok () : Except Error Unit) : Action Unit).run.run host world =
      (.ok (), world) := rfl
  rw [prepare, Program.run_ok_bind (run_loadSettings_eq loaded)]
  simp only [known]
  rw [Program.run_ok_bind passed, Program.run_ok_bind gathered]
  rfl

/-- Where the scenarios cannot be loaded a command fails before its runs, by them or by what it reads
before them. -/
theorem run_prepare_of_error {error : Error}
    (failed : (loadScenarios paths builtin).run.run host world = (.error error, world)) :
    ∃ first, (prepare locations paths builtin overrides).run.run host world =
      (.error first, world) := by
  rw [prepare]
  cases loaded : ((loadSettings locations).run.run host world).1 with
  | error first => exact ⟨first, Program.run_error_bind (run_loadSettings_eq loaded)⟩
  | ok read =>
      rw [Program.run_ok_bind (run_loadSettings_eq loaded)]
      dsimp only
      cases (read.override overrides).2 with
      | error first => exact ⟨first, rfl⟩
      | ok value =>
          have passed : (liftM (Except.ok value : Except Error Unit) : Action Unit).run.run host
              world = (.ok value, world) := rfl
          rw [Program.run_ok_bind passed]
          exact ⟨error, Program.run_error_bind failed⟩

/-- A command that is not ready fails before its runs. -/
theorem Unready.run_prepare
    (unready : Unready host locations paths builtin overrides world) :
    ∃ error, (prepare locations paths builtin overrides).run.run host world =
      (.error error, world) := by
  cases unready with
  | @settings error failed =>
      rw [prepare]
      exact ⟨error, Program.run_error_bind (run_loadSettings_eq failed)⟩
  | @overrides read error loaded failed =>
      rw [prepare, Program.run_ok_bind (run_loadSettings_eq loaded)]
      dsimp only
      rw [failed]
      exact ⟨error, rfl⟩
  | scenario member failed =>
      obtain ⟨error, stopped⟩ := run_mapM_error Requested.onlyReads_load member failed
      have broken : (loadScenarios paths builtin).run.run host world = (.error error, world) := by
        rw [loadScenarios_eq]
        exact Program.run_error_bind stopped
      exact run_prepare_of_error broken
  | nothing none_asked =>
      obtain ⟨error, broken⟩ : ∃ error,
          (loadScenarios paths builtin).run.run host world = (.error error, world) := by
        rw [loadScenarios_eq, none_asked]
        exact ⟨_, rfl⟩
      exact run_prepare_of_error broken

end Readiness

/-- What a command to run does with the scenarios that it has read. -/
def runPrepared (overrides : Overrides) (settings : Settings) (scenarios : List Scenario) :
    Attempt (Stop Error) Bool := do
  let (reports, failure) ← (runEach settings overrides scenarios).breaking
  (conclude overrides.json reports failure).failing

theorem runScenarios_eq (locations : Locations) (paths : List Path) (builtin : Option String)
    (overrides : Overrides) :
    runScenarios locations paths builtin overrides =
      (prepare locations paths builtin overrides).failing >>= fun prepared =>
        runPrepared overrides prepared.1 prepared.2 :=
  rfl

/-- The reports as data and the end of their line. -/
def reportsText (told : List Json) : Styled :=
  [plain (Json.array told).renderIndented, plain "\n"]

/-- What is told of reports at the end of a command. Reports as data are told when each of them is
data. -/
def toldText (json : Bool) (reports : List Report) : Except Error Styled :=
  if json then (reports.mapM Report.toJson).map reportsText
  else .ok (if 1 < reports.length then summary reports else [])

/-- What a command comes to after its runs: the report that is no data, the session that was refused,
or whether all passed. -/
def verdictOf (json : Bool) (reports : List Report) (failure : Option Error) : Except Error Bool := do
  let _ ← toldText json reports
  match failure with
  | some error => throw error
  | none => return reports.all (·.passed)

/-- What is told after runs that came to reports: something when there are any, or when no session was
refused. -/
def toldAfter (json : Bool) (reports : List Report) (failure : Option Error) : Styled :=
  if !reports.isEmpty || failure.isNone then (toldText json reports).toOption.getD [] else []

/-- Either all reports are told, or one of them is no data and nothing is told. -/
theorem runs_tellReports (host : Host σ) (json : Bool) (reports : List Report) (world : World σ) :
    ((tellReports json reports).run.run host world).1 = (toldText json reports).map (fun _ => ()) ∧
      (tellReports json reports).run.log host world = [] ∧
      (tellReports json reports).run.prints host world =
        (toldText json reports).toOption.getD [] := by
  unfold tellReports toldText
  cases json with
  | true =>
      simp only [if_true]
      cases reports.mapM Report.toJson with
      | error error => exact ⟨rfl, rfl, rfl⟩
      | ok told => exact ⟨rfl, rfl, rfl⟩
  | false =>
      by_cases several : 1 < reports.length
      · simp only [several, decide_true, if_true]
        exact ⟨rfl, rfl, List.append_nil _⟩
      · simp only [several, decide_false, if_false]
        exact ⟨rfl, rfl, rfl⟩

/-- After its runs a command tells of the reports and leaves nothing in the journal. -/
theorem runs_conclude (host : Host σ) (json : Bool) (reports : List Report)
    (failure : Option Error) (world : World σ) :
    ((conclude json reports failure).run.run host world).1 = verdictOf json reports failure ∧
      (conclude json reports failure).run.log host world = [] ∧
      (conclude json reports failure).run.prints host world = toldAfter json reports failure := by
  unfold toldAfter
  cases telling : !reports.isEmpty || failure.isNone with
  | false =>
      obtain ⟨none_run, refused⟩ : reports = [] ∧ failure.isSome = true := by
        simpa using telling
      obtain ⟨error, rfl⟩ := Option.isSome_iff_exists.mp refused
      subst none_run
      cases json <;> exact ⟨rfl, rfl, rfl⟩
  | true =>
      obtain ⟨ended, unrecorded, printed⟩ := runs_tellReports host json reports world
      unfold conclude verdictOf
      rw [if_pos telling, ExceptT.run_bind, Program.run_bind, Program.log_bind,
        Program.prints_bind, unrecorded, printed, ended]
      cases toldText json reports with
      | error error => exact ⟨rfl, rfl, rfl⟩
      | ok text =>
          cases failure with
          | none => exact ⟨rfl, rfl, List.append_nil _⟩
          | some error => exact ⟨rfl, rfl, List.append_nil _⟩

/-- What a command comes to with what its runs came to. -/
def resultOf (json : Bool) :
    Except Breakdown (List Report × Option Error) → Except (Stop Error) Bool
  | .ok (reports, failure) => (verdictOf json reports failure).mapError .failed
  | .error breakdown => .error (.broken breakdown)

/-- What a command tells of what its runs came to. Of runs that break down nothing is told. -/
def tellingOf (json : Bool) : Except Breakdown (List Report × Option Error) → Styled
  | .ok (reports, failure) => toldAfter json reports failure
  | .error _ => []

/-- After its runs a command tells what they came to and comes to its own result. -/
theorem runs_runPrepared (host : Host σ) (settings : Settings) (overrides : Overrides)
    (scenarios : List Scenario) (world : World σ) :
    let left := (runPrepared overrides settings scenarios).run
    let runs := (runEach settings overrides scenarios).run
    (left.run host world).1 = resultOf overrides.json (runs.run host world).1 ∧
      left.log host world = runs.log host world ∧
      left.prints host world =
        runs.prints host world ++ tellingOf overrides.json (runs.run host world).1 := by
  dsimp only [runPrepared]
  rw [ExceptT.run_bind, Program.log_bind, Program.run_bind, Program.prints_bind,
    Attempt.run_breaking, Program.run_map, Program.log_map, Program.prints_map]
  generalize (runEach settings overrides scenarios).run.run host world = finished
  obtain ⟨breakdown | ⟨reports, failure⟩, last⟩ := finished
  · exact ⟨rfl, List.append_nil _, rfl⟩
  · obtain ⟨verdict, unrecorded, printed⟩ :=
      runs_conclude host overrides.json reports failure last
    dsimp only [Except.mapError]
    rw [Attempt.run_failing, Program.log_map, unrecorded, Program.run_map, Program.prints_map,
      printed, verdict]
    exact ⟨rfl, List.append_nil _, rfl⟩

section Reads

variable {world : World σ} {path : Path} {text : String} {content : ByteArray} {scenario : Scenario}

/-- Without a file of settings the defaults are used. -/
theorem run_loadSettings {locations : Locations}
    (absent : world.files.fileExists locations.settingsFile = false) :
    (loadSettings locations).run.run host world = (.ok {}, world) := by
  have asked : (liftM (Program.fileExists locations.settingsFile) : Action Bool).run.run host
      world = (.ok false, world) := by
    rw [← absent]
    rfl
  rw [loadSettings, Program.run_ok_bind asked]
  rfl

theorem run_readTextFile (held : world.files.read path = .ok content)
    (decoded : String.fromUTF8? content = some text) :
    (readTextFile path).run.run host world = (.ok text, world) := by
  have asked : (liftM (Program.readFile path) : Action (Except FileError ByteArray)).run.run host
      world = (.ok (.ok content), world) := by
    rw [← held]
    rfl
  rw [readTextFile, Program.run_ok_bind asked]
  simp only [decoded]
  rfl

theorem run_loadRequested (held : world.files.read path = .ok content)
    (decoded : String.fromUTF8? content = some text)
    (parsed : Scenario.fromYaml text = .ok scenario) :
    (loadRequested path).run.run host world = (.ok scenario, world) := by
  have loaded : (loadScenario path).run.run host world = (.ok scenario, world) := by
    rw [loadScenario, Program.run_ok_bind (run_readTextFile held decoded), parsed]
    rfl
  have kept : (Attempt.outcome (loadScenario path) : Action _).run.run host world = (.ok (.ok scenario), world) := by
    rw [Attempt.outcome, ExceptT.run_mk, ← bind_pure_comp, Program.run_bind, loaded]
    rfl
  rw [loadRequested, Program.run_ok_bind kept]
  rfl

/-- A command that asks for one file is ready when the file holds a scenario. -/
theorem ready_file {locations : Locations} {overrides : Overrides}
    (absent : world.files.fileExists locations.settingsFile = false)
    (known : (({} : Settings).override overrides).2 = .ok ())
    (held : world.files.read path = .ok content) (decoded : String.fromUTF8? content = some text)
    (parsed : Scenario.fromYaml text = .ok scenario) :
    Ready host locations [path] none overrides world (({} : Settings).override overrides).1
      [scenario] where
  settings := ⟨{}, congrArg Prod.fst (run_loadSettings absent), Prod.ext rfl known⟩
  asked := List.cons_ne_nil _ _
  scenarios := .cons (congrArg Prod.fst (run_loadRequested held decoded parsed)) .nil

/-- A command that asks for one file reads its scenario. -/
theorem run_prepare {locations : Locations} {overrides : Overrides}
    (absent : world.files.fileExists locations.settingsFile = false)
    (known : (({} : Settings).override overrides).2 = .ok ())
    (held : world.files.read path = .ok content) (decoded : String.fromUTF8? content = some text)
    (parsed : Scenario.fromYaml text = .ok scenario) :
    (prepare locations [path] none overrides).run.run host world =
      (.ok ((({} : Settings).override overrides).1, [scenario]), world) :=
  (ready_file absent known held decoded parsed).run_prepare

end Reads

end CommandLine

end ScenarioRunner
