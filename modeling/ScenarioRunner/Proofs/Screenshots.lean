import ScenarioRunner.CommandLine.Commands
import ScenarioRunner.Proofs.Course
import ScenarioRunner.Proofs.Expiry

/-!
The screenshots of scenarios that are run one after another. Two runs that keep their screenshots in
one directory use one file when the names of the scenarios become the same name of a file and the same
step fails, and in no other case. A run leaves all other files as they are.
-/

namespace ScenarioRunner

variable {σ α : Type} {host : Host σ}

namespace Path

/-- The bytes of a text are those of its characters. -/
theorem ofText_eq_flatMap (text : String) :
    ofText text = text.toList.flatMap String.utf8EncodeChar := by
  obtain ⟨letters, rfl⟩ := text.exists_eq_ofList
  simp [ofText, List.utf8Encode]

/-- A slash among the bytes of a character is all of it. -/
theorem eq_of_slash_mem {c : Char} (member : slash ∈ String.utf8EncodeChar c) : c = '/' := by
  have byte {n : Nat} (same : slash = UInt8.ofNat n) : n % 256 = 47 := by
    have numbers := congrArg UInt8.toNat same
    rw [UInt8.toNat_ofNat'] at numbers
    exact numbers.symm
  have number : c.val.toNat = 47 := by
    simp only [String.utf8EncodeChar] at member
    generalize c.val.toNat = value at member ⊢
    split at member
    next ascii =>
      have own := byte (List.mem_singleton.mp member)
      omega
    next =>
      -- the bytes of any other character are marked by their highest bits
      exfalso
      split at member
      · rcases List.mem_pair.mp member with same | same <;> have own := byte same <;> omega
      · split at member
        · simp only [List.mem_cons, List.not_mem_nil, or_false] at member
          rcases member with same | same | same <;> have own := byte same <;> omega
        · simp only [List.mem_cons, List.not_mem_nil, or_false] at member
          rcases member with same | same | same | same <;> have own := byte same <;> omega
  exact Char.ext (UInt32.toNat_inj.mp number)

theorem slash_mem_of_ofText {text : String} (member : slash ∈ ofText text) : '/' ∈ text.toList := by
  rw [ofText_eq_flatMap] at member
  obtain ⟨c, listed, inside⟩ := List.mem_flatMap.mp member
  exact eq_of_slash_mem inside ▸ listed

end Path

namespace Run

/-- The name of the file with the screenshot of a failed step. -/
def screenshotName (name : String) (number : Nat) : String :=
  fileName name ++ "-step" ++ toString number ++ ".png"

theorem screenshotPath_eq_append (directory : Path) :
    ∃ front, ∀ name number,
      screenshotPath directory name number = front ++ Path.ofText (screenshotName name number) := by
  obtain ⟨front, joined⟩ := joinPath_eq_append directory
  exact ⟨front, fun name number => joined _⟩

theorem toList_screenshotName (name : String) (number : Nat) :
    (screenshotName name number).toList = (fileName name).toList ++ ['-', 's', 't', 'e'] ++
      'p' :: (toString number).toList ++ ['.', 'p', 'n', 'g'] := by
  have step : ("-step" : String).toList = ['-', 's', 't', 'e', 'p'] := by decide
  have ending : (".png" : String).toList = ['.', 'p', 'n', 'g'] := by decide
  simp [screenshotName, step, ending]

/-- No slash is kept in the name of a file. -/
theorem slash_not_mem_fileName (name : String) : '/' ∉ (fileName name).toList := by
  rw [fileName, String.toList_ofList]
  intro member
  obtain ⟨c, -, kept⟩ := List.mem_map.mp member
  split at kept
  · rename_i plain
    subst kept
    exact absurd plain (by decide)
  · exact absurd kept (by decide)

theorem isFileName_screenshotName (name : String) (number : Nat) :
    IsFileName (Path.ofText (screenshotName name number)) := by
  constructor
  · refine fun member => absurd (Path.slash_mem_of_ofText member) ?_
    have digits : '/' ∉ (toString number).toList := fun member =>
      absurd (Text.isDigit_of_mem_toString member) (by decide)
    rw [toList_screenshotName]
    simp only [List.mem_append, List.mem_cons, slash_not_mem_fileName, digits, false_or]
    decide
  · have ending : (Path.ofText ".png").length = 4 := by decide
    rw [screenshotName, Path.ofText_append, List.length_append, ending]
    omega

/-- The name of the file tells the failed step, and the name of the scenario as far as it is kept. -/
theorem screenshotName_inj {name other : String} {number step : Nat} :
    screenshotName name number = screenshotName other step ↔
      fileName name = fileName other ∧ number = step := by
  constructor
  · intro same
    have letters := congrArg String.toList same
    rw [toList_screenshotName, toList_screenshotName] at letters
    have kept := List.append_cancel_right letters
    have digits (number : Nat) : ∀ d ∈ (toString number).toList, d.isDigit = true :=
      fun _ => Text.isDigit_of_mem_toString
    have told := congrArg (List.rtakeWhile Char.isDigit) kept
    rw [rtakeWhile_append_cons _ (by decide) (digits number),
      rtakeWhile_append_cons _ (by decide) (digits step)] at told
    obtain rfl := Text.toList_toString_inj.mp told
    have named := List.append_cancel_right (List.append_cancel_right kept)
    exact ⟨String.toList_inj.mp named, rfl⟩
  · rintro ⟨same, rfl⟩
    rw [screenshotName, screenshotName, same]

theorem screenshotPath_inj {directory : Path} {name other : String} {number step : Nat} :
    screenshotPath directory name number = screenshotPath directory other step ↔
      fileName name = fileName other ∧ number = step := by
  obtain ⟨front, joined⟩ := screenshotPath_eq_append directory
  rw [joined, joined, List.append_cancel_left_eq, Path.ofText_inj, screenshotName_inj]

/-- A screenshot stays when another one is written to its directory. -/
theorem read_of_write_other {directory : Path} {name other : String} {number step : Nat}
    {tree after : FileTree} {image held : ByteArray}
    (different : screenshotPath directory name number ≠ screenshotPath directory other step)
    (written : tree.write (screenshotPath directory other step) image = .ok after)
    (found : tree.read (screenshotPath directory name number) = .ok held) :
    after.read (screenshotPath directory name number) = .ok held := by
  obtain ⟨front, joined⟩ := screenshotPath_eq_append directory
  rw [joined, joined] at different
  rw [joined] at written found ⊢
  have apart : Path.ofText (screenshotName name number) ≠ Path.ofText (screenshotName other step) :=
    fun same => different (congrArg (front ++ ·) same)
  exact FileTree.read_of_write_ne (isFileName_screenshotName other step)
    (isFileName_screenshotName name number) apart written found

/-- What asks only for the effects of steps leaves the files as they are. -/
theorem files_eq_of_works {program : Program α} (asks : program.Asks Effect.Works) {before after : World σ}
    {journal : List JournalEntry} {value : α}
    (ran : program.Runs host before journal after value) : after.files = before.files := by
  obtain ⟨ended, rfl⟩ := ran
  induction asks generalizing before with
  | done result =>
      obtain ⟨-, rfl⟩ := Prod.mk.inj ended
      rfl
  | @perform effect next permitted _ ih =>
      have kept : (before.enact host effect).2.files = before.files := by
        cases effect with
        | writeFile path content => exact permitted.elim
        | createDirectory path => exact permitted.elim
        | _ => rfl
      exact (ih _ ended).trans kept

/-- What becomes of the files: all are kept and no path is told, or one is written to its path, which is
told, and all others are kept. -/
inductive Saves (path : Path) (files : FileTree) : FileTree → Option Path → Prop where
  | left {after : FileTree} (keeps : files.Keeps after) : Saves path files after none
  | saved {middle after : FileTree} {image : ByteArray} (keeps : files.Keeps middle)
      (written : middle.write path image = .ok after) : Saves path files after (some path)

/-- A change that fails leaves the world as it is. -/
theorem eq_of_change {world after : World σ} {result : Except FileError FileTree} {reason : FileError}
    (changed : world.change result = (.error reason, after)) : after = world := by
  cases result with
  | error other =>
      cases changed
      rfl
  | ok files => cases changed

theorem saves_of_saveScreenshot {directory : Path} {name : String} {number : Nat}
    {before after : World σ} {journal : List JournalEntry} {path : Option Path}
    (ran : (saveScreenshot directory name number).Runs host before journal after path) :
    Saves (screenshotPath directory name number) before.files after.files path := by
  obtain ⟨_, taken, outcome, _, called, continued, rfl⟩ := Program.runs_bind_iff.mp ran
  rw [← Program.files_call called]
  cases outcome with
  | error error =>
      obtain ⟨rfl, rfl, rfl⟩ := Program.runs_pure_iff.mp continued
      exact .left (.refl _)
  | ok image =>
      obtain ⟨_, placed, made, _, created, continued, rfl⟩ := Program.runs_bind_iff.mp continued
      obtain ⟨enacted, -⟩ := Program.runs_ask_iff.mp created
      cases made with
      | error reason =>
          obtain ⟨rfl, rfl, rfl⟩ := Program.runs_pure_iff.mp continued
          obtain rfl := eq_of_change enacted
          exact .left (.refl _)
      | ok value =>
          have keeps : taken.files.Keeps placed.files :=
            FileTree.keeps_of_makeDirectories (World.changed_of_change enacted)
          obtain ⟨_, _, saved, _, wrote, told, rfl⟩ := Program.runs_bind_iff.mp continued
          obtain ⟨enacted, -⟩ := Program.runs_ask_iff.mp wrote
          cases saved with
          | error reason =>
              obtain ⟨rfl, rfl, rfl⟩ := Program.runs_pure_iff.mp told
              obtain rfl := eq_of_change enacted
              exact .left keeps
          | ok value =>
              obtain ⟨rfl, rfl, rfl⟩ := Program.runs_pure_iff.mp told
              exact .saved keeps (World.changed_of_change enacted)

/-- The image is what the browser returned when it was asked for the screenshot of the run. -/
def Returned (journal : List JournalEntry) (image : ByteArray) : Prop :=
  ∃ started finished, (calls journal).filter (·.call = .screenshot) =
    [⟨started, finished, .screenshot, .ok image⟩]

/-- What a run does to the files. -/
inductive Turned (directory : Option Path) (scenario : Scenario) (journal : List JournalEntry)
    (report : Report) (files after : FileTree) : Prop where
  | left (untold : report.screenshot? = none) (keeps : files.Keeps after)
  | saved {place : Path} {number : Nat} {middle : FileTree} {image : ByteArray}
      (shared : directory = some place) (failed : report.failedStep? = some number)
      (told : report.screenshot? = some (screenshotPath place scenario.name number))
      (returned : Returned journal image) (keeps : files.Keeps middle)
      (written : middle.write (screenshotPath place scenario.name number) image = .ok after)

/-- The only screenshot of a run is the one of its failure. -/
theorem returned_of_shots {options : RunOptions} {executor : Executor} {list : List Step}
    {before after : World σ} {first shots : List JournalEntry}
    {ended : Except Breakdown (Option FailedStep)} {started finished asked closed : Nat} {image : ByteArray} {outcome : Call.close.Outcome}
    (stepped : (steps options executor list).Runs host before first after ended)
    (called : calls shots = [⟨started, finished, .screenshot, .ok image⟩]) :
    Returned (first ++ (shots ++ [.call asked closed .close outcome])) image := by
  have works : ∀ record ∈ calls first, ¬ (decide (record.call = .screenshot)) = true := by
    refine forall_calls (isStepWork_of_steps stepped) fun _ _ call _ works => ?_
    intro same
    obtain rfl : call = .screenshot := of_decide_eq_true same
    cases works
  refine ⟨started, finished, ?_⟩
  rw [calls_append, calls_append, called, List.filter_append, List.filter_eq_nil_iff.mpr works]
  rfl

theorem turned_of_scenario {options : RunOptions} {scenario : Scenario} {before after : World σ}
    {journal : List JournalEntry} {report : Report}
    (ran : (Run.scenario options scenario).Runs host before journal after (.ok report)) :
    Turned options.screenshotDirectory scenario journal report before.files after.files := by
  obtain ⟨opened, first, middle, failed, last, opens, stepped, ended, rfl⟩ := steps_of_scenario ran
  have still : middle.files = before.files :=
    (files_eq_of_works (asks_steps options .start scenario.steps) stepped).trans opens.files.symm
  obtain ⟨shots, photographed, screenshot, asked, closed, outcome, taken, same_files, rfl, -, -,
    verdict⟩ := parts_of_ending ended
  rw [same_files, ← still]
  cases failed with
  | none =>
      obtain ⟨rfl, rfl, rfl⟩ := Program.runs_pure_iff.mp taken
      exact .left (by rw [Report.screenshot?, verdict]; rfl) (.refl _)
  | some stopped =>
      have told : report.screenshot? = screenshot := by rw [Report.screenshot?, verdict]; rfl
      have number : report.failedStep? = some stopped.number := by
        rw [Report.failedStep?, verdict]
        rfl
      have shot := photographed_of_screenshotOf taken
      cases shared : options.screenshotDirectory with
      | none =>
          simp only [screenshotOf, shared] at taken
          obtain ⟨rfl, rfl, rfl⟩ := Program.runs_pure_iff.mp taken
          exact .left told (.refl _)
      | some place =>
          simp only [screenshotOf, shared] at taken
          cases saves_of_saveScreenshot taken with
          | left keeps => exact .left told keeps
          | @saved _ _ image keeps written =>
              obtain ⟨-, begun, finished, own, called, held⟩ := shot.saved _ rfl
              have same := (FileTree.read_of_write written).symm.trans held
              obtain rfl : image = own := Except.ok.inj same
              exact .saved rfl number told (returned_of_shots stepped called) keeps written

/-- A scenario that was run, with what was recorded and reported of it. -/
structure Turn where
  scenario : Scenario
  journal : List JournalEntry
  report : Report

/-- Scenarios that are run one after another, each with a browser and options of its own but with one
directory for their screenshots, and the files before the first run and after the last. -/
inductive InTurn (directory : Option Path) : FileTree → List Turn → FileTree → Prop where
  | done (files : FileTree) : InTurn directory files [] files
  | ran {σ : Type} {host : Host σ} {options : RunOptions} {scenario : Scenario}
      {before after : World σ} {journal : List JournalEntry} {report : Report} {turns : List Turn}
      {last : FileTree} (shared : options.screenshotDirectory = directory)
      (ran : (Run.scenario options scenario).Runs host before journal after (.ok report))
      (others : InTurn directory after.files turns last) :
      InTurn directory before.files (⟨scenario, journal, report⟩ :: turns) last

namespace InTurn

variable {directory : Option Path} {files last : FileTree} {turns : List Turn}

theorem named (ran : InTurn directory files turns last) : ∀ turn ∈ turns, ∀ path,
    turn.report.screenshot? = some path → ∃ place number, directory = some place ∧
      turn.report.failedStep? = some number ∧
      path = screenshotPath place turn.scenario.name number := by
  induction ran with
  | done files => exact nofun
  | ran shared ran others ih =>
      refine List.forall_mem_cons.mpr ⟨fun path told => ?_, ih⟩
      cases turned_of_scenario ran with
      | left untold =>
          rw [untold] at told
          cases told
      | saved place failed named =>
          obtain rfl := Option.some.inj (named.symm.trans told)
          exact ⟨_, _, shared.symm.trans place, failed, rfl⟩

/-- The screenshot of a failed step stays until another run tells of its path. -/
theorem keeps (ran : InTurn directory files turns last) {place : Path} {name : String}
    {number : Nat} {image : ByteArray} (shared : directory = some place)
    (held : files.read (screenshotPath place name number) = .ok image)
    (untold : ∀ turn ∈ turns, turn.report.screenshot? ≠ some (screenshotPath place name number)) :
    last.read (screenshotPath place name number) = .ok image := by
  induction ran with
  | done files => exact held
  | ran own ran others ih =>
      obtain ⟨here, later⟩ := List.forall_mem_cons.mp untold
      refine ih ?_ later
      cases turned_of_scenario ran with
      | left untold keeps => exact keeps _ _ held
      | saved place' _ told _ kept written =>
          obtain rfl := Option.some.inj ((own.symm.trans place').symm.trans shared)
          exact read_of_write_other (fun same => here (told.trans (congrArg some same.symm))) written
            (kept _ _ held)

/-- After the last run the file at a path holds the image of the last run that told of the path. -/
theorem holds (ran : InTurn directory files turns last) {front back : List Turn} {turn : Turn}
    {path : Path} (split : turns = front ++ turn :: back)
    (told : turn.report.screenshot? = some path)
    (untold : ∀ later ∈ back, later.report.screenshot? ≠ some path) :
    ∃ image, Returned turn.journal image ∧ last.read path = .ok image := by
  induction ran generalizing front with
  | done files => cases front <;> cases split
  | ran shared ran others ih =>
      cases front with
      | nil =>
          obtain ⟨rfl, rfl⟩ := List.cons.inj split
          cases turned_of_scenario ran with
          | left none_told =>
              rw [none_told] at told
              cases told
          | saved place failed named returned kept written =>
              obtain rfl := Option.some.inj (named.symm.trans told)
              exact ⟨_, returned, others.keeps (shared.symm.trans place)
                (FileTree.read_of_write written) untold⟩
      | cons first front => exact ih (List.cons.inj split).2

end InTurn

end Run

open Run

/-- The scenarios of a command are run in turn, up to a session that is refused. -/
theorem CommandLine.inTurn_of_runEach {settings : Settings} {overrides : Overrides}
    {scenarios : List Scenario} {before after : World σ} {journal : List JournalEntry}
    {reports : List Report} {failure : Option Error}
    (ran : (runEach settings overrides scenarios).Runs host before journal after
      (.ok (reports, failure))) :
    ∃ turns left, scenarios = turns.map Turn.scenario ++ left ∧
      reports = turns.map Turn.report ∧
      InTurn settings.screenshotDirectory before.files turns after.files := by
  induction scenarios generalizing before journal reports with
  | nil =>
      obtain ⟨same, rfl, -⟩ := Attempt.runs_pure_iff.mp ran
      cases same
      exact ⟨[], [], rfl, rfl, .done _⟩
  | cons scenario rest ih =>
      have same_files {opened : World σ} {opening : List JournalEntry} {session : Except Error Unit}
          (asked : (Program.openSession (WebDriver.sessionRequest settings)).Runs host before opening
            opened session) : opened.files = before.files := by
        obtain ⟨enacted, -⟩ := Program.runs_ask_iff.mp asked
        obtain ⟨-, rfl⟩ := Prod.mk.inj enacted
        rfl
      cases runsOn_of_runEach ran with
      | refused asked =>
          refine ⟨[], scenario :: rest, rfl, rfl, ?_⟩
          rw [← same_files asked]
          exact .done _
      | @followed opened middle opening work later report others _ asked worked continued joined =>
          obtain ⟨⟨reported, stopped⟩, rfl, same⟩ := ok_of_map joined.symm
          obtain ⟨rfl, rfl⟩ := Prod.mk.inj same
          obtain ⟨turns, left, split, rfl, inTurn⟩ := ih continued
          refine ⟨⟨scenario, work, report⟩ :: turns, left, by rw [split]; rfl, rfl, ?_⟩
          rw [← same_files asked]
          exact .ran rfl worked inTurn

/-- The scenarios of a command are run in turn. Whenever scenarios are, the paths that are told of two of
them are the same just when their names become the same name of a file and the same step failed. After
the last run the file at a path holds the image that the browser returned in the last of the runs of
which the path is told. -/
theorem CommandLine.screenshots_in_turn :
    (∀ {σ : Type} (host : Host σ) (settings : Settings) (overrides : Overrides)
      (scenarios : List Scenario) (before after : World σ) (reports : List Report)
      (failure : Option Error),
      (runEach settings overrides scenarios).run.run host before = (.ok (reports, failure), after) →
      ∃ turns left, scenarios = turns.map Turn.scenario ++ left ∧
        reports = turns.map Turn.report ∧
        InTurn settings.screenshotDirectory before.files turns after.files) ∧
    ∀ (directory : Option Path) (files last : FileTree) (turns : List Turn),
      InTurn directory files turns last →
      (∀ turn ∈ turns, ∀ other ∈ turns, ∀ path path', turn.report.screenshot? = some path →
        other.report.screenshot? = some path' →
        (path = path' ↔ fileName turn.scenario.name = fileName other.scenario.name ∧
          turn.report.failedStep? = other.report.failedStep?)) ∧
      ∀ front turn back path, turns = front ++ turn :: back →
        turn.report.screenshot? = some path →
        (∀ later ∈ back, later.report.screenshot? ≠ some path) →
        ∃ image, Returned turn.journal image ∧ last.read path = .ok image := by
  refine ⟨fun host settings overrides scenarios before after reports failure ended =>
    inTurn_of_runEach ⟨ended, rfl⟩, fun directory files last turns ran => ⟨?_, ?_⟩⟩
  · intro turn member other member' path path' told told'
    obtain ⟨place, number, shared, failed, rfl⟩ := ran.named turn member path told
    obtain ⟨place', number', shared', failed', rfl⟩ := ran.named other member' path' told'
    obtain rfl := Option.some.inj (shared.symm.trans shared')
    rw [screenshotPath_inj, failed, failed', Option.some.injEq]
  · intro front turn back path split told untold
    exact ran.holds split told untold

/-- A browser that shows a page on which nothing can be done. -/
def Host.picturing (image : ByteArray) : Host Unit :=
  .steady fun
    | .screenshot => .ok image
    | .close => .ok ()
    | .navigate _ => .error (.webDriver "unknown error" "down")
    | .currentUrl => .error (.webDriver "unknown error" "down")
    | .find _ _ => .error (.webDriver "unknown error" "down")
    | .click _ => .error (.webDriver "unknown error" "down")
    | .sendKeys _ _ => .error (.webDriver "unknown error" "down")
    | .clear _ => .error (.webDriver "unknown error" "down")
    | .reveal _ => .error (.webDriver "unknown error" "down")

/-- A scenario with one step. -/
def Scenario.starting (name : String) : Scenario := ⟨name, none, none, [], [.navigate "/"]⟩

/-- What comes of the scenario in a browser that shows the image. -/
def Run.shown (name : String) (image : ByteArray) (files : FileTree) :
    Except Breakdown Report × World Unit :=
  (Run.scenario .photographing (.starting name)).run.run (.picturing image) (.start () files)

/-- The files after that. -/
def Run.filesShown (name : String) (image : ByteArray) (files : FileTree) : FileTree :=
  (shown name image files).2.files

/-- What is reported of it when the screenshot is at the path. -/
def Report.stranded (name : String) (path : Path) : Report where
  name := name
  stepsTotal := 1
  verdict := .failed 1 "Step 1 failed: WebDriver error 'unknown error': down (navigate '/')" (some path)
  duration := 0

def Run.turnShown (name : String) (path : Path) (image : ByteArray) (files : FileTree) : Turn :=
  ⟨.starting name,
    (Run.scenario .photographing (.starting name)).run.log (.picturing image) (.start () files),
    .stranded name path⟩

theorem Run.inTurn_shown {name : String} {path : Path} {image : ByteArray} {files last : FileTree}
    {turns : List Turn} (ended : (shown name image files).1 = .ok (.stranded name path))
    (others : InTurn (some "shots") (filesShown name image files) turns last) :
    InTurn (some "shots") files (turnShown name path image files :: turns) last :=
  .ran rfl (Attempt.runs_of_outcome ended) others

/-- Names that differ in a dash keep their screenshots apart. -/
theorem CommandLine.screenshots_in_turn_apart :
    let path : Path := "shots/a_b-step1.png"
    let path' : Path := "shots/a-b-step1.png"
    let first := turnShown "a b" path ⟨#[1]⟩ []
    let middle := filesShown "a b" ⟨#[1]⟩ []
    let second := turnShown "a-b" path' ⟨#[2]⟩ middle
    let last := filesShown "a-b" ⟨#[2]⟩ middle
    (∃ turns left, [Scenario.starting "a b"] = turns.map Turn.scenario ++ left ∧
      [.stranded "a b" path] = turns.map Turn.report ∧
      InTurn (some "shots") [] turns ((runEach { screenshotDirectory := some "shots" } {}
        [.starting "a b"]).run.run (.picturing ⟨#[1]⟩) (.start () [])).2.files) ∧
    InTurn (some "shots") [] [first, second] last ∧
    first.report.screenshot? = some path ∧ second.report.screenshot? = some path' ∧
    (path = path' ↔ fileName "a b" = fileName "a-b" ∧
      first.report.failedStep? = second.report.failedStep?) ∧
    ∃ image, Returned first.journal image ∧ last.read path = .ok image := by
  intro path path' first middle second last
  obtain ⟨commands, runs⟩ := CommandLine.screenshots_in_turn
  have ended : ((runEach { screenshotDirectory := some "shots" } {} [.starting "a b"]).run.run
      (.picturing ⟨#[1]⟩) (.start () [])).1 = .ok ([.stranded "a b" path], none) := by
    decide +kernel
  have ran : InTurn (some "shots") [] [first, second] last :=
    inTurn_shown (by decide +kernel) (inTurn_shown (by decide +kernel) (.done _))
  obtain ⟨same, holds⟩ := runs _ _ _ _ ran
  refine ⟨commands _ _ _ _ _ _ _ _ (Prod.ext ended rfl), ran, rfl, rfl, ?_, ?_⟩
  · exact same first (by simp) second (by simp) _ _ rfl rfl
  · refine holds [] first [second] _ rfl rfl (List.forall_mem_singleton.mpr ?_)
    show some path' ≠ some path
    decide

/-- Names that differ in a slash share one file, which holds the second image only. -/
theorem CommandLine.screenshot_overwritten :
    ∃ first second last path lost image, InTurn (some "shots") [] [first, second] last ∧
      first.scenario.name ≠ second.scenario.name ∧ first.report.screenshot? = some path ∧
      second.report.screenshot? = some path ∧ Returned first.journal lost ∧
      last.read path = .ok image ∧ image ≠ lost := by
  let path : Path := "shots/a_b-step1.png"
  let first := turnShown "a b" path ⟨#[1]⟩ []
  let middle := filesShown "a b" ⟨#[1]⟩ []
  have ended : (shown "a b" ⟨#[1]⟩ []).1 = .ok (.stranded "a b" path) := by decide +kernel
  have alone : InTurn (some "shots") [] ([] ++ [first]) middle := inTurn_shown ended (.done _)
  have told : first.report.screenshot? = some path := rfl
  obtain ⟨lost, returned, held⟩ := alone.holds rfl told (by simp)
  have shown : middle.read path = .ok ⟨#[1]⟩ := by decide +kernel
  obtain rfl : lost = ⟨#[1]⟩ := Except.ok.inj (held.symm.trans shown)
  refine ⟨first, turnShown "a/b" path ⟨#[2]⟩ middle, filesShown "a/b" ⟨#[2]⟩ middle, path,
    ⟨#[1]⟩, ⟨#[2]⟩, inTurn_shown ended (inTurn_shown ?_ (.done _)), by decide, rfl, rfl,
    returned, ?_, by decide⟩
  · decide +kernel
  · decide +kernel

end ScenarioRunner
