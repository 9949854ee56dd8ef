import Mathlib.Algebra.Ring.Nat
import ScenarioRunner.Proofs.Course

/-!
Every run ends. The bound on the looks of a wait never shows, and the number of trials of a step is
bounded by the number of intervals in its windows.
-/

namespace ScenarioRunner

variable {σ α : Type} {host : Host σ}

/-- How many intervals fill a timeout, the last perhaps not to its end. -/
def rounds (interval timeout : Nat) : Nat := (timeout + interval - 1) / interval

theorem timeout_le_rounds {interval timeout : Nat} (positive : 0 < interval) :
    timeout ≤ interval * rounds interval timeout := by
  have remainder := Nat.div_add_mod (timeout + interval - 1) interval
  have small := Nat.mod_lt (timeout + interval - 1) positive
  rw [rounds]
  omega

/-- Pauses that all start before the deadline are no more than the intervals up to it. -/
theorem Timed.pauses_mul_lt {interval deadline first last : Nat} {journal : List JournalEntry}
    (positive : 0 < interval) (timed : Timed first journal last)
    (inside : ∀ entry ∈ journal, entry.InWindow interval deadline) :
    pauses journal * interval < deadline - first + interval := by
  induction timed with
  | still now =>
      rw [pauses_nil]
      omega
  | call later _ ih =>
      have rest := ih (List.forall_mem_cons.mp inside).2
      rw [pauses_call]
      omega
  | session later _ ih => exact (List.forall_mem_cons.mp inside).1.elim
  | @pause started duration last rest _ ih =>
      obtain ⟨⟨early, rfl⟩, others⟩ := List.forall_mem_cons.mp inside
      have later := ih others
      rw [pauses_pause, Nat.add_mul, Nat.one_mul]
      by_cases ending : deadline ≤ started + duration
      · -- a pause behind this one would start too late
        have none_left : pauses rest = 0 := by
          by_contra some_left
          have many := Nat.mul_le_mul_right duration (Nat.pos_of_ne_zero some_left)
          omega
        rw [none_left, Nat.zero_mul]
        omega
      · omega
  | event _ ih =>
      rw [pauses_event]
      exact ih (List.forall_mem_cons.mp inside).2

/-- A window has as many pauses at most as it has intervals, and one trial of a kind more. -/
theorem Paced.trials_le {timeout opened ended : Nat} {journal : List JournalEntry}
    (positive : 0 < interval) (paced : Paced interval (opened + timeout) journal)
    (timed : Timed opened journal ended) (kind : Trial) :
    trials kind journal ≤ rounds interval timeout + 1 := by
  have paused := timed.pauses_mul_lt positive paced.inside
  have fits : pauses journal ≤ rounds interval timeout := by
    rw [rounds, Nat.le_div_iff_mul_le positive]
    omega
  have spaced := paced.spaced kind
  omega

/-- The windows of a journal, each with the time of its opening. -/
def windowsOf : List JournalEntry → List (Nat × List JournalEntry)
  | [] => []
  | entry :: rest =>
    match entry.openedAt? with
    | some opened =>
      (opened, rest.takeWhile fun later => later.openedAt?.isNone) :: windowsOf rest
    | none => windowsOf rest

/-- A journal that begins with a window, if it has any entries. -/
def Opens (journal : List JournalEntry) : Prop :=
  journal.takeWhile (fun entry => entry.openedAt?.isNone) = []

theorem windowsOf_append {quiet rest : List JournalEntry} (still : Quiet quiet) :
    windowsOf (quiet ++ rest) = windowsOf rest := by
  induction quiet with
  | nil => rfl
  | cons entry others ih =>
      obtain ⟨closed, still_others⟩ := List.forall_mem_cons.mp still
      rw [List.cons_append, windowsOf, closed]
      exact ih still_others

/-- A window reaches up to the next. -/
theorem windowsOf_cons {entry : JournalEntry} {opened : Nat} {window rest : List JournalEntry}
    (opens : entry.openedAt? = some opened) (still : Quiet window) (next : Opens rest) :
    windowsOf (entry :: (window ++ rest)) = (opened, window) :: windowsOf rest := by
  have whole : (window ++ rest).takeWhile (fun later => later.openedAt?.isNone) = window := by
    rw [List.takeWhile_append_of_pos fun later member => by rw [still later member]; rfl, next,
      List.append_nil]
  rw [windowsOf, opens]
  dsimp only
  rw [whole, windowsOf_append still]

theorem Paced.quiet {interval deadline : Nat} {journal : List JournalEntry}
    (paced : Paced interval deadline journal) : Quiet journal := by
  intro entry member
  have inside := paced.inside entry member
  cases entry with
  | event time event =>
      cases event with
      | stepBegan number step stored => exact inside.elim
      | interactionBegan interaction => exact inside.elim
      | _ => rfl
  | _ => rfl

/-- A window in which a step keeps its pace. -/
def KeepsPace (interval timeout : Nat) (window : Nat × List JournalEntry) : Prop :=
  Paced interval (window.1 + timeout) window.2 ∧ ∃ ended, Timed window.1 window.2 ended

theorem KeepsPace.trials_le {interval timeout : Nat} {window : Nat × List JournalEntry}
    (positive : 0 < interval) (keeps : KeepsPace interval timeout window) (kind : Trial) :
    trials kind window.2 ≤ rounds interval timeout + 1 := by
  obtain ⟨paced, ended, timed⟩ := keeps
  exact paced.trials_le positive timed kind

/-- Every interaction that is tried has one window. -/
theorem InteractionsPaced.windows {timeout opened ended : Nat}
    {interactions : List Interaction} {journal : List JournalEntry}
    (paced : InteractionsPaced interval timeout opened interactions journal ended) :
    Opens journal ∧ (∀ window ∈ windowsOf journal, KeepsPace interval timeout window) ∧
      (windowsOf journal).length ≤ interactions.length := by
  induction paced with
  | ended now left => exact ⟨rfl, by simp [windowsOf], by simp [windowsOf]⟩
  | @window opened middle last interaction rest window journal timed fits paced continued ih =>
      obtain ⟨next, keep, few⟩ := ih
      refine ⟨rfl, ?_⟩
      rw [windowsOf_cons rfl paced.quiet next]
      have keeps : KeepsPace interval timeout (opened, window) := ⟨paced, middle, timed⟩
      exact ⟨List.forall_mem_cons.mpr ⟨keeps, keep⟩, Nat.succ_le_succ few⟩

/-- As many trials as the windows of all interactions have. -/
theorem InteractionsPaced.trials_le {timeout opened ended : Nat}
    {interactions : List Interaction} {journal : List JournalEntry} (positive : 0 < interval)
    (paced : InteractionsPaced interval timeout opened interactions journal ended) (kind : Trial) :
    trials kind journal ≤ interactions.length * (rounds interval timeout + 1) := by
  induction paced with
  | ended now left => exact Nat.zero_le _
  | @window opened middle last interaction rest window journal timed fits paced continued ih =>
      have here := paced.trials_le positive timed kind
      have announced : trials kind [.event opened (.interactionBegan interaction)] = 0 := by
        cases kind <;> rfl
      rw [← List.singleton_append, trials_append, announced, trials_append, List.length_cons,
        Nat.add_mul, Nat.one_mul]
      omega

/-- How many trials of a kind a step may make. -/
def Step.budget (options : RunOptions) (step : Step) : Nat :=
  max 1 step.interactions.length * (rounds options.pollInterval (step.window options) + 1)

/-- Without interactions the whole step is one window. -/
theorem StepPaced.trials_le {options : RunOptions} {step : Step} {opened ended : Nat}
    {journal : List JournalEntry} (positive : 0 < options.pollInterval)
    (paced : StepPaced options step opened journal ended) (kind : Trial) :
    trials kind journal ≤ step.budget options := by
  rw [Step.budget]
  cases paced with
  | single timed paced =>
      have once := paced.trials_le positive timed kind
      have least := Nat.mul_le_mul_right (rounds options.pollInterval (step.window options) + 1)
        (Nat.le_max_left 1 step.interactions.length)
      omega
  | several windows =>
      have all := windows.trials_le positive kind
      exact Nat.le_trans all (Nat.mul_le_mul_right _ (Nat.le_max_right 1 _))

theorem Executor.trials_of_execute {options : RunOptions} {executor : Executor} {step : Step}
    {before after : World σ} {journal : List JournalEntry}
    {ended : Except Breakdown (Except Failure Unit × Executor)}
    (positive : 0 < options.pollInterval)
    (ran : (executor.execute options step).Runs host before journal after ended) (kind : Trial) :
    trials kind journal ≤ step.budget options := by
  obtain ⟨opened, rest, outcome, rfl, -, -, attempted, -⟩ := Executor.runs_execute ran
  have announced : trials kind [.event before.now (.stepBegan (executor.stepNumber + 1) step
      executor.stored)] = 0 := by
    cases kind <;> rfl
  rw [← List.singleton_append, trials_append, announced, Nat.zero_add]
  exact (Attempt.stepPaced_of_perform attempted).trials_le positive kind

/-- The windows of an execution: one for the step and one for each interaction that is tried. -/
theorem Executor.windows_of_execute {options : RunOptions} {executor : Executor} {step : Step}
    {before after : World σ} {journal : List JournalEntry}
    {ended : Except Breakdown (Except Failure Unit × Executor)}
    (ran : (executor.execute options step).Runs host before journal after ended) :
    (∀ window ∈ windowsOf journal,
      KeepsPace options.pollInterval (step.window options) window) ∧
    (windowsOf journal).length ≤ step.interactions.length + 1 := by
  obtain ⟨opened, rest, outcome, rfl, opened_at, -, attempted, -⟩ := Executor.runs_execute ran
  have paced := Attempt.stepPaced_of_perform attempted
  rw [opened_at] at paced
  cases paced with
  | single timed paced =>
      have alone : windowsOf (.event before.now (.stepBegan (executor.stepNumber + 1) step
          executor.stored) :: (rest ++ [])) = [(before.now, rest)] :=
        windowsOf_cons rfl paced.quiet rfl
      rw [List.append_nil] at alone
      rw [alone]
      exact ⟨List.forall_mem_singleton.mpr ⟨paced, after.now, timed⟩, Nat.le_add_left 1 _⟩
  | several windows =>
      obtain ⟨next, keep, few⟩ := windows.windows
      have first : windowsOf (.event before.now (.stepBegan (executor.stepNumber + 1) step
          executor.stored) :: ([] ++ rest)) = (before.now, []) :: windowsOf rest :=
        windowsOf_cons rfl (by simp [Quiet]) next
      rw [List.nil_append] at first
      have empty : KeepsPace options.pollInterval (step.window options) (before.now, []) :=
        ⟨.nil _ _, before.now, .still _⟩
      rw [first]
      exact ⟨List.forall_mem_cons.mpr ⟨empty, keep⟩, Nat.succ_le_succ few⟩

/-- The trials of the steps of a run are those of its executions. -/
theorem StepsRun.trials_le {options : RunOptions} {executor : Executor} {list : List Step}
    {journal : List JournalEntry} {ended : Except Breakdown (Option FailedStep)}
    (positive : 0 < options.pollInterval)
    (ran : StepsRun host options executor list journal ended) (kind : Trial) :
    trials kind journal ≤ (list.map (Step.budget options)).sum := by
  induction ran with
  | done => exact Nat.zero_le _
  | passed executed continued ih =>
      have here := Executor.trials_of_execute positive executed kind
      rw [trials_append, List.map_cons, List.sum_cons]
      omega
  | failed executed =>
      have here := Executor.trials_of_execute positive executed kind
      rw [List.map_cons, List.sum_cons]
      omega
  | broken executed =>
      have here := Executor.trials_of_execute positive executed kind
      rw [List.map_cons, List.sum_cons]
      omega

/-- How many trials of a kind a run may make. -/
def Scenario.budget (options : RunOptions) (scenario : Scenario) : Nat :=
  (scenario.steps.map (Step.budget options)).sum

theorem JournalEntry.IsParting.not_begins {entry : JournalEntry} (parting : entry.IsParting)
    (kind : Trial) : entry.begins kind = false := by
  cases entry with
  | call started finished asked outcome =>
      cases asked with
      | screenshot => cases kind <;> rfl
      | _ => exact parting.elim
  | _ => exact parting.elim

/-- What follows the steps of a run is no trial. -/
theorem Run.trials_of_ending {options : RunOptions} {scenario : Scenario} {started : Nat}
    {failed : Option FailedStep} {before after : World σ} {journal : List JournalEntry}
    {report : Report}
    (ran : (Run.ending options scenario started failed).Runs host before journal after report)
    (kind : Trial) : trials kind journal = 0 := by
  obtain ⟨shots, screenshot, asked, closed, outcome, rfl, taken, -, -, -⟩ := Run.runs_ending ran
  have departing : trials kind shots = 0 :=
    trials_eq_zero fun entry member => (taken.parting entry member).not_begins kind
  have closing : trials kind [.call asked closed .close outcome] = 0 := by
    cases kind <;> rfl
  rw [trials_append, departing, closing]

theorem Run.trials_of_scenario {options : RunOptions} {scenario : Scenario}
    {before after : World σ} {journal : List JournalEntry} {ended : Except Breakdown Report}
    (positive : 0 < options.pollInterval)
    (ran : (Run.scenario options scenario).Runs host before journal after ended) (kind : Trial) :
    trials kind journal ≤ scenario.budget options := by
  obtain ⟨first, middle, stepped, ran_steps, followed⟩ := Run.parts_of_scenario ran
  have working := (Run.stepsRun_of_steps ran_steps).trials_le positive kind
  cases stepped with
  | ok failed =>
      obtain ⟨last, report, ended, rfl, -⟩ := followed
      rw [trials_append, Run.trials_of_ending ended]
      exact working
  | error breakdown =>
      obtain ⟨-, rfl, -⟩ := followed
      exact working

/-- The runs of several scenarios make the trials of each. -/
theorem CommandLine.trials_of_runEach {settings : Settings} {overrides : Overrides}
    {scenarios : List Scenario} {before after : World σ} {journal : List JournalEntry}
    {ended : Except Breakdown (List Report × Option Error)}
    (positive : ∀ baseUrl, 0 < (settings.runOptions baseUrl overrides).pollInterval)
    (ran : (runEach settings overrides scenarios).Runs host before journal after ended)
    (kind : Trial) :
    trials kind journal ≤ (scenarios.map fun scenario =>
      scenario.budget (settings.runOptions scenario.baseUrl overrides)).sum := by
  induction scenarios generalizing before after journal ended with
  | nil =>
      obtain ⟨-, -, rfl⟩ := Attempt.runs_pure_iff.mp ran
      exact Nat.zero_le _
  | cons scenario rest ih =>
      have unbegun {opened : World σ} {opening : List JournalEntry} {session : Except Error Unit}
          (asked : (Program.openSession (WebDriver.sessionRequest settings)).Runs host before opening
            opened session) : trials kind opening = 0 := by
        obtain ⟨-, rfl⟩ := Program.runs_ask_iff.mp asked
        cases kind <;> rfl
      rw [List.map_cons, List.sum_cons]
      cases runsOn_of_runEach ran with
      | refused asked =>
          rw [unbegun asked]
          exact Nat.zero_le _
      | broken asked here =>
          have first := Run.trials_of_scenario (positive scenario.baseUrl) here kind
          rw [trials_append, unbegun asked]
          omega
      | followed asked here continued =>
          have first := Run.trials_of_scenario (positive scenario.baseUrl) here kind
          have others := ih continued
          rw [trials_append, trials_append, unbegun asked]
          omega

namespace Attempt

/-- One look with a deadline, and what follows it, run as they are told. -/
theorem runs_of_lookedUntil {deadline : Nat} {look : Attempt (Stop Fault) (Look α)}
    {otherwise : Attempt (Stop Fault) α} {before after : World σ} {journal : List JournalEntry}
    {outcome : Except (Stop Fault) α}
    (looked : LookedUntil host deadline look otherwise before journal after outcome) :
    Runs host (lookUntil deadline look otherwise) before journal after outcome := by
  -- the time is read in no time
  have decided {middle ended : World σ} {rest : List JournalEntry} {fault : Fault}
      {result : Except (Stop Fault) α}
      (followed : Runs host (if deadline ≤ middle.now then throw (.failed fault) else otherwise)
        middle rest ended result) :
      Runs host (do
        if deadline ≤ (← Program.clock) then throw (.failed fault)
        otherwise) middle rest ended result := by
    refine runs_lift_bind_iff.mpr ⟨[], middle, middle.now, rest, ⟨rfl, rfl⟩, ?_, rfl⟩
    split at followed
    next late =>
      simp only [if_pos late]
      exact followed
    next early =>
      simp only [if_neg early]
      exact followed
  cases looked with
  | settled looked =>
      exact runs_bind_iff.mpr (.inr ⟨journal, after, _, [], looked, runs_pure_iff.mpr ⟨rfl, rfl, rfl⟩,
        (List.append_nil journal).symm⟩)
  | stopped looked => exact runs_bind_iff.mpr (.inl ⟨_, looked, rfl⟩)
  | expired looked late =>
      refine runs_bind_iff.mpr (.inr ⟨journal, after, _, [], looked, decided ?_,
        (List.append_nil journal).symm⟩)
      rw [if_pos late]
      exact runs_throw_iff.mpr ⟨rfl, rfl, rfl⟩
  | early looked early followed =>
      refine runs_bind_iff.mpr (.inr ⟨_, _, _, _, looked, decided ?_, rfl⟩)
      rw [if_neg (Nat.not_le_of_lt early)]
      exact followed

/-- A wait with a last look that decides runs as a look with a deadline, whatever would follow. -/
theorem runs_pollUntil {interval deadline patience : Nat} {look : Attempt (Stop Fault) (Look α)}
    {before after : World σ} {journal : List JournalEntry} {outcome : Except (Stop Fault) α}
    (decides : ∀ otherwise, LookedUntil host deadline look otherwise before journal after outcome) :
    Runs host (pollUntil interval deadline look patience) before journal after outcome := by
  cases patience with
  | zero => exact runs_of_lookedUntil (decides _)
  | succ patience => exact runs_of_lookedUntil (decides _)

/-- With an interval a wait goes on until it is settled, stopped or over, and no bound on its looks
shows once there is a look for every interval. -/
theorem runs_of_polled {interval deadline patience : Nat} {look : Attempt (Stop Fault) (Look α)}
    {before after : World σ} {journal : List JournalEntry} {outcome : Except (Stop Fault) α}
    (positive : 0 < interval) (enough : deadline ≤ before.now + interval * patience)
    (polled : Polled host interval deadline look before journal after outcome) :
    Runs host (pollUntil interval deadline look patience) before journal after outcome := by
  induction polled generalizing patience with
  | settled looked => exact runs_pollUntil fun _ => .settled looked
  | stopped looked => exact runs_pollUntil fun _ => .stopped looked
  | expired looked late => exact runs_pollUntil fun _ => .expired looked late
  | unending looked early still => omega
  | @again before middle resumed after journal waited rest fault outcome looked early paused
      continued ih =>
      have passed := looked.timed.le
      have resumed_at := (Program.runs_pause paused).2.1
      cases patience with
      | zero => omega
      | succ patience =>
          have still_enough : deadline ≤ resumed.now + interval * patience := by
            rw [Nat.mul_succ] at enough
            omega
          exact runs_of_lookedUntil (.early looked early
            (runs_lift_bind_iff.mpr ⟨waited, resumed, (), rest, paused, ih still_enough, rfl⟩))

/-- As many looks as there are intervals are enough, and more make no difference. -/
theorem pollUntil_enough {interval timeout patience : Nat} (positive : 0 < interval)
    (look : Attempt (Stop Fault) (Look α)) (host : Host σ) (before : World σ)
    (enough : rounds interval timeout ≤ patience) :
    Program.run host (pollUntil interval (before.now + timeout) look patience).run before =
      Program.run host (pollUntil interval (before.now + timeout) look
        (Attempt.patience interval timeout)).run before := by
  have filled : timeout ≤ interval * rounds interval timeout := timeout_le_rounds positive
  have more := Nat.mul_le_mul_left interval enough
  have ran := Program.runs_run host (pollUntil interval (before.now + timeout) look
    (Attempt.patience interval timeout)).run before
  have bounded : before.now + timeout ≤ before.now + Attempt.patience interval timeout := by
    simp [Attempt.patience, Nat.ne_of_gt positive]
  have polled := polled_of_pollUntil (.inr bounded) ran
  have again : Runs host (pollUntil interval (before.now + timeout) look patience) before _ _ _ :=
    runs_of_polled positive (by omega) polled
  exact again.result.trans ran.result.symm

end Attempt

/-- Every run ends. Whatever is waited for, a wait comes to the same end with any bound on its looks
that leaves one for each interval, and no step breaks down because it would not end. A step without
interactions makes one trial of a kind more than there are intervals in its window, and so does each
interaction in a window of its own; no pause starts when the window is over. Settings that were read
always have an interval, so that the runs of a command end and their trials are bounded by those of
their steps. -/
theorem CommandLine.runs_end (host : Host σ) :
    (∀ options : RunOptions, 0 < options.pollInterval →
      (∀ {α : Type} (look : Attempt (Stop Fault) (Look α)) (before : World σ)
          (timeout patience : Nat), rounds options.pollInterval timeout ≤ patience →
        Program.run host (Attempt.pollUntil options.pollInterval (before.now + timeout) look
            patience).run before =
          Program.run host (Attempt.pollUntil options.pollInterval (before.now + timeout) look
            (Attempt.patience options.pollInterval timeout)).run before) ∧
      ∀ (executor : Executor) (step : Step) (before : World σ),
        let execution : Program (Except Breakdown (Except Failure Unit × Executor)) :=
          (executor.execute options step).run
        let log := execution.log host before
        let most := rounds options.pollInterval (step.window options) + 1
        (execution.run host before).1 ≠ .error .unending ∧
        (step.interactions = [] → ∀ kind, trials kind log ≤ most) ∧
        Opens log ∧ (windowsOf log).length ≤ step.interactions.length + 1 ∧
        ∀ window ∈ windowsOf log, (∀ kind, trials kind window.2 ≤ most) ∧
          ∀ started duration, .pause started duration ∈ window.2 →
            started < window.1 + step.window options) ∧
    ∀ settings : Settings, (settings = {} ∨ ∃ text, Settings.ofText text = .ok settings) →
      ∀ overrides : Overrides,
        let chosen := (settings.override overrides).1
        (∀ baseUrl, 0 < (chosen.runOptions baseUrl overrides).pollInterval) ∧
        ∀ (scenarios : List Scenario) (before : World σ),
          let runs : Program (Except Breakdown (List Report × Option Error)) :=
            (runEach chosen overrides scenarios).run
          (runs.run host before).1 ≠ .error .unending ∧
          ∀ kind, trials kind (runs.log host before) ≤
            (scenarios.map fun scenario =>
              scenario.budget (chosen.runOptions scenario.baseUrl overrides)).sum := by
  refine ⟨fun options positive => ⟨?_, ?_⟩, fun settings loaded overrides => ⟨?_, ?_⟩⟩
  · intro α look before timeout patience enough
    exact Attempt.pollUntil_enough positive look host before enough
  · intro executor step before
    have ran := Program.runs_run host (executor.execute options step).run before
    obtain ⟨keep, few⟩ := Executor.windows_of_execute ran
    refine ⟨fun unending => ?_, fun passive kind => ?_, ?_, few,
      fun window member => ⟨fun kind => ?_, ?_⟩⟩
    · cases Executor.inWindow_of_execute (Attempt.runs_of_outcome unending) with
      | unending still => omega
    · have all := Executor.trials_of_execute positive ran kind
      rw [Step.budget, passive] at all
      simpa using all
    · obtain ⟨opened, rest, outcome, recorded, -, -, -, -⟩ := Executor.runs_execute ran
      rw [recorded]
      rfl
    · exact (keep window member).trials_le positive kind
    · intro started duration paused
      exact ((keep window member).1.inside _ paused).1
  · exact fun baseUrl => Settings.pollInterval_pos loaded baseUrl overrides
  · intro scenarios before
    have positive (baseUrl : Option String) := Settings.pollInterval_pos loaded baseUrl overrides
    refine ⟨fun unending => ?_, fun kind => trials_of_runEach positive (Program.runs_run ..) kind⟩
    obtain ⟨scenario, -, begun, last, ran⟩ := breaking_scenario (Attempt.runs_of_outcome unending)
    have still := Run.interval_of_unending ran
    have waits := positive scenario.baseUrl
    omega

/-- A page on which everything is found and every act is refused for the moment. -/
def Host.obstinate : Host Unit :=
  .steady fun
    | .find _ _ => .ok [⟨"e"⟩]
    | .currentUrl => .ok "about:blank"
    | _ => .error (.webDriver "element click intercepted" "covered")

/-- An element that lets nobody click it is clicked as often as the window allows. -/
theorem CommandLine.runs_end_obstinate :
    let log := Program.log Host.obstinate (Executor.start.execute RunOptions.plain
      (.interact [.get ".a"] [.click] none)).run (World.start () [])
    0 < RunOptions.plain.pollInterval ∧ trials .act log = 4 ∧
      (∀ window ∈ windowsOf log, ∀ kind, trials kind window.2 ≤ 4) ∧
      0 < ((({} : Settings).override {}).1.runOptions none {}).pollInterval := by
  have positive : 0 < RunOptions.plain.pollInterval := by decide
  obtain ⟨waits, runs⟩ := CommandLine.runs_end Host.obstinate
  obtain ⟨-, -, -, -, keep⟩ := (waits RunOptions.plain positive).2 Executor.start
    (.interact [.get ".a"] [.click] none) (World.start () [])
  exact ⟨positive, by rfl, fun window member => (keep window member).1,
    (runs {} (.inl rfl) {}).1 none⟩

end ScenarioRunner
