import ScenarioRunner.CommandLine.Commands
import ScenarioRunner.Proofs.Ending
import ScenarioRunner.Proofs.Grounding

/-!
Why runs break down: a window would close later than the clock can show, or looks follow one another
without a delay, or a chain without a link is acted on.
-/

namespace ScenarioRunner

variable {σ α : Type} {host : Host σ} {before after : World σ} {journal : List JournalEntry}
  {breakdown : Breakdown}

/-- What may break an attempt down at a moment. Its windows have one length, and some chains may have no
link. -/
inductive Breakdown.InWindow (interval timeout now : Nat) (linkless : Prop) : Breakdown → Prop where
  | beyondClock (beyond : ¬ Fits now timeout) :
      InWindow interval timeout now linkless (.beyondClock now timeout)
  | unending (still : interval = 0) : InWindow interval timeout now linkless .unending
  | nothingToActOn (nothing : linkless) : InWindow interval timeout now linkless .nothingToActOn

theorem Breakdown.InWindow.mono {interval timeout now : Nat} {linkless other : Prop}
    (inside : breakdown.InWindow interval timeout now linkless) (implies : linkless → other) :
    breakdown.InWindow interval timeout now other := by
  cases inside with
  | beyondClock beyond => exact .beyondClock beyond
  | unending still => exact .unending still
  | nothingToActOn nothing => exact .nothingToActOn (implies nothing)

/-- A chain with a link in it leads to an element when it leads to its end. -/
theorem Chain.Evaluated.ne_nil {position : Nat} {subject : Option (List ElementId)} {chain : Chain}
    {searches : List CallRecord} {elements : List ElementId}
    (evaluated : chain.Evaluated position subject searches (.found elements))
    (started : chain ≠ [] ∨ subject.getD [] ≠ []) : elements ≠ [] := by
  generalize told : Lookup.found elements = lookup at evaluated
  induction evaluated with
  | found =>
      cases told
      exact started.elim (fun impossible => absurd rfl impossible) id
  | missing nothing => cases told
  | matched led nonempty continued ih => exact ih (.inr nonempty) told

/-- What a chain with a link in it is resolved to is never empty. -/
theorem LastLook.elements_ne_nil {timeout : Nat} {late : Prop} {chain : Chain}
    {looks : List JournalEntry} {elements : List ElementId} (linked : chain ≠ [])
    (looked : LastLook (Look.presence timeout chain) late chain looks (.ok elements)) :
    elements ≠ [] := by
  cases looked.told with
  | settled granted evaluated settles =>
      obtain rfl := Look.eq_found_of_presence settles
      exact evaluated.ne_nil (.inl linked)

/-- A wait breaks down with one of its looks, or for want of an interval. -/
theorem Polled.cases_of_broken {interval deadline : Nat} {look : Attempt (Stop Fault) (Look α)}
    (polled : Polled host interval deadline look before journal after
      (.error (.broken breakdown))) :
    (interval = 0 ∧ breakdown = .unending) ∨
    ∃ start last, before.now ≤ start.now ∧
      Attempt.Runs host look start last after (.error (.broken breakdown)) := by
  generalize told : Except.error (Stop.broken breakdown) = outcome at polled
  induction polled with
  | settled looked => cases told
  | stopped looked =>
      cases told
      exact .inr ⟨_, _, Nat.le_refl _, looked⟩
  | expired looked late => cases told
  | unending looked early still =>
      cases told
      exact .inl ⟨still, rfl⟩
  | again looked early paused continued ih =>
      rcases ih told with unending | ⟨start, last, later, broken⟩
      · exact .inl unending
      · have looking := looked.timed.le
        have pausing := paused.timed.le
        exact .inr ⟨start, last, by omega, broken⟩

/-- Looks that never break down leave a wait its interval. -/
theorem Polled.unending_of_failing {interval deadline : Nat} {look : Attempt Fault (Look α)}
    (polled : Polled host interval deadline look.failing before journal after
      (.error (.broken breakdown))) : interval = 0 ∧ breakdown = .unending := by
  rcases polled.cases_of_broken with unending | ⟨start, last, -, broken⟩
  · exact unending
  · obtain ⟨result, -, same⟩ := Attempt.runs_failing_iff.mp broken
    cases result <;> cases same

namespace Attempt

/-- A wait for the page breaks down by its window or for want of an interval. -/
theorem inWindow_of_poll {interval timeout : Nat} {linkless : Prop} {look : Attempt Fault (Look α)}
    (ran : Runs host (poll interval timeout fun _ => look.failing) before journal after
      (.error (.broken breakdown))) : breakdown.InWindow interval timeout after.now linkless := by
  rcases polled_of_poll ran with ⟨-, polled⟩ | ⟨beyond, rfl, rfl, same⟩
  · obtain ⟨still, rfl⟩ := polled.unending_of_failing
    exact .unending still
  · cases same
    exact .beyondClock beyond

/-- Whatever is left of a window that fits is a window that fits. -/
theorem fits_of_deadline {deadline now : Nat} (fits : deadline ≤ now ∨ deadline < clockEnd) :
    Fits now (deadline - now) := by
  unfold Fits
  omega

/-- A try breaks down for want of an interval or of a link, since its window is part of another. -/
theorem inWindow_of_tryInteraction {options : RunOptions} {timeout deadline : Nat} {chain : Chain}
    {interaction : Interaction} (fits : deadline ≤ before.now ∨ deadline < clockEnd)
    (ran : Runs host (tryInteraction options chain interaction deadline) before journal after
      (.error (.broken breakdown))) :
    breakdown.InWindow options.pollInterval timeout after.now (chain = []) := by
  obtain ⟨found, middle, resolved, acted, -, ran_resolve, -, tried⟩ := tried_of_runs ran
  generalize told : Except.error (Stop.broken breakdown) = outcome at tried
  cases tried with
  | unresolved =>
      cases told
      rcases polled_of_poll ran_resolve with ⟨-, polled⟩ | ⟨beyond, -⟩
      · obtain ⟨still, rfl⟩ := polled.unending_of_failing
        exact .unending still
      · exact absurd (fits_of_deadline fits) beyond
  | nothing =>
      cases told
      refine .nothingToActOn (Decidable.byContradiction fun linked => ?_)
      cases chainWindow_of_resolve ran_resolve with
      | closed waits timed looked => exact looked.elements_ne_nil linked rfl
  | @acted _ _ _ result _ done judged =>
      subst told
      rcases result with fault | value
      · cases fault with
        | refused error =>
            cases passes : error.isTransient <;> simp [Look.ofAct, passes] at judged
        | _ => cases judged
      · cases judged

/-- An interaction breaks down as it opens, for want of an interval or for want of a link. -/
theorem inWindow_of_interact {options : RunOptions} {timeout : Nat} {chain : Chain}
    {interaction : Interaction}
    (ran : Runs host (interact options timeout chain interaction) before journal after
      (.error (.broken breakdown))) :
    breakdown.InWindow options.pollInterval timeout after.now (chain = []) := by
  obtain ⟨_, opened, _, _, noted, polling, rfl⟩ := runs_lift_bind_iff.mp ran
  rcases polled_of_poll polling with ⟨fits, polled⟩ | ⟨beyond, rfl, rfl, same⟩
  · rcases polled.cases_of_broken with ⟨still, rfl⟩ | ⟨start, last, later, broken⟩
    · exact .unending still
    · refine inWindow_of_tryInteraction ?_ broken
      unfold Fits at fits
      omega
  · cases same
    exact .beyondClock beyond

theorem inWindow_of_forM {options : RunOptions} {timeout : Nat} {chain : Chain}
    {interactions : List Interaction}
    (ran : Runs host (interactions.forM (interact options timeout chain)) before journal after
      (.error (.broken breakdown))) :
    breakdown.InWindow options.pollInterval timeout after.now (chain = []) := by
  induction interactions generalizing before journal with
  | nil => cases (runs_pure_iff.mp ran).1
  | cons interaction rest ih =>
      rcases runs_bind_iff.mp ran with ⟨stop, first, same⟩ | ⟨_, _, value, _, -, continued, -⟩
      · cases same
        exact inWindow_of_interact first
      · exact ih continued

end Attempt

/-- The target of a step is expanded to a chain without a link. -/
def Step.Linkless (stored : StoredChains) (step : Step) : Prop :=
  ∃ target, step.target? = some target ∧ stored.expand target = .ok []

namespace Attempt

/-- A step breaks down by its own window, for want of an interval or for want of a link. -/
theorem inWindow_of_perform {options : RunOptions} {stored : StoredChains} {step : Step}
    (ran : Runs host (perform options stored step) before journal after
      (.error (.broken breakdown))) :
    breakdown.InWindow options.pollInterval (step.window options) after.now
      (step.Linkless stored) := by
  cases step with
  | navigate url =>
      obtain ⟨result, called, same⟩ := runs_bind_pure ran
      obtain ⟨answer, -, rfl⟩ := runs_failing_iff.mp called
      cases answer <;> cases same
  | locate target storeAs timeout =>
      rcases runs_expand_bind ran with ⟨fault, -, -, same⟩ | ⟨chain, -, sought⟩
      · cases same
      · rcases runs_bind_iff.mp sought with ⟨stop, resolved, same⟩ | ⟨_, _, elements, _, -, rest, -⟩
        · cases same
          exact inWindow_of_poll resolved
        · obtain ⟨_, _, _, _, -, kept, -⟩ := runs_lift_bind_iff.mp rest
          cases storeAs <;> cases (runs_pure_iff.mp kept).1
  | interact target interactions timeout =>
      rcases runs_expand_bind ran with ⟨fault, -, -, same⟩ | ⟨chain, expanded, windows⟩
      · cases same
      · obtain ⟨result, interacted, same⟩ := runs_bind_pure windows
        cases result with
        | ok value => cases same
        | error stop =>
            cases same
            refine (inWindow_of_forM interacted).mono ?_
            rintro rfl
            exact ⟨target, rfl, expanded⟩
  | assertPresent target timeout =>
      rcases runs_expand_bind ran with ⟨fault, -, -, same⟩ | ⟨chain, -, sought⟩
      · cases same
      · obtain ⟨result, resolved, same⟩ := runs_bind_pure sought
        cases result with
        | ok value => cases same
        | error stop =>
            cases same
            exact inWindow_of_poll resolved
  | assertAbsent target timeout =>
      rcases runs_expand_bind ran with ⟨fault, -, -, same⟩ | ⟨chain, -, waited⟩
      · cases same
      · obtain ⟨result, vanished, same⟩ := runs_bind_pure waited
        cases result with
        | ok value => cases same
        | error stop =>
            cases same
            exact inWindow_of_poll vanished
  | assertUrlContains fragment timeout =>
      obtain ⟨result, waited, same⟩ := runs_bind_pure ran
      cases result with
      | ok value => cases same
      | error stop =>
          cases same
          exact inWindow_of_poll waited

end Attempt

/-- Executors break down with their steps. -/
theorem Executor.inWindow_of_execute {options : RunOptions} {executor : Executor} {step : Step}
    (ran : (executor.execute options step).Runs host before journal after (.error breakdown)) :
    breakdown.InWindow options.pollInterval (step.window options) after.now
      (step.Linkless executor.stored) := by
  obtain ⟨opened, rest, outcome, -, -, -, attempted, told⟩ := runs_execute ran
  rcases outcome with (fault | broken) | stored
  · cases told
  · cases told
    exact Attempt.inWindow_of_perform attempted
  · cases told

namespace Run

/-- The step that breaks down is executed in its turn. Where the steps are checked it is so with all
that its check relies on remembered. -/
theorem breaking_step {options : RunOptions} {executor : Executor} {list : List Step}
    (ran : (steps options executor list).Runs host before journal after (.error breakdown)) :
    ∃ step ∈ list, ∃ (reached : Executor) (begun : World σ) (last : List JournalEntry),
      (reached.execute options step).Runs host begun last after (.error breakdown) ∧
      ∀ number known, checkSteps number known list = .ok () → executor.stored.Remembers known →
        ∃ known, step.check known = .ok () ∧ reached.stored.Remembers known := by
  induction list generalizing executor before journal with
  | nil => cases (Attempt.runs_pure_iff.mp ran).1
  | cons step rest ih =>
      obtain ⟨first, middle, executed, ran_step, continued⟩ := executed_of_steps ran
      rcases executed with broken | ⟨failure | value, next⟩
      · obtain ⟨rfl, -, same⟩ := continued
        cases same
        exact ⟨step, List.mem_cons_self, executor, before, first, ran_step,
          fun number known checked remembers => ⟨known, (checkSteps_cons checked).1, remembers⟩⟩
      · cases continued.2.2
      · obtain ⟨resumed, later, -, resumption, -⟩ := continued
        obtain ⟨_, result, -, -, concluded⟩ := Executor.performed_of_execute ran_step
        rcases result with (fault | broken) | value
        · cases concluded
        · cases concluded
        · cases concluded
          obtain ⟨broken, member, reached, begun, last, executed, remembered⟩ := ih resumption
          refine ⟨broken, List.mem_cons_of_mem step member, reached, begun, last, executed, ?_⟩
          intro number known checked remembers
          obtain ⟨step_checked, rest_checked⟩ := checkSteps_cons checked
          exact remembered _ _ rest_checked (remembers.after step_checked)

/-- A run breaks down in its steps. -/
theorem steps_of_broken {options : RunOptions} {scenario : Scenario}
    (ran : (Run.scenario options scenario).Runs host before journal after (.error breakdown)) :
    (steps options Executor.start scenario.steps).Runs host (opening host options scenario before)
      journal after (.error breakdown) := by
  obtain ⟨first, middle, stepped, ran_steps, followed⟩ := parts_of_scenario ran
  cases stepped with
  | ok failed =>
      obtain ⟨last, report, -, -, same⟩ := followed
      cases same
  | error broken =>
      obtain ⟨rfl, rfl, same⟩ := followed
      cases same
      exact ran_steps

/-- Whatever the scenario, a run comes to no end only where looks follow one another without a delay. -/
theorem interval_of_unending {options : RunOptions} {scenario : Scenario}
    (ran : (Run.scenario options scenario).Runs host before journal after (.error .unending)) :
    options.pollInterval = 0 := by
  obtain ⟨step, member, reached, begun, last, executed, -⟩ := breaking_step (steps_of_broken ran)
  cases Executor.inWindow_of_execute executed with
  | unending still => exact still

end Run

namespace CommandLine

/-- How the runs of several scenarios go: the session of the first is refused, or its run breaks down, or
the others follow. -/
inductive RunsOn (host : Host σ) (settings : Settings) (overrides : Overrides) (scenario : Scenario)
    (rest : List Scenario) (before after : World σ) :
    List JournalEntry → Except Breakdown (List Report × Option Error) → Prop
  | refused {opening : List JournalEntry} {error : Error}
      (asked : (Program.openSession (WebDriver.sessionRequest settings)).Runs host before opening
        after (.error error)) :
      RunsOn host settings overrides scenario rest before after opening (.ok ([], some error))
  | broken {opened : World σ} {opening work : List JournalEntry} {breakdown : Breakdown}
      (asked : (Program.openSession (WebDriver.sessionRequest settings)).Runs host before opening
        opened (.ok ()))
      (ran : (Run.scenario (settings.runOptions scenario.baseUrl overrides) scenario).Runs host
        opened work after (.error breakdown)) :
      RunsOn host settings overrides scenario rest before after (opening ++ work)
        (.error breakdown)
  | followed {opened middle : World σ} {opening work later : List JournalEntry} {report : Report}
      {others gathered : Except Breakdown (List Report × Option Error)}
      (asked : (Program.openSession (WebDriver.sessionRequest settings)).Runs host before opening
        opened (.ok ()))
      (ran : (Run.scenario (settings.runOptions scenario.baseUrl overrides) scenario).Runs host
        opened work middle (.ok report))
      (continued : (runEach settings overrides rest).Runs host middle later after others)
      (joined : gathered = others.map fun told => (report :: told.1, told.2)) :
      RunsOn host settings overrides scenario rest before after (opening ++ (work ++ later))
        gathered

theorem runsOn_of_runEach {settings : Settings} {overrides : Overrides} {scenario : Scenario}
    {rest : List Scenario} {gathered : Except Breakdown (List Report × Option Error)}
    (ran : (runEach settings overrides (scenario :: rest)).Runs host before journal after gathered) :
    RunsOn host settings overrides scenario rest before after journal gathered := by
  obtain ⟨opening, opened, session, _, asked, continued, rfl⟩ := Attempt.runs_lift_bind_iff.mp ran
  cases session with
  | error error =>
      obtain ⟨rfl, rfl, rfl⟩ := Attempt.runs_pure_iff.mp continued
      rw [List.append_nil]
      exact .refused asked
  | ok value =>
      rcases Attempt.runs_bind_iff.mp continued with ⟨breakdown, here, rfl⟩ | ⟨work, middle, report,
        _, here, fromRest, rfl⟩
      · exact .broken asked here
      · rcases Attempt.runs_bind_iff.mp fromRest with ⟨breakdown, later, rfl⟩ | ⟨_, _, others, _,
          later, told, rfl⟩
        · exact .followed asked here later rfl
        · obtain ⟨rfl, rfl, rfl⟩ := Attempt.runs_pure_iff.mp told
          rw [List.append_nil]
          exact .followed asked here later rfl

/-- Runs of several scenarios break down with the run of one of them. -/
theorem breaking_scenario {settings : Settings} {overrides : Overrides} {scenarios : List Scenario}
    (ran : (runEach settings overrides scenarios).Runs host before journal after
      (.error breakdown)) :
    ∃ scenario ∈ scenarios, ∃ (begun : World σ) (last : List JournalEntry),
      (Run.scenario (settings.runOptions scenario.baseUrl overrides) scenario).Runs host begun last
        after (.error breakdown) := by
  induction scenarios generalizing before journal with
  | nil => cases (Attempt.runs_pure_iff.mp ran).1
  | cons scenario rest ih =>
      cases runsOn_of_runEach ran with
      | broken asked here => exact ⟨scenario, List.mem_cons_self, _, _, here⟩
      | followed asked here continued joined =>
          obtain rfl := error_of_map joined.symm
          obtain ⟨other, member, begun, last, there⟩ := ih continued
          exact ⟨other, List.mem_cons_of_mem scenario member, begun, last, there⟩

end CommandLine

end ScenarioRunner
