import ScenarioRunner.Proofs.Grounding
import ScenarioRunner.Proofs.Likeness

/-!
Steps and the plain steps that they come to once their chains are written out. Scenarios with the
same plain steps run alike.
-/

namespace ScenarioRunner

variable {σ : Type} {host : Host σ}

/-- A step and the plain step that does the same on a chain that is written out. The plain step
stores nothing. -/
inductive StoredChains.SpellsStep (stored : StoredChains) : Step → Step → Prop where
  | navigate {url : String} : SpellsStep stored (.navigate url) (.navigate url)
  | locate {target chain : Chain} {storeAs : Option String} {timeout : Option UInt64}
      (expanded : stored.expand target = .ok chain) (grounded : chain.Grounded) :
      SpellsStep stored (.locate target storeAs timeout) (.locate chain none timeout)
  | interact {target chain : Chain} {interactions : List Interaction} {timeout : Option UInt64}
      (expanded : stored.expand target = .ok chain) (grounded : chain.Grounded) :
      SpellsStep stored (.interact target interactions timeout)
        (.interact chain interactions timeout)
  | assertPresent {target chain : Chain} {timeout : Option UInt64}
      (expanded : stored.expand target = .ok chain) (grounded : chain.Grounded) :
      SpellsStep stored (.assertPresent target timeout) (.assertPresent chain timeout)
  | assertAbsent {target chain : Chain} {timeout : Option UInt64}
      (expanded : stored.expand target = .ok chain) (grounded : chain.Grounded) :
      SpellsStep stored (.assertAbsent target timeout) (.assertAbsent chain timeout)
  | assertUrlContains {fragment : String} {timeout : Option UInt64} :
      SpellsStep stored (.assertUrlContains fragment timeout) (.assertUrlContains fragment timeout)

/-- Plain steps in place of steps that go on from stored chains. -/
inductive StoredChains.Spells : StoredChains → List Step → List Step → Prop where
  | nil {stored : StoredChains} : Spells stored [] []
  | cons {stored : StoredChains} {step plain : Step} {rest plains : List Step}
      (spells : stored.SpellsStep step plain)
      (continued : Spells (stored.after step) rest plains) :
      Spells stored (step :: rest) (plain :: plains)

/-- A grounded chain is its own expansion. -/
theorem Chain.Grounded.expand {chain : Chain} (grounded : chain.Grounded) (stored : StoredChains) :
    stored.expand chain = .ok chain := by
  obtain ⟨link, rest, rfl, opens⟩ := grounded.opened
  cases link with
  | stored name => cases opens
  | _ => rfl

/-- A target is expanded to the chain under its name and its own links, or is left as it is. -/
theorem StoredChains.eq_of_expand_ok {stored : StoredChains} {target chain : Chain}
    (expanded : stored.expand target = .ok chain) :
    (∃ name rest known, target = .stored name :: rest ∧ stored.lookup name = some known ∧
      chain = known ++ rest) ∨
      target = chain ∧ ∀ name rest, target ≠ .stored name :: rest := by
  unfold expand at expanded
  split at expanded
  next name rest =>
    split at expanded
    next known found =>
      cases expanded
      exact .inl ⟨name, rest, known, rfl, found, rfl⟩
    next absent => cases expanded
  next unnamed =>
    cases expanded
    exact .inr ⟨rfl, unnamed⟩

/-- A step that passes stores the chain that its target was expanded to. -/
theorem StoredChains.after_locate {stored : StoredChains} {target chain : Chain} {name : String}
    (timeout : Option UInt64) (expanded : stored.expand target = .ok chain) :
    stored.after (.locate target (some name) timeout) = (name, chain) :: stored := by
  simp only [after, expanded]

namespace Attempt

/-- What comes next goes on with a result that is at hand. -/
theorem lift_ok_bind {ε α β : Type} (value : α) (next : α → Attempt (Stop ε) β) :
    (liftM (Except.ok value : Except ε α) : Attempt ε α).failing >>= next = next value := rfl

/-- What is done by a step is what is done by its plain step. -/
theorem perform_eq_of_spells {stored : StoredChains} {step plain : Step} (options : RunOptions)
    (spells : stored.SpellsStep step plain) :
    perform options stored step = (fun _ => stored.after step) <$> perform options [] plain := by
  cases spells with
  | @navigate url =>
      let asked : Attempt Fault Unit := request (.navigate (joinUrl options.baseUrl url))
      have moved := map_bind (fun _ : StoredChains => stored) asked.failing fun _ => pure []
      exact moved.symm
  | @locate target chain storeAs timeout expanded grounded =>
      simp only [perform, expanded, grounded.expand [], lift_ok_bind, Step.timeout?, map_bind]
      cases storeAs with
      | none => rfl
      | some name => simp only [map_pure, StoredChains.after_locate timeout expanded]
  | interact expanded grounded =>
      simp only [perform, expanded, grounded.expand [], lift_ok_bind, Step.timeout?, map_bind,
        map_pure, StoredChains.after]
  | assertPresent expanded grounded =>
      simp only [perform, expanded, grounded.expand [], lift_ok_bind, Step.timeout?, map_bind,
        map_pure, StoredChains.after]
  | assertAbsent expanded grounded =>
      simp only [perform, expanded, grounded.expand [], lift_ok_bind, Step.timeout?, map_bind,
        map_pure, StoredChains.after]
  | assertUrlContains => simp only [perform, map_bind, map_pure, StoredChains.after]

/-- Two steps with the same plain step go the same way, and store what is theirs when they pass. -/
theorem perform_alike {options : RunOptions} {stored stored' : StoredChains}
    {step step' plain : Step} {before before' after after' : World σ}
    {journal journal' : List JournalEntry} {outcome outcome' : Except (Stop Fault) StoredChains}
    (spells : stored.SpellsStep step plain) (spells' : stored'.SpellsStep step' plain)
    (alike : before.Alike before')
    (ran : Runs host (perform options stored step) before journal after outcome)
    (again : Runs host (perform options stored' step') before' journal' after' outcome') :
    (∃ result : Except (Stop Fault) StoredChains, outcome = result.map (fun _ => stored.after step) ∧
      outcome' = result.map (fun _ => stored'.after step')) ∧
      journal = journal' ∧ after.Alike after' := by
  rw [perform_eq_of_spells options spells] at ran
  rw [perform_eq_of_spells options spells'] at again
  obtain ⟨result, ran_plain, told⟩ := runs_map_iff.mp ran
  obtain ⟨result', again_plain, told'⟩ := runs_map_iff.mp again
  obtain ⟨rfl, same, still⟩ := ran_plain.alike alike again_plain
  exact ⟨⟨result, told, told'⟩, same, still⟩

end Attempt

/-- A step and its plain step report their faults in the same way. -/
theorem StoredChains.SpellsStep.failure_eq {stored : StoredChains} {step plain : Step}
    (spells : stored.SpellsStep step plain) (number : Nat) (fault : Fault) :
    fault.failure number step = fault.failure number plain := by
  cases spells <;> cases fault <;> rfl

/-- Steps with the same plain steps go the same way. -/
theorem StoredChains.Spells.steps_alike {options : RunOptions} {stored stored' : StoredChains}
    {list list' plains : List Step} {number : Nat} {before before' after after' : World σ}
    {journal journal' : List JournalEntry} {ended ended' : Except Breakdown (Option FailedStep)}
    (spells : stored.Spells list plains) (spells' : stored'.Spells list' plains)
    (alike : before.Alike before')
    (ran : (Run.steps options ⟨stored, number⟩ list).Runs host before journal after ended)
    (again : (Run.steps options ⟨stored', number⟩ list').Runs host before' journal' after'
      ended') :
    calls journal = calls journal' ∧
      ended.map (Option.map FailedStep.told) = ended'.map (Option.map FailedStep.told) ∧
      after.Alike after' := by
  induction spells generalizing stored' list' number before before' journal journal' with
  | nil =>
      cases spells'
      obtain ⟨rfl, rfl, rfl⟩ := Attempt.runs_pure_iff.mp ran
      obtain ⟨rfl, rfl, rfl⟩ := Attempt.runs_pure_iff.mp again
      exact ⟨rfl, rfl, alike⟩
  | @cons stored step plain rest plains spells continued ih =>
      cases spells' with
      | @cons _ step' _ rest' _ spells' continued' =>
      obtain ⟨opened, first, middle, outcome, opens, attempted, -, went⟩ :=
        Run.runs_steps_cons ran
      obtain ⟨opened', first', middle', outcome', opens', attempted', -, went'⟩ :=
        Run.runs_steps_cons again
      have opened_alike : opened.Alike opened' := (opens.symm.trans alike).trans opens'
      obtain ⟨⟨result, rfl, rfl⟩, rfl, still⟩ :=
        Attempt.perform_alike spells spells' opened_alike attempted attempted'
      rcases result with (fault | breakdown) | value
      · obtain ⟨stops, recorded, rfl⟩ := went
        obtain ⟨stops', recorded', rfl⟩ := went'
        refine ⟨recorded.trans recorded'.symm, ?_, (stops.symm.trans still).trans stops'⟩
        simp only [Except.map, Option.map_some, FailedStep.told, spells.failure_eq,
          spells'.failure_eq]
      · obtain ⟨stops, recorded, rfl⟩ := went
        obtain ⟨stops', recorded', rfl⟩ := went'
        exact ⟨recorded.trans recorded'.symm, rfl, (stops.symm.trans still).trans stops'⟩
      · obtain ⟨resumed, later, resumes, continuing, recorded⟩ := went
        obtain ⟨resumed', later', resumes', continuing', recorded'⟩ := went'
        have resumed_alike : resumed.Alike resumed' := (resumes.symm.trans still).trans resumes'
        obtain ⟨same, told, ends⟩ := ih continued' resumed_alike continuing continuing'
        exact ⟨by rw [recorded, recorded', same], told, ends⟩

theorem StoredChains.Spells.take {stored : StoredChains} {list plains : List Step}
    (spells : stored.Spells list plains) (count : Nat) :
    stored.Spells (list.take count) (plains.take count) := by
  induction spells generalizing count with
  | nil =>
      rw [List.take_nil]
      exact .nil
  | cons spells _ ih =>
      cases count with
      | zero => exact .nil
      | succ count => exact .cons spells (ih count)

/-- Two scenarios that run alike from a world on: with the same calls and results after any number
of steps, and to the same end, which is the same breakdown where there is no report. -/
structure Scenario.RunsLike (host : Host σ) (options : RunOptions) (before : World σ)
    (scenario other : Scenario) : Prop where
  steps : ∀ count, Run.seen host options (scenario.steps.take count) before =
    Run.seen host options (other.steps.take count) before
  calls : calls ((Run.scenario options scenario).run.log host before) =
    calls ((Run.scenario options other).run.log host before)
  duration : ((Run.scenario options scenario).run.run host before).1.map Report.duration =
    ((Run.scenario options other).run.run host before).1.map Report.duration
  failedStep : ((Run.scenario options scenario).run.run host before).1.map Report.failedStep? =
    ((Run.scenario options other).run.run host before).1.map Report.failedStep?

theorem Run.seen_eq_of_spells {list list' plains : List Step}
    (spells : StoredChains.Spells [] list plains) (spells' : StoredChains.Spells [] list' plains)
    (host : Host σ) (options : RunOptions) (before : World σ) :
    Run.seen host options list before = Run.seen host options list' before := by
  have ran := Program.runs_run host (Run.steps options .start list).run before
  have again := Program.runs_run host (Run.steps options .start list').run before
  obtain ⟨same, told, -⟩ := spells.steps_alike spells' (.refl before) ran again
  exact Prod.ext same told

/-- Scenarios with the same plain steps run alike. -/
theorem Scenario.runsLike_of_spells (host : Host σ) (options : RunOptions) (before : World σ)
    {scenario other : Scenario} {plains : List Step}
    (spells : StoredChains.Spells [] scenario.steps plains)
    (spells' : StoredChains.Spells [] other.steps plains) (names : scenario.name = other.name) :
    scenario.RunsLike host options before other := by
  have seen (count : Nat) := Run.seen_eq_of_spells (spells.take count) (spells'.take count) host
    options before
  have ran := Program.runs_run host (Run.scenario options scenario).run before
  have again := Program.runs_run host (Run.scenario options other).run before
  obtain ⟨first, middle, stepped, ran_steps, followed⟩ := Run.parts_of_scenario ran
  obtain ⟨first', middle', stepped', ran_steps', followed'⟩ := Run.parts_of_scenario again
  have opens := (Run.alike_opening host options scenario before).symm.trans
    (Run.alike_opening host options other before)
  obtain ⟨same, told, still⟩ := spells.steps_alike spells' opens ran_steps ran_steps'
  rcases stepped with breakdown | failed
  · rcases stepped' with breakdown' | failed'
    · cases told
      obtain ⟨-, recorded, broken⟩ := followed
      obtain ⟨-, recorded', broken'⟩ := followed'
      refine ⟨seen, ?_, ?_, ?_⟩
      · rw [recorded, recorded', same]
      · rw [broken, broken']
      · rw [broken, broken']
    · cases told
  · rcases stepped' with breakdown' | failed'
    · cases told
    · obtain ⟨last, report, ended, recorded, reported⟩ := followed
      obtain ⟨last', report', ended', recorded', reported'⟩ := followed'
      have numbers : failed.map FailedStep.number = failed'.map FailedStep.number := by
        have first_told := congrArg (Option.map Prod.fst) (Except.ok.inj told)
        rwa [Option.map_map, Option.map_map] at first_told
      obtain ⟨rfl, lasted, tells, tells'⟩ := Run.ending_alike rfl names numbers still ended ended'
      refine ⟨seen, ?_, ?_, ?_⟩
      · rw [recorded, recorded', calls_append, calls_append, same]
      · rw [reported, reported']
        exact congrArg Except.ok lasted
      · rw [reported, reported']
        exact congrArg Except.ok (by rw [tells.failedStep, tells'.failedStep, numbers])

/-- The step on another target and with another name. -/
def Step.reworded (chain : Chain → Chain) (name : String → Option String) : Step → Step
  | .navigate url => .navigate url
  | .locate target storeAs timeout => .locate (chain target) (storeAs.bind name) timeout
  | .interact target interactions timeout => .interact (chain target) interactions timeout
  | .assertPresent target timeout => .assertPresent (chain target) timeout
  | .assertAbsent target timeout => .assertAbsent (chain target) timeout
  | .assertUrlContains fragment timeout => .assertUrlContains fragment timeout

theorem Step.reworded_id (step : Step) : step.reworded id some = step := by
  cases step <;> simp [reworded]

/-- A step can be reworded when its target still expands to the same chain. -/
theorem StoredChains.SpellsStep.reword {stored stored' : StoredChains} {step plain : Step}
    (spells : stored.SpellsStep step plain) (chain : Chain → Chain)
    (name : String → Option String)
    (keeps : ∀ target expansion, step.target? = some target →
      stored.expand target = .ok expansion → expansion.Grounded →
      stored'.expand (chain target) = .ok expansion) :
    stored'.SpellsStep (step.reworded chain name) plain := by
  cases spells with
  | navigate => exact .navigate
  | locate expanded grounded => exact .locate (keeps _ _ rfl expanded grounded) grounded
  | interact expanded grounded => exact .interact (keeps _ _ rfl expanded grounded) grounded
  | assertPresent expanded grounded =>
      exact .assertPresent (keeps _ _ rfl expanded grounded) grounded
  | assertAbsent expanded grounded =>
      exact .assertAbsent (keeps _ _ rfl expanded grounded) grounded
  | assertUrlContains => exact .assertUrlContains

/-- A checked step has a plain step. -/
theorem StoredChains.spellsStep_of_check {stored : StoredChains} {known : List String}
    {step : Step} (remembers : stored.Remembers known) (checked : step.check known = .ok ()) :
    ∃ plain, stored.SpellsStep step plain := by
  cases step with
  | navigate url => exact ⟨_, .navigate⟩
  | assertUrlContains fragment timeout => exact ⟨_, .assertUrlContains⟩
  | locate target storeAs timeout =>
      obtain ⟨chain, expanded, grounded⟩ :=
        StoredChains.expand_of_check remembers (Step.check_target checked rfl)
      exact ⟨_, .locate expanded grounded⟩
  | interact target interactions timeout =>
      obtain ⟨chain, expanded, grounded⟩ :=
        StoredChains.expand_of_check remembers (Step.check_target checked rfl)
      exact ⟨_, .interact expanded grounded⟩
  | assertPresent target timeout =>
      obtain ⟨chain, expanded, grounded⟩ :=
        StoredChains.expand_of_check remembers (Step.check_target checked rfl)
      exact ⟨_, .assertPresent expanded grounded⟩
  | assertAbsent target timeout =>
      obtain ⟨chain, expanded, grounded⟩ :=
        StoredChains.expand_of_check remembers (Step.check_target checked rfl)
      exact ⟨_, .assertAbsent expanded grounded⟩

/-- Checked steps have plain steps. -/
theorem StoredChains.spells_of_check {stored : StoredChains} {known : List String} {number : Nat}
    {list : List Step} (remembers : stored.Remembers known)
    (checked : checkSteps number known list = .ok ()) : ∃ plains, stored.Spells list plains := by
  induction list generalizing stored known number with
  | nil => exact ⟨[], .nil⟩
  | cons step rest ih =>
      obtain ⟨step_checked, rest_checked⟩ := checkSteps_cons checked
      obtain ⟨plain, spells⟩ := StoredChains.spellsStep_of_check remembers step_checked
      obtain ⟨plains, continued⟩ := ih (remembers.after step_checked) rest_checked
      exact ⟨plain :: plains, .cons spells continued⟩

end ScenarioRunner
