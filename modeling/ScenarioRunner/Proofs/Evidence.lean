import Mathlib.Data.List.Forall2
import ScenarioRunner.Proofs.Ending

/-!
What a scenario that passes has shown: each of its steps is backed by calls of its own.
-/

namespace ScenarioRunner

variable {σ : Type} {host : Host σ}

/-- The step with the stored chain in place of the name at the start of its target. -/
def Step.inlined (stored : StoredChains) (step : Step) : Step :=
  match step, step.target?.map stored.expand with
  | .locate _ storeAs timeout, some (.ok chain) => .locate chain storeAs timeout
  | .interact _ interactions timeout, some (.ok chain) => .interact chain interactions timeout
  | .assertPresent _ timeout, some (.ok chain) => .assertPresent chain timeout
  | .assertAbsent _ timeout, some (.ok chain) => .assertAbsent chain timeout
  | step, _ => step

/-- The steps with the chains that are stored by then in place of their names. -/
def StoredChains.inline (stored : StoredChains) : List Step → List Step
  | [] => []
  | step :: rest => step.inlined stored :: (stored.after step).inline rest

/-- The calls by which an interaction is done: in the end the chain leads to an element, and the
call to act on that element is granted. -/
inductive Interaction.Evidence (chain : Chain) (interaction : Interaction) :
    List CallRecord → Prop where
  | done {earlier searches : List CallRecord} {element : ElementId} {others : List ElementId}
      {record : CallRecord} (smooth : Smooth Error.isTransient earlier)
      (granted : ∀ record ∈ searches, record.Granted)
      (evaluated : chain.Evaluated 0 none searches (.found (element :: others)))
      (meant : interaction.call element = .ok record.call) (done : record.Granted) :
      Evidence chain interaction (earlier ++ (searches ++ [record]))

/-- The calls by which a step passes. -/
inductive Step.Evidence (options : RunOptions) : Step → List CallRecord → Prop where
  | navigated {url : String} {started finished : Nat} :
      Evidence options (.navigate url)
        [⟨started, finished, .navigate (joinUrl options.baseUrl url), .ok ()⟩]
  | found {step : Step} {chain : Chain} {earlier searches : List CallRecord}
      {elements : List ElementId} (sought : step.sought? = some chain)
      (finds : ∀ record ∈ earlier ++ searches, record.IsFind)
      (granted : ∀ record ∈ searches, record.Granted)
      (evaluated : chain.Evaluated 0 none searches (.found elements)) :
      Evidence options step (earlier ++ searches)
  | vanished {chain : Chain} {timeout : Option UInt64} {earlier searches : List CallRecord}
      {position : Nat} {link : Link} (finds : ∀ record ∈ earlier ++ searches, record.IsFind)
      (granted : ∀ record ∈ searches, record.Granted)
      (evaluated : chain.Evaluated 0 none searches (.missing position link)) :
      Evidence options (.assertAbsent chain timeout) (earlier ++ searches)
  | addressed {fragment url : String} {timeout : Option UInt64} {earlier : List CallRecord}
      {started finished : Nat} (reads : ∀ record ∈ earlier, record.call = .currentUrl)
      (contained : Text.contains url fragment = true) :
      Evidence options (.assertUrlContains fragment timeout)
        (earlier ++ [⟨started, finished, .currentUrl, .ok url⟩])
  | interacted {chain : Chain} {interactions : List Interaction} {timeout : Option UInt64}
      {segments : List (List CallRecord)}
      (each : List.Forall₂ (Interaction.Evidence chain) interactions segments) :
      Evidence options (.interact chain interactions timeout) segments.flatten

theorem Step.sought?_inlined {stored : StoredChains} {step : Step} {target chain : Chain}
    (seeks : step.sought? = some target) (expanded : stored.expand target = .ok chain) :
    (step.inlined stored).sought? = some chain := by
  cases step with
  | locate target' storeAs timeout =>
      cases seeks
      simp only [inlined, target?, Option.map_some, expanded, sought?]
  | assertPresent target' timeout =>
      cases seeks
      simp only [inlined, target?, Option.map_some, expanded, sought?]
  | _ => cases seeks

/-- Only searches are made while a step waits for a chain. -/
theorem isFind_of_looks {Noted : Event → Prop} {journal : List JournalEntry}
    (looks : ∀ entry ∈ journal, entry.Looks Noted ∨ entry.IsPause) :
    ∀ record ∈ calls journal, record.IsFind := by
  refine forall_calls looks ?_
  intro started finished asked outcome look
  cases asked with
  | find locator scope => exact ⟨locator, scope, rfl⟩
  | _ => exact look.elim False.elim False.elim

theorem call_of_waitsForUrl {journal : List JournalEntry}
    (waits : ∀ entry ∈ journal, entry.WaitsForUrl) :
    ∀ record ∈ calls journal, record.call = .currentUrl := by
  refine forall_calls waits ?_
  intro started finished asked outcome waited
  cases asked with
  | currentUrl => rfl
  | _ => exact waited.elim

/-- The calls of a window that ends with a settled look. -/
theorem ChainWindow.evidence {α : Type} {judge : Except Error Lookup → Look α}
    {timeout opened ended : Nat} {chain : Chain} {journal : List JournalEntry} {value : α}
    (window : ChainWindow judge timeout opened ended chain journal (.ok value)) :
    ∃ earlier searches lookup, calls journal = earlier ++ searches ∧
      (∀ record ∈ earlier ++ searches, record.IsFind) ∧ (∀ record ∈ searches, record.Granted) ∧
      chain.Evaluated 0 none searches lookup ∧ judge (.ok lookup) = .settled value := by
  cases window with
  | @closed earlier looks start _ waits timed looked =>
      obtain ⟨looking, told⟩ := looked
      cases told with
      | @settled lookup _ granted evaluated settles =>
          have before : ∀ entry ∈ earlier, entry.Looks chain.Noted ∨ entry.IsPause :=
            fun entry member => (waits entry member).idle
          have last : ∀ entry ∈ looks, entry.Looks chain.Noted ∨ entry.IsPause :=
            fun entry member => .inl (looking entry member)
          have finds := isFind_of_looks (List.forall_mem_append.mpr ⟨before, last⟩)
          rw [calls_append] at finds ⊢
          exact ⟨_, _, lookup, rfl, finds, granted, evaluated, settles⟩

theorem InteractionWindow.evidence {timeout : Nat} {chain : Chain}
    {interaction : Interaction} {journal : List JournalEntry}
    (window : InteractionWindow timeout chain interaction journal (.ok ())) :
    interaction.Evidence chain (calls journal) := by
  cases window with
  | @closed opened start ended earlier last _ works timed tried =>
      cases tried with
      | @done _ looks acted element others looked done =>
          cases done with
          | granted acts called meant done =>
              cases looked.told with
              | settled granted evaluated settles =>
                  obtain rfl := Look.eq_found_of_presence settles
                  rw [calls_event, calls_append, calls_append, called]
                  exact .done (smooth_of_works works) granted evaluated meant done

theorem InteractionWindows.evidence {timeout : Nat} {chain : Chain}
    {interactions : List Interaction} {journal : List JournalEntry}
    (windows : InteractionWindows timeout chain interactions journal (.ok ())) :
    ∃ segments, calls journal = segments.flatten ∧
      List.Forall₂ (Interaction.Evidence chain) interactions segments := by
  generalize outcome_eq : (.ok () : Except (Stop Fault) Unit) = outcome at windows
  induction windows with
  | nil => exact ⟨[], rfl, .nil⟩
  | passed window continued ih =>
      obtain ⟨segments, recorded, each⟩ := ih outcome_eq
      exact ⟨_ :: segments, by rw [calls_append, recorded, List.flatten_cons],
        .cons window.evidence each⟩
  | stopped window => cases outcome_eq

/-- A step that passes is backed by its calls. -/
theorem Performed.evidence {options : RunOptions} {stored : StoredChains} {opened : Nat}
    {step : Step} {journal : List JournalEntry}
    (performed : Performed options stored opened step journal (.ok ())) :
    (step.inlined stored).Evidence options (calls journal) := by
  cases performed with
  | navigated => exact .navigated
  | @sought _ target chain ended _ result _ seeks expanded window same =>
      cases result with
      | error stop => cases same
      | ok elements =>
          obtain ⟨earlier, searches, lookup, recorded, finds, granted, evaluated, settles⟩ :=
            window.evidence
          obtain rfl := Look.eq_found_of_presence settles
          rw [recorded]
          exact .found (Step.sought?_inlined seeks expanded) finds granted evaluated
  | @absent target chain timeout ended _ _ expanded window =>
      obtain ⟨earlier, searches, lookup, recorded, finds, granted, evaluated, settles⟩ :=
        window.evidence
      obtain ⟨position, link, rfl⟩ := Look.eq_missing_of_absence settles
      rw [recorded]
      simp only [Step.inlined, Step.target?, Option.map_some, expanded]
      exact .vanished finds granted evaluated
  | @interacted target chain interactions timeout _ _ expanded windows =>
      obtain ⟨segments, recorded, each⟩ := windows.evidence
      rw [recorded]
      simp only [Step.inlined, Step.target?, Option.map_some, expanded]
      exact .interacted each
  | @addressed fragment timeout ended _ _ window =>
      cases window with
      | closed waits read =>
          cases read with
          | reached contained =>
              rw [calls_append, calls_call, calls_nil]
              exact .addressed (call_of_waitsForUrl waits) contained

/-- Steps that all pass are backed one after the other, each with the chains stored by then. -/
theorem StepsRun.evidence {options : RunOptions} {executor : Executor} {list : List Step}
    {journal : List JournalEntry} (ran : StepsRun host options executor list journal (.ok none)) :
    ∃ segments, calls journal = segments.flatten ∧
      List.Forall₂ (Step.Evidence options) (executor.stored.inline list) segments := by
  generalize passed : (.ok none : Except Breakdown (Option FailedStep)) = ended at ran
  induction ran with
  | done => exact ⟨[], rfl, .nil⟩
  | @passed executor next step rest before after first journal ended executed continued ih =>
      obtain ⟨entries, result, rfl, performed, concluded⟩ := Executor.performed_of_execute executed
      rcases result with (fault | breakdown) | value
      · cases concluded
      · cases concluded
      · cases concluded
        obtain ⟨segments, recorded, each⟩ := ih passed
        refine ⟨calls entries :: segments, ?_, .cons performed.evidence each⟩
        rw [calls_append, calls_event, recorded, List.flatten_cons]
  | failed executed => cases passed
  | broken executed => cases passed

/-- A scenario that passes is backed by evidence: the calls before the end of the session are those
of its steps in order, and every step has the calls by which it passes. -/
theorem Run.backed_of_passed {options : RunOptions} {scenario : Scenario} {before after : World σ}
    {journal : List JournalEntry} {report : Report}
    (ran : (Run.scenario options scenario).Runs host before journal after (.ok report))
    (passed : report.verdict = .passed) :
    ∃ segments started finished outcome,
      calls journal = segments.flatten ++ [⟨started, finished, .close, outcome⟩] ∧
      List.Forall₂ (Step.Evidence options) (StoredChains.inline [] scenario.steps) segments := by
  obtain ⟨middle, entries, failed, parting, started, finished, outcome, stepped, rfl, -, alone,
    tells⟩ := Run.runs_scenario ran
  rw [passed] at tells
  cases failed with
  | some stopped =>
      obtain ⟨screenshot, impossible⟩ := tells
      cases impossible
  | none =>
      obtain ⟨segments, flattened, each⟩ := (Run.stepsRun_of_steps stepped).evidence
      refine ⟨segments, started, finished, outcome, ?_, each⟩
      rw [alone rfl, List.nil_append, calls_append, flattened, calls_call, calls_nil]

/-- The tour passes on a page where everything is found, with evidence for each of its steps. -/
theorem Run.backed_of_passed_tour :
    ∃ journal after report,
      (Run.scenario RunOptions.plain Scenario.tour).Runs Host.agreeable (World.start () []) journal
        after (.ok report) ∧
      report.verdict = .passed ∧
      ∃ segments started finished outcome,
        calls journal = segments.flatten ++ [⟨started, finished, .close, outcome⟩] ∧
        List.Forall₂ (Step.Evidence RunOptions.plain)
          (StoredChains.inline [] Scenario.tour.steps) segments := by
  have ran : ∃ report, report.verdict = .passed ∧
      (Program.run Host.agreeable (Run.scenario RunOptions.plain Scenario.tour).run
        (World.start () [])).1 = .ok report := ⟨_, rfl, rfl⟩
  obtain ⟨report, passed, ended⟩ := ran
  have tour := Attempt.runs_of_outcome ended
  exact ⟨_, _, report, tour, passed, Run.backed_of_passed tour passed⟩

end ScenarioRunner
