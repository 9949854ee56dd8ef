import ScenarioRunner.Proofs.Acting
import ScenarioRunner.Proofs.Alike
import ScenarioRunner.Run.Scenario

/-!
How a step goes, and how a scenario goes step by step up to its first failure.
-/

namespace ScenarioRunner

variable {σ : Type} {host : Host σ}

/-- The stored chains after a step that passes. -/
def StoredChains.after (stored : StoredChains) : Step → StoredChains
  | .locate target (some name) _ =>
    match stored.expand target with
    | .ok chain => (name, chain) :: stored
    | .error _ => stored
  | _ => stored

/-- Only a name that nothing is stored under keeps a chain from being expanded. -/
theorem StoredChains.eq_of_expand_error {stored : StoredChains} {target : Chain} {fault : Fault}
    (unknown : stored.expand target = .error fault) :
    ∃ name rest, target = .stored name :: rest ∧ stored.lookup name = none ∧
      fault = .neverLocated name := by
  unfold expand at unknown
  split at unknown
  next name rest =>
    split at unknown
    next chain found => cases unknown
    next absent =>
      cases unknown
      exact ⟨name, rest, rfl, absent, rfl⟩
  next => cases unknown

/-- The chain that a step waits for on the page. -/
def Step.sought? : Step → Option Chain
  | .locate target _ _ => some target
  | .assertPresent target _ => some target
  | _ => none

theorem Step.target?_of_sought? {step : Step} {target : Chain}
    (seeks : step.sought? = some target) : step.target? = some target := by
  cases step with
  | locate target storeAs timeout => exact seeks
  | assertPresent target timeout => exact seeks
  | _ => cases seeks

/-- The window of a step in milliseconds. -/
def Step.window (options : RunOptions) (step : Step) : Nat := options.window step.timeout?

/-- The windows of several interactions, up to the first that fails. -/
inductive InteractionWindows (timeout : Nat) (chain : Chain) :
    List Interaction → List JournalEntry → Except (Stop Fault) Unit → Prop where
  | nil : InteractionWindows timeout chain [] [] (.ok ())
  | passed {interaction : Interaction} {rest : List Interaction}
      {first journal : List JournalEntry} {outcome : Except (Stop Fault) Unit}
      (window : InteractionWindow timeout chain interaction first (.ok ()))
      (continued : InteractionWindows timeout chain rest journal outcome) :
      InteractionWindows timeout chain (interaction :: rest) (first ++ journal) outcome
  | stopped {interaction : Interaction} {rest : List Interaction} {journal : List JournalEntry}
      {stop : Stop Fault}
      (window : InteractionWindow timeout chain interaction journal (.error stop)) :
      InteractionWindows timeout chain (interaction :: rest) journal (.error stop)

/-- What a step does from its opening on, and what comes of it. -/
inductive Performed (options : RunOptions) (stored : StoredChains) (opened : Nat) :
    Step → List JournalEntry → Except (Stop Fault) Unit → Prop where
  | navigated {url : String} {started finished : Nat} :
      Performed options stored opened (.navigate url)
        [.call started finished (.navigate (joinUrl options.baseUrl url)) (.ok ())] (.ok ())
  | refused {url : String} {started finished : Nat} {error : Error} :
      Performed options stored opened (.navigate url)
        [.call started finished (.navigate (joinUrl options.baseUrl url)) (.error error)]
        (.error (.failed (.refused error)))
  | unknown {step : Step} {target : Chain} {fault : Fault} (targeted : step.target? = some target)
      (unknown : stored.expand target = .error fault) :
      Performed options stored opened step [] (.error (.failed fault))
  | sought {step : Step} {target chain : Chain} {ended : Nat} {journal : List JournalEntry}
      {result : Except (Stop Fault) (List ElementId)} {outcome : Except (Stop Fault) Unit}
      (seeks : step.sought? = some target) (expanded : stored.expand target = .ok chain)
      (window : ChainWindow (Look.presence (step.window options) chain) (step.window options) opened
        ended chain journal result)
      (same : outcome = result.map fun _ => ()) :
      Performed options stored opened step journal outcome
  | absent {target chain : Chain} {timeout : Option UInt64} {ended : Nat}
      {journal : List JournalEntry} {outcome : Except (Stop Fault) Unit}
      (expanded : stored.expand target = .ok chain)
      (window : ChainWindow (Look.absence (options.window timeout) chain) (options.window timeout)
        opened ended chain journal outcome) :
      Performed options stored opened (.assertAbsent target timeout) journal outcome
  | interacted {target chain : Chain} {interactions : List Interaction} {timeout : Option UInt64}
      {journal : List JournalEntry} {outcome : Except (Stop Fault) Unit}
      (expanded : stored.expand target = .ok chain)
      (windows : InteractionWindows (options.window timeout) chain
        interactions journal outcome) :
      Performed options stored opened (.interact target interactions timeout) journal outcome
  | addressed {fragment : String} {timeout : Option UInt64} {ended : Nat}
      {journal : List JournalEntry} {outcome : Except (Stop Fault) Unit}
      (window : UrlWindow (options.window timeout) opened ended fragment journal outcome) :
      Performed options stored opened (.assertUrlContains fragment timeout) journal outcome

namespace Attempt

/-- A chain is expanded before anything else happens. -/
theorem runs_expand_bind {α : Type} {stored : StoredChains} {target : Chain}
    {next : Chain → Attempt (Stop Fault) α} {before after : World σ} {journal : List JournalEntry}
    {outcome : Except (Stop Fault) α}
    (ran : Runs host ((liftM (stored.expand target) : Attempt Fault Chain).failing >>= next) before
      journal after outcome) :
    (∃ fault, stored.expand target = .error fault ∧ journal = [] ∧
      outcome = .error (.failed fault)) ∨
      ∃ chain, stored.expand target = .ok chain ∧
        Runs host (next chain) before journal after outcome := by
  rcases runs_bind_iff.mp ran with ⟨stop, expanded, rfl⟩ | ⟨_, _, chain, _, expanded, rest, rfl⟩
  · obtain ⟨result, expands, same⟩ := runs_failing_iff.mp expanded
    obtain ⟨rfl, rfl, rfl⟩ := runs_result_iff.mp expands
    cases result : stored.expand target with
    | ok chain => simp [result, Except.mapError] at same
    | error fault =>
        rw [result] at same
        cases same
        exact .inl ⟨fault, rfl, rfl, rfl⟩
  · obtain ⟨result, expands, same⟩ := runs_failing_iff.mp expanded
    obtain ⟨rfl, rfl, rfl⟩ := runs_result_iff.mp expands
    cases result : stored.expand target with
    | ok chain =>
        rw [result] at same
        cases same
        exact .inr ⟨chain, rfl, rest⟩
    | error fault => simp [result, Except.mapError] at same

/-- What comes after an attempt is a value of it. -/
theorem runs_bind_pure {ε α β : Type} {attempt : Attempt ε α} {value : β} {before after : World σ}
    {journal : List JournalEntry} {outcome : Except ε β}
    (ran : Runs host (attempt >>= fun _ => pure value) before journal after outcome) :
    ∃ result, Runs host attempt before journal after result ∧
      outcome = result.map fun _ => value := by
  rcases runs_bind_iff.mp ran with ⟨fault, started, rfl⟩ | ⟨_, _, result, _, started, rest, rfl⟩
  · exact ⟨_, started, rfl⟩
  · obtain ⟨rfl, rfl, rfl⟩ := runs_pure_iff.mp rest
    rw [List.append_nil]
    exact ⟨_, started, rfl⟩

theorem interactionWindows_of_forM {options : RunOptions} {timeout : Nat} {chain : Chain}
    {interactions : List Interaction} {before after : World σ} {journal : List JournalEntry}
    {outcome : Except (Stop Fault) Unit}
    (ran : Runs host (interactions.forM (interact options timeout chain)) before journal after
      outcome) :
    InteractionWindows timeout chain interactions journal outcome := by
  induction interactions generalizing before journal with
  | nil =>
      obtain ⟨rfl, rfl, rfl⟩ := runs_pure_iff.mp ran
      exact .nil
  | cons interaction rest ih =>
      rcases runs_bind_iff.mp ran with ⟨stop, first, rfl⟩ | ⟨_, _, value, _, first, continued, rfl⟩
      · exact .stopped (interactionWindow_of_interact first)
      · exact .passed (interactionWindow_of_interact first) (ih continued)

/-- A step is performed as its kind demands; a step that passes stores what it is to store. -/
theorem performed_of_perform {options : RunOptions} {stored : StoredChains} {step : Step}
    {before after : World σ} {journal : List JournalEntry} {outcome : Except (Stop Fault) StoredChains}
    (ran : Runs host (perform options stored step) before journal after outcome) :
    ∃ result, Performed options stored before.now step journal result ∧
      outcome = result.map fun _ => stored.after step := by
  cases step with
  | navigate url =>
      obtain ⟨result, called, rfl⟩ := runs_bind_pure ran
      obtain ⟨_, requested, rfl⟩ := runs_failing_iff.mp called
      obtain ⟨answer, asked, rfl⟩ := runs_request requested
      obtain ⟨rfl, -, -, -⟩ := Program.runs_call asked
      cases answer with
      | ok value => exact ⟨_, .navigated, rfl⟩
      | error error => exact ⟨_, .refused, rfl⟩
  | locate target storeAs timeout =>
      rcases runs_expand_bind ran with ⟨fault, unknown, rfl, rfl⟩ | ⟨chain, expanded, sought⟩
      · exact ⟨.error (.failed fault), .unknown rfl unknown, rfl⟩
      · rcases runs_bind_iff.mp sought with ⟨stop, resolved, rfl⟩ | ⟨_, middle, elements, _,
          resolved, rest, rfl⟩
        · exact ⟨.error stop, .sought rfl expanded (chainWindow_of_resolve resolved) rfl, rfl⟩
        · obtain ⟨_, _, _, _, printed, kept, rfl⟩ := runs_lift_bind_iff.mp rest
          obtain ⟨rfl, -, -⟩ := Program.runs_printIf printed
          have performed : Performed options stored before.now (.locate target storeAs timeout) _
              (.ok ()) := .sought rfl expanded (chainWindow_of_resolve resolved) rfl
          cases storeAs with
          | none =>
              obtain ⟨rfl, rfl, rfl⟩ := runs_pure_iff.mp kept
              simp only [List.append_nil]
              exact ⟨.ok (), performed, rfl⟩
          | some name =>
              obtain ⟨rfl, rfl, rfl⟩ := runs_pure_iff.mp kept
              simp only [List.append_nil]
              exact ⟨.ok (), performed, by simp only [StoredChains.after, expanded, Except.map]⟩
  | interact target interactions timeout =>
      rcases runs_expand_bind ran with ⟨fault, unknown, rfl, rfl⟩ | ⟨chain, expanded, windows⟩
      · exact ⟨.error (.failed fault), .unknown rfl unknown, rfl⟩
      · obtain ⟨result, interacted, rfl⟩ := runs_bind_pure windows
        exact ⟨result, .interacted expanded (interactionWindows_of_forM interacted), rfl⟩
  | assertPresent target timeout =>
      rcases runs_expand_bind ran with ⟨fault, unknown, rfl, rfl⟩ | ⟨chain, expanded, sought⟩
      · exact ⟨.error (.failed fault), .unknown rfl unknown, rfl⟩
      · obtain ⟨result, resolved, rfl⟩ := runs_bind_pure sought
        refine ⟨_, .sought rfl expanded (chainWindow_of_resolve resolved) rfl, ?_⟩
        cases result <;> rfl
  | assertAbsent target timeout =>
      rcases runs_expand_bind ran with ⟨fault, unknown, rfl, rfl⟩ | ⟨chain, expanded, waited⟩
      · exact ⟨.error (.failed fault), .unknown rfl unknown, rfl⟩
      · obtain ⟨result, vanished, rfl⟩ := runs_bind_pure waited
        exact ⟨result, .absent expanded (chainWindow_of_waitAbsent vanished), rfl⟩
  | assertUrlContains fragment timeout =>
      obtain ⟨result, waited, rfl⟩ := runs_bind_pure ran
      exact ⟨result, .addressed (urlWindow_of_waitUrl waited), rfl⟩

end Attempt

/-- An executor after a step that passes. -/
def Executor.passed (executor : Executor) (step : Step) : Executor :=
  ⟨executor.stored.after step, executor.stepNumber + 1⟩

/-- What an executor reports of a step, and what it becomes. Nothing is reported of a breakdown. -/
def Executor.conclude (executor : Executor) (step : Step) :
    Except (Stop Fault) Unit → Except Breakdown (Except Failure Unit × Executor)
  | .ok () => .ok (.ok (), executor.passed step)
  | .error (.failed fault) => .ok (.error (fault.failure (executor.stepNumber + 1) step),
      ⟨executor.stored, executor.stepNumber + 1⟩)
  | .error (.broken breakdown) => .error breakdown

/-- What an executor makes of the stored chains that a step leaves, or of what ended the step. -/
def Executor.advance (executor : Executor) (step : Step) :
    Except (Stop Fault) StoredChains → Except Breakdown (Except Failure Unit × Executor)
  | .ok stored => .ok (.ok (), ⟨stored, executor.stepNumber + 1⟩)
  | .error (.failed fault) => .ok (.error (fault.failure (executor.stepNumber + 1) step),
      ⟨executor.stored, executor.stepNumber + 1⟩)
  | .error (.broken breakdown) => .error breakdown

/-- A step is announced and then performed in a world that differs in the announcement only. -/
theorem Executor.attempted_of_execute {options : RunOptions} {executor : Executor} {step : Step}
    {before after : World σ} {journal : List JournalEntry}
    {ended : Except Breakdown (Except Failure Unit × Executor)}
    (ran : (executor.execute options step).Runs host before journal after ended) :
    ∃ opened rest outcome,
      journal = .event before.now (.stepBegan (executor.stepNumber + 1) step executor.stored) ::
        rest ∧
      before.Alike opened ∧
      Attempt.Runs host (Attempt.perform options executor.stored step) opened rest after outcome ∧
      ended = executor.advance step outcome := by
  obtain ⟨_, opened, _, _, noted, continued, rfl⟩ := Attempt.runs_lift_bind_iff.mp ran
  have alike := Program.alike_note noted
  obtain ⟨rfl, -, -⟩ := Program.runs_note noted
  rcases Attempt.runs_bind_iff.mp continued with ⟨breakdown, kept, rfl⟩ | ⟨rest, _, outcome, _, kept,
    told, rfl⟩
  · obtain ⟨_, -, impossible⟩ := Attempt.runs_outcome_iff.mp kept
    cases impossible
  · obtain ⟨_, attempted, same⟩ := Attempt.runs_outcome_iff.mp kept
    cases same
    rcases outcome with (fault | breakdown) | stored
    · obtain ⟨rfl, rfl, rfl⟩ := Attempt.runs_pure_iff.mp told
      exact ⟨opened, rest, _, by simp, alike, attempted, rfl⟩
    · obtain ⟨rfl, rfl, rfl⟩ := Attempt.runs_throw_iff.mp told
      exact ⟨opened, rest, _, by simp, alike, attempted, rfl⟩
    · obtain ⟨rfl, rfl, rfl⟩ := Attempt.runs_pure_iff.mp told
      exact ⟨opened, rest, _, by simp, alike, attempted, rfl⟩

/-- The announcement takes no time and does not reach the browser. -/
theorem Executor.runs_execute {options : RunOptions} {executor : Executor} {step : Step}
    {before after : World σ} {journal : List JournalEntry}
    {ended : Except Breakdown (Except Failure Unit × Executor)}
    (ran : (executor.execute options step).Runs host before journal after ended) :
    ∃ opened rest outcome,
      journal = .event before.now (.stepBegan (executor.stepNumber + 1) step executor.stored) ::
        rest ∧
      opened.now = before.now ∧ opened.host = before.host ∧
      Attempt.Runs host (Attempt.perform options executor.stored step) opened rest after outcome ∧
      ended = executor.advance step outcome := by
  obtain ⟨opened, rest, outcome, recorded, alike, attempted, told⟩ := attempted_of_execute ran
  exact ⟨opened, rest, outcome, recorded, alike.now.symm, alike.host.symm, attempted, told⟩

/-- An executor opens a step, performs it and concludes. -/
theorem Executor.performed_of_execute {options : RunOptions} {executor : Executor} {step : Step}
    {before after : World σ} {journal : List JournalEntry}
    {ended : Except Breakdown (Except Failure Unit × Executor)}
    (ran : (executor.execute options step).Runs host before journal after ended) :
    ∃ rest result,
      journal = .event before.now (.stepBegan (executor.stepNumber + 1) step executor.stored) ::
        rest ∧
      Performed options executor.stored before.now step rest result ∧
      ended = executor.conclude step result := by
  obtain ⟨opened, rest, _, rfl, opened_at, -, attempted, rfl⟩ := Executor.runs_execute ran
  obtain ⟨result, performed, rfl⟩ := Attempt.performed_of_perform attempted
  rw [opened_at] at performed
  refine ⟨rest, result, rfl, performed, ?_⟩
  rcases result with (fault | breakdown) | value <;> rfl

/-- An execution that passes is followed by the other steps, a failure ends the steps, and so does a
breakdown. -/
theorem Run.executed_of_steps {options : RunOptions} {executor : Executor} {step : Step}
    {rest : List Step} {opened after : World σ} {journal : List JournalEntry}
    {ended : Except Breakdown (Option FailedStep)}
    (ran : (Run.steps options executor (step :: rest)).Runs host opened journal after ended) :
    ∃ first middle executed,
      (executor.execute options step).Runs host opened first middle executed ∧
      match executed with
      | .ok (.ok (), next) => ∃ resumed later, middle.Alike resumed ∧
          (Run.steps options next rest).Runs host resumed later after ended ∧
          journal = first ++ later
      | .ok (.error failure, next) => middle.Alike after ∧ journal = first ∧
          ended = .ok (some ⟨next.stepNumber, step, failure⟩)
      | .error breakdown => middle = after ∧ journal = first ∧ ended = .error breakdown := by
  rcases Attempt.runs_bind_iff.mp ran with ⟨breakdown, executed, rfl⟩ | ⟨first, middle,
    ⟨result, next⟩, _, executed, continued, rfl⟩
  · exact ⟨journal, after, .error breakdown, executed, rfl, rfl, rfl⟩
  · refine ⟨first, middle, .ok (result, next), executed, ?_⟩
    cases result with
    | ok value =>
        obtain ⟨_, resumed, _, later, printed, resumption, rfl⟩ :=
          Attempt.runs_lift_bind_iff.mp continued
        have resumes := Program.alike_printIf printed
        obtain ⟨rfl, -, -⟩ := Program.runs_printIf printed
        exact ⟨resumed, later, resumes, resumption, rfl⟩
    | error failure =>
        obtain ⟨_, _, _, _, printed, stopped, rfl⟩ := Attempt.runs_lift_bind_iff.mp continued
        have stops := Program.alike_printIf printed
        obtain ⟨rfl, -, -⟩ := Program.runs_printIf printed
        obtain ⟨rfl, rfl, rfl⟩ := Attempt.runs_pure_iff.mp stopped
        exact ⟨stops, by simp, rfl⟩

/-- Steps are executed in order up to the first that fails or breaks down. -/
inductive StepsRun (host : Host σ) (options : RunOptions) :
    Executor → List Step → List JournalEntry → Except Breakdown (Option FailedStep) → Prop where
  | done {executor : Executor} : StepsRun host options executor [] [] (.ok none)
  | passed {executor next : Executor} {step : Step} {rest : List Step} {before after : World σ}
      {first journal : List JournalEntry} {ended : Except Breakdown (Option FailedStep)}
      (executed : (executor.execute options step).Runs host before first after
        (.ok (.ok (), next)))
      (continued : StepsRun host options next rest journal ended) :
      StepsRun host options executor (step :: rest) (first ++ journal) ended
  | failed {executor next : Executor} {step : Step} {rest : List Step} {before after : World σ}
      {journal : List JournalEntry} {failure : Failure}
      (executed : (executor.execute options step).Runs host before journal after
        (.ok (.error failure, next))) :
      StepsRun host options executor (step :: rest) journal
        (.ok (some ⟨next.stepNumber, step, failure⟩))
  | broken {executor : Executor} {step : Step} {rest : List Step} {before after : World σ}
      {journal : List JournalEntry} {breakdown : Breakdown}
      (executed : (executor.execute options step).Runs host before journal after
        (.error breakdown)) :
      StepsRun host options executor (step :: rest) journal (.error breakdown)

theorem Run.stepsRun_of_steps {options : RunOptions} {executor : Executor} {list : List Step}
    {before after : World σ} {journal : List JournalEntry}
    {ended : Except Breakdown (Option FailedStep)}
    (ran : (Run.steps options executor list).Runs host before journal after ended) :
    StepsRun host options executor list journal ended := by
  induction list generalizing executor before journal with
  | nil =>
      obtain ⟨rfl, rfl, rfl⟩ := Attempt.runs_pure_iff.mp ran
      exact .done
  | cons step rest ih =>
      obtain ⟨first, middle, executed, ran_step, continued⟩ := executed_of_steps ran
      rcases executed with breakdown | ⟨failure | value, next⟩
      · obtain ⟨-, rfl, rfl⟩ := continued
        exact .broken ran_step
      · obtain ⟨-, rfl, rfl⟩ := continued
        exact .failed ran_step
      · obtain ⟨resumed, later, -, resumption, rfl⟩ := continued
        exact .passed ran_step (ih resumption)

/-- A browser that answers every call of a kind in the same way and at once. -/
def Host.steady (answer : (call : Call) → call.Outcome) : Host Unit where
  openSession _ _ state := ⟨.ok (), 0, state⟩
  call call _ state := ⟨answer call, 0, state⟩

/-- A page on which everything is found and nothing is refused. -/
def Host.agreeable : Host Unit :=
  .steady fun
    | .currentUrl => .ok "http://app/next"
    | .find _ _ => .ok [⟨"element"⟩]
    | .screenshot => .ok ByteArray.empty
    | .navigate _ => .ok ()
    | .click _ => .ok ()
    | .sendKeys _ _ => .ok ()
    | .clear _ => .ok ()
    | .reveal _ => .ok ()
    | .close => .ok ()

/-- Options of a run that prints nothing. -/
def RunOptions.plain : RunOptions where
  baseUrl := "http://app"
  defaultTimeout := 300
  pollInterval := 100
  screenshotDirectory := none
  verbose := false
  quiet := true

/-- A scenario that stores a chain, goes on from it and ends at another address. -/
def Scenario.tour : Scenario where
  name := "tour"
  description := none
  baseUrl := none
  vars := []
  steps := [
    .navigate "/start",
    .locate [.get ".menu"] (some "menu") none,
    .interact [.stored "menu", .contains "Next"] [.click] none,
    .assertPresent [.stored "menu"] (some 50),
    .assertUrlContains "next" none]

end ScenarioRunner
