import ScenarioRunner.Proofs.Explanation

/-!
Which time a timeout states: what was left of its window when the last try began. A retried
interaction states less than the timeout of its step.
-/

namespace ScenarioRunner

variable {σ : Type} {host : Host σ}

/-- The entries of the window that is current at the end of a journal. -/
def currentWindow (journal : List JournalEntry) : List JournalEntry :=
  behindLast JournalEntry.openedAt? journal

/-- The calls of a window that act on an element. -/
def actsOf (window : List JournalEntry) : List CallRecord :=
  (calls window).filter (·.call.acts)

/-- When the last try of a window began: where the window opened, or one interval after the last
act. -/
def lastTryBegan (interval opened : Nat) (window : List JournalEntry) : Nat :=
  match (actsOf window).getLast? with
  | none => opened
  | some record => record.finished + interval

theorem actsOf_append (first second : List JournalEntry) :
    actsOf (first ++ second) = actsOf first ++ actsOf second := by
  rw [actsOf, calls_append, List.filter_append]
  rfl

theorem actsOf_eq_nil_iff {window : List JournalEntry} :
    actsOf window = [] ↔ ∀ record ∈ calls window, record.call.acts = false := by
  simp [actsOf]

/-- A window whose last call is an act has that act for its last. -/
theorem actsOf_concat {window : List JournalEntry} {front : List CallRecord} {record : CallRecord}
    (called : calls window = front ++ [record]) (acts : record.call.acts = true) :
    actsOf window = front.filter (·.call.acts) ++ [record] := by
  have kept : [record].filter (·.call.acts) = [record] :=
    List.filter_eq_self.mpr (List.forall_mem_singleton.mpr acts)
  rw [actsOf, called, List.filter_append, kept]

/-- The window in which a step runs out of time, and what is left of it at the last try. -/
inductive RanOut (interval timeout : Nat) : List JournalEntry → Nat → Prop where
  | closed (front : List JournalEntry) {opening : JournalEntry} {opened start : Nat}
      {earlier last : List JournalEntry} (opens : opening.openedAt? = some opened)
      (quiet : Quiet (earlier ++ last)) (began : TryBegan interval opened earlier start)
      (idle : actsOf last = []) :
      RanOut interval timeout (front ++ opening :: (earlier ++ last)) (opened + timeout - start)

/-- A step that tries once has the whole of its window. -/
theorem RanOut.whole {timeout opened : Nat} {opening : JournalEntry}
    {journal : List JournalEntry} (opens : opening.openedAt? = some opened)
    (quiet : Quiet journal) (idle : actsOf journal = []) :
    RanOut interval timeout (opening :: journal) timeout := by
  have ranOut : RanOut interval timeout ([] ++ opening :: ([] ++ journal))
      (opened + timeout - opened) := .closed [] opens quiet .first idle
  rwa [Nat.add_sub_cancel_left] at ranOut

/-- The last try begins where the window shows it. -/
theorem TryBegan.eq_lastTryBegan {interval opened start : Nat} {earlier last : List JournalEntry}
    (began : TryBegan interval opened earlier start) (idle : actsOf last = []) :
    start = lastTryBegan interval opened (earlier ++ last) := by
  rw [lastTryBegan, actsOf_append, idle, List.append_nil]
  cases began with
  | first => rfl
  | again front called acts later => rw [actsOf_concat called acts, List.getLast?_concat]

/-- The whole window is left as long as nothing was acted on, and only then. -/
theorem TryBegan.left_eq_iff {timeout opened start : Nat}
    {earlier last : List JournalEntry} (positive : 0 < interval)
    (began : TryBegan interval opened earlier start) (idle : actsOf last = []) :
    opened + timeout - start = timeout ↔ timeout = 0 ∨ actsOf (earlier ++ last) = [] := by
  rw [actsOf_append, idle, List.append_nil]
  cases began with
  | first => exact iff_of_true (Nat.add_sub_cancel_left _ _) (.inr rfl)
  | again front called acts later =>
      have acted : actsOf earlier ≠ [] := by
        rw [actsOf_concat called acts]
        exact List.append_ne_nil_of_right_ne_nil _ (List.cons_ne_nil _ _)
      rw [or_iff_left acted]
      omega

theorem RanOut.stated {interval timeout ms : Nat} {journal : List JournalEntry}
    (ranOut : RanOut interval timeout journal ms) :
    ∃ opened, windowOpened? journal = some opened ∧
      ms = opened + timeout - lastTryBegan interval opened (currentWindow journal) ∧
      (0 < interval → (ms = timeout ↔ timeout = 0 ∨ actsOf (currentWindow journal) = [])) := by
  cases ranOut with
  | @closed front opening opened start earlier last opens quiet began idle =>
      have window : currentWindow (front ++ opening :: (earlier ++ last)) = earlier ++ last :=
        behindLast_append front opens quiet
      refine ⟨opened, windowOpened?_append front opens quiet, ?_, fun positive => ?_⟩
      · rw [window, ← began.eq_lastTryBegan idle]
      · rw [window]
        exact began.left_eq_iff positive idle

theorem actsOf_of_isFind {journal : List JournalEntry}
    (finds : ∀ record ∈ calls journal, record.IsFind) : actsOf journal = [] :=
  actsOf_eq_nil_iff.mpr fun record member => (finds record member).not_acts

/-- Reading the address does not act. -/
theorem UrlWindow.idle {timeout opened ended : Nat} {fragment : String}
    {journal : List JournalEntry} {outcome : Except (Stop Fault) Unit}
    (window : UrlWindow timeout opened ended fragment journal outcome) :
    actsOf journal = [] := by
  have passive {entries : List JournalEntry} (waits : ∀ entry ∈ entries, entry.WaitsForUrl) :
      ∀ record ∈ calls entries, record.call.acts = false := by
    refine forall_calls waits ?_
    intro started finished asked outcome waited
    cases asked with
    | currentUrl => rfl
    | _ => exact waited.elim
  refine actsOf_eq_nil_iff.mpr ?_
  cases window with
  | closed waits read =>
      rw [calls_append]
      exact List.forall_mem_append.mpr ⟨passive waits, List.forall_mem_singleton.mpr rfl⟩
  | broken waits => exact passive waits

namespace Attempt

/-- A step that runs out of time does so in its current window, and states what is left of it. -/
theorem ranOut_of_perform {options : RunOptions} {stored : StoredChains} {step : Step} {ms : Nat}
    {opening : JournalEntry} {before after : World σ} {journal : List JournalEntry} {fault : Fault}
    (opens : opening.openedAt? = some before.now) (timed : fault.timeout? = some ms)
    (ran : Runs host (perform options stored step) before journal after (.error (.failed fault))) :
    RanOut options.pollInterval (step.window options) (opening :: journal) ms := by
  have resolves {timeout : Nat} {chain : Chain} {finish : World σ} {entries : List JournalEntry}
      (ran : Runs host (resolve options.pollInterval timeout chain) before entries finish
        (.error (.failed fault))) :
      RanOut options.pollInterval timeout (opening :: entries) ms := by
    obtain ⟨rfl, -⟩ := tells_of_resolve timed ran
    have window := chainWindow_of_resolve ran
    exact .whole opens window.quiet (actsOf_of_isFind window.isFind)
  cases step with
  | navigate url =>
      obtain ⟨_, requested, same⟩ := runs_failing_iff.mp (fault_of_bind_pure ran)
      obtain ⟨answer, -, rfl⟩ := runs_request requested
      cases answer with
      | ok value => cases same
      | error error =>
          cases same
          cases timed
  | locate target storeAs timeout =>
      obtain ⟨chain, expanded, sought⟩ := expanded_of_timeout timed ran
      cases storeAs with
      | none => exact resolves (fault_of_told sought)
      | some name => exact resolves (fault_of_told sought)
  | interact target interactions timeout =>
      obtain ⟨chain, expanded, interacted⟩ := expanded_of_timeout timed ran
      cases lastTry_of_forM timed (fault_of_bind_pure interacted) with
      | closed front quiet began resolved =>
          obtain ⟨rfl, -⟩ := tells_of_resolve timed resolved
          have idle := actsOf_of_isFind (chainWindow_of_resolve resolved).isFind
          exact .closed (opening :: front) rfl quiet began idle
  | assertPresent target timeout =>
      obtain ⟨chain, expanded, sought⟩ := expanded_of_timeout timed ran
      exact resolves (fault_of_bind_pure sought)
  | assertAbsent target timeout =>
      obtain ⟨chain, expanded, waited⟩ := expanded_of_timeout timed ran
      have vanished := fault_of_bind_pure waited
      obtain ⟨rfl, -⟩ := tells_of_waitAbsent timed vanished
      have window := chainWindow_of_waitAbsent vanished
      exact .whole opens window.quiet (actsOf_of_isFind window.isFind)
  | assertUrlContains fragment timeout =>
      have waited := fault_of_bind_pure ran
      obtain ⟨rfl, -⟩ := tells_of_waitUrl timed waited
      have window := urlWindow_of_waitUrl waited
      exact .whole opens window.quiet window.idle

end Attempt

/-- A timeout states what is left of the current window of the step when its last try begins. This
is the timeout of the step exactly when nothing was acted on in that window, or when the step has no
time at all. Only a call that is refused with the failure of a step could state something else. -/
theorem Executor.states_window_iff (host : Host σ) (options : RunOptions) (executor : Executor)
    (step : Step) {before after : World σ} {journal : List JournalEntry} {next : Executor}
    {failure : Failure} {ms : Nat}
    (ran : (executor.execute options step).Runs host before journal after
      (.ok (.error failure, next)))
    (timedOut : Text.beginsWith failure.message
      (s!"Step {executor.stepNumber + 1} failed: " ++ s!"Timed out after {ms}ms") = true) :
    failure.Borrowed journal ∨ ∃ opened, windowOpened? journal = some opened ∧
      ms = opened + step.window options - lastTryBegan options.pollInterval opened
        (currentWindow journal) ∧
      (0 < options.pollInterval → (ms = step.window options ↔ step.window options = 0 ∨
        ∀ record ∈ calls (currentWindow journal), record.call.acts = false)) := by
  obtain ⟨start, rest, fault, recorded, started, attempted, -, read⟩ := faulted_of_execute ran
  refine (read ms timedOut).imp_right fun timed => ?_
  have opens : (JournalEntry.event before.now
      (.stepBegan (executor.stepNumber + 1) step executor.stored)).openedAt? = some start.now :=
    congrArg some started.symm
  have ranOut := Attempt.ranOut_of_perform opens timed attempted
  rw [← recorded] at ranOut
  obtain ⟨opened, opened_at, stated, whole_iff⟩ := ranOut.stated
  rw [actsOf_eq_nil_iff] at whole_iff
  exact ⟨opened, opened_at, stated, whole_iff⟩

/-- A page whose element is covered at first and then gone. -/
def Host.vanishing : Host Unit where
  openSession _ _ state := ⟨.ok (), 0, state⟩
  call
    | .find _ _, now, state => ⟨.ok (if now = 0 then [⟨"element"⟩] else []), 0, state⟩
    | .click _, _, state => ⟨.error (.webDriver "element click intercepted" "covered"), 0, state⟩
    | asked, now, state => Host.agreeable.call asked now state

/-- A click with the timeout of the run. -/
def Step.click : Step := .interact [.get ".a"] [.click] none

/-- What the click leaves in the journal of that page. -/
def Host.vanishingLog : List JournalEntry :=
  (Executor.start.execute .plain .click).run.log Host.vanishing (World.start () [])

theorem Executor.runs_vanishing :
    (Executor.start.execute .plain .click).Runs Host.vanishing (World.start () [])
      Host.vanishingLog
      ((Executor.start.execute .plain .click).run.run Host.vanishing (World.start () [])).2
      (.ok (.error (.numbered 1 (.notFound 200 [.get ".a"] (.noMatch (.get ".a")))), ⟨[], 1⟩)) :=
  ⟨rfl, rfl⟩

/-- An interaction that states less than its timeout has acted before. -/
theorem Executor.states_window_iff_vanishing :
    ∃ record ∈ calls (currentWindow Host.vanishingLog), record.call.acts = true := by
  have timedOut : Text.beginsWith
      (Failure.numbered 1 (.notFound 200 [.get ".a"] (.noMatch (.get ".a")))).message
        (s!"Step {Executor.start.stepNumber + 1} failed: " ++ s!"Timed out after {200}ms") =
          true := by decide
  rcases Executor.states_window_iff Host.vanishing .plain .start .click Executor.runs_vanishing
    timedOut with ⟨_, _, _, _, _, impossible⟩ | ⟨opened, -, -, whole_iff⟩
  · cases impossible
  by_contra idle
  have positive : 0 < RunOptions.plain.pollInterval := by decide
  have whole : 200 = Step.click.window .plain := (whole_iff positive).mpr <| .inr <| by
    intro record member
    by_contra acts
    exact idle ⟨record, member, by simpa using acts⟩
  exact absurd whole (by decide)

/-- The checked step has 300 milliseconds and says that it timed out after 200. -/
theorem Executor.understates_window_vanishing :
    Step.click.check [] = .ok () ∧ Step.click.window .plain = 300 ∧
      ∃ journal after next failure, (Executor.start.execute .plain .click).Runs Host.vanishing
          (World.start () []) journal after (.ok (.error failure, next)) ∧
        failure.message = "Step 1 failed: Timed out after 200ms waiting for get '.a': " ++
          "no element matched get '.a'" :=
  ⟨rfl, rfl, _, _, _, _, Executor.runs_vanishing, rfl⟩

end ScenarioRunner
