import ScenarioRunner.Proofs.Expiry

/-!
What a timeout says. Its reason is taken from the last lookup, or from the last reading of the
address, and from nothing that came before.
-/

namespace ScenarioRunner

variable {σ : Type} {host : Host σ}

/-- What a lookup that leads to nothing is for whoever waits for elements. -/
inductive Absence.Tells (chain : Chain) : Absence → Except Fault Lookup → Prop where
  | noMatch {position : Nat} {link : Link} (placed : chain[position]? = some link) :
      Tells chain (.noMatch link) (.ok (.missing position link))
  | lookupFailed {error : Error} (passes : error.isTransient = true) :
      Tells chain (.lookupFailed error) (.error (.refused error))

/-- What a lookup that does not lead to nothing is for whoever waits for absence. -/
inductive Presence.Tells : Presence → Except Fault Lookup → Prop where
  | matched {elements : List ElementId} :
      Tells (.matched elements.length) (.ok (.found elements))
  | lookupFailed {error : Error} (passes : error.isTransient = true) :
      Tells (.lookupFailed error) (.error (.refused error))

/-- The chain that a step resolves to elements. -/
def Step.resolved? : Step → Option Chain
  | .locate target _ _ => some target
  | .interact target _ _ => some target
  | .assertPresent target _ => some target
  | _ => none

/-- What a step has to say at the end of its journal when its time is over. -/
inductive Step.Explained (host : Host σ) (stored : StoredChains) (ms : Nat) :
    Step → List JournalEntry → String → Prop where
  | absent {step : Step} {target chain : Chain} {journal : List JournalEntry}
      {result : Except Fault Lookup} {reason : Absence} (resolves : step.resolved? = some target)
      (expanded : stored.expand target = .ok chain)
      (looked : EndsInLookup host chain journal result) (tells : reason.Tells chain result) :
      Explained host stored ms step journal
        s!"Timed out after {ms}ms waiting for {Chain.display chain}: {reason.message}"
  | present {target chain : Chain} {timeout : Option UInt64} {journal : List JournalEntry}
      {result : Except Fault Lookup} {reason : Presence}
      (expanded : stored.expand target = .ok chain)
      (looked : EndsInLookup host chain journal result) (tells : reason.Tells result) :
      Explained host stored ms (.assertAbsent target timeout) journal
        s!"Timed out after {ms}ms: {Chain.display chain} {reason.message}"
  | elsewhere {fragment url : String} {timeout : Option UInt64} {earlier : List JournalEntry}
      {started finished : Nat} :
      Explained host stored ms (.assertUrlContains fragment timeout)
        (earlier ++ [.call started finished .currentUrl (.ok url)])
        s!"Timed out after {ms}ms: expected URL to contain '{fragment}', got '{url}'"

theorem Step.Explained.prepend {stored : StoredChains} {ms : Nat} {step : Step}
    {journal : List JournalEntry} {message : String}
    (explained : step.Explained host stored ms journal message) (earlier : List JournalEntry) :
    step.Explained host stored ms (earlier ++ journal) message := by
  cases explained with
  | absent resolves expanded looked tells =>
      exact .absent resolves expanded (looked.prepend earlier) tells
  | present expanded looked tells => exact .present expanded (looked.prepend earlier) tells
  | elsewhere =>
      rw [← List.append_assoc]
      exact .elsewhere

/-- A lookup names the link at which it stops. -/
theorem EndsInLookup.placed {chain : Chain} {journal : List JournalEntry} {position : Nat}
    {link : Link} (ends : EndsInLookup host chain journal (.ok (.missing position link))) :
    chain[position]? = some link := by
  obtain ⟨earlier, start, last, finish, -, looked⟩ := ends
  obtain ⟨-, told⟩ := Lookup.looksFor_evaluate chain looked
  cases told with
  | done granted evaluated =>
      obtain ⟨index, same, placed⟩ := evaluated.getElem?_missing
      rw [same, Nat.zero_add]
      exact placed

namespace Attempt

/-- Whoever does not find a chain in time tells the last lookup. -/
theorem tells_of_resolve {interval timeout ms : Nat} {chain : Chain} {before after : World σ}
    {journal : List JournalEntry} {fault : Fault} (timed : fault.timeout? = some ms)
    (ran : Runs host (resolve interval timeout chain) before journal after
      (.error (.failed fault))) :
    timeout = ms ∧ ∃ result reason, EndsInLookup host chain journal result ∧
      Absence.Tells chain reason result ∧ fault = .notFound timeout chain reason := by
  rcases toldBy_of_poll (Look.presence_error_ne timeout chain) ran with
    ⟨result, ends, told⟩ | ⟨breakdown, same⟩
  · cases told with
    | @unsettled lookup _ unsettles =>
        cases lookup with
        | found elements => cases unsettles
        | missing position link =>
            cases unsettles
            cases timed
            exact ⟨rfl, _, _, ends, .noMatch ends.placed, rfl⟩
    | interrupted passes unsettles =>
        cases unsettles
        cases timed
        exact ⟨rfl, _, _, ends, .lookupFailed passes, rfl⟩
    | failed timeless => cases timeless.symm.trans timed
  · cases same

/-- Whoever waits in vain for a chain to go away tells the last lookup. -/
theorem tells_of_waitAbsent {interval timeout ms : Nat} {chain : Chain} {before after : World σ}
    {journal : List JournalEntry} {fault : Fault} (timed : fault.timeout? = some ms)
    (ran : Runs host (waitAbsent interval timeout chain) before journal after
      (.error (.failed fault))) :
    timeout = ms ∧ ∃ result reason, EndsInLookup host chain journal result ∧
      Presence.Tells reason result ∧ fault = .notGone timeout chain reason := by
  rcases toldBy_of_poll (Look.absence_error_ne timeout chain) ran with
    ⟨result, ends, told⟩ | ⟨breakdown, same⟩
  · cases told with
    | @unsettled lookup _ unsettles =>
        cases lookup with
        | found elements =>
            cases unsettles
            cases timed
            exact ⟨rfl, _, _, ends, .matched, rfl⟩
        | missing position link => cases unsettles
    | interrupted passes unsettles =>
        cases unsettles
        cases timed
        exact ⟨rfl, _, _, ends, .lookupFailed passes, rfl⟩
    | failed timeless => cases timeless.symm.trans timed
  · cases same

/-- Whoever waits in vain for an address tells the address that was read last. -/
theorem tells_of_waitUrl {interval timeout ms : Nat} {fragment : String} {before after : World σ}
    {journal : List JournalEntry} {fault : Fault} (timed : fault.timeout? = some ms)
    (ran : Runs host (waitUrl interval timeout fragment) before journal after
      (.error (.failed fault))) :
    timeout = ms ∧ ∃ earlier started finished url,
      journal = earlier ++ [.call started finished .currentUrl (.ok url)] ∧
        fault = .otherUrl timeout fragment url := by
  cases urlWindow_of_waitUrl ran with
  | closed waits read =>
      cases read with
      | @elsewhere url overdue missing =>
          cases timed
          exact ⟨rfl, _, _, _, url, rfl, rfl⟩
      | refused => cases timed

/-- A step that runs out of time has expanded its chain. -/
theorem expanded_of_timeout {α : Type} {stored : StoredChains} {target : Chain}
    {next : Chain → Attempt (Stop Fault) α} {ms : Nat} {before after : World σ}
    {journal : List JournalEntry} {fault : Fault} (timed : fault.timeout? = some ms)
    (ran : Runs host ((liftM (stored.expand target) : Attempt Fault Chain).failing >>= next) before
      journal after (.error (.failed fault))) :
    ∃ chain, stored.expand target = .ok chain ∧
      Runs host (next chain) before journal after (.error (.failed fault)) := by
  rcases runs_expand_bind ran with ⟨_, unknown, -, same⟩ | expanded
  · cases same
    obtain ⟨name, rest, -, -, rfl⟩ := StoredChains.eq_of_expand_error unknown
    cases timed
  · exact expanded

/-- What comes after an attempt is a value, so that a fault is one of the attempt. -/
theorem fault_of_bind_pure {α β : Type} {attempt : Attempt (Stop Fault) α} {value : β}
    {before after : World σ} {journal : List JournalEntry} {fault : Fault}
    (ran : Runs host (attempt >>= fun _ => pure value) before journal after
      (.error (.failed fault))) :
    Runs host attempt before journal after (.error (.failed fault)) := by
  obtain ⟨result, attempted, same⟩ := runs_bind_pure ran
  cases result with
  | ok value => cases same
  | error stop =>
      cases same
      exact attempted

/-- Telling and keeping what an attempt has found cannot fail either. -/
theorem fault_of_told {α β : Type} {attempt : Attempt (Stop Fault) α} {wanted : Bool}
    {text : α → Text.Styled} {value : β} {before after : World σ} {journal : List JournalEntry}
    {fault : Fault}
    (ran : Runs host (do
      let found ← attempt
      Program.printIf wanted (text found)
      return value) before journal after (.error (.failed fault))) :
    Runs host attempt before journal after (.error (.failed fault)) := by
  rcases runs_bind_iff.mp ran with ⟨_, attempted, same⟩ | ⟨_, _, found, _, -, rest, -⟩
  · cases same
    exact attempted
  · obtain ⟨_, _, _, _, -, kept, -⟩ := runs_lift_bind_iff.mp rest
    cases (runs_pure_iff.mp kept).1

theorem explained_of_resolve {stored : StoredChains} {step : Step} {interval timeout ms : Nat}
    {target chain : Chain} {before after : World σ} {journal : List JournalEntry} {fault : Fault}
    (resolves : step.resolved? = some target) (expanded : stored.expand target = .ok chain)
    (timed : fault.timeout? = some ms)
    (ran : Runs host (resolve interval timeout chain) before journal after
      (.error (.failed fault))) :
    step.Explained host stored ms journal fault.message := by
  obtain ⟨rfl, result, reason, ends, tells, rfl⟩ := tells_of_resolve timed ran
  exact .absent resolves expanded ends tells

/-- A step that runs out of time explains itself by its last look. -/
theorem explained_of_perform {options : RunOptions} {stored : StoredChains} {step : Step} {ms : Nat}
    {before after : World σ} {journal : List JournalEntry} {fault : Fault}
    (timed : fault.timeout? = some ms)
    (ran : Runs host (perform options stored step) before journal after (.error (.failed fault))) :
    step.Explained host stored ms journal fault.message := by
  cases step with
  | navigate url =>
      obtain ⟨_, requested, same⟩ := runs_failing_iff.mp (fault_of_bind_pure ran)
      obtain ⟨answer, -, rfl⟩ := runs_request requested
      cases answer with
      | ok value => cases same
      | error error =>
          cases same
          cases timed
  | locate target storeAs timeout =>
      obtain ⟨chain, expanded, sought⟩ := expanded_of_timeout timed ran
      cases storeAs with
      | none => exact explained_of_resolve rfl expanded timed (fault_of_told sought)
      | some name => exact explained_of_resolve rfl expanded timed (fault_of_told sought)
  | interact target interactions timeout =>
      obtain ⟨chain, expanded, interacted⟩ := expanded_of_timeout timed ran
      cases lastTry_of_forM timed (fault_of_bind_pure interacted) with
      | @closed front earlier last interaction opened start finish _ quiet began resolved =>
          have explained : (Step.interact target interactions timeout).Explained host stored ms last
              fault.message := explained_of_resolve rfl expanded timed resolved
          rw [← List.cons_append, ← List.append_assoc]
          exact explained.prepend _
  | assertPresent target timeout =>
      obtain ⟨chain, expanded, sought⟩ := expanded_of_timeout timed ran
      exact explained_of_resolve rfl expanded timed (fault_of_bind_pure sought)
  | assertAbsent target timeout =>
      obtain ⟨chain, expanded, waited⟩ := expanded_of_timeout timed ran
      obtain ⟨rfl, result, reason, ends, tells, rfl⟩ :=
        tells_of_waitAbsent timed (fault_of_bind_pure waited)
      exact .present expanded ends tells
  | assertUrlContains fragment timeout =>
      obtain ⟨rfl, earlier, started, finished, url, rfl, rfl⟩ :=
        tells_of_waitUrl timed (fault_of_bind_pure ran)
      exact .elsewhere

end Attempt

/-- A timeout explains the last look. When a step fails because its time is over, its journal ends
with the lookup or the reading of the address that the message describes: the link at which that
lookup stopped, the number of elements that it found, the refusal that may have passed, or the
address that was read. Only a call that is refused with the failure of a step could say the like. -/
theorem Executor.timeout_explained (host : Host σ) (options : RunOptions) (executor : Executor)
    (step : Step) {before after : World σ} {journal : List JournalEntry} {next : Executor}
    {failure : Failure} {ms : Nat}
    (ran : (executor.execute options step).Runs host before journal after
      (.ok (.error failure, next)))
    (timedOut : Text.beginsWith failure.message
      (s!"Step {executor.stepNumber + 1} failed: " ++ s!"Timed out after {ms}ms") = true) :
    failure.Borrowed journal ∨
      ∃ reason, failure.message = s!"Step {executor.stepNumber + 1} failed: {reason}" ∧
        step.Explained host executor.stored ms journal reason := by
  obtain ⟨opened, rest, fault, recorded, -, attempted, rfl, read⟩ := faulted_of_execute ran
  refine (read ms timedOut).imp_right fun timed => ⟨fault.message, ?_, ?_⟩
  · rw [Fault.failure_of_timeout timed, Failure.message_numbered]
  · rw [recorded]
    exact (Attempt.explained_of_perform timed attempted).prepend [_]

/-- A page that is drawn anew at first and then has nothing inside of its elements. -/
def Host.redrawnEmpty : Host Unit where
  openSession _ _ state := ⟨.ok (), 0, state⟩
  call
    | .find _ scope, now, state =>
      ⟨if now < 100 then .error (.webDriver "stale element reference" "gone")
        else .ok (if scope.isSome then [] else [⟨"element"⟩]), 0, state⟩
    | asked, now, state => Host.agreeable.call asked now state

/-- An assertion about that page which is in time for two lookups. -/
def Step.hasty : Step := .assertPresent [.get ".a", .find ".b"] (some 100)

/-- The refusal of the first lookup is not told: the second lookup stops at the second link. -/
theorem Executor.timeout_explained_redrawnEmpty :
    ∃ journal after next failure reason,
      (Executor.start.execute .plain .hasty).Runs Host.redrawnEmpty (World.start () []) journal
        after (.ok (.error failure, next)) ∧
      failure.message = "Step 1 failed: Timed out after 100ms waiting for " ++
        "get '.a' > find '.b': no element matched find '.b'" ∧
      failure.message = s!"Step {Executor.start.stepNumber + 1} failed: {reason}" ∧
      Step.hasty.Explained Host.redrawnEmpty [] 100 journal reason := by
  have told : (Program.run Host.redrawnEmpty (Executor.start.execute .plain .hasty).run
      (World.start () [])).1 = .ok
        (.error (.numbered 1 (.notFound 100 [.get ".a", .find ".b"] (.noMatch (.find ".b")))),
          ⟨[], 1⟩) := by rfl
  have ran := Attempt.runs_of_outcome told
  have timedOut : Text.beginsWith (Failure.numbered 1
      (.notFound 100 [.get ".a", .find ".b"] (.noMatch (.find ".b")))).message
        (s!"Step {Executor.start.stepNumber + 1} failed: " ++ s!"Timed out after {100}ms") =
          true := by decide
  rcases Executor.timeout_explained Host.redrawnEmpty .plain .start .hasty ran timedOut with
    ⟨_, _, _, _, _, impossible⟩ | ⟨reason, told, explained⟩
  · cases impossible
  · exact ⟨_, _, _, _, reason, ran, rfl, told, explained⟩

end ScenarioRunner
