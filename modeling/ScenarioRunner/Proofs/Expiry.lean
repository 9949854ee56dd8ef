import ScenarioRunner.Proofs.Numbering
import ScenarioRunner.Proofs.Pacing

/-!
How a step runs out of time: which failures say so, the lookup or the address that they go back to,
and how an interaction comes to its last try.
-/

namespace ScenarioRunner

variable {σ α : Type} {host : Host σ}

/-- The milliseconds after which a fault says that the time was over. -/
def Fault.timeout? : Fault → Option Nat
  | .notFound timeout _ _ => some timeout
  | .notGone timeout _ _ => some timeout
  | .otherUrl timeout _ _ => some timeout
  | _ => none

/-- Keys are unknown by name. -/
def Fault.Spoken : Fault → Prop
  | .badKeys error => ∃ name, error = .unknownKey name
  | _ => True

/-- The fault is the failure of a step that a call was refused with. -/
def Fault.Borrowed (fault : Fault) : Prop :=
  ∃ error : Error, error.isStepFailure = true ∧ fault = .refused error

namespace Fault

/-- A fault that says nothing of a timeout begins with another letter, and not like the failure of a
step unless it is one. -/
theorem head?_message_of_timeless {fault : Fault} (spoken : fault.Spoken)
    (own : ¬ fault.Borrowed) (timeless : fault.timeout? = none) :
    ∃ c, fault.message.toList.head? = some c ∧ c ≠ 'S' ∧ c ≠ 'T' := by
  cases fault with
  | refused error =>
      have other : error.isStepFailure = false := by
        by_contra carries
        exact own ⟨error, by simpa using carries, rfl⟩
      exact ⟨error.initial, error.head?_message, Error.initial_of_other other⟩
  | badKeys error =>
      obtain ⟨name, rfl⟩ := spoken
      exact ⟨'U', (Error.unknownKey name).head?_message, by decide, by decide⟩
  | neverLocated name =>
      show ∃ c, (s!"alias '@{name}' was never located").toList.head? = some c ∧ c ≠ 'S' ∧ c ≠ 'T'
      simp only [toString_text, String.append_assoc]
      exact ⟨'a', Text.head?_append (by rfl) _, by decide, by decide⟩
  | misplacedName name =>
      show ∃ c, (s!"alias '@{name}' must start the target").toList.head? = some c ∧
        c ≠ 'S' ∧ c ≠ 'T'
      simp only [toString_text, String.append_assoc]
      exact ⟨'a', Text.head?_append (by rfl) _, by decide, by decide⟩
  | notPerformed interaction chain error =>
      show ∃ c,
        (s!"Could not {interaction.display} {Chain.display chain}: {error.message}").toList.head? =
          some c ∧ c ≠ 'S' ∧ c ≠ 'T'
      simp only [toString_text, String.append_assoc]
      exact ⟨'C', Text.head?_append (by rfl) _, by decide, by decide⟩
  | notFound timeout chain reason | notGone timeout chain reason => cases timeless
  | otherUrl timeout fragment url => cases timeless

/-- A fault that gives a timeout states it at its beginning. -/
theorem message_of_timeout {fault : Fault} {timeout : Nat}
    (timed : fault.timeout? = some timeout) :
    ∃ rest, fault.message = "Timed out after " ++ (toString timeout ++ ("ms" ++ rest)) := by
  -- the letters behind the number belong to a longer literal
  have parted {literal ending : String} (joined : "ms" ++ ending = literal) (text : String) :
      ∃ rest, "Timed out after " ++ (toString timeout ++ (literal ++ text)) =
        "Timed out after " ++ (toString timeout ++ ("ms" ++ rest)) := by
    refine ⟨ending ++ text, ?_⟩
    rw [← joined, String.append_assoc]
  cases fault with
  | notFound time chain reason =>
      cases timed
      show ∃ rest,
        s!"Timed out after {timeout}ms waiting for {Chain.display chain}: {reason.message}" = _
      simp only [toString_text, String.append_assoc]
      exact parted (by rfl : "ms" ++ " waiting for " = "ms waiting for ") _
  | notGone time chain reason =>
      cases timed
      show ∃ rest, s!"Timed out after {timeout}ms: {Chain.display chain} {reason.message}" = _
      simp only [toString_text, String.append_assoc]
      exact parted (by rfl : "ms" ++ ": " = "ms: ") _
  | otherUrl time fragment url =>
      cases timed
      show ∃ rest,
        s!"Timed out after {timeout}ms: expected URL to contain '{fragment}', got '{url}'" = _
      simp only [toString_text, String.append_assoc]
      exact parted (by rfl : "ms" ++ ": expected URL to contain '" = _) _
  | _ => cases timed

/-- Whoever reads a timeout at the beginning of a fault reads the timeout that the fault gives. -/
theorem timeout_of_message {fault : Fault} {ms : Nat} (spoken : fault.Spoken)
    (own : ¬ fault.Borrowed)
    (begins : Text.beginsWith fault.message s!"Timed out after {ms}ms" = true) :
    fault.timeout? = some ms := by
  simp only [toString_text, String.append_assoc] at begins
  cases timed : fault.timeout? with
  | none =>
      obtain ⟨c, heading, -, other⟩ := head?_message_of_timeless spoken own timed
      have first := Text.head?_of_beginsWith begins (Text.head?_append (c := 'T') (by rfl) _)
      cases heading.symm.trans first
      exact absurd rfl other
  | some timeout =>
      obtain ⟨rest, stated⟩ := message_of_timeout timed
      rw [stated, Text.beginsWith_append_iff,
        Text.beginsWith_number_iff (c := 'm') (by rfl) (by decide)] at begins
      rw [begins]

/-- What the runner says of a timeout is reported with the number of the step. -/
theorem failure_of_timeout {fault : Fault} {timeout : Nat} (timed : fault.timeout? = some timeout)
    (number : Nat) (step : Step) : fault.failure number step = .numbered number fault := by
  cases fault with
  | refused error | badKeys error => cases timed
  | _ => rfl

/-- A failure has the message of its fault. Only what says nothing of a timeout is told without the
number of the step. -/
theorem message_failure (fault : Fault) (number : Nat) (step : Step) :
    (fault.failure number step).message = s!"Step {number} failed: " ++ fault.message ∨
      fault.timeout? = none ∧ (fault.failure number step).message = fault.message := by
  have numbered : (Failure.numbered number fault).message =
      s!"Step {number} failed: " ++ fault.message := by
    simp only [Failure.message_numbered, toString_text, String.append_assoc]
  have either {bare : Bool} {error : Error} (same : fault.message = error.message)
      (timeless : fault.timeout? = none) :
      (if bare then .bare error else .numbered number fault : Failure).message =
          s!"Step {number} failed: " ++ fault.message ∨
        fault.timeout? = none ∧
          (if bare then .bare error else .numbered number fault : Failure).message =
            fault.message := by
    cases bare with
    | false => exact .inl numbered
    | true => exact .inr ⟨timeless, same.symm⟩
  cases fault with
  | refused error | badKeys error => exact either rfl rfl
  | _ => exact .inl numbered

/-- Whoever reads a timeout in the failure of a step reads the timeout of its fault. -/
theorem timeout_of_failure {fault : Fault} {number ms : Nat} {step : Step} (spoken : fault.Spoken)
    (own : ¬ fault.Borrowed)
    (begins : Text.beginsWith (fault.failure number step).message
      (s!"Step {number} failed: " ++ s!"Timed out after {ms}ms") = true) :
    fault.timeout? = some ms := by
  rcases fault.message_failure number step with numbered | ⟨timeless, bare⟩
  · rw [numbered, Text.beginsWith_append_iff] at begins
    exact timeout_of_message spoken own begins
  · obtain ⟨c, heading, other, -⟩ := head?_message_of_timeless spoken own timeless
    rw [bare] at begins
    simp only [toString_text, String.append_assoc] at begins
    have first := Text.head?_of_beginsWith begins (Text.head?_append (c := 'S') (by rfl) _)
    cases heading.symm.trans first
    exact absurd rfl other

end Fault

theorem Reported.spoken {journal : List JournalEntry} {fault : Fault}
    (reported : Reported journal (.error (.failed fault) : Except (Stop Fault) α)) :
    fault.Spoken := by
  cases reported with
  | own whole own =>
      cases fault with
      | badKeys error => exact own.elim
      | _ => trivial
  | foreign broken foreign =>
      cases foreign with
      | refused error => trivial
      | badKeys unknown => exact Text.unknownKey_of_expandKeys unknown

theorem Performed.spoken {options : RunOptions} {stored : StoredChains} {opened : Nat}
    {step : Step} {journal : List JournalEntry} {fault : Fault}
    (performed : Performed options stored opened step journal (.error (.failed fault))) :
    fault.Spoken := by
  cases performed with
  | refused => trivial
  | unknown targeted unknown =>
      obtain ⟨name, rest, -, -, rfl⟩ := StoredChains.eq_of_expand_error unknown
      trivial
  | @sought _ _ chain ended _ result _ seeks expanded window same =>
      cases result with
      | ok elements => cases same
      | error other =>
          cases same
          exact (window.reported (Look.owns_presence _ chain)).spoken
  | absent expanded window => exact (window.reported (Look.owns_absence _ _)).spoken
  | interacted expanded windows => exact windows.reported.spoken
  | addressed window =>
      cases window with
      | closed waits read =>
          cases read with
          | elsewhere overdue missing => trivial
          | refused => trivial

/-- The failure is the failure of a step that a call of the journal was refused with. -/
def Failure.Borrowed (journal : List JournalEntry) (failure : Failure) : Prop :=
  ∃ record ∈ calls journal, ∃ error, record.RefusedWith error ∧ error.isStepFailure = true ∧
    failure = .bare error

/-- An entry that breaks a step with the failure of a step is a call. -/
theorem JournalEntry.refusedWith_of_breaksWith {entry : JournalEntry} {error : Error}
    (breaks : entry.BreaksWith error) (carries : error.isStepFailure = true) :
    ∃ record, entry.call? = some record ∧ record.RefusedWith error := by
  cases entry with
  | call started finished asked outcome =>
      refine ⟨_, rfl, ?_⟩
      cases asked with
      | find locator scope =>
          cases outcome with
          | ok found => exact breaks.elim
          | error other => exact congrArg Except.error breaks.1
      | navigate url | currentUrl =>
          cases outcome with
          | ok value => exact breaks.elim
          | error other => exact congrArg Except.error breaks
      | _ => exact breaks.elim
  | event time event =>
      cases event with
      | typingBegan text =>
          obtain ⟨name, rfl⟩ := Text.unknownKey_of_expandKeys breaks
          cases carries
      | _ => exact breaks.elim
  | _ => exact breaks.elim

/-- The failure of a step that is reported came from a call. -/
theorem Reported.borrowed {journal : List JournalEntry} {fault : Fault}
    (reported : Reported journal (.error (.failed fault) : Except (Stop Fault) α))
    (borrowed : fault.Borrowed) (number : Nat) (step : Step) : (fault.failure number step).Borrowed journal := by
  obtain ⟨error, carries, rfl⟩ := borrowed
  cases reported with
  | own whole own => exact own.elim
  | foreign broken foreign =>
      cases foreign with
      | refused =>
          obtain ⟨entry, member, breaks⟩ := (broken error).mpr rfl
          obtain ⟨record, recorded, refused⟩ := entry.refusedWith_of_breaksWith breaks carries
          exact ⟨record, mem_calls_iff.mpr ⟨entry, member, recorded⟩, error, refused, carries,
            by simp [Fault.failure, carries]⟩

/-- The failure of an execution is that of the fault that ended its step. A timeout that is read in
the failure is that of the fault, unless a call told the failure. -/
theorem Executor.faulted_of_execute {options : RunOptions} {executor next : Executor} {step : Step}
    {before after : World σ} {journal : List JournalEntry} {failure : Failure}
    (ran : (executor.execute options step).Runs host before journal after
      (.ok (.error failure, next))) :
    ∃ opened rest fault,
      journal =
        .event before.now (.stepBegan (executor.stepNumber + 1) step executor.stored) :: rest ∧
      opened.now = before.now ∧
      Attempt.Runs host (Attempt.perform options executor.stored step) opened rest after
        (.error (.failed fault)) ∧
      failure = fault.failure (executor.stepNumber + 1) step ∧
      ∀ ms, Text.beginsWith failure.message
        (s!"Step {executor.stepNumber + 1} failed: " ++ s!"Timed out after {ms}ms") = true →
          failure.Borrowed journal ∨ fault.timeout? = some ms := by
  obtain ⟨opened, rest, outcome, recorded, opened_at, -, attempted, told⟩ := runs_execute ran
  rcases outcome with (fault | breakdown) | stored
  · cases told
    refine ⟨opened, rest, fault, recorded, opened_at, attempted, rfl, fun ms begins => ?_⟩
    obtain ⟨result, performed, same⟩ := Attempt.performed_of_perform attempted
    cases result with
    | ok value => cases same
    | error stop =>
        cases same
        by_cases borrowed : fault.Borrowed
        · obtain ⟨record, member, told⟩ := performed.reported.borrowed borrowed
            (executor.stepNumber + 1) step
          refine .inl ⟨record, ?_, told⟩
          rw [recorded]
          exact member
        · exact .inr (Fault.timeout_of_failure performed.spoken borrowed begins)
  · cases told
  · cases told

/-- A journal that ends with a lookup of the chain. -/
def EndsInLookup (host : Host σ) (chain : Chain) (journal : List JournalEntry)
    (result : Except Fault Lookup) : Prop :=
  ∃ earlier start last finish, journal = earlier ++ last ∧
    Attempt.Runs host (Lookup.evaluate chain) start last finish result

theorem EndsInLookup.prepend {chain : Chain} {journal : List JournalEntry}
    {result : Except Fault Lookup} (ends : EndsInLookup host chain journal result)
    (earlier : List JournalEntry) : EndsInLookup host chain (earlier ++ journal) result := by
  obtain ⟨front, start, last, finish, rfl, looked⟩ := ends
  exact ⟨earlier ++ front, start, last, finish, (List.append_assoc _ _ _).symm, looked⟩

/-- What a wait for a chain comes to by the result of its last lookup. -/
inductive ToldBy (judge : Except Error Lookup → Look α) :
    Except Fault Lookup → Except (Stop Fault) α → Prop where
  | settled {lookup : Lookup} {value : α} (settles : judge (.ok lookup) = .settled value) :
      ToldBy judge (.ok lookup) (.ok value)
  | unsettled {lookup : Lookup} {fault : Fault}
      (unsettles : judge (.ok lookup) = .unsettled fault) :
      ToldBy judge (.ok lookup) (.error (.failed fault))
  | interrupted {error : Error} {fault : Fault} (passes : error.isTransient = true)
      (unsettles : judge (.error error) = .unsettled fault) :
      ToldBy judge (.error (.refused error)) (.error (.failed fault))
  | failed {fault : Fault} (timeless : fault.timeout? = none) :
      ToldBy judge (.error fault) (.error (.failed fault))

namespace Attempt

/-- A lookup is stopped by a refusal or by a name. -/
theorem fault_of_evaluate {chain : Chain} {before after : World σ} {journal : List JournalEntry}
    {fault : Fault}
    (ran : Runs host (Lookup.evaluate chain) before journal after (.error fault)) :
    (∃ error, fault = .refused error) ∨ ∃ name, fault = .misplacedName name := by
  obtain ⟨-, looked⟩ := Lookup.looksFor_evaluate chain ran
  cases looked with
  | refused ends granted refused => exact .inl ⟨_, rfl⟩
  | misplaced granted misplaced => exact .inr ⟨_, rfl⟩

/-- A wait for a chain that does not break down ends with a lookup, and that lookup decides. -/
theorem toldBy_of_poll {judge : Except Error Lookup → Look α}
    (wary : ∀ error value, judge (.error error) ≠ .settled value) {interval timeout : Nat}
    {chain : Chain} {before after : World σ} {journal : List JournalEntry}
    {outcome : Except (Stop Fault) α}
    (ran : Runs host (poll interval timeout fun _ => (judge <$> glance chain).failing) before
      journal after outcome) :
    (∃ result, EndsInLookup host chain journal result ∧ ToldBy judge result outcome) ∨
      ∃ breakdown, outcome = .error (.broken breakdown) := by
  rcases polled_of_poll ran with ⟨-, polled⟩ | ⟨-, -, -, broken⟩
  · rcases polled.last_look (P := fun _ => True) (fun _ _ _ _ _ _ _ => trivial)
      (fun _ => trivial) with ⟨earlier, start, last, seen, rfl, -, looked, concluded⟩ | ⟨-, broken⟩
    · obtain ⟨glance, glanced, rfl⟩ := runs_judged looked
      obtain ⟨result, evaluated, rfl⟩ := glimpsed_of_glance glanced
      refine .inl ⟨result, ⟨earlier, start, last, after, rfl, evaluated⟩, ?_⟩
      cases result with
      | ok lookup =>
          cases judged : judge (.ok lookup) with
          | settled value =>
              simp only [Lookup.glimpsed, Except.map, Except.mapError, judged] at concluded
              cases concluded
              exact .settled judged
          | unsettled fault =>
              simp only [Lookup.glimpsed, Except.map, Except.mapError, judged] at concluded
              cases concluded
              exact .unsettled judged
      | error fault =>
          rcases fault_of_evaluate evaluated with ⟨error, rfl⟩ | ⟨name, rfl⟩
          · cases passes : error.isTransient with
            | false =>
                simp only [Lookup.glimpsed, passes] at concluded
                cases concluded
                exact .failed rfl
            | true =>
                cases judged : judge (.error error) with
                | settled value => exact absurd judged (wary error value)
                | unsettled fault =>
                    simp only [Lookup.glimpsed, passes, if_true, Except.map, Except.mapError,
                      judged] at concluded
                    cases concluded
                    exact .interrupted passes judged
          · cases concluded
            exact .failed rfl
    · exact .inr ⟨_, broken⟩
  · exact .inr ⟨_, broken⟩

end Attempt

/-- How a wait comes to its last look: it is the first, or it follows a look that settles nothing
after one pause. -/
inductive Polled.Led (host : Host σ) (interval : Nat) (look : Attempt (Stop Fault) (Look α))
    (before : World σ) : List JournalEntry → World σ → Prop where
  | first : Led host interval look before [] before
  | again (earlier : List JournalEntry) {looked : List JournalEntry}
      {previous middle start : World σ} {fault : Fault} (later : before.now ≤ previous.now)
      (unsettled : Attempt.Runs host look previous looked middle (.ok (.unsettled fault)))
      (resumed : start.now = middle.now + interval) :
      Led host interval look before (earlier ++ (looked ++ [.pause middle.now interval])) start

/-- Whatever leads to the last look leads to it after a first look as well. -/
theorem Polled.Led.prepend {interval : Nat} {look : Attempt (Stop Fault) (Look α)}
    {before middle resumed start : World σ} {journal earlier : List JournalEntry} {fault : Fault}
    (led : Led host interval look resumed earlier start)
    (unsettled : Attempt.Runs host look before journal middle (.ok (.unsettled fault)))
    (resumption : resumed.now = middle.now + interval) :
    Led host interval look before (journal ++ ([.pause middle.now interval] ++ earlier)) start := by
  have passed := unsettled.timed.le
  cases led with
  | first => exact .again [] (Nat.le_refl _) unsettled resumption
  | @again front looked previous _ _ _ later last_unsettled paused =>
      rw [← List.append_assoc, ← List.append_assoc]
      exact .again _ (by omega) last_unsettled paused

theorem Polled.led {interval deadline : Nat} {look : Attempt (Stop Fault) (Look α)}
    {before after : World σ} {journal : List JournalEntry} {outcome : Except (Stop Fault) α}
    (polled : Polled host interval deadline look before journal after outcome) :
    (∃ earlier start last seen, journal = earlier ++ last ∧
      Led host interval look before earlier start ∧
      Attempt.Runs host look start last after seen ∧ Concluded deadline after.now seen outcome) ∨
    outcome = .error (.broken .unending) := by
  induction polled with
  | settled looked => exact .inl ⟨[], _, _, _, rfl, .first, looked, .settled⟩
  | stopped looked => exact .inl ⟨[], _, _, _, rfl, .first, looked, .stopped⟩
  | expired looked late => exact .inl ⟨[], _, _, _, rfl, .first, looked, .expired late⟩
  | unending looked early still => exact .inr rfl
  | again looked early paused continued ih =>
      rcases ih with ⟨earlier, start, last, seen, rfl, led, last_look, concluded⟩ | broken
      · obtain ⟨rfl, resumption, -⟩ := Program.runs_pause paused
        refine .inl ⟨_, start, last, seen, ?_, led.prepend looked resumption, last_look, concluded⟩
        simp only [List.append_assoc]
      · exact .inr broken

/-- When the last try of an interaction begins: with the window, or one interval after the act
before it. -/
inductive TryBegan (interval opened : Nat) : List JournalEntry → Nat → Prop where
  | first : TryBegan interval opened [] opened
  | again {earlier : List JournalEntry} (front : List CallRecord) {record : CallRecord}
      (called : calls earlier = front ++ [record]) (acts : record.call.acts = true)
      (later : opened ≤ record.finished) :
      TryBegan interval opened earlier (record.finished + interval)

/-- The last try of an interaction, in which its chain is resolved in vain in the rest of the
window. -/
inductive LastTry (host : Host σ) (interval timeout : Nat) (chain : Chain) :
    List JournalEntry → Fault → Prop where
  | closed (front : List JournalEntry) {earlier last : List JournalEntry}
      {interaction : Interaction} {opened : Nat} {start finish : World σ} {fault : Fault}
      (quiet : Quiet (earlier ++ last))
      (began : TryBegan interval opened earlier start.now)
      (resolved : Attempt.Runs host (Attempt.resolve interval (opened + timeout - start.now) chain)
        start last finish (.error (.failed fault))) :
      LastTry host interval timeout chain
        (front ++ .event opened (.interactionBegan interaction) :: (earlier ++ last)) fault

theorem LastTry.prepend {interval timeout : Nat} {chain : Chain} {journal : List JournalEntry}
    {fault : Fault} (tried : LastTry host interval timeout chain journal fault)
    (earlier : List JournalEntry) :
    LastTry host interval timeout chain (earlier ++ journal) fault := by
  cases tried with
  | closed front quiet began resolved =>
      rw [← List.append_assoc]
      exact .closed (earlier ++ front) quiet began resolved

/-- No window opens behind the opening of an interaction. -/
theorem InteractionWindow.quiet {timeout opened : Nat} {chain : Chain}
    {interaction : Interaction} {rest : List JournalEntry} {outcome : Except (Stop Fault) Unit}
    (window : InteractionWindow timeout chain interaction
      (.event opened (.interactionBegan interaction) :: rest) outcome) : Quiet rest := by
  cases window with
  | closed works timed tried => exact (quiet_of_works works).append tried.quiet
  | broken works => exact quiet_of_works works

namespace Attempt

/-- A try that settles nothing ends with its act. -/
theorem act_of_unsettled {options : RunOptions} {chain : Chain} {interaction : Interaction}
    {deadline : Nat} {before after : World σ} {journal : List JournalEntry} {fault : Fault}
    (ran : Runs host (tryInteraction options chain interaction deadline) before journal after
      (.ok (.unsettled fault))) :
    ∃ front record, calls journal = front ++ [record] ∧ record.call.acts = true ∧
      record.finished = after.now := by
  obtain ⟨found, middle, resolved, acted, rfl, -, timed, tried⟩ := tried_of_runs ran
  cases tried with
  | acted done judged =>
      cases done with
      | granted acts called meant granted => cases judged
      | badKeys typed unknown => cases judged
      | @refused _ record error acts called meant refused =>
          have busy : ∀ entry ∈ acted, entry.IsBusy := fun entry member =>
            JournalEntry.isBusy_of_isAct (acts entry member)
          have ends : calls acted = [] ++ [record] := called
          exact ⟨calls found, record, by rw [calls_append, called], Interaction.acts_of_call meant,
            timed.finished_last busy ends⟩

/-- An interaction that runs out of time has a last try in which its chain is not found. -/
theorem lastTry_of_interact {options : RunOptions} {timeout ms : Nat} {chain : Chain}
    {interaction : Interaction} {before after : World σ} {journal : List JournalEntry}
    {fault : Fault} (timed : fault.timeout? = some ms)
    (ran : Runs host (interact options timeout chain interaction) before journal after
      (.error (.failed fault))) :
    LastTry host options.pollInterval timeout chain journal fault := by
  have window := interactionWindow_of_interact ran
  obtain ⟨_, opened, _, _, noted, polling, rfl⟩ := runs_lift_bind_iff.mp ran
  obtain ⟨rfl, opened_at, -⟩ := Program.runs_note noted
  rcases polled_of_poll polling with ⟨-, polled⟩ | ⟨-, -, -, same⟩
  · rcases polled.led with ⟨earlier, start, last, seen, rfl, led, attempted, concluded⟩ | same
    · obtain ⟨found, middle, resolved, acted, rfl, ran_resolve, -, tried⟩ :=
        tried_of_runs attempted
      have began : TryBegan options.pollInterval opened.now earlier start.now := by
        cases led with
        | first => exact .first
        | @again earlier looked previous middle start _ later unsettled resumed =>
            obtain ⟨front, record, called, acts, finished⟩ := act_of_unsettled unsettled
            have passed := unsettled.timed.le
            rw [resumed, ← finished]
            refine .again (calls earlier ++ front) ?_ acts (by omega)
            simp [called]
      rw [opened_at] at ran_resolve began
      cases tried with
      | unresolved =>
          cases concluded
          rw [List.append_nil, List.singleton_append] at window ⊢
          exact .closed [] window.quiet began ran_resolve
      | nothing => cases concluded
      | @acted _ _ _ result _ done judged =>
          obtain rfl := judged
          cases done with
          | granted acts called meant granted => cases concluded
          | badKeys typed unknown =>
              cases concluded
              cases timed
          | @refused _ record error acts called meant refused =>
              cases passes : error.isTransient with
              | true =>
                  simp only [Look.ofAct, passes, if_true] at concluded
                  cases concluded
                  cases timed
              | false =>
                  simp only [Look.ofAct, passes] at concluded
                  cases concluded
                  cases timed
    · cases same
  · cases same

theorem lastTry_of_forM {options : RunOptions} {timeout ms : Nat} {chain : Chain}
    {interactions : List Interaction} {before after : World σ} {journal : List JournalEntry}
    {fault : Fault} (timed : fault.timeout? = some ms)
    (ran : Runs host (interactions.forM (interact options timeout chain)) before journal after
      (.error (.failed fault))) :
    LastTry host options.pollInterval timeout chain journal fault := by
  induction interactions generalizing before journal with
  | nil => cases (runs_pure_iff.mp ran).1
  | cons interaction rest ih =>
      rcases runs_bind_iff.mp ran with ⟨_, first, same⟩ | ⟨earlier, _, _, _, first, continued, rfl⟩
      · cases same
        exact lastTry_of_interact timed first
      · exact (ih continued).prepend earlier

end Attempt

end ScenarioRunner
