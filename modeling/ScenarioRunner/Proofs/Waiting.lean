import ScenarioRunner.Proofs.Searching
import ScenarioRunner.Run.Polling

/-!
How waiting goes: looks that settle nothing, a pause after each of them, and a last look that
decides.
-/

namespace ScenarioRunner

variable {σ α β : Type} {host : Host σ}

/-- Waiting until a deadline, look by look. Without an interval time may stand still, and the waiting
comes to no end before the deadline. -/
inductive Polled (host : Host σ) (interval deadline : Nat) (look : Attempt (Stop Fault) (Look α)) :
    World σ → List JournalEntry → World σ → Except (Stop Fault) α → Prop where
  | settled {before after : World σ} {journal : List JournalEntry} {value : α}
      (looked : Attempt.Runs host look before journal after (.ok (.settled value))) :
      Polled host interval deadline look before journal after (.ok value)
  | stopped {before after : World σ} {journal : List JournalEntry} {stop : Stop Fault}
      (looked : Attempt.Runs host look before journal after (.error stop)) :
      Polled host interval deadline look before journal after (.error stop)
  | expired {before after : World σ} {journal : List JournalEntry} {fault : Fault}
      (looked : Attempt.Runs host look before journal after (.ok (.unsettled fault)))
      (late : deadline ≤ after.now) :
      Polled host interval deadline look before journal after (.error (.failed fault))
  | unending {before after : World σ} {journal : List JournalEntry} {fault : Fault}
      (looked : Attempt.Runs host look before journal after (.ok (.unsettled fault)))
      (early : after.now < deadline) (still : interval = 0) :
      Polled host interval deadline look before journal after (.error (.broken .unending))
  | again {before middle resumed after : World σ} {journal waited rest : List JournalEntry}
      {fault : Fault} {outcome : Except (Stop Fault) α}
      (looked : Attempt.Runs host look before journal middle (.ok (.unsettled fault)))
      (early : middle.now < deadline)
      (paused : (Program.pause interval).Runs host middle waited resumed ())
      (continued : Polled host interval deadline look resumed rest after outcome) :
      Polled host interval deadline look before (journal ++ (waited ++ rest)) after outcome

/-- What comes of one look with a deadline, and of what follows it. -/
inductive LookedUntil (host : Host σ) (deadline : Nat) (look : Attempt (Stop Fault) (Look α))
    (otherwise : Attempt (Stop Fault) α) (before : World σ) :
    List JournalEntry → World σ → Except (Stop Fault) α → Prop where
  | settled {after : World σ} {journal : List JournalEntry} {value : α}
      (looked : Attempt.Runs host look before journal after (.ok (.settled value))) :
      LookedUntil host deadline look otherwise before journal after (.ok value)
  | stopped {after : World σ} {journal : List JournalEntry} {stop : Stop Fault}
      (looked : Attempt.Runs host look before journal after (.error stop)) :
      LookedUntil host deadline look otherwise before journal after (.error stop)
  | expired {after : World σ} {journal : List JournalEntry} {fault : Fault}
      (looked : Attempt.Runs host look before journal after (.ok (.unsettled fault)))
      (late : deadline ≤ after.now) :
      LookedUntil host deadline look otherwise before journal after (.error (.failed fault))
  | early {middle after : World σ} {first rest : List JournalEntry} {fault : Fault}
      {outcome : Except (Stop Fault) α}
      (looked : Attempt.Runs host look before first middle (.ok (.unsettled fault)))
      (early : middle.now < deadline)
      (followed : Attempt.Runs host otherwise middle rest after outcome) :
      LookedUntil host deadline look otherwise before (first ++ rest) after outcome

namespace Attempt

theorem lookedUntil_of_runs {deadline : Nat} {look : Attempt (Stop Fault) (Look α)}
    {otherwise : Attempt (Stop Fault) α} {before after : World σ} {journal : List JournalEntry}
    {outcome : Except (Stop Fault) α}
    (ran : Runs host (lookUntil deadline look otherwise) before journal after outcome) :
    LookedUntil host deadline look otherwise before journal after outcome := by
  rcases runs_bind_iff.mp ran with ⟨stop, looked, rfl⟩ | ⟨_, middle, seen, _, looked, continued, rfl⟩
  · exact .stopped looked
  · cases seen with
    | settled value =>
        obtain ⟨rfl, rfl, rfl⟩ := runs_pure_iff.mp continued
        rw [List.append_nil]
        exact .settled looked
    | unsettled fault =>
        obtain ⟨_, _, now, _, read, decided, rfl⟩ := runs_lift_bind_iff.mp continued
        obtain ⟨rfl, rfl, rfl⟩ := Program.runs_clock read
        rw [List.nil_append]
        dsimp only at decided
        split at decided
        next late =>
          obtain ⟨rfl, rfl, rfl⟩ := runs_throw_iff.mp decided
          rw [List.append_nil]
          exact .expired looked late
        next early => exact .early looked (Nat.lt_of_not_le early) decided

/-- With an interval the patience never shows, for the deadline passes before it is used up. -/
theorem polled_of_pollUntil {interval deadline patience : Nat} {look : Attempt (Stop Fault) (Look α)}
    {before after : World σ} {journal : List JournalEntry} {outcome : Except (Stop Fault) α}
    (enough : interval = 0 ∨ deadline ≤ before.now + patience)
    (ran : Runs host (pollUntil interval deadline look patience) before journal after outcome) :
    Polled host interval deadline look before journal after outcome := by
  induction patience generalizing before journal with
  | zero =>
      cases lookedUntil_of_runs ran with
      | settled looked => exact .settled looked
      | stopped looked => exact .stopped looked
      | expired looked late => exact .expired looked late
      | early looked early followed =>
          obtain ⟨rfl, rfl, rfl⟩ := runs_throw_iff.mp followed
          have passed := looked.timed.le
          rw [List.append_nil]
          exact .unending looked early (by omega)
  | succ patience ih =>
      cases lookedUntil_of_runs ran with
      | settled looked => exact .settled looked
      | stopped looked => exact .stopped looked
      | expired looked late => exact .expired looked late
      | early looked early followed =>
          obtain ⟨_, resumed, _, _, paused, resumption, rfl⟩ := runs_lift_bind_iff.mp followed
          have passed := looked.timed.le
          have resumed_at := (Program.runs_pause paused).2.1
          have still_enough : interval = 0 ∨ deadline ≤ resumed.now + patience := by omega
          exact .again looked early paused (ih still_enough resumption)

/-- A window that the clock cannot close is not opened; any other is waited in. -/
theorem polled_of_poll {interval timeout : Nat} {look : Nat → Attempt (Stop Fault) (Look α)}
    {before after : World σ} {journal : List JournalEntry} {outcome : Except (Stop Fault) α}
    (ran : Runs host (poll interval timeout look) before journal after outcome) :
    (Fits before.now timeout ∧ Polled host interval (before.now + timeout)
      (look (before.now + timeout)) before journal after outcome) ∨
    (¬ Fits before.now timeout ∧ journal = [] ∧ after = before ∧
      outcome = .error (.broken (.beyondClock before.now timeout))) := by
  obtain ⟨_, _, now, _, read, polled, rfl⟩ := runs_lift_bind_iff.mp ran
  obtain ⟨rfl, rfl, rfl⟩ := Program.runs_clock read
  split at polled
  next fits =>
    refine .inl ⟨fits, polled_of_pollUntil ?_ polled⟩
    by_cases still : interval = 0
    · exact .inl still
    · exact .inr (by simp [patience, still])
  next beyond =>
    obtain ⟨rfl, rfl, rfl⟩ := runs_throw_iff.mp polled
    exact .inr ⟨beyond, rfl, rfl, rfl⟩

end Attempt

/-- What the last look says of the waiting. -/
inductive Concluded (deadline now : Nat) :
    Except (Stop Fault) (Look α) → Except (Stop Fault) α → Prop where
  | settled {value : α} : Concluded deadline now (.ok (.settled value)) (.ok value)
  | stopped {stop : Stop Fault} : Concluded deadline now (.error stop) (.error stop)
  | expired {fault : Fault} (late : deadline ≤ now) :
      Concluded deadline now (.ok (.unsettled fault)) (.error (.failed fault))

/-- Waiting comes down to its last look, unless it comes to no end. What holds of every look that settles
nothing and of the pauses holds of all that went before. -/
theorem Polled.last_look {interval deadline : Nat} {look : Attempt (Stop Fault) (Look α)}
    {before after : World σ} {journal : List JournalEntry} {outcome : Except (Stop Fault) α}
    {P : JournalEntry → Prop}
    (polled : Polled host interval deadline look before journal after outcome)
    (unsettled : ∀ ⦃before journal after fault⦄,
      Attempt.Runs host look before journal after (.ok (.unsettled fault)) →
        ∀ entry ∈ journal, P entry)
    (pauses : ∀ time, P (.pause time interval)) :
    (∃ earlier start last seen, journal = earlier ++ last ∧ (∀ entry ∈ earlier, P entry) ∧
      Attempt.Runs host look start last after seen ∧ Concluded deadline after.now seen outcome) ∨
    ((∀ entry ∈ journal, P entry) ∧ outcome = .error (.broken .unending)) := by
  induction polled with
  | settled looked => exact .inl ⟨[], _, _, _, rfl, by simp, looked, .settled⟩
  | stopped looked => exact .inl ⟨[], _, _, _, rfl, by simp, looked, .stopped⟩
  | expired looked late => exact .inl ⟨[], _, _, _, rfl, by simp, looked, .expired late⟩
  | unending looked early still => exact .inr ⟨unsettled looked, rfl⟩
  | @again before middle resumed after journal waited rest fault outcome looked early paused _ ih =>
      obtain ⟨rfl, -, -⟩ := Program.runs_pause paused
      have paused_once : ∀ entry ∈ [.pause middle.now interval], P entry :=
        List.forall_mem_singleton.mpr (pauses middle.now)
      have so_far {more : List JournalEntry} (all : ∀ entry ∈ more, P entry) :
          ∀ entry ∈ journal ++ ([.pause middle.now interval] ++ more), P entry :=
        List.forall_mem_append.mpr ⟨unsettled looked,
          List.forall_mem_append.mpr ⟨paused_once, all⟩⟩
      rcases ih with ⟨earlier, start, last, seen, rfl, all, ended, concluded⟩ | ⟨all, rfl⟩
      · exact .inl ⟨journal ++ ([.pause middle.now interval] ++ earlier), start, last, seen,
          by simp only [List.append_assoc], so_far all, ended, concluded⟩
      · exact .inr ⟨so_far all, rfl⟩

/-- What a glance at a chain comes to. -/
inductive Glanced (chain : Chain) :
    List CallRecord → Except Fault (Except Error Lookup) → Prop where
  | whole {searches : List CallRecord} {lookup : Lookup}
      (granted : ∀ record ∈ searches, record.Granted)
      (evaluated : chain.Evaluated 0 none searches lookup) :
      Glanced chain searches (.ok (.ok lookup))
  | interrupted {searches front : List CallRecord} {last : CallRecord} {error : Error}
      (ends : searches = front ++ [last]) (granted : ∀ record ∈ front, record.Granted)
      (refused : last.RefusedWith error) (passes : error.isTransient = true) :
      Glanced chain searches (.ok (.error error))
  | refused {searches front : List CallRecord} {last : CallRecord} {error : Error}
      (ends : searches = front ++ [last]) (granted : ∀ record ∈ front, record.Granted)
      (refused : last.RefusedWith error) (halting : error.isTransient = false) :
      Glanced chain searches (.error (.refused error))
  | misplaced {searches : List CallRecord} {name : String}
      (granted : ∀ record ∈ searches, record.Granted) (misplaced : .stored name ∈ chain) :
      Glanced chain searches (.error (.misplacedName name))

namespace Attempt

/-- A glance is a lookup, and a refusal that may pass is kept as its value. -/
theorem glanced_of_runs {chain : Chain} {before after : World σ} {journal : List JournalEntry}
    {outcome : Except Fault (Except Error Lookup)}
    (ran : Runs host (glance chain) before journal after outcome) :
    (∀ entry ∈ journal, entry.Looks chain.Noted) ∧ Glanced chain (calls journal) outcome := by
  rcases runs_bind_iff.mp ran with ⟨fault, kept, rfl⟩ | ⟨_, _, result, _, kept, judged, rfl⟩
  · obtain ⟨_, -, impossible⟩ := runs_outcome_iff.mp kept
    cases impossible
  · obtain ⟨_, evaluated, same⟩ := runs_outcome_iff.mp kept
    cases same
    obtain ⟨looks, looked⟩ := Lookup.looksFor_evaluate chain evaluated
    cases looked with
    | done granted complete =>
        obtain ⟨rfl, rfl, rfl⟩ := runs_pure_iff.mp judged
        rw [List.append_nil]
        exact ⟨looks, .whole granted complete⟩
    | @refused front last error ends granted refused =>
        dsimp only at judged
        split at judged
        next passes =>
          obtain ⟨rfl, rfl, rfl⟩ := runs_pure_iff.mp judged
          rw [List.append_nil]
          exact ⟨looks, .interrupted ends granted refused passes⟩
        next halting =>
          obtain ⟨rfl, rfl, rfl⟩ := runs_throw_iff.mp judged
          rw [List.append_nil]
          exact ⟨looks, .refused ends granted refused (by simpa using halting)⟩
    | misplaced granted misplaced =>
        obtain ⟨rfl, rfl, rfl⟩ := runs_throw_iff.mp judged
        rw [List.append_nil]
        exact ⟨looks, .misplaced granted misplaced⟩

end Attempt

/-- A glance that comes to its end or passes has no refusal that halts. -/
theorem Glanced.smooth {chain : Chain} {searches : List CallRecord}
    {seen : Except Error Lookup} (glanced : Glanced chain searches (.ok seen)) :
    Smooth Error.isTransient searches := by
  cases glanced with
  | whole granted evaluated => exact smooth_of_granted granted
  | interrupted ends granted refused passes =>
      rw [ends]
      exact (smooth_of_granted granted).append (.singleton (refused.not_halts passes))

def JournalEntry.IsPause : JournalEntry → Prop
  | .pause _ _ => True
  | _ => False

/-- An entry of a time in which a step waits for a chain: it looks or pauses, and nothing halts
it. -/
structure JournalEntry.Waits (chain : Chain) (entry : JournalEntry) : Prop where
  idle : entry.Looks chain.Noted ∨ entry.IsPause
  smooth : ∀ record, entry.call? = some record → ¬ record.Halts Error.isTransient

/-- What waiting for a chain comes to, as its last look tells it. The judge says what a glance is
good for, and it is late when a glance that is good for nothing is the last. -/
inductive Awaited (judge : Except Error Lookup → Look α) (late : Prop) (chain : Chain) :
    List CallRecord → Except (Stop Fault) α → Prop where
  | settled {searches : List CallRecord} {lookup : Lookup} {value : α}
      (granted : ∀ record ∈ searches, record.Granted)
      (evaluated : chain.Evaluated 0 none searches lookup)
      (settles : judge (.ok lookup) = .settled value) :
      Awaited judge late chain searches (.ok value)
  | unsettled {searches : List CallRecord} {lookup : Lookup} {fault : Fault} (overdue : late)
      (granted : ∀ record ∈ searches, record.Granted)
      (evaluated : chain.Evaluated 0 none searches lookup)
      (unsettles : judge (.ok lookup) = .unsettled fault) :
      Awaited judge late chain searches (.error (.failed fault))
  | interrupted {searches front : List CallRecord} {last : CallRecord} {error : Error}
      {fault : Fault} (overdue : late) (ends : searches = front ++ [last])
      (granted : ∀ record ∈ front, record.Granted) (refused : last.RefusedWith error)
      (passes : error.isTransient = true) (unsettles : judge (.error error) = .unsettled fault) :
      Awaited judge late chain searches (.error (.failed fault))
  | refused {searches front : List CallRecord} {last : CallRecord} {error : Error}
      (ends : searches = front ++ [last]) (granted : ∀ record ∈ front, record.Granted)
      (refused : last.RefusedWith error) (halting : error.isTransient = false) :
      Awaited judge late chain searches (.error (.failed (.refused error)))
  | misplaced {searches : List CallRecord} {name : String}
      (granted : ∀ record ∈ searches, record.Granted) (misplaced : .stored name ∈ chain) :
      Awaited judge late chain searches (.error (.failed (.misplacedName name)))

theorem Look.eq_found_of_presence {timeout : Nat} {chain : Chain} {lookup : Lookup}
    {elements : List ElementId}
    (settles : Look.presence timeout chain (.ok lookup) = .settled elements) :
    lookup = .found elements := by
  cases lookup with
  | found found =>
      cases settles
      rfl
  | missing position link => cases settles

/-- A wait for an element gives up with what its last look showed. -/
theorem Look.eq_notFound_of_presence {timeout : Nat} {chain : Chain}
    {seen : Except Error Lookup} {fault : Fault}
    (unsettles : Look.presence timeout chain seen = .unsettled fault) :
    ∃ reason, fault = .notFound timeout chain reason := by
  rcases seen with error | (elements | ⟨position, link⟩)
  · cases unsettles
    exact ⟨.lookupFailed error, rfl⟩
  · cases unsettles
  · cases unsettles
    exact ⟨.noMatch link, rfl⟩

/-- A wait for the absence of elements gives up with what its last look showed. -/
theorem Look.eq_notGone_of_absence {timeout : Nat} {chain : Chain}
    {seen : Except Error Lookup} {fault : Fault}
    (unsettles : Look.absence timeout chain seen = .unsettled fault) :
    ∃ reason, fault = .notGone timeout chain reason := by
  rcases seen with error | (elements | ⟨position, link⟩)
  · cases unsettles
    exact ⟨.lookupFailed error, rfl⟩
  · cases unsettles
    exact ⟨.matched elements.length, rfl⟩
  · cases unsettles

/-- A refusal settles no wait for an element. -/
theorem Look.presence_error_ne (timeout : Nat) (chain : Chain) (error : Error)
    (elements : List ElementId) :
    Look.presence timeout chain (.error error) ≠ .settled elements := by
  intro settles
  cases settles

/-- A refusal settles no wait for the absence of elements. -/
theorem Look.absence_error_ne (timeout : Nat) (chain : Chain) (error : Error)
    (value : Unit) : Look.absence timeout chain (.error error) ≠ .settled value := by
  intro settles
  cases settles

theorem Look.eq_missing_of_absence {timeout : Nat} {chain : Chain} {lookup : Lookup}
    (settles : Look.absence timeout chain (.ok lookup) = .settled ()) :
    ∃ position link, lookup = .missing position link := by
  cases lookup with
  | found found => cases settles
  | missing position link => exact ⟨position, link, rfl⟩

/-- The entries of the last look of a wait, and what they tell. -/
structure LastLook (judge : Except Error Lookup → Look α) (late : Prop) (chain : Chain)
    (looks : List JournalEntry) (outcome : Except (Stop Fault) α) : Prop where
  looking : ∀ entry ∈ looks, entry.Looks chain.Noted
  told : Awaited judge late chain (calls looks) outcome

/-- The window in which a chain is waited for: a time of waiting and a last look. A wait that breaks down
does nothing but wait. -/
inductive ChainWindow (judge : Except Error Lookup → Look α) (timeout opened ended : Nat)
    (chain : Chain) : List JournalEntry → Except (Stop Fault) α → Prop where
  | closed {earlier looks : List JournalEntry} {start : Nat} {outcome : Except (Stop Fault) α}
      (waits : ∀ entry ∈ earlier, entry.Waits chain) (timed : Timed start looks ended)
      (looked : LastLook judge (opened + timeout ≤ ended) chain looks outcome) :
      ChainWindow judge timeout opened ended chain (earlier ++ looks) outcome
  | broken {journal : List JournalEntry} {breakdown : Breakdown}
      (waits : ∀ entry ∈ journal, entry.Waits chain) :
      ChainWindow judge timeout opened ended chain journal (.error (.broken breakdown))

/-- The last glance tells what the waiting comes to. -/
theorem Glanced.awaited {judge : Except Error Lookup → Look α}
    (wary : ∀ error value, judge (.error error) ≠ .settled value) {deadline now : Nat}
    {chain : Chain} {searches : List CallRecord}
    {glance : Except Fault (Except Error Lookup)} {outcome : Except (Stop Fault) α}
    (glanced : Glanced chain searches glance)
    (concluded : Concluded deadline now ((glance.map judge).mapError .failed) outcome) :
    Awaited judge (deadline ≤ now) chain searches outcome := by
  cases glanced with
  | @whole lookup granted evaluated =>
      cases judged : judge (.ok lookup) with
      | settled value =>
          simp only [Except.map, Except.mapError, judged] at concluded
          cases concluded
          exact .settled granted evaluated judged
      | unsettled fault =>
          simp only [Except.map, Except.mapError, judged] at concluded
          cases concluded with
          | expired late => exact .unsettled late granted evaluated judged
  | @interrupted front last error ends granted refused passes =>
      cases judged : judge (.error error) with
      | settled value => exact absurd judged (wary error value)
      | unsettled fault =>
          simp only [Except.map, Except.mapError, judged] at concluded
          cases concluded with
          | expired late => exact .interrupted late ends granted refused passes judged
  | refused ends granted refused halting =>
      cases concluded
      exact .refused ends granted refused halting
  | misplaced granted misplaced =>
      cases concluded
      exact .misplaced granted misplaced

namespace Attempt

/-- A glance is judged, and then among the attempts that may break down. -/
theorem runs_judged {judge : Except Error Lookup → Look α} {chain : Chain} {before after : World σ}
    {journal : List JournalEntry} {outcome : Except (Stop Fault) (Look α)}
    (ran : Runs host (judge <$> glance chain).failing before journal after outcome) :
    ∃ seen, Runs host (glance chain) before journal after seen ∧
      outcome = (seen.map judge).mapError .failed := by
  obtain ⟨_, judged, rfl⟩ := runs_failing_iff.mp ran
  obtain ⟨seen, glanced, rfl⟩ := runs_map_iff.mp judged
  exact ⟨seen, glanced, rfl⟩

/-- Whoever waits for a chain has a window for it. -/
theorem chainWindow_of_poll {judge : Except Error Lookup → Look α}
    (wary : ∀ error value, judge (.error error) ≠ .settled value) {interval timeout : Nat}
    {chain : Chain} {before after : World σ} {journal : List JournalEntry}
    {outcome : Except (Stop Fault) α}
    (ran : Runs host (poll interval timeout fun _ => (judge <$> glance chain).failing) before journal
      after outcome) :
    ChainWindow judge timeout before.now after.now chain journal outcome := by
  have unsettled ⦃before : World σ⦄ ⦃journal⦄ ⦃after : World σ⦄ ⦃fault⦄
      (looked : Runs host (judge <$> glance chain).failing before journal after
        (.ok (.unsettled fault))) : ∀ entry ∈ journal, entry.Waits chain := by
    obtain ⟨seen, glanced, same⟩ := runs_judged looked
    obtain ⟨looks, told⟩ := glanced_of_runs glanced
    cases seen with
    | error fault => cases same
    | ok seen =>
        exact fun entry member => ⟨.inl (looks entry member), fun record recorded =>
          told.smooth record (mem_calls_iff.mpr ⟨entry, member, recorded⟩)⟩
  have pauses (time : Nat) : (JournalEntry.pause time interval).Waits chain :=
    ⟨.inr trivial, by simp [JournalEntry.call?]⟩
  rcases polled_of_poll ran with ⟨-, polled⟩ | ⟨-, rfl, rfl, rfl⟩
  · rcases polled.last_look unsettled pauses with
      ⟨earlier, start, looks, seen, rfl, waits, looked, concluded⟩ | ⟨waits, rfl⟩
    · obtain ⟨glance, glanced, rfl⟩ := runs_judged looked
      obtain ⟨looking, told⟩ := glanced_of_runs glanced
      exact .closed waits looked.timed ⟨looking, told.awaited wary concluded⟩
    · exact .broken waits
  · exact .broken (by simp)

theorem chainWindow_of_resolve {interval timeout : Nat} {chain : Chain} {before after : World σ}
    {journal : List JournalEntry} {outcome : Except (Stop Fault) (List ElementId)}
    (ran : Runs host (resolve interval timeout chain) before journal after outcome) :
    ChainWindow (Look.presence timeout chain) timeout before.now after.now chain journal outcome :=
  chainWindow_of_poll (Look.presence_error_ne timeout chain) ran

theorem chainWindow_of_waitAbsent {interval timeout : Nat} {chain : Chain}
    {before after : World σ} {journal : List JournalEntry} {outcome : Except (Stop Fault) Unit}
    (ran : Runs host (waitAbsent interval timeout chain) before journal after outcome) :
    ChainWindow (Look.absence timeout chain) timeout before.now after.now chain journal outcome :=
  chainWindow_of_poll (Look.absence_error_ne timeout chain) ran

end Attempt

/-- Lateness may be weakened. -/
theorem LastLook.mono {judge : Except Error Lookup → Look α} {late later : Prop}
    {chain : Chain} {looks : List JournalEntry} {outcome : Except (Stop Fault) α}
    (looked : LastLook judge late chain looks outcome) (implies : late → later) :
    LastLook judge later chain looks outcome := by
  obtain ⟨looking, told⟩ := looked
  refine ⟨looking, ?_⟩
  cases told with
  | settled granted evaluated settles => exact .settled granted evaluated settles
  | unsettled overdue granted evaluated unsettles =>
      exact .unsettled (implies overdue) granted evaluated unsettles
  | interrupted overdue ends granted refused passes unsettles =>
      exact .interrupted (implies overdue) ends granted refused passes unsettles
  | refused ends granted refused halting => exact .refused ends granted refused halting
  | misplaced granted misplaced => exact .misplaced granted misplaced

/-- An entry of a time in which a step waits for an address. -/
def JournalEntry.WaitsForUrl : JournalEntry → Prop
  | .call _ _ .currentUrl outcome => ∃ url, outcome = .ok url
  | .pause _ _ => True
  | _ => False

/-- What waiting for an address comes to, as the last answer tells it. -/
inductive UrlAwaited (late : Prop) (timeout : Nat) (fragment : String) :
    Call.currentUrl.Outcome → Except (Stop Fault) Unit → Prop where
  | reached {url : String} (contained : Text.contains url fragment = true) :
      UrlAwaited late timeout fragment (.ok url) (.ok ())
  | elsewhere {url : String} (overdue : late) (missing : Text.contains url fragment = false) :
      UrlAwaited late timeout fragment (.ok url) (.error (.failed (.otherUrl timeout fragment url)))
  | refused {error : Error} :
      UrlAwaited late timeout fragment (.error error) (.error (.failed (.refused error)))

/-- The window in which an address is waited for. -/
inductive UrlWindow (timeout opened ended : Nat) (fragment : String) :
    List JournalEntry → Except (Stop Fault) Unit → Prop where
  | closed {earlier : List JournalEntry} {started : Nat} {answer : Call.currentUrl.Outcome}
      {outcome : Except (Stop Fault) Unit} (waits : ∀ entry ∈ earlier, entry.WaitsForUrl)
      (read : UrlAwaited (opened + timeout ≤ ended) timeout fragment answer outcome) :
      UrlWindow timeout opened ended fragment
        (earlier ++ [.call started ended .currentUrl answer]) outcome
  | broken {journal : List JournalEntry} {breakdown : Breakdown}
      (waits : ∀ entry ∈ journal, entry.WaitsForUrl) :
      UrlWindow timeout opened ended fragment journal (.error (.broken breakdown))

namespace Attempt

/-- One look at the address is one call. -/
theorem runs_lookAtUrl {timeout : Nat} {fragment : String} {before after : World σ}
    {journal : List JournalEntry} {outcome : Except (Stop Fault) (Look Unit)}
    (ran : Runs host (lookAtUrl timeout fragment).failing before journal after outcome) :
    ∃ answer : Call.currentUrl.Outcome, journal = [.call before.now after.now .currentUrl answer] ∧
      answer = (host.call .currentUrl before.now before.host).answer ∧
      match answer with
      | .ok url => outcome = .ok (if Text.contains url fragment then .settled ()
          else .unsettled (.otherUrl timeout fragment url))
      | .error error => outcome = .error (.failed (.refused error)) := by
  obtain ⟨_, looked, rfl⟩ := runs_failing_iff.mp ran
  rcases runs_bind_iff.mp looked with ⟨fault, asked, rfl⟩ | ⟨_, middle, url, _, asked, judged, rfl⟩
  · obtain ⟨answer, called, same⟩ := runs_request asked
    obtain ⟨rfl, answered, -, -⟩ := Program.runs_call called
    cases answer with
    | ok url => cases same
    | error error =>
        cases same
        exact ⟨.error error, rfl, answered, rfl⟩
  · obtain ⟨answer, called, same⟩ := runs_request asked
    obtain ⟨rfl, answered, -, -⟩ := Program.runs_call called
    cases answer with
    | error error => cases same
    | ok url =>
        cases same
        split at judged
        next contained =>
          obtain ⟨rfl, rfl, rfl⟩ := runs_pure_iff.mp judged
          exact ⟨.ok url, rfl, answered, by simp [contained, Except.mapError]⟩
        next missing =>
          obtain ⟨rfl, rfl, rfl⟩ := runs_pure_iff.mp judged
          exact ⟨.ok url, rfl, answered, by simp [missing, Except.mapError]⟩

/-- Whoever waits for an address reads it until it fits, and ends with the last answer. -/
theorem urlWindow_of_waitUrl {interval timeout : Nat} {fragment : String} {before after : World σ}
    {journal : List JournalEntry} {outcome : Except (Stop Fault) Unit}
    (ran : Runs host (waitUrl interval timeout fragment) before journal after outcome) :
    UrlWindow timeout before.now after.now fragment journal outcome := by
  have unsettled ⦃before : World σ⦄ ⦃journal⦄ ⦃after : World σ⦄ ⦃fault⦄
      (looked : Runs host (lookAtUrl timeout fragment).failing before journal after
        (.ok (.unsettled fault))) : ∀ entry ∈ journal, entry.WaitsForUrl := by
    obtain ⟨answer, rfl, -, told⟩ := runs_lookAtUrl looked
    cases answer with
    | error error => cases told
    | ok url => simp [JournalEntry.WaitsForUrl]
  rcases polled_of_poll ran with ⟨-, polled⟩ | ⟨-, rfl, rfl, rfl⟩
  · rcases polled.last_look unsettled fun _ => trivial with
      ⟨earlier, start, last, seen, rfl, waits, looked, concluded⟩ | ⟨waits, rfl⟩
    · obtain ⟨answer, rfl, -, told⟩ := runs_lookAtUrl looked
      refine .closed waits ?_
      cases answer with
      | error error =>
          cases told
          cases concluded
          exact .refused
      | ok url =>
          dsimp only at told
          split at told
          next contained =>
            cases told
            cases concluded
            exact .reached contained
          next missing =>
            cases told
            cases concluded with
            | expired late => exact .elsewhere late (by simpa using missing)
    · exact .broken waits
  · exact .broken (by simp)

end Attempt

end ScenarioRunner
