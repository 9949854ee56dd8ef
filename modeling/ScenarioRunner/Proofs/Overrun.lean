import ScenarioRunner.Proofs.Patience
import ScenarioRunner.Proofs.Persistence

/-!
How long a step may take on a browser that answers at once. Every interaction opens a window of its
own, so that a step with several of them may outlast the window of one.
-/

namespace ScenarioRunner

variable {σ α : Type}

/-- A browser whose calls take no time. -/
def Host.Instant (host : Host σ) : Prop :=
  ∀ (call : Call) (now : Nat) (state : σ), (host.call call now state).delay = 0

/-- A call that took no time. -/
def JournalEntry.IsInstant : JournalEntry → Prop
  | .call started finished _ _ => finished = started
  | _ => True

theorem Program.Runs.instant {host : Host σ} (instant : host.Instant) {program : Program α}
    {before after : World σ} {journal : List JournalEntry} {value : α}
    (ran : program.Runs host before journal after value) :
    ∀ entry ∈ journal, entry.IsInstant := by
  obtain ⟨ended, rfl⟩ := ran
  induction program generalizing before with
  | done value => simp [log]
  | perform effect next ih =>
      have here : ∀ entry ∈ effect.entries before.now (before.enact host effect).2.now
          (before.enact host effect).1, entry.IsInstant := by
        cases effect with
        | call call =>
            refine List.forall_mem_singleton.mpr ?_
            simpa [JournalEntry.IsInstant, World.enact] using instant call before.now before.host
        | openSession request => exact List.forall_mem_singleton.mpr trivial
        | pause duration => exact List.forall_mem_singleton.mpr trivial
        | note event => exact List.forall_mem_singleton.mpr trivial
        | _ => simp [Effect.entries]
      exact List.forall_mem_append.mpr ⟨here, ih _ ended⟩

/-- Time stands still, or moves by the pauses of the window. -/
theorem Timed.in_window {interval deadline first last : Nat} {journal : List JournalEntry}
    (timed : Timed first journal last) (instant : ∀ entry ∈ journal, entry.IsInstant)
    (inside : ∀ entry ∈ journal, entry.InWindow interval deadline) :
    last = first ∨ first < deadline ∧ first + interval ≤ last ∧ last < deadline + interval := by
  induction timed with
  | still now => exact .inl rfl
  | call later _ ih =>
      obtain ⟨rfl, instant_rest⟩ := List.forall_mem_cons.mp instant
      exact ih instant_rest (List.forall_mem_cons.mp inside).2
  | session later _ ih => exact (List.forall_mem_cons.mp inside).1.elim
  | pause _ ih =>
      obtain ⟨⟨early, rfl⟩, inside_rest⟩ := List.forall_mem_cons.mp inside
      have rest := ih (List.forall_mem_cons.mp instant).2 inside_rest
      omega
  | event _ ih => exact ih (List.forall_mem_cons.mp instant).2 (List.forall_mem_cons.mp inside).2

/-- Each interaction takes less than its window and an interval. -/
theorem InteractionsPaced.ended_le {timeout opened ended : Nat}
    {interactions : List Interaction} {journal : List JournalEntry}
    (paced : InteractionsPaced interval timeout opened interactions journal ended)
    (instant : ∀ entry ∈ journal, entry.IsInstant) :
    ended ≤ opened + interactions.length * (timeout + interval - 1) ∧
      (timeout = 0 → ended = opened) := by
  induction paced with
  | ended now left => exact ⟨Nat.le_add_right _ _, fun _ => rfl⟩
  | @window opened middle last interaction rest window journal timed fits paced continued ih =>
      obtain ⟨-, instant_both⟩ := List.forall_mem_cons.mp instant
      obtain ⟨instant_window, instant_rest⟩ := List.forall_mem_append.mp instant_both
      obtain ⟨few, still⟩ := ih instant_rest
      have here := timed.in_window instant_window paced.inside
      rw [List.length_cons, Nat.add_mul, Nat.one_mul]
      refine ⟨by omega, fun nothing => ?_⟩
      have same := still nothing
      omega

/-- In windows that the clock cannot close no time passes. -/
theorem InteractionsPaced.ended_eq {timeout opened ended : Nat} {interactions : List Interaction}
    {journal : List JournalEntry}
    (paced : InteractionsPaced interval timeout opened interactions journal ended)
    (beyond : ¬ Fits opened timeout) : ended = opened := by
  induction paced with
  | ended now left => rfl
  | @window opened middle last interaction rest window journal timed fits paced continued ih =>
      obtain rfl := fits.resolve_left beyond
      cases timed with
      | still now => exact ih beyond

/-- Where the clock cannot close a window that opens an interval after its start, there is time for one
window only. -/
theorem InteractionsPaced.ended_once {timeout opened ended : Nat} {interactions : List Interaction}
    {journal : List JournalEntry}
    (paced : InteractionsPaced interval timeout opened interactions journal ended)
    (instant : ∀ entry ∈ journal, entry.IsInstant) (beyond : ¬ Fits interval timeout) :
    ended = opened ∨ ended < opened + timeout + interval := by
  induction paced with
  | ended now left => exact .inl rfl
  | @window opened middle last interaction rest window journal timed fits paced continued ih =>
      obtain ⟨-, instant_both⟩ := List.forall_mem_cons.mp instant
      obtain ⟨instant_window, instant_rest⟩ := List.forall_mem_append.mp instant_both
      rcases timed.in_window instant_window paced.inside with rfl | ⟨-, later, early⟩
      · exact ih instant_rest
      · have too_late : ¬ Fits middle timeout := by
          unfold Fits at beyond ⊢
          omega
        have unmoved := continued.ended_eq too_late
        omega

/-- The windows of a step, one after the other, take no longer than this. -/
theorem StepPaced.ended_le {options : RunOptions} {step : Step} {opened ended : Nat}
    {journal : List JournalEntry} (paced : StepPaced options step opened journal ended)
    (instant : ∀ entry ∈ journal, entry.IsInstant) :
    ended ≤ opened +
        max 1 step.interactions.length * (step.window options + options.pollInterval - 1) ∧
      (step.window options = 0 → ended = opened) ∧
      (¬ Fits options.pollInterval (step.window options) →
        ended = opened ∨ ended < opened + step.window options + options.pollInterval) := by
  cases paced with
  | single timed paced =>
      have here := timed.in_window instant paced.inside
      have least := Nat.mul_le_mul_right (step.window options + options.pollInterval - 1)
        (Nat.le_max_left 1 step.interactions.length)
      exact ⟨by omega, fun nothing => by omega, fun _ => by omega⟩
  | several windows =>
      obtain ⟨few, still⟩ := windows.ended_le instant
      have least := Nat.mul_le_mul_right (step.window options + options.pollInterval - 1)
        (Nat.le_max_right 1 step.interactions.length)
      exact ⟨by omega, still, windows.ended_once instant⟩

theorem Executor.now_of_execute {host : Host σ} {options : RunOptions} {executor : Executor}
    {step : Step} {before after : World σ} {journal : List JournalEntry}
    {ended : Except Breakdown (Except Failure Unit × Executor)} (instant : host.Instant)
    (ran : (executor.execute options step).Runs host before journal after ended) :
    after.now ≤ before.now +
        max 1 step.interactions.length * (step.window options + options.pollInterval - 1) ∧
      (step.window options = 0 → after.now = before.now) ∧
      (¬ Fits options.pollInterval (step.window options) →
        after.now = before.now ∨
          after.now < before.now + step.window options + options.pollInterval) := by
  obtain ⟨opened, rest, outcome, rfl, opened_at, -, attempted, -⟩ := Executor.runs_execute ran
  rw [← opened_at]
  exact (Attempt.stepPaced_of_perform attempted).ended_le
    (List.forall_mem_cons.mp (ran.instant instant)).2

/-- How an element answers that is busy up to a time, and again after it was acted on. -/
def Host.react (release now : Nat) (acted : Bool) : Reply Bool (Except Error Unit) :=
  if release ≤ now ∧ acted = false then ⟨.ok (), 0, true⟩
  else ⟨.error (.webDriver "element click intercepted" "busy"), 0, acted⟩

/-- A page on which everything is found, with elements that are busy up to a time and again after one
was acted on. -/
def Host.stalling (release : Nat) : Host Bool where
  openSession _ _ acted := ⟨.ok (), 0, acted⟩
  call
    | .currentUrl, _, acted => ⟨.ok "about:blank", 0, acted⟩
    | .find _ _, _, acted => ⟨.ok [⟨"e"⟩], 0, acted⟩
    | .screenshot, _, acted => ⟨.ok ByteArray.empty, 0, acted⟩
    | .navigate _, _, acted => ⟨.ok (), 0, acted⟩
    | .close, _, acted => ⟨.ok (), 0, acted⟩
    | .click _, now, acted => react release now acted
    | .sendKeys _ _, now, acted => react release now acted
    | .clear _, now, acted => react release now acted
    | .reveal _, now, acted => react release now acted

theorem Host.instant_stalling (release : Nat) : (Host.stalling release).Instant := by
  intro call now state
  have reacts : (Host.react release now state).delay = 0 := by
    unfold Host.react
    split <;> rfl
  cases call with
  | click element => exact reacts
  | sendKeys element keys => exact reacts
  | clear element => exact reacts
  | reveal element => exact reacts
  | _ => rfl

section Stalling

variable {release : Nat} {before after : World Bool} {journal : List JournalEntry}

/-- Time and page stay as they are. -/
def World.Stays (before after : World Bool) : Prop :=
  after.now = before.now ∧ after.host = before.host

namespace Lookup

/-- Every link that has what it needs leads to the element. -/
theorem stalling_follow {subject : Option (List ElementId)} {link : Link}
    {outcome : Except Fault (List ElementId)} (unnamed : ∀ name, link ≠ .stored name)
    (led : subject = some [⟨"e"⟩] ∨ subject = none ∧ link.opens = true)
    (ran : Attempt.Runs (.stalling release) (follow subject link) before journal after outcome) :
    outcome = .ok [⟨"e"⟩] ∧ before.Stays after := by
  have ended := ran.result
  rcases led with rfl | ⟨rfl, opens⟩
  · cases link with
    | stored name => exact absurd rfl (unnamed name)
    | _ =>
        cases ended
        exact ⟨rfl, rfl, rfl⟩
  · cases link with
    | get selector =>
        cases ended
        exact ⟨rfl, rfl, rfl⟩
    | contains text =>
        cases ended
        exact ⟨rfl, rfl, rfl⟩
    | _ => cases opens

/-- Every chain that opens leads to the element. -/
theorem stalling_followAll {position : Nat} {subject : Option (List ElementId)} {chain : Chain}
    {outcome : Except Fault Lookup} (nameless : ∀ name, .stored name ∉ chain)
    (led : subject = some [⟨"e"⟩] ∨
      subject = none ∧ ∃ link rest, chain = link :: rest ∧ link.opens = true)
    (ran : Attempt.Runs (.stalling release) (followAll position subject chain) before journal after
      outcome) :
    outcome = .ok (.found [⟨"e"⟩]) ∧ before.Stays after := by
  induction chain generalizing position subject before journal with
  | nil =>
      obtain ⟨rfl, rfl, rfl⟩ := Attempt.runs_pure_iff.mp ran
      rcases led with rfl | ⟨-, _, _, impossible, -⟩
      · exact ⟨rfl, rfl, rfl⟩
      · cases impossible
  | cons link rest ih =>
      have unnamed : ∀ name, link ≠ .stored name := by
        rintro name rfl
        exact nameless name List.mem_cons_self
      have link_led : subject = some [⟨"e"⟩] ∨ subject = none ∧ link.opens = true := by
        rcases led with here | ⟨nothing, _, _, same, opens⟩
        · exact .inl here
        · cases same
          exact .inr ⟨nothing, opens⟩
      obtain ⟨_, noted_to, _, _, noted, followed, rfl⟩ := Attempt.runs_lift_bind_iff.mp ran
      obtain ⟨-, noted_now, noted_host⟩ := Program.runs_note noted
      rcases Attempt.runs_bind_iff.mp followed with ⟨fault, failed, rfl⟩ | ⟨_, middle, elements, _,
        found, continued, rfl⟩
      · cases (stalling_follow unnamed link_led failed).1
      · obtain ⟨same, stayed_now, stayed_host⟩ := stalling_follow unnamed link_led found
        cases same
        obtain ⟨ended, later_now, later_host⟩ := ih
          (fun name member => nameless name (List.mem_cons_of_mem link member)) (.inl rfl) continued
        refine ⟨ended, ?_, ?_⟩
        · rw [later_now, stayed_now, noted_now]
        · rw [later_host, stayed_host, noted_host]

end Lookup

namespace Attempt

/-- One look at a chain finds the element. -/
theorem stalling_look {timeout : Nat} {chain : Chain}
    {seen : Except (Stop Fault) (Look (List ElementId))} (grounded : chain.Grounded)
    (ran : Runs (.stalling release) (lookForPresence timeout chain).failing before journal after
      seen) : seen = .ok (.settled [⟨"e"⟩]) ∧ before.Stays after := by
  obtain ⟨sight, glanced, rfl⟩ := runs_judged ran
  obtain ⟨result, evaluated⟩ := evaluated_of_glance glanced
  obtain ⟨_, noted_to, _, _, noted, followed, rfl⟩ := runs_lift_bind_iff.mp evaluated
  obtain ⟨-, noted_now, noted_host⟩ := Program.runs_note noted
  obtain ⟨rfl, later_now, later_host⟩ := Lookup.stalling_followAll grounded.nameless
    (.inr ⟨rfl, grounded.opened⟩) followed
  obtain ⟨same, -, -⟩ := glanced.unique (runs_glance_of_evaluate evaluated)
  subst same
  exact ⟨rfl, later_now.trans noted_now, later_host.trans noted_host⟩

theorem stalling_resolve {interval timeout : Nat} {chain : Chain}
    {outcome : Except (Stop Fault) (List ElementId)} (grounded : chain.Grounded)
    (fits : Fits before.now timeout)
    (ran : Runs (.stalling release) (resolve interval timeout chain) before journal after outcome) :
    outcome = .ok [⟨"e"⟩] ∧ before.Stays after := by
  rcases polled_of_poll ran with ⟨-, polled⟩ | ⟨beyond, -⟩
  · cases polled with
    | settled looked =>
        obtain ⟨same, stayed⟩ := stalling_look grounded looked
        cases same
        exact ⟨rfl, stayed⟩
    | stopped looked => cases (stalling_look grounded looked).1
    | expired looked late => cases (stalling_look grounded looked).1
    | unending looked early still => cases (stalling_look grounded looked).1
    | again looked early paused continued => cases (stalling_look grounded looked).1
  · exact absurd fits beyond

/-- A call to act passes when the element is free. -/
theorem stalling_request (call : Call) (acts : call.acts = true)
    {outcome : Except Fault call.Answer}
    (ran : Runs (.stalling release) (request call) before journal after outcome) :
    after.now = before.now ∧ after.host = (Host.react release before.now before.host).state ∧
      (outcome.map fun _ => ()) =
        (Host.react release before.now before.host).answer.mapError .refused := by
  obtain ⟨answer, called, rfl⟩ := runs_request ran
  obtain ⟨-, rfl, same_now, same_host⟩ := Program.runs_call called
  rw [same_now, same_host, Host.instant_stalling]
  have told (answer : Except Error Unit) :
      ((answer.mapError Fault.refused).map fun _ => ()) = answer.mapError .refused := by
    cases answer <;> rfl
  cases call with
  | click element => exact ⟨rfl, rfl, told _⟩
  | sendKeys element keys => exact ⟨rfl, rfl, told _⟩
  | clear element => exact ⟨rfl, rfl, told _⟩
  | reveal element => exact ⟨rfl, rfl, told _⟩
  | _ => cases acts

/-- The act of an interaction with known keys is its call. -/
theorem stalling_act {interaction : Interaction} {element : ElementId}
    {outcome : Except Fault Unit} (checked : interaction.check = .ok ())
    (ran : Runs (.stalling release) (act interaction element) before journal after outcome) :
    after.now = before.now ∧ after.host = (Host.react release before.now before.host).state ∧
      outcome = (Host.react release before.now before.host).answer.mapError .refused := by
  have whole : (outcome.map fun _ => ()) = outcome := by cases outcome <;> rfl
  rw [← whole]
  cases interaction with
  | click => exact stalling_request (.click element) rfl ran
  | clear => exact stalling_request (.clear element) rfl ran
  | reveal => exact stalling_request (.reveal element) rfl ran
  | typeText text =>
      obtain ⟨_, noted_to, _, _, noted, typed, rfl⟩ := runs_lift_bind_iff.mp ran
      obtain ⟨-, noted_now, noted_host⟩ := Program.runs_note noted
      rw [← noted_now, ← noted_host]
      cases expanded : Text.expandKeys text with
      | error error => simp [Interaction.check, expanded] at checked
      | ok keys =>
          simp only [expanded] at typed
          exact stalling_request (.sendKeys element keys) rfl typed

/-- A try passes when the element is free, and is to be repeated otherwise. -/
theorem stalling_try {options : RunOptions} {chain : Chain} {interaction : Interaction}
    {deadline : Nat} {seen : Except (Stop Fault) (Look Unit)} (grounded : chain.Grounded)
    (checked : interaction.check = .ok ()) (fits : deadline ≤ before.now ∨ deadline < clockEnd)
    (ran : Runs (.stalling release) (tryInteraction options chain interaction deadline) before
      journal after seen) :
    after.now = before.now ∧
      if release ≤ before.now ∧ before.host = false then
        seen = .ok (.settled ()) ∧ after.host = true
      else (∃ fault, seen = .ok (.unsettled fault)) ∧ after.host = before.host := by
  obtain ⟨_, _, now, _, read, tried, rfl⟩ := runs_lift_bind_iff.mp ran
  obtain ⟨rfl, rfl, rfl⟩ := Program.runs_clock read
  rcases runs_bind_iff.mp tried with ⟨fault, resolved, rfl⟩ | ⟨_, middle, elements, _, resolved,
    continued, rfl⟩
  · cases (stalling_resolve grounded (fits_of_deadline fits) resolved).1
  · obtain ⟨same, middle_now, middle_host⟩ :=
      stalling_resolve grounded (fits_of_deadline fits) resolved
    cases same
    dsimp only at continued
    rcases runs_bind_iff.mp continued with ⟨fault, kept, rfl⟩ | ⟨_, acted, result, _, kept, judged,
      rfl⟩
    · obtain ⟨_, -, impossible⟩ := runs_outcome_iff.mp kept
      cases impossible
    · obtain ⟨_, ran_act, same⟩ := runs_outcome_iff.mp kept
      cases same
      obtain ⟨acted_now, acted_host, told⟩ := stalling_act checked ran_act
      rw [middle_now, middle_host] at acted_host told
      rw [middle_now] at acted_now
      unfold Host.react at acted_host told
      split
      next free =>
        rw [if_pos free] at acted_host told
        subst told
        obtain ⟨_, _, _, _, printed, settled, rfl⟩ := runs_lift_bind_iff.mp judged
        obtain ⟨-, printed_now, printed_host⟩ := Program.runs_printIf printed
        obtain ⟨rfl, rfl, rfl⟩ := runs_pure_iff.mp settled
        exact ⟨printed_now.trans acted_now, rfl, printed_host.trans acted_host⟩
      next busy_still =>
        rw [if_neg busy_still] at acted_host told
        subst told
        obtain ⟨rfl, rfl, rfl⟩ := runs_pure_iff.mp judged
        exact ⟨acted_now, ⟨_, rfl⟩, acted_host⟩

/-- A wait for an element ends with the time for which it is busy, and outlasts its own window when the
element stays busy. -/
theorem stalling_polled {options : RunOptions} {chain : Chain} {interaction : Interaction}
    {interval deadline : Nat} {outcome : Except (Stop Fault) Unit} (positive : 0 < interval)
    (grounded : chain.Grounded) (checked : interaction.check = .ok ()) (soon : release ≤ deadline)
    (fits : deadline ≤ before.now ∨ deadline < clockEnd)
    (polled : Polled (.stalling release) interval deadline
      (tryInteraction options chain interaction deadline) before journal after outcome) :
    (before.host = false → outcome = .ok () ∧ after.host = true ∧ release ≤ after.now ∧
      (after.now = before.now ∨ after.now < release + interval)) ∧
      (before.host = true → deadline ≤ after.now) := by
  induction polled with
  | @settled before after journal value looked =>
      obtain ⟨same_now, told⟩ := stalling_try grounded checked fits looked
      split at told
      next free =>
        exact ⟨fun _ => ⟨rfl, told.2, by omega, .inl same_now⟩, fun acted => by simp [acted] at free⟩
      next busy_still =>
        obtain ⟨⟨fault, impossible⟩, -⟩ := told
        cases impossible
  | stopped looked =>
      obtain ⟨-, told⟩ := stalling_try grounded checked fits looked
      split at told
      · cases told.1
      · obtain ⟨⟨fault, impossible⟩, -⟩ := told
        cases impossible
  | @expired before after journal fault looked late =>
      obtain ⟨same_now, told⟩ := stalling_try grounded checked fits looked
      split at told
      · cases told.1
      next busy_still =>
        exact ⟨fun free => absurd ⟨by omega, free⟩ busy_still, fun _ => by omega⟩
  | unending looked early still => omega
  | @again before middle resumed after journal waited rest fault outcome looked early paused
      continued ih =>
      obtain ⟨same_now, told⟩ := stalling_try grounded checked fits looked
      have resumed_at := (Program.runs_pause paused).2.1
      have resumed_host := (Program.runs_pause paused).2.2
      split at told
      · cases told.1
      next busy_still =>
        have same_host : resumed.host = before.host := resumed_host.trans told.2
        obtain ⟨passes, in_vain⟩ := ih (by omega)
        rw [same_host] at passes in_vain
        refine ⟨fun free => ?_, in_vain⟩
        obtain ⟨passed, acted, late, prompt⟩ := passes free
        have busy_before : ¬ release ≤ before.now := fun released => busy_still ⟨released, free⟩
        exact ⟨passed, acted, late, .inr (by omega)⟩

/-- An interaction opens its window where it begins. -/
theorem stalling_interact {options : RunOptions} {chain : Chain} {interaction : Interaction}
    {timeout : Nat} {outcome : Except (Stop Fault) Unit} (positive : 0 < options.pollInterval)
    (grounded : chain.Grounded) (checked : interaction.check = .ok ())
    (soon : release ≤ before.now + timeout) (fits : Fits before.now timeout)
    (ran : Runs (.stalling release) (interact options timeout chain interaction) before journal
      after outcome) :
    (before.host = false → outcome = .ok () ∧ after.host = true ∧ release ≤ after.now ∧
      (after.now = before.now ∨ after.now < release + options.pollInterval)) ∧
      (before.host = true → before.now + timeout ≤ after.now) := by
  obtain ⟨_, opened, _, _, noted, polling, rfl⟩ := runs_lift_bind_iff.mp ran
  obtain ⟨-, opened_at, opened_on⟩ := Program.runs_note noted
  rw [← opened_at] at soon fits
  rw [← opened_at, ← opened_on]
  rcases polled_of_poll polling with ⟨-, polled⟩ | ⟨beyond, -⟩
  · refine stalling_polled positive grounded checked soon ?_ polled
    unfold Fits at fits
    omega
  · exact absurd fits beyond

/-- Two interactions take an interval and a window on a page that is busy at first. -/
theorem stalling_forM {options : RunOptions} {chain : Chain} {first second : Interaction}
    {rest : List Interaction} {timeout : Nat} {outcome : Except (Stop Fault) Unit}
    (positive : 0 < options.pollInterval) (lasting : 0 < timeout)
    (fits : Fits options.pollInterval timeout) (grounded : chain.Grounded)
    (first_checked : first.check = .ok ()) (second_checked : second.check = .ok ())
    (begun : before.now = 0) (free : before.host = false)
    (ran : Runs (.stalling 1) ((first :: second :: rest).forM (interact options timeout chain))
      before journal after outcome) : options.pollInterval + timeout ≤ after.now := by
  have soon : 1 ≤ before.now + timeout := by omega
  have first_fits : Fits before.now timeout := by
    unfold Fits at fits ⊢
    omega
  rcases runs_bind_iff.mp ran with ⟨stop, failed, -⟩ | ⟨_, middle, _, _, passed, continued, rfl⟩
  · cases ((stalling_interact positive grounded first_checked soon first_fits failed).1 free).1
  · obtain ⟨-, acted, late, prompt⟩ :=
      (stalling_interact positive grounded first_checked soon first_fits passed).1 free
    obtain ⟨window, rfl, timed, -, paced⟩ := paced_of_interact passed
    have instant := (List.forall_mem_cons.mp (passed.instant (Host.instant_stalling 1))).2
    have moved := timed.in_window instant paced.inside
    -- the first interaction is done after one interval
    have paused : middle.now = options.pollInterval := by omega
    rw [← paused] at fits ⊢
    have soon : 1 ≤ middle.now + timeout := by omega
    rcases runs_bind_iff.mp continued with ⟨stop, failed, -⟩ | ⟨_, last, _, _, second_passed, others,
      rfl⟩
    · exact (stalling_interact positive grounded second_checked soon fits failed).2 acted
    · have until_then := (stalling_interact positive grounded second_checked soon fits
        second_passed).2 acted
      exact Nat.le_trans until_then others.timed.le

end Attempt

end Stalling

/-- The world when an execution has come to its end. -/
def Executor.worldAfter (host : Host σ) (options : RunOptions) (executor : Executor) (step : Step)
    (before : World σ) : World σ :=
  (Program.run host (executor.execute options step).run before).2

/-- A step with two interactions outlasts its window on a page that is busy at first and again after the
first of them, where the clock shows the end of the second window. -/
theorem Executor.outlasts_window {options : RunOptions} {known : List String} {executor : Executor}
    {step : Step} (positive : 0 < options.pollInterval) (prepared : executor.Prepared known)
    (checked : step.check known = .ok ()) (many : 1 < step.interactions.length)
    (lasting : 0 < step.window options) (fits : Fits options.pollInterval (step.window options)) :
    options.pollInterval + step.window options ≤
      (executor.worldAfter (.stalling 1) options step (World.start false [])).now := by
  have ran := Program.runs_run (.stalling 1) (executor.execute options step).run
    (World.start false [])
  obtain ⟨opened, rest, outcome, -, opened_at, opened_on, attempted, -⟩ :=
    Executor.runs_execute ran
  have begun : opened.now = 0 := opened_at
  cases step with
  | interact target interactions timeout =>
      rcases Attempt.runs_expand_bind attempted with ⟨fault, unknown, -⟩ | ⟨chain, expanded, tried⟩
      · exact absurd unknown (Step.expand_ne_error prepared.remembers checked rfl fault)
      · have grounded : chain.Grounded :=
          Step.grounded_of_expand prepared.remembers checked rfl expanded
        obtain ⟨nonempty, keys_known⟩ := Step.check_interactions checked
        obtain ⟨result, interacted, -⟩ := Attempt.runs_bind_pure tried
        cases interactions with
        | nil => exact absurd rfl nonempty
        | cons first others =>
            cases others with
            | nil => exact absurd many (Nat.lt_irrefl 1)
            | cons second others =>
                exact Attempt.stalling_forM positive lasting fits grounded
                  (keys_known first List.mem_cons_self)
                  (keys_known second (List.mem_cons_of_mem _ List.mem_cons_self)) begun opened_on
                  interacted
  | _ => exact absurd many (Nat.not_lt_zero 1)

/-- Exactly when a step stays inside its window on every browser that answers at once: when it has
one interaction at most, or no time to wait at all, or when the clock cannot close a second window. Each
further interaction may take a window and an interval more. -/
theorem Executor.within_window_iff {options : RunOptions} {known : List String}
    {executor : Executor} {step : Step} (positive : 0 < options.pollInterval)
    (prepared : executor.Prepared known) (checked : step.check known = .ok ()) :
    ((∀ (σ : Type) (host : Host σ) (before : World σ), host.Instant →
        (executor.worldAfter host options step before).now <
          before.now + step.window options + options.pollInterval) ↔
      step.interactions.length ≤ 1 ∨ step.window options = 0 ∨
        ¬ Fits options.pollInterval (step.window options)) ∧
    ∀ (σ : Type) (host : Host σ) (before : World σ), host.Instant →
      (executor.worldAfter host options step before).now ≤
        before.now +
          max 1 step.interactions.length * (step.window options + options.pollInterval - 1) := by
  have taken (σ : Type) (host : Host σ) (before : World σ) (instant : host.Instant) :=
    Executor.now_of_execute instant
      (Program.runs_run host (executor.execute options step).run before)
  refine ⟨⟨fun stays => ?_, fun few σ host before instant => ?_⟩,
    fun σ host before instant => (taken σ host before instant).1⟩
  · by_contra otherwise
    obtain ⟨many, lasts⟩ := not_or.mp otherwise
    obtain ⟨lasting, fits⟩ := not_or.mp lasts
    have late := outlasts_window positive prepared checked (Nat.lt_of_not_le many)
      (Nat.pos_of_ne_zero lasting) (not_not.mp fits)
    have early := stays Bool (.stalling 1) (World.start false []) (Host.instant_stalling 1)
    rw [show (World.start false []).now = 0 from rfl, Nat.zero_add] at early
    omega
  · obtain ⟨most, still, once⟩ := taken σ host before instant
    unfold worldAfter
    rcases few with one | nothing | beyond
    · rw [Nat.max_eq_left one, Nat.one_mul] at most
      omega
    · have same := still nothing
      omega
    · have ended := once beyond
      omega

/-- A step with one click takes a window on a page that lets nobody click. -/
theorem Executor.within_window_iff_obstinate :
    0 < RunOptions.plain.pollInterval ∧ Host.obstinate.Instant ∧
      (Executor.start.worldAfter Host.obstinate .plain (.interact [.get ".a"] [.click] none)
        (World.start () [])).now < 0 + 300 + 100 := by
  have positive : 0 < RunOptions.plain.pollInterval := by decide
  have instant : Host.obstinate.Instant := fun _ _ _ => rfl
  have checked : (Step.interact [.get ".a"] [.click] none).check [] = .ok () := by rfl
  exact ⟨positive, instant, (Executor.within_window_iff positive .start checked).1.mpr
    (.inl (Nat.le_refl 1)) Unit Host.obstinate (World.start () []) instant⟩

/-- A checked step with two clicks and a window of 300 milliseconds ends after 500. -/
theorem Executor.outlasts_window_stalling :
    (Step.interact [.get ".a"] [.click, .click] (some 300)).check [] = .ok () ∧
      (Host.stalling 200).Instant ∧
      ¬ (Executor.start.worldAfter (.stalling 200) .plain
        (.interact [.get ".a"] [.click, .click] (some 300)) (World.start false [])).now <
          0 + 300 + RunOptions.plain.pollInterval := by
  have taken : (Executor.start.worldAfter (.stalling 200) .plain
      (.interact [.get ".a"] [.click, .click] (some 300)) (World.start false [])).now = 500 := by
    rfl
  rw [taken]
  exact ⟨by rfl, Host.instant_stalling 200, by decide⟩

end ScenarioRunner
