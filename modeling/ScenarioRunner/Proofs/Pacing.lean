import ScenarioRunner.Proofs.Progress

/-!
The pace of a step. In each of its windows a step tries something, pauses and tries again, and no
pause starts when the window is over.
-/

namespace ScenarioRunner

variable {σ α : Type} {host : Host σ}

/-- What a step does again and again until it succeeds. -/
inductive Trial where
  | lookup
  | address
  | act
deriving DecidableEq, Repr

/-- The entry at which a trial of a kind begins. -/
def JournalEntry.begins : Trial → JournalEntry → Bool
  | .lookup, .event _ (.lookupBegan _) => true
  | .address, .call _ _ .currentUrl _ => true
  | .act, .call _ _ asked _ => asked.acts
  | _, _ => false

/-- How many trials of a kind there are in a journal. -/
def trials (kind : Trial) (journal : List JournalEntry) : Nat :=
  journal.countP (·.begins kind)

@[simp] theorem trials_nil (kind : Trial) : trials kind [] = 0 := rfl

@[simp] theorem trials_append (kind : Trial) (first second : List JournalEntry) :
    trials kind (first ++ second) = trials kind first + trials kind second :=
  List.countP_append

theorem trials_cons (kind : Trial) (entry : JournalEntry) (rest : List JournalEntry) :
    trials kind (entry :: rest) = trials kind rest + if entry.begins kind then 1 else 0 :=
  List.countP_cons

theorem trials_eq_zero {kind : Trial} {journal : List JournalEntry}
    (idle : ∀ entry ∈ journal, entry.begins kind = false) : trials kind journal = 0 := by
  refine List.countP_eq_zero.mpr fun entry member => ?_
  rw [idle entry member]
  exact Bool.false_ne_true

/-- How often a journal pauses. -/
def pauses (journal : List JournalEntry) : Nat :=
  journal.countP fun
    | .pause _ _ => true
    | _ => false

@[simp] theorem pauses_nil : pauses [] = 0 := rfl

@[simp] theorem pauses_append (first second : List JournalEntry) :
    pauses (first ++ second) = pauses first + pauses second :=
  List.countP_append

@[simp] theorem pauses_pause (started duration : Nat) (rest : List JournalEntry) :
    pauses (.pause started duration :: rest) = pauses rest + 1 :=
  List.countP_cons_of_pos rfl

@[simp] theorem pauses_call (started finished : Nat) (call : Call) (outcome : call.Outcome)
    (rest : List JournalEntry) :
    pauses (.call started finished call outcome :: rest) = pauses rest :=
  List.countP_cons_of_neg Bool.false_ne_true

@[simp] theorem pauses_event (time : Nat) (event : Event) (rest : List JournalEntry) :
    pauses (.event time event :: rest) = pauses rest :=
  List.countP_cons_of_neg Bool.false_ne_true

/-- Calls that end a run and not a step. -/
def Call.parts : Call → Bool
  | .screenshot => true
  | .close => true
  | _ => false

/-- An entry of a window that is over at the deadline. No step takes screenshots, closes sessions or
opens them, and only before the deadline a pause starts. -/
def JournalEntry.InWindow (interval deadline : Nat) : JournalEntry → Prop
  | .session _ _ _ => False
  | .call _ _ asked _ => asked.parts = false
  | .pause started duration => started < deadline ∧ duration = interval
  | .event _ (.stepBegan _ _ _) => False
  | .event _ (.interactionBegan _) => False
  | .event _ _ => True

/-- A journal that keeps its pace: it lies in the window, and between two trials of a kind there is a
pause. -/
structure Paced (interval deadline : Nat) (journal : List JournalEntry) : Prop where
  inside : ∀ entry ∈ journal, entry.InWindow interval deadline
  spaced : ∀ kind, trials kind journal ≤ pauses journal + 1

theorem Paced.nil (interval deadline : Nat) : Paced interval deadline [] :=
  ⟨by simp, fun _ => Nat.zero_le _⟩

/-- A wait keeps its pace when each of its looks does. -/
theorem Polled.paced {interval expiry deadline : Nat} {look : Attempt (Stop Fault) (Look α)}
    {before after : World σ} {journal : List JournalEntry} {outcome : Except (Stop Fault) α}
    (polled : Polled host interval expiry look before journal after outcome)
    (looks : ∀ ⦃start journal finish seen⦄, before.now ≤ start.now →
      Attempt.Runs host look start journal finish seen → Paced interval deadline journal)
    (early : ∀ time, before.now ≤ time → time < expiry → time < deadline) :
    Paced interval deadline journal := by
  induction polled with
  | settled looked => exact looks (Nat.le_refl _) looked
  | stopped looked => exact looks (Nat.le_refl _) looked
  | expired looked late => exact looks (Nat.le_refl _) looked
  | unending looked open_still still => exact looks (Nat.le_refl _) looked
  | @again before middle resumed after journal waited rest fault outcome looked open_still paused
      continued ih =>
      have looked_from := looked.timed.le
      obtain ⟨rfl, resumed_at, -⟩ := Program.runs_pause paused
      have later : before.now ≤ resumed.now := by omega
      obtain ⟨inside, spaced⟩ := looks (Nat.le_refl _) looked
      obtain ⟨rest_inside, rest_spaced⟩ :=
        ih (fun start journal finish seen started => looks (Nat.le_trans later started))
          fun time started => early time (Nat.le_trans later started)
      have pause_inside : (JournalEntry.pause middle.now interval).InWindow interval deadline :=
        ⟨early _ looked_from open_still, rfl⟩
      refine ⟨?_, fun kind => ?_⟩
      · exact List.forall_mem_append.mpr
          ⟨inside, List.forall_mem_cons.mpr ⟨pause_inside, rest_inside⟩⟩
      · have first := spaced kind
        have others := rest_spaced kind
        have nothing_tried : trials kind [.pause middle.now interval] = 0 := by
          cases kind <;> rfl
        simp only [trials_append, pauses_append, nothing_tried, pauses_pause, pauses_nil]
        omega

theorem JournalEntry.inWindow_of_follows {chain : Chain} {entry : JournalEntry}
    (interval deadline : Nat) (looks : entry.Looks (chain.NotedFrom none)) :
    entry.InWindow interval deadline := by
  cases entry with
  | call started finished asked outcome =>
      cases asked with
      | find locator scope => rfl
      | _ => exact looks.elim
  | event time event =>
      cases event with
      | linkFollowed subject link => trivial
      | _ => exact looks.elim
  | _ => exact looks.elim

/-- To follow a chain is no trial by itself. -/
theorem JournalEntry.not_begins_of_follows {chain : Chain} {entry : JournalEntry} (kind : Trial)
    (looks : entry.Looks (chain.NotedFrom none)) : entry.begins kind = false := by
  cases entry with
  | call started finished asked outcome =>
      cases asked with
      | find locator scope => cases kind <;> rfl
      | _ => exact looks.elim
  | event time event =>
      cases event with
      | linkFollowed subject link => cases kind <;> rfl
      | _ => exact looks.elim
  | _ => exact looks.elim

/-- What a glance keeps of a lookup: how far it came, or the refusal that may pass. -/
def Lookup.glimpsed : Except Fault Lookup → Except Fault (Except Error Lookup)
  | .ok lookup => .ok (.ok lookup)
  | .error (.refused error) =>
    if error.isTransient then .ok (.error error) else .error (.refused error)
  | .error fault => .error fault

namespace Attempt

/-- A glance is a lookup and what it keeps of it. -/
theorem glimpsed_of_glance {chain : Chain} {before after : World σ} {journal : List JournalEntry}
    {outcome : Except Fault (Except Error Lookup)}
    (ran : Runs host (glance chain) before journal after outcome) :
    ∃ result, Runs host (Lookup.evaluate chain) before journal after result ∧
      outcome = Lookup.glimpsed result := by
  rcases runs_bind_iff.mp ran with ⟨fault, kept, rfl⟩ | ⟨first, middle, result, rest, kept, judged,
    rfl⟩
  · obtain ⟨_, -, impossible⟩ := runs_outcome_iff.mp kept
    cases impossible
  · obtain ⟨_, evaluated, same⟩ := runs_outcome_iff.mp kept
    cases same
    have silent : outcome = Lookup.glimpsed result ∧ after = middle ∧ rest = [] := by
      cases result with
      | ok lookup => exact runs_pure_iff.mp judged
      | error fault =>
          cases fault with
          | refused error =>
              dsimp only [Lookup.glimpsed] at judged ⊢
              split at judged
              next passes =>
                rw [if_pos passes]
                exact runs_pure_iff.mp judged
              next halting =>
                rw [if_neg halting]
                exact runs_throw_iff.mp judged
          | _ => exact runs_throw_iff.mp judged
    obtain ⟨rfl, rfl, rfl⟩ := silent
    rw [List.append_nil]
    exact ⟨result, evaluated, rfl⟩

/-- A glance makes the calls of its lookup. -/
theorem evaluated_of_glance {chain : Chain} {before after : World σ} {journal : List JournalEntry}
    {outcome : Except Fault (Except Error Lookup)}
    (ran : Runs host (glance chain) before journal after outcome) :
    ∃ result, Runs host (Lookup.evaluate chain) before journal after result := by
  obtain ⟨result, evaluated, -⟩ := glimpsed_of_glance ran
  exact ⟨result, evaluated⟩

/-- A lookup is noted once, where it begins. -/
theorem paced_of_glance {chain : Chain} {before after : World σ} {journal : List JournalEntry}
    {outcome : Except Fault (Except Error Lookup)} (interval deadline : Nat)
    (ran : Runs host (glance chain) before journal after outcome) :
    Paced interval deadline journal := by
  obtain ⟨result, evaluated⟩ := evaluated_of_glance ran
  obtain ⟨_, _, _, rest, noted, followed, rfl⟩ := runs_lift_bind_iff.mp evaluated
  obtain ⟨rfl, -, -⟩ := Program.runs_note noted
  obtain ⟨looks, -⟩ := Lookup.looksFor_followAll 0 none chain followed
  have inside : ∀ entry ∈ rest, entry.InWindow interval deadline := fun entry member =>
    JournalEntry.inWindow_of_follows interval deadline (looks entry member)
  have idle (kind : Trial) : trials kind rest = 0 :=
    trials_eq_zero fun entry member => JournalEntry.not_begins_of_follows kind (looks entry member)
  refine ⟨List.forall_mem_cons.mpr ⟨trivial, inside⟩, fun kind => ?_⟩
  rw [trials_append, idle]
  cases kind <;> simp [trials_cons, JournalEntry.begins]

/-- A look at the address is one call. -/
theorem paced_of_lookAtUrl {timeout : Nat} {fragment : String} {before after : World σ}
    {journal : List JournalEntry} {outcome : Except (Stop Fault) (Look Unit)}
    (interval deadline : Nat)
    (ran : Runs host (lookAtUrl timeout fragment).failing before journal after outcome) :
    Paced interval deadline journal := by
  obtain ⟨answer, rfl, -, -⟩ := runs_lookAtUrl ran
  refine ⟨List.forall_mem_singleton.mpr rfl, fun kind => ?_⟩
  cases kind <;> simp [trials_cons, JournalEntry.begins, Call.acts]

theorem paced_of_waitUrl {interval timeout : Nat} {fragment : String} {before after : World σ}
    {journal : List JournalEntry} {outcome : Except (Stop Fault) Unit}
    (ran : Runs host (waitUrl interval timeout fragment) before journal after outcome) :
    Paced interval (before.now + timeout) journal := by
  rcases polled_of_poll ran with ⟨-, polled⟩ | ⟨-, rfl, -, -⟩
  · exact polled.paced (fun _ _ _ _ _ looked => paced_of_lookAtUrl interval _ looked)
      fun _ _ early => early
  · exact .nil _ _

/-- Waiting for a chain keeps its pace up to any deadline that its own window does not outlast. -/
theorem paced_of_poll {judge : Except Error Lookup → Look α} {interval timeout : Nat}
    {chain : Chain} {before after : World σ} {journal : List JournalEntry}
    {outcome : Except (Stop Fault) α} {deadline : Nat}
    (early : ∀ time, before.now ≤ time → time < before.now + timeout → time < deadline)
    (ran : Runs host (poll interval timeout fun _ => (judge <$> glance chain).failing) before
      journal after outcome) : Paced interval deadline journal := by
  rcases polled_of_poll ran with ⟨-, polled⟩ | ⟨-, rfl, -, -⟩
  · refine polled.paced ?_ early
    intro start journal finish seen _ looked
    obtain ⟨result, glanced, -⟩ := runs_judged looked
    exact paced_of_glance interval deadline glanced
  · exact .nil _ _

end Attempt

/-- Waiting for a chain neither acts nor reads the address. -/
theorem JournalEntry.Waits.not_begins {chain : Chain} {entry : JournalEntry} {kind : Trial}
    (other : kind ≠ .lookup) (busy : entry.Looks chain.Noted ∨ entry.IsPause) :
    entry.begins kind = false := by
  cases kind with
  | lookup => exact absurd rfl other
  | address =>
      cases entry with
      | call started finished asked outcome =>
          cases asked with
          | find locator scope => rfl
          | _ => exact (busy.elim id id).elim
      | _ => rfl
  | act =>
      cases entry with
      | call started finished asked outcome =>
          cases asked with
          | find locator scope => rfl
          | _ => exact (busy.elim id id).elim
      | _ => rfl

theorem ChainWindow.trials_eq_zero {judge : Except Error Lookup → Look α}
    {timeout opened ended : Nat} {chain : Chain} {journal : List JournalEntry}
    {outcome : Except (Stop Fault) α} {kind : Trial} (other : kind ≠ .lookup)
    (window : ChainWindow judge timeout opened ended chain journal outcome) :
    trials kind journal = 0 := by
  cases window with
  | closed waits timed looked =>
      refine ScenarioRunner.trials_eq_zero (List.forall_mem_append.mpr ⟨?_, ?_⟩)
      · exact fun entry member => JournalEntry.Waits.not_begins other (waits entry member).idle
      · exact fun entry member =>
          JournalEntry.Waits.not_begins other (.inl (looked.looking entry member))
  | broken waits =>
      exact ScenarioRunner.trials_eq_zero fun entry member =>
        JournalEntry.Waits.not_begins other (waits entry member).idle

/-- To act is to call. -/
theorem trials_act (journal : List JournalEntry) :
    trials .act journal = (calls journal).countP (·.call.acts) := by
  induction journal with
  | nil => rfl
  | cons entry rest ih =>
      rw [trials_cons, ih]
      cases entry with
      | call started finished asked outcome => rw [calls_call, List.countP_cons]; rfl
      | session started request outcome => rfl
      | pause started duration => rfl
      | event time event => rfl

theorem JournalEntry.IsAct.inWindow {entry : JournalEntry} (interval deadline : Nat)
    (act : entry.IsAct)
    (acting : ∀ record, entry.call? = some record → record.call.acts = true) :
    entry.InWindow interval deadline := by
  cases entry with
  | call started finished asked outcome =>
      have acts := acting _ rfl
      cases asked with
      | screenshot => cases acts
      | close => cases acts
      | _ => rfl
  | event time event =>
      cases event with
      | typingBegan text => trivial
      | _ => exact act.elim
  | _ => exact act.elim

/-- What is done to an element neither looks it up nor reads the address. -/
theorem JournalEntry.IsAct.not_begins {entry : JournalEntry} {kind : Trial} (other : kind ≠ .act)
    (act : entry.IsAct)
    (acting : ∀ record, entry.call? = some record → record.call.acts = true) :
    entry.begins kind = false := by
  cases entry with
  | call started finished asked outcome =>
      have acts := acting _ rfl
      cases kind with
      | act => exact absurd rfl other
      | lookup => rfl
      | address => cases asked <;> first | rfl | cases acts
  | event time event =>
      cases event with
      | typingBegan text => cases kind <;> rfl
      | _ => exact act.elim
  | _ => exact act.elim

/-- An act is one trial. -/
theorem Acted.paced {interaction : Interaction} {element : ElementId}
    {journal : List JournalEntry} {outcome : Except Fault Unit} (interval deadline : Nat)
    (acted : Acted interaction element journal outcome) :
    (∀ entry ∈ journal, entry.InWindow interval deadline) ∧ trials .act journal ≤ 1 ∧
      ∀ kind, kind ≠ .act → trials kind journal = 0 := by
  have called_once {record : CallRecord} (acts : ∀ entry ∈ journal, entry.IsAct)
      (called : calls journal = [record]) (meant : interaction.call element = .ok record.call) :
      (∀ entry ∈ journal, entry.InWindow interval deadline) ∧ trials .act journal ≤ 1 ∧
        ∀ kind, kind ≠ .act → trials kind journal = 0 := by
    have acting : ∀ entry ∈ journal, ∀ other, entry.call? = some other →
        other.call.acts = true := by
      intro entry member other recorded
      have listed : other ∈ calls journal := mem_calls_iff.mpr ⟨entry, member, recorded⟩
      rw [called, List.mem_singleton] at listed
      subst listed
      exact Interaction.acts_of_call meant
    refine ⟨fun entry member => ?_, ?_, fun kind other => trials_eq_zero fun entry member => ?_⟩
    · exact (acts entry member).inWindow interval deadline (acting entry member)
    · rw [trials_act, called]
      exact List.countP_le_length
    · exact (acts entry member).not_begins other (acting entry member)
  cases acted with
  | granted acts called meant granted => exact called_once acts called meant
  | refused acts called meant refused => exact called_once acts called meant
  | badKeys typed unknown =>
      refine ⟨List.forall_mem_singleton.mpr trivial, Nat.zero_le _, fun kind other => ?_⟩
      cases kind <;> rfl

namespace Attempt

/-- A try to interact resolves its chain in the rest of the window and acts once. -/
theorem paced_of_tryInteraction {options : RunOptions} {chain : Chain} {interaction : Interaction}
    {deadline : Nat} {before after : World σ} {journal : List JournalEntry}
    {outcome : Except (Stop Fault) (Look Unit)}
    (ran : Runs host (tryInteraction options chain interaction deadline) before journal after
      outcome) : Paced options.pollInterval deadline journal := by
  obtain ⟨found, middle, resolved, acted, rfl, ran_resolve, -, tried⟩ := tried_of_runs ran
  obtain ⟨inside, spaced⟩ : Paced options.pollInterval deadline found :=
    paced_of_poll (fun time started early => by omega) ran_resolve
  have only_lookups {kind : Trial} (other : kind ≠ .lookup) : trials kind found = 0 :=
    (chainWindow_of_resolve ran_resolve).trials_eq_zero other
  have acts : (∀ entry ∈ acted, entry.InWindow options.pollInterval deadline) ∧
      trials .act acted ≤ 1 ∧ ∀ kind, kind ≠ .act → trials kind acted = 0 := by
    cases tried with
    | unresolved => exact ⟨by simp, Nat.zero_le _, fun _ _ => rfl⟩
    | nothing => exact ⟨by simp, Nat.zero_le _, fun _ _ => rfl⟩
    | acted done judged => exact done.paced options.pollInterval deadline
  obtain ⟨acted_inside, acted_once, acted_only⟩ := acts
  refine ⟨List.forall_mem_append.mpr ⟨inside, acted_inside⟩, fun kind => ?_⟩
  rw [trials_append, pauses_append]
  by_cases acting : kind = .act
  · subst acting
    have nothing_done : trials .act found = 0 := only_lookups (by decide)
    omega
  · have looked := spaced kind
    have no_act := acted_only kind acting
    omega

/-- All tries of an interaction share one window, which opens with the interaction. In a window that the
clock cannot close nothing is tried. -/
theorem paced_of_interact {options : RunOptions} {timeout : Nat} {chain : Chain}
    {interaction : Interaction} {before after : World σ} {journal : List JournalEntry}
    {outcome : Except (Stop Fault) Unit}
    (ran : Runs host (interact options timeout chain interaction) before journal after outcome) :
    ∃ window, journal = .event before.now (.interactionBegan interaction) :: window ∧
      Timed before.now window after.now ∧ (Fits before.now timeout ∨ window = []) ∧
      Paced options.pollInterval (before.now + timeout) window := by
  obtain ⟨_, opened, _, window, noted, polled, rfl⟩ := runs_lift_bind_iff.mp ran
  obtain ⟨rfl, opened_at, -⟩ := Program.runs_note noted
  have timed := polled.timed
  have kept : (Fits opened.now timeout ∨ window = []) ∧
      Paced options.pollInterval (opened.now + timeout) window := by
    rcases polled_of_poll polled with ⟨fits, tries⟩ | ⟨-, rfl, -, -⟩
    · exact ⟨.inl fits, tries.paced (fun _ _ _ _ _ tried => paced_of_tryInteraction tried)
        fun _ _ early => early⟩
    · exact ⟨.inr rfl, .nil _ _⟩
  rw [opened_at] at timed kept
  exact ⟨window, rfl, timed, kept⟩

end Attempt

/-- The windows of the interactions of a step, up to the last that is tried. -/
inductive InteractionsPaced (interval timeout : Nat) :
    Nat → List Interaction → List JournalEntry → Nat → Prop where
  | ended (now : Nat) (left : List Interaction) : InteractionsPaced interval timeout now left [] now
  | window {opened middle last : Nat} {interaction : Interaction} {rest : List Interaction}
      {window journal : List JournalEntry} (timed : Timed opened window middle)
      (fits : Fits opened timeout ∨ window = [])
      (paced : Paced interval (opened + timeout) window)
      (continued : InteractionsPaced interval timeout middle rest journal last) :
      InteractionsPaced interval timeout opened (interaction :: rest)
        (.event opened (.interactionBegan interaction) :: (window ++ journal)) last

theorem Attempt.interactionsPaced_of_forM {options : RunOptions} {timeout : Nat} {chain : Chain}
    {interactions : List Interaction} {before after : World σ} {journal : List JournalEntry}
    {outcome : Except (Stop Fault) Unit}
    (ran : Runs host (interactions.forM (interact options timeout chain)) before journal after
      outcome) :
    InteractionsPaced options.pollInterval timeout before.now interactions journal after.now := by
  induction interactions generalizing before journal with
  | nil =>
      obtain ⟨rfl, rfl, rfl⟩ := runs_pure_iff.mp ran
      exact .ended _ _
  | cons interaction rest ih =>
      rcases runs_bind_iff.mp ran with ⟨fault, first, rfl⟩ | ⟨_, _, value, _, first, continued, rfl⟩
      · obtain ⟨window, rfl, timed, fits, paced⟩ := paced_of_interact first
        rw [← List.append_nil window]
        exact .window timed fits paced (.ended _ _)
      · obtain ⟨window, rfl, timed, fits, paced⟩ := paced_of_interact first
        exact .window timed fits paced (ih continued)

/-- The interactions of a step. -/
def Step.interactions : Step → List Interaction
  | .interact _ interactions _ => interactions
  | _ => []

/-- The windows of a step: one, or one for each of its interactions. -/
inductive StepPaced (options : RunOptions) (step : Step) (opened : Nat) :
    List JournalEntry → Nat → Prop where
  | single {journal : List JournalEntry} {ended : Nat} (timed : Timed opened journal ended)
      (paced : Paced options.pollInterval (opened + step.window options) journal) :
      StepPaced options step opened journal ended
  | several {journal : List JournalEntry} {ended : Nat}
      (windows : InteractionsPaced options.pollInterval (step.window options) opened
        step.interactions journal ended) :
      StepPaced options step opened journal ended

theorem Attempt.stepPaced_of_perform {options : RunOptions} {stored : StoredChains} {step : Step}
    {before after : World σ} {journal : List JournalEntry}
    {outcome : Except (Stop Fault) StoredChains}
    (ran : Runs host (perform options stored step) before journal after outcome) :
    StepPaced options step before.now journal after.now := by
  have timed := ran.timed
  cases step with
  | navigate url =>
      obtain ⟨result, called, -⟩ := runs_bind_pure ran
      obtain ⟨_, requested, -⟩ := runs_failing_iff.mp called
      obtain ⟨answer, asked, -⟩ := runs_request requested
      obtain ⟨rfl, -, -, -⟩ := Program.runs_call asked
      refine .single timed ⟨List.forall_mem_singleton.mpr rfl, fun kind => ?_⟩
      cases kind <;> simp [trials_cons, JournalEntry.begins, Call.acts]
  | locate target storeAs timeout =>
      rcases runs_expand_bind ran with ⟨fault, unknown, rfl, rfl⟩ | ⟨chain, expanded, sought⟩
      · exact .single timed (.nil _ _)
      · rcases runs_bind_iff.mp sought with ⟨fault, resolved, rfl⟩ | ⟨first, middle, elements, _,
          resolved, rest, rfl⟩
        · exact .single timed (paced_of_poll (fun _ _ early => early) resolved)
        · obtain ⟨_, _, _, last, printed, kept, rfl⟩ := runs_lift_bind_iff.mp rest
          obtain ⟨rfl, -, -⟩ := Program.runs_printIf printed
          obtain rfl : last = [] := by
            cases storeAs with
            | none => exact (runs_pure_iff.mp kept).2.2
            | some name => exact (runs_pure_iff.mp kept).2.2
          simp only [List.append_nil] at timed ⊢
          exact .single timed (paced_of_poll (fun _ _ early => early) resolved)
  | interact target interactions timeout =>
      rcases runs_expand_bind ran with ⟨fault, unknown, rfl, rfl⟩ | ⟨chain, expanded, windows⟩
      · exact .single timed (.nil _ _)
      · obtain ⟨result, interacted, rfl⟩ := runs_bind_pure windows
        exact .several (interactionsPaced_of_forM interacted)
  | assertPresent target timeout =>
      rcases runs_expand_bind ran with ⟨fault, unknown, rfl, rfl⟩ | ⟨chain, expanded, sought⟩
      · exact .single timed (.nil _ _)
      · obtain ⟨result, resolved, rfl⟩ := runs_bind_pure sought
        exact .single timed (paced_of_poll (fun _ _ early => early) resolved)
  | assertAbsent target timeout =>
      rcases runs_expand_bind ran with ⟨fault, unknown, rfl, rfl⟩ | ⟨chain, expanded, waited⟩
      · exact .single timed (.nil _ _)
      · obtain ⟨result, vanished, rfl⟩ := runs_bind_pure waited
        exact .single timed (paced_of_poll (fun _ _ early => early) vanished)
  | assertUrlContains fragment timeout =>
      obtain ⟨result, waited, rfl⟩ := runs_bind_pure ran
      exact .single timed (paced_of_waitUrl waited)

end ScenarioRunner
