import ScenarioRunner.Proofs.Breaking

/-!
A validated scenario runs safely: no name is unknown, no chain is followed from nothing, no key is
unknown and no element is taken from an empty list, whatever the browser does.
-/

namespace ScenarioRunner

variable {σ : Type} {host : Host σ}

/-- What has to hold where an event is noted. -/
def Event.Sound : Event → Prop
  | .stepBegan _ step stored => ∀ name rest, step.target? = some (.stored name :: rest) →
      ∃ chain, stored.lookup name = some chain
  | .interactionBegan _ => True
  | .lookupBegan chain => chain.Grounded
  | .linkFollowed subject link => link.needsSubject = true →
      ∃ element others, subject = some (element :: others)
  | .typingBegan text => ∃ keys, Text.expandKeys text = .ok keys

/-- Events in the journal are sound. -/
def JournalEntry.Sound : JournalEntry → Prop
  | .event _ noted => noted.Sound
  | _ => True

/-- A fault that neither names nor keys have caused. A refusal that is taken over is that of a call. -/
def Fault.IsSafe (records : List CallRecord) : Fault → Prop
  | .refused error => ∃ record ∈ records, record.RefusedWith error
  | .badKeys _ => False
  | .neverLocated _ => False
  | .misplacedName _ => False
  | _ => True

/-- More calls make no fault unsafe. -/
theorem Fault.IsSafe.mono {records more : List CallRecord} {fault : Fault}
    (safe : fault.IsSafe records) (among : records ⊆ more) : fault.IsSafe more := by
  cases fault with
  | refused error =>
      obtain ⟨record, member, refused⟩ := safe
      exact ⟨record, among member, refused⟩
  | _ => exact safe

/-- A part of a step is safe when its journal is sound and its fault is a safe one. -/
structure SafePart {α : Type} (journal : List JournalEntry) (outcome : Except (Stop Fault) α) :
    Prop where
  sound : ∀ entry ∈ journal, entry.Sound
  safe : ∀ fault, outcome = .error (.failed fault) → fault.IsSafe (calls journal)

theorem SafePart.prepend {α : Type} {earlier journal : List JournalEntry}
    {outcome : Except (Stop Fault) α} (part : SafePart journal outcome)
    (sound : ∀ entry ∈ earlier, entry.Sound) : SafePart (earlier ++ journal) outcome := by
  refine ⟨List.forall_mem_append.mpr ⟨sound, part.sound⟩, fun fault failed => ?_⟩
  rw [calls_append]
  exact (part.safe fault failed).mono (List.subset_append_right _ _)

/-- A first link that opens needs no subject, and later links have one. -/
theorem Chain.Grounded.sound_of_looks {chain : Chain} {entry : JournalEntry}
    (grounded : chain.Grounded) (looks : entry.Looks chain.Noted) : entry.Sound := by
  cases entry with
  | event time event =>
      cases event with
      | lookupBegan begun =>
          obtain rfl : begun = chain := looks
          exact grounded
      | linkFollowed subject link =>
          intro needs
          rcases looks with ⟨rest, rfl, rfl⟩ | ⟨-, nonempty⟩
          · obtain ⟨first, others, same, opens⟩ := grounded.opened
            cases same
            cases link with
            | find selector => cases opens
            | parent => cases opens
            | _ => cases needs
          · exact nonempty
      | _ => exact looks.elim
  | _ => trivial

/-- The link that matched nothing is the link at the position that is told with it. -/
theorem Chain.Evaluated.getElem?_missing {position missing : Nat}
    {subject : Option (List ElementId)} {chain : Chain} {searches : List CallRecord} {link : Link}
    (evaluated : chain.Evaluated position subject searches (.missing missing link)) :
    ∃ index, missing = position + index ∧ chain[index]? = some link := by
  generalize told : Lookup.missing missing link = lookup at evaluated
  induction evaluated with
  | found => cases told
  | missing nothing =>
      cases told
      exact ⟨0, rfl, rfl⟩
  | matched led nonempty continued ih =>
      obtain ⟨index, same, placed⟩ := ih told
      exact ⟨index + 1, by omega, placed⟩

theorem JournalEntry.Waits.sound {chain : Chain} {entry : JournalEntry} (waits : entry.Waits chain)
    (grounded : chain.Grounded) : entry.Sound := by
  rcases waits.idle with looks | pause
  · exact grounded.sound_of_looks looks
  · cases entry with
    | pause started duration => trivial
    | _ => exact pause.elim

theorem JournalEntry.sound_of_isAct {entry : JournalEntry} (acts : entry.IsAct) : entry.Sound := by
  cases entry with
  | event time event =>
      cases event with
      | typingBegan text => exact acts
      | _ => exact acts.elim
  | _ => trivial

theorem JournalEntry.Works.sound {chain : Chain} {entry : JournalEntry} (works : entry.Works chain)
    (grounded : chain.Grounded) : entry.Sound := by
  rcases works.busy with looks | pause | acts
  · exact grounded.sound_of_looks looks
  · exact JournalEntry.Waits.sound ⟨.inr pause, works.smooth⟩ grounded
  · exact JournalEntry.sound_of_isAct acts

theorem LastLook.safePart {α : Type} {judge : Except Error Lookup → Look α} {late : Prop}
    {chain : Chain} {looks : List JournalEntry} {outcome : Except (Stop Fault) α}
    (grounded : chain.Grounded)
    (judges : ∀ seen fault, judge seen = .unsettled fault → ∀ records, fault.IsSafe records)
    (looked : LastLook judge late chain looks outcome) : SafePart looks outcome := by
  refine ⟨fun entry member => grounded.sound_of_looks (looked.looking entry member), ?_⟩
  rintro fault rfl
  cases looked.told with
  | unsettled overdue granted evaluated unsettles => exact judges _ _ unsettles _
  | interrupted overdue ends granted refused passes unsettles => exact judges _ _ unsettles _
  | @refused front last error ends granted refused halting =>
      rw [ends]
      exact ⟨last, List.mem_append_right _ List.mem_cons_self, refused⟩
  | misplaced granted misplaced => exact grounded.nameless _ misplaced

theorem ChainWindow.safePart {α : Type} {judge : Except Error Lookup → Look α}
    {timeout opened ended : Nat} {chain : Chain} {journal : List JournalEntry}
    {outcome : Except (Stop Fault) α} (grounded : chain.Grounded)
    (judges : ∀ seen fault, judge seen = .unsettled fault → ∀ records, fault.IsSafe records)
    (window : ChainWindow judge timeout opened ended chain journal outcome) :
    SafePart journal outcome := by
  cases window with
  | closed waits timed looked =>
      exact (looked.safePart grounded judges).prepend fun entry member =>
        (waits entry member).sound grounded
  | broken waits => exact ⟨fun entry member => (waits entry member).sound grounded, nofun⟩

theorem Look.safe_presence (timeout : Nat) (chain : Chain) (seen : Except Error Lookup)
    (fault : Fault) (unsettles : Look.presence timeout chain seen = .unsettled fault)
    (records : List CallRecord) : fault.IsSafe records := by
  obtain ⟨reason, rfl⟩ := Look.eq_notFound_of_presence unsettles
  trivial

theorem Look.safe_absence (timeout : Nat) (chain : Chain) (seen : Except Error Lookup)
    (fault : Fault) (unsettles : Look.absence timeout chain seen = .unsettled fault)
    (records : List CallRecord) : fault.IsSafe records := by
  obtain ⟨reason, rfl⟩ := Look.eq_notGone_of_absence unsettles
  trivial

theorem JournalEntry.WaitsForUrl.sound {entry : JournalEntry} (waits : entry.WaitsForUrl) :
    entry.Sound := by
  cases entry with
  | event time event => exact waits.elim
  | _ => trivial

/-- The keys of a checked interaction are known, so that acting notes no others. -/
theorem Acted.sound {interaction : Interaction} {element : ElementId} {journal : List JournalEntry}
    {outcome : Except Fault Unit} (checked : interaction.check = .ok ())
    (acted : Acted interaction element journal outcome) :
    (∀ entry ∈ journal, entry.Sound) ∧ ∀ error, outcome ≠ .error (.badKeys error) := by
  cases acted with
  | granted acts called meant granted =>
      exact ⟨fun entry member => JournalEntry.sound_of_isAct (acts entry member), by simp⟩
  | refused acts called meant refused =>
      exact ⟨fun entry member => JournalEntry.sound_of_isAct (acts entry member), by simp⟩
  | badKeys typed unknown =>
      subst typed
      simp [Interaction.check, unknown] at checked

theorem Interacted.safePart {late : Prop} {chain : Chain} {interaction : Interaction}
    {last : List JournalEntry} {outcome : Except (Stop Fault) Unit} (grounded : chain.Grounded)
    (checked : interaction.check = .ok ())
    (interacted : Interacted late chain interaction last outcome) : SafePart last outcome := by
  cases interacted with
  | unresolved looked =>
      have part := looked.safePart grounded (Look.safe_presence _ chain)
      exact ⟨part.sound, fun fault same => part.safe fault (by cases same; rfl)⟩
  | done looked done =>
      have part := looked.safePart grounded (Look.safe_presence _ chain)
      exact .prepend ⟨(done.sound checked).1, nofun⟩ part.sound
  | refused looked refused overdue =>
      have part := looked.safePart grounded (Look.safe_presence _ chain)
      refine .prepend ⟨(refused.sound checked).1, ?_⟩ part.sound
      intro fault same
      cases same
      trivial
  | badKeys looked unknown => exact absurd rfl ((unknown.sound checked).2 _)

theorem InteractionWindow.safePart {timeout : Nat} {chain : Chain}
    {interaction : Interaction} {journal : List JournalEntry} {outcome : Except (Stop Fault) Unit}
    (grounded : chain.Grounded) (checked : interaction.check = .ok ())
    (window : InteractionWindow timeout chain interaction journal outcome) :
    SafePart journal outcome := by
  cases window with
  | @closed opened start ended earlier last _ works timed tried =>
      have begins : (JournalEntry.event opened (.interactionBegan interaction)).Sound := trivial
      have announced : ∀ entry ∈ .event opened (.interactionBegan interaction) :: earlier,
          entry.Sound :=
        List.forall_mem_cons.mpr ⟨begins, fun entry member => (works entry member).sound grounded⟩
      exact (tried.safePart grounded checked).prepend announced
  | @broken opened earlier _ works =>
      have begins : (JournalEntry.event opened (.interactionBegan interaction)).Sound := trivial
      exact ⟨List.forall_mem_cons.mpr
        ⟨begins, fun entry member => (works entry member).sound grounded⟩, nofun⟩

theorem InteractionWindows.safePart {timeout : Nat} {chain : Chain}
    {interactions : List Interaction} {journal : List JournalEntry} {outcome : Except (Stop Fault) Unit}
    (grounded : chain.Grounded)
    (checked : ∀ interaction ∈ interactions, interaction.check = .ok ())
    (windows : InteractionWindows timeout chain interactions journal outcome) :
    SafePart journal outcome := by
  induction windows with
  | nil => exact ⟨by simp, nofun⟩
  | passed window continued ih =>
      have first := window.safePart grounded (checked _ List.mem_cons_self)
      have rest := ih fun interaction member => checked _ (List.mem_cons_of_mem _ member)
      exact rest.prepend first.sound
  | stopped window => exact window.safePart grounded (checked _ List.mem_cons_self)

/-- A checked step is safe wherever the known names are remembered. -/
theorem Performed.safePart {options : RunOptions} {stored : StoredChains} {known : List String}
    {opened : Nat} {step : Step} {journal : List JournalEntry} {outcome : Except (Stop Fault) Unit}
    (checked : step.check known = .ok ()) (remembers : stored.Remembers known)
    (performed : Performed options stored opened step journal outcome) :
    SafePart journal outcome := by
  have grounded {target chain : Chain} (targeted : step.target? = some target)
      (expanded : stored.expand target = .ok chain) : chain.Grounded :=
    Step.grounded_of_expand remembers checked targeted expanded
  cases performed with
  | navigated => exact ⟨by simp [JournalEntry.Sound], nofun⟩
  | @refused url started finished error =>
      refine ⟨by simp [JournalEntry.Sound], ?_⟩
      intro fault same
      cases same
      exact ⟨_, List.mem_singleton_self _, rfl⟩
  | unknown targeted unknown =>
      exact absurd unknown (Step.expand_ne_error remembers checked targeted _)
  | sought seeks expanded window same =>
      have part := window.safePart (grounded (Step.target?_of_sought? seeks) expanded)
        (Look.safe_presence _ _)
      refine ⟨part.sound, fun fault failed => part.safe fault ?_⟩
      rw [failed] at same
      exact error_of_map same.symm
  | absent expanded window =>
      exact window.safePart (grounded rfl expanded) (Look.safe_absence _ _)
  | interacted expanded windows =>
      exact windows.safePart (grounded rfl expanded) (Step.check_interactions checked).2
  | @addressed fragment timeout ended _ _ window =>
      cases window with
      | @closed earlier started answer _ waits read =>
          refine ⟨?_, ?_⟩
          · have asked : (JournalEntry.call started ended .currentUrl answer).Sound := trivial
            have waited : ∀ entry ∈ earlier, entry.Sound := fun entry member =>
              (waits entry member).sound
            exact List.forall_mem_append.mpr ⟨waited, List.forall_mem_singleton.mpr asked⟩
          · rintro fault rfl
            cases read with
            | elsewhere overdue missing => trivial
            | @refused error =>
                refine ⟨⟨started, ended, .currentUrl, .error error⟩, ?_, rfl⟩
                rw [calls_append]
                exact List.mem_append_right _ (List.mem_singleton_self _)
      | broken waits => exact ⟨fun entry member => (waits entry member).sound, nofun⟩

/-- A failure that neither names nor keys nor missing elements have caused. An error without a number
is that of a call. -/
def Failure.IsSafe (records : List CallRecord) : Failure → Prop
  | .numbered _ fault => fault.IsSafe records
  | .bare error => ∃ record ∈ records, record.RefusedWith error

theorem Failure.IsSafe.mono {records more : List CallRecord} {failure : Failure}
    (safe : failure.IsSafe records) (among : records ⊆ more) : failure.IsSafe more := by
  cases failure with
  | numbered number fault => exact Fault.IsSafe.mono safe among
  | bare error =>
      obtain ⟨record, member, refused⟩ := safe
      exact ⟨record, among member, refused⟩

theorem Fault.IsSafe.failure {records : List CallRecord} {fault : Fault}
    (safe : fault.IsSafe records) (number : Nat) (step : Step) :
    (fault.failure number step).IsSafe records := by
  cases fault with
  | refused error =>
      rw [Fault.failure]
      split
      · exact safe
      · exact safe
  | badKeys error => exact safe.elim
  | _ => exact safe

/-- The name that a checked target starts with has a chain under it. -/
theorem Event.sound_stepBegan {stored : StoredChains} {known : List String} {step : Step}
    (number : Nat) (remembers : stored.Remembers known) (checked : step.check known = .ok ()) :
    (Event.stepBegan number step stored).Sound := by
  intro name rest targeted
  obtain ⟨link, others, same, -, opens | ⟨known_name, member, rfl⟩⟩ :=
    Chain.cases_of_check (Step.check_target checked targeted)
  · cases same
    cases opens
  · cases same
    obtain ⟨chain, found, -⟩ := remembers name member
    exact ⟨chain, found⟩

/-- A checked step is executed safely. -/
theorem Executor.safePart_of_execute {options : RunOptions} {executor : Executor}
    {known : List String} {step : Step} {before after : World σ} {journal : List JournalEntry}
    {ended : Except Breakdown (Except Failure Unit × Executor)}
    (checked : step.check known = .ok ()) (remembers : executor.stored.Remembers known)
    (ran : (executor.execute options step).Runs host before journal after ended) :
    ∃ result : Except (Stop Fault) Unit, SafePart journal result ∧
      ended = executor.conclude step result := by
  obtain ⟨entries, result, rfl, performed, concluded⟩ := Executor.performed_of_execute ran
  have announced : ∀ entry ∈ [JournalEntry.event before.now
      (.stepBegan (executor.stepNumber + 1) step executor.stored)], entry.Sound :=
    List.forall_mem_singleton.mpr
      (Event.sound_stepBegan (executor.stepNumber + 1) remembers checked)
  exact ⟨result, (performed.safePart checked remembers).prepend announced, concluded⟩

/-- Checked steps run safely from an executor that remembers the known names. -/
theorem StepsRun.safe {options : RunOptions} {executor : Executor} {number : Nat}
    {known : List String} {list : List Step} {journal : List JournalEntry}
    {ended : Except Breakdown (Option FailedStep)} (checked : checkSteps number known list = .ok ())
    (remembers : executor.stored.Remembers known)
    (ran : StepsRun host options executor list journal ended) :
    (∀ entry ∈ journal, entry.Sound) ∧
      ∀ stopped, ended = .ok (some stopped) → stopped.failure.IsSafe (calls journal) := by
  induction ran generalizing number known with
  | done => simp
  | @passed executor next step rest before after first journal ended executed continued ih =>
      obtain ⟨step_checked, rest_checked⟩ := checkSteps_cons checked
      obtain ⟨result, safe, concluded⟩ :=
        Executor.safePart_of_execute step_checked remembers executed
      rcases result with (fault | breakdown) | value
      · cases concluded
      · cases concluded
      · cases concluded
        obtain ⟨sound, later⟩ := ih rest_checked (remembers.after step_checked)
        refine ⟨List.forall_mem_append.mpr ⟨safe.sound, sound⟩, fun stopped same => ?_⟩
        rw [calls_append]
        exact (later stopped same).mono (List.subset_append_right _ _)
  | failed executed =>
      obtain ⟨result, safe, concluded⟩ :=
        Executor.safePart_of_execute (checkSteps_cons checked).1 remembers executed
      rcases result with (fault | breakdown) | value
      · cases concluded
        refine ⟨safe.sound, ?_⟩
        intro stopped same
        cases same
        exact (safe.safe fault rfl).failure _ _
      · cases concluded
      · cases concluded
  | broken executed =>
      obtain ⟨result, safe, -⟩ :=
        Executor.safePart_of_execute (checkSteps_cons checked).1 remembers executed
      refine ⟨safe.sound, fun stopped same => ?_⟩
      cases same

/-- The executors that checked steps lead to, each with the names known by then. A step that fails
makes no name known. -/
inductive Executor.Prepared : List String → Executor → Prop where
  | start : Prepared [] .start
  | passed {σ : Type} {host : Host σ} {options : RunOptions} {known : List String}
      {executor next : Executor} {step : Step} {before after : World σ}
      {journal : List JournalEntry} (prepared : Prepared known executor)
      (checked : step.check known = .ok ())
      (executed : (executor.execute options step).Runs host before journal after
        (.ok (.ok (), next))) :
      Prepared (step.addName known) next
  | failed {σ : Type} {host : Host σ} {options : RunOptions} {known : List String}
      {executor next : Executor} {step : Step} {before after : World σ}
      {journal : List JournalEntry} {failure : Failure} (prepared : Prepared known executor)
      (executed : (executor.execute options step).Runs host before journal after
        (.ok (.error failure, next))) :
      Prepared known next

/-- A prepared executor remembers every name that is known. -/
theorem Executor.Prepared.remembers {known : List String} {executor : Executor}
    (prepared : executor.Prepared known) : executor.stored.Remembers known := by
  induction prepared with
  | start => exact StoredChains.remembers_nil _
  | passed _ checked executed ih =>
      obtain ⟨_, result, -, -, concluded⟩ := Executor.performed_of_execute executed
      rcases result with (fault | breakdown) | value
      · cases concluded
      · cases concluded
      · cases concluded
        exact ih.after checked
  | failed _ executed ih =>
      obtain ⟨_, result, -, -, concluded⟩ := Executor.performed_of_execute executed
      rcases result with (fault | breakdown) | value
      · cases concluded
        exact ih
      · cases concluded
      · cases concluded

theorem JournalEntry.IsParting.sound {entry : JournalEntry} (parting : entry.IsParting) :
    entry.Sound := by
  cases entry with
  | event time event => exact parting.elim
  | _ => trivial

end ScenarioRunner
