import ScenarioRunner.Proofs.Ending

/-!
Which failures carry the number of their step. The errors of others do not when the step looks for
elements to keep or to act on, or when they are step failures already.
-/

namespace ScenarioRunner

variable {σ : Type} {host : Host σ}

/-- A search that is refused for good, a visit or an address that is refused, or a typed text with a
key that does not exist: what ends a step with the error of another. -/
def JournalEntry.BreaksWith (error : Error) : JournalEntry → Prop
  | .call _ _ (.find _ _) (.error other) => other = error ∧ error.isTransient = false
  | .call _ _ (.navigate _) (.error other) => other = error
  | .call _ _ .currentUrl (.error other) => other = error
  | .event _ (.typingBegan text) => Text.expandKeys text = .error error
  | _ => False

/-- The entry does not end a step with the error of another. -/
def JournalEntry.IsWhole (entry : JournalEntry) : Prop := ∀ error, ¬ entry.BreaksWith error

/-- The faults by which steps take over the error of another. -/
inductive Fault.Foreign : Error → Fault → Prop where
  | refused (error : Error) : Foreign error (.refused error)
  | badKeys {text : String} {error : Error} (unknown : Text.expandKeys text = .error error) :
      Foreign error (.badKeys error)

/-- The errors that are told in the words of the runner. -/
def Fault.IsOwn : Fault → Prop
  | .refused _ => False
  | .badKeys _ => False
  | _ => True

/-- How the outcome of a part of a step fits its journal: the error of another comes from an entry
that breaks the step with it, and everything else comes without one. -/
inductive Reported {α : Type} (journal : List JournalEntry) : Except (Stop Fault) α → Prop where
  | passed {value : α} (whole : ∀ entry ∈ journal, entry.IsWhole) : Reported journal (.ok value)
  | own {fault : Fault} (whole : ∀ entry ∈ journal, entry.IsWhole) (own : fault.IsOwn) :
      Reported journal (.error (.failed fault))
  | foreign {error : Error} {fault : Fault}
      (broken : ∀ other, (∃ entry ∈ journal, entry.BreaksWith other) ↔ other = error)
      (foreign : fault.Foreign error) : Reported journal (.error (.failed fault))
  | broken {breakdown : Breakdown} (whole : ∀ entry ∈ journal, entry.IsWhole) :
      Reported journal (.error (.broken breakdown))

theorem not_exists_breaksWith {journal : List JournalEntry}
    (whole : ∀ entry ∈ journal, entry.IsWhole) (error : Error) :
    ¬ ∃ entry ∈ journal, entry.BreaksWith error := by
  intro broken
  obtain ⟨entry, member, breaks⟩ := broken
  exact whole entry member error breaks

theorem exists_breaksWith_append {first second : List JournalEntry} {error : Error} :
    (∃ entry ∈ first ++ second, entry.BreaksWith error) ↔
      (∃ entry ∈ first, entry.BreaksWith error) ∨ ∃ entry ∈ second, entry.BreaksWith error := by
  simp only [List.mem_append, or_and_right, exists_or]

/-- What breaks a step is not among the entries that do not. -/
theorem breaksWith_append_iff {first second : List JournalEntry} {error : Error}
    (whole : ∀ entry ∈ first, entry.IsWhole) :
    (∃ entry ∈ first ++ second, entry.BreaksWith error) ↔
      ∃ entry ∈ second, entry.BreaksWith error := by
  rw [exists_breaksWith_append, or_iff_right (not_exists_breaksWith whole error)]

theorem Reported.prepend {α : Type} {earlier journal : List JournalEntry} {outcome : Except (Stop Fault) α}
    (reported : Reported journal outcome) (whole : ∀ entry ∈ earlier, entry.IsWhole) :
    Reported (earlier ++ journal) outcome := by
  have both (rest : ∀ entry ∈ journal, entry.IsWhole) :
      ∀ entry ∈ earlier ++ journal, entry.IsWhole := List.forall_mem_append.mpr ⟨whole, rest⟩
  cases reported with
  | passed rest => exact .passed (both rest)
  | own rest own => exact .own (both rest) own
  | foreign broken foreign =>
      exact .foreign (fun other => (breaksWith_append_iff whole).trans (broken other)) foreign
  | broken rest => exact .broken (both rest)

/-- The outcome of a part with another type of value. -/
theorem Reported.of_error {α β : Type} {journal : List JournalEntry} {stop : Stop Fault}
    (reported : Reported journal (.error stop : Except (Stop Fault) α)) :
    Reported journal (.error stop : Except (Stop Fault) β) := by
  cases reported with
  | own whole own => exact .own whole own
  | foreign broken foreign => exact .foreign broken foreign
  | broken whole => exact .broken whole

namespace JournalEntry

/-- An entry of a look breaks a step when its search halts. -/
theorem breaksWith_iff_of_looks {chain : Chain} {entry : JournalEntry} {error : Error}
    (look : entry.Looks chain.Noted) :
    entry.BreaksWith error ↔ ∃ record, entry.call? = some record ∧ record.RefusedWith error ∧
      error.isTransient = false := by
  cases entry with
  | call started finished asked outcome =>
      cases asked with
      | find locator scope =>
          cases outcome with
          | ok found => simp [BreaksWith, call?, CallRecord.RefusedWith]
          | error error =>
              simp only [BreaksWith, call?, CallRecord.RefusedWith, Option.some.injEq,
                exists_eq_left', Except.error.injEq]
      | _ => exact look.elim
  | event time event =>
      cases event with
      | typingBegan text => exact look.elim
      | _ => simp [BreaksWith, call?]
  | _ => simp [BreaksWith, call?]

/-- An entry of a look whose search does not halt. -/
theorem isWhole_of_looks {chain : Chain} {entry : JournalEntry} (look : entry.Looks chain.Noted)
    (smooth : ∀ record, entry.call? = some record → ¬ record.Halts Error.isTransient) :
    entry.IsWhole := by
  intro error breaks
  obtain ⟨record, recorded, refused, halting⟩ := (breaksWith_iff_of_looks look).mp breaks
  exact smooth record recorded ⟨error, refused, halting⟩

theorem isWhole_of_isAct {entry : JournalEntry} (acts : entry.IsAct) : entry.IsWhole := by
  intro error breaks
  cases entry with
  | call started finished asked outcome =>
      cases asked with
      | find locator scope | navigate url | currentUrl => exact acts.elim
      | _ => exact breaks
  | event time event =>
      cases event with
      | typingBegan text =>
          obtain ⟨keys, known⟩ := acts
          cases known.symm.trans breaks
      | _ => exact breaks
  | _ => exact breaks

theorem WaitsForUrl.isWhole {entry : JournalEntry} (waits : entry.WaitsForUrl) :
    entry.IsWhole := by
  intro error breaks
  cases entry with
  | call started finished asked outcome =>
      cases asked with
      | currentUrl =>
          obtain ⟨url, rfl⟩ := waits
          exact breaks
      | _ => exact waits.elim
  | event time event => exact waits.elim
  | _ => exact breaks

theorem IsParting.isWhole {entry : JournalEntry} (parting : entry.IsParting) : entry.IsWhole := by
  intro error breaks
  cases entry with
  | call started finished asked outcome =>
      cases asked with
      | find locator scope | navigate url | currentUrl => exact parting.elim
      | _ => exact breaks
  | event time event => exact parting.elim
  | _ => exact breaks

theorem Works.isWhole {chain : Chain} {entry : JournalEntry} (works : entry.Works chain) :
    entry.IsWhole := by
  rcases works.busy with look | pause | acts
  · exact isWhole_of_looks look works.smooth
  · cases entry with
    | pause started duration => exact fun _ => id
    | _ => exact pause.elim
  · exact isWhole_of_isAct acts

end JournalEntry

/-- What breaks a look is the search that halts. -/
theorem breaksWith_iff_refused {chain : Chain} {looks : List JournalEntry} {error : Error}
    (looking : ∀ entry ∈ looks, entry.Looks chain.Noted) :
    (∃ entry ∈ looks, entry.BreaksWith error) ↔
      ∃ record ∈ calls looks, record.RefusedWith error ∧ error.isTransient = false := by
  constructor
  · intro breaking
    obtain ⟨entry, member, breaks⟩ := breaking
    obtain ⟨record, recorded, halts⟩ :=
      (JournalEntry.breaksWith_iff_of_looks (looking entry member)).mp breaks
    exact ⟨record, mem_calls_iff.mpr ⟨entry, member, recorded⟩, halts⟩
  · intro halting
    obtain ⟨record, member, halts⟩ := halting
    obtain ⟨entry, listed, recorded⟩ := mem_calls_iff.mp member
    exact ⟨entry, listed,
      (JournalEntry.breaksWith_iff_of_looks (looking entry listed)).mpr ⟨record, recorded, halts⟩⟩

/-- A wait reports its own findings, or the search that broke it. -/
theorem LastLook.reported {α : Type} {judge : Except Error Lookup → Look α} {late : Prop}
    {chain : Chain} {looks : List JournalEntry} {outcome : Except (Stop Fault) α}
    (owns : ∀ seen fault, judge seen = .unsettled fault → fault.IsOwn)
    (looked : LastLook judge late chain looks outcome) : Reported looks outcome := by
  obtain ⟨looking, told⟩ := looked
  have whole (smooth : Smooth Error.isTransient (calls looks)) :
      ∀ entry ∈ looks, entry.IsWhole := fun entry member =>
    JournalEntry.isWhole_of_looks (looking entry member) fun record recorded =>
      smooth record (mem_calls_iff.mpr ⟨entry, member, recorded⟩)
  cases told with
  | settled granted evaluated settles =>
      exact .passed (whole (smooth_of_granted granted))
  | unsettled overdue granted evaluated unsettles =>
      exact .own (whole (smooth_of_granted granted)) (owns _ _ unsettles)
  | @interrupted front last error fault overdue ends granted refused passes unsettles =>
      refine .own (whole ?_) (owns _ _ unsettles)
      rw [ends]
      exact (smooth_of_granted granted).append (.singleton (refused.not_halts passes))
  | @refused front last error ends granted refused halting =>
      refine .foreign (fun other => ?_) (.refused error)
      rw [breaksWith_iff_refused looking, ends]
      constructor
      · intro breaking
        obtain ⟨record, member, told, -⟩ := breaking
        rcases List.mem_append.mp member with before | here
        · exact absurd told ((granted record before).not_refusedWith other)
        · obtain rfl := List.mem_singleton.mp here
          cases told.symm.trans refused
          rfl
      · intro same
        subst same
        exact ⟨last, List.mem_append_right _ List.mem_cons_self, refused, halting⟩
  | misplaced granted misplaced =>
      exact .own (whole (smooth_of_granted granted)) trivial

theorem ChainWindow.reported {α : Type} {judge : Except Error Lookup → Look α}
    {timeout opened ended : Nat} {chain : Chain} {journal : List JournalEntry}
    {outcome : Except (Stop Fault) α}
    (owns : ∀ seen fault, judge seen = .unsettled fault → fault.IsOwn)
    (window : ChainWindow judge timeout opened ended chain journal outcome) :
    Reported journal outcome := by
  cases window with
  | closed waits timed looked =>
      exact (looked.reported owns).prepend fun entry member => (waits entry member).works.isWhole
  | broken waits => exact .broken fun entry member => (waits entry member).works.isWhole

theorem Look.owns_presence (timeout : Nat) (chain : Chain) (seen : Except Error Lookup)
    (fault : Fault) (unsettles : Look.presence timeout chain seen = .unsettled fault) :
    fault.IsOwn := by
  obtain ⟨reason, rfl⟩ := Look.eq_notFound_of_presence unsettles
  trivial

theorem Look.owns_absence (timeout : Nat) (chain : Chain) (seen : Except Error Lookup)
    (fault : Fault) (unsettles : Look.absence timeout chain seen = .unsettled fault) :
    fault.IsOwn := by
  obtain ⟨reason, rfl⟩ := Look.eq_notGone_of_absence unsettles
  trivial

/-- An act whose call is made breaks nothing, and unknown keys are told by the act itself. -/
theorem Acted.whole_or_unknown {interaction : Interaction} {element : ElementId}
    {journal : List JournalEntry} {outcome : Except Fault Unit}
    (acted : Acted interaction element journal outcome) :
    (∀ entry ∈ journal, entry.IsWhole) ∨ ∃ error, outcome = .error (.badKeys error) := by
  cases acted with
  | granted acts called meant granted =>
      exact .inl fun entry member => JournalEntry.isWhole_of_isAct (acts entry member)
  | refused acts called meant refused =>
      exact .inl fun entry member => JournalEntry.isWhole_of_isAct (acts entry member)
  | badKeys typed unknown => exact .inr ⟨_, rfl⟩

theorem LastLook.whole {α : Type} {judge : Except Error Lookup → Look α} {late : Prop}
    {chain : Chain} {looks : List JournalEntry} {value : α}
    (owns : ∀ seen fault, judge seen = .unsettled fault → fault.IsOwn)
    (looked : LastLook judge late chain looks (.ok value)) : ∀ entry ∈ looks, entry.IsWhole := by
  cases looked.reported owns with
  | passed whole => exact whole

/-- An interaction reports its own findings, or what broke its last try. -/
theorem Interacted.reported {late : Prop} {chain : Chain} {interaction : Interaction}
    {last : List JournalEntry} {outcome : Except (Stop Fault) Unit}
    (interacted : Interacted late chain interaction last outcome) : Reported last outcome := by
  cases interacted with
  | unresolved looked => exact (looked.reported (Look.owns_presence _ chain)).of_error
  | done looked done =>
      rcases done.whole_or_unknown with whole | ⟨_, impossible⟩
      · exact .prepend (.passed whole) (looked.whole (Look.owns_presence _ chain))
      · cases impossible
  | refused looked refused overdue =>
      rcases refused.whole_or_unknown with whole | ⟨_, impossible⟩
      · exact .prepend (.own whole trivial) (looked.whole (Look.owns_presence _ chain))
      · cases impossible
  | badKeys looked unknown =>
      cases unknown with
      | @badKeys time text error typed unknown =>
          refine .prepend (.foreign (fun other => ?_) (.badKeys unknown))
            (looked.whole (Look.owns_presence _ chain))
          simp only [List.mem_singleton, exists_eq_left]
          exact ⟨fun same => Except.error.inj (same.symm.trans unknown), fun same => same ▸ unknown⟩

theorem InteractionWindow.reported {timeout : Nat} {chain : Chain}
    {interaction : Interaction} {journal : List JournalEntry} {outcome : Except (Stop Fault) Unit}
    (window : InteractionWindow timeout chain interaction journal outcome) :
    Reported journal outcome := by
  have announced {opened : Nat} {earlier : List JournalEntry}
      (works : ∀ entry ∈ earlier, entry.Works chain) :
      ∀ entry ∈ .event opened (.interactionBegan interaction) :: earlier, entry.IsWhole :=
    List.forall_mem_cons.mpr ⟨fun _ => id, fun entry member => (works entry member).isWhole⟩
  cases window with
  | closed works timed tried => exact tried.reported.prepend (announced works)
  | broken works => exact .broken (announced works)

theorem InteractionWindows.reported {timeout : Nat} {chain : Chain}
    {interactions : List Interaction} {journal : List JournalEntry} {outcome : Except (Stop Fault) Unit}
    (windows : InteractionWindows timeout chain interactions journal outcome) :
    Reported journal outcome := by
  induction windows with
  | nil => exact .passed (by simp)
  | passed window continued ih =>
      cases window.reported with
      | passed whole => exact ih.prepend whole
  | stopped window => exact window.reported

/-- A refused call whose error is taken over is the one entry that breaks a step. -/
theorem Reported.refused {α : Type} {earlier : List JournalEntry} {entry : JournalEntry}
    {error : Error} (whole : ∀ entry ∈ earlier, entry.IsWhole)
    (breaks : ∀ other, entry.BreaksWith other ↔ other = error) :
    Reported (earlier ++ [entry]) (.error (.failed (.refused error)) : Except (Stop Fault) α) := by
  have broken (other : Error) : (∃ last ∈ [entry], last.BreaksWith other) ↔ other = error := by
    simpa using breaks other
  exact (Reported.foreign broken (.refused error)).prepend whole

/-- A step reports as its parts do. -/
theorem Performed.reported {options : RunOptions} {stored : StoredChains} {opened : Nat}
    {step : Step} {journal : List JournalEntry} {outcome : Except (Stop Fault) Unit}
    (performed : Performed options stored opened step journal outcome) :
    Reported journal outcome := by
  cases performed with
  | navigated => exact .passed (by simp [JournalEntry.IsWhole, JournalEntry.BreaksWith])
  | @refused url started finished error =>
      have nothing : ∀ entry ∈ ([] : List JournalEntry), entry.IsWhole := nofun
      exact .refused nothing fun other => eq_comm
  | unknown targeted unknown =>
      obtain ⟨name, rest, -, -, rfl⟩ := StoredChains.eq_of_expand_error unknown
      exact .own (by simp) trivial
  | sought seeks expanded window same =>
      subst same
      cases window.reported (Look.owns_presence _ _) with
      | passed whole => exact .passed whole
      | own whole own => exact .own whole own
      | foreign broken foreign => exact .foreign broken foreign
      | broken whole => exact .broken whole
  | absent expanded window => exact window.reported (Look.owns_absence _ _)
  | interacted expanded windows => exact windows.reported
  | @addressed fragment timeout ended _ _ window =>
      cases window with
      | @closed earlier started answer _ waits read =>
          have waited : ∀ entry ∈ earlier, entry.IsWhole := fun entry member =>
            (waits entry member).isWhole
          have asked (url : String) :
              (JournalEntry.call started ended .currentUrl (.ok url)).IsWhole := fun _ => id
          cases read with
          | @elsewhere url overdue missing =>
              exact .own (List.forall_mem_append.mpr
                ⟨waited, List.forall_mem_singleton.mpr (asked url)⟩) trivial
          | refused => exact .refused waited fun other => eq_comm
          | @reached url contained =>
              exact .passed (List.forall_mem_append.mpr
                ⟨waited, List.forall_mem_singleton.mpr (asked url)⟩)
      | broken waits => exact .broken fun entry member => (waits entry member).isWhole

/-- The step reports the error without a number of its own, and the error does not carry the number
either. -/
def Step.Unnumbers (step : Step) (number : Nat) (error : Error) : Prop :=
  (step.reportsBare = true ∨ error.isStepFailure = true) ∧
    ∀ detail, error ≠ .stepFailure number detail

/-- How a failed step is told: in its own words with its number, or with the error of another that
broke it. -/
inductive FailedStep.Told (broken : Error → Prop) : FailedStep → Prop where
  | numbered {number : Nat} {step : Step} {fault : Fault}
      (sound : ∀ error, broken error → ¬ step.Unnumbers number error) :
      Told broken ⟨number, step, .numbered number fault⟩
  | bare {number : Nat} {step : Step} {error : Error}
      (bare : step.reportsBare = true ∨ error.isStepFailure = true)
      (breaks : ∀ other, broken other ↔ other = error) : Told broken ⟨number, step, .bare error⟩

theorem FailedStep.Told.mono {broken widely : Error → Prop} {failed : FailedStep}
    (told : failed.Told broken) (same : ∀ error, broken error ↔ widely error) :
    failed.Told widely := by
  rwa [funext fun error => propext (same error)] at told

theorem Fault.told_failure {step : Step} {number : Nat} {fault : Fault}
    {journal : List JournalEntry} (reported : Reported journal (.error (.failed fault) : Except (Stop Fault) Unit)) :
    FailedStep.Told (fun error => ∃ entry ∈ journal, entry.BreaksWith error)
      ⟨number, step, fault.failure number step⟩ := by
  cases reported with
  | own whole own =>
      have numbered : fault.failure number step = .numbered number fault := by
        cases fault <;> first | exact own.elim | rfl
      rw [numbered]
      exact .numbered fun error broken => absurd broken (not_exists_breaksWith whole error)
  | @foreign error _ broken foreign =>
      have told (bare : Bool) (same : bare = true ↔ step.reportsBare = true ∨
            error.isStepFailure = true) :
          FailedStep.Told (fun error => ∃ entry ∈ journal, entry.BreaksWith error)
            ⟨number, step, if bare then .bare error else .numbered number fault⟩ := by
        cases bare with
        | true => exact .bare (same.mp rfl) broken
        | false =>
            refine .numbered fun other breaks unnumbers => ?_
            obtain rfl := (broken other).mp breaks
            exact absurd (same.mpr unnumbers.1) (by decide)
      cases foreign with
      | refused error => exact told _ (by rw [Bool.or_eq_true])
      | badKeys unknown =>
          obtain ⟨name, rfl⟩ := Text.unknownKey_of_expandKeys unknown
          exact told _ (by simp [Error.isStepFailure])

/-- A failed execution is told by what its own journal shows. -/
theorem Executor.told_of_execute {options : RunOptions} {executor next : Executor} {step : Step}
    {before after : World σ} {journal : List JournalEntry} {failure : Failure}
    (ran : (executor.execute options step).Runs host before journal after (.ok (.error failure, next))) :
    next.stepNumber = executor.stepNumber + 1 ∧
      FailedStep.Told (fun error => ∃ entry ∈ journal, entry.BreaksWith error)
        ⟨next.stepNumber, step, failure⟩ := by
  obtain ⟨rest, result, rfl, performed, concluded⟩ := Executor.performed_of_execute ran
  rcases result with (fault | breakdown) | value
  · cases concluded
    refine ⟨rfl, (Fault.told_failure performed.reported).mono fun error => ?_⟩
    simp [JournalEntry.BreaksWith]
  · cases concluded
  · cases concluded

theorem Executor.whole_of_execute {options : RunOptions} {executor next : Executor} {step : Step}
    {before after : World σ} {journal : List JournalEntry}
    (ran : (executor.execute options step).Runs host before journal after (.ok (.ok (), next))) :
    next.stepNumber = executor.stepNumber + 1 ∧ ∀ entry ∈ journal, entry.IsWhole := by
  obtain ⟨rest, result, rfl, performed, concluded⟩ := Executor.performed_of_execute ran
  rcases result with (fault | breakdown) | value
  · cases concluded
  · cases concluded
  · cases concluded
    cases performed.reported with
    | passed whole => exact ⟨rfl, List.forall_mem_cons.mpr ⟨fun _ => id, whole⟩⟩

/-- A run tells its failed step by what the whole journal shows. -/
theorem StepsRun.told {options : RunOptions} {executor : Executor} {list : List Step}
    {journal : List JournalEntry} {failed : FailedStep}
    (ran : StepsRun host options executor list journal (.ok (some failed))) :
    (∃ index, failed.number = executor.stepNumber + index + 1 ∧ list[index]? = some failed.step) ∧
      failed.Told (fun error => ∃ entry ∈ journal, entry.BreaksWith error) := by
  generalize stopped : (.ok (some failed) : Except Breakdown (Option FailedStep)) = ended at ran
  induction ran with
  | done => cases stopped
  | @passed executor next step rest before after first journal _ executed continued ih =>
      obtain ⟨⟨index, number, placed⟩, told⟩ := ih stopped
      obtain ⟨counted, whole⟩ := Executor.whole_of_execute executed
      exact ⟨⟨index + 1, by omega, placed⟩,
        told.mono fun error => (breaksWith_append_iff whole).symm⟩
  | failed executed =>
      cases stopped
      obtain ⟨counted, told⟩ := Executor.told_of_execute executed
      exact ⟨⟨0, counted, rfl⟩, told⟩
  | broken executed => cases stopped

/-- The number of a failed step is counted on from those that passed before it. -/
theorem Run.lt_number_of_steps {options : RunOptions} {executor : Executor} {list : List Step}
    {before after : World σ} {journal : List JournalEntry} {stopped : FailedStep}
    (ran : (Run.steps options executor list).Runs host before journal after (.ok (some stopped))) :
    executor.stepNumber < stopped.number := by
  obtain ⟨⟨index, counted, -⟩, -⟩ := (Run.stepsRun_of_steps ran).told
  omega

/-- The executor that a number of executions has led to, whatever came of them. -/
inductive Executor.Executed : Nat → Executor → Prop where
  | start : Executed 0 .start
  | next {σ : Type} {host : Host σ} {options : RunOptions} {count : Nat} {executor next : Executor}
      {step : Step} {before after : World σ} {journal : List JournalEntry}
      {result : Except Failure Unit} (executed : Executed count executor)
      (ran : (executor.execute options step).Runs host before journal after (.ok (result, next))) :
      Executed (count + 1) next

/-- An executor counts the steps it was given. -/
theorem Executor.Executed.stepNumber_eq {count : Nat} {executor : Executor}
    (executed : executor.Executed count) : executor.stepNumber = count := by
  induction executed with
  | start => rfl
  | @next _ _ _ count executor next step _ _ _ result _ ran ih =>
      cases result with
      | ok value => rw [(Executor.whole_of_execute ran).1, ih]
      | error failure => rw [(Executor.told_of_execute ran).1, ih]

theorem FailedStep.Told.numbered_iff {broken : Error → Prop} {number : Nat} {step : Step}
    {failure : Failure} (told : FailedStep.Told broken ⟨number, step, failure⟩) :
    (∃ detail, failure.toError = .stepFailure number detail) ↔
      ¬ ∃ error, broken error ∧ step.Unnumbers number error := by
  cases told with
  | numbered sound =>
      exact iff_of_true ⟨_, rfl⟩ fun breaking => sound _ breaking.choose_spec.1 breaking.choose_spec.2
  | @bare _ _ error bare breaks =>
      simp only [breaks, exists_eq_left, Step.Unnumbers, bare, true_and, not_forall, not_not,
        Failure.toError]

theorem toString_text (text : String) : toString text = text := rfl

namespace Text

theorem beginsWith_append_iff (front text start : String) :
    beginsWith (front ++ text) (front ++ start) = true ↔ beginsWith text start = true := by
  simp only [beginsWith, String.toList_append, List.isPrefixOf_iff_prefix,
    List.prefix_append_right_inj]

theorem head?_append {start : String} {c : Char} (heading : start.toList.head? = some c)
    (rest : String) : (start ++ rest).toList.head? = some c := by
  rw [String.toList_append, List.head?_append, heading]
  rfl

theorem beginsWith_append (start rest : String) : beginsWith (start ++ rest) start = true := by
  rw [beginsWith, String.toList_append, List.isPrefixOf_iff_prefix]
  exact List.prefix_append _ _

/-- A text begins with the first letter of its beginning. -/
theorem head?_of_beginsWith {text start : String} {c : Char}
    (begins : beginsWith text start = true) (heading : start.toList.head? = some c) :
    text.toList.head? = some c := by
  obtain ⟨rest, whole⟩ := List.isPrefixOf_iff_prefix.mp begins
  rw [← whole, List.head?_append, heading]
  rfl

theorem toList_toString (n : Nat) : (toString n).toList = Nat.toDigits 10 n := Nat.toList_repr

theorem isDigit_of_mem_toString {n : Nat} {d : Char} (member : d ∈ (toString n).toList) :
    d.isDigit = true := by
  rw [toList_toString] at member
  exact Nat.isDigit_of_mem_toDigits (by decide) (by decide) member

/-- Numbers are told by their digits. -/
theorem toList_toString_inj {n m : Nat} : (toString n).toList = (toString m).toList ↔ n = m := by
  refine ⟨fun same => ?_, congrArg fun number => (toString number).toList⟩
  rw [toList_toString, toList_toString] at same
  calc
    n = Nat.ofDigitChars 10 (Nat.toDigits 10 n) 0 := Nat.ofDigitChars_ten_toDigits.symm
    _ = Nat.ofDigitChars 10 (Nat.toDigits 10 m) 0 := by rw [same]
    _ = m := Nat.ofDigitChars_ten_toDigits

/-- The digits of a number are told from a letter that follows them. -/
theorem takeWhile_digits (n : Nat) {c : Char} (letter : c.isDigit = false) (rest : List Char) :
    ((toString n).toList ++ c :: rest).takeWhile Char.isDigit = (toString n).toList := by
  rw [List.takeWhile_append_of_pos fun _ => isDigit_of_mem_toString,
    List.takeWhile_cons_of_neg (by simp [letter]), List.append_nil]

/-- A text that goes on with a word behind a number begins with that number only. -/
theorem beginsWith_number_iff {n m : Nat} {word rest : String} {c : Char}
    (heading : word.toList.head? = some c) (letter : c.isDigit = false) :
    beginsWith (toString n ++ (word ++ rest)) (toString m ++ word) = true ↔ n = m := by
  obtain ⟨ending, letters⟩ := List.head?_eq_some_iff.mp heading
  constructor
  · intro begins
    obtain ⟨behind, whole⟩ := List.isPrefixOf_iff_prefix.mp begins
    simp only [String.toList_append, letters, List.append_assoc, List.cons_append] at whole
    have same := congrArg (List.takeWhile Char.isDigit) whole
    rw [takeWhile_digits m letter, takeWhile_digits n letter] at same
    exact (toList_toString_inj.mp same).symm
  · rintro rfl
    rw [beginsWith_append_iff]
    exact beginsWith_append _ _

end Text

namespace Error

/-- The first letter of the wording of an error. -/
def initial : Error → Char
  | .config _ => 'C'
  | .configParse _ | .scenarioInvalid _ | .io _ => 'I'
  | .scenarioParse _ | .fileRead _ _ => 'F'
  | .undefinedVariable _ | .unknownKey _ | .unknownBuiltin _ _ => 'U'
  | .browserUnreachable _ _ | .webDriver _ _ | .protocol _ => 'W'
  | .http _ => 'H'
  | .stepFailure _ _ => 'S'
  | .json _ => 'J'

theorem head?_message (error : Error) : error.message.toList.head? = some error.initial := by
  delta message
  cases error <;> simp only [initial, toString_text, String.append_assoc] <;>
    exact Text.head?_append (by rfl) _

/-- No error but the failure of a step begins like one, and none begins like a timeout. -/
theorem initial_of_other {error : Error} (other : error.isStepFailure = false) :
    error.initial ≠ 'S' ∧ error.initial ≠ 'T' := by
  cases error with
  | stepFailure step detail => cases other
  | _ =>
      simp only [initial]
      exact ⟨by decide, by decide⟩

/-- The failure of a step begins with the number that it carries. -/
theorem beginsWith_stepFailure_iff {error : Error} (numbered : error.isStepFailure = true)
    (number : Nat) (rest : String) :
    Text.beginsWith (error.message ++ rest) s!"Step {number} failed: " = true ↔
      ∃ detail, error = .stepFailure number detail := by
  cases error with
  | stepFailure step detail =>
      have stated : (stepFailure step detail).message ++ rest =
          "Step " ++ (toString step ++ (" failed: " ++ (detail ++ rest))) := by
        show s!"Step {step} failed: {detail}" ++ rest = _
        simp only [toString_text, String.append_assoc]
      simp only [stated, toString_text, String.append_assoc, Text.beginsWith_append_iff]
      rw [Text.beginsWith_number_iff (c := ' ') (by rfl) (by decide)]
      constructor
      · rintro rfl
        exact ⟨detail, rfl⟩
      · rintro ⟨_, same⟩
        cases same
        rfl
  | _ => cases numbered

end Error

theorem Failure.message_numbered (number : Nat) (fault : Fault) :
    (Failure.numbered number fault).message = s!"Step {number} failed: {fault.message}" := rfl

theorem FailedStep.Told.beginsWith_iff {broken : Error → Prop} {failed : FailedStep}
    (told : failed.Told broken) :
    Text.beginsWith s!"{failed.failure.message} ({failed.step.display})"
        s!"Step {failed.number} failed: " = true ↔
      ¬ ∃ error, broken error ∧ failed.step.Unnumbers failed.number error := by
  cases told with
  | @numbered number step fault sound =>
      refine iff_of_true ?_ fun breaking =>
        sound _ breaking.choose_spec.1 breaking.choose_spec.2
      have divided : s!"{(Failure.numbered number fault).message} ({step.display})" =
          s!"Step {number} failed: " ++ s!"{fault.message} ({step.display})" := by
        simp only [Failure.message_numbered, toString_text, String.append_assoc]
      rw [divided]
      exact Text.beginsWith_append _ _
  | @bare number step error bare breaks =>
      simp only [breaks, exists_eq_left, Step.Unnumbers, bare, true_and, not_forall, not_not,
        toString_text, String.append_assoc]
      cases carries : error.isStepFailure with
      | true => exact Error.beginsWith_stepFailure_iff carries number _
      | false =>
          refine iff_of_false (fun begins => ?_) fun carrying => ?_
          · have first := Text.head?_of_beginsWith begins (Text.head?_append (c := 'S') (by rfl) _)
            rw [show (Failure.bare error).message = error.message from rfl,
              Text.head?_append error.head?_message] at first
            exact (Error.initial_of_other carries).1 (Option.some.inj first)
          · obtain ⟨detail, rfl⟩ := carrying
            cases carries

/-- Exactly when failures carry the number of their step. The error of an execution is a step
failure with the count of the executions so far, and the error of a run begins with the number of
the failed step, unless the step was broken by the error of another that it reports as it came: one
that is a step failure with another number, or, where the step looks for elements to keep or to act
on, any that does not carry the number. -/
theorem Executor.stepFailure_iff (host : Host σ) (options : RunOptions) :
    (∀ (count : Nat) (executor next : Executor) (step : Step) (before after : World σ)
        (journal : List JournalEntry) (failure : Failure), executor.Executed count →
      (executor.execute options step).Runs host before journal after (.ok (.error failure, next)) →
      ((∃ detail, failure.toError = .stepFailure (count + 1) detail) ↔
        ¬ ∃ error, (∃ entry ∈ journal, entry.BreaksWith error) ∧
          step.Unnumbers (count + 1) error)) ∧
    ∀ (scenario : Scenario) (before after : World σ) (journal : List JournalEntry)
        (report : Report) (number : Nat) (error : String) (screenshot : Option Path),
      (Run.scenario options scenario).Runs host before journal after (.ok report) →
      report.verdict = .failed number error screenshot →
      ∃ step, 1 ≤ number ∧ scenario.steps[number - 1]? = some step ∧
        (Text.beginsWith error s!"Step {number} failed: " = true ↔
          ¬ ∃ other, (∃ entry ∈ journal, entry.BreaksWith other) ∧
            step.Unnumbers number other) := by
  constructor
  · intro count executor next step before after journal failure executed ran
    obtain ⟨counted, told⟩ := Executor.told_of_execute ran
    rw [counted, executed.stepNumber_eq] at told
    exact told.numbered_iff
  · intro scenario before after journal report number error screenshot ran failed
    obtain ⟨middle, entries, stopped, parting, started, finished, outcome, stepped, recorded,
      departs, -, tells⟩ := Run.runs_scenario ran
    rw [failed] at tells
    cases stopped with
    | none => cases tells
    | some stopped =>
        obtain ⟨_, same⟩ := tells
        cases same
        obtain ⟨⟨index, counted, placed⟩, told⟩ := (Run.stepsRun_of_steps stepped).told
        have from_one : stopped.number = index + 1 := by simpa [Executor.start] using counted
        refine ⟨stopped.step, by omega, by rw [from_one]; exact placed, ?_⟩
        have departure : ∀ entry ∈ parting, entry.IsWhole := fun entry member =>
          (departs entry member).isWhole
        have closing : (JournalEntry.call started finished .close outcome).IsWhole := fun _ => id
        have ending := List.forall_mem_append.mpr
          ⟨departure, List.forall_mem_singleton.mpr closing⟩
        have whole (other : Error) : (∃ entry ∈ journal, entry.BreaksWith other) ↔
            ∃ entry ∈ entries, entry.BreaksWith other := by
          rw [recorded, exists_breaksWith_append,
            or_iff_left (not_exists_breaksWith ending other)]
        simp only [whole]
        exact told.beginsWith_iff

/-- A page on which every search is refused for good. -/
def Host.refusing : Host Unit :=
  .steady fun
    | .find _ _ => .error (.webDriver "invalid selector" "bad")
    | .currentUrl => .ok "about:blank"
    | .screenshot => .ok ByteArray.empty
    | .navigate _ => .ok ()
    | .click _ => .ok ()
    | .sendKeys _ _ => .ok ()
    | .clear _ => .ok ()
    | .reveal _ => .ok ()
    | .close => .ok ()

/-- The failure of a step that looks for an element on that page has no number. -/
theorem Executor.runs_refusing :
    ∃ journal after,
      (Executor.start.execute RunOptions.plain (.locate [.get ".a"] none none)).Runs Host.refusing
        (World.start () []) journal after
        (.ok (.error (.bare (.webDriver "invalid selector" "bad")), ⟨[], 1⟩)) :=
  ⟨_, _, Attempt.runs_of_outcome rfl⟩

/-- The search of a first step is refused for good. -/
theorem Executor.stepFailure_iff_refusing :
    ∃ journal after,
      (Executor.start.execute RunOptions.plain (.locate [.get ".a"] none none)).Runs Host.refusing
        (World.start () []) journal after
        (.ok (.error (.bare (.webDriver "invalid selector" "bad")), ⟨[], 1⟩)) ∧
      ((∃ detail, (Failure.bare (.webDriver "invalid selector" "bad")).toError =
          .stepFailure (0 + 1) detail) ↔
        ¬ ∃ error, (∃ entry ∈ journal, entry.BreaksWith error) ∧
          (Step.locate [.get ".a"] none none).Unnumbers (0 + 1) error) := by
  obtain ⟨journal, after, ran⟩ := Executor.runs_refusing
  exact ⟨journal, after, ran, (Executor.stepFailure_iff Host.refusing RunOptions.plain).1 0
    Executor.start ⟨[], 1⟩ (.locate [.get ".a"] none none) (World.start () []) _ _ _ .start ran⟩

/-- The failure of that step has no number. -/
theorem Executor.bare_refusing :
    ∃ failure next journal after,
      (Executor.start.execute RunOptions.plain (.locate [.get ".a"] none none)).Runs
        Host.refusing (World.start () []) journal after (.ok (.error failure, next)) ∧
      ∀ number detail, failure.toError ≠ .stepFailure number detail := by
  obtain ⟨journal, after, ran⟩ := Executor.runs_refusing
  exact ⟨_, _, journal, after, ran, nofun⟩

end ScenarioRunner
