import ScenarioRunner.Proofs.Waiting
import ScenarioRunner.Run.Executor

/-!
How an interaction goes: tries that the page refuses for the moment, and a last try that decides.
-/

namespace ScenarioRunner

variable {σ : Type} {host : Host σ}

/-- The call that an interaction makes for an element. -/
def Interaction.call (element : ElementId) : Interaction → Except Error Call
  | .click => .ok (.click element)
  | .typeText text => (Text.expandKeys text).map (.sendKeys element)
  | .clear => .ok (.clear element)
  | .reveal => .ok (.reveal element)

/-- The calls by which elements are acted on. -/
def Call.IsAct : Call → Prop
  | .click _ => True
  | .sendKeys _ _ => True
  | .clear _ => True
  | .reveal _ => True
  | _ => False

/-- An entry of an interaction whose keys are known. -/
def JournalEntry.IsAct : JournalEntry → Prop
  | .call _ _ asked _ => asked.IsAct
  | .event _ (.typingBegan text) => ∃ keys, Text.expandKeys text = .ok keys
  | _ => False

/-- Interactions make no other calls. -/
theorem Interaction.isAct_of_meant {interaction : Interaction} {element : ElementId} {call : Call}
    (meant : interaction.call element = .ok call) : call.IsAct := by
  cases interaction with
  | typeText text =>
      obtain ⟨keys, -, rfl⟩ := ok_of_map meant
      trivial
  | _ =>
      cases meant
      trivial

/-- How acting on an element ends. -/
inductive Acted (interaction : Interaction) (element : ElementId) :
    List JournalEntry → Except Fault Unit → Prop where
  | granted {journal : List JournalEntry} {record : CallRecord}
      (acts : ∀ entry ∈ journal, entry.IsAct) (called : calls journal = [record])
      (meant : interaction.call element = .ok record.call) (granted : record.Granted) :
      Acted interaction element journal (.ok ())
  | refused {journal : List JournalEntry} {record : CallRecord} {error : Error}
      (acts : ∀ entry ∈ journal, entry.IsAct) (called : calls journal = [record])
      (meant : interaction.call element = .ok record.call) (refused : record.RefusedWith error) :
      Acted interaction element journal (.error (.refused error))
  | badKeys {time : Nat} {text : String} {error : Error} (typed : interaction = .typeText text)
      (unknown : Text.expandKeys text = .error error) :
      Acted interaction element [.event time (.typingBegan text)] (.error (.badKeys error))

/-- What an act is good for. -/
def Look.ofAct (interaction : Interaction) (chain : Chain) :
    Except Fault Unit → Except (Stop Fault) (Look Unit)
  | .ok () => .ok (.settled ())
  | .error (.refused error) =>
    if error.isTransient then .ok (.unsettled (.notPerformed interaction chain error))
    else .error (.failed (.notPerformed interaction chain error))
  | .error fault => .error (.failed fault)

/-- What a try makes of the elements that its chain was resolved to. -/
inductive Tried (interaction : Interaction) (chain : Chain) :
    Except (Stop Fault) (List ElementId) → List JournalEntry → Except (Stop Fault) (Look Unit) →
      Prop where
  | unresolved {stop : Stop Fault} : Tried interaction chain (.error stop) [] (.error stop)
  | nothing : Tried interaction chain (.ok []) [] (.error (.broken .nothingToActOn))
  | acted {element : ElementId} {others : List ElementId} {journal : List JournalEntry}
      {result : Except Fault Unit} {seen : Except (Stop Fault) (Look Unit)}
      (done : Acted interaction element journal result)
      (judged : seen = Look.ofAct interaction chain result) :
      Tried interaction chain (.ok (element :: others)) journal seen

namespace Attempt

/-- One call is made, and its outcome is that of the attempt. -/
theorem recorded_of_request {call : Call} {before after : World σ} {journal : List JournalEntry}
    {outcome : Except Fault call.Answer}
    (ran : Runs host (request call) before journal after outcome) :
    ∃ record : CallRecord,
      journal = [.call record.started record.finished record.call record.outcome] ∧
      record.call = call ∧ ((∃ answer, outcome = .ok answer ∧ record.Granted) ∨
        ∃ error, outcome = .error (.refused error) ∧ record.RefusedWith error) := by
  obtain ⟨answer, called, rfl⟩ := runs_request ran
  obtain ⟨rfl, -, -, -⟩ := Program.runs_call called
  refine ⟨⟨before.now, after.now, call, answer⟩, rfl, rfl, ?_⟩
  cases answer with
  | ok value => exact .inl ⟨value, rfl, value, rfl⟩
  | error error => exact .inr ⟨error, rfl, rfl⟩

/-- A call to act decides an interaction, whatever was noted before. -/
theorem acted_of_request {interaction : Interaction} {element : ElementId} (call : Call)
    {prelude journal : List JournalEntry} {before after : World σ}
    {outcome : Except Fault call.Answer} {result : Except Fault Unit}
    (meant : interaction.call element = .ok call) (noted : ∀ entry ∈ prelude, entry.IsAct)
    (silent : calls prelude = []) (ran : Runs host (request call) before journal after outcome)
    (same : result = outcome.map fun _ => ()) :
    Acted interaction element (prelude ++ journal) result := by
  obtain ⟨record, rfl, rfl, told⟩ := recorded_of_request ran
  have acts : ∀ entry ∈ prelude ++
      [.call record.started record.finished record.call record.outcome], entry.IsAct :=
    List.forall_mem_append.mpr
      ⟨noted, List.forall_mem_singleton.mpr (Interaction.isAct_of_meant meant)⟩
  have called : calls (prelude ++
      [.call record.started record.finished record.call record.outcome]) = [record] := by
    rw [calls_append, silent, calls_call, calls_nil, List.nil_append]
  rcases told with ⟨value, rfl, granted⟩ | ⟨error, rfl, refused⟩
  · subst same
    exact .granted acts called meant granted
  · subst same
    exact .refused acts called meant refused

theorem acted_of_runs {interaction : Interaction} {element : ElementId} {before after : World σ}
    {journal : List JournalEntry} {outcome : Except Fault Unit}
    (ran : Runs host (act interaction element) before journal after outcome) :
    Acted interaction element journal outcome := by
  have whole : outcome = outcome.map fun _ => () := by cases outcome <;> rfl
  have nothing : ∀ entry ∈ ([] : List JournalEntry), entry.IsAct := by simp
  cases interaction with
  | click => exact acted_of_request (.click element) rfl nothing rfl ran whole
  | clear => exact acted_of_request (.clear element) rfl nothing rfl ran whole
  | reveal => exact acted_of_request (.reveal element) rfl nothing rfl ran whole
  | typeText text =>
      obtain ⟨_, _, _, rest, noted, typed, rfl⟩ := runs_lift_bind_iff.mp ran
      obtain ⟨rfl, -, -⟩ := Program.runs_note noted
      cases expanded : Text.expandKeys text with
      | error error =>
          simp only [expanded] at typed
          obtain ⟨rfl, rfl, rfl⟩ := runs_throw_iff.mp typed
          exact .badKeys rfl expanded
      | ok keys =>
          simp only [expanded] at typed
          have meant : (Interaction.typeText text).call element = .ok (.sendKeys element keys) := by
            simp only [Interaction.call, expanded, Except.map]
          exact acted_of_request (.sendKeys element keys) meant
            (by simp [JournalEntry.IsAct, expanded]) rfl typed whole

/-- A try judges its act without another call. -/
theorem ofAct_of_runs {options : RunOptions} {chain : Chain} {interaction : Interaction}
    {result : Except Fault Unit} {before after : World σ} {journal : List JournalEntry}
    {outcome : Except (Stop Fault) (Look Unit)}
    (ran : Runs host (match result with
      | .ok () => do
        Program.printIf options.verbose (interactionLine interaction chain)
        return .settled ()
      | .error (.refused error) =>
        let fault := Fault.notPerformed interaction chain error
        if error.isTransient then return .unsettled fault else throw (.failed fault)
      | .error fault => throw (.failed fault)) before journal after outcome) :
    journal = [] ∧ outcome = Look.ofAct interaction chain result := by
  cases result with
  | ok value =>
      obtain ⟨_, _, _, _, printed, settled, rfl⟩ := runs_lift_bind_iff.mp ran
      obtain ⟨rfl, -, -⟩ := Program.runs_printIf printed
      obtain ⟨rfl, rfl, rfl⟩ := runs_pure_iff.mp settled
      exact ⟨rfl, rfl⟩
  | error fault =>
      cases fault with
      | refused error =>
          dsimp only at ran
          split at ran
          next passes =>
            obtain ⟨rfl, rfl, rfl⟩ := runs_pure_iff.mp ran
            exact ⟨rfl, by simp only [Look.ofAct, passes, if_true]⟩
          next halting =>
            obtain ⟨rfl, rfl, rfl⟩ := runs_throw_iff.mp ran
            exact ⟨rfl, by simp [Look.ofAct, halting]⟩
      | _ =>
          obtain ⟨rfl, rfl, rfl⟩ := runs_throw_iff.mp ran
          exact ⟨rfl, rfl⟩

/-- A try resolves the chain in what is left of the window and acts on the first element. -/
theorem tried_of_runs {options : RunOptions} {chain : Chain} {interaction : Interaction}
    {deadline : Nat} {before after : World σ} {journal : List JournalEntry}
    {outcome : Except (Stop Fault) (Look Unit)}
    (ran : Runs host (tryInteraction options chain interaction deadline) before journal after
      outcome) :
    ∃ found middle resolved acted, journal = found ++ acted ∧
      Runs host (resolve options.pollInterval (deadline - before.now) chain) before found middle
        resolved ∧ Timed middle.now acted after.now ∧
      Tried interaction chain resolved acted outcome := by
  obtain ⟨_, _, now, _, read, tried, rfl⟩ := runs_lift_bind_iff.mp ran
  obtain ⟨rfl, rfl, rfl⟩ := Program.runs_clock read
  rcases runs_bind_iff.mp tried with ⟨stop, resolved, rfl⟩ | ⟨found, middle, elements, acted,
    resolved, continued, rfl⟩
  · exact ⟨_, after, .error stop, [], (List.append_nil _).symm, resolved, .still _, .unresolved⟩
  · have timed := continued.timed
    refine ⟨found, middle, .ok elements, acted, rfl, resolved, timed, ?_⟩
    cases elements with
    | nil =>
        obtain ⟨rfl, rfl, rfl⟩ := runs_throw_iff.mp continued
        exact .nothing
    | cons element others =>
        dsimp only at continued
        rcases runs_bind_iff.mp continued with ⟨stop, kept, rfl⟩ | ⟨_, _, result, _, kept, judged,
          rfl⟩
        · obtain ⟨_, -, impossible⟩ := runs_outcome_iff.mp kept
          cases impossible
        · obtain ⟨_, ran_act, same⟩ := runs_outcome_iff.mp kept
          cases same
          obtain ⟨rfl, judgement⟩ := ofAct_of_runs judged
          rw [List.append_nil]
          exact .acted (acted_of_runs ran_act) judgement

end Attempt

/-- An entry of a time in which a step retries an interaction with a chain. -/
structure JournalEntry.Works (chain : Chain) (entry : JournalEntry) : Prop where
  busy : entry.Looks chain.Noted ∨ entry.IsPause ∨ entry.IsAct
  smooth : ∀ record, entry.call? = some record → ¬ record.Halts Error.isTransient

theorem JournalEntry.Waits.works {chain : Chain} {entry : JournalEntry}
    (waits : entry.Waits chain) : entry.Works chain :=
  ⟨waits.idle.imp_right .inl, waits.smooth⟩

theorem smooth_of_works {chain : Chain} {journal : List JournalEntry}
    (works : ∀ entry ∈ journal, entry.Works chain) :
    Smooth Error.isTransient (calls journal) :=
  forall_calls works fun _ _ _ _ working => working.smooth _ rfl

/-- What an interaction with a chain comes to, as the last try tells it. -/
inductive Interacted (late : Prop) (chain : Chain) (interaction : Interaction) :
    List JournalEntry → Except (Stop Fault) Unit → Prop where
  | unresolved {timeout : Nat} {looks : List JournalEntry} {stop : Stop Fault}
      (looked : LastLook (Look.presence timeout chain) late chain looks (.error stop)) :
      Interacted late chain interaction looks (.error stop)
  | done {timeout : Nat} {looks acted : List JournalEntry} {element : ElementId}
      {others : List ElementId}
      (looked : LastLook (Look.presence timeout chain) late chain looks (.ok (element :: others)))
      (done : Acted interaction element acted (.ok ())) :
      Interacted late chain interaction (looks ++ acted) (.ok ())
  | refused {timeout : Nat} {looks acted : List JournalEntry} {element : ElementId}
      {others : List ElementId} {error : Error}
      (looked : LastLook (Look.presence timeout chain) late chain looks (.ok (element :: others)))
      (refused : Acted interaction element acted (.error (.refused error)))
      (overdue : error.isTransient = true → late) :
      Interacted late chain interaction (looks ++ acted)
        (.error (.failed (.notPerformed interaction chain error)))
  | badKeys {timeout : Nat} {looks acted : List JournalEntry} {element : ElementId}
      {others : List ElementId} {error : Error}
      (looked : LastLook (Look.presence timeout chain) late chain looks (.ok (element :: others)))
      (unknown : Acted interaction element acted (.error (.badKeys error))) :
      Interacted late chain interaction (looks ++ acted) (.error (.failed (.badKeys error)))

/-- The window in which an interaction is tried. It opens with the interaction. An interaction that breaks
down has come to nothing. -/
inductive InteractionWindow (timeout : Nat) (chain : Chain) (interaction : Interaction) :
    List JournalEntry → Except (Stop Fault) Unit → Prop where
  | closed {opened start ended : Nat} {earlier last : List JournalEntry}
      {outcome : Except (Stop Fault) Unit} (works : ∀ entry ∈ earlier, entry.Works chain)
      (timed : Timed start last ended)
      (tried : Interacted (opened + timeout ≤ ended) chain interaction last outcome) :
      InteractionWindow timeout chain interaction
        (.event opened (.interactionBegan interaction) :: (earlier ++ last)) outcome
  | broken {opened : Nat} {earlier : List JournalEntry} {breakdown : Breakdown}
      (works : ∀ entry ∈ earlier, entry.Works chain) :
      InteractionWindow timeout chain interaction
        (.event opened (.interactionBegan interaction) :: earlier) (.error (.broken breakdown))

/-- A wait that ends with a value ends with granted searches. -/
theorem LastLook.granted {α : Type} {judge : Except Error Lookup → Look α} {late : Prop}
    {chain : Chain} {looks : List JournalEntry} {value : α}
    (looked : LastLook judge late chain looks (.ok value)) :
    ∀ record ∈ calls looks, record.Granted := by
  cases looked.told with
  | settled granted evaluated settles => exact granted

/-- The last look of a wait that ends with a value is work. -/
theorem LastLook.works {α : Type} {judge : Except Error Lookup → Look α} {late : Prop}
    {chain : Chain} {looks : List JournalEntry} {value : α}
    (looked : LastLook judge late chain looks (.ok value)) :
    ∀ entry ∈ looks, entry.Works chain := fun entry member =>
  ⟨.inl (looked.looking entry member), fun record recorded =>
    (looked.granted record (mem_calls_iff.mpr ⟨entry, member, recorded⟩)).not_halts⟩

/-- A wait that ends with a value was work from its first look on. -/
theorem ChainWindow.works {α : Type} {judge : Except Error Lookup → Look α}
    {timeout opened ended : Nat} {chain : Chain} {journal : List JournalEntry} {value : α}
    (window : ChainWindow judge timeout opened ended chain journal (.ok value)) :
    ∀ entry ∈ journal, entry.Works chain := by
  cases window with
  | closed waits timed looked =>
      exact List.forall_mem_append.mpr ⟨fun entry member => (waits entry member).works, looked.works⟩

/-- A try that settles nothing has acted, and its refusal is one that passes. -/
theorem Tried.acts_of_unsettled {interaction : Interaction} {chain : Chain}
    {resolved : Except (Stop Fault) (List ElementId)} {acted : List JournalEntry} {fault : Fault}
    (tried : Tried interaction chain resolved acted (.ok (.unsettled fault))) :
    ∃ elements, resolved = .ok elements ∧ (∀ entry ∈ acted, entry.IsAct) ∧
      Smooth Error.isTransient (calls acted) := by
  cases tried with
  | @acted element others _ result _ done judged =>
      refine ⟨element :: others, rfl, ?_⟩
      cases done with
      | granted acts called meant granted => cases judged
      | badKeys typed unknown => cases judged
      | @refused _ record error acts called meant refused =>
          cases passes : error.isTransient with
          | false =>
              simp only [Look.ofAct, passes] at judged
              cases judged
          | true =>
              rw [called]
              exact ⟨acts, .singleton (refused.not_halts passes)⟩

/-- The last try tells what the interaction comes to, unless there was nothing to act on. -/
theorem Tried.interacted {late : Prop} {timeout deadline now : Nat} {chain : Chain}
    {interaction : Interaction} {looks acted : List JournalEntry}
    {resolved : Except (Stop Fault) (List ElementId)} {seen : Except (Stop Fault) (Look Unit)}
    {outcome : Except (Stop Fault) Unit} (tried : Tried interaction chain resolved acted seen)
    (looked : LastLook (Look.presence timeout chain) late chain looks resolved)
    (concluded : Concluded deadline now seen outcome) (overdue : deadline ≤ now → late) :
    Interacted late chain interaction (looks ++ acted) outcome ∨
      resolved = .ok [] ∧ acted = [] ∧ outcome = .error (.broken .nothingToActOn) := by
  cases tried with
  | unresolved =>
      cases concluded
      rw [List.append_nil]
      exact .inl (.unresolved looked)
  | nothing =>
      cases concluded
      exact .inr ⟨rfl, rfl, rfl⟩
  | acted done judged =>
      refine .inl ?_
      subst judged
      cases done with
      | granted acts called meant granted =>
          cases concluded
          exact .done looked (.granted acts called meant granted)
      | badKeys typed unknown =>
          cases concluded
          exact .badKeys looked (.badKeys typed unknown)
      | @refused _ record error acts called meant refused =>
          have act : Acted interaction _ acted (.error (.refused error)) :=
            .refused acts called meant refused
          cases passes : error.isTransient with
          | true =>
              simp only [Look.ofAct, passes, if_true] at concluded
              cases concluded with
              | expired last => exact .refused looked act fun _ => overdue last
          | false =>
              simp only [Look.ofAct, passes] at concluded
              cases concluded
              exact .refused looked act fun passing => by simp [passes] at passing

namespace Attempt

/-- A try that settles nothing leaves no refusal that halts. -/
theorem works_of_unsettled {options : RunOptions} {chain : Chain} {interaction : Interaction}
    {deadline : Nat} {before after : World σ} {journal : List JournalEntry} {fault : Fault}
    (ran : Runs host (tryInteraction options chain interaction deadline) before journal after
      (.ok (.unsettled fault))) : ∀ entry ∈ journal, entry.Works chain := by
  obtain ⟨found, middle, _, acted, rfl, ran_resolve, -, tried⟩ := tried_of_runs ran
  obtain ⟨elements, rfl, acts, smooth⟩ := tried.acts_of_unsettled
  have worked : ∀ entry ∈ acted, entry.Works chain := fun entry member =>
    ⟨.inr (.inr (acts entry member)), fun record recorded =>
      smooth record (mem_calls_iff.mpr ⟨entry, member, recorded⟩)⟩
  exact List.forall_mem_append.mpr ⟨(chainWindow_of_resolve ran_resolve).works, worked⟩

/-- An interaction is announced, tried for a time and decided by its last try. -/
theorem interactionWindow_of_interact {options : RunOptions} {timeout : Nat} {chain : Chain}
    {interaction : Interaction} {before after : World σ} {journal : List JournalEntry}
    {outcome : Except (Stop Fault) Unit}
    (ran : Runs host (interact options timeout chain interaction) before journal after outcome) :
    InteractionWindow timeout chain interaction journal outcome := by
  obtain ⟨_, opened, _, _, noted, polled, rfl⟩ := runs_lift_bind_iff.mp ran
  obtain ⟨rfl, opened_at, -⟩ := Program.runs_note noted
  have pauses (time : Nat) : (JournalEntry.pause time options.pollInterval).Works chain :=
    ⟨.inr (.inl trivial), by simp [JournalEntry.call?]⟩
  rw [List.singleton_append]
  rcases polled_of_poll polled with ⟨-, tries⟩ | ⟨-, rfl, rfl, rfl⟩
  · rcases tries.last_look (fun _ _ _ _ => works_of_unsettled) pauses with
      ⟨earlier, start, last, seen, rfl, works, attempted, concluded⟩ | ⟨works, rfl⟩
    · rw [opened_at] at attempted concluded
      obtain ⟨found, middle, resolved, acted, rfl, ran_resolve, acted_timed, tried⟩ :=
        tried_of_runs attempted
      have window := chainWindow_of_resolve ran_resolve
      cases window with
      | broken waits =>
          cases tried
          cases concluded
          rw [List.append_nil]
          exact .broken (List.forall_mem_append.mpr
            ⟨works, fun entry member => (waits entry member).works⟩)
      | @closed waiting looks _ _ waits looks_timed looked =>
          have waited : ∀ entry ∈ waiting, entry.Works chain := fun entry member =>
            (waits entry member).works
          have passed := acted_timed.le
          -- the window of the last resolution ends with that of the interaction
          have overdue (late : start.now + (before.now + timeout - start.now) ≤ middle.now) :
              before.now + timeout ≤ after.now := by omega
          rcases tried.interacted (looked.mono overdue) concluded id with
            interacted | ⟨rfl, rfl, rfl⟩
          · rw [List.append_assoc waiting, ← List.append_assoc earlier]
            exact .closed (List.forall_mem_append.mpr ⟨works, waited⟩)
              (looks_timed.append acted_timed) interacted
          · have sought : ∀ entry ∈ waiting ++ looks, entry.Works chain :=
              List.forall_mem_append.mpr ⟨waited, looked.works⟩
            rw [List.append_nil]
            exact .broken (List.forall_mem_append.mpr ⟨works, sought⟩)
    · exact .broken works
  · exact .broken (by simp)

end Attempt

end ScenarioRunner
