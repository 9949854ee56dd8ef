import Mathlib.Data.List.Chain
import ScenarioRunner.Proofs.Pacing

/-!
Which refusals are tried again. A refusal that may pass is followed by another search while the
window of the step is open, any other is the last thing that happens in a step.
-/

namespace ScenarioRunner

variable {σ α β ε : Type} {host : Host σ}

/-- Calls of which each that is refused is followed by a search, and is refused in a way that may
pass, unless it is the last. What is the case when the last one is refused is told apart. -/
structure Retried (ends : CallRecord → Error → Prop) (records : List CallRecord) :
    Prop where
  chained : records.IsChain fun record next =>
    ∀ error, record.RefusedWith error → error.isTransient = true ∧ next.IsFind
  last : ∀ record ∈ records.getLast?, ∀ error, record.RefusedWith error → ends record error

namespace Retried

variable {ends ends' : CallRecord → Error → Prop}
  {first second records front rest : List CallRecord} {record : CallRecord} {error : Error}

theorem nil : Retried ends [] := ⟨.nil, by simp⟩

theorem singleton (ended : ∀ error, record.RefusedWith error → ends record error) :
    Retried ends [record] :=
  ⟨.singleton record, by simpa using ended⟩

theorem of_granted (granted : ∀ record ∈ records, record.Granted) : Retried ends records := by
  constructor
  · apply List.Pairwise.isChain
    apply List.pairwise_of_forall_mem_list
    intro record member next _ error refused
    exact absurd refused ((granted record member).not_refusedWith error)
  · intro record member error refused
    exact absurd refused ((granted record (List.mem_of_getLast? member)).not_refusedWith error)

theorem mono (retried : Retried ends records)
    (implies : ∀ record error, ends record error → ends' record error) : Retried ends' records :=
  ⟨retried.chained, fun record member error refused =>
    implies record error (retried.last record member error refused)⟩

/-- Calls behind others that end in a refusal only when it may pass and a search comes next. -/
theorem append (earlier : Retried ends first) (later : Retried ends' second)
    (resumes : ∀ record error, ends record error → error.isTransient = true ∧
      ∃ search rest, second = search :: rest ∧ search.IsFind) :
    Retried ends' (first ++ second) := by
  constructor
  · apply earlier.chained.append later.chained
    intro record last next head error refused
    obtain ⟨passes, search, rest, rfl, find⟩ :=
      resumes record error (earlier.last record last error refused)
    obtain rfl : search = next := by simpa using head
    exact ⟨passes, find⟩
  · intro record member error refused
    rw [List.getLast?_append] at member
    cases second with
    | nil =>
        obtain ⟨-, _, _, impossible, -⟩ :=
          resumes record error (earlier.last record (by simpa using member) error refused)
        cases impossible
    | cons head others =>
        have behind : record ∈ (head :: others).getLast? := by
          simpa [List.getLast?_cons] using member
        exact later.last record behind error refused

/-- Calls behind others that do not end in a refusal. -/
theorem append_of_not (earlier : Retried ends first) (later : Retried ends' second)
    (never : ∀ record error, ¬ ends record error) : Retried ends' (first ++ second) :=
  earlier.append later fun record error ended => absurd ended (never record error)

/-- A refused call is followed by a search or it is the last. -/
theorem next_of_refused (retried : Retried ends records)
    (placed : records = front ++ record :: rest) (refused : record.RefusedWith error) :
    (error.isTransient = true ∧ ∃ search others, rest = search :: others ∧ search.IsFind) ∨
      (rest = [] ∧ ends record error) := by
  cases rest with
  | nil =>
      right
      exact ⟨rfl, retried.last record (by simp [placed]) error refused⟩
  | cons next others =>
      left
      have chained := retried.chained
      rw [placed, List.isChain_append_cons_cons] at chained
      obtain ⟨passes, find⟩ := chained.2.1 error refused
      exact ⟨passes, next, others, rfl, find⟩

end Retried

/-- What may come of a refused call that no other follows. The step fails, and if the refusal is one
that may pass the window is over; or the refusal may pass and the step is waiting without an end. -/
def Stop.MayFollow (deadline : Nat) : Stop ε → CallRecord → Error → Prop
  | .failed _, record, error => error.isTransient = true → deadline ≤ record.finished
  | .broken breakdown, _, error => error.isTransient = true ∧ breakdown = .unending

/-- How a part of a step may end with a refused call. -/
def MayEnd (deadline : Nat) : Except (Stop ε) α → CallRecord → Error → Prop
  | .ok _, _, _ => False
  | .error stop, record, error => stop.MayFollow deadline record error

theorem mayEnd_iff {deadline : Nat} {outcome : Except (Stop ε) α} {record : CallRecord}
    {error : Error} :
    MayEnd deadline outcome record error ↔
      ∃ stop, outcome = .error stop ∧ stop.MayFollow deadline record error := by
  cases outcome <;> simp [MayEnd]

/-- How a look may end with a refused call. It may also leave a refusal that may pass to the next
look, and then it ends with the call. -/
def Look.MayEnd (deadline finish : Nat) :
    Except (Stop Fault) (Look α) → CallRecord → Error → Prop
  | .ok (.settled _), _, _ => False
  | .ok (.unsettled _), record, error => error.isTransient = true ∧ record.finished = finish
  | .error stop, record, error => stop.MayFollow deadline record error

namespace Attempt

/-- Whoever runs the attempt at a time or later searches first. -/
def Opens (host : Host σ) (since : Nat) (attempt : Attempt ε α) : Prop :=
  ∀ ⦃before after : World σ⦄ ⦃journal : List JournalEntry⦄ ⦃outcome : Except ε α⦄,
    since ≤ before.now → Runs host attempt before journal after outcome →
      ∃ search others, calls journal = search :: others ∧ search.IsFind

/-- Whoever runs the attempt makes no call. -/
def IsSilent (host : Host σ) (attempt : Attempt ε α) : Prop :=
  ∀ ⦃before after : World σ⦄ ⦃journal : List JournalEntry⦄ ⦃outcome : Except ε α⦄,
    Runs host attempt before journal after outcome → calls journal = []

theorem Opens.judged {since : Nat} {attempt : Attempt ε α} (opens : Opens host since attempt)
    (judge : α → β) : Opens host since (judge <$> attempt).failing := by
  intro before after journal outcome later ran
  obtain ⟨_, mapped, -⟩ := runs_failing_iff.mp ran
  obtain ⟨_, started, -⟩ := runs_map_iff.mp mapped
  exact opens later started

theorem IsSilent.judged {attempt : Attempt ε α} (silent : IsSilent host attempt)
    (judge : α → β) : IsSilent host (judge <$> attempt).failing := by
  intro before after journal outcome ran
  obtain ⟨_, mapped, -⟩ := runs_failing_iff.mp ran
  obtain ⟨_, started, -⟩ := runs_map_iff.mp mapped
  exact silent started

end Attempt

section Waiting

variable {interval deadline since : Nat} {look : Attempt (Stop Fault) (Look α)}
  {before after : World σ} {journal : List JournalEntry} {outcome : Except (Stop Fault) α}

theorem Polled.opens (opens : Attempt.Opens host since look) (later : since ≤ before.now)
    (polled : Polled host interval deadline look before journal after outcome) :
    ∃ search others, calls journal = search :: others ∧ search.IsFind := by
  cases polled with
  | settled looked => exact opens later looked
  | stopped looked => exact opens later looked
  | expired looked late => exact opens later looked
  | unending looked early still => exact opens later looked
  | again looked early paused continued =>
      obtain ⟨search, others, began, find⟩ := opens later looked
      rw [calls_append, began]
      exact ⟨search, _, rfl, find⟩

theorem Polled.silent (silent : Attempt.IsSilent host look)
    (polled : Polled host interval deadline look before journal after outcome) :
    calls journal = [] := by
  induction polled with
  | settled looked => exact silent looked
  | stopped looked => exact silent looked
  | expired looked late => exact silent looked
  | unending looked early still => exact silent looked
  | again looked early paused continued ih =>
      obtain ⟨rfl, -, -⟩ := Program.runs_pause paused
      simp [silent looked, ih]

/-- Looks that leave refusals to one another make up a wait in which each is followed by a
search. -/
theorem Polled.retried
    (looks : ∀ ⦃before after : World σ⦄ ⦃journal seen⦄,
      Attempt.Runs host look before journal after seen →
        Retried (Look.MayEnd deadline after.now seen) (calls journal))
    (steady : Attempt.Opens host since look ∨ Attempt.IsSilent host look)
    (later : since ≤ before.now)
    (polled : Polled host interval deadline look before journal after outcome) :
    Retried (MayEnd deadline outcome) (calls journal) := by
  induction polled with
  | settled looked => exact looks looked
  | stopped looked => exact looks looked
  | expired looked late =>
      apply (looks looked).mono
      intro record error ended passes
      exact late.trans_eq ended.2.symm
  | unending looked early still =>
      apply (looks looked).mono
      intro record error ended
      exact ⟨ended.1, rfl⟩
  | again looked early paused continued ih =>
      have resumes : since ≤ _ := (later.trans looked.timed.le).trans paused.timed.le
      obtain ⟨rfl, -, -⟩ := Program.runs_pause paused
      rw [calls_append, List.singleton_append, calls_pause]
      rcases steady with opens | silent
      · apply (looks looked).append (ih resumes)
        intro record error ended
        exact ⟨ended.1, continued.opens opens resumes⟩
      · rw [silent looked]
        exact ih resumes

end Waiting

/-- A chain whose first link starts in the document. -/
def Chain.opens : Chain → Bool
  | link :: _ => link.opens
  | [] => false

theorem Link.Leads.opens_or_nil {link : Link} {searches : List CallRecord}
    {elements : List ElementId} (led : link.Leads none searches elements) :
    link.opens = true ∨ elements = [] := by
  cases led with
  | get started finished => exact .inl rfl
  | containsAnywhere started finished => exact .inl rfl
  | find searched =>
      cases searched
      exact .inr rfl
  | parent searched =>
      cases searched
      exact .inr rfl

namespace Chain.Evaluated

variable {chain : Chain} {searches : List CallRecord} {lookup : Lookup}

theorem searches_ne_nil (evaluated : chain.Evaluated 0 none searches lookup)
    (opens : chain.opens = true) : searches ≠ [] := by
  cases evaluated with
  | found => cases opens
  | missing nothing => exact nothing.ne_nil opens
  | matched led nonempty continued => exact List.append_ne_nil_of_left_ne_nil (led.ne_nil opens) _

/-- Only a chain that starts in the document leads to an element. -/
theorem opens {element : ElementId} {others : List ElementId}
    (evaluated : chain.Evaluated 0 none searches (.found (element :: others))) :
    chain.opens = true := by
  cases evaluated with
  | matched led nonempty continued => exact led.opens_or_nil.resolve_right nonempty

end Chain.Evaluated

namespace Attempt

/-- A chain that starts in the document is searched for at once. -/
theorem opens_glance {chain : Chain} (opens : chain.opens = true) (since : Nat) :
    Opens host since (glance chain) := by
  intro before after journal outcome later ran
  obtain ⟨_, evaluated⟩ := evaluated_of_glance ran
  obtain ⟨-, rfl⟩ := evaluated
  cases chain with
  | nil => cases opens
  | cons link rest =>
      cases link with
      | get selector => exact ⟨_, _, rfl, _, _, rfl⟩
      | contains text => exact ⟨_, _, rfl, _, _, rfl⟩
      | _ => cases opens

/-- Any other chain is not searched for at all. -/
theorem silent_glance {chain : Chain} (closed : chain.opens = false) :
    IsSilent host (glance chain) := by
  intro before after journal outcome ran
  obtain ⟨_, evaluated⟩ := evaluated_of_glance ran
  obtain ⟨-, rfl⟩ := evaluated
  cases chain with
  | nil => rfl
  | cons link rest =>
      cases link with
      | get selector => cases closed
      | contains text => cases closed
      | _ => rfl

section Chains

variable {judge : Except Error Lookup → Look α} {interval timeout deadline : Nat}
  {chain : Chain} {before after : World σ} {journal : List JournalEntry}

/-- Whoever waits for it in a window that can be closed searches first. -/
theorem finds_of_poll (opens : chain.opens = true) (fits : Fits before.now timeout)
    {outcome : Except (Stop Fault) α}
    (ran : Runs host (poll interval timeout fun _ => (judge <$> glance chain).failing) before
      journal after outcome) :
    ∃ search others, calls journal = search :: others ∧ search.IsFind := by
  rcases polled_of_poll ran with ⟨-, polled⟩ | ⟨beyond, -⟩
  · exact polled.opens ((opens_glance opens before.now).judged judge) (Nat.le_refl _)
  · exact absurd fits beyond

theorem silent_poll (closed : chain.opens = false) (interval timeout : Nat) :
    IsSilent host (poll interval timeout fun _ => (judge <$> glance chain).failing) := by
  intro before after journal outcome ran
  rcases polled_of_poll ran with ⟨-, polled⟩ | ⟨-, rfl, -⟩
  · exact polled.silent ((silent_glance closed).judged judge)
  · rfl

/-- A glance is cut short by the first refusal. -/
theorem retried_of_look (wary : ∀ error value, judge (.error error) ≠ .settled value)
    {seen : Except (Stop Fault) (Look α)}
    (ran : Runs host (judge <$> glance chain).failing before journal after seen) :
    Retried (Look.MayEnd deadline after.now seen) (calls journal) := by
  obtain ⟨outcome, glanced, rfl⟩ := runs_judged ran
  obtain ⟨looking, told⟩ := glanced_of_runs glanced
  have at_end {front : List CallRecord} {last : CallRecord}
      (ends : calls journal = front ++ [last]) : last.finished = after.now :=
    glanced.timed.finished_last (fun entry member => (looking entry member).isBusy) ends
  cases told with
  | whole granted evaluated => exact .of_granted granted
  | misplaced granted misplaced => exact .of_granted granted
  | @interrupted front last error ends granted refused passes =>
      have finished := at_end ends
      rw [ends]
      apply (Retried.of_granted granted).append_of_not (.singleton ?_) (fun _ _ => id)
      intro other again
      cases refused.symm.trans again
      cases judged : judge (.error error) with
      | settled value => exact absurd judged (wary error value)
      | unsettled fault =>
          show Look.MayEnd deadline after.now (.ok (judge (.error error))) last error
          rw [judged]
          exact ⟨passes, finished⟩
  | @refused front last error ends granted refused halting =>
      rw [ends]
      apply (Retried.of_granted granted).append_of_not (.singleton ?_) (fun _ _ => id)
      intro other again passes
      cases refused.symm.trans again
      cases halting.symm.trans passes

theorem retried_of_poll (wary : ∀ error value, judge (.error error) ≠ .settled value)
    {outcome : Except (Stop Fault) α}
    (ran : Runs host (poll interval timeout fun _ => (judge <$> glance chain).failing) before
      journal after outcome) :
    Retried (MayEnd (before.now + timeout) outcome) (calls journal) := by
  rcases polled_of_poll ran with ⟨-, polled⟩ | ⟨-, rfl, -⟩
  · refine polled.retried (fun _ _ _ _ looked => retried_of_look wary looked) ?_
      (Nat.le_refl before.now)
    cases opens : chain.opens with
    | true => exact .inl ((opens_glance opens before.now).judged judge)
    | false => exact .inr ((silent_glance opens).judged judge)
  · exact .nil

end Chains

section Interactions

variable {options : RunOptions} {chain : Chain} {interaction : Interaction} {timeout deadline : Nat}
  {before after : World σ} {journal : List JournalEntry} {outcome : Except (Stop Fault) Unit}

/-- What is left of a window that can be closed can be closed. -/
theorem opens_tryInteraction (opens : chain.opens = true) {opened : Nat}
    (fits : Fits opened timeout) :
    Opens host opened (tryInteraction options chain interaction (opened + timeout)) := by
  intro before after journal outcome later ran
  obtain ⟨found, middle, resolved, acted, rfl, sought, -, -⟩ := tried_of_runs ran
  have rest_fits : Fits before.now (opened + timeout - before.now) := by
    apply fits_of_deadline
    unfold Fits at fits
    omega
  obtain ⟨search, others, began, find⟩ := finds_of_poll opens rest_fits sought
  rw [calls_append, began]
  exact ⟨search, _, rfl, find⟩

/-- Nothing is done to the elements of a chain that is not searched for, as there are none. -/
theorem silent_tryInteraction (closed : chain.opens = false) :
    IsSilent host (tryInteraction options chain interaction deadline) := by
  intro before after journal outcome ran
  obtain ⟨found, middle, resolved, acted, rfl, sought, -, tried⟩ := tried_of_runs ran
  rw [calls_append, silent_poll closed _ _ sought, List.nil_append]
  cases tried with
  | unresolved => rfl
  | nothing => rfl
  | acted done judged =>
      obtain ⟨_, _, _, -, -, -, evaluated, settles⟩ := (chainWindow_of_resolve sought).evidence
      obtain rfl := Look.eq_found_of_presence settles
      cases closed.symm.trans evaluated.opens

/-- A try ends with its act when there is one. -/
theorem retried_of_tryInteraction {seen : Except (Stop Fault) (Look Unit)}
    (ran : Runs host (tryInteraction options chain interaction deadline) before journal after
      seen) :
    Retried (Look.MayEnd deadline after.now seen) (calls journal) := by
  obtain ⟨found, middle, resolved, acted, rfl, sought, timed, tried⟩ := tried_of_runs ran
  have searched := retried_of_poll (Look.presence_error_ne _ chain) sought
  rw [calls_append]
  cases tried with
  | @unresolved stop =>
      rw [calls_nil, List.append_nil]
      apply searched.mono
      intro record error ended
      cases stop with
      | failed fault =>
          intro passes
          have late : before.now + (deadline - before.now) ≤ record.finished := ended passes
          omega
      | broken breakdown => exact ended
  | nothing => exact searched.append_of_not .nil fun _ _ => id
  | acted done judged =>
      apply searched.append_of_not ?_ fun _ _ => id
      subst judged
      cases done with
      | granted acts called meant granted =>
          exact .of_granted (by simpa [called] using granted)
      | badKeys typed unknown => exact .nil
      | @refused _ record error acts called meant refused =>
          have busy : ∀ entry ∈ acted, entry.IsBusy := fun entry member =>
            JournalEntry.isBusy_of_isAct (acts entry member)
          have ends : calls acted = [] ++ [record] := called
          have finished : record.finished = after.now := timed.finished_last busy ends
          rw [called]
          apply Retried.singleton
          intro other again
          cases refused.symm.trans again
          cases passes : error.isTransient with
          | true =>
              simp only [Look.ofAct, passes, if_true]
              exact ⟨passes, finished⟩
          | false =>
              simp only [Look.ofAct, passes]
              intro passing
              cases passes.symm.trans passing

/-- An interaction is tried again after every refusal that may pass, until its window is over. -/
theorem retried_of_interact
    (ran : Runs host (interact options timeout chain interaction) before journal after outcome) :
    Retried (MayEnd (before.now + timeout) outcome) (calls journal) := by
  obtain ⟨_, opened, _, _, noted, polling, rfl⟩ := runs_lift_bind_iff.mp ran
  obtain ⟨rfl, opened_at, -⟩ := Program.runs_note noted
  rw [← opened_at, List.singleton_append, calls_event]
  rcases polled_of_poll polling with ⟨fits, polled⟩ | ⟨-, rfl, -⟩
  · refine polled.retried (fun _ _ _ _ tried => retried_of_tryInteraction tried) ?_
      (Nat.le_refl opened.now)
    cases opens : chain.opens with
    | true => exact .inl (opens_tryInteraction opens fits)
    | false => exact .inr (silent_tryInteraction opens)
  · exact .nil

/-- The window of an interaction is the last that opens in it. -/
theorem windowOpened?_of_interact (earlier : List JournalEntry)
    (ran : Runs host (interact options timeout chain interaction) before journal after outcome) :
    windowOpened? (earlier ++ journal) = some before.now := by
  have window := interactionWindow_of_interact ran
  obtain ⟨_, opened, _, rest, noted, -, rfl⟩ := runs_lift_bind_iff.mp ran
  obtain ⟨rfl, -, -⟩ := Program.runs_note noted
  rw [List.singleton_append] at window ⊢
  have quiet : Quiet rest := by
    cases window with
    | closed works timed tried => exact (quiet_of_works works).append tried.quiet
    | broken works => exact quiet_of_works works
  exact windowOpened?_append earlier rfl quiet

theorem retried_of_forM {interactions : List Interaction} {earlier : List JournalEntry}
    {opened : Nat} (opens : windowOpened? (earlier ++ journal) = some opened)
    (ran : Runs host (interactions.forM (interact options timeout chain)) before journal after
      outcome) :
    Retried (MayEnd (opened + timeout) outcome) (calls journal) := by
  induction interactions generalizing before journal earlier with
  | nil =>
      obtain ⟨-, -, rfl⟩ := runs_pure_iff.mp ran
      exact .nil
  | cons interaction rest ih =>
      rcases runs_bind_iff.mp ran with ⟨stop, first, rfl⟩ | ⟨_, _, _, _, first, continued, rfl⟩
      · cases opens.symm.trans (windowOpened?_of_interact earlier first)
        exact retried_of_interact first
      · rw [← List.append_assoc] at opens
        rw [calls_append]
        exact (retried_of_interact first).append_of_not (ih opens continued) fun _ _ => id

end Interactions

theorem mayEnd_map (deadline : Nat) (outcome : Except (Stop ε) α) (f : α → β) :
    MayEnd deadline (outcome.map f) = MayEnd deadline outcome := by
  cases outcome <;> rfl

/-- A step that looks for elements is tried again up to the end of its last window. -/
theorem retried_of_perform {options : RunOptions} {stored : StoredChains} {step : Step}
    {target : Chain} {opening : JournalEntry} {opened : Nat} {before after : World σ}
    {journal : List JournalEntry} {outcome : Except (Stop Fault) StoredChains}
    (targeted : step.target? = some target) (began : opening.openedAt? = some before.now)
    (opens : windowOpened? (opening :: journal) = some opened)
    (ran : Runs host (perform options stored step) before journal after outcome) :
    Retried (MayEnd (opened + step.window options) outcome) (calls journal) := by
  have alone {others : List JournalEntry} (same : journal = others) (quiet : Quiet others) :
      opened = before.now := by
    subst same
    exact Option.some.inj (opens.symm.trans (windowOpened?_append [] began quiet))
  cases step with
  | navigate url => cases targeted
  | assertUrlContains fragment timeout => cases targeted
  | locate own storeAs timeout =>
      rcases runs_expand_bind ran with ⟨fault, -, rfl, rfl⟩ | ⟨chain, -, sought⟩
      · exact .nil
      rcases runs_bind_iff.mp sought with ⟨stop, resolved, rfl⟩ | ⟨found, _, _, rest, resolved,
        kept, rfl⟩
      · rw [alone rfl (chainWindow_of_resolve resolved).quiet]
        exact retried_of_poll (Look.presence_error_ne _ chain) resolved
      · obtain ⟨_, _, _, last, printed, stores, rfl⟩ := runs_lift_bind_iff.mp kept
        obtain ⟨rfl, -, -⟩ := Program.runs_printIf printed
        obtain ⟨value, rfl, rfl⟩ : ∃ value, outcome = .ok value ∧ last = [] := by
          cases storeAs <;> exact ⟨_, (runs_pure_iff.mp stores).1, (runs_pure_iff.mp stores).2.2⟩
        rw [alone (by simp) (chainWindow_of_resolve resolved).quiet, List.append_nil,
          List.append_nil]
        exact retried_of_poll (Look.presence_error_ne _ chain) resolved
  | interact own interactions timeout =>
      rcases runs_expand_bind ran with ⟨fault, -, rfl, rfl⟩ | ⟨chain, -, windows⟩
      · exact .nil
      obtain ⟨result, interacted, rfl⟩ := runs_bind_pure windows
      have within : windowOpened? ([opening] ++ journal) = some opened := opens
      rw [mayEnd_map]
      exact retried_of_forM within interacted
  | assertPresent own timeout =>
      rcases runs_expand_bind ran with ⟨fault, -, rfl, rfl⟩ | ⟨chain, -, sought⟩
      · exact .nil
      obtain ⟨result, resolved, rfl⟩ := runs_bind_pure sought
      rw [mayEnd_map, alone rfl (chainWindow_of_resolve resolved).quiet]
      exact retried_of_poll (Look.presence_error_ne _ chain) resolved
  | assertAbsent own timeout =>
      rcases runs_expand_bind ran with ⟨fault, -, rfl, rfl⟩ | ⟨chain, -, waited⟩
      · exact .nil
      obtain ⟨result, vanished, rfl⟩ := runs_bind_pure waited
      rw [mayEnd_map, alone rfl (chainWindow_of_waitAbsent vanished).quiet]
      exact retried_of_poll (Look.absence_error_ne _ chain) vanished

end Attempt

namespace Executor

variable {options : RunOptions} {executor : Executor} {step : Step} {before : World σ}
  {front rest : List CallRecord} {record : CallRecord} {error : Error}

/-- Some window is open at the end of a step. -/
theorem windowOpened?_of_execute (host : Host σ) (options : RunOptions) (executor : Executor)
    (step : Step) (before : World σ) :
    ∃ opened, windowOpened? ((executor.execute options step).run.log host before) = some opened := by
  obtain ⟨_, _, _, recorded, -, -, -, -⟩ :=
    Executor.runs_execute (Program.runs_run host (executor.execute options step).run before)
  rw [recorded]
  exact ⟨_, List.getLast?_cons⟩

/-- What the end of a step tells of the refusal of its last call. -/
theorem retried_of_execute {target : Chain} {opened : Nat} (targeted : step.target? = some target)
    (opens : windowOpened? ((executor.execute options step).run.log host before) = some opened) :
    ∃ outcome : Except (Stop Fault) StoredChains,
      ((executor.execute options step).run.run host before).1 = executor.advance step outcome ∧
      Retried (MayEnd (opened + step.window options) outcome)
        (calls ((executor.execute options step).run.log host before)) := by
  obtain ⟨start, journal, outcome, recorded, same_now, -, attempted, told⟩ :=
    Executor.runs_execute (Program.runs_run host (executor.execute options step).run before)
  rw [recorded] at opens ⊢
  have began : (JournalEntry.event before.now
      (.stepBegan (executor.stepNumber + 1) step executor.stored)).openedAt? = some start.now := by
    rw [same_now]
    rfl
  have retried := Attempt.retried_of_perform targeted began opens attempted
  rw [calls_event]
  exact ⟨outcome, told, retried⟩

/-- The step is over, and has failed, after a refusal that it does not wait out. -/
theorem over_of_refused
    (placed : calls ((executor.execute options step).run.log host before) =
      front ++ record :: rest)
    (refused : record.RefusedWith error)
    (lasting : (step.target?.isSome && error.isTransient) = false) :
    rest = [] ∧ ∃ failure next,
      ((executor.execute options step).run.run host before).1 = .ok (.error failure, next) := by
  cases targeted : step.target? with
  | some target =>
      obtain ⟨opened, opens⟩ := windowOpened?_of_execute host options executor step before
      obtain ⟨outcome, told, retried⟩ := retried_of_execute targeted opens
      have halting : error.isTransient = false := by simpa [targeted] using lasting
      rcases retried.next_of_refused placed refused with ⟨passes, -⟩ | ⟨last, ended⟩
      · cases halting.symm.trans passes
      · obtain ⟨stop, rfl, follows⟩ := mayEnd_iff.mp ended
        cases stop with
        | failed fault => exact ⟨last, _, _, told⟩
        | broken breakdown => cases halting.symm.trans follows.1
  | none =>
      obtain ⟨entries, result, recorded, performed, concluded⟩ :=
        Executor.performed_of_execute
          (Program.runs_run host (executor.execute options step).run before)
      rw [recorded, calls_event] at placed
      have alone {only : CallRecord} (same : [only] = front ++ record :: rest) :
          only = record ∧ rest = [] := by
        cases front <;> simp_all
      cases performed with
      | navigated =>
          obtain ⟨rfl, -⟩ := alone placed
          cases refused
      | refused => exact ⟨(alone placed).2, _, _, concluded⟩
      | addressed window =>
          obtain ⟨last, fault, rfl⟩ := window.ended.halts_last placed ⟨error, refused, rfl⟩
          exact ⟨last, _, _, concluded⟩
      | unknown named => cases targeted.symm.trans named
      | sought seeks => cases targeted.symm.trans (Step.target?_of_sought? seeks)
      | absent => cases targeted
      | interacted => cases targeted

/-- In a step that looks for elements a refusal that may pass is followed by another search while
the window is open, or the step is waiting without an end. -/
theorem searches_of_refused {target : Chain} {opened : Nat}
    (targeted : step.target? = some target)
    (placed : calls ((executor.execute options step).run.log host before) =
      front ++ record :: rest)
    (refused : record.RefusedWith error) (passing : error.isTransient = true)
    (opens : windowOpened? ((executor.execute options step).run.log host before) = some opened)
    (early : record.finished < opened + step.window options) :
    (∃ search others, rest = search :: others ∧ search.IsFind) ∨
      ((executor.execute options step).run.run host before).1 = .error .unending := by
  obtain ⟨outcome, told, retried⟩ := retried_of_execute targeted opens
  rcases retried.next_of_refused placed refused with ⟨-, searched⟩ | ⟨-, ended⟩
  · exact .inl searched
  · obtain ⟨stop, rfl, follows⟩ := mayEnd_iff.mp ended
    cases stop with
    | failed fault =>
        have late : opened + step.window options ≤ record.finished := follows passing
        omega
    | broken breakdown =>
        obtain ⟨-, rfl⟩ := follows
        exact .inr told

end Executor

end ScenarioRunner
