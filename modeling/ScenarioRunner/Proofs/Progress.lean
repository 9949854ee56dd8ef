import ScenarioRunner.Proofs.Evidence
import ScenarioRunner.Proofs.Punctuality

/-!
How far a step has come with its interactions. Each of them is done once and in its turn, and an
element is acted on right after the lookup that it was found by.
-/

namespace ScenarioRunner

variable {σ : Type} {host : Host σ}

/-- A call that does something to an element. -/
def Call.acts : Call → Bool
  | .click _ => true
  | .sendKeys _ _ => true
  | .clear _ => true
  | .reveal _ => true
  | _ => false

/-- A call that has done something to an element. -/
def CallRecord.isDeed (record : CallRecord) : Bool := record.call.acts && record.outcome.isOk

/-- What was done to elements, in order. -/
def deeds (records : List CallRecord) : List CallRecord := records.filter CallRecord.isDeed

theorem deeds_append (first second : List CallRecord) :
    deeds (first ++ second) = deeds first ++ deeds second :=
  List.filter_append first second

theorem CallRecord.IsFind.not_acts {record : CallRecord} (find : record.IsFind) :
    record.call.acts = false := by
  obtain ⟨locator, scope, same⟩ := find
  rw [same]
  rfl

theorem CallRecord.isDeed_of_granted {record : CallRecord} (acts : record.call.acts = true)
    (granted : record.Granted) : record.isDeed = true := by
  obtain ⟨answer, ok⟩ := granted
  simp [isDeed, acts, ok, Except.isOk, Except.toBool]

theorem CallRecord.not_isDeed_of_refused {record : CallRecord} {error : Error}
    (refused : record.RefusedWith error) : record.isDeed = false := by
  have failed : record.outcome = .error error := refused
  simp [isDeed, failed, Except.isOk, Except.toBool]

/-- Nothing is done by searches. -/
theorem deeds_of_isFind {records : List CallRecord} (finds : ∀ record ∈ records, record.IsFind) :
    deeds records = [] := by
  refine List.filter_eq_nil_iff.mpr fun record member => ?_
  simp [CallRecord.isDeed, (finds record member).not_acts]

theorem deeds_cons_of_isFind {record : CallRecord} {records : List CallRecord}
    (find : record.IsFind) : deeds (record :: records) = deeds records :=
  List.filter_cons_of_neg (by simp [CallRecord.isDeed, find.not_acts])

/-- What an interaction asks for is done to an element. -/
theorem Interaction.acts_of_call {interaction : Interaction} {element : ElementId} {call : Call}
    (meant : interaction.call element = .ok call) : call.acts = true := by
  cases interaction with
  | typeText text =>
      cases expanded : Text.expandKeys text with
      | error error => simp [Interaction.call, expanded, Except.map] at meant
      | ok keys =>
          simp only [Interaction.call, expanded, Except.map, Except.ok.injEq] at meant
          rw [← meant]
          rfl
  | _ =>
      cases meant
      rfl

/-- A call acts on what the searches right before it have found: they evaluate the whole chain, and
the call does to its first element what the interaction asks for. -/
structure Interaction.Aimed (chain : Chain) (interaction : Interaction)
    (searches : List CallRecord) (act : CallRecord) : Prop where
  finds : ∀ record ∈ searches, record.IsFind
  granted : ∀ record ∈ searches, record.Granted
  meant : ∃ element others, chain.Evaluated 0 none searches (.found (element :: others)) ∧
    interaction.call element = .ok act.call

namespace Interaction.Aimed

variable {chain : Chain} {interaction : Interaction} {searches records : List CallRecord}
  {act : CallRecord}

theorem acts (aimed : interaction.Aimed chain searches act) : act.call.acts = true := by
  obtain ⟨element, others, -, meant⟩ := aimed.meant
  exact Interaction.acts_of_call meant

/-- An act that is refused does nothing. -/
theorem deeds_of_refused {error : Error} (aimed : interaction.Aimed chain searches act)
    (refused : act.RefusedWith error) : deeds (searches ++ act :: records) = deeds records := by
  rw [deeds_append, deeds_of_isFind aimed.finds, List.nil_append, deeds,
    List.filter_cons_of_neg (by simp [CallRecord.not_isDeed_of_refused refused]), deeds]

theorem deeds_of_granted (aimed : interaction.Aimed chain searches act) (granted : act.Granted) :
    deeds (searches ++ act :: records) = act :: deeds records := by
  rw [deeds_append, deeds_of_isFind aimed.finds, List.nil_append, deeds,
    List.filter_cons_of_pos (CallRecord.isDeed_of_granted aimed.acts granted), deeds]

/-- An act among calls that begin with these searches and their act is that act, or comes later. -/
theorem eq_or_later {front rest : List CallRecord} {other : CallRecord}
    (aimed : interaction.Aimed chain searches act) (acts : other.call.acts = true)
    (placed : searches ++ act :: records = front ++ other :: rest) :
    (front = searches ∧ other = act) ∨
      ∃ later, front = searches ++ act :: later ∧ records = later ++ other :: rest := by
  have elsewhere : other ∉ searches := by
    intro member
    cases acts.symm.trans (aimed.finds other member).not_acts
  rcases List.append_eq_append_iff.mp placed with ⟨between, rfl, split⟩ | ⟨between, rfl, split⟩
  · cases between with
    | nil =>
        obtain ⟨same, -⟩ := List.cons.inj split
        exact .inl ⟨List.append_nil _, same.symm⟩
    | cons head later =>
        obtain ⟨rfl, same⟩ := List.cons.inj split
        exact .inr ⟨later, rfl, same⟩
  · cases between with
    | nil =>
        obtain ⟨same, -⟩ := List.cons.inj split
        exact .inl ⟨(List.append_nil _).symm, same⟩
    | cons head later =>
        obtain ⟨rfl, -⟩ := List.cons.inj split
        exact absurd (List.mem_append_right _ List.mem_cons_self) elsewhere

end Interaction.Aimed

/-- Calls that lead from the interactions to be done to those that are left. The chain may be
searched for at any time. An act is aimed for the first interaction that is left, which is done when
the act is granted and stays when it is refused. -/
inductive Chain.Advances (chain : Chain) :
    List Interaction → List CallRecord → List Interaction → Prop where
  | still (left : List Interaction) : Advances chain left [] left
  | searched {left last : List Interaction} {record : CallRecord} {records : List CallRecord}
      (find : record.IsFind) (continued : Advances chain left records last) :
      Advances chain left (record :: records) last
  | refused {interaction : Interaction} {left last : List Interaction} {act : CallRecord}
      {searches records : List CallRecord} {error : Error}
      (aimed : interaction.Aimed chain searches act) (refused : act.RefusedWith error)
      (continued : Advances chain (interaction :: left) records last) :
      Advances chain (interaction :: left) (searches ++ act :: records) last
  | done {interaction : Interaction} {left last : List Interaction} {act : CallRecord}
      {searches records : List CallRecord} (aimed : interaction.Aimed chain searches act)
      (granted : act.Granted) (continued : Advances chain left records last) :
      Advances chain (interaction :: left) (searches ++ act :: records) last

namespace Chain.Advances

variable {chain : Chain}

theorem trans {first middle last : List Interaction} {records later : List CallRecord}
    (advances : chain.Advances first records middle)
    (continued : chain.Advances middle later last) :
    chain.Advances first (records ++ later) last := by
  induction advances with
  | still left => exact continued
  | searched find _ ih => exact .searched find (ih continued)
  | refused aimed refused _ ih =>
      rw [List.append_assoc, List.cons_append]
      exact .refused aimed refused (ih continued)
  | done aimed granted _ ih =>
      rw [List.append_assoc, List.cons_append]
      exact .done aimed granted (ih continued)

/-- Searches leave every interaction to be done. -/
theorem of_isFind (left : List Interaction) {records : List CallRecord}
    (finds : ∀ record ∈ records, record.IsFind) : chain.Advances left records left := by
  induction records with
  | nil => exact .still left
  | cons record rest ih =>
      obtain ⟨find, others⟩ := List.forall_mem_cons.mp finds
      exact .searched find (ih others)

/-- The deeds are those of the first interactions, one for each and in order. -/
theorem deeds_eq {first last : List Interaction} {records : List CallRecord}
    (advances : chain.Advances first records last) :
    ∃ finished, first = finished ++ last ∧
      List.Forall₂ (fun interaction record => ∃ element,
        Interaction.call element interaction = .ok record.call) finished (deeds records) := by
  induction advances with
  | still left => exact ⟨[], rfl, .nil⟩
  | @searched left last record records find _ ih =>
      obtain ⟨finished, split, each⟩ := ih
      refine ⟨finished, split, ?_⟩
      rwa [deeds_cons_of_isFind find]
  | @refused interaction left last act searches records error aimed refused _ ih =>
      obtain ⟨finished, split, each⟩ := ih
      refine ⟨finished, split, ?_⟩
      rwa [aimed.deeds_of_refused refused]
  | @done interaction left last act searches records aimed granted _ ih =>
      obtain ⟨finished, rfl, each⟩ := ih
      obtain ⟨element, others, -, meant⟩ := aimed.meant
      refine ⟨interaction :: finished, rfl, ?_⟩
      rw [aimed.deeds_of_granted granted]
      exact .cons ⟨element, meant⟩ each

/-- Every act is aimed for the interaction whose turn it is. As many interactions were done before
as it has before it in the list. -/
theorem aimed_of_acts {first last : List Interaction} {records front rest : List CallRecord}
    {act : CallRecord} (advances : chain.Advances first records last)
    (placed : records = front ++ act :: rest) (acts : act.call.acts = true) :
    ∃ interaction earlier searches, first[(deeds front).length]? = some interaction ∧
      front = earlier ++ searches ∧ interaction.Aimed chain searches act := by
  induction advances generalizing front with
  | still left => simp at placed
  | @searched left last record records find _ ih =>
      cases front with
      | nil =>
          obtain ⟨rfl, -⟩ := List.cons.inj placed
          cases acts.symm.trans find.not_acts
      | cons head front =>
          obtain ⟨rfl, same⟩ := List.cons.inj placed
          obtain ⟨interaction, earlier, searches, turn, rfl, aimed⟩ := ih same
          refine ⟨interaction, record :: earlier, searches, ?_, rfl, aimed⟩
          rwa [deeds_cons_of_isFind find]
  | @refused interaction left last own searches records error aimed refused _ ih =>
      rcases aimed.eq_or_later acts placed with ⟨rfl, rfl⟩ | ⟨later, rfl, same⟩
      · exact ⟨interaction, [], front, by rw [deeds_of_isFind aimed.finds]; rfl, rfl, aimed⟩
      · obtain ⟨next, earlier, others, turn, rfl, next_aimed⟩ := ih same
        refine ⟨next, searches ++ own :: earlier, others, ?_, by simp, next_aimed⟩
        rwa [aimed.deeds_of_refused refused]
  | @done interaction left last own searches records aimed granted _ ih =>
      rcases aimed.eq_or_later acts placed with ⟨rfl, rfl⟩ | ⟨later, rfl, same⟩
      · exact ⟨interaction, [], front, by rw [deeds_of_isFind aimed.finds]; rfl, rfl, aimed⟩
      · obtain ⟨next, earlier, others, turn, rfl, next_aimed⟩ := ih same
        refine ⟨next, searches ++ own :: earlier, others, ?_, by simp, next_aimed⟩
        rw [aimed.deeds_of_granted granted]
        exact turn

end Chain.Advances

/-- The interactions that are left after a try. -/
def Interaction.leftByTry (interaction : Interaction) (rest : List Interaction) :
    Except (Stop Fault) (Look Unit) → List Interaction
  | .ok (.settled ()) => rest
  | _ => interaction :: rest

/-- The interactions that are left after the window of the first one. -/
def Interaction.leftBy (interaction : Interaction) (rest : List Interaction) :
    Except (Stop Fault) Unit → List Interaction
  | .ok () => rest
  | .error _ => interaction :: rest

theorem ChainWindow.isFind {α : Type} {judge : Except Error Lookup → Look α}
    {timeout opened ended : Nat} {chain : Chain} {journal : List JournalEntry}
    {outcome : Except (Stop Fault) α}
    (window : ChainWindow judge timeout opened ended chain journal outcome) :
    ∀ record ∈ calls journal, record.IsFind := by
  cases window with
  | @closed earlier looks start _ waits timed looked =>
      have before : ∀ entry ∈ earlier, entry.Looks chain.Noted ∨ entry.IsPause :=
        fun entry member => (waits entry member).idle
      have last : ∀ entry ∈ looks, entry.Looks chain.Noted ∨ entry.IsPause :=
        fun entry member => .inl (looked.looking entry member)
      exact isFind_of_looks (List.forall_mem_append.mpr ⟨before, last⟩)
  | broken waits => exact isFind_of_looks fun entry member => (waits entry member).idle

/-- What is done to an element right after it was found advances the interaction. -/
theorem Acted.advances {interaction : Interaction} {element : ElementId}
    {others : List ElementId} {journal : List JournalEntry} {outcome : Except Fault Unit}
    {chain : Chain} {searches : List CallRecord} (rest : List Interaction)
    (finds : ∀ record ∈ searches, record.IsFind) (granted : ∀ record ∈ searches, record.Granted)
    (evaluated : chain.Evaluated 0 none searches (.found (element :: others)))
    (acted : Acted interaction element journal outcome) :
    chain.Advances (interaction :: rest) (searches ++ calls journal)
      (interaction.leftByTry rest (Look.ofAct interaction chain outcome)) := by
  cases acted with
  | granted acts called meant done =>
      rw [called]
      exact .done ⟨finds, granted, element, others, evaluated, meant⟩ done (.still rest)
  | @refused _ record error acts called meant refused =>
      have left : interaction.leftByTry rest
          (Look.ofAct interaction chain (.error (.refused error))) = interaction :: rest := by
        cases passes : error.isTransient <;> simp [Look.ofAct, passes, Interaction.leftByTry]
      rw [called, left]
      exact .refused ⟨finds, granted, element, others, evaluated, meant⟩ refused (.still _)
  | badKeys typed unknown =>
      rw [calls_event, calls_nil, List.append_nil]
      exact .of_isFind _ finds

namespace Attempt

/-- One try advances the interaction, or leaves it as it was. -/
theorem advances_of_tryInteraction {options : RunOptions} {chain : Chain}
    {interaction : Interaction} {deadline : Nat} {before after : World σ}
    {journal : List JournalEntry} {outcome : Except (Stop Fault) (Look Unit)}
    (rest : List Interaction)
    (ran : Runs host (tryInteraction options chain interaction deadline) before journal after
      outcome) :
    chain.Advances (interaction :: rest) (calls journal) (interaction.leftByTry rest outcome) := by
  obtain ⟨found, middle, resolved, acted, rfl, ran_resolve, -, tried⟩ := tried_of_runs ran
  have window := chainWindow_of_resolve ran_resolve
  rw [calls_append]
  cases tried with
  | unresolved =>
      rw [calls_nil, List.append_nil]
      exact .of_isFind _ window.isFind
  | nothing =>
      rw [calls_nil, List.append_nil]
      exact .of_isFind _ window.isFind
  | acted done judged =>
      obtain ⟨earlier, searches, lookup, recorded, finds, granted, evaluated, settles⟩ :=
        window.evidence
      obtain rfl := Look.eq_found_of_presence settles
      obtain ⟨finds_earlier, finds_last⟩ := List.forall_mem_append.mp finds
      subst judged
      rw [recorded, List.append_assoc]
      exact (Chain.Advances.of_isFind _ finds_earlier).trans
        (done.advances rest finds_last granted evaluated)

/-- However often an interaction is tried, it is done once at most, and done when its last try
settles it. -/
theorem advances_of_polled {options : RunOptions} {interval deadline expiry : Nat} {chain : Chain}
    {interaction : Interaction} {before after : World σ} {journal : List JournalEntry}
    {outcome : Except (Stop Fault) Unit} (rest : List Interaction)
    (polled : Polled host interval deadline (tryInteraction options chain interaction expiry)
      before journal after outcome) :
    chain.Advances (interaction :: rest) (calls journal) (interaction.leftBy rest outcome) := by
  induction polled with
  | settled looked => exact advances_of_tryInteraction rest looked
  | stopped looked => exact advances_of_tryInteraction rest looked
  | expired looked late => exact advances_of_tryInteraction rest looked
  | unending looked early still => exact advances_of_tryInteraction rest looked
  | again looked early paused _ ih =>
      obtain ⟨rfl, -, -⟩ := Program.runs_pause paused
      rw [calls_append, calls_append, calls_pause, calls_nil, List.nil_append]
      exact (advances_of_tryInteraction rest looked).trans ih

theorem advances_of_interact {options : RunOptions} {timeout : Nat} {chain : Chain}
    {interaction : Interaction} {before after : World σ} {journal : List JournalEntry}
    {outcome : Except (Stop Fault) Unit} (rest : List Interaction)
    (ran : Runs host (interact options timeout chain interaction) before journal after outcome) :
    chain.Advances (interaction :: rest) (calls journal) (interaction.leftBy rest outcome) := by
  obtain ⟨_, opened, _, _, noted, polled, rfl⟩ := runs_lift_bind_iff.mp ran
  obtain ⟨rfl, -, -⟩ := Program.runs_note noted
  rw [calls_append, calls_event, calls_nil, List.nil_append]
  rcases polled_of_poll polled with ⟨-, tries⟩ | ⟨-, rfl, rfl, rfl⟩
  · exact advances_of_polled rest tries
  · exact .still _

/-- Interactions are done one after the other up to the first that fails. -/
theorem advances_of_forM {options : RunOptions} {timeout : Nat} {chain : Chain}
    {interactions : List Interaction} {before after : World σ} {journal : List JournalEntry}
    {outcome : Except (Stop Fault) Unit}
    (ran : Runs host (interactions.forM (interact options timeout chain)) before journal after
      outcome) :
    ∃ left, chain.Advances interactions (calls journal) left ∧ (left = [] ↔ outcome = .ok ()) := by
  induction interactions generalizing before journal with
  | nil =>
      obtain ⟨rfl, rfl, rfl⟩ := runs_pure_iff.mp ran
      exact ⟨[], .still [], by simp⟩
  | cons interaction rest ih =>
      rcases runs_bind_iff.mp ran with ⟨fault, first, rfl⟩ | ⟨_, _, value, _, first, continued, rfl⟩
      · exact ⟨interaction :: rest, advances_of_interact rest first, by simp⟩
      · obtain ⟨left, advances, finished⟩ := ih continued
        rw [calls_append]
        exact ⟨left, (advances_of_interact rest first).trans advances, finished⟩

end Attempt

/-- A checked step takes its interactions in turn. What it does to elements are its first
interactions, each of them once and in order, and all of them when it passes. Whatever it tries to
do is for the interaction whose turn it is, is done to the first element of the chain, and follows
at once on the last search of the lookup that found it. -/
theorem Executor.interacts_in_turn {options : RunOptions} {known : List String}
    {executor : Executor} {target : Chain} {interactions : List Interaction}
    {timeout : Option UInt64} {before after : World σ} {journal : List JournalEntry}
    {ended : Except Breakdown (Except Failure Unit × Executor)} (prepared : executor.Prepared known)
    (checked : (Step.interact target interactions timeout).check known = .ok ())
    (ran : (executor.execute options (.interact target interactions timeout)).Runs host before
      journal after ended) :
    ∃ chain, executor.stored.expand target = .ok chain ∧
      (∃ count ≤ interactions.length,
        List.Forall₂ (fun interaction record => ∃ element,
          Interaction.call element interaction = .ok record.call)
          (interactions.take count) (deeds (calls journal)) ∧
        (count = interactions.length ↔ ∃ next, ended = .ok (.ok (), next))) ∧
      ∀ front act rest, calls journal = front ++ act :: rest → act.call.acts = true →
        ∃ interaction earlier searches element others,
          interactions[(deeds front).length]? = some interaction ∧
          front = earlier ++ searches ∧ searches ≠ [] ∧
          (∀ record ∈ searches, record.IsFind ∧ record.Granted) ∧
          chain.Evaluated 0 none searches (.found (element :: others)) ∧
          interaction.call element = .ok act.call := by
  obtain ⟨opened, entries, outcome, recorded, -, -, attempted, told⟩ := Executor.runs_execute ran
  obtain ⟨chain, expanded, grounded⟩ :=
    StoredChains.expand_of_check prepared.remembers (Step.check_target checked rfl)
  rcases Attempt.runs_expand_bind attempted with ⟨fault, unknown, -, -⟩ | ⟨other, same, windows⟩
  · cases unknown.symm.trans expanded
  · cases expanded.symm.trans same
    obtain ⟨result, interacted, rfl⟩ := Attempt.runs_bind_pure windows
    obtain ⟨left, advances, finished⟩ := Attempt.advances_of_forM interacted
    rw [recorded, calls_event]
    refine ⟨chain, expanded, ?_, ?_⟩
    · obtain ⟨done, rfl, each⟩ := advances.deeds_eq
      have passed : (∃ next, ended = .ok (.ok (), next)) ↔ result = .ok () := by
        rw [told]
        rcases result with (fault | breakdown) | value <;> simp [Except.map, advance]
      refine ⟨done.length, by simp, by rwa [List.take_left], ?_⟩
      rw [passed, ← finished]
      simp [List.length_append]
    · intro front act rest placed acts
      obtain ⟨interaction, earlier, searches, turn, split, aimed⟩ :=
        advances.aimed_of_acts placed acts
      obtain ⟨element, others, evaluated, meant⟩ := aimed.meant
      exact ⟨interaction, earlier, searches, element, others, turn, split,
        grounded.searches_ne_nil evaluated,
        fun record member => ⟨aimed.finds record member, aimed.granted record member⟩,
        evaluated, meant⟩

/-- A page that is drawn anew under the first clicks. The state counts the clicks still to be
missed. -/
def Host.redrawn : Host Nat where
  openSession _ _ state := ⟨.ok (), 0, state⟩
  call
    | .click _, _, misses + 1 =>
      ⟨.error (.webDriver "stale element reference" "node detached"), 0, misses⟩
    | asked, now, state => { Host.agreeable.call asked now () with state }

/-- Two clicks are missed, and still each interaction is done once. -/
theorem Executor.interacts_in_turn_redrawn :
    (Step.interact [.get ".save"] [.click, .typeText "a{enter}"] none).check [] = .ok () ∧
    ∃ journal after next,
      (Executor.start.execute RunOptions.plain
        (.interact [.get ".save"] [.click, .typeText "a{enter}"] none)).Runs Host.redrawn
          (World.start 2 []) journal after (.ok (.ok (), next)) ∧
      List.Forall₂ (fun interaction record => ∃ element,
        Interaction.call element interaction = .ok record.call)
        [Interaction.click, .typeText "a{enter}"] (deeds (calls journal)) := by
  have checked :
      (Step.interact [.get ".save"] [.click, .typeText "a{enter}"] none).check [] = .ok () := by
    decide +kernel
  have passes : (Program.run Host.redrawn (Executor.start.execute RunOptions.plain
      (.interact [.get ".save"] [.click, .typeText "a{enter}"] none)).run (World.start 2 [])).1 =
        .ok (.ok (), ⟨[], 1⟩) := by
    decide +kernel
  have ran := Attempt.runs_of_outcome passes
  obtain ⟨_, -, ⟨count, -, each, finished⟩, -⟩ :=
    Executor.interacts_in_turn .start checked ran
  obtain rfl : count = 2 := finished.mpr ⟨_, rfl⟩
  exact ⟨checked, _, _, _, ran, each⟩

end ScenarioRunner
