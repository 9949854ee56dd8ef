import Mathlib.Data.List.DropRight
import ScenarioRunner.Run.Lookup
import ScenarioRunner.Run.World

/-!
What a run adds to the journal, and how the runs of the parts of a program make up its own run.
-/

namespace ScenarioRunner

variable {σ α β : Type}

/-- The entries that an effect leaves in the journal. -/
def Effect.entries (started finished : Nat) : (effect : Effect) → effect.Answer → List JournalEntry
  | .call asked, outcome => [.call started finished asked outcome]
  | .openSession request, outcome => [.session started request outcome]
  | .pause duration, _ => [.pause started duration]
  | .note event, _ => [.event started event]
  | .clock, _ => []
  | .print _, _ => []
  | .fileExists _, _ => []
  | .readFile _, _ => []
  | .writeFile _ _, _ => []
  | .createDirectory _, _ => []

namespace World

/-- A change of the files leaves the journal and the time as they are. -/
theorem change_frame (world : World σ) (result : Except FileError FileTree) :
    (world.change result).2.journal = world.journal ∧ (world.change result).2.now = world.now ∧
      (world.change result).2.host = world.host := by
  cases result <;> exact ⟨rfl, rfl, rfl⟩

theorem history_enact (host : Host σ) (world : World σ) (effect : Effect) :
    (world.enact host effect).2.history =
      world.history ++ effect.entries world.now (world.enact host effect).2.now
        (world.enact host effect).1 := by
  cases effect <;> simp [enact, history, Effect.entries, change_frame]

end World

namespace Program

/-- What a program adds to the journal, in order. -/
def log (host : Host σ) : Program α → World σ → List JournalEntry
  | .done _, _ => []
  | .perform effect next, world =>
    let enacted := world.enact host effect
    effect.entries world.now enacted.2.now enacted.1 ++ (next enacted.1).log host enacted.2

theorem history_run (host : Host σ) (program : Program α) (world : World σ) :
    (program.run host world).2.history = world.history ++ program.log host world := by
  induction program generalizing world with
  | done value => simp [log]
  | perform effect next ih =>
      simp only [run, log]
      rw [ih, World.history_enact, List.append_assoc]

theorem log_bind (host : Host σ) (program : Program α) (next : α → Program β) (world : World σ) :
    (program >>= next).log host world =
      program.log host world ++
        (next (program.run host world).1).log host (program.run host world).2 := by
  change (program.bind next).log host world = _
  induction program generalizing world with
  | done value => rfl
  | perform effect rest ih => simp only [bind, log, run, ih, List.append_assoc]

/-- The program leads from one world to another, adds the log to the journal and ends in the
value. -/
structure Runs (host : Host σ) (program : Program α) (before : World σ) (log : List JournalEntry)
    (after : World σ) (value : α) : Prop where
  result : program.run host before = (value, after)
  recorded : program.log host before = log

variable {host : Host σ} {before after : World σ} {journal : List JournalEntry}

/-- Every program runs. -/
theorem runs_run (host : Host σ) (program : Program α) (world : World σ) :
    program.Runs host world (program.log host world) (program.run host world).2
      (program.run host world).1 :=
  ⟨rfl, rfl⟩

theorem Runs.unique {program : Program α} {value value' : α} {after' : World σ}
    {journal' : List JournalEntry} (first : program.Runs host before journal after value)
    (second : program.Runs host before journal' after' value') :
    value = value' ∧ after = after' ∧ journal = journal' := by
  have same := first.result.symm.trans second.result
  exact ⟨congrArg Prod.fst same, congrArg Prod.snd same,
    first.recorded.symm.trans second.recorded⟩

theorem runs_pure_iff {value result : α} :
    (pure value : Program α).Runs host before journal after result ↔
      result = value ∧ after = before ∧ journal = [] := by
  constructor
  · intro ran
    obtain ⟨ended, recorded⟩ := ran
    rw [run_pure] at ended
    obtain ⟨rfl, rfl⟩ := Prod.mk.inj ended
    exact ⟨rfl, rfl, recorded.symm⟩
  · intro equal
    obtain ⟨rfl, rfl, rfl⟩ := equal
    exact ⟨rfl, rfl⟩

/-- A program that goes on with the value of another runs in two parts. -/
theorem runs_bind_iff {program : Program α} {next : α → Program β} {result : β} :
    (program >>= next).Runs host before journal after result ↔
      ∃ first middle value rest, program.Runs host before first middle value ∧
        (next value).Runs host middle rest after result ∧ journal = first ++ rest := by
  constructor
  · intro ran
    obtain ⟨ended, recorded⟩ := ran
    rw [run_bind] at ended
    rw [log_bind] at recorded
    exact ⟨_, _, _, _, runs_run host program before, ⟨ended, rfl⟩, recorded.symm⟩
  · intro parts
    obtain ⟨first, middle, value, rest, started, continued, rfl⟩ := parts
    refine ⟨?_, ?_⟩
    · rw [run_bind, started.result]
      exact continued.result
    · rw [log_bind, started.result, started.recorded, continued.recorded]

theorem runs_map_iff {program : Program α} {f : α → β} {result : β} :
    (f <$> program).Runs host before journal after result ↔
      ∃ value, program.Runs host before journal after value ∧ result = f value := by
  rw [← bind_pure_comp]
  constructor
  · intro ran
    obtain ⟨first, middle, value, rest, started, continued, rfl⟩ := runs_bind_iff.mp ran
    obtain ⟨rfl, rfl, rfl⟩ := runs_pure_iff.mp continued
    exact ⟨value, by rwa [List.append_nil], rfl⟩
  · intro mapped
    obtain ⟨value, ran, rfl⟩ := mapped
    exact runs_bind_iff.mpr ⟨journal, after, value, [], ran, runs_pure_iff.mpr ⟨rfl, rfl, rfl⟩,
      (List.append_nil journal).symm⟩

/-- One effect is enacted once. -/
theorem runs_ask_iff {effect : Effect} {answer : effect.Answer} :
    (ask effect).Runs host before journal after answer ↔
      before.enact host effect = (answer, after) ∧
        journal = effect.entries before.now after.now answer := by
  constructor
  · intro ran
    obtain ⟨ended, recorded⟩ := ran
    have enacted : before.enact host effect = (answer, after) := ended
    refine ⟨enacted, ?_⟩
    rw [← recorded]
    simp [ask, log, enacted]
  · intro enacting
    obtain ⟨enacted, rfl⟩ := enacting
    exact ⟨enacted, by simp [ask, log, enacted]⟩

theorem runs_call {call : Call} {outcome : call.Outcome}
    (ran : (Program.call call).Runs host before journal after outcome) :
    journal = [.call before.now after.now call outcome] ∧
      outcome = (host.call call before.now before.host).answer ∧
      after.now = before.now + (host.call call before.now before.host).delay ∧
      after.host = (host.call call before.now before.host).state := by
  obtain ⟨enacted, recorded⟩ := runs_ask_iff.mp ran
  obtain ⟨rfl, rfl⟩ := Prod.mk.inj enacted
  exact ⟨recorded, rfl, rfl, rfl⟩

theorem runs_clock {now : Nat} (ran : clock.Runs host before journal after now) :
    journal = [] ∧ after = before ∧ now = before.now := by
  obtain ⟨enacted, recorded⟩ := runs_ask_iff.mp ran
  obtain ⟨rfl, rfl⟩ := Prod.mk.inj enacted
  exact ⟨recorded, rfl, rfl⟩

theorem runs_pause {duration : Nat} {value : Unit}
    (ran : (pause duration).Runs host before journal after value) :
    journal = [.pause before.now duration] ∧ after.now = before.now + duration ∧
      after.host = before.host := by
  obtain ⟨enacted, recorded⟩ := runs_ask_iff.mp ran
  obtain ⟨rfl, rfl⟩ := Prod.mk.inj enacted
  exact ⟨recorded, rfl, rfl⟩

theorem runs_note {event : Event} {value : Unit}
    (ran : (note event).Runs host before journal after value) :
    journal = [.event before.now event] ∧ after.now = before.now ∧ after.host = before.host := by
  obtain ⟨enacted, recorded⟩ := runs_ask_iff.mp ran
  obtain ⟨rfl, rfl⟩ := Prod.mk.inj enacted
  exact ⟨recorded, rfl, rfl⟩

/-- Printing is neither in the journal nor in the time nor in the browser. -/
theorem runs_printIf {wanted : Bool} {text : Text.Styled} {value : Unit}
    (ran : (printIf wanted text).Runs host before journal after value) :
    journal = [] ∧ after.now = before.now ∧ after.host = before.host := by
  unfold printIf at ran
  split at ran
  · obtain ⟨enacted, recorded⟩ := runs_ask_iff.mp ran
    obtain ⟨rfl, rfl⟩ := Prod.mk.inj enacted
    exact ⟨recorded, rfl, rfl⟩
  · obtain ⟨-, rfl, rfl⟩ := runs_pure_iff.mp ran
    exact ⟨rfl, rfl, rfl⟩

end Program

namespace Attempt

variable {ε ε' : Type} {host : Host σ} {before after : World σ} {journal : List JournalEntry}

/-- An attempt runs to an outcome, which is a value or what ended the attempt. -/
abbrev Runs (host : Host σ) (attempt : Attempt ε α) (before : World σ) (journal : List JournalEntry)
    (after : World σ) (outcome : Except ε α) : Prop :=
  Program.Runs host attempt.run before journal after outcome

/-- An attempt that comes to an outcome runs to it. -/
theorem runs_of_outcome {attempt : Attempt ε α} {outcome : Except ε α}
    (ended : (Program.run host attempt.run before).1 = outcome) :
    Runs host attempt before (Program.log host attempt.run before)
      (Program.run host attempt.run before).2 outcome :=
  ⟨Prod.ext ended rfl, rfl⟩

theorem runs_pure_iff {value : α} {outcome : Except ε α} :
    Runs host (pure value : Attempt ε α) before journal after outcome ↔
      outcome = .ok value ∧ after = before ∧ journal = [] :=
  Program.runs_pure_iff

theorem runs_throw_iff {cause : ε} {outcome : Except ε α} :
    Runs host (throw cause) before journal after outcome ↔
      outcome = .error cause ∧ after = before ∧ journal = [] :=
  Program.runs_pure_iff

/-- What ends the first part is the outcome of the whole. -/
theorem runs_bind_iff {attempt : Attempt ε α} {next : α → Attempt ε β} {outcome : Except ε β} :
    Runs host (attempt >>= next) before journal after outcome ↔
      (∃ cause, Runs host attempt before journal after (.error cause) ∧ outcome = .error cause) ∨
      ∃ first middle value rest, Runs host attempt before first middle (.ok value) ∧
        Runs host (next value) middle rest after outcome ∧ journal = first ++ rest := by
  unfold Runs
  rw [ExceptT.run_bind, Program.runs_bind_iff]
  constructor
  · intro parts
    obtain ⟨first, middle, value, rest, started, continued, rfl⟩ := parts
    cases value with
    | error cause =>
        obtain ⟨rfl, rfl, rfl⟩ := Program.runs_pure_iff.mp continued
        exact .inl ⟨cause, by rwa [List.append_nil], rfl⟩
    | ok value => exact .inr ⟨first, middle, value, rest, started, continued, rfl⟩
  · intro alternatives
    rcases alternatives with ⟨cause, started, rfl⟩ | ⟨first, middle, value, rest, started,
      continued, rfl⟩
    · exact ⟨journal, after, .error cause, [], started, Program.runs_pure_iff.mpr ⟨rfl, rfl, rfl⟩,
        (List.append_nil journal).symm⟩
    · exact ⟨first, middle, .ok value, rest, started, continued, rfl⟩

/-- Nothing ends a program early. -/
theorem runs_lift_iff {program : Program α} {outcome : Except ε α} :
    Runs host (liftM program : Attempt ε α) before journal after outcome ↔
      ∃ value, program.Runs host before journal after value ∧ outcome = .ok value :=
  Program.runs_map_iff

/-- A program that comes first in an attempt. -/
theorem runs_lift_bind_iff {program : Program α} {next : α → Attempt ε β}
    {outcome : Except ε β} :
    Runs host (liftM program >>= next) before journal after outcome ↔
      ∃ first middle value rest, program.Runs host before first middle value ∧
        Runs host (next value) middle rest after outcome ∧ journal = first ++ rest := by
  rw [runs_bind_iff]
  constructor
  · intro alternatives
    rcases alternatives with ⟨cause, started, -⟩ | ⟨first, middle, value, rest, started,
      continued, rfl⟩
    · obtain ⟨value, -, impossible⟩ := runs_lift_iff.mp started
      cases impossible
    · obtain ⟨value, ran, same⟩ := runs_lift_iff.mp started
      cases same
      exact ⟨first, middle, value, rest, ran, continued, rfl⟩
  · intro parts
    obtain ⟨first, middle, value, rest, started, continued, rfl⟩ := parts
    exact .inr ⟨first, middle, value, rest, runs_lift_iff.mpr ⟨value, started, rfl⟩, continued,
      rfl⟩

/-- A result that is at hand leaves the world as it is. -/
theorem runs_result_iff {result outcome : Except ε α} :
    Runs host (liftM result : Attempt ε α) before journal after outcome ↔
      outcome = result ∧ after = before ∧ journal = [] :=
  Program.runs_pure_iff

theorem runs_map_iff {attempt : Attempt ε α} {f : α → β} {outcome : Except ε β} :
    Runs host (f <$> attempt) before journal after outcome ↔
      ∃ result, Runs host attempt before journal after result ∧ outcome = result.map f := by
  unfold Runs
  rw [ExceptT.run_map]
  exact Program.runs_map_iff

/-- The outcome of an attempt as a value. -/
theorem runs_outcome_iff {attempt : Attempt ε α} {outcome : Except ε' (Except ε α)} :
    Runs host (attempt.outcome : Attempt ε' (Except ε α)) before journal after outcome ↔
      ∃ result, Runs host attempt before journal after result ∧ outcome = .ok result :=
  Program.runs_map_iff

/-- An attempt that never breaks down ends as it does on its own. -/
theorem runs_failing_iff {attempt : Attempt ε α} {outcome : Except (Stop ε) α} :
    Runs host attempt.failing before journal after outcome ↔
      ∃ result, Runs host attempt before journal after result ∧ outcome = result.mapError .failed :=
  Program.runs_map_iff

theorem runs_request {call : Call} {outcome : Except Fault call.Answer}
    (ran : Runs host (request call) before journal after outcome) :
    ∃ answer : call.Outcome, (Program.call call).Runs host before journal after answer ∧
      outcome = answer.mapError .refused :=
  Program.runs_map_iff.mp ran

end Attempt

/-- The call is a search. -/
def Call.IsFind (call : Call) : Prop := ∃ locator scope, call = .find locator scope

/-- A call with its outcome and the time that it took. -/
structure CallRecord where
  started : Nat
  finished : Nat
  call : Call
  outcome : call.Outcome

namespace CallRecord

/-- The browser did what it was called for. -/
def Granted (record : CallRecord) : Prop := ∃ answer, record.outcome = .ok answer

def RefusedWith (record : CallRecord) (error : Error) : Prop :=
  record.outcome = .error error

theorem Granted.not_refusedWith {record : CallRecord} (granted : record.Granted)
    (error : Error) : ¬ record.RefusedWith error := by
  obtain ⟨answer, ok⟩ := granted
  intro refused
  cases ok.symm.trans refused

/-- The call is a search. -/
def IsFind (record : CallRecord) : Prop := record.call.IsFind

/-- The call was refused in a way that is not waited out. -/
def Halts (passing : Error → Bool) (record : CallRecord) : Prop :=
  ∃ error, record.RefusedWith error ∧ passing error = false

theorem Granted.not_halts {passing : Error → Bool} {record : CallRecord}
    (granted : record.Granted) : ¬ record.Halts passing := by
  intro halts
  obtain ⟨error, refused, -⟩ := halts
  exact granted.not_refusedWith error refused

/-- A refusal that is waited out does not halt. -/
theorem RefusedWith.not_halts {passing : Error → Bool} {record : CallRecord}
    {error : Error} (refused : record.RefusedWith error) (passes : passing error = true) :
    ¬ record.Halts passing := by
  intro halts
  obtain ⟨other, again, halting⟩ := halts
  cases refused.symm.trans again
  exact absurd (passes.symm.trans halting) (by decide)

end CallRecord

def JournalEntry.call? : JournalEntry → Option CallRecord
  | .call started finished asked outcome => some ⟨started, finished, asked, outcome⟩
  | .session _ _ _ => none
  | .pause _ _ => none
  | .event _ _ => none

/-- The calls of a journal, in order. -/
def calls (journal : List JournalEntry) : List CallRecord := journal.filterMap JournalEntry.call?

theorem mem_calls_iff {journal : List JournalEntry} {record : CallRecord} :
    record ∈ calls journal ↔ ∃ entry ∈ journal, entry.call? = some record :=
  List.mem_filterMap

/-- What the entries of a journal have in common tells of its calls. -/
theorem forall_calls {P : JournalEntry → Prop} {Q : CallRecord → Prop}
    {journal : List JournalEntry} (holds : ∀ entry ∈ journal, P entry)
    (tells : ∀ started finished call outcome, P (.call started finished call outcome) →
      Q ⟨started, finished, call, outcome⟩) : ∀ record ∈ calls journal, Q record := by
  intro record member
  obtain ⟨entry, listed, recorded⟩ := mem_calls_iff.mp member
  have held := holds entry listed
  cases entry with
  | call started finished asked outcome =>
      cases recorded
      exact tells started finished asked outcome held
  | _ => cases recorded

@[simp] theorem calls_nil : calls [] = [] := rfl

@[simp] theorem calls_append (first second : List JournalEntry) :
    calls (first ++ second) = calls first ++ calls second :=
  List.filterMap_append

@[simp] theorem calls_call (started finished : Nat) (call : Call) (outcome : call.Outcome)
    (rest : List JournalEntry) :
    calls (.call started finished call outcome :: rest) =
      ⟨started, finished, call, outcome⟩ :: calls rest := rfl

@[simp] theorem calls_pause (started duration : Nat) (rest : List JournalEntry) :
    calls (.pause started duration :: rest) = calls rest := rfl

@[simp] theorem calls_event (time : Nat) (event : Event) (rest : List JournalEntry) :
    calls (.event time event :: rest) = calls rest := rfl

/-- What is taken from the end reaches back to the last element that is not taken. -/
theorem rtakeWhile_append_cons {p : α → Bool} {value : α} {rest : List α} (front : List α)
    (stops : p value = false) (taken : ∀ other ∈ rest, p other = true) :
    (front ++ value :: rest).rtakeWhile p = rest := by
  have behind : ∀ other ∈ rest.reverse, p other = true :=
    fun other member => taken other (List.mem_reverse.mp member)
  rw [List.rtakeWhile, List.reverse_append, List.reverse_cons, List.append_assoc,
    List.takeWhile_append_of_pos behind, List.singleton_append,
    List.takeWhile_cons_of_neg (by simp [stops]), List.append_nil, List.reverse_reverse]

/-- The entries behind the last one with a mark. -/
def behindLast (mark : JournalEntry → Option α) (journal : List JournalEntry) :
    List JournalEntry :=
  journal.rtakeWhile fun entry => (mark entry).isNone

theorem behindLast_append {mark : JournalEntry → Option α} {entry : JournalEntry} {value : α}
    {rest : List JournalEntry} (front : List JournalEntry) (marked : mark entry = some value)
    (unmarked : ∀ other ∈ rest, mark other = none) :
    behindLast mark (front ++ entry :: rest) = rest := by
  refine rtakeWhile_append_cons front (by simp [marked]) fun other member => ?_
  rw [unmarked other member]
  rfl

/-- No call was refused in a way that is not waited out. -/
def Smooth (passing : Error → Bool) (records : List CallRecord) : Prop :=
  ∀ record ∈ records, ¬ record.Halts passing

theorem Smooth.append {passing : Error → Bool} {first second : List CallRecord}
    (smooth : Smooth passing first) (rest : Smooth passing second) :
    Smooth passing (first ++ second) :=
  List.forall_mem_append.mpr ⟨smooth, rest⟩

theorem Smooth.singleton {passing : Error → Bool} {record : CallRecord}
    (smooth : ¬ record.Halts passing) : Smooth passing [record] :=
  List.forall_mem_singleton.mpr smooth

theorem smooth_of_granted {passing : Error → Bool} {records : List CallRecord}
    (granted : ∀ record ∈ records, record.Granted) : Smooth passing records :=
  fun record member => (granted record member).not_halts

/-- The entries follow one another without a gap from the first moment to the last. -/
inductive Timed : Nat → List JournalEntry → Nat → Prop where
  | still (now : Nat) : Timed now [] now
  | call {started finished last : Nat} {call : Call} {outcome : call.Outcome}
      {rest : List JournalEntry} (later : started ≤ finished)
      (continued : Timed finished rest last) :
      Timed started (.call started finished call outcome :: rest) last
  | session {started finished last : Nat} {request : SessionRequest}
      {outcome : Except Error Unit} {rest : List JournalEntry} (later : started ≤ finished)
      (continued : Timed finished rest last) :
      Timed started (.session started request outcome :: rest) last
  | pause {started duration last : Nat} {rest : List JournalEntry}
      (continued : Timed (started + duration) rest last) :
      Timed started (.pause started duration :: rest) last
  | event {now last : Nat} {event : Event} {rest : List JournalEntry}
      (continued : Timed now rest last) : Timed now (.event now event :: rest) last

theorem Timed.le {first last : Nat} {journal : List JournalEntry}
    (timed : Timed first journal last) : first ≤ last := by
  induction timed with
  | still now => exact Nat.le_refl now
  | call later _ ih => exact Nat.le_trans later ih
  | session later _ ih => exact Nat.le_trans later ih
  | pause _ ih => exact Nat.le_trans (Nat.le_add_right _ _) ih
  | event _ ih => exact ih

theorem Timed.append {first middle last : Nat} {journal rest : List JournalEntry}
    (timed : Timed first journal middle) (continued : Timed middle rest last) :
    Timed first (journal ++ rest) last := by
  induction timed with
  | still now => exact continued
  | call later _ ih => exact .call later (ih continued)
  | session later _ ih => exact .session later (ih continued)
  | pause _ ih => exact .pause (ih continued)
  | event _ ih => exact .event (ih continued)

/-- Only calls and pauses let time pass. -/
theorem World.timed_enact (host : Host σ) (world : World σ) (effect : Effect)
    {rest : List JournalEntry} {last : Nat}
    (continued : Timed (world.enact host effect).2.now rest last) :
    Timed world.now
      (effect.entries world.now (world.enact host effect).2.now (world.enact host effect).1 ++ rest)
      last := by
  cases effect with
  | call asked => exact .call (Nat.le_add_right _ _) continued
  | openSession request => exact .session (Nat.le_add_right _ _) continued
  | pause duration => exact .pause continued
  | note event => exact .event continued
  | writeFile path content =>
      simpa [enact, Effect.entries, change_frame] using continued
  | createDirectory path =>
      simpa [enact, Effect.entries, change_frame] using continued
  | _ => exact continued

theorem Program.Runs.timed {host : Host σ} {program : Program α} {before after : World σ}
    {journal : List JournalEntry} {value : α}
    (ran : program.Runs host before journal after value) : Timed before.now journal after.now := by
  obtain ⟨ended, recorded⟩ := ran
  subst recorded
  induction program generalizing before with
  | done value =>
      obtain ⟨-, rfl⟩ := Prod.mk.inj ended
      exact .still _
  | perform effect next ih => exact World.timed_enact host before effect (ih _ ended)

/-- An entry that lets no time pass outside of a call. -/
def JournalEntry.IsBusy : JournalEntry → Prop
  | .call _ _ _ _ => True
  | .session _ _ _ => False
  | .pause _ _ => False
  | .event _ _ => True

theorem Timed.eq_of_calls_nil {first last : Nat} {journal : List JournalEntry}
    (timed : Timed first journal last) (busy : ∀ entry ∈ journal, entry.IsBusy)
    (silent : calls journal = []) : first = last := by
  induction timed with
  | still now => rfl
  | call later _ ih => simp at silent
  | session later _ ih => exact (busy _ List.mem_cons_self).elim
  | pause _ ih => exact (busy _ List.mem_cons_self).elim
  | event _ ih => exact ih (List.forall_mem_cons.mp busy).2 silent

/-- In a journal without pauses the last call ends at the last moment. -/
theorem Timed.finished_last {first last : Nat} {journal : List JournalEntry}
    {front : List CallRecord} {record : CallRecord} (timed : Timed first journal last)
    (busy : ∀ entry ∈ journal, entry.IsBusy) (ends : calls journal = front ++ [record]) :
    record.finished = last := by
  induction timed generalizing front with
  | still now => simp at ends
  | call later continued ih =>
      obtain ⟨-, rest_busy⟩ := List.forall_mem_cons.mp busy
      rw [calls_call] at ends
      cases front with
      | nil =>
          obtain ⟨rfl, silent⟩ := List.cons.inj ends
          exact continued.eq_of_calls_nil rest_busy silent
      | cons head front => exact ih rest_busy (List.cons.inj ends).2
  | session later _ ih => exact (busy _ List.mem_cons_self).elim
  | pause _ ih => exact (busy _ List.mem_cons_self).elim
  | event _ ih => exact ih (List.forall_mem_cons.mp busy).2 ends

end ScenarioRunner
