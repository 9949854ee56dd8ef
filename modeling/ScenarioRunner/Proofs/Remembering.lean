import ScenarioRunner.Proofs.Evidence
import ScenarioRunner.Proofs.Spelling

/-!
What an executor has stored after any steps, also after steps that failed: under each name the chain
of the latest step that passed and stored one there.
-/

namespace ScenarioRunner

variable {σ : Type} {host : Host σ}

/-- A target with the stored chain in place of the name that it starts with. -/
inductive StoredChains.Unfolds (stored : StoredChains) : Chain → Chain → Prop where
  | named {name : String} {rest chain : Chain} (found : stored.lookup name = some chain) :
      Unfolds stored (.stored name :: rest) (chain ++ rest)
  | unnamed {target : Chain} (plain : ∀ name rest, target ≠ .stored name :: rest) :
      Unfolds stored target target

/-- One step among others, with the executor before and after it. -/
structure Turn where
  executor : Executor
  step : Step
  result : Except Failure Unit
  next : Executor

/-- A turn stores a chain under a name when its step does and passes. -/
def Turn.Stores (turn : Turn) (name : String) (chain : Chain) : Prop :=
  turn.result = .ok () ∧ ∃ target timeout, turn.step = .locate target (some name) timeout ∧
    turn.executor.stored.Unfolds target chain

/-- The latest chain that turns have stored under a name. -/
def StoredLast (turns : List Turn) (name : String) (chain : Chain) : Prop :=
  ∃ earlier turn later, turns = earlier ++ turn :: later ∧ turn.Stores name chain ∧
    ∀ other ∈ later, ∀ another, ¬ other.Stores name another

/-- What a turn makes of an executor. -/
structure Turn.Keeps (turn : Turn) : Prop where
  counted : turn.next.stepNumber = turn.executor.stepNumber + 1
  failed : ∀ failure, turn.result = .error failure → turn.next.stored = turn.executor.stored
  unnamed : turn.step.storedName? = none → turn.next.stored = turn.executor.stored
  located : ∀ name, turn.result = .ok () → turn.step.storedName? = some name →
    ∃ chain, turn.Stores name chain ∧ (∀ inner, .stored inner ∉ chain) ∧
      turn.next.stored.lookup name = some chain ∧
      ∀ other ≠ name, turn.next.stored.lookup other = turn.executor.stored.lookup other

/-- A turn as some world lets its step go. A step that breaks down leaves no executor. -/
def Turn.Taken (host : Host σ) (options : RunOptions) (turn : Turn) : Prop :=
  ∃ before, ((turn.executor.execute options turn.step).run.run host before).1 =
    .ok (turn.result, turn.next)

/-- An executor takes one step after the other, in worlds as they may be by then. -/
inductive Executor.Went (host : Host σ) (options : RunOptions) : List Turn → Executor → Prop where
  | start : Went host options [] .start
  | next {turns : List Turn} {turn : Turn} (earlier : Went host options turns turn.executor)
      (taken : turn.Taken host options) : Went host options (turns ++ [turn]) turn.next

theorem StoredChains.unfolds_iff {stored : StoredChains} {target chain : Chain} :
    stored.Unfolds target chain ↔ stored.expand target = .ok chain := by
  constructor
  · rintro (@⟨name, rest, chain, found⟩ | plain)
    · simp only [expand, found]
    · unfold expand
      split
      next name rest => exact absurd rfl (plain name rest)
      next => rfl
  · intro expanded
    rcases eq_of_expand_ok expanded with ⟨name, rest, known, rfl, found, rfl⟩ | ⟨rfl, plain⟩
    · exact .named found
    · exact .unnamed plain

/-- Only a chain without names is followed to its end. -/
theorem Chain.Evaluated.nameless {position : Nat} {subject : Option (List ElementId)} {chain : Chain}
    {searches : List CallRecord} {lookup : Lookup}
    (evaluated : Chain.Evaluated position subject chain searches lookup)
    {elements : List ElementId} (found : lookup = .found elements) (name : String) :
    .stored name ∉ chain := by
  induction evaluated with
  | found => simp
  | missing nothing => cases found
  | matched led nonempty continued ih =>
      rw [List.mem_cons, not_or]
      refine ⟨?_, ih found⟩
      rintro rfl
      cases led

theorem StoredChains.after_of_unnamed {step : Step} (unnamed : step.storedName? = none)
    (stored : StoredChains) : stored.after step = stored := by
  cases step with
  | locate target storeAs timeout =>
      obtain rfl : storeAs = none := unnamed
      rfl
  | _ => rfl

theorem Step.eq_locate_of_storedName? {step : Step} {name : String}
    (named : step.storedName? = some name) :
    ∃ target timeout, step = .locate target (some name) timeout := by
  cases step with
  | locate target storeAs timeout =>
      obtain rfl : storeAs = some name := named
      exact ⟨target, timeout, rfl⟩
  | _ => cases named

/-- A step that locates a chain and passes has followed it to its end. -/
theorem Performed.located {options : RunOptions} {stored : StoredChains} {opened : Nat}
    {target : Chain} {storeAs : Option String} {timeout : Option UInt64}
    {journal : List JournalEntry} {outcome : Except (Stop Fault) Unit}
    (performed : Performed options stored opened (.locate target storeAs timeout) journal outcome)
    (passed : outcome = .ok ()) :
    ∃ chain, stored.expand target = .ok chain ∧ ∀ name, .stored name ∉ chain := by
  cases performed with
  | unknown targeted unknown => cases passed
  | @sought _ _ chain ended _ result _ seeks expanded window same =>
      cases seeks
      cases result with
      | error fault => rw [same] at passed; cases passed
      | ok elements =>
          obtain ⟨_, _, lookup, -, -, -, evaluated, settles⟩ := window.evidence
          exact ⟨chain, expanded, evaluated.nameless (Look.eq_found_of_presence settles)⟩

namespace Turn

variable {options : RunOptions} {turn : Turn}

/-- A turn is counted, and concludes with what the step has come to. -/
theorem Taken.performed (taken : turn.Taken host options) :
    ∃ opened journal result, Performed options turn.executor.stored opened turn.step journal result ∧
      .ok (turn.result, turn.next) = turn.executor.conclude turn.step result := by
  obtain ⟨before, executed⟩ := taken
  obtain ⟨journal, result, -, performed, told⟩ :=
    Executor.performed_of_execute (Attempt.runs_of_outcome executed)
  exact ⟨before.now, journal, result, performed, told⟩

theorem Taken.keeps (taken : turn.Taken host options) : turn.Keeps := by
  obtain ⟨opened, journal, outcome, performed, same⟩ := taken.performed
  obtain ⟨executor, step, result, next⟩ := turn
  dsimp only at performed same
  rcases outcome with (fault | breakdown) | done
  · cases same
    exact ⟨rfl, fun _ _ => rfl, fun _ => rfl, nofun⟩
  · cases same
  · cases same
    refine ⟨rfl, nofun, fun unnamed => StoredChains.after_of_unnamed unnamed _, ?_⟩
    intro name _ named
    obtain ⟨target, timeout, rfl⟩ := Step.eq_locate_of_storedName? named
    obtain ⟨chain, expanded, nameless⟩ := performed.located rfl
    have after : executor.stored.after (.locate target (some name) timeout) =
        (name, chain) :: executor.stored := StoredChains.after_locate timeout expanded
    refine ⟨chain, ⟨rfl, target, timeout, rfl, StoredChains.unfolds_iff.mpr expanded⟩, nameless,
      ?_, ?_⟩
    · simp only [Executor.passed, after, List.lookup_cons_self]
    · intro other different
      simp only [Executor.passed, after, List.lookup_cons, beq_false_of_ne different]

end Turn

/-- Turns store nothing under a name but what is told of them. -/
theorem Turn.Stores.unique {turn : Turn} {name : String} {chain other : Chain}
    (stores : turn.Stores name chain) (again : turn.Stores name other) : chain = other := by
  obtain ⟨-, target, timeout, same, unfolds⟩ := stores
  obtain ⟨-, _, _, also, unfolds'⟩ := again
  cases same.symm.trans also
  exact Except.ok.inj ((StoredChains.unfolds_iff.mp unfolds).symm.trans
    (StoredChains.unfolds_iff.mp unfolds'))

theorem Turn.Stores.storedName? {turn : Turn} {name : String} {chain : Chain}
    (stores : turn.Stores name chain) : turn.step.storedName? = some name := by
  obtain ⟨-, target, timeout, same, -⟩ := stores
  rw [same]
  rfl

/-- A chain that is stored has no names in it. -/
theorem Turn.Keeps.nameless {turn : Turn} (keeps : turn.Keeps) {name : String} {chain : Chain}
    (stores : turn.Stores name chain) (inner : String) : .stored inner ∉ chain := by
  obtain ⟨located, again, nameless, -⟩ := keeps.located name stores.1 stores.storedName?
  rw [stores.unique again]
  exact nameless inner

/-- What is stored under a name after a turn is what the turn has stored there, or else what was
stored there before. -/
theorem Turn.Keeps.lookup_iff {turn : Turn} (keeps : turn.Keeps) {name : String} {chain : Chain} :
    turn.next.stored.lookup name = some chain ↔
      turn.Stores name chain ∨
        (∀ another, ¬ turn.Stores name another) ∧ turn.executor.stored.lookup name = some chain := by
  by_cases stores : ∃ another, turn.Stores name another
  · obtain ⟨another, stores⟩ := stores
    obtain ⟨located, again, -, found, -⟩ := keeps.located name stores.1 stores.storedName?
    obtain rfl := stores.unique again
    rw [found]
    constructor
    · rintro ⟨⟩
      exact .inl stores
    · rintro (stores' | ⟨nothing, -⟩)
      · rw [stores.unique stores']
      · exact absurd stores (nothing _)
  · have nothing : ∀ another, ¬ turn.Stores name another := fun another stored =>
      stores ⟨another, stored⟩
    have kept : turn.next.stored.lookup name = turn.executor.stored.lookup name := by
      cases result : turn.result with
      | error failure => rw [keeps.failed failure result]
      | ok done =>
          cases named : turn.step.storedName? with
          | none => rw [keeps.unnamed named]
          | some own =>
              obtain ⟨located, stores', -, -, others⟩ := keeps.located own result named
              refine others name ?_
              rintro rfl
              exact nothing _ stores'
    rw [kept]
    constructor
    · exact fun found => .inr ⟨nothing, found⟩
    · rintro (stores' | ⟨-, found⟩)
      · exact absurd stores' (nothing _)
      · exact found

theorem storedLast_concat {turns : List Turn} {turn : Turn} {name : String} {chain : Chain} :
    StoredLast (turns ++ [turn]) name chain ↔
      turn.Stores name chain ∨
        (∀ another, ¬ turn.Stores name another) ∧ StoredLast turns name chain := by
  constructor
  · rintro ⟨earlier, last, later, split, stores, none_later⟩
    rcases List.eq_nil_or_concat later with rfl | ⟨front, final, rfl⟩
    · obtain ⟨-, same⟩ := List.append_inj' split rfl
      cases same
      exact .inl stores
    · have regrouped : turns ++ [turn] = (earlier ++ last :: front) ++ [final] := by
        rw [split]
        simp
      obtain ⟨rfl, same⟩ := List.append_inj' regrouped rfl
      cases same
      refine .inr ⟨none_later turn (by simp), earlier, last, front, rfl, stores, ?_⟩
      exact fun other member => none_later other (by simp [member])
  · rintro (stores | ⟨nothing, earlier, last, later, rfl, stores, none_later⟩)
    · exact ⟨turns, turn, [], rfl, stores, by simp⟩
    · refine ⟨earlier, last, later ++ [turn], by simp, stores, ?_⟩
      intro other member
      rcases List.mem_append.mp member with inside | final
      · exact none_later other inside
      · rw [List.mem_singleton.mp final]
        exact nothing

/-- What an executor has stored is the history of the steps that it took. Every step is counted; one
that fails stores nothing, and one that passes stores no more than its chain under its name, with the
stored chain in place of the name that its target starts with. So there is under a name what was
stored there last, and no stored chain has a name in it. The steps need not be checked, and the next
one may be taken after a failure. -/
theorem Executor.stored_is_history {options : RunOptions} {turns : List Turn} {executor : Executor}
    (went : Executor.Went host options turns executor) :
    (∀ turn ∈ turns, turn.Keeps) ∧ executor.stepNumber = turns.length ∧
      ∀ name chain,
        (executor.stored.lookup name = some chain ↔ StoredLast turns name chain) ∧
        (executor.stored.lookup name = some chain → ∀ inner, .stored inner ∉ chain) := by
  have history : (∀ turn ∈ turns, turn.Keeps) ∧ executor.stepNumber = turns.length ∧
      ∀ name chain, executor.stored.lookup name = some chain ↔ StoredLast turns name chain := by
    induction went with
    | start => exact ⟨by simp, rfl, by simp [start, StoredLast]⟩
    | next earlier taken ih =>
        obtain ⟨keeps, counted, last⟩ := ih
        have now := taken.keeps
        refine ⟨List.forall_mem_append.mpr ⟨keeps, List.forall_mem_singleton.mpr now⟩, ?_, ?_⟩
        · rw [now.counted, List.length_append]
          exact congrArg (· + 1) counted
        · intro name chain
          rw [now.lookup_iff, storedLast_concat, ← last]
  obtain ⟨keeps, counted, last⟩ := history
  refine ⟨keeps, counted, fun name chain => ⟨last name chain, fun found => ?_⟩⟩
  obtain ⟨_, turn, _, rfl, stores, -⟩ := (last name chain).mp found
  exact (keeps turn (by simp)).nameless stores

/-- A name is stored and then stored again from itself. A target that starts with an unknown name and
a target with a name out of place fail and leave it. -/
theorem Executor.stored_is_history_rows :
    let list := ("row", [Link.get ".list"])
    let items := ("row", [Link.get ".list", .find "li"])
    let first : Turn := ⟨.start, .locate [.get ".list"] (some "row") none, .ok (), ⟨[list], 1⟩⟩
    let second : Turn := ⟨first.next, .locate [.stored "row", .find "li"] (some "row") none, .ok (),
      ⟨[items, list], 2⟩⟩
    let third : Turn := ⟨second.next, .assertPresent [.stored "column"] none,
      .error (.numbered 3 (.neverLocated "column")), ⟨[items, list], 3⟩⟩
    let fourth : Turn := ⟨third.next, .locate [.get "a", .stored "row"] (some "item") none,
      .error (.numbered 4 (.misplacedName "row")), ⟨[items, list], 4⟩⟩
    let turns := [first, second, third, fourth]
    Executor.Went Host.agreeable .plain turns fourth.next ∧
    fourth.next.stepNumber = 4 ∧
    fourth.next.stored.lookup "row" = some [.get ".list", .find "li"] ∧
    StoredLast turns "row" [.get ".list", .find "li"] ∧
    (∀ chain, ¬ StoredLast turns "item" chain) ∧ fourth.Keeps := by
  intro list items first second third fourth turns
  have located : first.Taken Host.agreeable .plain := ⟨.start () [], by decide +kernel⟩
  have relocated : second.Taken Host.agreeable .plain := ⟨.start () [], by decide +kernel⟩
  have unknown : third.Taken Host.agreeable .plain := ⟨.start () [], by decide +kernel⟩
  have misplaced : fourth.Taken Host.agreeable .plain := ⟨.start () [], by decide +kernel⟩
  have went : Executor.Went Host.agreeable .plain turns fourth.next :=
    (((Executor.Went.start.next located).next relocated).next unknown).next misplaced
  obtain ⟨keeps, counted, stored⟩ := Executor.stored_is_history went
  refine ⟨went, counted, rfl, (stored _ _).1.mp rfl, fun chain last => ?_,
    keeps fourth (by simp [turns])⟩
  have item := (stored _ _).1.mpr last
  cases item

end ScenarioRunner
