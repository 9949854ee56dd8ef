import Mathlib.Data.List.DropRight
import ScenarioRunner.Proofs.Grounding

/-!
What it is for a scenario to be well formed, said without the scan that decides it, and that the
check accepts just the well-formed scenarios and names the first step that breaks a rule.
-/

namespace ScenarioRunner

/-- A text is blank just when nothing is left of it between the white space at its ends. -/
theorem Text.isBlank_iff (text : String) : isBlank text = true ↔ trim text = "" := by
  have cut : trimCharacters text.toList = [] ↔ ∀ c ∈ text.toList, isSpace c = true := by
    show (text.toList.dropWhile isSpace).rdropWhile isSpace = [] ↔ _
    rw [List.rdropWhile_eq_nil_iff]
    constructor
    · intro spaces c member
      rw [← List.takeWhile_append_dropWhile (p := isSpace) (l := text.toList)] at member
      rcases List.mem_append.mp member with front | back
      · exact List.mem_takeWhile_imp front
      · exact spaces c back
    · intro spaces c member
      exact spaces c ((List.dropWhile_sublist isSpace).mem member)
  simp [isBlank, trim, cut]

/-- One of the steps is a locate step that stores its chain under the name. -/
def StoresName (steps : List Step) (name : String) : Prop :=
  ∃ target timeout, .locate target (some name) timeout ∈ steps

/-- A chain that may be looked for after some steps. -/
structure Chain.WellFormed (earlier : List Step) (chain : Chain) : Prop where
  nonempty : chain ≠ []
  opensWithoutParent : chain.head? ≠ some .parent
  opensWithoutFind : ∀ selector, chain.head? ≠ some (.find selector)
  arguments : .get "" ∉ chain ∧ .find "" ∉ chain ∧ .contains "" ∉ chain
  namesOnlyFirst : ∀ name, .stored name ∉ chain.tail
  namesStored : ∀ name, .stored name ∈ chain → StoresName earlier name

/-- A step that may be done after some steps. -/
def Step.WellFormed (earlier : List Step) : Step → Prop
  | .navigate url => Text.trim url ≠ ""
  | .locate target storeAs _ =>
    Chain.WellFormed earlier target ∧ ∀ name, storeAs = some name → Text.trim name ≠ ""
  | .interact target interactions _ =>
    Chain.WellFormed earlier target ∧ interactions ≠ [] ∧
      ∀ text, .typeText text ∈ interactions → ∃ keys, Text.expandKeys text = .ok keys
  | .assertPresent target _ => Chain.WellFormed earlier target
  | .assertAbsent target _ => Chain.WellFormed earlier target
  | .assertUrlContains fragment _ => fragment ≠ ""

/-- Steps each of which may be done after the steps before it, which follow some steps. -/
def StepsWellFormed (earlier steps : List Step) : Prop :=
  ∀ before step after, steps = before ++ step :: after → step.WellFormed (earlier ++ before)

/-- A scenario has a name and steps, and each step may be done after the steps before it. -/
structure Scenario.WellFormed (scenario : Scenario) : Prop where
  named : Text.trim scenario.name ≠ ""
  nonempty : scenario.steps ≠ []
  steps : StepsWellFormed [] scenario.steps

/-- A check that goes on after another succeeds just when both do. -/
theorem bind_eq_ok_iff {ε α : Type} {first : Except ε Unit} {next : Unit → Except ε α}
    {value : α} :
    (first >>= next) = .ok value ↔ first = .ok () ∧ next () = .ok value := by
  constructor
  · intro checked
    obtain ⟨_, done, continued⟩ := ok_of_bind checked
    exact ⟨done, continued⟩
  · rintro ⟨rfl, continued⟩
    exact continued

/-- A check that fails under a condition succeeds just when the condition does not hold. -/
theorem guard_eq_ok_iff {ε : Type} {condition : Prop} [Decidable condition] {fault : ε} :
    (if condition then throw fault else pure () : Except ε Unit) = .ok () ↔ ¬ condition := by
  by_cases holds : condition <;>
    simp [holds, throw, throwThe, MonadExceptOf.throw, pure, Except.pure]

theorem guard_bind_eq_ok_iff {ε α : Type} {condition : Prop} [Decidable condition] {fault : ε}
    {skipped : Unit → Except ε α} {next : Except ε α} {value : α} :
    (if condition then throw fault >>= skipped else next) = .ok value ↔
      ¬ condition ∧ next = .ok value := by
  by_cases holds : condition <;>
    simp [holds, throw, throwThe, MonadExceptOf.throw, bind, Except.bind]

theorem forM_eq_ok_iff {ε α : Type} {check : α → Except ε Unit} {list : List α} :
    list.forM check = .ok () ↔ ∀ value ∈ list, check value = .ok () := by
  refine ⟨forall_of_forM, fun each => ?_⟩
  induction list with
  | nil => rfl
  | cons head rest ih =>
      apply bind_eq_ok_iff.mpr
      exact ⟨each head (by simp), ih fun value member => each value (by simp [member])⟩

/-- Checks in a row fail at the first that does. -/
theorem forM_eq_error_iff {ε α : Type} {check : α → Except ε Unit} {list : List α} {fault : ε} :
    list.forM check = .error fault ↔ ∃ front value back, list = front ++ value :: back ∧
      (∀ earlier ∈ front, check earlier = .ok ()) ∧ check value = .error fault := by
  induction list with
  | nil =>
      constructor
      · intro failed
        cases failed
      · rintro ⟨front, value, back, split, -⟩
        simp at split
  | cons head rest ih =>
      have unfolded : (head :: rest).forM check = check head >>= fun _ => rest.forM check := rfl
      rw [unfolded]
      constructor
      · intro failed
        cases first : check head with
        | error other =>
            rw [first] at failed
            cases failed
            exact ⟨[], head, rest, rfl, by simp, first⟩
        | ok done =>
            rw [first] at failed
            obtain ⟨front, value, back, rfl, earlier, broken⟩ := ih.mp failed
            exact ⟨head :: front, value, back, rfl, List.forall_mem_cons.mpr ⟨first, earlier⟩, broken⟩
      · rintro ⟨front, value, back, split, earlier, broken⟩
        cases front with
        | nil =>
            obtain ⟨rfl, rfl⟩ := List.cons.inj split
            rw [broken]
            rfl
        | cons other front =>
            obtain ⟨rfl, rfl⟩ := List.cons.inj split
            obtain ⟨first, others⟩ := List.forall_mem_cons.mp earlier
            rw [first]
            exact ih.mpr ⟨front, value, back, rfl, others, broken⟩

theorem mapError_eq_ok_iff {ε δ α : Type} {result : Except ε α} {f : ε → δ} {value : α} :
    result.mapError f = .ok value ↔ result = .ok value := by
  cases result <;> simp [Except.mapError]

/-- The known names are the names that some steps store. -/
def NamesOf (earlier : List Step) (known : List String) : Prop :=
  ∀ name, name ∈ known ↔ StoresName earlier name

theorem namesOf_nil : NamesOf [] [] := by
  simp [NamesOf, StoresName]

/-- A step adds the name that it stores. -/
theorem NamesOf.after {earlier : List Step} {known : List String} (names : NamesOf earlier known)
    (step : Step) : NamesOf (earlier ++ [step]) (step.addName known) := by
  intro name
  have before := names name
  simp only [StoresName] at before
  cases step with
  | locate target storeAs timeout =>
      cases storeAs <;>
        simp [Step.addName, Step.storedName?, StoresName, before, or_comm, exists_or]
  | _ => simp [Step.addName, Step.storedName?, StoresName, before]

/-- A link passes when its argument is not empty and, should it be a name, it comes first and is
known. -/
theorem Link.check_eq_ok_iff {known : List String} {first : Bool} {link : Link} :
    link.check known first = .ok () ↔
      link.argument? ≠ some "" ∧
        ∀ name, link = .stored name → first = true ∧ name ∈ known := by
  cases link with
  | stored name =>
      cases first <;> by_cases member : name ∈ known <;> simp [check, argument?, member]
  | _ => simp [check]

theorem Link.needsSubject_iff {link : Link} :
    link.needsSubject = true ↔ link = .parent ∨ ∃ selector, link = .find selector := by
  cases link <;> simp [needsSubject]

/-- No link of a chain has an empty argument. -/
theorem Chain.arguments_iff {chain : Chain} :
    (∀ link ∈ chain, link.argument? ≠ some "") ↔
      .get "" ∉ chain ∧ .find "" ∉ chain ∧ .contains "" ∉ chain := by
  constructor
  · intro filled
    exact ⟨fun member => filled _ member rfl, fun member => filled _ member rfl,
      fun member => filled _ member rfl⟩
  · rintro ⟨noGet, noFind, noContains⟩ link member empty
    cases link <;> simp [Link.argument?] at empty <;> simp_all

/-- A chain passes when its first link may open it and the others may follow. -/
theorem Chain.check_cons_eq_ok_iff {known : List String} {link : Link} {rest : Chain} :
    Chain.check known (link :: rest) = .ok () ↔
      ¬ link.needsSubject = true ∧ link.check known true = .ok () ∧
        ∀ other ∈ rest, other.check known false = .ok () := by
  simp only [check]
  rw [guard_bind_eq_ok_iff, bind_eq_ok_iff, forM_eq_ok_iff]

theorem Chain.wellFormed_of_check {earlier : List Step} {known : List String} {link : Link}
    {rest : Chain} (names : NamesOf earlier known)
    (checked : Chain.check known (link :: rest) = .ok ()) :
    Chain.WellFormed earlier (link :: rest) := by
  simp only [check_cons_eq_ok_iff, Link.check_eq_ok_iff, Link.needsSubject_iff] at checked
  obtain ⟨opens, ⟨argument, place⟩, others⟩ := checked
  have behind (name : String) : .stored name ∉ rest := fun member =>
    Bool.false_ne_true ((others _ member).2 name rfl).1
  have filled : ∀ other ∈ link :: rest, other.argument? ≠ some "" := by
    simp only [List.mem_cons, forall_eq_or_imp]
    exact ⟨argument, fun other member => (others other member).1⟩
  exact {
    nonempty := by simp
    opensWithoutParent := fun parent => opens (.inl (Option.some.inj parent))
    opensWithoutFind := fun selector find => opens (.inr ⟨selector, Option.some.inj find⟩)
    arguments := arguments_iff.mp filled
    namesOnlyFirst := behind
    namesStored := by
      intro name member
      have first : link = .stored name := by simpa [behind name, eq_comm] using member
      exact (names name).mp (place name first).2 }

/-- A chain passes just when it may be looked for after the steps whose names are known. -/
theorem Chain.check_eq_ok_iff {earlier : List Step} {known : List String} {chain : Chain}
    (names : NamesOf earlier known) :
    Chain.check known chain = .ok () ↔ Chain.WellFormed earlier chain := by
  cases chain with
  | nil =>
      constructor
      · intro checked
        cases checked
      · intro wellFormed
        exact absurd rfl wellFormed.nonempty
  | cons link rest =>
      constructor
      · exact wellFormed_of_check names
      · intro wellFormed
        simp only [check_cons_eq_ok_iff, Link.check_eq_ok_iff, Link.needsSubject_iff]
        have filled := arguments_iff.mpr wellFormed.arguments
        refine ⟨?_, ⟨filled link (by simp), ?_⟩,
          fun other member => ⟨filled other (by simp [member]), ?_⟩⟩
        · rintro (rfl | ⟨selector, rfl⟩)
          · exact wellFormed.opensWithoutParent rfl
          · exact wellFormed.opensWithoutFind selector rfl
        · rintro name rfl
          exact ⟨trivial, (names name).mpr (wellFormed.namesStored name (by simp))⟩
        · rintro name rfl
          exact absurd member (wellFormed.namesOnlyFirst name)

/-- Typed text passes just when its keys are known. -/
theorem Interaction.check_eq_ok_iff {interaction : Interaction} :
    interaction.check = .ok () ↔
      ∀ text, interaction = .typeText text → ∃ keys, Text.expandKeys text = .ok keys := by
  cases interaction with
  | typeText text =>
      cases expanded : Text.expandKeys text <;> simp [check, expanded]
  | _ => simp [check]

/-- A step passes just when it may be done after the steps whose names are known. -/
theorem Step.check_eq_ok_iff {earlier : List Step} {known : List String} {step : Step}
    (names : NamesOf earlier known) :
    step.check known = .ok () ↔ step.WellFormed earlier := by
  cases step with
  | navigate url =>
      simp only [check, target?, guard_eq_ok_iff, Text.isBlank_iff, WellFormed, ne_eq]
  | locate target storeAs timeout =>
      simp only [check, target?, bind_eq_ok_iff, mapError_eq_ok_iff, Chain.check_eq_ok_iff names,
        WellFormed]
      cases storeAs with
      | none => simp [pure, Except.pure]
      | some name => simp [guard_eq_ok_iff, Text.isBlank_iff]
  | interact target interactions timeout =>
      simp only [check, target?]
      rw [bind_eq_ok_iff, mapError_eq_ok_iff, guard_bind_eq_ok_iff, forM_eq_ok_iff,
        Chain.check_eq_ok_iff names]
      simp only [Interaction.check_eq_ok_iff, List.isEmpty_iff, WellFormed, ne_eq]
      have typed : (∀ interaction ∈ interactions, ∀ text, interaction = .typeText text →
          ∃ keys, Text.expandKeys text = .ok keys) ↔
          ∀ text, .typeText text ∈ interactions → ∃ keys, Text.expandKeys text = .ok keys := by
        constructor
        · intro each text member
          exact each _ member text rfl
        · rintro each _ member text rfl
          exact each text member
      rw [typed]
  | assertPresent target timeout | assertAbsent target timeout =>
      simp only [check, target?, bind_eq_ok_iff, mapError_eq_ok_iff, Chain.check_eq_ok_iff names,
        WellFormed]
      simp [pure, Except.pure]
  | assertUrlContains fragment timeout =>
      simp only [check, target?, guard_eq_ok_iff, WellFormed, ne_eq]

/-- Steps may be done in a row when the first may be done and the others after it. -/
theorem stepsWellFormed_cons {earlier rest : List Step} {step : Step}
    (first : step.WellFormed earlier) (others : StepsWellFormed (earlier ++ [step]) rest) :
    StepsWellFormed earlier (step :: rest) := by
  intro before later after same
  cases before with
  | nil =>
      obtain ⟨rfl, -⟩ := List.cons.inj same
      simpa using first
  | cons head before =>
      obtain ⟨rfl, rfl⟩ := List.cons.inj same
      simpa using others before later after rfl

/-- The check of steps finds that each may be done after the steps before it, or ends at the first
that may not. -/
theorem checkSteps_cases {earlier : List Step} {known : List String}
    (names : NamesOf earlier known) (number : Nat) (steps : List Step) :
    (checkSteps number known steps = .ok () ∧ StepsWellFormed earlier steps) ∨
      ∃ before step after fault, steps = before ++ step :: after ∧
        StepsWellFormed earlier before ∧ ¬ step.WellFormed (earlier ++ before) ∧
        checkSteps number known steps = .error (.atStep (number + before.length) fault) := by
  induction steps generalizing earlier known number with
  | nil =>
      left
      exact ⟨rfl, by simp [StepsWellFormed]⟩
  | cons step rest ih =>
      unfold checkSteps
      cases checked : step.check known with
      | error fault =>
          right
          have broken : ¬ step.WellFormed earlier := fun wellFormed => by
            rw [(Step.check_eq_ok_iff names).mpr wellFormed] at checked
            cases checked
          exact ⟨[], step, rest, fault, rfl, by simp [StepsWellFormed], by simpa using broken, rfl⟩
      | ok _ =>
          have first := (Step.check_eq_ok_iff names).mp checked
          -- the step does not know its own name, the steps behind it do
          rcases ih (names.after step) (number + 1) with
            ⟨accepted, others⟩ | ⟨before, last, after, fault, rfl, others, broken, rejected⟩
          · left
            exact ⟨accepted, stepsWellFormed_cons first others⟩
          · right
            refine ⟨step :: before, last, after, fault, rfl, stepsWellFormed_cons first others,
              by simpa using broken, ?_⟩
            have next : number + 1 + before.length = number + (step :: before).length := by
              rw [List.length_cons]
              omega
            rw [rejected, next]

namespace Scenario

/-- A report against a scenario that has a name and steps has the number of the first step that may
not be done after the steps before it. -/
def NamesFirstFault (scenario : Scenario) (detail : String) : Prop :=
  Text.trim scenario.name ≠ "" → scenario.steps ≠ [] →
    ∃ before step after, ∃ reason : String, scenario.steps = before ++ step :: after ∧
      StepsWellFormed [] before ∧ ¬ step.WellFormed before ∧
      detail = s!"step {before.length + 1}: {reason}"

/-- The check either finds nothing or reports what is there. -/
theorem validate_cases (scenario : Scenario) :
    (scenario.validate = .ok () ∧ scenario.WellFormed) ∨
      ∃ detail, scenario.validate = .error (.scenarioInvalid detail) ∧ ¬ scenario.WellFormed ∧
        scenario.NamesFirstFault detail := by
  by_cases blank : Text.trim scenario.name = ""
  · right
    refine ⟨ScenarioFault.blankName.message, ?_, fun wellFormed => wellFormed.named blank,
      fun named => absurd blank named⟩
    simp [validate, check, (Text.isBlank_iff _).mpr blank, bind, Except.bind, throw, throwThe,
      MonadExceptOf.throw, Except.mapError, ScenarioFault.toError]
  have named : ¬ Text.isBlank scenario.name = true := blank ∘ (Text.isBlank_iff _).mp
  by_cases stepless : scenario.steps = []
  · right
    refine ⟨(ScenarioFault.noSteps scenario.name).message, ?_,
      fun wellFormed => wellFormed.nonempty stepless, fun _ some => absurd stepless some⟩
    simp [validate, check, named, stepless, bind, Except.bind, throw, throwThe,
      MonadExceptOf.throw, Except.mapError, ScenarioFault.toError]
  have scanned : scenario.validate =
      (checkSteps 1 [] scenario.steps).mapError ScenarioFault.toError := by
    simp [validate, check, named, stepless]
  rw [scanned]
  rcases checkSteps_cases namesOf_nil 1 scenario.steps with
    ⟨accepted, wellFormed⟩ | ⟨before, step, after, fault, split, others, broken, rejected⟩
  · left
    exact ⟨mapError_eq_ok_iff.mpr accepted, blank, stepless, wellFormed⟩
  · right
    rw [rejected, Nat.add_comm]
    exact ⟨(ScenarioFault.atStep (before.length + 1) fault).message, rfl,
      fun wellFormed => broken (wellFormed.steps before step after split),
      fun _ _ => ⟨before, step, after, fault.message, split, others, broken, rfl⟩⟩

/-- A scenario is accepted just when it is well formed. One that is not is reported as such, with
the number of the first step at fault. -/
theorem validate_eq_ok_iff_wellFormed (scenario : Scenario) :
    (scenario.validate = .ok () ↔ scenario.WellFormed) ∧
    (¬ scenario.WellFormed → ∃ detail, scenario.validate = .error (.scenarioInvalid detail) ∧
      scenario.NamesFirstFault detail) := by
  rcases scenario.validate_cases with
    ⟨accepted, wellFormed⟩ | ⟨detail, rejected, broken, first⟩
  · exact ⟨⟨fun _ => wellFormed, fun _ => accepted⟩, fun broken => absurd wellFormed broken⟩
  · refine ⟨⟨fun accepted => ?_, fun wellFormed => absurd wellFormed broken⟩,
      fun _ => ⟨detail, rejected, first⟩⟩
    rw [rejected] at accepted
    cases accepted

/-- A scenario that finds rows and narrows them to their links, in some order. -/
def narrowing (steps : List Step) : Scenario := ⟨"narrowing", none, none, [], steps⟩

def findRow : Step := .locate [.get "tr"] (some "row") none

def narrowRow : Step := .locate [.stored "row", .find "a"] (some "row") none

/-- A row is found before it is narrowed; the other way round the first step is at fault. -/
theorem validate_eq_ok_iff_wellFormed_narrowing :
    (narrowing [findRow, narrowRow]).WellFormed ∧
      ¬ (narrowing [narrowRow, findRow]).WellFormed ∧
      ∃ detail, (narrowing [narrowRow, findRow]).validate = .error (.scenarioInvalid detail) ∧
        (narrowing [narrowRow, findRow]).NamesFirstFault detail := by
  have ordered : (narrowing [findRow, narrowRow]).validate = .ok () := by rfl
  have turned : (narrowing [narrowRow, findRow]).validate ≠ .ok () := by
    intro accepted
    cases accepted
  obtain ⟨accepts, reports⟩ := validate_eq_ok_iff_wellFormed (narrowing [narrowRow, findRow])
  have broken : ¬ (narrowing [narrowRow, findRow]).WellFormed := turned ∘ accepts.mpr
  exact ⟨(validate_eq_ok_iff_wellFormed _).1.mp ordered, broken, reports broken⟩

/-- What is read from a text is well formed. -/
theorem wellFormed_of_fromYaml {text : String} {scenario : Scenario}
    (read : fromYaml text = .ok scenario) : scenario.WellFormed := by
  rcases scenario.validate_cases with ⟨-, wellFormed⟩ | ⟨detail, rejected, -⟩
  · exact wellFormed
  · rw [validate_of_fromYaml read] at rejected
    cases rejected

end Scenario

end ScenarioRunner
