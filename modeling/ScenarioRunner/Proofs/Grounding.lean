import Mathlib.Data.List.Forall2
import ScenarioRunner.Proofs.Stepping
import ScenarioRunner.Scenario.Load

/-!
What the check of a scenario gives to its run: every target expands to a chain that starts in the
document and has no names in it.
-/

namespace ScenarioRunner

/-- A link that can start in the document. -/
def Link.opens : Link → Bool
  | .get _ => true
  | .contains _ => true
  | _ => false

/-- A chain that starts in the document and names no other chain. -/
structure Chain.Grounded (chain : Chain) : Prop where
  opened : ∃ link rest, chain = link :: rest ∧ link.opens = true
  nameless : ∀ name, .stored name ∉ chain

/-- Every known name has a grounded chain under it. -/
def StoredChains.Remembers (stored : StoredChains) (known : List String) : Prop :=
  ∀ name ∈ known, ∃ chain, stored.lookup name = some chain ∧ chain.Grounded

theorem StoredChains.remembers_nil (stored : StoredChains) : stored.Remembers [] := by
  simp [Remembers]

/-- A grounded chain stays grounded when links without names follow it. -/
theorem Chain.Grounded.append {chain rest : Chain} (grounded : chain.Grounded)
    (nameless : ∀ name, .stored name ∉ rest) : Chain.Grounded (chain ++ rest) := by
  obtain ⟨link, others, rfl, opens⟩ := grounded.opened
  refine ⟨⟨link, others ++ rest, rfl, opens⟩, fun name member => ?_⟩
  rcases List.mem_append.mp member with front | back
  · exact grounded.nameless name front
  · exact nameless name back

/-- A check that goes on after another succeeds when both do. -/
theorem ok_of_bind {ε α β : Type} {first : Except ε α} {next : α → Except ε β} {value : β}
    (checked : first >>= next = .ok value) :
    ∃ middle, first = .ok middle ∧ next middle = .ok value := by
  cases first with
  | error fault => cases checked
  | ok middle => exact ⟨middle, rfl, checked⟩

/-- Checks in a row all succeed when the row does. -/
theorem forall_of_forM {ε α : Type} {check : α → Except ε Unit} {list : List α}
    (checked : list.forM check = .ok ()) : ∀ value ∈ list, check value = .ok () := by
  induction list with
  | nil => simp
  | cons head rest ih =>
      obtain ⟨_, first, continued⟩ := ok_of_bind checked
      simp only [List.mem_cons]
      rintro value (rfl | member)
      · exact first
      · exact ih continued value member

/-- A list is mapped when each of its values is, and to the results in their order. -/
theorem mapM_eq_ok_iff {ε α β : Type} {f : α → Except ε β} {list : List α} {results : List β} :
    list.mapM f = .ok results ↔
      List.Forall₂ (fun value result => f value = .ok result) list results := by
  induction list generalizing results with
  | nil => simp [pure, Except.pure, eq_comm]
  | cons head rest ih =>
      rw [List.mapM_cons, List.forall₂_cons_left_iff]
      constructor
      · intro mapped
        obtain ⟨result, first, continued⟩ := ok_of_bind mapped
        obtain ⟨others, each, same⟩ := ok_of_bind continued
        cases same
        exact ⟨result, others, first, ih.mp each, rfl⟩
      · rintro ⟨result, others, first, each, rfl⟩
        rw [first, ih.mpr each]
        rfl

/-- A list is not mapped when one of its values is not, and the first of them tells why. -/
theorem mapM_eq_error_iff {ε α β : Type} {f : α → Except ε β} {list : List α} {fault : ε} :
    list.mapM f = .error fault ↔ ∃ front value back, list = front ++ value :: back ∧
      (∀ earlier ∈ front, ∃ result, f earlier = .ok result) ∧ f value = .error fault := by
  induction list with
  | nil => simp [pure, Except.pure]
  | cons head rest ih =>
      rw [List.mapM_cons]
      constructor
      · intro failed
        cases first : f head with
        | error other =>
            rw [first] at failed
            cases failed
            exact ⟨[], head, rest, rfl, by simp, first⟩
        | ok result =>
            have later : rest.mapM f = .error fault := by
              rw [first] at failed
              cases others : rest.mapM f <;> rw [others] at failed <;> cases failed
              rfl
            obtain ⟨front, value, back, rfl, earlier, broken⟩ := ih.mp later
            exact ⟨head :: front, value, back, rfl,
              List.forall_mem_cons.mpr ⟨⟨result, first⟩, earlier⟩, broken⟩
      · rintro ⟨front, value, back, split, earlier, broken⟩
        cases front with
        | nil =>
            obtain ⟨rfl, rfl⟩ := List.cons.inj split
            rw [broken]
            rfl
        | cons first front =>
            obtain ⟨rfl, rfl⟩ := List.cons.inj split
            obtain ⟨⟨result, known⟩, others⟩ := List.forall_mem_cons.mp earlier
            rw [known, ih.mpr ⟨front, value, back, rfl, others, broken⟩]
            rfl

theorem ok_of_mapError {ε δ : Type} {α : Type} {result : Except ε α} {f : ε → δ} {value : α}
    (mapped : result.mapError f = .ok value) : result = .ok value := by
  cases result with
  | error fault => cases mapped
  | ok other =>
      cases mapped
      rfl

theorem Link.not_stored_of_check {known : List String} {link : Link}
    (checked : link.check known false = .ok ()) (name : String) : link ≠ .stored name := by
  rintro rfl
  simp [check] at checked

theorem Link.known_of_check {known : List String} {name : String}
    (checked : (Link.stored name).check known true = .ok ()) : name ∈ known := by
  by_cases member : name ∈ known
  · exact member
  · simp [check, member] at checked

/-- What the check of a chain finds: no names behind the first link, and a first link that starts
in the document or has a known name. -/
theorem Chain.cases_of_check {known : List String} {target : Chain}
    (checked : Chain.check known target = .ok ()) :
    ∃ link rest, target = link :: rest ∧ (∀ name, .stored name ∉ rest) ∧
      (link.opens = true ∨ ∃ name ∈ known, link = .stored name) := by
  cases target with
  | nil => cases checked
  | cons link rest =>
      cases needs : link.needsSubject with
      | true =>
          simp [check, needs, bind, Except.bind, throw, throwThe, MonadExceptOf.throw] at checked
      | false =>
          simp only [check, needs, Bool.false_eq_true, if_false] at checked
          obtain ⟨_, first, others⟩ := ok_of_bind checked
          have all := forall_of_forM others
          refine ⟨link, rest, rfl, fun name member => ?_, ?_⟩
          · exact Link.not_stored_of_check (all _ member) name rfl
          · cases link with
            | get selector => exact .inl rfl
            | contains text => exact .inl rfl
            | stored name => exact .inr ⟨name, Link.known_of_check first, rfl⟩
            | find selector => cases needs
            | parent => cases needs

/-- A checked target has a grounded expansion. -/
theorem StoredChains.expand_of_check {stored : StoredChains} {known : List String} {target : Chain}
    (remembers : stored.Remembers known) (checked : Chain.check known target = .ok ()) :
    ∃ chain, stored.expand target = .ok chain ∧ chain.Grounded := by
  obtain ⟨link, rest, rfl, nameless, opens | ⟨name, member, rfl⟩⟩ := Chain.cases_of_check checked
  · refine ⟨link :: rest, ?_, ⟨link, rest, rfl, opens⟩, fun name member => ?_⟩
    · cases link with
      | stored name => cases opens
      | _ => rfl
    · rcases List.mem_cons.mp member with rfl | later
      · cases opens
      · exact nameless name later
  · obtain ⟨chain, found, grounded⟩ := remembers name member
    exact ⟨chain ++ rest, by simp [expand, found], grounded.append nameless⟩

theorem Step.check_target {known : List String} {step : Step} {target : Chain}
    (checked : step.check known = .ok ()) (targeted : step.target? = some target) :
    Chain.check known target = .ok () := by
  unfold check at checked
  rw [targeted] at checked
  obtain ⟨_, judged, -⟩ := ok_of_bind checked
  exact ok_of_mapError judged

/-- What a checked target is expanded to is grounded. -/
theorem Step.grounded_of_expand {stored : StoredChains} {known : List String} {step : Step}
    {target chain : Chain} (remembers : stored.Remembers known)
    (checked : step.check known = .ok ()) (targeted : step.target? = some target)
    (expanded : stored.expand target = .ok chain) : chain.Grounded := by
  obtain ⟨other, same, grounded⟩ :=
    StoredChains.expand_of_check remembers (Step.check_target checked targeted)
  cases expanded.symm.trans same
  exact grounded

/-- A checked target is always expanded. -/
theorem Step.expand_ne_error {stored : StoredChains} {known : List String} {step : Step}
    {target : Chain} (remembers : stored.Remembers known) (checked : step.check known = .ok ())
    (targeted : step.target? = some target) (fault : Fault) :
    stored.expand target ≠ .error fault := by
  intro unknown
  obtain ⟨chain, expanded, -⟩ :=
    StoredChains.expand_of_check remembers (Step.check_target checked targeted)
  cases unknown.symm.trans expanded

/-- A checked step has interactions, and the keys of each of them are known. -/
theorem Step.check_interactions {known : List String} {target : Chain}
    {interactions : List Interaction} {timeout : Option UInt64}
    (checked : (Step.interact target interactions timeout).check known = .ok ()) :
    interactions ≠ [] ∧ ∀ interaction ∈ interactions, interaction.check = .ok () := by
  simp only [check, target?] at checked
  obtain ⟨_, -, judged⟩ := ok_of_bind checked
  cases interactions with
  | nil => cases judged
  | cons interaction rest => exact ⟨by simp, forall_of_forM judged⟩

/-- A step that passes keeps what is known remembered, and the name it stores as well. -/
theorem StoredChains.Remembers.after {stored : StoredChains} {known : List String} {step : Step}
    (remembers : stored.Remembers known) (checked : step.check known = .ok ()) :
    (stored.after step).Remembers (step.addName known) := by
  cases step with
  | locate target storeAs timeout =>
      cases storeAs with
      | none => exact remembers
      | some stored_name =>
          obtain ⟨chain, expanded, grounded⟩ :=
            StoredChains.expand_of_check remembers (Step.check_target checked rfl)
          intro name member
          simp only [StoredChains.after, expanded, List.lookup_cons]
          by_cases same : name = stored_name
          · exact ⟨chain, by simp [same], grounded⟩
          · obtain ⟨other, found, also⟩ := remembers name (by
              simpa [Step.addName, Step.storedName?, same] using member)
            have different : (name == stored_name) = false := by simpa using same
            exact ⟨other, by simp only [different, found], also⟩
  | _ => exact remembers

/-- The checks of the steps, one after the other. -/
theorem checkSteps_cons {number : Nat} {known : List String} {step : Step} {rest : List Step}
    (checked : checkSteps number known (step :: rest) = .ok ()) :
    step.check known = .ok () ∧ checkSteps (number + 1) (step.addName known) rest = .ok () := by
  unfold checkSteps at checked
  cases first : step.check known with
  | error fault =>
      rw [first] at checked
      cases checked
  | ok value =>
      rw [first] at checked
      exact ⟨rfl, checked⟩

namespace Scenario

theorem checkSteps_of_validate {scenario : Scenario} (accepted : scenario.validate = .ok ()) :
    checkSteps 1 [] scenario.steps = .ok () := by
  unfold validate at accepted
  have checked := ok_of_mapError accepted
  cases blank : Text.isBlank scenario.name with
  | true => simp [check, blank, bind, Except.bind, throw, throwThe, MonadExceptOf.throw] at checked
  | false =>
      cases stepless : scenario.steps.isEmpty with
      | true =>
          simp [check, blank, stepless, bind, Except.bind, throw, throwThe, MonadExceptOf.throw]
            at checked
      | false => simpa [check, blank, stepless] using checked

/-- What is read from a text is validated. -/
theorem validate_of_fromYaml {text : String} {scenario : Scenario}
    (read : fromYaml text = .ok scenario) : scenario.validate = .ok () := by
  obtain ⟨raw, -, interpolated⟩ := ok_of_bind read
  obtain ⟨filled, -, validated⟩ := ok_of_bind interpolated
  obtain ⟨_, accepted, same⟩ := ok_of_bind validated
  cases same
  exact accepted

end Scenario

end ScenarioRunner
