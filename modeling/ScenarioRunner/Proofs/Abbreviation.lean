import ScenarioRunner.Proofs.Spelling

/-!
Names of chains are abbreviations. A name stands for the chain that it was given to last, so a run
goes on in the same way when the chains are written out, when names are exchanged for others and
when a name is not given to a chain that nothing goes on from.
-/

namespace ScenarioRunner

variable {σ : Type}

/-- The target of a step that stores its chain under the name. -/
def Step.defines? (name : String) : Step → Option Chain
  | .locate target (some own) _ => if own = name then some target else none
  | _ => none

/-- A chain with the target of the latest earlier step that stores its name written out in place of
the name. The earlier steps are listed from the latest on. -/
def Chain.writtenOut : List Step → Chain → Chain
  | step :: earlier, .stored name :: rest =>
    match step.defines? name with
    | some target => Chain.writtenOut earlier target ++ rest
    | none => Chain.writtenOut earlier (.stored name :: rest)
  | _, chain => chain

/-- Steps with the targets of earlier steps written out in place of names. -/
def writeOut (earlier : List Step) : List Step → List Step
  | [] => []
  | step :: rest => step.reworded (Chain.writtenOut earlier) some :: writeOut (step :: earlier) rest

/-- The scenario without names in its targets. -/
def Scenario.writtenOut (scenario : Scenario) : Scenario :=
  { scenario with steps := writeOut [] scenario.steps }

/-- A chain without a name at its start is written out as it is. -/
theorem Chain.writtenOut_of_unnamed {chain : Chain} (earlier : List Step)
    (unnamed : ∀ name rest, chain ≠ .stored name :: rest) : chain.writtenOut earlier = chain := by
  unfold writtenOut
  split
  next name rest => exact absurd rfl (unnamed name rest)
  next => rfl

/-- Every stored chain is what the earlier steps write out for its name. -/
def StoredChains.Recalls (stored : StoredChains) (earlier : List Step) : Prop :=
  ∀ name chain, stored.lookup name = some chain →
    ∀ rest, Chain.writtenOut earlier (.stored name :: rest) = chain ++ rest

namespace StoredChains.Recalls

variable {stored : StoredChains} {earlier : List Step}

theorem nil (earlier : List Step) : StoredChains.Recalls [] earlier := by
  intro name chain found
  cases found

/-- What a target expands to is what is written out for it. -/
theorem writtenOut_eq {target chain : Chain} (recalls : stored.Recalls earlier)
    (expanded : stored.expand target = .ok chain) : target.writtenOut earlier = chain := by
  rcases StoredChains.eq_of_expand_ok expanded with ⟨name, rest, known, rfl, found, rfl⟩ |
    ⟨rfl, unnamed⟩
  · exact recalls name known found rest
  · exact Chain.writtenOut_of_unnamed earlier unnamed

/-- The chain that a step stores is what is written out for its name from then on. -/
theorem after {step plain : Step} (recalls : stored.Recalls earlier)
    (spells : stored.SpellsStep step plain) : (stored.after step).Recalls (step :: earlier) := by
  have skipped (unchanged : stored.after step = stored)
      (silent : ∀ name, step.defines? name = none) :
      (stored.after step).Recalls (step :: earlier) := by
    intro name chain found rest
    rw [unchanged] at found
    simp only [Chain.writtenOut, silent, recalls name chain found rest]
  cases spells with
  | @locate target chain storeAs timeout expanded grounded =>
      cases storeAs with
      | none => exact skipped rfl fun _ => rfl
      | some own =>
          intro name other found rest
          rw [StoredChains.after_locate timeout expanded, List.lookup_cons] at found
          by_cases same : name = own
          · subst same
            simp only [beq_self_eq_true, Option.some.injEq] at found
            subst found
            simp only [Chain.writtenOut, Step.defines?, if_true, recalls.writtenOut_eq expanded]
          · have different : (name == own) = false := by simpa using same
            simp only [different] at found
            simp only [Chain.writtenOut, Step.defines?, if_neg (Ne.symm same),
              recalls name other found rest]
  | _ => exact skipped rfl fun _ => rfl

end StoredChains.Recalls

/-- Written out steps have the plain steps that they are written out from. -/
theorem StoredChains.Spells.writeOut {stored : StoredChains} {earlier list plains : List Step}
    (spells : stored.Spells list plains) (recalls : stored.Recalls earlier)
    (other : StoredChains) : other.Spells (writeOut earlier list) plains := by
  induction spells generalizing earlier other with
  | nil => exact .nil
  | cons spells _ ih =>
      refine .cons (spells.reword _ some fun target chain _ expanded grounded => ?_)
        (ih (recalls.after spells) _)
      rw [recalls.writtenOut_eq expanded]
      exact grounded.expand other

/-- No name is left in a target that is written out. -/
theorem StoredChains.Spells.grounded_writeOut {stored : StoredChains}
    {earlier list plains : List Step} (spells : stored.Spells list plains)
    (recalls : stored.Recalls earlier) :
    ∀ step ∈ ScenarioRunner.writeOut earlier list, ∀ target, step.target? = some target →
      target.Grounded := by
  induction spells generalizing earlier with
  | nil => simp [ScenarioRunner.writeOut]
  | @cons stored step plain rest plains spells _ ih =>
      refine List.forall_mem_cons.mpr ⟨fun target targeted => ?_, ih (recalls.after spells)⟩
      cases spells with
      | navigate => cases targeted
      | assertUrlContains => cases targeted
      | locate expanded grounded | interact expanded grounded | assertPresent expanded grounded
      | assertAbsent expanded grounded =>
          cases targeted
          rwa [recalls.writtenOut_eq expanded]

/-- A name in a chain is exchanged for another. -/
def Link.renamed (rename : String → String) : Link → Link
  | .stored name => .stored (rename name)
  | link => link

/-- The names of a step are exchanged for others, in its target and where it stores its chain. -/
def Step.renamed (rename : String → String) (step : Step) : Step :=
  step.reworded (List.map (Link.renamed rename)) (some ∘ rename)

/-- All names of a scenario are exchanged for others. -/
def Scenario.renamed (rename : String → String) (scenario : Scenario) : Scenario :=
  { scenario with steps := scenario.steps.map (Step.renamed rename) }

/-- The names under which steps store their chains. -/
def storedNames (list : List Step) : List String := list.filterMap Step.storedName?

/-- Names that are exchanged consistently: different names stay different. -/
def ConsistentOn (rename : String → String) (names : List String) : Prop :=
  ∀ first ∈ names, ∀ second ∈ names, rename first = rename second → first = second

/-- The same chains under other names. -/
def StoredChains.renamed (rename : String → String) (stored : StoredChains) : StoredChains :=
  stored.map fun entry => (rename entry.1, entry.2)

/-- A chain without names is the same under any renaming. -/
theorem Chain.map_renamed {chain : Chain} (rename : String → String)
    (nameless : ∀ name, .stored name ∉ chain) : chain.map (Link.renamed rename) = chain := by
  have each : ∀ link ∈ chain, link.renamed rename = id link := by
    intro link member
    cases link with
    | stored name => exact absurd member (nameless name)
    | _ => rfl
  rw [List.map_congr_left each, List.map_id]

namespace StoredChains

/-- A consistent renaming leaves what is found under each name. -/
theorem lookup_renamed {rename : String → String} {names : List String} {stored : StoredChains}
    (consistent : ConsistentOn rename names) (within : ∀ entry ∈ stored, entry.1 ∈ names)
    {name : String} (member : name ∈ names) :
    (stored.renamed rename).lookup (rename name) = stored.lookup name := by
  induction stored with
  | nil => rfl
  | cons entry stored ih =>
      obtain ⟨own, chain⟩ := entry
      obtain ⟨own_member, rest_within⟩ := List.forall_mem_cons.mp within
      have rest_same := ih rest_within
      simp only [renamed, List.map_cons, List.lookup_cons] at rest_same ⊢
      by_cases same : name = own
      · simp [same]
      · have different : rename name ≠ rename own := fun equal =>
          same (consistent name member own own_member equal)
        simp only [beq_false_of_ne different, beq_false_of_ne same, rest_same]

/-- A name that a chain is found under is one of the stored names. -/
theorem mem_of_lookup {names : List String} {stored : StoredChains} {name : String} {chain : Chain}
    (within : ∀ entry ∈ stored, entry.1 ∈ names) (found : stored.lookup name = some chain) :
    name ∈ names := by
  induction stored with
  | nil => cases found
  | cons entry stored ih =>
      obtain ⟨own, other⟩ := entry
      obtain ⟨own_member, rest_within⟩ := List.forall_mem_cons.mp within
      rw [List.lookup_cons] at found
      by_cases same : name = own
      · rwa [same]
      · simp only [beq_false_of_ne same] at found
        exact ih rest_within found

/-- A renamed target expands to the same chain among renamed names. -/
theorem expand_renamed {rename : String → String} {names : List String} {stored : StoredChains}
    {target chain : Chain} (consistent : ConsistentOn rename names)
    (within : ∀ entry ∈ stored, entry.1 ∈ names) (expanded : stored.expand target = .ok chain)
    (grounded : chain.Grounded) :
    (stored.renamed rename).expand (target.map (Link.renamed rename)) = .ok chain := by
  rcases eq_of_expand_ok expanded with ⟨name, rest, known, rfl, found, rfl⟩ | ⟨rfl, -⟩
  · have renamed_found := lookup_renamed consistent within (mem_of_lookup within found)
    have nameless (other : String) : .stored other ∉ rest := fun member =>
      grounded.nameless other (List.mem_append_right known member)
    simp only [List.map_cons, Link.renamed, Chain.map_renamed rename nameless, expand,
      renamed_found, found]
  · rw [Chain.map_renamed rename grounded.nameless]
    exact grounded.expand _

theorem after_renamed {rename : String → String} {names : List String} {stored : StoredChains}
    {step plain : Step} (consistent : ConsistentOn rename names)
    (within : ∀ entry ∈ stored, entry.1 ∈ names) (spells : stored.SpellsStep step plain) :
    (stored.renamed rename).after (step.renamed rename) = (stored.after step).renamed rename := by
  cases spells with
  | @locate target chain storeAs timeout expanded grounded =>
      cases storeAs with
      | none => rfl
      | some name =>
          have again := expand_renamed consistent within expanded grounded
          rw [after_locate timeout expanded]
          exact after_locate timeout again
  | _ => rfl

/-- What is stored by then are names that steps have stored. -/
theorem within_after {names : List String} {stored : StoredChains} {step : Step}
    (within : ∀ entry ∈ stored, entry.1 ∈ names)
    (stores : ∀ name, step.storedName? = some name → name ∈ names) :
    ∀ entry ∈ stored.after step, entry.1 ∈ names := by
  unfold after
  split
  next target name timeout =>
    split
    next chain expanded => exact List.forall_mem_cons.mpr ⟨stores name rfl, within⟩
    next => exact within
  next => exact within

/-- Renamed steps have the plain steps that they had. -/
theorem Spells.renamed {rename : String → String} {names : List String} {stored : StoredChains}
    {list plains : List Step} (spells : stored.Spells list plains)
    (consistent : ConsistentOn rename names) (within : ∀ entry ∈ stored, entry.1 ∈ names)
    (stores : ∀ name ∈ storedNames list, name ∈ names) :
    (stored.renamed rename).Spells (list.map (Step.renamed rename)) plains := by
  induction spells with
  | nil => exact .nil
  | @cons stored step plain rest plains spells _ ih =>
      have own : ∀ name, step.storedName? = some name → name ∈ names := fun name named =>
        stores name (List.mem_filterMap.mpr ⟨step, List.mem_cons_self, named⟩)
      have others : ∀ name ∈ storedNames rest, name ∈ names := by
        intro name member
        obtain ⟨other, listed, named⟩ := List.mem_filterMap.mp member
        exact stores name (List.mem_filterMap.mpr ⟨other, List.mem_cons_of_mem step listed, named⟩)
      have continued := ih (within_after within own) others
      rw [← after_renamed consistent within spells] at continued
      exact .cons (spells.reword _ _ fun target chain _ expanded grounded =>
        expand_renamed consistent within expanded grounded) continued

/-- Nothing is stored under other names in one of two stores that is not stored in the other. -/
def AgreeExcept (name : String) (stored other : StoredChains) : Prop :=
  ∀ different, different ≠ name → stored.lookup different = other.lookup different

end StoredChains

/-- The target of the step starts from the name. -/
def Step.GoesOnFrom (name : String) (step : Step) : Prop :=
  ∃ rest, step.target? = some (.stored name :: rest)

namespace StoredChains

theorem AgreeExcept.expand_eq {name : String} {stored other : StoredChains} {step : Step}
    {target : Chain} (agree : AgreeExcept name stored other) (apart : ¬ step.GoesOnFrom name)
    (targeted : step.target? = some target) : other.expand target = stored.expand target := by
  unfold expand
  split
  next own rest =>
    have different : own ≠ name := by
      rintro rfl
      exact apart ⟨rest, targeted⟩
    rw [agree own different]
  next => rfl

/-- Stores that agree go on to agree when a step goes on from neither of their own chains. -/
theorem AgreeExcept.after {name : String} {stored other : StoredChains} {step : Step}
    (agree : AgreeExcept name stored other) (apart : ¬ step.GoesOnFrom name) :
    AgreeExcept name (stored.after step) (other.after step) := by
  intro different distinct
  cases step with
  | locate target storeAs timeout =>
      cases storeAs with
      | none => exact agree different distinct
      | some own =>
          simp only [StoredChains.after, agree.expand_eq apart rfl]
          split
          next chain expanded =>
            simp only [List.lookup_cons, agree different distinct]
          next => exact agree different distinct
  | _ => exact agree different distinct

/-- Steps that never go on from a name are the same whatever is stored under it. -/
theorem Spells.of_agreeExcept {name : String} {stored other : StoredChains}
    {list plains : List Step} (spells : stored.Spells list plains)
    (agree : AgreeExcept name stored other) (apart : ∀ step ∈ list, ¬ step.GoesOnFrom name) :
    other.Spells list plains := by
  induction spells generalizing other with
  | nil => exact .nil
  | @cons stored step plain rest plains spells _ ih =>
      obtain ⟨step_apart, rest_apart⟩ := List.forall_mem_cons.mp apart
      have same := spells.reword id some fun target chain targeted expanded _ =>
        (agree.expand_eq step_apart targeted).trans expanded
      rw [Step.reworded_id] at same
      exact .cons same (ih (agree.after step_apart) rest_apart)

/-- A name that no later step goes on from need not be stored. -/
theorem Spells.unnamed {stored : StoredChains} {earlier later plains : List Step} {target : Chain}
    {name : String} {timeout : Option UInt64}
    (spells : stored.Spells (earlier ++ .locate target (some name) timeout :: later) plains)
    (apart : ∀ step ∈ later, ¬ step.GoesOnFrom name) :
    stored.Spells (earlier ++ .locate target none timeout :: later) plains := by
  induction earlier generalizing stored plains with
  | nil =>
      cases spells with
      | cons spells continued =>
          cases spells with
          | locate expanded grounded =>
              refine .cons (.locate expanded grounded) (continued.of_agreeExcept ?_ apart)
              intro different distinct
              simp only [after_locate timeout expanded, List.lookup_cons,
                beq_false_of_ne distinct]
              rfl
  | cons step earlier ih =>
      cases spells with
      | cons spells continued => exact .cons spells (ih continued)

end StoredChains

/-- A step changes what is stored under no name but its own. -/
theorem Executor.lookup_execute {host : Host σ} {options : RunOptions} {executor next : Executor}
    {step : Step} {before : World σ} {result : Except Failure Unit} {name : String}
    (different : step.storedName? ≠ some name)
    (executed : ((executor.execute options step).run.run host before).1 = .ok (result, next)) :
    next.stored.lookup name = executor.stored.lookup name := by
  obtain ⟨_, outcome, -, -, told⟩ :=
    Executor.performed_of_execute (Attempt.runs_of_outcome executed)
  rcases outcome with (fault | breakdown) | value
  · cases told
    rfl
  · cases told
  · cases told
    simp only [Executor.passed, StoredChains.after]
    split
    next target own timeout =>
      split
      next chain expanded =>
        have distinct : name ≠ own := fun same => different (congrArg some same.symm)
        simp only [List.lookup_cons, beq_false_of_ne distinct]
      next => rfl
    next => rfl

/-- The names of an accepted scenario are abbreviations that are bound early. It runs like the
scenario in which every chain is written out, with the chain that the latest step before stores
under the name, and like the scenario under other names. Whatever is stored later leaves the chains
under other names as they are, and a name that no later step goes on from need not be stored. -/
theorem Scenario.names_abbreviate {scenario : Scenario} (accepted : scenario.validate = .ok ())
    (host : Host σ) (options : RunOptions) (before : World σ) :
    scenario.RunsLike host options before scenario.writtenOut ∧
    (∀ step ∈ scenario.writtenOut.steps, ∀ target, step.target? = some target →
      target.Grounded) ∧
    (∀ rename, ConsistentOn rename (storedNames scenario.steps) →
      scenario.RunsLike host options before (scenario.renamed rename)) ∧
    (∀ earlier target name timeout later,
      scenario.steps = earlier ++ .locate target (some name) timeout :: later →
      (∀ step ∈ later, ¬ step.GoesOnFrom name) →
      scenario.RunsLike host options before
        { scenario with steps := earlier ++ .locate target none timeout :: later }) ∧
    ∀ (executor next : Executor) (step : Step) (world : World σ) (result : Except Failure Unit)
      (name : String), step.storedName? ≠ some name →
      ((executor.execute options step).run.run host world).1 = .ok (result, next) →
      next.stored.lookup name = executor.stored.lookup name := by
  obtain ⟨plains, spells⟩ := StoredChains.spells_of_check (StoredChains.remembers_nil [])
    (checkSteps_of_validate accepted)
  refine ⟨?_, ?_, ?_, ?_, ?_⟩
  · exact runsLike_of_spells host options before spells (spells.writeOut (.nil []) []) rfl
  · exact spells.grounded_writeOut (.nil [])
  · intro rename consistent
    have renamed := spells.renamed consistent (by simp) fun name member => member
    exact runsLike_of_spells host options before spells renamed rfl
  · intro earlier target name timeout later split apart
    have respelled := spells
    rw [split] at respelled
    exact runsLike_of_spells host options before spells (respelled.unnamed apart) rfl
  · intro executor next step world result name different executed
    exact Executor.lookup_execute different executed

/-- A scenario that gives one name to three chains, and another to a chain built from the second of
them. -/
def Scenario.layered : Scenario where
  name := "layered"
  description := none
  baseUrl := none
  vars := []
  steps := [
    .locate [.get ".list"] (some "row") none,
    .locate [.stored "row", .find "li"] (some "row") none,
    .locate [.stored "row", .parent] (some "item") none,
    .locate [.get ".other"] (some "row") none,
    .interact [.stored "item"] [.click] none]

/-- The second chain under the name is the one that is written out. -/
example : Scenario.layered.writtenOut.steps = [
    .locate [.get ".list"] (some "row") none,
    .locate [.get ".list", .find "li"] (some "row") none,
    .locate [.get ".list", .find "li", .parent] (some "item") none,
    .locate [.get ".other"] (some "row") none,
    .interact [.get ".list", .find "li", .parent] [.click] none] := by
  decide

/-- The name of the first chain may be exchanged, and the last chain may go without it. -/
theorem Scenario.names_abbreviate_layered :
    Scenario.layered.validate = .ok () ∧
    Scenario.layered.RunsLike Host.agreeable .plain (.start () []) Scenario.layered.writtenOut ∧
    ConsistentOn (· ++ "-1") (storedNames Scenario.layered.steps) ∧
    Scenario.layered.RunsLike Host.agreeable .plain (.start () [])
      (Scenario.layered.renamed (· ++ "-1")) ∧
    Scenario.layered.RunsLike Host.agreeable .plain (.start () [])
      { Scenario.layered with
        steps := Scenario.layered.steps.take 3 ++
          (Step.locate [.get ".other"] none none :: Scenario.layered.steps.drop 4) } := by
  have accepted : Scenario.layered.validate = .ok () := rfl
  have consistent : ConsistentOn (· ++ "-1") (storedNames Scenario.layered.steps) := by
    unfold ConsistentOn
    decide
  obtain ⟨written, -, renamed, unnamed, -⟩ :=
    Scenario.names_abbreviate accepted Host.agreeable .plain (.start () [])
  refine ⟨accepted, written, consistent, renamed _ consistent, ?_⟩
  refine unnamed _ _ "row" none _ rfl fun step member => ?_
  obtain rfl := List.mem_singleton.mp member
  rintro ⟨rest, same⟩
  exact absurd same (by simp [Step.target?])

end ScenarioRunner
