import ScenarioRunner.Proofs.Grounding

/-!
Keys without a meaning. Among the keys of a scenario such a key is an error. Among the keys of a step
it is passed over: the document is read as it is read without the entry.
-/

namespace ScenarioRunner

namespace Yaml

/-- Decoding fails, however many references may still be followed. -/
def Fails {α : Type} (decode : Tracked α) : Prop :=
  ∀ left, ∃ reason, decode.run left = .error reason

variable {α β : Type}

theorem Fails.throw (reason : DecodeError) : Fails (throw reason : Tracked α) :=
  fun _ => ⟨reason, rfl⟩

theorem Fails.bind_left {decode : Tracked α} (fails : Fails decode) (next : α → Tracked β) :
    Fails (decode >>= next) := by
  intro left
  obtain ⟨reason, broken⟩ := fails left
  exact ⟨reason, by rw [StateT.run_bind, broken]; rfl⟩

/-- It is enough that what follows fails on the values that can be read. -/
theorem Fails.bind_right {decode : Tracked α} {next : α → Tracked β}
    (fails : ∀ left value after, decode.run left = .ok (value, after) → Fails (next value)) :
    Fails (decode >>= next) := by
  intro left
  cases result : decode.run left with
  | error reason => exact ⟨reason, by rw [StateT.run_bind, result]; rfl⟩
  | ok read =>
      obtain ⟨reason, broken⟩ := fails left read.1 read.2 result read.2
      exact ⟨reason, by rw [StateT.run_bind, result]; exact broken⟩

/-- What follows a reading matters only on the values that can be read. -/
theorem Tracked.bind_congr {decode : Tracked α} {next others : α → Tracked β}
    (same : ∀ left value after, decode.run left = .ok (value, after) → next value = others value) :
    decode >>= next = decode >>= others := by
  refine StateT.ext fun left => ?_
  rw [StateT.run_bind, StateT.run_bind]
  cases result : decode.run left with
  | error reason => rfl
  | ok read => exact congrArg (·.run read.2) (same left read.1 read.2 result)

theorem decodeText_of_fails {text : String} {root : Node} {decode : Scope → Option Node → Tracked α}
    (document : (Document.ofText text).root = some root)
    (fails : Fails (decode (Scope.ofRoot root) (some root))) :
    ∃ reason, decodeText text decode = .error reason := by
  obtain ⟨reason, broken⟩ := fails (referenceLimit root)
  exact ⟨reason, by simp only [decodeText, document, Option.getD_some, broken]⟩

end Yaml

open Yaml

namespace ScenarioParts

variable {value : Type} {format : ScenarioFormat Tracked value}

/-- One key that names no field is enough, whatever stands before and behind it. -/
theorem readEntries_fails {entries : List (Tracked String × value)}
    (undeclared : ∃ entry ∈ entries, ∀ left label after,
      entry.1.run left = .ok (label, after) → ∀ field : ScenarioField, field.label ≠ label)
    (parts : ScenarioParts) : Fails (readEntries format parts entries) := by
  induction entries generalizing parts with
  | nil => simp at undeclared
  | cons head rest ih =>
      obtain ⟨entry, member, unnamed⟩ := undeclared
      refine Fails.bind_right fun left label after read => ?_
      split
      · exact .throw _
      · rename_i field found
        have named : field.label = label := by simpa using List.find?_some found
        cases member with
        | head => exact absurd named (unnamed left label after read field)
        | tail _ member =>
            have later := ih ⟨entry, member, unnamed⟩
            split
            · exact (Fails.throw _).bind_left _
            · exact .bind_right fun _ read _ _ => later read

/-- A value may be exchanged for another that every field reads alike. -/
theorem readEntries_congr {one other : value}
    (alike : ∀ parts field, read format parts field one = read format parts field other)
    (key : Tracked String) (front back : List (Tracked String × value)) (parts : ScenarioParts) :
    readEntries format parts (front ++ (key, one) :: back) =
      readEntries format parts (front ++ (key, other) :: back) := by
  induction front generalizing parts with
  | nil => simp only [List.nil_append, readEntries, alike]
  | cons entry front ih => simp only [List.cons_append, readEntries, ih]

end ScenarioParts

namespace StepParts

/-- A text that names no field of the action is skipped, together with its value. -/
theorem readEntries_skip {action : Action} {label : String}
    (undeclared : ∀ field ∈ action.fields, field.name ≠ label) (given : Content)
    (front back : List (Content × Content)) (parts : StepParts) :
    readEntries action parts (front ++ (.text label, given) :: back) =
      readEntries action parts (front ++ back) := by
  induction front generalizing parts with
  | nil =>
      have unnamed : fieldOfKey action (.text label) = .ok none := by
        simpa [fieldOfKey] using undeclared
      simp only [List.nil_append, readEntries, unnamed]
      rfl
  | cons entry front ih => simp only [List.cons_append, readEntries, ih]

end StepParts

/-- The step that the entries describe does not depend on an undeclared one. -/
theorem Step.ofEntries_skip {action : Action} {label : String}
    (undeclared : ∀ field ∈ action.fields, field.name ≠ label) (given : Content)
    (front back : List (Content × Content)) :
    ofEntries action (front ++ (.text label, given) :: back) = ofEntries action (front ++ back) := by
  simp only [ofEntries, StepParts.readEntries_skip undeclared]

namespace Step

/-- The step that is left to read when an action was found and some entries are kept. -/
def ofPending (found : Option Action) (kept : List (Content × Content))
    (pending : List (PendingEntry Tracked)) : Tracked Step := do
  let (action, kept) ← takeAction found kept pending
  liftM (ofEntries action kept)

/-- The entry gives the step its action. -/
def Gives (entry : PendingEntry Tracked) (action : Action) : Prop :=
  (∃ left after, entry.key.run left = .ok (.text "action", after)) ∧
    ∃ left name after, entry.name.run left = .ok (name, after) ∧ Action.ofName name = .ok action

/-- An action that the step may have: the one found so far, or one that is still to come. -/
def MayTake (found : Option Action) (pending : List (PendingEntry Tracked)) (action : Action) : Prop :=
  found = some action ∨ ∃ entry ∈ pending, Gives entry action

theorem MayTake.cons {found : Option Action} {pending : List (PendingEntry Tracked)} {action : Action}
    (entry : PendingEntry Tracked) : MayTake found pending action →
      MayTake found (entry :: pending) action
  | .inl known => .inl known
  | .inr ⟨other, member, gives⟩ => .inr ⟨other, List.mem_cons_of_mem _ member, gives⟩

theorem MayTake.of_gives {found : Option Action} {pending : List (PendingEntry Tracked)}
    {given action : Action} {entry : PendingEntry Tracked} (gives : Gives entry given) :
    MayTake (some given) pending action → MayTake found (entry :: pending) action
  | .inl known => .inr ⟨entry, List.mem_cons_self, Option.some.inj known ▸ gives⟩
  | .inr later => MayTake.cons entry (.inr later)

/-- The first entry is taken as the action or kept, and the step is read from the others. -/
theorem ofPending_cons_congr {found : Option Action} {kept others : List (Content × Content)}
    {entry : PendingEntry Tracked} {rest more : List (PendingEntry Tracked)}
    (taken : ∀ action, Gives entry action →
      ofPending (some action) kept rest = ofPending (some action) others more)
    (passed : ∀ key value,
      ofPending found ((key, value) :: kept) rest = ofPending found ((key, value) :: others) more) :
    ofPending found kept (entry :: rest) = ofPending found others (entry :: more) := by
  simp only [ofPending, takeAction, bind_assoc] at taken passed ⊢
  refine Tracked.bind_congr fun left key after keyed => ?_
  split
  · cases found with
    | some action => rfl
    | none =>
        simp only [Option.isSome_none, Bool.false_eq_true, if_false, bind_assoc]
        refine Tracked.bind_congr fun before name behind named => ?_
        split
        · rename_i action known
          exact taken action ⟨⟨left, after, keyed⟩, before, name, behind, named, known⟩
        · rfl
  · simp only [bind_assoc]
    exact Tracked.bind_congr fun _ value _ _ => passed _ value

/-- The entries that are kept matter only through the steps that they describe. -/
theorem ofPending_congr {found : Option Action} {kept others : List (Content × Content)}
    {pending : List (PendingEntry Tracked)}
    (same : ∀ action, MayTake found pending action → ∀ more,
      ofEntries action (kept.reverse ++ more) = ofEntries action (others.reverse ++ more)) :
    ofPending found kept pending = ofPending found others pending := by
  induction pending generalizing found kept others with
  | nil =>
      cases found with
      | none => rfl
      | some action =>
          have described := same action (.inl rfl) []
          rw [List.append_nil, List.append_nil] at described
          simp only [ofPending, takeAction, pure_bind, described]
  | cons entry rest ih =>
      refine ofPending_cons_congr (fun given gives => ?_) (fun key value => ?_)
      · exact ih fun action may => same action (may.of_gives gives)
      · refine ih fun action may more => ?_
        have described := same action (may.cons entry) ((key, value) :: more)
        simpa only [List.reverse_cons, List.append_assoc, List.singleton_append] using described

/-- An entry whose key is a text without a meaning for the step is passed over. -/
theorem ofPending_skip {found : Option Action} {front back : List (PendingEntry Tracked)}
    {entry : PendingEntry Tracked} {label : String} {given : Content}
    (key : entry.key = pure (.text label)) (value : entry.value = pure given)
    (other : label ≠ "action")
    (undeclared : ∀ action, MayTake found (front ++ back) action →
      ∀ field ∈ action.fields, field.name ≠ label) (kept : List (Content × Content)) :
    ofPending found kept (front ++ entry :: back) = ofPending found kept (front ++ back) := by
  induction front generalizing found kept with
  | nil =>
      have passed : ofPending found kept (entry :: back) =
          ofPending found ((.text label, given) :: kept) back := by
        simp only [ofPending, takeAction, key, value, pure_bind]
        split
        · rename_i same
          exact absurd (Content.text.inj same) other
        · rfl
      refine passed.trans (ofPending_congr fun action may more => ?_)
      rw [List.reverse_cons, List.append_assoc]
      exact ofEntries_skip (undeclared action may) given kept.reverse more
  | cons first front ih =>
      refine ofPending_cons_congr (fun action gives => ?_) (fun key value => ?_)
      · exact ih (fun action may => undeclared action (may.of_gives gives)) kept
      · exact ih (fun action may => undeclared action (may.cons first)) _

end Step

namespace Scenario

/-- The data of a node inside a step. -/
abbrev stepContent (scope : Scope) : Node → Tracked Content := content scope yamlFuel yamlStepLevels

/-- The key names none of the fields of a scenario. -/
def Undeclared (scope : Scope) (key : Node) : Prop :=
  ∀ left label after, (textOf scope key).run left = .ok (label, after) →
    ∀ field : ScenarioField, field.label ≠ label

/-- The entries of a step name the action. -/
def NamesAction (scope : Scope) (entries : List (Node × Node)) (action : Action) : Prop :=
  ∃ key value, (key, value) ∈ entries ∧
    (∃ left after, (stepContent scope key).run left = .ok (.text "action", after)) ∧
    ∃ left name after, (textOf scope value).run left = .ok (name, after) ∧
      Action.ofName name = .ok action

/-- The text is no key of a step with these entries: neither that of the action nor that of one of
its fields. -/
def NoKeyOf (scope : Scope) (entries : List (Node × Node)) (label : String) : Prop :=
  label ≠ "action" ∧
    ∀ action, NamesAction scope entries action → ∀ field ∈ action.fields, field.name ≠ label

theorem yamlStep_skip {scope : Scope} {front back : List (Node × Node)} {key value : Node}
    {label : String} {given : Content} (reads : stepContent scope key = pure (.text label))
    (readable : stepContent scope value = pure given)
    (undeclared : NoKeyOf scope (front ++ back) label) (properties : Properties) :
    yamlStep scope (.mapping properties (front ++ (key, value) :: back)) =
      yamlStep scope (.mapping properties (front ++ back)) := by
  obtain ⟨other, undeclared⟩ := undeclared
  let pend (entry : Node × Node) : PendingEntry Tracked :=
    ⟨stepContent scope entry.1, textOf scope entry.2, stepContent scope entry.2⟩
  have named : ∀ action, Step.MayTake none (front.map pend ++ back.map pend) action →
      NamesAction scope (front ++ back) action := by
    rintro action (absent | ⟨pending, member, keyed, given⟩)
    · cases absent
    · rw [← List.map_append] at member
      obtain ⟨entry, listed, rfl⟩ := List.mem_map.mp member
      exact ⟨entry.1, entry.2, listed, keyed, given⟩
  have skipped : Step.ofPending none [] (front.map pend ++ pend (key, value) :: back.map pend) =
      Step.ofPending none [] (front.map pend ++ back.map pend) :=
    Step.ofPending_skip reads readable other
      (fun action may => undeclared action (named action may)) []
  simp only [yamlStep, Scope.resolve, pure_bind, List.map_append, List.map_cons]
  split
  · rfl
  · exact skipped

/-- A document but for the entries of one of its steps. -/
structure StepPlace where
  outer : Properties := {}
  inner : Properties := {}
  own : Properties := {}
  above : List (Node × Node)
  key : Node
  earlier : List Node
  later : List Node
  below : List (Node × Node)

/-- The document with these entries of the step. -/
def StepPlace.document (place : StepPlace) (entries : List (Node × Node)) : Node :=
  .mapping place.outer (place.above ++
    (place.key, .sequence place.inner
      (place.earlier ++ .mapping place.own entries :: place.later)) :: place.below)

/-- A document is read alike with entries of a step that are read alike. -/
theorem StepPlace.ofYamlRoot_congr {scope : Scope} (place : StepPlace)
    {entries others : List (Node × Node)}
    (alike : yamlStep scope (.mapping place.own entries) = yamlStep scope (.mapping place.own others)) :
    ofYamlRoot scope (some (place.document entries)) =
      ofYamlRoot scope (some (place.document others)) := by
  simp only [ofYamlRoot, StepPlace.document, entriesOf, Scope.resolve, pure_bind, List.map_append,
    List.map_cons]
  congr 1
  refine ScenarioParts.readEntries_congr (fun parts field => ?_) _ _ _ _
  cases field with
  | steps =>
      simp only [ScenarioParts.read, yamlFormat, yamlSteps, itemsOf, Scope.resolve, pure_bind,
        List.mapM_append, List.mapM_cons, alike]
  | _ => rfl

/-- A key that names no field of a scenario is caught, wherever it stands among the keys of the
scenario. Among the keys of a step, wherever the step stands, a text that names no field of the
step's action is dropped: the text is read as if the document were without the entry. -/
theorem undeclared_keys (text : String) (root : Node)
    (document : (Document.ofText text).root = some root) :
    (∀ properties entries, root = .mapping properties entries →
      (∃ entry ∈ entries, Undeclared (Scope.ofRoot root) entry.1) →
      ∃ reason, ofYaml text = .error reason ∧
        fromYaml text = .error (.scenarioParse reason.message)) ∧
    ∀ (place : StepPlace) (front back : List (Node × Node)) (key value : Node) (label : String)
      (given : Content), root = place.document (front ++ (key, value) :: back) →
      stepContent (Scope.ofRoot root) key = pure (.text label) →
      stepContent (Scope.ofRoot root) value = pure given →
      NoKeyOf (Scope.ofRoot root) (front ++ back) label →
      ofYaml text = decodeText text fun scope _ =>
        ofYamlRoot scope (some (place.document (front ++ back))) := by
  constructor
  · rintro properties entries rfl ⟨entry, member, unnamed⟩
    have fails : Fails (ofYamlRoot (Scope.ofRoot (.mapping properties entries))
        (some (.mapping properties entries))) := by
      simp only [ofYamlRoot, entriesOf, Scope.resolve, pure_bind]
      refine Fails.bind_left (ScenarioParts.readEntries_fails ?_ _) _
      exact ⟨(textOf _ entry.1, entry.2), List.mem_map.mpr ⟨entry, member, rfl⟩, unnamed⟩
    obtain ⟨reason, refused⟩ := decodeText_of_fails document fails
    exact ⟨reason, refused, by simp only [fromYaml, ofYaml, refused]; rfl⟩
  · rintro place front back key value label given rfl reads readable undeclared
    have alike := place.ofYamlRoot_congr (yamlStep_skip reads readable undeclared place.own)
    simp only [ofYaml, decodeText, document, Option.getD_some, alike]

/-- A plain scalar without properties. -/
def bare (text : String) : Node := .scalar {} true text

theorem stepContent_bare (scope : Scope) {text : String} {given : Content}
    (reads : plainContent text = .ok given) : stepContent scope (bare text) = pure given := by
  show content scope (257 + 1) yamlStepLevels (bare text) = pure given
  rw [bare, content, scalarContent, if_pos rfl, reads]
  rfl

/-- A scenario whose step has a timeout under a wrong key, and the scenario that is read. -/
def mistypedText : String :=
  "name: s\nsteps:\n- \x7baction: assert_present, target: [get: .a], timeout: 60000\x7d\n"

def mistyped : Scenario := ⟨"s", none, none, [], [.assertPresent [.get ".a"] none]⟩

def mistypedPlace : StepPlace where
  above := [(bare "name", bare "s")]
  key := bare "steps"
  earlier := []
  later := []
  below := []

/-- The entries of the step but for the timeout. -/
def mistypedStep : List (Node × Node) := [
  (bare "action", bare "assert_present"),
  (bare "target", .sequence {} [.mapping {} [(bare "get", bare ".a")]])]

theorem noKeyOf_mistypedStep (scope : Scope) : NoKeyOf scope mistypedStep "timeout" := by
  refine ⟨by decide, ?_⟩
  rintro action ⟨key, value, member, ⟨left, after, keyed⟩, before, name, behind, read, known⟩
  rcases List.mem_cons.mp member with first | member
  · obtain ⟨rfl, rfl⟩ := Prod.mk.inj first
    cases read
    cases known
    decide
  · obtain ⟨rfl, rfl⟩ := Prod.mk.inj (List.mem_singleton.mp member)
    have target : stepContent scope (bare "target") = pure (.text "target") :=
      stepContent_bare scope rfl
    rw [target] at keyed
    have same := Content.text.inj (Prod.mk.inj (Except.ok.inj keyed)).1
    exact absurd same (by decide)

/-- A scenario with a key that only looks like one of its fields. -/
def misspelledText : String := "name: s\nbase-url: http://app\nsteps: []\n"

/-- The root of that text. -/
def misspelled : Node := .mapping {} [(bare "name", bare "s"), (bare "base-url", bare "http://app"),
  (bare "steps", .sequence {} [])]

/-- The root of the text with the wrong timeout. -/
def mistypedRoot : Node := mistypedPlace.document (mistypedStep ++ [(bare "timeout", bare "60000")])

/-- The tokens of a plain key with a plain value. -/
def entryTokens (key value : String) : List Token :=
  [.key, .scalar true key, .value, .scalar true value]

theorem root_of_tokens {text : String} {tokens : List Token}
    (allowed : text.toList.all isAllowed = true) (scanned : tokenize text.toList = tokens) :
    (Document.ofText text).root = (readDocument tokens).root := by
  rw [Document.ofText, scanned, if_pos allowed]

theorem root_misspelledText : (Document.ofText misspelledText).root = some misspelled := by
  have scanned : tokenize misspelledText.toList = .blockMappingStart ::
      (entryTokens "name" "s" ++ entryTokens "base-url" "http://app" ++
        [.key, .scalar true "steps", .value, .flowSequenceStart, .flowSequenceEnd, .blockEnd,
          .streamEnd]) := by decide +kernel
  rw [root_of_tokens (by decide +kernel) scanned]
  rfl

theorem root_mistypedText : (Document.ofText mistypedText).root = some mistypedRoot := by
  have scanned : tokenize mistypedText.toList = .blockMappingStart ::
      (entryTokens "name" "s" ++
        [.key, .scalar true "steps", .value, .blockEntry, .flowMappingStart] ++
        entryTokens "action" "assert_present" ++
        [.flowEntry, .key, .scalar true "target", .value, .flowSequenceStart] ++
        entryTokens "get" ".a" ++ [.flowSequenceEnd, .flowEntry] ++
        entryTokens "timeout" "60000" ++ [.flowMappingEnd, .blockEnd, .streamEnd]) := by
    decide +kernel
  rw [root_of_tokens (by decide +kernel) scanned]
  rfl

/-- The misspelled address is refused; the step is read as the one without the mistyped timeout. -/
theorem undeclared_keys_mistyped :
    (Document.ofText misspelledText).root = some misspelled ∧
    (∃ reason, ofYaml misspelledText = .error reason ∧
      fromYaml misspelledText = .error (.scenarioParse reason.message)) ∧
    (Document.ofText mistypedText).root = some mistypedRoot ∧
    ofYaml mistypedText = decodeText mistypedText fun scope _ =>
      ofYamlRoot scope (some (mistypedPlace.document (mistypedStep ++ []))) := by
  obtain ⟨refused, -⟩ := undeclared_keys misspelledText misspelled root_misspelledText
  obtain ⟨-, dropped⟩ := undeclared_keys mistypedText mistypedRoot root_mistypedText
  refine ⟨root_misspelledText, refused _ _ rfl ⟨(bare "base-url", bare "http://app"), by simp, ?_⟩,
    root_mistypedText, ?_⟩
  · intro left label after read field
    cases read
    cases field <;> decide
  · exact dropped mistypedPlace mistypedStep [] (bare "timeout") (bare "60000") "timeout"
      (.whole 60000) rfl (stepContent_bare _ rfl) (stepContent_bare _ rfl)
      (noKeyOf_mistypedStep _)

/-- The timeout under the wrong key is no field of the step, and the scenario is loaded without it. -/
theorem timeout_dropped :
    (Document.ofText mistypedText).root =
      some (mistypedPlace.document (mistypedStep ++ [(bare "timeout", bare "60000")])) ∧
    NoKeyOf (Scope.ofRoot mistypedRoot) mistypedStep "timeout" ∧
    fromYaml mistypedText = .ok mistyped :=
  ⟨root_mistypedText, noKeyOf_mistypedStep _, by decide +kernel⟩

end Scenario

end ScenarioRunner
