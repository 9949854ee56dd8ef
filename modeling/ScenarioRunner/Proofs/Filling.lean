import ScenarioRunner.Proofs.Acceptance
import ScenarioRunner.Proofs.Substitution

/-!
What becomes of a scenario when its references are replaced: each of its texts is replaced by what
is written for it, and nothing else is. The texts are read in order, and the first that cannot be
written is reported.
-/

namespace ScenarioRunner

/-- The texts in a part of a scenario, in the order in which they are read. -/
def Link.texts : Link → List String
  | .get selector => [selector]
  | .find selector => [selector]
  | .contains text => [text]
  | .parent => []
  | .stored _ => []

def Chain.texts (chain : Chain) : List String := chain.flatMap Link.texts

def Interaction.texts : Interaction → List String
  | .typeText text => [text]
  | .click => []
  | .clear => []
  | .reveal => []

def Step.texts : Step → List String
  | .navigate url => [url]
  | .locate target _ _ => target.texts
  | .interact target interactions _ => target.texts ++ interactions.flatMap Interaction.texts
  | .assertPresent target _ => target.texts
  | .assertAbsent target _ => target.texts
  | .assertUrlContains fragment _ => [fragment]

def Scenario.texts (scenario : Scenario) : List String :=
  scenario.baseUrl.toList ++ scenario.steps.flatMap Step.texts

/-- The same part with other texts in the places of its texts. -/
def Link.mapTexts (f : String → String) : Link → Link
  | .get selector => .get (f selector)
  | .find selector => .find (f selector)
  | .contains text => .contains (f text)
  | .parent => .parent
  | .stored name => .stored name

def Chain.mapTexts (f : String → String) (chain : Chain) : Chain := chain.map (Link.mapTexts f)

def Interaction.mapTexts (f : String → String) : Interaction → Interaction
  | .typeText text => .typeText (f text)
  | .click => .click
  | .clear => .clear
  | .reveal => .reveal

def Step.mapTexts (f : String → String) : Step → Step
  | .navigate url => .navigate (f url)
  | .locate target storeAs timeout => .locate (target.mapTexts f) storeAs timeout
  | .interact target interactions timeout =>
    .interact (target.mapTexts f) (interactions.map (Interaction.mapTexts f)) timeout
  | .assertPresent target timeout => .assertPresent (target.mapTexts f) timeout
  | .assertAbsent target timeout => .assertAbsent (target.mapTexts f) timeout
  | .assertUrlContains fragment timeout => .assertUrlContains (f fragment) timeout

def Scenario.mapTexts (f : String → String) (scenario : Scenario) : Scenario where
  name := scenario.name
  description := scenario.description
  baseUrl := scenario.baseUrl.map f
  vars := scenario.vars
  steps := scenario.steps.map (Step.mapTexts f)

/-- The texts are written one after the other, up to the first that cannot be. -/
def Variables.tryTexts (vars : Variables) (texts : List String) : Except Error Unit :=
  texts.forM fun text => (interpolate vars text).map fun _ => ()

/-- What is written for a text; one that cannot be written stays as it is. -/
def Variables.fill (vars : Variables) (text : String) : String :=
  match interpolate vars text with
  | .ok written => written
  | .error _ => text

variable {vars : Variables}

theorem Variables.tryTexts_singleton (text : String) :
    vars.tryTexts [text] = (interpolate vars text).map fun _ => () := by
  change ((interpolate vars text).map (fun _ => ()) >>= fun _ => pure ()) = _
  exact bind_pure _

theorem Variables.tryTexts_append (first second : List String) :
    vars.tryTexts (first ++ second) = vars.tryTexts first >>= fun _ => vars.tryTexts second :=
  List.forM_append

theorem Variables.fill_eq {text written : String} (done : interpolate vars text = .ok written) :
    vars.fill text = written := by
  simp only [fill, done]

theorem Variables.try_eq_ok_iff {text : String} :
    (interpolate vars text).map (fun _ => ()) = .ok () ↔
      ∃ written, interpolate vars text = .ok written := by
  cases interpolate vars text <;> simp [Except.map]

theorem Variables.tryTexts_eq_ok_iff {texts : List String} :
    vars.tryTexts texts = .ok () ↔ ∀ text ∈ texts, ∃ written, interpolate vars text = .ok written := by
  simp only [tryTexts, forM_eq_ok_iff, try_eq_ok_iff]

theorem Variables.tryTexts_eq_error_iff {texts : List String} {error : Error} :
    vars.tryTexts texts = .error error ↔ ∃ front text back, texts = front ++ text :: back ∧
      (∀ earlier ∈ front, ∃ written, interpolate vars earlier = .ok written) ∧
      interpolate vars text = .error error := by
  have fails {text : String} : (interpolate vars text).map (fun _ => ()) = .error error ↔
      interpolate vars text = .error error := by
    cases interpolate vars text <;> simp [Except.map]
  simp only [tryTexts, forM_eq_error_iff, try_eq_ok_iff, fails]

/-- A result that comes of trying texts: the part with the texts filled in, or the error of the first
text that cannot be written. -/
def FillsTexts (vars : Variables) (texts : List String) {α : Type} (result : Except Error α)
    (filled : α) : Prop :=
  result = (vars.tryTexts texts).map fun _ => filled

namespace FillsTexts

variable {α β : Type} {texts more : List String} {value : α}

theorem pure (value : α) : FillsTexts vars [] (Pure.pure value) value := rfl

theorem text (text : String) :
    FillsTexts vars [text] (interpolate vars text) (vars.fill text) := by
  rw [FillsTexts, Variables.tryTexts_singleton, Variables.fill]
  cases interpolate vars text <;> rfl

theorem map {result : Except Error α} (make : α → β) (first : FillsTexts vars texts result value) :
    FillsTexts vars texts (make <$> result) (make value) := by
  rw [FillsTexts, first]
  exact map_of_map _ _ make

/-- Texts are tried before the texts of what goes on with them. -/
theorem bind {result : Except Error α} {next : α → Except Error β} {filled : β}
    (first : FillsTexts vars texts result value) (second : FillsTexts vars more (next value) filled) :
    FillsTexts vars (texts ++ more) (result >>= next) filled := by
  unfold FillsTexts at *
  rw [first, Variables.tryTexts_append]
  cases vars.tryTexts texts with
  | error error => rfl
  | ok done => exact second

theorem bind_pure {result : Except Error α} {make : α → β}
    (first : FillsTexts vars texts result value) :
    FillsTexts vars texts (result >>= fun value => Pure.pure (make value)) (make value) := by
  rw [← map_eq_pure_bind]
  exact first.map make

/-- The parts of a list are filled in one after the other. -/
theorem mapM {textsOf : α → List String} {interpolated : α → Except Error β} {filled : α → β}
    (each : ∀ part, FillsTexts vars (textsOf part) (interpolated part) (filled part))
    (list : List α) :
    FillsTexts vars (list.flatMap textsOf) (list.mapM interpolated) (list.map filled) := by
  induction list with
  | nil => exact pure []
  | cons head rest ih =>
      rw [List.mapM_cons, List.flatMap_cons, List.map_cons]
      exact (each head).bind ih.bind_pure

theorem eq_ok_iff {result : Except Error α} {filled : α} (fills : FillsTexts vars texts result value) :
    result = .ok filled ↔
      (∀ text ∈ texts, ∃ written, interpolate vars text = .ok written) ∧ filled = value := by
  rw [← Variables.tryTexts_eq_ok_iff, fills]
  cases vars.tryTexts texts <;> simp [Except.map, eq_comm]

theorem eq_error_iff {result : Except Error α} {error : Error}
    (fills : FillsTexts vars texts result value) :
    result = .error error ↔ ∃ front text back, texts = front ++ text :: back ∧
      (∀ earlier ∈ front, ∃ written, interpolate vars earlier = .ok written) ∧
      interpolate vars text = .error error := by
  rw [← Variables.tryTexts_eq_error_iff, fills]
  cases vars.tryTexts texts <;> simp [Except.map]

end FillsTexts

theorem Link.fillsTexts (link : Link) :
    FillsTexts vars link.texts (link.interpolated vars) (link.mapTexts vars.fill) := by
  cases link with
  | get selector => exact (FillsTexts.text selector).map Link.get
  | find selector => exact (FillsTexts.text selector).map Link.find
  | contains text => exact (FillsTexts.text text).map Link.contains
  | parent => exact .pure _
  | stored name => exact .pure _

theorem Chain.fillsTexts (chain : Chain) :
    FillsTexts vars chain.texts (chain.interpolated vars) (chain.mapTexts vars.fill) :=
  .mapM Link.fillsTexts chain

theorem Interaction.fillsTexts (interaction : Interaction) :
    FillsTexts vars interaction.texts (interaction.interpolated vars)
      (interaction.mapTexts vars.fill) := by
  cases interaction with
  | typeText text => exact (FillsTexts.text text).map Interaction.typeText
  | click => exact .pure _
  | clear => exact .pure _
  | reveal => exact .pure _

theorem Step.fillsTexts (step : Step) :
    FillsTexts vars step.texts (step.interpolated vars) (step.mapTexts vars.fill) := by
  cases step with
  | navigate url => exact (FillsTexts.text url).map Step.navigate
  | locate target storeAs timeout => exact target.fillsTexts.bind_pure
  | interact target interactions timeout =>
      exact target.fillsTexts.bind (FillsTexts.mapM Interaction.fillsTexts interactions).bind_pure
  | assertPresent target timeout => exact target.fillsTexts.bind_pure
  | assertAbsent target timeout => exact target.fillsTexts.bind_pure
  | assertUrlContains fragment timeout =>
      exact (FillsTexts.text fragment).bind_pure

theorem Scenario.fillsTexts (scenario : Scenario) :
    FillsTexts scenario.vars scenario.texts scenario.interpolated
      (scenario.mapTexts scenario.vars.fill) := by
  have base : FillsTexts scenario.vars scenario.baseUrl.toList scenario.interpolatedBaseUrl
      (scenario.baseUrl.map scenario.vars.fill) := by
    unfold interpolatedBaseUrl
    cases scenario.baseUrl with
    | none => exact .pure none
    | some url => exact (FillsTexts.text url).map some
  exact base.bind (FillsTexts.mapM Step.fillsTexts scenario.steps).bind_pure

namespace Scenario

/-- The references of a scenario are replaced when all its texts can be written, and then each text
is replaced by what is written for it and everything else stays as it is. Otherwise the error is that
of the first text that cannot be written: of the base URL before the steps, of the steps in order,
and of the target of a step before its typed texts. So a scenario that is loaded refers to names with
values only. -/
theorem interpolated_text_by_text :
    (∀ scenario : Scenario,
      ((∃ filled, scenario.interpolated = .ok filled) ↔
        ∀ text ∈ scenario.texts, ∃ written, interpolate scenario.vars text = .ok written) ∧
      (∀ filled, scenario.interpolated = .ok filled → ∃ written : String → String,
        (∀ text ∈ scenario.texts, interpolate scenario.vars text = .ok (written text)) ∧
        filled = scenario.mapTexts written) ∧
      ∀ error, scenario.interpolated = .error error ↔
        ∃ front text back, scenario.texts = front ++ text :: back ∧
          (∀ earlier ∈ front, ∃ written, interpolate scenario.vars earlier = .ok written) ∧
          interpolate scenario.vars text = .error error) ∧
    ∀ source loaded, fromYaml source = .ok loaded →
      ∃ raw, ofYaml source = .ok raw ∧ raw.interpolated = .ok loaded ∧
        ∀ text ∈ raw.texts, ∀ name, Text.Refers text.toList name →
          ∃ value, raw.vars.value? name = some value := by
  constructor
  · intro scenario
    refine ⟨?_, ?_, fun error => scenario.fillsTexts.eq_error_iff⟩
    · constructor
      · rintro ⟨filled, done⟩
        exact (scenario.fillsTexts.eq_ok_iff.mp done).1
      · intro each
        exact ⟨_, scenario.fillsTexts.eq_ok_iff.mpr ⟨each, rfl⟩⟩
    · intro filled done
      obtain ⟨each, rfl⟩ := scenario.fillsTexts.eq_ok_iff.mp done
      refine ⟨scenario.vars.fill, fun text member => ?_, rfl⟩
      obtain ⟨written, read⟩ := each text member
      rwa [Variables.fill_eq read]
  · intro source loaded accepted
    obtain ⟨raw, decoded, continued⟩ := ok_of_bind accepted
    obtain ⟨filled, done, continued⟩ := ok_of_bind continued
    obtain ⟨_, -, same⟩ := ok_of_bind continued
    cases same
    refine ⟨raw, ok_of_mapError decoded, done, fun text member name refers => ?_⟩
    obtain ⟨written, read⟩ := (raw.fillsTexts.eq_ok_iff.mp done).1 text member
    obtain ⟨characters, read, -⟩ := ok_of_map read
    exact refers.held read

/-- A scenario that goes to an address, looks for a field and types into it. -/
def ordering (url selector typed : String) : Scenario where
  name := "ordering"
  description := none
  baseUrl := some url
  vars := [("host", "app"), ("field", "#name")]
  steps := [
    .locate [.get selector, .parent] (some "$\x7bfield\x7d") (some 50),
    .interact [.stored "$\x7bfield\x7d"] [.click, .typeText typed] none]

/-- A scenario that looks for a field, and a file with its reference to the field. -/
def finding (selector : String) : Scenario :=
  ⟨"finding", none, none, [("field", "#name")], [.assertPresent [.get selector] none]⟩

def findingText : String :=
  "name: finding\nvars:\n  field: '#name'\nsteps:\n- action: assert_present\n" ++
    "  target:\n  - get: $\x7b field \x7d\n"

/-- Texts are replaced and names are not, and the base URL is read before the first step. -/
theorem interpolated_text_by_text_ordering :
    let raw := ordering "http://$\x7bhost\x7d" "$\x7b field \x7d" "$$\x7benter\x7d"
    let filled := ordering "http://app" "#name" "$\x7benter\x7d"
    raw.interpolated = .ok filled ∧
    (∃ written : String → String,
      (∀ text ∈ ["http://$\x7bhost\x7d", "$\x7b field \x7d", "$$\x7benter\x7d"],
        interpolate raw.vars text = .ok (written text)) ∧ filled = raw.mapTexts written) ∧
    (ordering "http://$\x7bhost" "$\x7babsent\x7d" "$\x7bmissing\x7d").interpolated =
      .error (.scenarioInvalid "Unterminated '$\x7b' in 'http://$\x7bhost'") ∧
    (ordering "http://app" "$\x7babsent\x7d" "$\x7bmissing\x7d").interpolated =
      .error (.undefinedVariable "absent") ∧
    fromYaml findingText = .ok (finding "#name") ∧
    ∃ source, ofYaml findingText = .ok source ∧
      ∃ value, source.vars.value? "field" = some value := by
  intro raw filled
  have done : raw.interpolated = .ok filled := by decide +kernel
  have read : ofYaml findingText = .ok (finding "$\x7b field \x7d") := by decide +kernel
  have loads : fromYaml findingText = .ok (finding "#name") := by decide +kernel
  obtain ⟨each, loaded⟩ := interpolated_text_by_text
  obtain ⟨-, replaced, -⟩ := each raw
  obtain ⟨-, -, unclosed⟩ := each (ordering "http://$\x7bhost" "$\x7babsent\x7d" "$\x7bmissing\x7d")
  obtain ⟨-, -, absent⟩ := each (ordering "http://app" "$\x7babsent\x7d" "$\x7bmissing\x7d")
  refine ⟨done, replaced filled done, ?_, ?_, loads, _, read, ?_⟩
  · exact (unclosed _).mpr ⟨[], _, _, rfl, by simp, by decide +kernel⟩
  · refine (absent _).mpr ⟨["http://app"], _, _, rfl, ?_, by decide +kernel⟩
    exact List.forall_mem_singleton.mpr ⟨"http://app", by decide +kernel⟩
  · obtain ⟨source, same, -, held⟩ := loaded _ _ loads
    obtain rfl := Except.ok.inj (read.symm.trans same)
    have named : String.ofList (Text.trimCharacters " field ".toList) = "field" := by decide
    have characters : "$\x7b field \x7d".toList = '$' :: '{' :: (" field ".toList ++ '}' :: []) := by
      decide
    refine held "$\x7b field \x7d" (by decide) "field" ?_
    rw [characters, ← named]
    exact .here (by decide)

end Scenario

end ScenarioRunner
