import ScenarioRunner.Proofs.Progress

/-!
How any text at all is typed. Its braces are quoted against the names of keys and what comes of that
is quoted against references; loading takes off the one quotation and typing the other.
-/

namespace ScenarioRunner

namespace Text

/-- An opening brace is written as the key that types it. -/
def quoteKeyCharacters (text : List Char) : List Char :=
  text.flatMap fun c => if c = '{' then ['{', '{', '}'] else [c]

/-- The text that types a text. -/
def quoteKeys (text : String) : String := String.ofList (quoteKeyCharacters text.toList)

/-- A dollar before an opening brace is written twice. -/
def quoteReferenceCharacters : List Char → List Char
  | '$' :: '{' :: rest => '$' :: '$' :: '{' :: quoteReferenceCharacters rest
  | c :: rest => c :: quoteReferenceCharacters rest
  | [] => []

/-- The text that loads as a text. -/
def quoteReferences (text : String) : String :=
  String.ofList (quoteReferenceCharacters text.toList)

/-- The text that loads as the text that types a text. -/
def quoted (text : String) : String := quoteReferences (quoteKeys text)

theorem find?_openingBrace : SpecialKey.find? ['{'] = some .openingBrace := by decide +kernel

/-- Three characters type one brace, whatever follows them. -/
theorem expandCharacters_openingBrace (rest : List Char) :
    expandCharacters ('{' :: '{' :: '}' :: rest) = (expandCharacters rest).map ('{' :: ·) := by
  have closed : splitKeyName ('{' :: '}' :: rest) = some (['{'], rest) := by
    simp [splitKeyName, splitAtFirst]
  rw [expandCharacters, if_pos rfl]
  split
  next unclosed => simp [closed] at unclosed
  next name after found =>
    obtain ⟨rfl, rfl⟩ : ['{'] = name ∧ rest = after := by simpa [closed] using found
    rw [find?_openingBrace]
    rfl

/-- Quoted keys are no keys. -/
theorem expandCharacters_quoteKeyCharacters (text : List Char) :
    expandCharacters (quoteKeyCharacters text) = .ok text := by
  induction text with
  | nil => simp [quoteKeyCharacters, expandCharacters]
  | cons c rest ih =>
      simp only [quoteKeyCharacters, List.flatMap_cons] at ih ⊢
      by_cases brace : c = '{'
      · subst brace
        simp [expandCharacters_openingBrace, ih, Except.map]
      · simp [expandCharacters, brace, ih, Except.map]

theorem expandKeys_quoteKeys (text : String) : expandKeys (quoteKeys text) = .ok text := by
  simp [expandKeys, quoteKeys, expandCharacters_quoteKeyCharacters, Except.map]

/-- A dollar that stands before no brace is itself. -/
theorem quoteReferenceCharacters_cons {c : Char} {rest : List Char}
    (plain : ∀ after, c = '$' → rest = '{' :: after → False) :
    quoteReferenceCharacters (c :: rest) = c :: quoteReferenceCharacters rest :=
  quoteReferenceCharacters.eq_2 c rest plain

/-- No brace comes to the start of a text that has none there. -/
theorem brace_of_quoteReferenceCharacters {text rest : List Char}
    (quoted : quoteReferenceCharacters text = '{' :: rest) : ∃ after, text = '{' :: after := by
  fun_cases quoteReferenceCharacters text with
  | case1 after => simp [quoteReferenceCharacters] at quoted
  | case2 c after plain =>
      rw [quoteReferenceCharacters_cons plain] at quoted
      obtain ⟨rfl, -⟩ := List.cons.inj quoted
      exact ⟨after, rfl⟩
  | case3 => simp [quoteReferenceCharacters] at quoted

/-- What is quoted does not start with a reference. -/
theorem quoteReferenceCharacters_ne_reference (text rest : List Char) :
    quoteReferenceCharacters text ≠ '$' :: '{' :: rest := by
  fun_cases quoteReferenceCharacters text with
  | case1 after => simp
  | case2 c after plain =>
      intro same
      obtain ⟨dollar, brace⟩ := List.cons.inj same
      obtain ⟨others, split⟩ := brace_of_quoteReferenceCharacters brace
      exact plain others dollar split
  | case3 => simp

end Text

open Text in
/-- Quoted references are no references, whatever the constants are. -/
theorem interpolateCharacters_quoteReferenceCharacters (vars : Variables) (whole : String)
    (text : List Char) :
    interpolateCharacters vars whole (quoteReferenceCharacters text) = .ok text := by
  fun_induction quoteReferenceCharacters text with
  | case1 rest ih => simp [interpolateCharacters, ih, Except.map]
  | case2 c rest plain ih =>
      have unquoted (after : List Char) : quoteReferenceCharacters rest ≠ '$' :: '{' :: after :=
        quoteReferenceCharacters_ne_reference rest after
      have lone (after : List Char) (dollar : c = '$') :
          quoteReferenceCharacters rest ≠ '{' :: after := by
        intro brace
        obtain ⟨others, split⟩ := brace_of_quoteReferenceCharacters brace
        exact plain others dollar split
      rw [interpolateCharacters.eq_4 _ _ _ _ (fun after _ => unquoted after) lone, ih]
      rfl
  | case3 => simp [interpolateCharacters]

theorem interpolate_quoteReferences (vars : Variables) (text : String) :
    interpolate vars (Text.quoteReferences text) = .ok text := by
  simp [interpolate, Text.quoteReferences, interpolateCharacters_quoteReferenceCharacters,
    Except.map]

example : Text.quoted "$$\x7ba\x7d" = "$$$\x7b\x7b\x7da\x7d" := by decide +kernel

/-- An interaction is put between others into a step of a scenario, in place of all its steps. -/
structure Scenario.Place where
  scenario : Scenario
  earlier : List Step
  target : Chain
  before : List Interaction
  after : List Interaction
  timeout : Option UInt64
  later : List Step

namespace Scenario.Place

def step (place : Place) (interaction : Interaction) : Step :=
  .interact place.target (place.before ++ interaction :: place.after) place.timeout

def fill (place : Place) (interaction : Interaction) : Scenario :=
  { place.scenario with steps := place.earlier ++ place.step interaction :: place.later }

/-- Everything around the interaction with its references replaced. -/
def interpolated (place : Place) : Except Error Place := do
  let vars := place.scenario.vars
  let baseUrl ← place.scenario.interpolatedBaseUrl
  let earlier ← place.earlier.mapM (Step.interpolated vars)
  let target ← Chain.interpolated vars place.target
  let before ← place.before.mapM (Interaction.interpolated vars)
  let after ← place.after.mapM (Interaction.interpolated vars)
  let later ← place.later.mapM (Step.interpolated vars)
  return ⟨{ place.scenario with baseUrl }, earlier, target, before, after, place.timeout, later⟩

/-- An interaction that loads is replaced within what is around it. -/
theorem interpolated_fill {place : Place} {interaction loaded : Interaction}
    (loads : interaction.interpolated place.scenario.vars = .ok loaded) :
    (place.fill interaction).interpolated = (·.fill loaded) <$> place.interpolated := by
  simp only [Scenario.interpolated, fill, step, interpolated, List.mapM_append, List.mapM_cons,
    Step.interpolated, loads, bind_assoc, pure_bind, map_bind, map_pure]
  rfl

/-- The interaction stays in its place. -/
theorem lengths_of_interpolated {place loaded : Place} (loads : place.interpolated = .ok loaded) :
    loaded.earlier.length = place.earlier.length ∧ loaded.before.length = place.before.length := by
  obtain ⟨baseUrl, -, continued⟩ := ok_of_bind loads
  obtain ⟨earlier, steps, continued⟩ := ok_of_bind continued
  obtain ⟨target, -, continued⟩ := ok_of_bind continued
  obtain ⟨before, interactions, continued⟩ := ok_of_bind continued
  obtain ⟨after, -, continued⟩ := ok_of_bind continued
  obtain ⟨later, -, same⟩ := ok_of_bind continued
  cases same
  exact ⟨(mapM_eq_ok_iff.mp steps).length_eq.symm, (mapM_eq_ok_iff.mp interactions).length_eq.symm⟩

/-- Steps are judged alike when they differ in a step that is judged in the same way. -/
theorem checkSteps_replace {step other : Step}
    (judged : ∀ known, step.check known = other.check known)
    (names : step.storedName? = other.storedName?) (earlier later : List Step) (number : Nat)
    (known : List String) :
    checkSteps number known (earlier ++ step :: later) =
      checkSteps number known (earlier ++ other :: later) := by
  induction earlier generalizing number known with
  | nil => simp only [List.nil_append, checkSteps, judged, Step.addName, names]
  | cons head rest ih => simp only [List.cons_append, checkSteps, ih]

/-- Interactions that are judged in the same way make no difference to the rules. -/
theorem validate_fill {interaction other : Interaction} (place : Place)
    (judged : interaction.check = other.check) :
    (place.fill interaction).validate = (place.fill other).validate := by
  have steps (known : List String) :
      (place.step interaction).check known = (place.step other).check known := by
    simp [step, Step.check, Step.target?, judged]
  have same := checkSteps_replace steps rfl place.earlier place.later 1 []
  simp [Scenario.validate, Scenario.check, fill, same]

/-- What is loaded from a text with an interaction in it. -/
theorem fromYaml_fill {place : Place} {interaction loaded : Interaction} {source : String}
    (read : ofYaml source = .ok (place.fill interaction))
    (loads : interaction.interpolated place.scenario.vars = .ok loaded) :
    fromYaml source = do
      let around ← place.interpolated
      (around.fill loaded).validate
      return around.fill loaded := by
  have taken : fromYaml source = do
      let scenario ← (place.fill interaction).interpolated
      scenario.validate
      return scenario := by
    simp only [fromYaml, read]
    rfl
  rw [taken, interpolated_fill loads, map_eq_pure_bind, bind_assoc]
  simp only [pure_bind]

/-- A text is accepted when the rules are kept with the interaction in its place. -/
theorem accepted_fill {place : Place} {interaction loaded : Interaction} {source : String}
    (read : ofYaml source = .ok (place.fill interaction))
    (loads : interaction.interpolated place.scenario.vars = .ok loaded) :
    (fromYaml source).map (fun _ => ()) =
      place.interpolated >>= fun around => (around.fill loaded).validate := by
  rw [fromYaml_fill read loads]
  cases place.interpolated with
  | error error => rfl
  | ok around =>
      show ((around.fill loaded).validate >>= fun _ => pure (around.fill loaded)).map _ =
        (around.fill loaded).validate
      cases (around.fill loaded).validate <;> rfl

end Scenario.Place

/-- What a step does at one of its interactions: it sends a text to an element, whatever the
executor, the page and the options are. Its turn is when as many deeds were done as there are
interactions before it. -/
def Step.SendsAt (step : Step) (position : Nat) (text : String) : Prop :=
  ∀ {σ : Type} {host : Host σ} {options : RunOptions} {executor : Executor} {before after : World σ}
    {journal : List JournalEntry} {ended : Except Breakdown (Except Failure Unit × Executor)},
    (executor.execute options step).Runs host before journal after ended →
    (∀ front act rest, calls journal = front ++ act :: rest → act.call.acts = true →
      (deeds front).length = position → ∃ element, act.call = .sendKeys element text) ∧
    ∀ next, ended = .ok (.ok (), next) →
      ∃ record element, (deeds (calls journal))[position]? = some record ∧
        record.call = .sendKeys element text

theorem Interaction.call_quoteKeys {text : String} {element : ElementId} {call : Call}
    (meant : (Interaction.typeText (Text.quoteKeys text)).call element = .ok call) :
    call = .sendKeys element text := by
  simp only [Interaction.call, Text.expandKeys_quoteKeys, Except.map, Except.ok.injEq] at meant
  exact meant.symm

theorem Step.sendsAt_quoteKeys (target : Chain) (before after : List Interaction)
    (timeout : Option UInt64) (text : String) :
    (Step.interact target (before ++ .typeText (Text.quoteKeys text) :: after) timeout).SendsAt
      before.length text := by
  intro σ host options executor world last journal ended ran
  obtain ⟨opened, entries, outcome, rfl, -, -, attempted, told⟩ := Executor.runs_execute ran
  rw [calls_event, told]
  rcases Attempt.runs_expand_bind attempted with
    ⟨fault, unknown, rfl, rfl⟩ | ⟨chain, expanded, windows⟩
  · refine ⟨?_, nofun⟩
    intro front act rest placed
    simp at placed
  obtain ⟨result, interacted, rfl⟩ := Attempt.runs_bind_pure windows
  obtain ⟨left, advances, finished⟩ := Attempt.advances_of_forM interacted
  constructor
  · intro front act rest placed acts turn
    obtain ⟨interaction, earlier, searches, next, -, aimed⟩ := advances.aimed_of_acts placed acts
    obtain ⟨element, others, -, meant⟩ := aimed.meant
    obtain rfl : .typeText (Text.quoteKeys text) = interaction := by simpa [turn] using next
    exact ⟨element, Interaction.call_quoteKeys meant⟩
  · intro next passed
    obtain rfl : result = .ok () := by
      rcases result with (fault | breakdown) | value
      · cases passed
      · cases passed
      · rfl
    obtain rfl := finished.mpr rfl
    obtain ⟨done, whole, each⟩ := advances.deeds_eq
    rw [List.append_nil] at whole
    subst whole
    obtain ⟨lengths, each⟩ := List.forall₂_iff_get.mp each
    have inside : before.length < (deeds (calls entries)).length := by
      rw [← lengths, List.length_append, List.length_cons]
      omega
    obtain ⟨element, meant⟩ := each before.length (by simp) inside
    exact ⟨_, element, List.getElem?_eq_getElem inside,
      Interaction.call_quoteKeys (by simpa using meant)⟩

namespace Scenario

/-- Any text is typed as it is when its braces are quoted against keys and then against references.
Whatever the constants are, loading takes off the second quotation, and typing the first. A scenario
with such a text in an interaction is accepted just when it is with a click in its place, and
rejected for the same reason. What is loaded sends the text when the turn of the interaction comes,
and sends nothing else in that turn. -/
theorem quoted_typed (text : String) :
    (∀ vars, interpolate vars (Text.quoted text) = .ok (Text.quoteKeys text)) ∧
    Text.expandKeys (Text.quoteKeys text) = .ok text ∧
    ∀ (place : Place) (typing clicking : String),
      ofYaml typing = .ok (place.fill (.typeText (Text.quoted text))) →
      ofYaml clicking = .ok (place.fill .click) →
      (fromYaml typing).map (fun _ => ()) = (fromYaml clicking).map (fun _ => ()) ∧
      ∀ loaded, fromYaml typing = .ok loaded →
        ∃ step, loaded.steps[place.earlier.length]? = some step ∧
          step.SendsAt place.before.length text := by
  have loads (vars : Variables) : (Interaction.typeText (Text.quoted text)).interpolated vars =
      .ok (.typeText (Text.quoteKeys text)) := by
    simp only [Interaction.interpolated, Text.quoted, interpolate_quoteReferences]
    rfl
  refine ⟨fun vars => interpolate_quoteReferences vars _, Text.expandKeys_quoteKeys text, ?_⟩
  intro place typing clicking read_typing read_clicking
  constructor
  · have judged : (Interaction.typeText (Text.quoteKeys text)).check = Interaction.click.check := by
      simp [Interaction.check, Text.expandKeys_quoteKeys]
    rw [Place.accepted_fill read_typing (loads _), Place.accepted_fill read_clicking rfl]
    apply congrArg (place.interpolated >>= ·)
    funext around
    exact Place.validate_fill around judged
  · intro loaded accepted
    rw [Place.fromYaml_fill read_typing (loads _)] at accepted
    obtain ⟨around, loads_around, continued⟩ := ok_of_bind accepted
    obtain ⟨_, -, same⟩ := ok_of_bind continued
    cases same
    obtain ⟨earlier, before⟩ := Place.lengths_of_interpolated loads_around
    refine ⟨around.step (.typeText (Text.quoteKeys text)), by simp [Place.fill, ← earlier], ?_⟩
    rw [← before]
    exact Step.sendsAt_quoteKeys around.target around.before around.after around.timeout text

/-- A scenario in which an interaction stands alone. -/
def Place.lone : Place := ⟨⟨"typing", none, none, [], []⟩, [], [.get "input"], [], [], none, []⟩

/-- A file with one interaction. -/
def loneText (interaction : String) : String :=
  "\x7bname: typing, steps: [\x7baction: interact, target: [\x7bget: input\x7d], perform: [" ++
    interaction ++ "]\x7d]\x7d"

/-- What looks like a reference to a constant, a key and an open brace is typed as it stands. -/
theorem quoted_typed_reference :
    let text := "$\x7benter\x7d\x7b"
    ∃ loaded step, fromYaml (loneText ("type: '" ++ Text.quoted text ++ "'")) = .ok loaded ∧
      loaded.steps[0]? = some step ∧ step.SendsAt 0 text := by
  intro text
  have typing : ofYaml (loneText ("type: '" ++ Text.quoted text ++ "'")) =
      .ok (Place.lone.fill (.typeText (Text.quoted text))) := by
    decide +kernel
  have clicking : ofYaml (loneText "click") = .ok (Place.lone.fill .click) := by
    decide +kernel
  obtain ⟨-, -, typed⟩ := quoted_typed text
  obtain ⟨same, sends⟩ := typed Place.lone _ _ typing clicking
  have clicks : (fromYaml (loneText "click")).map (fun _ => ()) = .ok () := by
    rw [Place.accepted_fill clicking rfl]
    decide +kernel
  rw [clicks] at same
  cases accepted : fromYaml (loneText ("type: '" ++ Text.quoted text ++ "'")) with
  | error error => simp [accepted, Except.map] at same
  | ok loaded =>
      obtain ⟨step, placed, sent⟩ := sends loaded accepted
      exact ⟨loaded, step, rfl, placed, sent⟩

end Scenario

end ScenarioRunner
