import ScenarioRunner.Proofs.Journal
import ScenarioRunner.Run.Scenario

/-!
What programs may ask for. A look at the page asks for searches and for the address, and a step asks
for nothing that concerns files, sessions or screenshots.
-/

namespace ScenarioRunner

variable {σ α β ε ε' : Type} {host : Host σ} {allowed others : Effect → Prop}

/-- The effects of a look at the page. -/
def Effect.Looks : Effect → Prop
  | .call (.find _ _) => True
  | .call .currentUrl => True
  | .clock => True
  | .pause _ => True
  | .note _ => True
  | _ => False

/-- The effects of a step: everything but files, sessions and screenshots. -/
def Effect.Works : Effect → Prop
  | .call .screenshot => False
  | .call .close => False
  | .call _ => True
  | .clock => True
  | .pause _ => True
  | .note _ => True
  | .print _ => True
  | _ => False

theorem Effect.Looks.works {effect : Effect} (looks : effect.Looks) : effect.Works := by
  cases effect with
  | call asked => cases asked <;> trivial
  | _ => trivial

namespace Program

/-- Whatever is answered, the program asks for nothing but what is allowed. -/
inductive Asks (allowed : Effect → Prop) : Program α → Prop where
  | done (value : α) : Asks allowed (.done value)
  | perform {effect : Effect} {next : effect.Answer → Program α} (permitted : allowed effect)
      (continued : ∀ answer, Asks allowed (next answer)) : Asks allowed (.perform effect next)

namespace Asks

theorem pure (value : α) : Asks allowed (Pure.pure value : Program α) := .done value

theorem ask {effect : Effect} (permitted : allowed effect) : Asks allowed (Program.ask effect) :=
  .perform permitted .done

theorem bind {program : Program α} {next : α → Program β} (first : Asks allowed program)
    (continued : ∀ value, Asks allowed (next value)) : Asks allowed (program >>= next) := by
  change Asks allowed (program.bind next)
  induction first with
  | done value => exact continued value
  | perform permitted _ ih => exact .perform permitted ih

theorem map {program : Program α} (f : α → β) (first : Asks allowed program) :
    Asks allowed (f <$> program) := by
  rw [← bind_pure_comp]
  exact first.bind fun value => .pure (f value)

theorem mono {program : Program α} (asks : Asks allowed program)
    (wider : ∀ effect, allowed effect → others effect) : Asks others program := by
  induction asks with
  | done value => exact .done value
  | perform permitted _ ih => exact .perform (wider _ permitted) ih

theorem printIf (wanted : Bool) {text : Text.Styled} (permitted : allowed (.print text)) :
    Asks allowed (Program.printIf wanted text) := by
  cases wanted with
  | false => exact .done ()
  | true => exact .ask permitted

/-- What the entries of allowed effects have in common holds of the journal. -/
theorem forall_log {P : JournalEntry → Prop} {program : Program α} (asks : Asks allowed program)
    (tells : ∀ effect, allowed effect → ∀ started finished answer,
      ∀ entry ∈ effect.entries started finished answer, P entry) (world : World σ) :
    ∀ entry ∈ program.log host world, P entry := by
  induction asks generalizing world with
  | done value => exact nofun
  | perform permitted _ ih =>
      exact List.forall_mem_append.mpr ⟨tells _ permitted _ _ _, ih _ _⟩

end Asks

end Program

/-- A program that may fail and asks for nothing but what is allowed. -/
abbrev Asks (allowed : Effect → Prop) (attempt : Attempt ε α) : Prop :=
  Program.Asks allowed attempt.run

namespace Asks

theorem pure (value : α) : Asks allowed (Pure.pure value : Attempt ε α) := .done _

theorem throw (fault : ε) : Asks allowed (MonadExcept.throw fault : Attempt ε α) := .done _

theorem bind {attempt : Attempt ε α} {next : α → Attempt ε β}
    (first : Asks allowed attempt) (continued : ∀ value, Asks allowed (next value)) :
    Asks allowed (attempt >>= next) := by
  unfold Asks
  rw [ExceptT.run_bind]
  refine Program.Asks.bind first fun result => ?_
  cases result with
  | ok value => exact continued value
  | error fault => exact .done _

theorem map {attempt : Attempt ε α} (f : α → β) (first : Asks allowed attempt) :
    Asks allowed (f <$> attempt) := by
  rw [← bind_pure_comp]
  exact first.bind fun value => .pure (f value)

theorem lift {program : Program α} (asks : program.Asks allowed) :
    Asks allowed (liftM program : Attempt ε α) :=
  Program.Asks.map _ asks

theorem result (result : Except ε α) : Asks allowed (liftM result : Attempt ε α) := .done _

theorem clock (permitted : allowed .clock) :
    Asks allowed (liftM Program.clock : Attempt ε Nat) :=
  lift (.ask permitted)

theorem pause {duration : Nat} (permitted : allowed (.pause duration)) :
    Asks allowed (liftM (Program.pause duration) : Attempt ε Unit) :=
  lift (.ask permitted)

theorem note {event : Event} (permitted : allowed (.note event)) :
    Asks allowed (liftM (Program.note event) : Attempt ε Unit) :=
  lift (.ask permitted)

theorem request {call : Call} (permitted : allowed (.call call)) :
    Asks allowed (Attempt.request call) :=
  Program.Asks.map _ (.ask permitted)

theorem outcome {attempt : Attempt ε α} (asks : Asks allowed attempt) :
    Asks allowed (attempt.outcome : Attempt ε' (Except ε α)) :=
  Program.Asks.map _ asks

theorem failing {attempt : Attempt ε α} (asks : Asks allowed attempt) :
    Asks allowed attempt.failing :=
  Program.Asks.map _ asks

/-- What a look may ask for a step may ask for as well. -/
theorem works {attempt : Attempt ε α} (looks : Asks Effect.Looks attempt) :
    Asks Effect.Works attempt :=
  Program.Asks.mono looks fun _ => Effect.Looks.works

end Asks

namespace Lookup

theorem asks_collectBelow (locator : Locator) (scopes : List ElementId) :
    Asks Effect.Looks (collectBelow locator scopes) := by
  induction scopes with
  | nil => exact .pure _
  | cons scope rest ih => exact (Asks.request trivial).bind fun found => ih.bind fun _ => .pure _

theorem asks_firstBelow (locator : Locator) (scopes : List ElementId) :
    Asks Effect.Looks (firstBelow locator scopes) := by
  induction scopes with
  | nil => exact .pure _
  | cons scope rest ih =>
      refine (Asks.request trivial).bind fun found => ?_
      split
      · exact ih
      · exact .pure _

theorem asks_collectParents (listed elements : List ElementId) :
    Asks Effect.Looks (collectParents listed elements) := by
  induction elements generalizing listed with
  | nil => exact .pure _
  | cons element rest ih => exact (Asks.request trivial).bind fun parents => ih _

theorem asks_follow (subject : Option (List ElementId)) (link : Link) :
    Asks Effect.Looks (follow subject link) := by
  cases link with
  | get selector => exact .request trivial
  | find selector => exact asks_collectBelow _ _
  | contains text =>
      cases subject with
      | none => exact (Asks.request trivial).bind fun found => .pure _
      | some scopes => exact (asks_firstBelow _ _).bind fun found => .pure _
  | parent => exact asks_collectParents _ _
  | stored name => exact .throw _

theorem asks_followAll (position : Nat) (subject : Option (List ElementId)) (chain : Chain) :
    Asks Effect.Looks (followAll position subject chain) := by
  induction chain generalizing position subject with
  | nil => exact .pure _
  | cons link rest ih =>
      refine (Asks.note trivial).bind fun _ => (asks_follow subject link).bind fun next => ?_
      split
      · exact .pure _
      · exact ih _ _

theorem asks_evaluate (chain : Chain) : Asks Effect.Looks (evaluate chain) :=
  (Asks.note trivial).bind fun _ => asks_followAll 0 none chain

end Lookup

namespace Attempt

theorem asks_glance (chain : Chain) : Asks Effect.Looks (glance chain) := by
  refine (Lookup.asks_evaluate chain).outcome.bind fun result => ?_
  split
  · exact .pure _
  · split
    · exact .pure _
    · exact .throw _
  · exact .throw _

/-- A look that settles nothing asks for the time. -/
theorem asks_lookUntil {look : Attempt (Stop Fault) (Look α)} {otherwise : Attempt (Stop Fault) α}
    (reads : allowed .clock) (looks : Asks allowed look) (others : Asks allowed otherwise)
    (deadline : Nat) : Asks allowed (lookUntil deadline look otherwise) := by
  refine looks.bind fun seen => ?_
  cases seen with
  | settled value => exact .pure value
  | unsettled fault =>
      refine (Asks.clock reads).bind fun now => ?_
      by_cases late : deadline ≤ now
      · simp only [if_pos late]
        exact .throw _
      · simp only [if_neg late]
        exact others

/-- Waiting asks for the time and for pauses besides what its looks ask for. -/
theorem asks_pollUntil {look : Attempt (Stop Fault) (Look α)} (reads : allowed .clock)
    (rests : ∀ duration, allowed (.pause duration)) (looks : Asks allowed look)
    (interval deadline patience : Nat) :
    Asks allowed (pollUntil interval deadline look patience) := by
  induction patience with
  | zero => exact asks_lookUntil reads looks (.throw _) deadline
  | succ patience ih =>
      exact asks_lookUntil reads looks ((Asks.pause (rests interval)).bind fun _ => ih) deadline

theorem asks_poll {look : Nat → Attempt (Stop Fault) (Look α)} (reads : allowed .clock)
    (rests : ∀ duration, allowed (.pause duration)) (looks : ∀ deadline, Asks allowed (look deadline))
    (interval timeout : Nat) : Asks allowed (poll interval timeout look) := by
  refine (Asks.clock reads).bind fun start => ?_
  by_cases fits : Fits start timeout
  · simp only [if_pos fits]
    exact asks_pollUntil reads rests (looks _) _ _ _
  · simp only [if_neg fits]
    exact .throw _

theorem asks_resolve (interval timeout : Nat) (chain : Chain) :
    Asks Effect.Looks (resolve interval timeout chain) :=
  asks_poll trivial (fun _ => trivial) (fun _ => ((asks_glance chain).map _).failing) _ _

theorem asks_waitAbsent (interval timeout : Nat) (chain : Chain) :
    Asks Effect.Looks (waitAbsent interval timeout chain) :=
  asks_poll trivial (fun _ => trivial) (fun _ => ((asks_glance chain).map _).failing) _ _

theorem asks_waitUrl (interval timeout : Nat) (fragment : String) :
    Asks Effect.Looks (waitUrl interval timeout fragment) := by
  refine asks_poll trivial (fun _ => trivial) (fun _ => Asks.failing ?_) _ _
  refine (Asks.request trivial).bind fun url => ?_
  split
  · exact .pure _
  · exact .pure _

/-- An act is one call of its own, and a note of what is typed. -/
theorem asks_act (notes : ∀ event, allowed (.note event)) {element : ElementId}
    (clicks : allowed (.call (.click element)))
    (types : ∀ keys, allowed (.call (.sendKeys element keys)))
    (clears : allowed (.call (.clear element))) (reveals : allowed (.call (.reveal element)))
    (interaction : Interaction) : Asks allowed (act interaction element) := by
  cases interaction with
  | click => exact .request clicks
  | typeText text =>
      refine (Asks.note (notes _)).bind fun _ => ?_
      split
      · exact .request (types _)
      · exact .throw _
  | clear => exact .request clears
  | reveal => exact .request reveals

theorem asks_tryInteraction (options : RunOptions) (chain : Chain) (interaction : Interaction)
    (deadline : Nat) : Asks Effect.Works (tryInteraction options chain interaction deadline) := by
  refine (Asks.clock trivial).bind fun now => ?_
  refine Asks.bind (asks_resolve _ _ chain).works fun elements => ?_
  cases elements with
  | nil => exact .throw _
  | cons element rest =>
      have acts : Asks Effect.Works (act interaction element) :=
        asks_act (fun _ => trivial) trivial (fun _ => trivial) trivial trivial interaction
      refine acts.outcome.bind fun result => ?_
      split
      · exact (Asks.lift (.printIf _ trivial)).bind fun _ => .pure _
      · split
        · exact .pure _
        · exact .throw _
      · exact .throw _

theorem asks_interact (options : RunOptions) (timeout : Nat) (chain : Chain)
    (interaction : Interaction) : Asks Effect.Works (interact options timeout chain interaction) :=
  (Asks.note trivial).bind fun _ =>
    asks_poll trivial (fun _ => trivial) (asks_tryInteraction options chain interaction) _ _

theorem asks_forM (options : RunOptions) (timeout : Nat) (chain : Chain)
    (interactions : List Interaction) :
    Asks Effect.Works (interactions.forM (interact options timeout chain)) := by
  induction interactions with
  | nil => exact .pure _
  | cons interaction rest ih => exact (asks_interact options timeout chain interaction).bind fun _ => ih

theorem asks_perform (options : RunOptions) (stored : StoredChains) (step : Step) :
    Asks Effect.Works (perform options stored step) := by
  cases step with
  | navigate url => exact (Asks.request trivial).failing.bind fun _ => .pure _
  | locate target storeAs timeout =>
      refine (Asks.result _).failing.bind fun chain => ?_
      refine Asks.bind (asks_resolve _ _ chain).works fun elements => ?_
      refine (Asks.lift (.printIf _ trivial)).bind fun _ => ?_
      cases storeAs with
      | none => exact .pure _
      | some name => exact .pure _
  | interact target interactions timeout =>
      exact (Asks.result _).failing.bind fun chain => (asks_forM options _ chain interactions).bind fun _ => .pure _
  | assertPresent target timeout =>
      exact (Asks.result _).failing.bind fun chain => Asks.bind (asks_resolve _ _ chain).works fun _ => .pure _
  | assertAbsent target timeout =>
      exact (Asks.result _).failing.bind fun chain => Asks.bind (asks_waitAbsent _ _ chain).works fun _ => .pure _
  | assertUrlContains fragment timeout =>
      exact Asks.bind (asks_waitUrl _ _ fragment).works fun _ => .pure _

end Attempt

/-- A step asks for nothing that concerns files, sessions or screenshots. -/
theorem Executor.asks_execute (options : RunOptions) (executor : Executor) (step : Step) :
    Asks Effect.Works (executor.execute options step) := by
  refine (Asks.note trivial).bind fun _ => ?_
  refine (Attempt.asks_perform options executor.stored step).outcome.bind fun result => ?_
  split
  · exact .pure _
  · exact .pure _
  · exact .throw _

theorem Run.asks_steps (options : RunOptions) (executor : Executor) (list : List Step) :
    Asks Effect.Works (steps options executor list) := by
  induction list generalizing executor with
  | nil => exact .pure _
  | cons step rest ih =>
      refine (executor.asks_execute options step).bind fun executed => ?_
      obtain ⟨result, next⟩ := executed
      cases result with
      | ok value => exact (Asks.lift (.printIf _ trivial)).bind fun _ => ih next
      | error failure => exact (Asks.lift (.printIf _ trivial)).bind fun _ => .pure _

end ScenarioRunner
