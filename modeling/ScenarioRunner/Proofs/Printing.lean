import ScenarioRunner.Proofs.Asking
import ScenarioRunner.Proofs.Progress

/-!
What programs print. Lookups and waits print nothing, and interactions are told in a verbose run
once they are done.
-/

namespace ScenarioRunner

variable {σ α β ε ε' : Type} {host : Host σ} {verbose : Bool}

/-- The text that an effect prints. -/
def Effect.printed : Effect → Text.Styled
  | .print text => text
  | _ => []

theorem World.printed_enact (host : Host σ) (world : World σ) (effect : Effect) :
    (world.enact host effect).2.printed = world.printed ++ effect.printed := by
  cases effect with
  | print text => simp [enact, printed, Effect.printed]
  | writeFile path content =>
      cases changed : world.files.write path content <;>
        simp [enact, change, changed, printed, Effect.printed]
  | createDirectory path =>
      cases changed : world.files.createDirectory path <;>
        simp [enact, change, changed, printed, Effect.printed]
  | _ => simp [enact, printed, Effect.printed]

/-- Something was done to an element. -/
def HasDeed (journal : List JournalEntry) : Prop := ∃ record ∈ calls journal, record.isDeed = true

theorem hasDeed_append {first second : List JournalEntry} :
    HasDeed (first ++ second) ↔ HasDeed first ∨ HasDeed second := by
  simp only [HasDeed, calls_append, List.mem_append, or_and_right, exists_or]

theorem not_hasDeed_nil : ¬ HasDeed [] := by
  simp [HasDeed]

namespace Program

/-- The text that a program prints, in order. -/
def prints (host : Host σ) : Program α → World σ → Text.Styled
  | .done _, _ => []
  | .perform effect next, world =>
    effect.printed ++ (next (world.enact host effect).1).prints host (world.enact host effect).2

@[simp] theorem prints_pure (host : Host σ) (value : α) (world : World σ) :
    (pure value : Program α).prints host world = [] := rfl

@[simp] theorem log_pure (host : Host σ) (value : α) (world : World σ) :
    (pure value : Program α).log host world = [] := rfl

theorem printed_run (host : Host σ) (program : Program α) (world : World σ) :
    (program.run host world).2.printed = world.printed ++ program.prints host world := by
  induction program generalizing world with
  | done value => simp [prints]
  | perform effect next ih =>
      simp only [run, prints]
      rw [ih, World.printed_enact, List.append_assoc]

/-- The output stays as it is when nothing is printed, and only then. -/
theorem printed_run_eq_iff {program : Program α} {world : World σ} :
    (program.run host world).2.printed = world.printed ↔ program.prints host world = [] := by
  rw [printed_run, List.append_right_eq_self]

theorem prints_bind (host : Host σ) (program : Program α) (next : α → Program β)
    (world : World σ) :
    (program >>= next).prints host world =
      program.prints host world ++
        (next (program.run host world).1).prints host (program.run host world).2 := by
  change (program.bind next).prints host world = _
  induction program generalizing world with
  | done value => rfl
  | perform effect rest ih => simp only [bind, prints, run, ih, List.append_assoc]

theorem prints_map (host : Host σ) (f : α → β) (program : Program α) (world : World σ) :
    (f <$> program).prints host world = program.prints host world := by
  rw [← bind_pure_comp, prints_bind]
  exact List.append_nil _

theorem run_map (host : Host σ) (f : α → β) (program : Program α) (world : World σ) :
    (f <$> program).run host world =
      (f (program.run host world).1, (program.run host world).2) := by
  rw [← bind_pure_comp, run_bind]
  rfl

theorem log_map (host : Host σ) (f : α → β) (program : Program α) (world : World σ) :
    (f <$> program).log host world = program.log host world := by
  rw [← bind_pure_comp, log_bind]
  exact List.append_nil _

/-- A program prints something exactly when the run is verbose and it does something to an
element. -/
def TellsDeeds (host : Host σ) (verbose : Bool) (program : Program α) : Prop :=
  ∀ world, program.prints host world = [] ↔
    ¬ (verbose = true ∧ HasDeed (program.log host world))

namespace TellsDeeds

theorem pure (value : α) : TellsDeeds host verbose (Pure.pure value : Program α) :=
  fun _ => iff_of_true rfl fun told => not_hasDeed_nil told.2

/-- What is told of two parts is told of both together. -/
theorem bind {program : Program α} {next : α → Program β} (first : TellsDeeds host verbose program)
    (continued : ∀ value, TellsDeeds host verbose (next value)) :
    TellsDeeds host verbose (program >>= next) := by
  intro world
  rw [prints_bind, log_bind, List.append_eq_nil_iff, hasDeed_append, first world,
    continued _ (program.run host world).2]
  grind

theorem map {program : Program α} (f : α → β) (first : TellsDeeds host verbose program) :
    TellsDeeds host verbose (f <$> program) := by
  rw [← bind_pure_comp]
  exact first.bind fun value => .pure (f value)

/-- Only calls that act are told. -/
theorem ask {effect : Effect} (silent : effect.printed = [])
    (idle : ∀ call, effect = .call call → verbose = true → call.acts = false) :
    TellsDeeds host verbose (Program.ask effect) := by
  intro world
  refine iff_of_true (by simp [Program.ask, prints, silent]) fun told => ?_
  obtain ⟨talkative, record, listed, deed⟩ := told
  cases effect with
  | call asked =>
      obtain rfl := List.mem_singleton.mp listed
      simp [CallRecord.isDeed, idle asked rfl talkative] at deed
  | _ => cases listed

/-- What asks only for silent effects and, in a verbose run, acts on nothing has nothing to tell. -/
theorem of_asks {allowed : Effect → Prop} {program : Program α} (asks : program.Asks allowed)
    (silent : ∀ effect, allowed effect → effect.printed = [])
    (idle : ∀ call, allowed (.call call) → verbose = true → call.acts = false) :
    TellsDeeds host verbose program := by
  induction asks with
  | done value => exact .pure value
  | perform permitted _ ih =>
      have first : TellsDeeds host verbose (Program.ask _) :=
        .ask (silent _ permitted) fun call same => idle call (same ▸ permitted)
      exact first.bind ih

/-- A look has nothing to tell. -/
theorem of_looks {program : Program α} (asks : program.Asks Effect.Looks) :
    TellsDeeds host verbose program := by
  refine of_asks asks (fun effect looks => ?_) (fun call looks _ => ?_)
  · cases effect with
    | print text => exact looks.elim
    | _ => rfl
  · cases call with
    | find locator scope => rfl
    | currentUrl => rfl
    | _ => exact looks.elim

end TellsDeeds

theorem tellsDeeds_clock : TellsDeeds host verbose clock := .ask rfl nofun

theorem tellsDeeds_pause (duration : Nat) : TellsDeeds host verbose (pause duration) :=
  .ask rfl nofun

theorem tellsDeeds_note (event : Event) : TellsDeeds host verbose (note event) := .ask rfl nofun

theorem tellsDeeds_call {call : Call} (idle : verbose = true → call.acts = false) :
    TellsDeeds host verbose (Program.call call) := by
  refine .ask rfl fun asked same => ?_
  cases same
  exact idle

theorem tellsDeeds_openSession (request : SessionRequest) :
    TellsDeeds host verbose (openSession request) := .ask rfl nofun

theorem tellsDeeds_createDirectory (path : Path) :
    TellsDeeds host verbose (createDirectory path) := .ask rfl nofun

theorem tellsDeeds_writeFile (path : Path) (content : ByteArray) :
    TellsDeeds host verbose (writeFile path content) := .ask rfl nofun

theorem tellsDeeds_printIf (text : Text.Styled) : TellsDeeds host verbose (printIf false text) :=
  .pure ()

/-- A program whose deeds are not told prints nothing. -/
theorem TellsDeeds.prints_eq_nil {program : Program α} (tells : TellsDeeds host false program)
    (world : World σ) : program.prints host world = [] :=
  (tells world).mpr fun told => Bool.false_ne_true told.1

end Program

/-- A program that may fail and is told of like any other. -/
abbrev TellsDeeds (host : Host σ) (verbose : Bool) (attempt : Attempt ε α) : Prop :=
  Program.TellsDeeds host verbose attempt.run

/-- A program that comes first has no fault to go on with. -/
theorem Program.run_lift_bind (program : Program α) (next : α → Attempt ε β) :
    (liftM program >>= next : Attempt ε β).run =
      program >>= fun value => (next value).run := by
  rw [ExceptT.run_bind]
  exact bind_map_left _ _ _

namespace TellsDeeds

theorem pure (value : α) : TellsDeeds host verbose (Pure.pure value : Attempt ε α) :=
  Program.TellsDeeds.pure _

theorem throw (fault : ε) : TellsDeeds host verbose (MonadExcept.throw fault : Attempt ε α) :=
  Program.TellsDeeds.pure _

theorem bind {attempt : Attempt ε α} {next : α → Attempt ε β}
    (first : TellsDeeds host verbose attempt)
    (continued : ∀ value, TellsDeeds host verbose (next value)) :
    TellsDeeds host verbose (attempt >>= next) := by
  unfold TellsDeeds
  rw [ExceptT.run_bind]
  refine Program.TellsDeeds.bind first fun result => ?_
  cases result with
  | ok value => exact continued value
  | error fault => exact .pure _

theorem lift {program : Program α} (tells : program.TellsDeeds host verbose) :
    TellsDeeds host verbose (liftM program : Attempt ε α) :=
  Program.TellsDeeds.map _ tells

theorem result (result : Except ε α) :
    TellsDeeds host verbose (liftM result : Attempt ε α) :=
  Program.TellsDeeds.pure _

theorem failing {attempt : Attempt ε α} (tells : TellsDeeds host verbose attempt) :
    TellsDeeds host verbose attempt.failing :=
  Program.TellsDeeds.map _ tells

end TellsDeeds

namespace Attempt

theorem tellsDeeds_request {call : Call} (idle : verbose = true → call.acts = false) :
    TellsDeeds host verbose (request call) :=
  Program.TellsDeeds.map _ (Program.tellsDeeds_call idle)

theorem tellsDeeds_lookUntil {look : Attempt (Stop Fault) (Look α)}
    {otherwise : Attempt (Stop Fault) α} (deadline : Nat) (looks : TellsDeeds host verbose look)
    (others : TellsDeeds host verbose otherwise) :
    TellsDeeds host verbose (lookUntil deadline look otherwise) := by
  refine looks.bind fun seen => ?_
  cases seen with
  | settled value => exact .pure value
  | unsettled fault =>
      refine (TellsDeeds.lift Program.tellsDeeds_clock).bind fun now => ?_
      by_cases late : deadline ≤ now
      · simp only [if_pos late]
        exact .throw _
      · simp only [if_neg late]
        exact others

/-- Waiting tells what its looks tell. -/
theorem tellsDeeds_pollUntil {look : Attempt (Stop Fault) (Look α)}
    (interval deadline patience : Nat) (looks : TellsDeeds host verbose look) :
    TellsDeeds host verbose (pollUntil interval deadline look patience) := by
  induction patience with
  | zero => exact tellsDeeds_lookUntil deadline looks (.throw _)
  | succ patience ih =>
      exact tellsDeeds_lookUntil deadline looks
        ((TellsDeeds.lift (Program.tellsDeeds_pause interval)).bind fun _ => ih)

theorem tellsDeeds_poll {look : Nat → Attempt (Stop Fault) (Look α)} (interval timeout : Nat)
    (looks : ∀ deadline, TellsDeeds host verbose (look deadline)) :
    TellsDeeds host verbose (poll interval timeout look) := by
  refine (TellsDeeds.lift Program.tellsDeeds_clock).bind fun start => ?_
  by_cases fits : Fits start timeout
  · simp only [if_pos fits]
    exact tellsDeeds_pollUntil _ _ _ (looks _)
  · simp only [if_neg fits]
    exact .throw _

theorem tellsDeeds_resolve (interval timeout : Nat) (chain : Chain) :
    TellsDeeds host verbose (resolve interval timeout chain) :=
  .of_looks (asks_resolve interval timeout chain)

theorem tellsDeeds_waitAbsent (interval timeout : Nat) (chain : Chain) :
    TellsDeeds host verbose (waitAbsent interval timeout chain) :=
  .of_looks (asks_waitAbsent interval timeout chain)

theorem tellsDeeds_waitUrl (interval timeout : Nat) (fragment : String) :
    TellsDeeds host verbose (waitUrl interval timeout fragment) :=
  .of_looks (asks_waitUrl interval timeout fragment)

/-- An act by itself prints nothing. -/
theorem act_silent (interaction : Interaction) (element : ElementId) :
    TellsDeeds host false (act interaction element) := by
  have acts : Asks (fun effect => effect.printed = []) (act interaction element) := by
    refine asks_act ?_ ?_ ?_ ?_ ?_ interaction <;> intros <;> rfl
  exact .of_asks acts (fun _ silent => silent) nofun

theorem run_failing (attempt : Attempt ε α) :
    attempt.failing.run = Except.mapError .failed <$> attempt.run :=
  rfl

theorem run_breaking (attempt : Attempt Breakdown α) :
    (attempt.breaking : Attempt (Stop ε) α).run = Except.mapError .broken <$> attempt.run :=
  rfl

/-- What comes next goes on with the fault as well. -/
theorem run_outcome_bind (attempt : Attempt ε α) (next : Except ε α → Attempt ε' β) :
    (attempt.outcome >>= next).run = attempt.run >>= fun result => (next result).run := by
  rw [ExceptT.run_bind, outcome, ExceptT.run_mk, bind_map_left]

end Attempt

/-- An act does something to its element when it passes. -/
theorem Acted.hasDeed_iff {interaction : Interaction} {element : ElementId}
    {journal : List JournalEntry} {outcome : Except Fault Unit}
    (acted : Acted interaction element journal outcome) :
    HasDeed journal ↔ outcome = .ok () := by
  cases acted with
  | @granted _ record acts called meant granted =>
      have deed : record.isDeed = true :=
        CallRecord.isDeed_of_granted (Interaction.acts_of_call meant) granted
      simp [HasDeed, called, deed]
  | @refused _ record error acts called meant refused =>
      simp [HasDeed, called, CallRecord.not_isDeed_of_refused refused]
  | badKeys typed unknown => simp [HasDeed]

theorem Attempt.interactionLine_ne_nil (interaction : Interaction) (chain : Chain) :
    interactionLine interaction chain ≠ [] := by
  simp [interactionLine]

theorem Program.log_printIf (wanted : Bool) (text : Text.Styled) (world : World σ) :
    (printIf wanted text).log host world = [] :=
  (runs_printIf (runs_run host (printIf wanted text) world)).1

theorem Program.prints_printIf (wanted : Bool) (text : Text.Styled) (world : World σ) :
    (printIf wanted text).prints host world = if wanted then text else [] := by
  cases wanted with
  | false => rfl
  | true => exact List.append_nil text

namespace Attempt

variable {options : RunOptions}

/-- An interaction is told in a verbose run once it is done. -/
theorem tellsDeeds_tryInteraction (chain : Chain) (interaction : Interaction) (deadline : Nat) :
    TellsDeeds host options.verbose (tryInteraction options chain interaction deadline) := by
  refine (TellsDeeds.lift Program.tellsDeeds_clock).bind fun now => ?_
  refine (tellsDeeds_resolve _ _ chain).bind fun elements => ?_
  cases elements with
  | nil => exact .throw _
  | cons element others =>
      intro world
      dsimp only
      rw [run_outcome_bind, Program.prints_bind, Program.log_bind,
        (act_silent interaction element).prints_eq_nil, List.nil_append, hasDeed_append,
        (acted_of_runs (Program.runs_run host (act interaction element).run world)).hasDeed_iff]
      generalize (act interaction element).run.run host world = ended
      obtain ⟨result, middle⟩ := ended
      cases result with
      | ok value =>
          rw [Program.run_lift_bind, Program.prints_bind, Program.prints_printIf]
          cases options.verbose <;> simp [interactionLine_ne_nil, ExceptT.run_pure]
      | error fault =>
          have nothing_done : ((Except.error fault : Except Fault Unit) = .ok ()) ↔ False := by simp
          rw [nothing_done, false_or]
          cases fault with
          | refused error =>
              dsimp only
              split
              · exact TellsDeeds.pure _ middle
              · exact TellsDeeds.throw _ middle
          | _ => exact TellsDeeds.throw _ middle

theorem tellsDeeds_interact (timeout : Nat) (chain : Chain) (interaction : Interaction) :
    TellsDeeds host options.verbose (interact options timeout chain interaction) :=
  (TellsDeeds.lift (Program.tellsDeeds_note _)).bind fun _ =>
    tellsDeeds_poll _ _ fun _ => tellsDeeds_tryInteraction chain interaction _

theorem tellsDeeds_forM (timeout : Nat) (chain : Chain) (interactions : List Interaction) :
    TellsDeeds host options.verbose (interactions.forM (interact options timeout chain)) := by
  induction interactions with
  | nil => exact .pure _
  | cons interaction rest ih =>
      exact (tellsDeeds_interact timeout chain interaction).bind fun _ => ih

end Attempt

end ScenarioRunner
