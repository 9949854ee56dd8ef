import ScenarioRunner.Run.Options
import ScenarioRunner.Run.Polling
import ScenarioRunner.Text.Keys

/-!
Steps against a page. An executor remembers the chains that were stored by name and counts the
steps it was given.
-/

namespace ScenarioRunner

/-- A name at the start of a chain is replaced by the chain stored under it. -/
def StoredChains.expand (stored : StoredChains) : Chain → Except Fault Chain
  | .stored name :: rest =>
    match stored.lookup name with
    | some chain => .ok (chain ++ rest)
    | none => .error (.neverLocated name)
  | chain => .ok chain

structure Executor where
  stored : StoredChains
  stepNumber : Nat
deriving DecidableEq, Repr

/-- An executor before its first step. -/
def Executor.start : Executor := ⟨[], 0⟩

namespace Attempt

/-- One interaction with one element; typed text is sent with its keys expanded. -/
def act (interaction : Interaction) (element : ElementId) : Attempt Fault Unit :=
  match interaction with
  | .click => request (.click element)
  | .typeText text => do
    Program.note (.typingBegan text)
    match Text.expandKeys text with
    | .ok keys => request (.sendKeys element keys)
    | .error error => throw (.badKeys error)
  | .clear => request (.clear element)
  | .reveal => request (.reveal element)

/-- The line that tells of an interaction in a verbose run. -/
def interactionLine (interaction : Interaction) (chain : Chain) : Text.Styled :=
  [Text.plain s!"    {interaction.display} ", Text.dimmed (Chain.display chain), Text.plain "\n"]

/-- The chain is resolved in what is left of the window and its first element acted on. A passing
refusal leaves the interaction unsettled. -/
def tryInteraction (options : RunOptions) (chain : Chain) (interaction : Interaction)
    (deadline : Nat) : Attempt (Stop Fault) (Look Unit) := do
  let now ← Program.clock
  let elements ← resolve options.pollInterval (deadline - now) chain
  match elements with
  | [] => throw (.broken .nothingToActOn)
  | element :: _ =>
    match ← (act interaction element).outcome with
    | .ok () =>
      Program.printIf options.verbose (interactionLine interaction chain)
      return .settled ()
    | .error (.refused error) =>
      let fault := Fault.notPerformed interaction chain error
      if error.isTransient then return .unsettled fault else throw (.failed fault)
    | .error fault => throw (.failed fault)

/-- Every interaction has a window of its own. -/
def interact (options : RunOptions) (timeout : Nat) (chain : Chain) (interaction : Interaction) :
    Attempt (Stop Fault) Unit := do
  Program.note (.interactionBegan interaction)
  poll options.pollInterval timeout (tryInteraction options chain interaction)

/-- What a step does. The stored chains after it are its value. -/
def perform (options : RunOptions) (stored : StoredChains) (step : Step) :
    Attempt (Stop Fault) StoredChains := do
  let timeout := options.window step.timeout?
  let interval := options.pollInterval
  match step with
  | .navigate url => do
    (request (.navigate (joinUrl options.baseUrl url))).failing
    return stored
  | .locate target storeAs _ => do
    let chain ← (liftM (stored.expand target) : Attempt Fault Chain).failing
    let elements ← resolve interval timeout chain
    Program.printIf options.verbose [Text.plain s!"    {elements.length} element(s) matched\n"]
    match storeAs with
    | some name => return (name, chain) :: stored
    | none => return stored
  | .interact target interactions _ => do
    let chain ← (liftM (stored.expand target) : Attempt Fault Chain).failing
    interactions.forM (interact options timeout chain)
    return stored
  | .assertPresent target _ => do
    let chain ← (liftM (stored.expand target) : Attempt Fault Chain).failing
    let _ ← resolve interval timeout chain
    return stored
  | .assertAbsent target _ => do
    let chain ← (liftM (stored.expand target) : Attempt Fault Chain).failing
    waitAbsent interval timeout chain
    return stored
  | .assertUrlContains fragment _ => do
    waitUrl interval timeout fragment
    return stored

end Attempt

/-- The next step is counted whether it fails or not; a step that fails stores nothing. -/
def Executor.execute (options : RunOptions) (executor : Executor) (step : Step) :
    Attempt Breakdown (Except Failure Unit × Executor) := do
  let number := executor.stepNumber + 1
  Program.note (.stepBegan number step executor.stored)
  match ← (Attempt.perform options executor.stored step).outcome with
  | .ok stored => return (.ok (), ⟨stored, number⟩)
  | .error (.failed fault) =>
    return (.error (fault.failure number step), ⟨executor.stored, number⟩)
  | .error (.broken breakdown) => throw breakdown

end ScenarioRunner
