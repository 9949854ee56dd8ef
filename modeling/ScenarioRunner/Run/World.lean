import ScenarioRunner.Run.Program

/-!
The meaning of a program as a function. A host answers the calls to the browser; time is a number
that moves by the pauses of the program and the delays of the host.
-/

namespace ScenarioRunner

/-- An answer of a host, how long it took, and what the host has become. -/
structure Reply (σ α : Type) where
  answer : α
  delay : Nat
  state : σ

/-- A browser as a function of its state, the time and the call. -/
structure Host (σ : Type) where
  openSession : SessionRequest → Nat → σ → Reply σ (Except Error Unit)
  call : (call : Call) → Nat → σ → Reply σ call.Outcome

/-- What a run leaves in its journal, each with the time at which it began. -/
inductive JournalEntry where
  | session (started : Nat) (request : SessionRequest) (outcome : Except Error Unit)
  | call (started finished : Nat) (call : Call) (outcome : call.Outcome)
  | pause (started duration : Nat)
  | event (time : Nat) (event : Event)

/-- Everything a program acts on. The journal and the output list the latest first. -/
structure World (σ : Type) where
  now : Nat
  host : σ
  files : FileTree
  journal : List JournalEntry
  output : List Text.Span

namespace World

variable {σ : Type}

/-- A world at time zero in which nothing has happened. -/
def start (host : σ) (files : FileTree) : World σ :=
  { now := 0, host, files, journal := [], output := [] }

/-- What was printed, in order. -/
def printed (world : World σ) : Text.Styled := world.output.reverse

/-- The journal in order. -/
def history (world : World σ) : List JournalEntry := world.journal.reverse

/-- A change of the files is kept when it succeeds. -/
def change (world : World σ) (result : Except FileError FileTree) :
    Except FileError Unit × World σ :=
  match result with
  | .ok files => (.ok (), { world with files })
  | .error reason => (.error reason, world)

/-- The answer to an effect and the world after it. -/
def enact (host : Host σ) (world : World σ) : (effect : Effect) → effect.Answer × World σ
  | .call call =>
    let reply := host.call call world.now world.host
    let finished := world.now + reply.delay
    (reply.answer, { world with
      now := finished
      host := reply.state
      journal := .call world.now finished call reply.answer :: world.journal })
  | .openSession request =>
    let reply := host.openSession request world.now world.host
    (reply.answer, { world with
      now := world.now + reply.delay
      host := reply.state
      journal := .session world.now request reply.answer :: world.journal })
  | .clock => (world.now, world)
  | .pause duration =>
    ((), { world with
      now := world.now + duration
      journal := .pause world.now duration :: world.journal })
  | .note event => ((), { world with journal := .event world.now event :: world.journal })
  | .print text => ((), { world with output := text.reverse ++ world.output })
  | .fileExists path => (world.files.fileExists path, world)
  | .readFile path => (world.files.read path, world)
  | .writeFile path content => world.change (world.files.write path content)
  | .createDirectory path => world.change (world.files.createDirectory path)

end World

namespace Program

variable {σ α β : Type}

/-- The value of a program and the world after it. -/
def run (host : Host σ) : Program α → World σ → α × World σ
  | .done value, world => (value, world)
  | .perform effect next, world =>
    let enacted := world.enact host effect
    (next enacted.1).run host enacted.2

@[simp] theorem run_done (host : Host σ) (value : α) (world : World σ) :
    (done value).run host world = (value, world) := rfl

@[simp] theorem run_pure (host : Host σ) (value : α) (world : World σ) :
    (pure value : Program α).run host world = (value, world) := rfl

theorem run_bind (host : Host σ) (program : Program α) (next : α → Program β) (world : World σ) :
    (program >>= next).run host world =
      (next (program.run host world).1).run host (program.run host world).2 := by
  change (program.bind next).run host world = _
  induction program generalizing world with
  | done value => rfl
  | perform effect rest ih => simp only [bind, run, ih]

end Program

end ScenarioRunner
