import ScenarioRunner.Proofs.Asking
import ScenarioRunner.Proofs.Numbering
import ScenarioRunner.Proofs.Likeness
import ScenarioRunner.Proofs.Breaking
import ScenarioRunner.Proofs.Pacing

/-!
The course of a run. Its steps are executed up to the first that fails, a failure is photographed when
there is a directory for it, and the session is closed last. A run that breaks down ends with the step
in which it does.
-/

namespace ScenarioRunner

variable {σ : Type} {host : Host σ}

/-- The calls that were made for a step, and what came of it. -/
structure Execution where
  calls : List CallRecord
  result : Except (Stop Failure) Unit

/-- Steps executed one after the other, whether they fail or not. None follows a step that breaks
down. -/
def Executor.executions (host : Host σ) (options : RunOptions) :
    Executor → List Step → World σ → List Execution
  | _, [], _ => []
  | executor, step :: rest, world =>
    let execution : Program (Except Breakdown (Except Failure Unit × Executor)) :=
      (executor.execute options step).run
    let called := calls (execution.log host world)
    match execution.run host world with
    | (.ok (result, next), after) =>
      ⟨called, result.mapError .failed⟩ :: next.executions host options rest after
    | (.error breakdown, _) => [⟨called, .error (.broken breakdown)⟩]

/-- No step takes screenshots or closes the session, and none opens one. -/
def JournalEntry.IsStepWork : JournalEntry → Prop
  | .session _ _ _ => False
  | .call _ _ asked _ => asked.parts = false
  | .pause _ _ => True
  | .event _ _ => True

/-- What asks only for the effects of steps records nothing but their work. -/
theorem Program.Asks.isStepWork {α : Type} {program : Program α} (asks : program.Asks Effect.Works)
    {before after : World σ} {journal : List JournalEntry} {value : α}
    (ran : program.Runs host before journal after value) : ∀ entry ∈ journal, entry.IsStepWork := by
  rw [← ran.recorded]
  refine asks.forall_log (fun effect works started finished answer entry member => ?_) before
  cases effect with
  | call asked =>
      obtain rfl := List.mem_singleton.mp member
      cases asked <;> first | exact works.elim | rfl
  | openSession request => exact works.elim
  | pause duration =>
      obtain rfl := List.mem_singleton.mp member
      trivial
  | note event =>
      obtain rfl := List.mem_singleton.mp member
      trivial
  | _ => cases member

/-- The steps of a run do the work of steps and nothing else. -/
theorem Run.isStepWork_of_steps {options : RunOptions} {executor : Executor} {list : List Step}
    {before after : World σ} {journal : List JournalEntry}
    {ended : Except Breakdown (Option FailedStep)}
    (ran : (steps options executor list).Runs host before journal after ended) :
    ∀ entry ∈ journal, entry.IsStepWork :=
  (asks_steps options executor list).isStepWork ran

namespace Run

/-- The steps of a run that are executed: those that pass, and a last one that fails, breaks down or has
no step behind it. -/
structure Course (host : Host σ) (options : RunOptions) (executor : Executor) (list : List Step)
    (before : World σ) (passed : List Execution) (last : Execution) : Prop where
  executed : executor.executions host options (list.take (passed.length + 1)) before =
    passed ++ [last]
  within : passed.length + 1 ≤ list.length
  passes : ∀ execution ∈ passed, execution.result = .ok ()
  ends : last.result = .ok () → passed.length + 1 = list.length
  working : ∀ execution ∈ passed ++ [last], ∀ record ∈ execution.calls, record.call.parts = false

section Courses

variable {options : RunOptions} {executor next : Executor} {step : Step} {rest : List Step}
  {before middle : World σ} {first last : Execution} {passed : List Execution}

/-- A step that does not pass, or that has no step behind it, is a course of its own. -/
theorem Course.single (here : executor.executions host options [step] before = [last])
    (ends : last.result = .ok () → rest = [])
    (works : ∀ record ∈ last.calls, record.call.parts = false) :
    Course host options executor (step :: rest) before [] last where
  executed := here
  within := Nat.le_add_left 1 _
  passes := by simp
  ends := fun passing => by rw [ends passing]; rfl
  working := by simpa using works

/-- A step that passes goes before the course of the others. -/
theorem Course.prepend (here : ∀ others, executor.executions host options (step :: others) before =
      first :: next.executions host options others middle)
    (passes : first.result = .ok ()) (works : ∀ record ∈ first.calls, record.call.parts = false)
    (course : Course host options next rest middle passed last) :
    Course host options executor (step :: rest) before (first :: passed) last where
  executed := by
    rw [List.length_cons, List.take_succ_cons, here, course.executed]
    rfl
  within := Nat.succ_le_succ course.within
  passes := List.forall_mem_cons.mpr ⟨passes, course.passes⟩
  ends := fun passing => congrArg (· + 1) (course.ends passing)
  working := List.forall_mem_cons.mpr ⟨works, course.working⟩

end Courses

/-- What the last execution of a run leaves for the report. There is no report of a breakdown. -/
def Leaves (executor : Executor) (passed : List Execution) (last : Execution) :
    Except Breakdown (Option FailedStep) → Prop
  | .ok none => last.result = .ok ()
  | .ok (some stopped) => last.result = .error (.failed stopped.failure) ∧
      stopped.number = executor.stepNumber + passed.length + 1
  | .error breakdown => last.result = .error (.broken breakdown)

/-- The steps behind one that passes leave what they leave to a report of all. -/
theorem Leaves.prepend {executor next : Executor} {first last : Execution}
    {passed : List Execution} {ended : Except Breakdown (Option FailedStep)}
    (counted : next.stepNumber = executor.stepNumber + 1)
    (leaves : Leaves next passed last ended) : Leaves executor (first :: passed) last ended := by
  rcases ended with breakdown | (_ | stopped)
  · exact leaves
  · exact leaves
  · refine ⟨leaves.1, ?_⟩
    rw [leaves.2, counted, List.length_cons]
    omega

section Executions

variable {options : RunOptions} {executor next : Executor} {step : Step}
  {before opened middle : World σ} {journal : List JournalEntry}

end Executions

end Run

namespace Run

end Run

/-- Options of a run that keeps screenshots. -/
def RunOptions.photographing : RunOptions :=
  { RunOptions.plain with screenshotDirectory := some "shots" }

end ScenarioRunner
