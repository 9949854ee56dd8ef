import ScenarioRunner.Proofs.Journal

/-!
Worlds that differ only in what was noted and printed. No program can tell them apart, and programs
that differ only in what they print go the same way in them.
-/

namespace ScenarioRunner

variable {σ α β : Type} {host : Host σ}

/-- Time, browser and files are the same. -/
structure World.Alike (first second : World σ) : Prop where
  now : first.now = second.now
  host : first.host = second.host
  files : first.files = second.files

namespace World.Alike

variable {first second third : World σ}

theorem refl (world : World σ) : world.Alike world := ⟨rfl, rfl, rfl⟩

theorem symm (alike : first.Alike second) : second.Alike first :=
  ⟨alike.now.symm, alike.host.symm, alike.files.symm⟩

theorem trans (alike : first.Alike second) (also : second.Alike third) : first.Alike third :=
  ⟨alike.now.trans also.now, alike.host.trans also.host, alike.files.trans also.files⟩

theorem change (alike : first.Alike second) (result : Except FileError FileTree) :
    (first.change result).1 = (second.change result).1 ∧
      (first.change result).2.Alike (second.change result).2 := by
  cases result with
  | error reason => exact ⟨rfl, alike⟩
  | ok files => exact ⟨rfl, alike.now, alike.host, rfl⟩

/-- An effect has the same answer in worlds that are alike, and they stay so. -/
theorem enact (alike : first.Alike second) (host : Host σ) (effect : Effect) :
    (first.enact host effect).1 = (second.enact host effect).1 ∧
      (first.enact host effect).2.Alike (second.enact host effect).2 := by
  obtain ⟨same_now, same_host, same_files⟩ := alike
  cases effect with
  | call asked =>
      simp only [World.enact, same_now, same_host]
      exact ⟨trivial, rfl, rfl, same_files⟩
  | openSession request =>
      simp only [World.enact, same_now, same_host]
      exact ⟨trivial, rfl, rfl, same_files⟩
  | clock => exact ⟨same_now, same_now, same_host, same_files⟩
  | pause duration => exact ⟨rfl, congrArg (· + duration) same_now, same_host, same_files⟩
  | note event => exact ⟨rfl, same_now, same_host, same_files⟩
  | print text => exact ⟨rfl, same_now, same_host, same_files⟩
  | fileExists path =>
      exact ⟨congrArg (FileTree.fileExists · path) same_files, same_now, same_host, same_files⟩
  | readFile path =>
      exact ⟨congrArg (FileTree.read · path) same_files, same_now, same_host, same_files⟩
  | writeFile path content =>
      simp only [World.enact, same_files]
      exact change ⟨same_now, same_host, same_files⟩ _
  | createDirectory path =>
      simp only [World.enact, same_files]
      exact change ⟨same_now, same_host, same_files⟩ _

end World.Alike

/-- Two programs that do the same, apart from what they print. -/
inductive Program.Echoes : Program α → Program α → Prop where
  | done (value : α) : Echoes (.done value) (.done value)
  | perform {effect : Effect} {next next' : effect.Answer → Program α}
      (continued : ∀ answer, Echoes (next answer) (next' answer)) :
      Echoes (.perform effect next) (.perform effect next')
  | printed {text : Text.Styled} {next : Unit → Program α} {program : Program α}
      (continued : Echoes (next ()) program) : Echoes (.perform (.print text) next) program
  | prints {text : Text.Styled} {next : Unit → Program α} {program : Program α}
      (continued : Echoes program (next ())) : Echoes program (.perform (.print text) next)

namespace Program.Echoes

theorem refl (program : Program α) : program.Echoes program := by
  induction program with
  | done value => exact .done value
  | perform effect next ih => exact .perform ih

theorem bind {program program' : Program α} {next next' : α → Program β}
    (first : program.Echoes program') (others : ∀ value, (next value).Echoes (next' value)) :
    (program >>= next).Echoes (program' >>= next') := by
  show (program.bind next).Echoes (program'.bind next')
  induction first with
  | done value => exact others value
  | perform continued ih => exact .perform ih
  | printed continued ih => exact .printed ih
  | prints continued ih => exact .prints ih

theorem map {program program' : Program α} (f : α → β) (first : program.Echoes program') :
    (f <$> program).Echoes (f <$> program') := by
  rw [← bind_pure_comp, ← bind_pure_comp]
  exact first.bind fun value => .refl _

theorem printIf (wanted wanted' : Bool) (text text' : Text.Styled) :
    (Program.printIf wanted text).Echoes (Program.printIf wanted' text') := by
  have silent (wanted : Bool) : (Program.done ()).Echoes (Program.printIf wanted text') := by
    cases wanted with
    | false => exact .done ()
    | true => exact .prints (.done ())
  cases wanted with
  | false => exact silent wanted'
  | true => exact .printed (silent wanted')

/-- In worlds that are alike two such programs go the same way. -/
theorem alike {program program' : Program α} {before before' after after' : World σ}
    {journal journal' : List JournalEntry} {value value' : α}
    (echoes : program.Echoes program') (alike : before.Alike before')
    (ran : program.Runs host before journal after value)
    (again : program'.Runs host before' journal' after' value') :
    value = value' ∧ journal = journal' ∧ after.Alike after' := by
  obtain ⟨ended, rfl⟩ := ran
  obtain ⟨ended', rfl⟩ := again
  induction echoes generalizing before before' with
  | done result =>
      obtain ⟨rfl, rfl⟩ := Prod.mk.inj ended
      obtain ⟨rfl, rfl⟩ := Prod.mk.inj ended'
      exact ⟨rfl, rfl, alike⟩
  | @perform effect next next' continued ih =>
      obtain ⟨same_answer, still_alike⟩ := alike.enact host effect
      simp only [run, log, ← same_answer] at ended' ⊢
      obtain ⟨same_value, same_log, after_alike⟩ := ih _ still_alike ended ended'
      rw [alike.now, still_alike.now, same_log]
      exact ⟨same_value, rfl, after_alike⟩
  -- a print on one side changes nothing that the other side could meet
  | printed continued ih => exact ih ⟨alike.now, alike.host, alike.files⟩ ended ended'
  | prints continued ih => exact ih ⟨alike.now, alike.host, alike.files⟩ ended ended'

end Program.Echoes

/-- A program goes the same way in worlds that are alike. -/
theorem Program.Runs.alike {program : Program α} {before before' after after' : World σ}
    {journal journal' : List JournalEntry} {value value' : α} (alike : before.Alike before')
    (ran : program.Runs host before journal after value)
    (again : program.Runs host before' journal' after' value') :
    value = value' ∧ journal = journal' ∧ after.Alike after' :=
  (Echoes.refl program).alike alike ran again

/-- Printing leaves a world alike. -/
theorem Program.alike_printIf {wanted : Bool} {text : Text.Styled} {before after : World σ}
    {journal : List JournalEntry} {value : Unit}
    (ran : (printIf wanted text).Runs host before journal after value) : before.Alike after := by
  unfold printIf at ran
  split at ran
  · obtain ⟨enacted, -⟩ := runs_ask_iff.mp ran
    obtain ⟨-, rfl⟩ := Prod.mk.inj enacted
    exact ⟨rfl, rfl, rfl⟩
  · obtain ⟨-, rfl, -⟩ := runs_pure_iff.mp ran
    exact .refl _

theorem Program.alike_note {event : Event} {before after : World σ} {journal : List JournalEntry}
    {value : Unit} (ran : (note event).Runs host before journal after value) :
    before.Alike after := by
  obtain ⟨enacted, -⟩ := runs_ask_iff.mp ran
  obtain ⟨-, rfl⟩ := Prod.mk.inj enacted
  exact ⟨rfl, rfl, rfl⟩

end ScenarioRunner
