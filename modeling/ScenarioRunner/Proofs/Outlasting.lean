import ScenarioRunner.Proofs.Likeness
import ScenarioRunner.Proofs.Punctuality

/-!
A step with a longer window beside the same step with a shorter one. They go in step until the
shorter window is over, which is where the step with the shorter window fails.
-/

namespace ScenarioRunner

variable {σ α β γ δ : Type} {host : Host σ}

/-- How an attempt ends beside one with longer windows. It passes and so does the other, with the
same calls, or it ends early and has made the first of the calls of the other. Or a longer window would
close later than the clock can show, and the other has made the first of the calls. -/
inductive Outlasted (Same : α → β → Prop) (after after' : World σ)
    (records records' : List CallRecord) :
    Except (Stop Fault) α → Except (Stop Fault) β → Prop where
  | kept {value : α} {value' : β} (same : Same value value') (recorded : records = records')
      (alike : after.Alike after') : Outlasted Same after after' records records' (.ok value)
        (.ok value')
  | cut {stop : Stop Fault} {outcome : Except (Stop Fault) β} (first : records <+: records') :
      Outlasted Same after after' records records' (.error stop) outcome
  | beyond {opened timeout : Nat} {outcome : Except (Stop Fault) α} (first : records' <+: records) :
      Outlasted Same after after' records records' outcome
        (.error (.broken (.beyondClock opened timeout)))

/-- Wherever both attempts begin, the first goes the way of the second until one of them ends early. -/
def Attempt.Outlasts (host : Host σ) (Same : α → β → Prop) (short : Attempt (Stop Fault) α)
    (long : Attempt (Stop Fault) β) : Prop :=
  ∀ ⦃before before' after after' : World σ⦄ ⦃journal journal' : List JournalEntry⦄
    ⦃outcome : Except (Stop Fault) α⦄ ⦃outcome' : Except (Stop Fault) β⦄, before.Alike before' →
    Runs host short before journal after outcome →
    Runs host long before' journal' after' outcome' →
    Outlasted Same after after' (calls journal) (calls journal') outcome outcome'

namespace Attempt.Outlasts

variable {Same : α → β → Prop} {Same' : γ → δ → Prop}

/-- An attempt goes its own way. -/
theorem refl (attempt : Attempt (Stop Fault) α) : Outlasts host Eq attempt attempt := by
  intro before before' after after' journal journal' outcome outcome' alike ran again
  obtain ⟨rfl, rfl, still⟩ := ran.alike alike again
  cases outcome with
  | ok value => exact .kept rfl rfl still
  | error stop => exact .cut (List.prefix_refl _)

theorem throw (stop : Stop Fault) (long : Attempt (Stop Fault) β) :
    Outlasts host Same (MonadExcept.throw stop) long := by
  intro before before' after after' journal journal' outcome outcome' alike ran again
  obtain ⟨rfl, rfl, rfl⟩ := runs_throw_iff.mp ran
  exact .cut List.nil_prefix

theorem beyond (short : Attempt (Stop Fault) α) (opened timeout : Nat) :
    Outlasts host Same short
      (MonadExcept.throw (Stop.broken (.beyondClock opened timeout))) := by
  intro before before' after after' journal journal' outcome outcome' alike ran again
  obtain ⟨rfl, rfl, rfl⟩ := runs_throw_iff.mp again
  exact .beyond List.nil_prefix

theorem pure {value : α} {value' : β} (same : Same value value') :
    Outlasts host Same (Pure.pure value) (Pure.pure value') := by
  intro before before' after after' journal journal' outcome outcome' alike ran again
  obtain ⟨rfl, rfl, rfl⟩ := runs_pure_iff.mp ran
  obtain ⟨rfl, rfl, rfl⟩ := runs_pure_iff.mp again
  exact .kept same rfl alike

/-- What comes next goes on from where the first parts have come to. -/
theorem bind {short : Attempt (Stop Fault) α} {long : Attempt (Stop Fault) β}
    {next : α → Attempt (Stop Fault) γ} {next' : β → Attempt (Stop Fault) δ}
    (first : Outlasts host Same short long)
    (continued : ∀ value value', Same value value' →
      Outlasts host Same' (next value) (next' value')) :
    Outlasts host Same' (short >>= next) (long >>= next') := by
  intro before before' after after' journal journal' outcome outcome' alike ran again
  rcases runs_bind_iff.mp ran with ⟨stop, failed, rfl⟩ | ⟨part, _, value, rest, passed, resumed, rfl⟩
  · rcases runs_bind_iff.mp again with ⟨stop', failed', rfl⟩ | ⟨part', _, value', rest', passed',
      resumed', rfl⟩
    · cases first alike failed failed' with
      | cut earlier => exact .cut earlier
      | beyond earlier => exact .beyond earlier
    · cases first alike failed passed' with
      | cut earlier =>
          rw [calls_append]
          exact .cut (earlier.trans (List.prefix_append _ _))
  · rcases runs_bind_iff.mp again with ⟨stop', failed', rfl⟩ | ⟨part', _, value', rest', passed',
      resumed', rfl⟩
    · cases first alike passed failed' with
      | beyond earlier =>
          rw [calls_append]
          exact .beyond (earlier.trans (List.prefix_append _ _))
    · cases first alike passed passed' with
      | kept same recorded still =>
          rw [calls_append, calls_append, recorded]
          cases continued value value' same still resumed resumed' with
          | kept same equal ends => exact .kept same (congrArg _ equal) ends
          | cut earlier => exact .cut ((List.prefix_append_right_inj _).mpr earlier)
          | beyond earlier => exact .beyond ((List.prefix_append_right_inj _).mpr earlier)

/-- Attempts that begin alike go on in the ways that their values ask for. -/
theorem after (attempt : Attempt (Stop Fault) α) {next : α → Attempt (Stop Fault) γ}
    {next' : α → Attempt (Stop Fault) δ}
    (continued : ∀ value, Outlasts host Same' (next value) (next' value)) :
    Outlasts host Same' (attempt >>= next) (attempt >>= next') :=
  (refl attempt).bind fun _ value same => same ▸ continued value

theorem mono {Wider : α → β → Prop} {short : Attempt (Stop Fault) α}
    {long : Attempt (Stop Fault) β} (outlasts : Outlasts host Same short long)
    (wider : ∀ value value', Same value value' → Wider value value') :
    Outlasts host Wider short long := by
  intro before before' after after' journal journal' outcome outcome' alike ran again
  cases outlasts alike ran again with
  | kept same recorded still => exact .kept (wider _ _ same) recorded still
  | cut first => exact .cut first
  | beyond first => exact .beyond first

/-- Two values of one attempt that never breaks down. -/
theorem failing {attempt : Attempt Fault α} {f : α → γ} {g : α → δ}
    (values : ∀ value, Same' (f value) (g value)) :
    Outlasts host Same' (f <$> attempt).failing (g <$> attempt).failing := by
  intro before before' after after' journal journal' outcome outcome' alike ran again
  obtain ⟨_, mapped, rfl⟩ := runs_failing_iff.mp ran
  obtain ⟨_, mapped', rfl⟩ := runs_failing_iff.mp again
  obtain ⟨result, attempted, rfl⟩ := runs_map_iff.mp mapped
  obtain ⟨_, attempted', rfl⟩ := runs_map_iff.mp mapped'
  obtain ⟨rfl, rfl, still⟩ := attempted.alike alike attempted'
  cases result with
  | ok value => exact .kept (values value) rfl still
  | error fault => exact .cut (List.prefix_refl _)

end Attempt.Outlasts

/-- Two looks that settle the same or nothing. -/
inductive Look.Alike : Look α → Look α → Prop where
  | settled {value : α} : Alike (.settled value) (.settled value)
  | unsettled {fault fault' : Fault} : Alike (.unsettled fault) (.unsettled fault')

theorem Look.Alike.refl (look : Look α) : look.Alike look := by
  cases look with
  | settled value => exact .settled
  | unsettled fault => exact .unsettled

namespace Attempt

end Attempt

namespace Attempt

end Attempt

end ScenarioRunner
