import ScenarioRunner.Proofs.Punctuality

/-!
What holds on a page up to the end of a window is seen: a step does not give up before its last
look.
-/

namespace ScenarioRunner

variable {σ α : Type} {host : Host σ}

/-- The moments that a browser comes to from a time and a state on while it is only asked for some
calls. -/
inductive Host.Asked (host : Host σ) (asks : Call → Prop) (now : Nat) (state : σ) :
    Nat → σ → Prop where
  | start : Asked host asks now state now state
  | called {time : Nat} {reached : σ} {call : Call} (asked : Asked host asks now state time reached)
      (wanted : asks call) :
      Asked host asks now state (time + (host.call call time reached).delay)
        (host.call call time reached).state
  | waited {time : Nat} {reached : σ} (asked : Asked host asks now state time reached)
      (duration : Nat) : Asked host asks now state (time + duration) reached

/-- While it is asked for these calls only, the browser answers at once and refuses only what is
waited out. -/
structure Host.Gentle (host : Host σ) (asks : Call → Prop) (passing : Error → Bool)
    (now : Nat) (state : σ) : Prop where
  swift : ∀ time reached call, host.Asked asks now state time reached → asks call →
    (host.call call time reached).delay = 0
  mild : ∀ time reached call error, host.Asked asks now state time reached → asks call →
    (host.call call time reached).answer = .error error → passing error = true

/-- An entry of a program that makes only some calls and does not pause. -/
def JournalEntry.Asks (asks : Call → Prop) : JournalEntry → Prop
  | .call _ _ wanted _ => asks wanted
  | .event _ _ => True
  | _ => False

/-- The world is one of these moments. -/
abbrev World.IsAsked (host : Host σ) (asks : Call → Prop) (now : Nat) (state : σ)
    (world : World σ) : Prop :=
  host.Asked asks now state world.now world.host

/-- One effect that asks for nothing else leads to such a moment again. -/
theorem World.isAsked_enact {asks : Call → Prop} {now : Nat} {state : σ} {world : World σ}
    (effect : Effect)
    (only : ∀ entry ∈ effect.entries world.now (world.enact host effect).2.now
      (world.enact host effect).1, entry.Asks asks)
    (asked : world.IsAsked host asks now state) :
    (world.enact host effect).2.IsAsked host asks now state := by
  cases effect with
  | call call => exact asked.called (only _ List.mem_cons_self)
  | openSession request => exact (only _ List.mem_cons_self).elim
  | pause duration => exact (only _ List.mem_cons_self).elim
  | writeFile path content =>
      obtain ⟨-, same_now, same_host⟩ := World.change_frame world (world.files.write path content)
      simpa only [IsAsked, enact, same_now, same_host] using asked
  | createDirectory path =>
      obtain ⟨-, same_now, same_host⟩ := World.change_frame world (world.files.createDirectory path)
      simpa only [IsAsked, enact, same_now, same_host] using asked
  | _ => exact asked

/-- On a gentle browser one such effect takes no time and is not halted. -/
theorem World.asked_enact {asks : Call → Prop} {passing : Error → Bool} {now : Nat}
    {state : σ} (gentle : host.Gentle asks passing now state) {world : World σ} (effect : Effect)
    (only : ∀ entry ∈ effect.entries world.now (world.enact host effect).2.now
      (world.enact host effect).1, entry.Asks asks)
    (asked : world.IsAsked host asks now state) :
    (world.enact host effect).2.IsAsked host asks now state ∧
      (world.enact host effect).2.now = world.now ∧
      Smooth passing (calls (effect.entries world.now (world.enact host effect).2.now
        (world.enact host effect).1)) := by
  have nothing : Smooth passing (calls []) := by simp [Smooth]
  refine ⟨World.isAsked_enact effect only asked, ?_⟩
  cases effect with
  | call call =>
      have wanted : asks call := only _ List.mem_cons_self
      have swift := gentle.swift _ _ call asked wanted
      refine ⟨by simp [enact, swift], Smooth.singleton ?_⟩
      intro halts
      obtain ⟨error, refused, halting⟩ := halts
      have mild := gentle.mild _ _ call error asked wanted refused
      exact absurd (mild.symm.trans halting) (by decide)
  | openSession request => exact (only _ List.mem_cons_self).elim
  | pause duration => exact (only _ List.mem_cons_self).elim
  | writeFile path content => exact ⟨(World.change_frame world _).2.1, nothing⟩
  | createDirectory path => exact ⟨(World.change_frame world _).2.1, nothing⟩
  | _ => exact ⟨rfl, nothing⟩

/-- A program that asks for nothing else takes no time on a gentle browser and is not halted. -/
theorem Program.Runs.asked {asks : Call → Prop} {passing : Error → Bool} {now : Nat}
    {state : σ} (gentle : host.Gentle asks passing now state) {program : Program α}
    {before after : World σ} {journal : List JournalEntry} {value : α}
    (ran : program.Runs host before journal after value)
    (only : ∀ entry ∈ journal, entry.Asks asks) (asked : before.IsAsked host asks now state) :
    after.IsAsked host asks now state ∧ after.now = before.now ∧
      Smooth passing (calls journal) := by
  obtain ⟨ended, recorded⟩ := ran
  subst recorded
  induction program generalizing before with
  | done value =>
      obtain ⟨-, rfl⟩ := Prod.mk.inj ended
      exact ⟨asked, rfl, by simp [Smooth, log]⟩
  | perform effect next ih =>
      obtain ⟨enacted_asked, enacted_now, first⟩ := World.asked_enact gentle effect
        (fun entry member => only entry (List.mem_append_left _ member)) asked
      obtain ⟨later_asked, later_now, rest⟩ := ih _ enacted_asked ended
        (fun entry member => only entry (List.mem_append_right _ member))
      refine ⟨later_asked, later_now.trans enacted_now, ?_⟩
      simp only [log, calls_append]
      exact first.append rest

theorem Program.Runs.asked_pause {asks : Call → Prop} {now : Nat} {state : σ} {duration : Nat}
    {before after : World σ} {journal : List JournalEntry}
    (ran : (Program.pause duration).Runs host before journal after ())
    (asked : before.IsAsked host asks now state) : after.IsAsked host asks now state := by
  obtain ⟨-, same_now, same_host⟩ := Program.runs_pause ran
  unfold World.IsAsked
  rw [same_now, same_host]
  exact asked.waited duration

/-- What is waited for is settled, unless time stands still between two looks. -/
def Settled (interval : Nat) (outcome : Except (Stop Fault) α) : Prop :=
  (∃ value, outcome = .ok value) ∨ (interval = 0 ∧ outcome = .error (.broken .unending))

theorem Settled.map {β : Type} {interval : Nat} {outcome : Except (Stop Fault) α}
    (settled : Settled interval outcome) (f : α → β) : Settled interval (outcome.map f) := by
  rcases settled with ⟨value, rfl⟩ | ⟨still, rfl⟩
  · exact .inl ⟨f value, rfl⟩
  · exact .inr ⟨still, rfl⟩

/-- Waiting settles when every look from an instant of the window on does. -/
theorem Polled.settles {interval deadline instant now : Nat} {state : σ}
    {look : Attempt (Stop Fault) (Look α)} {asks : Call → Prop} (soon : instant ≤ deadline)
    (looks : ∀ ⦃before : World σ⦄ ⦃journal after outcome⦄, before.IsAsked host asks now state →
      Attempt.Runs host look before journal after outcome →
        after.IsAsked host asks now state ∧ after.now = before.now ∧
          ∃ seen, outcome = .ok seen ∧ (instant ≤ before.now → ∃ value, seen = .settled value))
    {before after : World σ} {journal : List JournalEntry} {outcome : Except (Stop Fault) α}
    (polled : Polled host interval deadline look before journal after outcome)
    (asked : before.IsAsked host asks now state) : Settled interval outcome := by
  induction polled with
  | @settled before after journal value looked => exact .inl ⟨value, rfl⟩
  | stopped looked =>
      obtain ⟨-, -, seen, impossible, -⟩ := looks asked looked
      cases impossible
  | expired looked late =>
      obtain ⟨-, same_now, seen, same, settles⟩ := looks asked looked
      cases same
      obtain ⟨value, impossible⟩ := settles (by omega)
      cases impossible
  | unending looked early still => exact .inr ⟨still, rfl⟩
  | again looked early paused continued ih => exact ih (paused.asked_pause (looks asked looked).1)

/-- Looks at a chain ask for searches only. -/
theorem JournalEntry.Looks.asks {Noted : Event → Prop} {entry : JournalEntry}
    (looks : entry.Looks Noted) : entry.Asks Call.IsFind := by
  cases entry with
  | call started finished asked outcome =>
      cases asked with
      | find locator scope => exact ⟨locator, scope, rfl⟩
      | _ => exact looks.elim
  | event time event => trivial
  | _ => exact looks.elim

namespace Attempt

/-- A lookup that comes to its end is what a glance sees. -/
theorem runs_glance_of_evaluate {chain : Chain} {before after : World σ}
    {journal : List JournalEntry} {lookup : Lookup}
    (ran : Runs host (Lookup.evaluate chain) before journal after (.ok lookup)) :
    Runs host (glance chain) before journal after (.ok (.ok lookup)) :=
  runs_bind_iff.mpr (.inr ⟨journal, after, .ok lookup, [],
    runs_outcome_iff.mpr ⟨_, ran, rfl⟩, runs_pure_iff.mpr ⟨rfl, rfl, rfl⟩,
    (List.append_nil journal).symm⟩)

/-- On a gentle browser a glance at a grounded chain sees something, and a lookup that comes to its
end in particular. -/
theorem glance_of_gentle {chain : Chain} {now : Nat} {state : σ} (grounded : chain.Grounded)
    (gentle : host.Gentle Call.IsFind Error.isTransient now state) {before after : World σ}
    {journal : List JournalEntry} {outcome : Except Fault (Except Error Lookup)}
    (asked : before.IsAsked host Call.IsFind now state)
    (ran : Runs host (glance chain) before journal after outcome) :
    after.IsAsked host Call.IsFind now state ∧ after.now = before.now ∧
      ∃ seen, outcome = .ok seen ∧ ∀ lookup,
        ((Lookup.evaluate chain).run.run host before).1 = .ok lookup → seen = .ok lookup := by
  obtain ⟨looks, glanced⟩ := glanced_of_runs ran
  obtain ⟨after_asked, same_now, smooth⟩ :=
    ran.asked gentle (fun entry member => (looks entry member).asks) asked
  refine ⟨after_asked, same_now, ?_⟩
  have sees {seen : Except Error Lookup} (same : outcome = .ok seen) :
      ∃ seen, outcome = .ok seen ∧ ∀ lookup,
        ((Lookup.evaluate chain).run.run host before).1 = .ok lookup → seen = .ok lookup := by
    refine ⟨seen, same, fun lookup evaluated => ?_⟩
    have looked := Program.runs_run host (Lookup.evaluate chain).run before
    rw [evaluated] at looked
    obtain ⟨equal, -, -⟩ := ran.unique (runs_glance_of_evaluate looked)
    rw [same] at equal
    exact Except.ok.inj equal
  cases glanced with
  | whole granted evaluated => exact sees rfl
  | interrupted ends granted refused passes => exact sees rfl
  | @refused front last error ends granted refused halting =>
      refine absurd ⟨error, refused, halting⟩ (smooth last ?_)
      rw [ends]
      exact List.mem_append_right _ List.mem_cons_self
  | misplaced granted misplaced => exact absurd misplaced (grounded.nameless _)

/-- A window that fits is waited in. -/
theorem polled_of_fits {interval timeout : Nat} {look : Nat → Attempt (Stop Fault) (Look α)}
    {before after : World σ} {journal : List JournalEntry} {outcome : Except (Stop Fault) α}
    (fits : Fits before.now timeout)
    (ran : Runs host (poll interval timeout look) before journal after outcome) :
    Polled host interval (before.now + timeout) (look (before.now + timeout)) before journal after
      outcome := by
  rcases polled_of_poll ran with ⟨-, polled⟩ | ⟨beyond, -⟩
  · exact polled
  · exact absurd fits beyond

/-- A wait for a chain is settled when every lookup from an instant of its window on settles it. -/
theorem poll_settles {judge : Except Error Lookup → Look α} {interval timeout instant : Nat}
    {chain : Chain} {before after : World σ} {journal : List JournalEntry}
    {outcome : Except (Stop Fault) α} (fits : Fits before.now timeout)
    (soon : instant ≤ before.now + timeout) (grounded : chain.Grounded)
    (gentle : host.Gentle Call.IsFind Error.isTransient before.now before.host)
    (settles : ∀ world : World σ, world.IsAsked host Call.IsFind before.now before.host →
      instant ≤ world.now → ∃ lookup value,
        ((Lookup.evaluate chain).run.run host world).1 = .ok lookup ∧
          judge (.ok lookup) = .settled value)
    (ran : Runs host (poll interval timeout fun _ => (judge <$> glance chain).failing) before journal
      after outcome) : Settled interval outcome := by
  have began : before.IsAsked host Call.IsFind before.now before.host := .start
  refine (polled_of_fits fits ran).settles soon ?_ began
  intro start journal finish outcome asked looked
  obtain ⟨_, glanced, rfl⟩ := runs_judged looked
  obtain ⟨finish_asked, same_now, seen, rfl, whole⟩ :=
    glance_of_gentle grounded gentle asked glanced
  refine ⟨finish_asked, same_now, judge seen, rfl, fun late => ?_⟩
  obtain ⟨lookup, value, evaluated, judged⟩ := settles start asked late
  exact ⟨value, by rw [whole lookup evaluated, judged]⟩

theorem resolve_settles {interval timeout instant : Nat} {chain : Chain} {before after : World σ}
    {journal : List JournalEntry} {outcome : Except (Stop Fault) (List ElementId)}
    (fits : Fits before.now timeout) (soon : instant ≤ before.now + timeout)
    (grounded : chain.Grounded)
    (gentle : host.Gentle Call.IsFind Error.isTransient before.now before.host)
    (present : ∀ world : World σ, world.IsAsked host Call.IsFind before.now before.host →
      instant ≤ world.now → ∃ elements,
        ((Lookup.evaluate chain).run.run host world).1 = .ok (.found elements))
    (ran : Runs host (resolve interval timeout chain) before journal after outcome) :
    Settled interval outcome := by
  refine poll_settles fits soon grounded gentle ?_ ran
  intro world asked late
  obtain ⟨elements, evaluated⟩ := present world asked late
  exact ⟨.found elements, elements, evaluated, rfl⟩

theorem waitAbsent_settles {interval timeout instant : Nat} {chain : Chain}
    {before after : World σ} {journal : List JournalEntry} {outcome : Except (Stop Fault) Unit}
    (fits : Fits before.now timeout) (soon : instant ≤ before.now + timeout)
    (grounded : chain.Grounded)
    (gentle : host.Gentle Call.IsFind Error.isTransient before.now before.host)
    (absent : ∀ world : World σ, world.IsAsked host Call.IsFind before.now before.host →
      instant ≤ world.now → ∃ position link,
        ((Lookup.evaluate chain).run.run host world).1 = .ok (.missing position link))
    (ran : Runs host (waitAbsent interval timeout chain) before journal after outcome) :
    Settled interval outcome := by
  refine poll_settles fits soon grounded gentle ?_ ran
  intro world asked late
  obtain ⟨position, link, evaluated⟩ := absent world asked late
  exact ⟨.missing position link, (), evaluated, rfl⟩

/-- A wait for an address is settled when the address is right from an instant of its window on. -/
theorem waitUrl_settles {interval timeout instant : Nat} {fragment : String}
    {before after : World σ} {journal : List JournalEntry} {outcome : Except (Stop Fault) Unit}
    (fits : Fits before.now timeout) (soon : instant ≤ before.now + timeout)
    (gentle : host.Gentle (· = .currentUrl) (fun _ => false) before.now before.host)
    (right : ∀ world : World σ, world.IsAsked host (· = .currentUrl) before.now before.host →
      instant ≤ world.now → ∃ url : String,
        (host.call .currentUrl world.now world.host).answer = .ok url ∧
          Text.contains url fragment = true)
    (ran : Runs host (waitUrl interval timeout fragment) before journal after outcome) :
    Settled interval outcome := by
  have began : before.IsAsked host (· = .currentUrl) before.now before.host := .start
  refine (polled_of_fits fits ran).settles soon ?_ began
  intro start journal finish outcome asked looked
  obtain ⟨answer, rfl, answered, told⟩ := runs_lookAtUrl looked
  obtain ⟨finish_asked, same_now, smooth⟩ := looked.asked gentle (by simp [JournalEntry.Asks]) asked
  refine ⟨finish_asked, same_now, ?_⟩
  cases answer with
  | error error => exact absurd ⟨error, rfl, rfl⟩ (smooth _ List.mem_cons_self)
  | ok url =>
      refine ⟨_, told, fun late => ?_⟩
      obtain ⟨fitting, right_now, contained⟩ := right start asked late
      cases answered.trans right_now
      exact ⟨(), by rw [if_pos contained]⟩

end Attempt

/-- What a step waits for is the case in a world. -/
def Step.HoldsIn (host : Host σ) (stored : StoredChains) (world : World σ) : Step → Prop
  | .locate target _ _ => ∃ chain elements, stored.expand target = .ok chain ∧
      ((Lookup.evaluate chain).run.run host world).1 = .ok (.found elements)
  | .assertPresent target _ => ∃ chain elements, stored.expand target = .ok chain ∧
      ((Lookup.evaluate chain).run.run host world).1 = .ok (.found elements)
  | .assertAbsent target _ => ∃ chain position link, stored.expand target = .ok chain ∧
      ((Lookup.evaluate chain).run.run host world).1 = .ok (.missing position link)
  | .assertUrlContains fragment _ => ∃ url : String,
      (host.call .currentUrl world.now world.host).answer = .ok url ∧
        Text.contains url fragment = true
  | .navigate _ => False
  | .interact _ _ _ => False

/-- The calls that a step makes while it waits. -/
def Step.asks : Step → Call → Prop
  | .assertUrlContains _ _ => (· = .currentUrl)
  | _ => Call.IsFind

/-- What a step waits for is the case from an instant on, as long as only the step asks. -/
def Step.HoldsFrom (host : Host σ) (stored : StoredChains) (before : World σ) (instant : Nat)
    (step : Step) : Prop :=
  ∀ world : World σ, world.IsAsked host step.asks before.now before.host → instant ≤ world.now →
    step.HoldsIn host stored world

/-- Asking may go on for any time. -/
theorem Step.HoldsFrom.some_world {stored : StoredChains} {before : World σ} {instant : Nat}
    {step : Step} (holds : step.HoldsFrom host stored before instant) :
    ∃ world : World σ, step.HoldsIn host stored world :=
  ⟨_, holds { before with now := before.now + instant } (Host.Asked.start.waited instant)
    (Nat.le_add_left _ _)⟩

namespace Attempt

/-- A checked step passes on a gentle browser when what it waits for is the case from an instant of
its window on. -/
theorem perform_settles {options : RunOptions} {stored : StoredChains} {known : List String}
    {step : Step} {instant : Nat} {before after : World σ} {journal : List JournalEntry}
    {outcome : Except (Stop Fault) StoredChains} (checked : step.check known = .ok ())
    (remembers : stored.Remembers known) (fits : Fits before.now (step.window options))
    (soon : instant ≤ before.now + step.window options)
    (gentle : host.Gentle step.asks step.waitsOut before.now before.host)
    (holds : step.HoldsFrom host stored before instant)
    (ran : Runs host (perform options stored step) before journal after outcome) :
    Settled options.pollInterval outcome := by
  have grounded {target chain : Chain} (targeted : step.target? = some target)
      (expanded : stored.expand target = .ok chain) : chain.Grounded :=
    Step.grounded_of_expand remembers checked targeted expanded
  have expands {target : Chain} (targeted : step.target? = some target) (fault : Fault) :
      stored.expand target ≠ .error fault :=
    Step.expand_ne_error remembers checked targeted fault
  have present {target chain : Chain} (expanded : stored.expand target = .ok chain)
      (found : ∀ world : World σ, world.IsAsked host Call.IsFind before.now before.host →
        instant ≤ world.now → ∃ chain elements, stored.expand target = .ok chain ∧
          ((Lookup.evaluate chain).run.run host world).1 = .ok (.found elements))
      (world : World σ) (asked : world.IsAsked host Call.IsFind before.now before.host)
      (late : instant ≤ world.now) : ∃ elements,
        ((Lookup.evaluate chain).run.run host world).1 = .ok (.found elements) := by
    obtain ⟨other, elements, same, evaluated⟩ := found world asked late
    cases expanded.symm.trans same
    exact ⟨elements, evaluated⟩
  cases step with
  | navigate url => exact holds.some_world.elim fun _ impossible => impossible.elim
  | interact target interactions timeout =>
      exact holds.some_world.elim fun _ impossible => impossible.elim
  | locate target storeAs timeout =>
      rcases runs_expand_bind ran with ⟨fault, unknown, -, -⟩ | ⟨chain, expanded, sought⟩
      · exact absurd unknown (expands rfl fault)
      · rcases runs_bind_iff.mp sought with ⟨stop, resolved, rfl⟩ | ⟨_, _, _, _, -, rest, -⟩
        · rcases resolve_settles fits soon (grounded rfl expanded) gentle (present expanded holds)
            resolved with ⟨elements, impossible⟩ | ⟨still, same⟩
          · cases impossible
          · cases same
            exact .inr ⟨still, rfl⟩
        · obtain ⟨_, _, _, _, -, kept, -⟩ := runs_lift_bind_iff.mp rest
          cases storeAs with
          | none => exact .inl ⟨_, (runs_pure_iff.mp kept).1⟩
          | some name => exact .inl ⟨_, (runs_pure_iff.mp kept).1⟩
  | assertPresent target timeout =>
      rcases runs_expand_bind ran with ⟨fault, unknown, -, -⟩ | ⟨chain, expanded, sought⟩
      · exact absurd unknown (expands rfl fault)
      · obtain ⟨_, resolved, rfl⟩ := runs_bind_pure sought
        exact (resolve_settles fits soon (grounded rfl expanded) gentle (present expanded holds)
          resolved).map _
  | assertAbsent target timeout =>
      rcases runs_expand_bind ran with ⟨fault, unknown, -, -⟩ | ⟨chain, expanded, waited⟩
      · exact absurd unknown (expands rfl fault)
      · obtain ⟨_, vanished, rfl⟩ := runs_bind_pure waited
        have absent (world : World σ)
            (asked : world.IsAsked host Call.IsFind before.now before.host)
            (late : instant ≤ world.now) : ∃ position link,
              ((Lookup.evaluate chain).run.run host world).1 = .ok (.missing position link) := by
          obtain ⟨other, position, link, same, evaluated⟩ := holds world asked late
          cases expanded.symm.trans same
          exact ⟨position, link, evaluated⟩
        exact (waitAbsent_settles fits soon (grounded rfl expanded) gentle absent vanished).map _
  | assertUrlContains fragment timeout =>
      obtain ⟨_, waited, rfl⟩ := runs_bind_pure ran
      exact (waitUrl_settles fits soon gentle holds waited).map _

end Attempt

/-- A checked step that waits is punctual. A call that is refused for good is its last call, and it
fails. If it fails without such a call, its last call is not over before its current window is. And
on a gentle browser it passes when what it waits for is the case from an instant of its window on,
unless the window would close later than the clock can show, or looks without a delay between them never
come to that instant. -/
theorem Executor.punctual {options : RunOptions} {known : List String} {executor : Executor}
    {step : Step} {before after : World σ} {journal : List JournalEntry}
    {ended : Except Breakdown (Except Failure Unit × Executor)} (prepared : executor.Prepared known)
    (checked : step.check known = .ok ()) (waits : step.waits = true)
    (ran : (executor.execute options step).Runs host before journal after ended) :
    (∀ front record rest, calls journal = front ++ record :: rest → record.Halts step.waitsOut →
      rest = [] ∧ ∃ failure next, ended = .ok (.error failure, next)) ∧
    (∀ failure next, ended = .ok (.error failure, next) → Smooth step.waitsOut (calls journal) →
      ∃ opened front last, windowOpened? journal = some opened ∧
        calls journal = front ++ [last] ∧ opened + step.window options ≤ last.finished) ∧
    (∀ instant, instant ≤ before.now + step.window options →
      host.Gentle step.asks step.waitsOut before.now before.host →
      step.HoldsFrom host executor.stored before instant →
        (∃ next, ended = .ok (.ok (), next)) ∨ ¬ Fits before.now (step.window options) ∨
          (options.pollInterval = 0 ∧ ended = .error .unending)) := by
  obtain ⟨entries, result, recorded, performed, rfl⟩ := Executor.performed_of_execute ran
  have opens : (JournalEntry.event before.now
      (.stepBegan (executor.stepNumber + 1) step executor.stored)).openedAt? = some before.now :=
    rfl
  obtain ⟨opened, opened_at, ends⟩ :=
    (performed.endsInWindow checked prepared.remembers waits opens rfl).whole
  rw [← recorded] at opened_at ends
  refine ⟨?_, ?_, ?_⟩
  · intro front record rest placed halts
    obtain ⟨last, fault, rfl⟩ := ends.halts_last placed halts
    exact ⟨last, _, _, rfl⟩
  · intro failure next failed smooth
    rcases result with (fault | breakdown) | value
    · obtain ⟨front, last, placed, overdue⟩ := ends.overdue_of_smooth smooth
      exact ⟨opened, front, last, opened_at, placed, overdue⟩
    · cases failed
    · cases failed
  · intro instant soon gentle holds
    obtain ⟨start, rest, outcome, -, same_now, same_host, attempted, told⟩ :=
      Executor.runs_execute ran
    rw [← same_now, ← same_host] at gentle
    rw [← same_now] at soon ⊢
    have still_holds : step.HoldsFrom host executor.stored start instant := by
      unfold Step.HoldsFrom World.IsAsked
      rw [same_now, same_host]
      exact holds
    rw [told]
    by_cases fits : Fits start.now (step.window options)
    · rcases Attempt.perform_settles checked prepared.remembers fits soon gentle still_holds
        attempted with ⟨stored, rfl⟩ | ⟨still, rfl⟩
      · exact .inl ⟨_, rfl⟩
      · exact .inr (.inr ⟨still, rfl⟩)
    · exact .inr (.inl fits)

/-- A page that is empty up to an instant. -/
def Host.belated (instant : Nat) : Host Unit where
  openSession _ _ state := ⟨.ok (), 0, state⟩
  call
    | .find _ _, now, state => ⟨.ok (if instant ≤ now then [⟨"element"⟩] else []), 0, state⟩
    | asked, now, state => Host.agreeable.call asked now state

/-- An element that appears at the very end of the window is found. -/
theorem Executor.punctual_belated :
    ∃ journal after next,
      (Executor.start.execute RunOptions.plain (.assertPresent [.get ".a"] (some 50))).Runs
        (Host.belated 50) (World.start () []) journal after (.ok (.ok (), next)) := by
  have gentle : (Host.belated 50).Gentle Call.IsFind Error.isTransient 0 () := by
    refine ⟨?_, ?_⟩
    · intro time reached call asked wanted
      obtain ⟨locator, scope, rfl⟩ := wanted
      rfl
    · intro time reached call error asked wanted refused
      obtain ⟨locator, scope, rfl⟩ := wanted
      cases refused
  have holds : (Step.assertPresent [.get ".a"] (some 50)).HoldsFrom (Host.belated 50)
      Executor.start.stored (World.start () []) 50 := by
    intro world asked late
    obtain ⟨now, host, files, journal, output⟩ := world
    obtain ⟨later, rfl⟩ : ∃ later, now = later + 50 := Nat.exists_eq_add_of_le' late
    exact ⟨[.get ".a"], [⟨"element"⟩], rfl, rfl⟩
  have ran := Program.runs_run (Host.belated 50)
    (Executor.start.execute RunOptions.plain (.assertPresent [.get ".a"] (some 50))).run
    (World.start () [])
  rcases (Executor.punctual .start (by rfl) (by rfl) ran).2.2 50 (by decide) gentle holds with
    ⟨next, passed⟩ | beyond | ⟨still, -⟩
  · exact ⟨_, _, next, passed ▸ ran⟩
  · exact absurd (by decide) beyond
  · exact absurd still (by decide)

end ScenarioRunner
