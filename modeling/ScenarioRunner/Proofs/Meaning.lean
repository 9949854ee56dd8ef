import Mathlib.Data.List.Induction
import ScenarioRunner.Proofs.Pacing
import ScenarioRunner.Proofs.Persistence
import ScenarioRunner.Proofs.Spelling

/-!
What a chain means on a page that stands still: every link leads from a list of elements to another.
A lookup is found to follow the links as long as they lead somewhere.
-/

namespace ScenarioRunner

variable {σ α : Type} {host : Host σ}

/-- What each search matches on a page that does not change. -/
abbrev StillPage := Locator → Option ElementId → List ElementId

/-- From a time and a state on the browser shows a still page to whoever searches only. -/
def Host.Shows (host : Host σ) (page : StillPage) (now : Nat) (state : σ) : Prop :=
  ∀ time reached locator scope, host.Asked Call.IsFind now state time reached →
    (host.call (.find locator scope) time reached).answer = .ok (page locator scope)

namespace StillPage

variable {page : StillPage}

/-- The elements that a link leads to from a subject. There is no subject before the first link, and
a name leads nowhere. -/
def follow (page : StillPage) (subject : Option (List ElementId)) : Link → List ElementId
  | .get selector => page (.css selector) none
  | .find selector => (subject.getD []).flatMap fun scope => page (.css selector) (some scope)
  | .contains text =>
    match subject with
    | none => (page (.containsText text) none).take 1
    | some scopes => (scopes.flatMap fun scope => page (.containsText text) (some scope)).take 1
  | .parent => ((subject.getD []).flatMap fun scope => page .parent (some scope)).eraseDups
  | .stored _ => []

/-- The subject that all links of a chain lead to one after the other. -/
def elementsFrom (page : StillPage) (subject : Option (List ElementId)) (chain : Chain) :
    List ElementId :=
  (chain.foldl (fun subject link => some (page.follow subject link)) subject).getD []

/-- The elements that a chain stands for. -/
def elements (page : StillPage) (chain : Chain) : List ElementId := page.elementsFrom none chain

/-- Every beginning of a chain up to a length matches something. -/
def Matches (page : StillPage) (subject : Option (List ElementId)) (chain : Chain)
    (length : Nat) : Prop :=
  ∀ n, 0 < n → n ≤ length → page.elementsFrom subject (chain.take n) ≠ []

/-- What a lookup is to tell of a chain that is followed from a position on. -/
def ReadsFrom (page : StillPage) (position : Nat) (subject : Option (List ElementId))
    (chain : Chain) : Lookup → Prop
  | .found elements =>
    elements = page.elementsFrom subject chain ∧ page.Matches subject chain chain.length
  | .missing stopped link => ∃ passed, stopped = position + passed ∧ chain[passed]? = some link ∧
    page.Matches subject chain passed ∧ page.elementsFrom subject (chain.take (passed + 1)) = []

theorem elementsFrom_cons (subject : Option (List ElementId)) (link : Link) (rest : Chain) :
    page.elementsFrom subject (link :: rest) =
      page.elementsFrom (some (page.follow subject link)) rest := rfl

/-- A chain matches from its first link on when the link leads somewhere and the rest goes on from
there. -/
theorem Matches.cons {subject : Option (List ElementId)} {link : Link} {rest : Chain}
    {length : Nat} (nonempty : page.follow subject link ≠ [])
    (continued : page.Matches (some (page.follow subject link)) rest length) :
    page.Matches subject (link :: rest) (length + 1) := by
  intro n positive short
  obtain ⟨n, rfl⟩ : ∃ before, n = before + 1 := Nat.exists_eq_succ_of_ne_zero (by omega)
  rw [List.take_succ_cons, elementsFrom_cons]
  cases n with
  | zero => exact nonempty
  | succ n => exact continued (n + 1) (by omega) (by omega)

/-- A chain comes to one thing only. -/
theorem ReadsFrom.unique {position : Nat} {subject : Option (List ElementId)} {chain : Chain}
    {lookup other : Lookup} (reads : page.ReadsFrom position subject chain lookup)
    (also : page.ReadsFrom position subject chain other) : lookup = other := by
  -- where one lookup stops, the other goes on only if there is something
  have stops {passed length : Nat} {link : Link} (placed : chain[passed]? = some link)
      (nothing : page.elementsFrom subject (chain.take (passed + 1)) = [])
      (goes : page.Matches subject chain length) : length ≤ passed := by
    by_contra further
    exact goes (passed + 1) (by omega) (by omega) nothing
  have inside {passed : Nat} {link : Link} (placed : chain[passed]? = some link) :
      passed < chain.length := (List.getElem?_eq_some_iff.mp placed).1
  cases lookup with
  | found elements =>
      obtain ⟨rfl, goes⟩ := reads
      cases other with
      | found elements =>
          obtain ⟨rfl, -⟩ := also
          rfl
      | missing stopped link =>
          obtain ⟨passed, rfl, placed, -, nothing⟩ := also
          have short := stops placed nothing goes
          have long := inside placed
          omega
  | missing stopped link =>
      obtain ⟨passed, rfl, placed, goes, nothing⟩ := reads
      cases other with
      | found elements =>
          obtain ⟨rfl, further⟩ := also
          have short := stops placed nothing further
          have long := inside placed
          omega
      | missing stopped link =>
          obtain ⟨again, rfl, placed_again, further, nothing_again⟩ := also
          have short := stops placed nothing further
          have long := stops placed_again nothing_again goes
          obtain rfl : passed = again := by omega
          rw [placed] at placed_again
          cases placed_again
          rfl

end StillPage

/-- The search was answered from the page. -/
def CallRecord.Shows (page : StillPage) : CallRecord → Prop
  | ⟨_, _, .find locator scope, outcome⟩ => outcome = .ok (page locator scope)
  | _ => False

/-- Whoever searches only is answered from the page that is shown. -/
theorem Program.Runs.shown {page : StillPage} {now : Nat} {state : σ}
    (shows : host.Shows page now state) {program : Program α} {before after : World σ}
    {journal : List JournalEntry} {value : α}
    (ran : program.Runs host before journal after value)
    (only : ∀ entry ∈ journal, entry.Asks Call.IsFind)
    (asked : before.IsAsked host Call.IsFind now state) :
    after.IsAsked host Call.IsFind now state ∧ ∀ record ∈ calls journal, record.Shows page := by
  obtain ⟨ended, recorded⟩ := ran
  subst recorded
  induction program generalizing before with
  | done value =>
      obtain ⟨-, rfl⟩ := Prod.mk.inj ended
      exact ⟨asked, by simp [log]⟩
  | perform effect next ih =>
      have first := fun entry member => only entry (List.mem_append_left _ member)
      have rest := fun entry member => only entry (List.mem_append_right _ member)
      obtain ⟨later_asked, later⟩ := ih _ (World.isAsked_enact effect first asked) ended rest
      refine ⟨later_asked, ?_⟩
      simp only [log, calls_append]
      refine List.forall_mem_append.mpr ⟨?_, later⟩
      cases effect with
      | call call =>
          obtain ⟨locator, scope, rfl⟩ : call.IsFind := first _ List.mem_cons_self
          exact List.forall_mem_singleton.mpr (shows _ _ locator scope asked)
      | _ => exact fun _ impossible => absurd impossible List.not_mem_nil

theorem CallRecord.Shows.not_refusedWith {page : StillPage} {record : CallRecord}
    {error : Error} (shows : record.Shows page) : ¬ record.RefusedWith error := by
  obtain ⟨started, finished, asked, outcome⟩ := record
  cases asked with
  | find locator scope =>
      subst shows
      intro refused
      cases refused
  | _ => exact shows.elim

theorem SearchedBelow.founds_eq {page : StillPage} {locator : Locator} {scopes : List ElementId}
    {searches : List CallRecord} {founds : List (List ElementId)}
    (searched : SearchedBelow locator scopes searches founds)
    (shown : ∀ record ∈ searches, record.Shows page) :
    founds = scopes.map fun scope => page locator (some scope) := by
  induction searched with
  | nil => rfl
  | cons started finished continued ih =>
      obtain ⟨here, later⟩ := List.forall_mem_cons.mp shown
      cases here
      rw [ih later, List.map_cons]

/-- The search that stops at the first element with a match finds the first match of all. -/
theorem SearchedFirst.take_one {page : StillPage} {locator : Locator} {scopes : List ElementId}
    {searches : List CallRecord} {found : List ElementId}
    (searched : SearchedFirst locator scopes searches found)
    (shown : ∀ record ∈ searches, record.Shows page) :
    found.take 1 = (scopes.flatMap fun scope => page locator (some scope)).take 1 := by
  induction searched with
  | nil => rfl
  | @here scope scopes found started finished matched =>
      obtain ⟨here, -⟩ := List.forall_mem_cons.mp shown
      cases here
      have enough : 1 ≤ (page locator (some scope)).length := List.length_pos_iff.mpr matched
      rw [List.flatMap_cons, List.take_append_of_le_length enough]
  | @later scope scopes found searches started finished continued ih =>
      obtain ⟨here, later⟩ := List.forall_mem_cons.mp shown
      have nothing : page locator (some scope) = [] := (Except.ok.inj here).symm
      rw [ih later, List.flatMap_cons, nothing, List.nil_append]

/-- An element is added to a list without repetitions when it does not occur in it yet. -/
theorem Lookup.addNew_eraseDups (elements : List ElementId) (element : ElementId) :
    addNew elements.eraseDups element = (elements ++ [element]).eraseDups := by
  rw [List.eraseDups_append]
  by_cases known : element ∈ elements
  · simp [addNew, known, List.mem_eraseDups, List.removeAll]
  · simp [addNew, known, List.mem_eraseDups, List.removeAll, List.eraseDups_cons]

/-- Elements that are added one by one stay in the order of their first occurrences. -/
theorem Lookup.foldl_addNew (elements : List ElementId) :
    elements.foldl addNew [] = elements.eraseDups := by
  induction elements using List.reverseRecOn with
  | nil => rfl
  | append_singleton elements element ih =>
      rw [List.foldl_append, ih]
      exact addNew_eraseDups elements element

/-- A link that is followed on the page leads where it is meant to. -/
theorem Link.Leads.eq_follow {page : StillPage} {link : Link} {subject : Option (List ElementId)}
    {searches : List CallRecord} {elements : List ElementId}
    (led : link.Leads subject searches elements) (shown : ∀ record ∈ searches, record.Shows page) :
    elements = page.follow subject link := by
  cases led with
  | get started finished => exact Except.ok.inj (shown _ List.mem_cons_self)
  | find searched => rw [searched.founds_eq shown]; rfl
  | containsAnywhere started finished =>
      exact congrArg (List.take 1) (Except.ok.inj (shown _ List.mem_cons_self))
  | containsBelow searched => exact searched.take_one shown
  | parent searched =>
      rw [searched.founds_eq shown]
      exact Lookup.foldl_addNew _

/-- An evaluation on the page tells what the chain comes to. -/
theorem Chain.Evaluated.reads {page : StillPage} {position : Nat}
    {subject : Option (List ElementId)} {chain : Chain} {searches : List CallRecord}
    {lookup : Lookup} (evaluated : chain.Evaluated position subject searches lookup)
    (shown : ∀ record ∈ searches, record.Shows page) :
    page.ReadsFrom position subject chain lookup := by
  induction evaluated with
  | found => exact ⟨rfl, fun n positive short => absurd short (Nat.not_le_of_lt positive)⟩
  | @missing position subject link rest searches nothing =>
      have empty : page.follow subject link = [] := (nothing.eq_follow shown).symm
      exact ⟨0, rfl, rfl, fun n positive short => by omega, empty⟩
  | @matched position subject link rest searches later elements lookup led nonempty _ ih =>
      obtain ⟨here, further⟩ := List.forall_mem_append.mp shown
      obtain rfl : elements = page.follow subject link := led.eq_follow here
      have reads := ih further
      cases lookup with
      | found found =>
          obtain ⟨rfl, goes⟩ := reads
          exact ⟨rfl, goes.cons nonempty⟩
      | missing stopped missing =>
          obtain ⟨passed, rfl, placed, goes, nothing⟩ := reads
          exact ⟨passed + 1, by omega, placed, goes.cons nonempty, nothing⟩

namespace Attempt

/-- A lookup on a still page comes to its end and reads the page. -/
theorem reads_of_evaluate {page : StillPage} {chain : Chain} {now : Nat} {state : σ}
    (grounded : chain.Grounded) (shows : host.Shows page now state) {before after : World σ}
    {journal : List JournalEntry} {outcome : Except Fault Lookup}
    (asked : before.IsAsked host Call.IsFind now state)
    (ran : Runs host (Lookup.evaluate chain) before journal after outcome) :
    after.IsAsked host Call.IsFind now state ∧
      ∃ lookup, outcome = .ok lookup ∧ page.ReadsFrom 0 none chain lookup := by
  obtain ⟨looks, looked⟩ := Lookup.looksFor_evaluate chain ran
  have searches_only : ∀ entry ∈ journal, entry.Asks Call.IsFind := fun entry member =>
    (looks entry member).asks
  obtain ⟨after_asked, shown⟩ := ran.shown shows searches_only asked
  refine ⟨after_asked, ?_⟩
  cases looked with
  | done granted evaluated => exact ⟨_, rfl, evaluated.reads shown⟩
  | @refused front last error ends granted refused =>
      refine absurd refused (shown last ?_).not_refusedWith
      rw [ends]
      exact List.mem_append_right _ List.mem_cons_self
  | misplaced granted misplaced => exact absurd misplaced (grounded.nameless _)

/-- Every glance at a still page sees the same. -/
theorem reads_of_glance {page : StillPage} {chain : Chain} {now : Nat} {state : σ}
    {lookup : Lookup} (grounded : chain.Grounded) (shows : host.Shows page now state)
    (reads : page.ReadsFrom 0 none chain lookup) {before after : World σ}
    {journal : List JournalEntry} {outcome : Except Fault (Except Error Lookup)}
    (asked : before.IsAsked host Call.IsFind now state)
    (ran : Runs host (glance chain) before journal after outcome) :
    after.IsAsked host Call.IsFind now state ∧ outcome = .ok (.ok lookup) ∧
      Runs host (Lookup.evaluate chain) before journal after (.ok lookup) := by
  obtain ⟨result, evaluated, rfl⟩ := glimpsed_of_glance ran
  obtain ⟨after_asked, told, rfl, reads_too⟩ := reads_of_evaluate grounded shows asked evaluated
  obtain rfl : lookup = told := reads.unique reads_too
  exact ⟨after_asked, rfl, evaluated⟩

end Attempt

/-- Waiting ends with the first look when that settles what is waited for. -/
theorem Polled.of_settled {interval deadline : Nat} {look : Attempt (Stop Fault) (Look α)}
    {value : α} {before after : World σ} {journal : List JournalEntry}
    {outcome : Except (Stop Fault) α}
    (looks : ∀ ⦃journal after seen⦄, Attempt.Runs host look before journal after seen →
      seen = .ok (.settled value))
    (polled : Polled host interval deadline look before journal after outcome) :
    outcome = .ok value ∧ Attempt.Runs host look before journal after (.ok (.settled value)) := by
  cases polled with
  | settled looked =>
      cases looks looked
      exact ⟨rfl, looked⟩
  | stopped looked => cases looks looked
  | expired looked late => cases looks looked
  | unending looked early still => cases looks looked
  | again looked early paused continued => cases looks looked

/-- Waiting with an interval for what no look settles goes on to the deadline. -/
theorem Polled.of_unsettled {interval deadline now : Nat} {state : σ}
    {look : Attempt (Stop Fault) (Look α)} {fault : Fault} {asks : Call → Prop}
    (positive : 0 < interval)
    (looks : ∀ ⦃before : World σ⦄ ⦃journal after seen⦄, before.IsAsked host asks now state →
      Attempt.Runs host look before journal after seen →
        after.IsAsked host asks now state ∧ seen = .ok (.unsettled fault))
    {before after : World σ} {journal : List JournalEntry} {outcome : Except (Stop Fault) α}
    (asked : before.IsAsked host asks now state)
    (polled : Polled host interval deadline look before journal after outcome) :
    outcome = .error (.failed fault) ∧ deadline ≤ after.now := by
  induction polled with
  | settled looked => cases (looks asked looked).2
  | stopped looked => cases (looks asked looked).2
  | expired looked late =>
      cases (looks asked looked).2
      exact ⟨rfl, late⟩
  | unending looked early still => omega
  | again looked early paused continued ih => exact ih (paused.asked_pause (looks asked looked).1)

/-- A step waits for its chain to be judged good and does nothing else. -/
def Step.Judges (step : Step) (options : RunOptions) (stored : StoredChains) (chain : Chain)
    (judge : Except Error Lookup → Look α) : Prop :=
  Attempt.perform options stored step = (do
    let _ ← Attempt.poll options.pollInterval (step.window options) fun _ =>
      (judge <$> Attempt.glance chain).failing
    return stored)

theorem Step.judges_assertPresent {chain : Chain} (grounded : chain.Grounded)
    (options : RunOptions) (stored : StoredChains) (timeout : Option UInt64) :
    (Step.assertPresent chain timeout).Judges options stored chain
      (Look.presence (options.window timeout) chain) := by
  simp only [Judges, Attempt.perform, grounded.expand]
  rfl

theorem Step.judges_assertAbsent {chain : Chain} (grounded : chain.Grounded)
    (options : RunOptions) (stored : StoredChains) (timeout : Option UInt64) :
    (Step.assertAbsent chain timeout).Judges options stored chain
      (Look.absence (options.window timeout) chain) := by
  simp only [Judges, Attempt.perform, grounded.expand]
  rfl

/-- The step passes, and all that it does is one lookup of the chain. -/
structure Executor.PassesAtOnce (host : Host σ) (options : RunOptions) (executor : Executor)
    (chain : Chain) (before : World σ) (step : Step) : Prop where
  passed : ∃ next, ((executor.execute options step).run.run host before).1 = .ok (.ok (), next)
  looked : (executor.execute options step).run.log host before =
    .event before.now (.stepBegan (executor.stepNumber + 1) step executor.stored) ::
      (Lookup.evaluate chain).run.log host before

/-- The step fails, and not before its window is over. -/
structure Executor.FailsInTheEnd (host : Host σ) (options : RunOptions) (executor : Executor)
    (before : World σ) (step : Step) : Prop where
  failed : ∃ failure next,
    ((executor.execute options step).run.run host before).1 = .ok (.error failure, next)
  waited : before.now + step.window options ≤
    ((executor.execute options step).run.run host before).2.now

/-- The step breaks down before its first lookup, since its window would close behind the end of the
clock. -/
structure Executor.OutlastsClock (host : Host σ) (options : RunOptions) (executor : Executor)
    (before : World σ) (step : Step) : Prop where
  broken : ((executor.execute options step).run.run host before).1 =
    .error (.beyondClock before.now (step.window options))
  looked : (executor.execute options step).run.log host before =
    [.event before.now (.stepBegan (executor.stepNumber + 1) step executor.stored)]

namespace Executor

variable {page : StillPage} {chain : Chain} {lookup : Lookup} {options : RunOptions}
  {executor : Executor} {step : Step} {judge : Except Error Lookup → Look α}

/-- A step that the lookup settles passes with it. -/
theorem passesAtOnce {before : World σ} {value : α} (grounded : chain.Grounded)
    (shows : host.Shows page before.now before.host) (reads : page.ReadsFrom 0 none chain lookup)
    (fits : Fits before.now (step.window options))
    (judges : step.Judges options executor.stored chain judge)
    (settles : judge (.ok lookup) = .settled value) :
    executor.PassesAtOnce host options chain before step := by
  have ran := Program.runs_run host (executor.execute options step).run before
  obtain ⟨opened, rest, outcome, recorded, alike, attempted, told⟩ := attempted_of_execute ran
  rw [alike.now] at fits
  rw [alike.now, alike.host] at shows
  rw [judges] at attempted
  obtain ⟨result, polled, rfl⟩ := Attempt.runs_bind_pure attempted
  have settled ⦃journal : List JournalEntry⦄ ⦃finish : World σ⦄ ⦃seen⦄
      (look : Attempt.Runs host (judge <$> Attempt.glance chain).failing opened journal finish seen) :
      seen = .ok (.settled value) := by
    obtain ⟨_, looked, rfl⟩ := Attempt.runs_failing_iff.mp look
    obtain ⟨glance, glanced, rfl⟩ := Attempt.runs_map_iff.mp looked
    obtain ⟨-, rfl, -⟩ := Attempt.reads_of_glance grounded shows reads .start glanced
    exact congrArg Except.ok settles
  obtain ⟨rfl, look⟩ := (Attempt.polled_of_fits fits polled).of_settled settled
  obtain ⟨_, looked, -⟩ := Attempt.runs_failing_iff.mp look
  obtain ⟨glance, glanced, -⟩ := Attempt.runs_map_iff.mp looked
  obtain ⟨-, -, evaluated⟩ := Attempt.reads_of_glance grounded shows reads .start glanced
  -- the lookup that the step makes is the one that would be made before the step is announced
  have looked_before := Program.runs_run host (Lookup.evaluate chain).run before
  obtain ⟨-, same, -⟩ := looked_before.alike alike evaluated
  refine ⟨⟨_, told⟩, ?_⟩
  rw [recorded, same]

/-- A step that the lookup does not settle waits in vain. -/
theorem failsInTheEnd {before : World σ} {fault : Fault} (positive : 0 < options.pollInterval)
    (grounded : chain.Grounded) (shows : host.Shows page before.now before.host)
    (reads : page.ReadsFrom 0 none chain lookup) (fits : Fits before.now (step.window options))
    (judges : step.Judges options executor.stored chain judge)
    (unsettles : judge (.ok lookup) = .unsettled fault) :
    executor.FailsInTheEnd host options before step := by
  have ran := Program.runs_run host (executor.execute options step).run before
  obtain ⟨opened, rest, outcome, -, opened_at, opened_on, attempted, told⟩ := runs_execute ran
  rw [← opened_at] at fits
  rw [← opened_at, ← opened_on] at shows
  rw [judges] at attempted
  obtain ⟨result, polled, rfl⟩ := Attempt.runs_bind_pure attempted
  have unsettled ⦃start : World σ⦄ ⦃journal⦄ ⦃finish : World σ⦄ ⦃seen⦄
      (asked : start.IsAsked host Call.IsFind opened.now opened.host)
      (look : Attempt.Runs host (judge <$> Attempt.glance chain).failing start journal finish seen) :
      finish.IsAsked host Call.IsFind opened.now opened.host ∧ seen = .ok (.unsettled fault) := by
    obtain ⟨_, looked, rfl⟩ := Attempt.runs_failing_iff.mp look
    obtain ⟨glance, glanced, rfl⟩ := Attempt.runs_map_iff.mp looked
    obtain ⟨still_asked, rfl, -⟩ := Attempt.reads_of_glance grounded shows reads asked glanced
    exact ⟨still_asked, congrArg Except.ok unsettles⟩
  obtain ⟨rfl, late⟩ := (Attempt.polled_of_fits fits polled).of_unsettled positive unsettled .start
  refine ⟨⟨_, _, told⟩, ?_⟩
  rwa [opened_at] at late

/-- A step whose window does not fit comes to no lookup. -/
theorem outlastsClock {before : World σ} (beyond : ¬ Fits before.now (step.window options))
    (judges : step.Judges options executor.stored chain judge) :
    executor.OutlastsClock host options before step := by
  have ran := Program.runs_run host (executor.execute options step).run before
  obtain ⟨opened, rest, outcome, recorded, opened_at, -, attempted, told⟩ := runs_execute ran
  rw [← opened_at] at beyond
  rw [judges] at attempted
  obtain ⟨result, polled, rfl⟩ := Attempt.runs_bind_pure attempted
  rcases Attempt.polled_of_poll polled with ⟨fits, -⟩ | ⟨-, rfl, -, rfl⟩
  · exact absurd fits beyond
  · rw [opened_at] at told
    exact ⟨told, recorded⟩

end Executor

/-- What a chain comes to decides which of the two assertions about it passes. -/
theorem Executor.one_passes {page : StillPage} {chain : Chain} {lookup : Lookup} {before : World σ}
    (grounded : chain.Grounded) (shows : host.Shows page before.now before.host)
    (reads : page.ReadsFrom 0 none chain lookup) {options : RunOptions} {timeout : Option UInt64}
    (positive : 0 < options.pollInterval) (fits : Fits before.now (options.window timeout))
    (executor : Executor) :
    (executor.PassesAtOnce host options chain before (.assertPresent chain timeout) ∧
        executor.FailsInTheEnd host options before (.assertAbsent chain timeout)) ∨
      executor.PassesAtOnce host options chain before (.assertAbsent chain timeout) ∧
        executor.FailsInTheEnd host options before (.assertPresent chain timeout) := by
  have present := Step.judges_assertPresent grounded options executor.stored timeout
  have absent := Step.judges_assertAbsent grounded options executor.stored timeout
  cases lookup with
  | found elements =>
      exact .inl ⟨passesAtOnce grounded shows reads fits present rfl,
        failsInTheEnd positive grounded shows reads fits absent rfl⟩
  | missing position link =>
      exact .inr ⟨passesAtOnce grounded shows reads fits absent rfl,
        failsInTheEnd positive grounded shows reads fits present rfl⟩

/-- A beginning of a grounded chain is grounded. -/
theorem Chain.Grounded.take {chain : Chain} (grounded : chain.Grounded) {n : Nat}
    (positive : 0 < n) : Chain.Grounded (chain.take n) := by
  obtain ⟨link, rest, rfl, opens⟩ := grounded.opened
  obtain ⟨n, rfl⟩ : ∃ before, n = before + 1 := Nat.exists_eq_succ_of_ne_zero (by omega)
  refine ⟨⟨link, rest.take n, rfl, opens⟩, fun name member => ?_⟩
  exact grounded.nameless name (List.mem_of_mem_take member)

/-- A lookup of a grounded chain on a still page tells what the chain comes to, and that only. -/
theorem Chain.Grounded.evaluate_eq_ok_iff {page : StillPage} {chain : Chain} {before : World σ}
    (grounded : chain.Grounded) (shows : host.Shows page before.now before.host) (lookup : Lookup) :
    ((Lookup.evaluate chain).run.run host before).1 = .ok lookup ↔
      page.ReadsFrom 0 none chain lookup := by
  have ran := Program.runs_run host (Lookup.evaluate chain).run before
  obtain ⟨-, told, evaluated, reads⟩ := Attempt.reads_of_evaluate grounded shows .start ran
  rw [evaluated]
  constructor
  · intro same
    cases same
    exact reads
  · intro reads_too
    rw [reads.unique reads_too]

theorem StillPage.matches_take {page : StillPage} {subject : Option (List ElementId)}
    {chain : Chain} {length : Nat} :
    page.Matches subject (chain.take length) length ↔ page.Matches subject chain length := by
  have same {n : Nat} (short : n ≤ length) : (chain.take length).take n = chain.take n := by
    rw [List.take_take, Nat.min_eq_left short]
  constructor
  · intro goes n positive short
    rw [← same short]
    exact goes n positive short
  · intro goes n positive short
    rw [same short]
    exact goes n positive short

/-- The beginnings of a chain are found as long as each of them matches something. -/
theorem Chain.Grounded.beginnings_found_iff {page : StillPage} {chain : Chain} {before : World σ}
    (grounded : chain.Grounded) (shows : host.Shows page before.now before.host) {length : Nat}
    (within : length ≤ chain.length) :
    (∀ n, 0 < n → n ≤ length → ∃ elements,
      ((Lookup.evaluate (chain.take n)).run.run host before).1 = .ok (.found elements)) ↔
      page.Matches none chain length := by
  have found_iff {n : Nat} (positive : 0 < n) (short : n ≤ length) (elements : List ElementId) :
      ((Lookup.evaluate (chain.take n)).run.run host before).1 = .ok (.found elements) ↔
        elements = page.elements (chain.take n) ∧ page.Matches none chain n := by
    have whole : (chain.take n).length = n := List.length_take_of_le (by omega)
    have reads_iff := (grounded.take positive).evaluate_eq_ok_iff shows (.found elements)
    rw [reads_iff, StillPage.ReadsFrom, whole, StillPage.matches_take]
    exact Iff.rfl
  constructor
  · intro found n positive short
    obtain ⟨elements, evaluated⟩ := found n positive short
    exact ((found_iff positive short elements).mp evaluated).2 n positive (Nat.le_refl n)
  · intro goes n positive short
    have shorter : page.Matches none chain n := fun m some_link early =>
      goes m some_link (Nat.le_trans early short)
    exact ⟨_, (found_iff positive short _).mpr ⟨rfl, shorter⟩⟩

/-- A chain means its elements. On a page that stands still a lookup always comes to its end: it
finds the elements that all links lead to when no beginning of the chain matches nothing, and misses
a link exactly when everything before it is found and nothing up to it. So of the assertions that
something is there and that nothing is there one passes, with a single lookup, and the other waits
in vain, unless the clock comes to its end before their window does: then both break down. -/
theorem Chain.Grounded.meaning {page : StillPage} {chain : Chain} (grounded : chain.Grounded)
    (before : World σ) (shows : host.Shows page before.now before.host) :
    (∃ lookup, ((Lookup.evaluate chain).run.run host before).1 = .ok lookup) ∧
    (∀ elements,
      ((Lookup.evaluate chain).run.run host before).1 = .ok (.found elements) ↔
        elements = page.elements chain ∧
          ∀ n, 0 < n → n ≤ chain.length → page.elements (chain.take n) ≠ []) ∧
    (∀ position link,
      ((Lookup.evaluate chain).run.run host before).1 = .ok (.missing position link) ↔
        chain[position]? = some link ∧
          (∀ n, 0 < n → n ≤ position → ∃ elements,
            ((Lookup.evaluate (chain.take n)).run.run host before).1 = .ok (.found elements)) ∧
          page.elements (chain.take (position + 1)) = []) ∧
    ∀ (options : RunOptions) (executor : Executor) (timeout : Option UInt64),
      0 < options.pollInterval →
        (Fits before.now (options.window timeout) →
          (executor.PassesAtOnce host options chain before (.assertPresent chain timeout) ∧
              executor.FailsInTheEnd host options before (.assertAbsent chain timeout)) ∨
            executor.PassesAtOnce host options chain before (.assertAbsent chain timeout) ∧
              executor.FailsInTheEnd host options before (.assertPresent chain timeout)) ∧
        (¬ Fits before.now (options.window timeout) →
          executor.OutlastsClock host options before (.assertPresent chain timeout) ∧
            executor.OutlastsClock host options before (.assertAbsent chain timeout)) := by
  have ran := Program.runs_run host (Lookup.evaluate chain).run before
  obtain ⟨-, lookup, evaluated, reads⟩ := Attempt.reads_of_evaluate grounded shows .start ran
  refine ⟨⟨lookup, evaluated⟩, fun elements => grounded.evaluate_eq_ok_iff shows _, ?_, ?_⟩
  · intro position link
    rw [grounded.evaluate_eq_ok_iff shows]
    constructor
    · rintro ⟨passed, rfl, placed, goes, nothing⟩
      rw [Nat.zero_add]
      have inside := (List.getElem?_eq_some_iff.mp placed).1
      exact ⟨placed, (grounded.beginnings_found_iff shows (Nat.le_of_lt inside)).mpr goes, nothing⟩
    · rintro ⟨placed, found, nothing⟩
      have inside := (List.getElem?_eq_some_iff.mp placed).1
      have goes := (grounded.beginnings_found_iff shows (Nat.le_of_lt inside)).mp found
      exact ⟨position, (Nat.zero_add _).symm, placed, goes, nothing⟩
  · intro options executor timeout positive
    refine ⟨fun fits => executor.one_passes grounded shows reads positive fits, fun beyond => ?_⟩
    exact ⟨executor.outlastsClock beyond (Step.judges_assertPresent grounded options _ timeout),
      executor.outlastsClock beyond (Step.judges_assertAbsent grounded options _ timeout)⟩

/-- A browser with a still page. -/
def Host.showing (page : StillPage) : Host Unit where
  openSession _ _ state := ⟨.ok (), 0, state⟩
  call
    | .find locator scope, _, state => ⟨.ok (page locator scope), 0, state⟩
    | asked, now, state => Host.agreeable.call asked now state

/-- A list with two entries, each of which has one link in it. -/
def StillPage.menu : StillPage
  | .css _, none => [⟨"first"⟩, ⟨"second"⟩]
  | .css _, some entry => if entry = ⟨"first"⟩ then [⟨"first link"⟩] else [⟨"second link"⟩]
  | .containsText _, _ => []
  | .parent, _ => [⟨"list"⟩]

/-- The entries have one parent, and it is listed once. -/
theorem Chain.Grounded.meaning_menu :
    ((Lookup.evaluate [.get "li", .parent]).run.run (Host.showing .menu) (World.start () [])).1 =
        .ok (.found [⟨"list"⟩]) ∧
      ∃ step, Executor.start.PassesAtOnce (Host.showing .menu) .plain [.get "li", .parent]
        (World.start () []) step := by
  have grounded : Chain.Grounded [.get "li", .parent] := ⟨⟨_, _, rfl, rfl⟩, by simp⟩
  have shows : (Host.showing .menu).Shows .menu 0 () := fun _ _ _ _ _ => rfl
  obtain ⟨-, found, -, assertions⟩ := grounded.meaning (World.start () []) shows
  have goes : StillPage.menu.Matches none [.get "li", .parent] 2 := by
    intro n positive short
    obtain rfl | rfl : n = 1 ∨ n = 2 := by omega
    · decide
    · decide
  refine ⟨(found [⟨"list"⟩]).mpr ⟨by decide, goes⟩, ?_⟩
  rcases (assertions .plain .start none (by decide)).1 (by decide) with ⟨passes, -⟩ | ⟨passes, -⟩
  · exact ⟨_, passes⟩
  · exact ⟨_, passes⟩

end ScenarioRunner
