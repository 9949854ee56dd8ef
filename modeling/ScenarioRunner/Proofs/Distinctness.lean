import Mathlib.Data.Finset.Card
import ScenarioRunner.Proofs.Explanation
import ScenarioRunner.Proofs.Meaning
import ScenarioRunner.Proofs.Silence

/-!
Which lookups find an element twice. Searches below elements that lie inside one another may match
the same element, and only the link to the parents drops the repetitions.
-/

namespace ScenarioRunner

variable {σ : Type} {host : Host σ}

/-- The elements that a search has found. -/
def CallRecord.found : CallRecord → List ElementId
  | ⟨_, _, .find _ _, .ok elements⟩ => elements
  | _ => []

/-- No search has listed an element twice. -/
def DistinctAnswers (journal : List JournalEntry) : Prop :=
  ∀ record ∈ calls journal, record.found.Nodup

instance (journal : List JournalEntry) : Decidable (DistinctAnswers journal) :=
  inferInstanceAs (Decidable (∀ record ∈ calls journal, record.found.Nodup))

/-- The link that is followed from an entry on. -/
def JournalEntry.followed? : JournalEntry → Option Link
  | .event _ (.linkFollowed _ link) => some link
  | _ => none

/-- The link that a journal follows last. -/
def lastFollowed? (journal : List JournalEntry) : Option Link :=
  (journal.filterMap JournalEntry.followed?).getLast?

/-- The searches for the link that a journal follows last. -/
def lastSearches (journal : List JournalEntry) : List CallRecord :=
  calls (behindLast JournalEntry.followed? journal)

/-- The link searches below elements, and two of its searches have found the same element. -/
structure Link.Overlaps (link : Link) (searches : List CallRecord) : Prop where
  below : ∃ selector, link = .find selector
  shared : ¬ searches.Pairwise fun first second => first.found.Disjoint second.found

/-- The last link of a journal finds an element twice. -/
def Overlaps (journal : List JournalEntry) : Prop :=
  ∃ link, lastFollowed? journal = some link ∧ link.Overlaps (lastSearches journal)

/-- A journal that ends with the searches for a link. -/
theorem lastFollowed?_append {entry : JournalEntry} {link : Link} {rest : List JournalEntry}
    (front : List JournalEntry) (follows : entry.followed? = some link)
    (searching : ∀ other ∈ rest, other.followed? = none) :
    lastFollowed? (front ++ entry :: rest) = some link ∧
      lastSearches (front ++ entry :: rest) = calls rest := by
  constructor
  · have still : rest.filterMap JournalEntry.followed? = [] :=
      List.filterMap_eq_nil_iff.mpr searching
    simp [lastFollowed?, follows, still]
  · rw [lastSearches, behindLast_append front follows searching]

/-- How a chain is followed to elements: it has no link, or its last link leads to them. -/
inductive FoundBy (subject : Option (List ElementId)) (elements : List ElementId) :
    List JournalEntry → Prop where
  | unmoved (same : elements = subject.getD []) : FoundBy subject elements []
  | link (front : List JournalEntry) {time : Nat} {scopes : Option (List ElementId)} {link : Link}
      {searching : List JournalEntry} (searches : ∀ entry ∈ searching, entry.followed? = none)
      (led : link.Leads scopes (calls searching) elements) :
      FoundBy subject elements (front ++ .event time (.linkFollowed scopes link) :: searching)

theorem JournalEntry.Looks.not_followed {entry : JournalEntry}
    (looks : entry.Looks fun _ => False) : entry.followed? = none := by
  cases entry with
  | event time event => exact looks.elim
  | _ => rfl

namespace Lookup

theorem foundBy_of_followAll {position : Nat} {subject : Option (List ElementId)} {chain : Chain}
    {before after : World σ} {journal : List JournalEntry} {elements : List ElementId}
    (ran : Attempt.Runs host (followAll position subject chain) before journal after
      (.ok (.found elements))) : FoundBy subject elements journal := by
  induction chain generalizing position subject before journal with
  | nil =>
      obtain ⟨same, -, rfl⟩ := Attempt.runs_pure_iff.mp ran
      cases same
      exact .unmoved rfl
  | cons link rest ih =>
      obtain ⟨_, _, _, _, noted, followed, rfl⟩ := Attempt.runs_lift_bind_iff.mp ran
      obtain ⟨rfl, -, -⟩ := Program.runs_note noted
      rcases Attempt.runs_bind_iff.mp followed with ⟨_, -, impossible⟩ | ⟨searching, _, next, later,
        searched, continued, rfl⟩
      · cases impossible
      · obtain ⟨looks, looked⟩ : (∀ entry ∈ searching, entry.Looks fun _ => False) ∧
            Looked (link.Leads subject) _ (calls searching) (.ok next) :=
          looksFor_follow subject link searched
        split at continued
        next empty => cases (Attempt.runs_pure_iff.mp continued).1
        next nonempty =>
          cases ih continued with
          | unmoved same =>
              subst same
              have searches : ∀ entry ∈ searching, entry.followed? = none := fun entry member =>
                (looks entry member).not_followed
              rw [List.append_nil]
              cases looked with
              | done granted led => exact .link [] searches led
          | link front searches led =>
              rw [← List.append_assoc, ← List.append_assoc]
              exact .link _ searches led

/-- Elements that are added one by one stay distinct. -/
theorem nodup_foldl_addNew {listed : List ElementId} (elements : List ElementId)
    (distinct : listed.Nodup) : (elements.foldl addNew listed).Nodup := by
  induction elements generalizing listed with
  | nil => exact distinct
  | cons element rest ih =>
      refine ih ?_
      unfold addNew
      split
      next known => exact distinct
      next new =>
        rw [← List.concat_eq_append]
        exact List.Nodup.concat (fun known => new (List.contains_iff_mem.mpr known)) distinct

end Lookup

theorem nodup_take_one (elements : List ElementId) : (elements.take 1).Nodup := by
  cases elements with
  | nil => exact List.nodup_nil
  | cons element rest => exact List.nodup_singleton element

/-- The searches below elements have found what they are said to have found. -/
theorem SearchedBelow.map_found {locator : Locator} {scopes : List ElementId}
    {searches : List CallRecord} {founds : List (List ElementId)}
    (searched : SearchedBelow locator scopes searches founds) :
    searches.map CallRecord.found = founds := by
  induction searched with
  | nil => rfl
  | cons started finished continued ih => rw [List.map_cons, ih]; rfl

/-- A link leads to distinct elements, unless it searches below elements and finds one of them
twice. -/
theorem Link.Leads.nodup_iff {link : Link} {subject : Option (List ElementId)}
    {searches : List CallRecord} {elements : List ElementId}
    (led : link.Leads subject searches elements)
    (distinct : ∀ record ∈ searches, record.found.Nodup) :
    elements.Nodup ↔ ¬ link.Overlaps searches := by
  cases led with
  | get started finished =>
      exact iff_of_true (distinct _ List.mem_cons_self) fun overlaps => nomatch overlaps.below
  | @find _ selector _ founds searched =>
      have each : ∀ found ∈ founds, found.Nodup := by
        rw [← searched.map_found]
        exact List.forall_mem_map.mpr distinct
      rw [List.nodup_flatten, and_iff_right each, ← searched.map_found, List.pairwise_map]
      constructor
      · intro apart overlaps
        exact overlaps.shared apart
      · intro apart
        by_contra shared
        exact apart ⟨⟨selector, rfl⟩, shared⟩
  | containsAnywhere started finished =>
      exact iff_of_true (nodup_take_one _) fun overlaps => nomatch overlaps.below
  | containsBelow searched =>
      exact iff_of_true (nodup_take_one _) fun overlaps => nomatch overlaps.below
  | parent searched =>
      exact iff_of_true (Lookup.nodup_foldl_addNew _ List.nodup_nil) fun overlaps =>
        nomatch overlaps.below

/-- A lookup finds distinct elements, unless its last searches overlap. -/
theorem Lookup.nodup_iff_of_evaluate {chain : Chain} {before after : World σ}
    {journal : List JournalEntry} {elements : List ElementId} (distinct : DistinctAnswers journal)
    (ran : Attempt.Runs host (evaluate chain) before journal after (.ok (.found elements))) :
    elements.Nodup ↔ ¬ Overlaps journal := by
  obtain ⟨_, _, _, _, noted, followed, rfl⟩ := Attempt.runs_lift_bind_iff.mp ran
  obtain ⟨rfl, -, -⟩ := Program.runs_note noted
  cases foundBy_of_followAll followed with
  | unmoved same =>
      subst same
      refine iff_of_true List.nodup_nil fun overlaps => ?_
      obtain ⟨link, impossible, -⟩ := overlaps
      cases impossible
  | @link front time scopes link searching searches led =>
      have distinct_here : ∀ record ∈ calls searching, record.found.Nodup := by
        intro record member
        refine distinct record ?_
        simp [member]
      obtain ⟨last, last_searches⟩ := lastFollowed?_append
        (.event before.now (.lookupBegan chain) :: front)
        (rfl : (JournalEntry.event time (.linkFollowed scopes link)).followed? = some link) searches
      rw [List.singleton_append, ← List.cons_append, led.nodup_iff distinct_here, Overlaps, last,
        last_searches]
      simp

/-- A number of elements that the lookup at the end of a journal has found. It counts each of them
once exactly when the searches of that lookup do not overlap. -/
def Counts (host : Host σ) (chain : Chain) (journal : List JournalEntry) (count : Nat) : Prop :=
  ∃ earlier start last finish elements, journal = earlier ++ last ∧
    Attempt.Runs host (Lookup.evaluate chain) start last finish (.ok (.found elements)) ∧
    count = elements.length ∧ (count = elements.toFinset.card ↔ ¬ Overlaps last)

theorem length_eq_card_iff (elements : List ElementId) :
    elements.length = elements.toFinset.card ↔ elements.Nodup := by
  rw [eq_comm]
  exact Multiset.toFinset_card_eq_card_iff_nodup (m := Multiset.ofList elements)

theorem EndsInLookup.counts {chain : Chain} {journal : List JournalEntry}
    {elements : List ElementId} (distinct : DistinctAnswers journal)
    (ends : EndsInLookup host chain journal (.ok (.found elements))) :
    Counts host chain journal elements.length := by
  obtain ⟨earlier, start, last, finish, rfl, looked⟩ := ends
  have distinct_here : DistinctAnswers last := by
    intro record member
    refine distinct record ?_
    rw [calls_append]
    exact List.mem_append_right _ member
  refine ⟨earlier, start, last, finish, elements, rfl, looked, rfl, ?_⟩
  rw [length_eq_card_iff, Lookup.nodup_iff_of_evaluate distinct_here looked]

/-- A fault that is told with the number of its step is told as it is. -/
theorem Fault.eq_of_failure {fault other : Fault} {number count : Nat} {step : Step}
    (told : fault.failure number step = .numbered count other) : fault = other := by
  have numbered {bare : Bool} {error : Error} {own : Fault}
      (same : (if bare then .bare error else .numbered number own : Failure) =
        .numbered count other) : own = other := by
    cases bare with
    | false =>
        cases same
        rfl
    | true => cases same
  cases fault with
  | refused error => exact numbered told
  | badKeys error => exact numbered told
  | _ =>
      cases told
      rfl

namespace Attempt

/-- When a silent attempt passes and is followed by a line, the line is all that is printed. -/
theorem told_of_line {ε α β : Type} {attempt : Attempt ε α} {line : α → Text.Styled} {value : β}
    (silent : TellsDeeds host false attempt) {before after : World σ} {journal : List JournalEntry}
    {result : β} :
    let whole : Attempt ε β := do
      let found ← attempt
      Program.printIf true (line found)
      return value
    Runs host whole before journal after (.ok result) →
      ∃ found middle, Runs host attempt before journal middle (.ok found) ∧
        whole.run.prints host before = line found := by
  intro whole ran
  rcases runs_bind_iff.mp ran with ⟨_, -, impossible⟩ | ⟨_, middle, found, _, attempted, rest, rfl⟩
  · cases impossible
  · obtain ⟨_, _, _, _, printed, kept, rfl⟩ := runs_lift_bind_iff.mp rest
    obtain ⟨rfl, -, -⟩ := Program.runs_printIf printed
    obtain ⟨-, rfl, rfl⟩ := runs_pure_iff.mp kept
    refine ⟨found, middle, by simpa using attempted, ?_⟩
    simp only [whole]
    rw [prints_line true (fun _ => value) silent, attempted.result]
    rfl

/-- What is waited for and found is what the last lookup has found. -/
theorem endsInLookup_of_resolve {interval timeout : Nat} {chain : Chain} {before after : World σ}
    {journal : List JournalEntry} {elements : List ElementId}
    (ran : Runs host (resolve interval timeout chain) before journal after (.ok elements)) :
    EndsInLookup host chain journal (.ok (.found elements)) := by
  rcases toldBy_of_poll (Look.presence_error_ne timeout chain) ran with
    ⟨result, ends, told⟩ | ⟨breakdown, same⟩
  · cases told with
    | settled settles =>
        cases Look.eq_found_of_presence settles
        exact ends
  · cases same

end Attempt

namespace Executor

/-- The elements that are still there when a step waits in vain for their absence. -/
theorem counts_of_notGone {options : RunOptions} {executor next : Executor} {target chain : Chain}
    {timeout : Option UInt64} {before after : World σ} {journal : List JournalEntry}
    {number ms count : Nat}
    (ran : (executor.execute options (.assertAbsent target timeout)).Runs host before journal after
      (.ok (.error (.numbered number (.notGone ms chain (.matched count))), next)))
    (distinct : DistinctAnswers journal) : Counts host chain journal count := by
  obtain ⟨opened, rest, fault, rfl, -, attempted, told, -⟩ := faulted_of_execute ran
  cases Fault.eq_of_failure told.symm
  obtain ⟨expansion, expanded, waited⟩ := Attempt.expanded_of_timeout rfl attempted
  obtain ⟨-, result, reason, ends, tells, same⟩ :=
    Attempt.tells_of_waitAbsent rfl (Attempt.fault_of_bind_pure waited)
  cases same
  cases tells with
  | matched => exact (ends.prepend [_]).counts distinct

/-- The elements that a step tells of when it locates them. -/
theorem counts_of_located {options : RunOptions} {executor next : Executor} {target : Chain}
    {storeAs : Option String} {timeout : Option UInt64} {before : World σ}
    (verbose : options.verbose = true)
    (passed : ((executor.execute options (.locate target storeAs timeout)).run.run host before).1 =
      .ok (.ok (), next))
    (distinct : DistinctAnswers
      ((executor.execute options (.locate target storeAs timeout)).run.log host before)) :
    ∃ chain count, executor.stored.expand target = .ok chain ∧
      (executor.execute options (.locate target storeAs timeout)).run.prints host before =
        [Text.plain s!"    {count} element(s) matched\n"] ∧
      Counts host chain
        ((executor.execute options (.locate target storeAs timeout)).run.log host before) count := by
  obtain ⟨opened, printed, recorded, ended⟩ :=
    exists_opened host options executor (.locate target storeAs timeout) before
  obtain ⟨stored, performed⟩ := exists_passed_iff.mp ⟨next, ended.symm.trans passed⟩
  have ran := Attempt.runs_of_outcome performed
  rw [recorded] at distinct ⊢
  rw [printed]
  rcases Attempt.runs_expand_bind ran with ⟨_, -, -, impossible⟩ | ⟨chain, expanded, -⟩
  · cases impossible
  rw [Attempt.perform_locate expanded, verbose] at ran distinct ⊢
  obtain ⟨elements, middle, resolved, told⟩ :=
    Attempt.told_of_line (Attempt.tellsDeeds_resolve _ _ chain) ran
  exact ⟨chain, elements.length, expanded, told,
    ((Attempt.endsInLookup_of_resolve resolved).prepend [_]).counts distinct⟩

end Executor

/-- The elements that a lookup finds form a set as long as its last searches do not overlap, and
only then, when no search lists an element twice. So the numbers that are reported, of elements that
were located and of elements that are still there, count each element once exactly in that case. -/
theorem Lookup.distinct_iff (host : Host σ) (options : RunOptions) (executor next : Executor)
    (before : World σ) :
    (∀ chain elements,
      ((Lookup.evaluate chain).run.run host before).1 = .ok (.found elements) →
      DistinctAnswers ((Lookup.evaluate chain).run.log host before) →
      (elements.Nodup ↔ ¬ Overlaps ((Lookup.evaluate chain).run.log host before))) ∧
    (∀ target timeout number ms chain count,
      ((executor.execute options (.assertAbsent target timeout)).run.run host before).1 =
        .ok (.error (.numbered number (.notGone ms chain (.matched count))), next) →
      DistinctAnswers
        ((executor.execute options (.assertAbsent target timeout)).run.log host before) →
      Counts host chain
        ((executor.execute options (.assertAbsent target timeout)).run.log host before) count) ∧
    (options.verbose = true → ∀ target storeAs timeout,
      ((executor.execute options (.locate target storeAs timeout)).run.run host before).1 =
        .ok (.ok (), next) →
      DistinctAnswers
        ((executor.execute options (.locate target storeAs timeout)).run.log host before) →
      ∃ chain count, executor.stored.expand target = .ok chain ∧
        (executor.execute options (.locate target storeAs timeout)).run.prints host before =
          [Text.plain s!"    {count} element(s) matched\n"] ∧
        Counts host chain
          ((executor.execute options (.locate target storeAs timeout)).run.log host before)
          count) := by
  refine ⟨?_, ?_, ?_⟩
  · intro chain elements found distinct
    exact Lookup.nodup_iff_of_evaluate distinct (Attempt.runs_of_outcome found)
  · intro target timeout number ms chain count failed distinct
    exact Executor.counts_of_notGone (Attempt.runs_of_outcome failed) distinct
  · intro verbose target storeAs timeout passed distinct
    exact Executor.counts_of_located verbose passed distinct

/-- Options of a run that prints details. -/
def RunOptions.detailed : RunOptions := { RunOptions.plain with verbose := true }

/-- The links in the entries of a menu. -/
def Chain.menuLinks : Chain := [.get "li", .find "a"]

/-- The links of a menu are found below entries that lie beside one another. -/
theorem Lookup.distinct_iff_menu :
    [(⟨"first link"⟩ : ElementId), ⟨"second link"⟩].Nodup ∧
    (∃ journal, Counts (Host.showing .menu) .menuLinks journal 2) ∧
    ∃ count : Nat, (Executor.start.execute .detailed (.locate .menuLinks none none)).run.prints
      (Host.showing .menu) (World.start () []) =
        [Text.plain s!"    {count} element(s) matched\n"] := by
  obtain ⟨set, absent, located⟩ := Lookup.distinct_iff (Host.showing .menu) .detailed .start
    ⟨[], 1⟩ (World.start () [])
  have apart : ¬ Overlaps ((Lookup.evaluate .menuLinks).run.log (Host.showing .menu)
      (World.start () [])) := by
    rintro ⟨link, -, overlaps⟩
    have searched : lastSearches ((Lookup.evaluate .menuLinks).run.log (Host.showing .menu)
        (World.start () [])) = [
          ⟨0, 0, .find (.css "a") (some ⟨"first"⟩), .ok [⟨"first link"⟩]⟩,
          ⟨0, 0, .find (.css "a") (some ⟨"second"⟩), .ok [⟨"second link"⟩]⟩] := rfl
    have elsewhere : List.Disjoint [(⟨"first link"⟩ : ElementId)] [⟨"second link"⟩] := by simp
    refine overlaps.shared ?_
    rw [searched]
    exact List.pairwise_pair.mpr elsewhere
  refine ⟨(set .menuLinks _ rfl (by decide)).mpr apart, ?_, ?_⟩
  · exact ⟨_, absent .menuLinks (some 0) 1 0 .menuLinks 2 rfl (by decide)⟩
  · obtain ⟨_, count, -, told, -⟩ := located rfl .menuLinks none none rfl (by decide)
    exact ⟨count, told⟩

/-- A page on which one element lies in another and has the only link of the page in it. -/
def StillPage.nested : StillPage
  | .css _, none => [⟨"outer"⟩, ⟨"inner"⟩]
  | .css _, some _ => [⟨"link"⟩]
  | .containsText _, _ => []
  | .parent, _ => [⟨"page"⟩]

/-- Every search on the page lists distinct elements, and yet the link is found twice and counted
as two elements. -/
theorem Lookup.repeats_nested :
    (∀ locator scope, (StillPage.nested locator scope).Nodup) ∧
    Chain.menuLinks.Grounded ∧
    ((Lookup.evaluate .menuLinks).run.run (Host.showing .nested) (World.start () [])).1 =
      .ok (.found [⟨"link"⟩, ⟨"link"⟩]) ∧
    ¬ [(⟨"link"⟩ : ElementId), ⟨"link"⟩].Nodup ∧
    ∃ failure next,
      ((Executor.start.execute .plain (.assertAbsent .menuLinks (some 0))).run.run
        (Host.showing .nested) (World.start () [])).1 = .ok (.error failure, next) ∧
      failure.message = "Step 1 failed: Timed out after 0ms: get 'li' > find 'a' " ++
        "still matched 2 element(s), expected none" := by
  refine ⟨?_, ⟨⟨_, _, rfl, rfl⟩, by simp [Chain.menuLinks]⟩, rfl, by decide, _, _, rfl, rfl⟩
  intro locator scope
  cases locator <;> cases scope <;> simp [StillPage.nested]

end ScenarioRunner
