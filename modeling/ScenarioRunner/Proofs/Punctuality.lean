import ScenarioRunner.Proofs.Safety

/-!
When a step that waits ends: at once when it is refused for good, and otherwise not before its
window is over.
-/

namespace ScenarioRunner

variable {σ : Type} {host : Host σ}

/-- How the calls of a window end: none of them halts the step and it passes or breaks down, or the last
one halts it, or the window is over with the last one. -/
inductive Ended {α : Type} (passing : Error → Bool) (deadline : Nat) :
    List CallRecord → Except (Stop Fault) α → Prop where
  | passed {records : List CallRecord} {value : α} (smooth : Smooth passing records) :
      Ended passing deadline records (.ok value)
  | broken {records : List CallRecord} {breakdown : Breakdown} (smooth : Smooth passing records) :
      Ended passing deadline records (.error (.broken breakdown))
  | halted {front : List CallRecord} {last : CallRecord} {fault : Fault}
      (smooth : Smooth passing front) (halts : last.Halts passing) :
      Ended passing deadline (front ++ [last]) (.error (.failed fault))
  | expired {front : List CallRecord} {last : CallRecord} {fault : Fault}
      (smooth : Smooth passing (front ++ [last])) (overdue : deadline ≤ last.finished) :
      Ended passing deadline (front ++ [last]) (.error (.failed fault))

theorem Ended.prepend {α : Type} {passing : Error → Bool} {deadline : Nat}
    {earlier records : List CallRecord} {outcome : Except (Stop Fault) α}
    (ended : Ended passing deadline records outcome) (smooth : Smooth passing earlier) :
    Ended passing deadline (earlier ++ records) outcome := by
  cases ended with
  | passed rest => exact .passed (smooth.append rest)
  | broken rest => exact .broken (smooth.append rest)
  | halted rest halts =>
      rw [← List.append_assoc]
      exact .halted (smooth.append rest) halts
  | @expired front last fault rest overdue =>
      have whole := smooth.append rest
      rw [← List.append_assoc] at whole ⊢
      exact .expired whole overdue

theorem Ended.smooth_of_ok {α : Type} {passing : Error → Bool} {deadline : Nat}
    {records : List CallRecord} {value : α}
    (ended : Ended passing deadline records (.ok value)) : Smooth passing records := by
  cases ended with
  | passed smooth => exact smooth

theorem Ended.map {α β : Type} {passing : Error → Bool} {deadline : Nat}
    {records : List CallRecord} {outcome : Except (Stop Fault) α}
    (ended : Ended passing deadline records outcome) (f : α → β) :
    Ended passing deadline records (outcome.map f) := by
  cases ended with
  | passed smooth => exact .passed smooth
  | broken smooth => exact .broken smooth
  | halted smooth halts => exact .halted smooth halts
  | expired smooth overdue => exact .expired smooth overdue

/-- How a failure ends does not depend on the value that was hoped for. -/
theorem Ended.of_error {α β : Type} {passing : Error → Bool} {deadline : Nat}
    {records : List CallRecord} {stop : Stop Fault}
    (ended : Ended passing deadline records (.error stop : Except (Stop Fault) α)) :
    Ended passing deadline records (.error stop : Except (Stop Fault) β) := by
  cases ended with
  | broken smooth => exact .broken smooth
  | halted smooth halts => exact .halted smooth halts
  | expired smooth overdue => exact .expired smooth overdue

/-- The first link of a grounded chain is always searched for. -/
theorem Link.Leads.ne_nil {link : Link} {searches : List CallRecord} {elements : List ElementId}
    (led : link.Leads none searches elements) (opens : link.opens = true) : searches ≠ [] := by
  cases led with
  | get started finished => simp
  | containsAnywhere started finished => simp
  | find searched => cases opens
  | parent searched => cases opens

theorem Chain.Grounded.searches_ne_nil {chain : Chain} {searches : List CallRecord}
    {lookup : Lookup} (grounded : chain.Grounded)
    (evaluated : chain.Evaluated 0 none searches lookup) : searches ≠ [] := by
  obtain ⟨link, rest, rfl, opens⟩ := grounded.opened
  cases evaluated with
  | missing nothing => exact nothing.ne_nil opens
  | matched led nonempty continued => exact List.append_ne_nil_of_left_ne_nil (led.ne_nil opens) _

theorem JournalEntry.Looks.isBusy {Noted : Event → Prop} {entry : JournalEntry}
    (looks : entry.Looks Noted) : entry.IsBusy := by
  cases entry with
  | session started request outcome => exact looks.elim
  | pause started duration => exact looks.elim
  | _ => trivial

theorem JournalEntry.isBusy_of_isAct {entry : JournalEntry} (acts : entry.IsAct) :
    entry.IsBusy := by
  cases entry with
  | session started request outcome => exact acts.elim
  | pause started duration => exact acts.elim
  | _ => trivial

/-- The last look of a wait ends the window, and it is the last thing that happens in it. -/
theorem LastLook.ended {α : Type} {judge : Except Error Lookup → Look α} {late : Prop}
    {chain : Chain} {looks : List JournalEntry} {outcome : Except (Stop Fault) α}
    {deadline start finish : Nat} (grounded : chain.Grounded)
    (timed : Timed start looks finish) (overdue_of_late : late → deadline ≤ finish)
    (looked : LastLook judge late chain looks outcome) :
    Ended Error.isTransient deadline (calls looks) outcome := by
  have finished {front : List CallRecord} {last : CallRecord}
      (ends : calls looks = front ++ [last]) : last.finished = finish :=
    timed.finished_last (fun entry member => (looked.looking entry member).isBusy) ends
  cases looked.told with
  | settled granted evaluated settles => exact .passed (smooth_of_granted granted)
  | unsettled overdue granted evaluated unsettles =>
      rcases List.eq_nil_or_concat (calls looks) with nothing | ⟨front, last, ends⟩
      · exact absurd nothing (grounded.searches_ne_nil evaluated)
      · rw [List.concat_eq_append] at ends
        have at_end := finished ends
        have overdue := overdue_of_late overdue
        rw [ends] at granted ⊢
        exact .expired (smooth_of_granted granted) (by omega)
  | @interrupted front last error fault overdue ends granted refused passes unsettles =>
      have at_end := finished ends
      have overdue := overdue_of_late overdue
      rw [ends]
      exact .expired ((smooth_of_granted granted).append (.singleton (refused.not_halts passes)))
        (by omega)
  | @refused front last error ends granted refused halting =>
      rw [ends]
      exact .halted (smooth_of_granted granted) ⟨error, refused, halting⟩
  | misplaced granted misplaced => exact absurd misplaced (grounded.nameless _)

theorem ChainWindow.ended {α : Type} {judge : Except Error Lookup → Look α}
    {timeout opened finish : Nat} {chain : Chain} {journal : List JournalEntry}
    {outcome : Except (Stop Fault) α} (grounded : chain.Grounded)
    (window : ChainWindow judge timeout opened finish chain journal outcome) :
    Ended Error.isTransient (opened + timeout) (calls journal) outcome := by
  cases window with
  | closed waits timed looked =>
      have smooth : Smooth Error.isTransient (calls _) :=
        forall_calls waits fun _ _ _ _ waiting => waiting.smooth _ rfl
      rw [calls_append]
      exact (looked.ended grounded timed id).prepend smooth
  | broken waits => exact .broken (forall_calls waits fun _ _ _ _ waiting => waiting.smooth _ rfl)

theorem smooth_of_waitsForUrl {passing : Error → Bool} {journal : List JournalEntry}
    (waits : ∀ entry ∈ journal, entry.WaitsForUrl) : Smooth passing (calls journal) := by
  refine forall_calls waits ?_
  intro started finished asked outcome waited
  cases asked with
  | currentUrl => exact CallRecord.Granted.not_halts waited
  | _ => exact waited.elim

/-- Nothing is waited out while an address is waited for. -/
theorem UrlWindow.ended {timeout opened finish : Nat} {fragment : String}
    {journal : List JournalEntry} {outcome : Except (Stop Fault) Unit}
    (window : UrlWindow timeout opened finish fragment journal outcome) :
    Ended (fun _ => false) (opened + timeout) (calls journal) outcome := by
  cases window with
  | closed waits read =>
      rw [calls_append, calls_call, calls_nil]
      have smooth : Smooth (fun _ => false) (calls _) := smooth_of_waitsForUrl waits
      cases read with
      | @reached url contained =>
          exact .passed (smooth.append (.singleton (CallRecord.Granted.not_halts ⟨url, rfl⟩)))
      | @elsewhere url overdue missing =>
          refine .expired (smooth.append (.singleton (CallRecord.Granted.not_halts ⟨url, rfl⟩))) ?_
          exact overdue
      | @refused error => exact .halted smooth ⟨error, rfl, rfl⟩
  | broken waits => exact .broken (smooth_of_waitsForUrl waits)

/-- The last try of an interaction ends its window. -/
theorem Interacted.ended {late : Prop} {chain : Chain} {interaction : Interaction}
    {last : List JournalEntry} {outcome : Except (Stop Fault) Unit} {deadline start finish : Nat}
    (grounded : chain.Grounded) (checked : interaction.check = .ok ())
    (timed : Timed start last finish) (overdue_of_late : late → deadline ≤ finish)
    (interacted : Interacted late chain interaction last outcome) :
    Ended Error.isTransient deadline (calls last) outcome := by
  cases interacted with
  | unresolved looked =>
      exact (looked.ended grounded timed overdue_of_late).of_error
  | done looked done =>
      cases done with
      | granted acts called meant granted =>
          rw [calls_append, called]
          exact .passed ((smooth_of_granted looked.granted).append (.singleton granted.not_halts))
  | @refused timeout looks acted element others error looked refused overdue =>
      cases refused with
      | @refused _ record _ acts called meant refused =>
          have smooth : Smooth Error.isTransient (calls looks) :=
            smooth_of_granted looked.granted
          have ends : calls (looks ++ acted) = calls looks ++ [record] := by
            rw [calls_append, called]
          have sought : ∀ entry ∈ looks, entry.IsBusy := fun entry member =>
            (looked.looking entry member).isBusy
          have tried : ∀ entry ∈ acted, entry.IsBusy := fun entry member =>
            JournalEntry.isBusy_of_isAct (acts entry member)
          have busy := List.forall_mem_append.mpr ⟨sought, tried⟩
          have at_end := timed.finished_last busy ends
          rw [ends]
          cases passes : error.isTransient with
          | true =>
              have late_by := overdue_of_late (overdue passes)
              exact .expired (smooth.append (.singleton (refused.not_halts passes))) (by omega)
          | false => exact .halted smooth ⟨error, refused, passes⟩
  | badKeys looked unknown => exact absurd rfl ((unknown.sound checked).2 _)

/-- An entry at which a window opens, with the time. -/
def JournalEntry.openedAt? : JournalEntry → Option Nat
  | .event time (.stepBegan _ _ _) => some time
  | .event time (.interactionBegan _) => some time
  | _ => none

/-- The opening of the window that is current at the end of a journal. -/
def windowOpened? (journal : List JournalEntry) : Option Nat :=
  (journal.filterMap JournalEntry.openedAt?).getLast?

/-- No window opens in a part of a journal. -/
def Quiet (journal : List JournalEntry) : Prop := ∀ entry ∈ journal, entry.openedAt? = none

theorem Quiet.append {first second : List JournalEntry} (quiet : Quiet first)
    (rest : Quiet second) : Quiet (first ++ second) :=
  List.forall_mem_append.mpr ⟨quiet, rest⟩

/-- The last window is the one in which no other opens. -/
theorem windowOpened?_append {opening : JournalEntry} {opened : Nat} {window : List JournalEntry}
    (front : List JournalEntry) (opens : opening.openedAt? = some opened) (quiet : Quiet window) :
    windowOpened? (front ++ opening :: window) = some opened := by
  have still : window.filterMap JournalEntry.openedAt? = [] := List.filterMap_eq_nil_iff.mpr quiet
  simp [windowOpened?, opens, still]

/-- A step goes without a halt up to its last window, and that window ends as it does. -/
inductive EndsInWindow (passing : Error → Bool) (timeout : Nat) :
    List JournalEntry → Except (Stop Fault) Unit → Prop where
  | closed {front window : List JournalEntry} {opening : JournalEntry} {opened : Nat}
      {outcome : Except (Stop Fault) Unit} (smooth : Smooth passing (calls front))
      (opens : opening.openedAt? = some opened)
      (quiet : Quiet window)
      (ended : Ended passing (opened + timeout) (calls (opening :: window)) outcome) :
      EndsInWindow passing timeout (front ++ opening :: window) outcome

theorem EndsInWindow.prepend {passing : Error → Bool} {timeout : Nat}
    {earlier journal : List JournalEntry} {outcome : Except (Stop Fault) Unit}
    (ends : EndsInWindow passing timeout journal outcome)
    (smooth : Smooth passing (calls earlier)) :
    EndsInWindow passing timeout (earlier ++ journal) outcome := by
  cases ends with
  | closed rest opens quiet ended =>
      rw [← List.append_assoc]
      exact .closed (by rw [calls_append]; exact smooth.append rest) opens quiet ended

theorem EndsInWindow.smooth_of_ok {passing : Error → Bool} {timeout : Nat}
    {journal : List JournalEntry} (ends : EndsInWindow passing timeout journal (.ok ())) :
    Smooth passing (calls journal) := by
  cases ends with
  | closed smooth opens quiet ended =>
      rw [calls_append]
      exact smooth.append ended.smooth_of_ok

theorem quiet_of_looks {chain : Chain} {journal : List JournalEntry}
    (looks : ∀ entry ∈ journal, entry.Looks chain.Noted) : Quiet journal := by
  intro entry member
  have look := looks entry member
  cases entry with
  | event time event =>
      cases event with
      | stepBegan number step stored => exact look.elim
      | interactionBegan interaction => exact look.elim
      | _ => rfl
  | _ => rfl

theorem quiet_of_isAct {journal : List JournalEntry} (acts : ∀ entry ∈ journal, entry.IsAct) :
    Quiet journal := by
  intro entry member
  have act := acts entry member
  cases entry with
  | event time event =>
      cases event with
      | typingBegan text => rfl
      | _ => exact act.elim
  | _ => rfl

theorem quiet_of_works {chain : Chain} {journal : List JournalEntry}
    (works : ∀ entry ∈ journal, entry.Works chain) : Quiet journal := by
  intro entry member
  rcases (works entry member).busy with looks | pause | acts
  · exact quiet_of_looks (by simpa using looks) entry (List.mem_singleton_self entry)
  · cases entry with
    | pause started duration => rfl
    | _ => exact pause.elim
  · exact quiet_of_isAct (by simpa using acts) entry (List.mem_singleton_self entry)

theorem quiet_of_waitsForUrl {journal : List JournalEntry}
    (waits : ∀ entry ∈ journal, entry.WaitsForUrl) : Quiet journal := by
  intro entry member
  cases entry with
  | event time event => exact (waits _ member).elim
  | _ => rfl

theorem ChainWindow.quiet {α : Type} {judge : Except Error Lookup → Look α}
    {timeout opened finish : Nat} {chain : Chain} {journal : List JournalEntry}
    {outcome : Except (Stop Fault) α}
    (window : ChainWindow judge timeout opened finish chain journal outcome) :
    Quiet journal := by
  cases window with
  | closed waits timed looked =>
      exact (quiet_of_works fun entry member => (waits entry member).works).append
        (quiet_of_looks looked.looking)
  | broken waits => exact quiet_of_works fun entry member => (waits entry member).works

theorem UrlWindow.quiet {timeout opened finish : Nat} {fragment : String}
    {journal : List JournalEntry} {outcome : Except (Stop Fault) Unit}
    (window : UrlWindow timeout opened finish fragment journal outcome) :
    Quiet journal := by
  cases window with
  | closed waits read =>
      exact (quiet_of_waitsForUrl waits).append (by simp [Quiet, JournalEntry.openedAt?])
  | broken waits => exact quiet_of_waitsForUrl waits

theorem Acted.quiet {interaction : Interaction} {element : ElementId} {journal : List JournalEntry}
    {outcome : Except Fault Unit} (acted : Acted interaction element journal outcome) :
    Quiet journal := by
  cases acted with
  | granted acts called meant granted => exact quiet_of_isAct acts
  | refused acts called meant refused => exact quiet_of_isAct acts
  | badKeys typed unknown => simp [Quiet, JournalEntry.openedAt?]

theorem Interacted.quiet {late : Prop} {chain : Chain} {interaction : Interaction}
    {last : List JournalEntry} {outcome : Except (Stop Fault) Unit}
    (interacted : Interacted late chain interaction last outcome) : Quiet last := by
  cases interacted with
  | unresolved looked => exact quiet_of_looks looked.looking
  | done looked done => exact (quiet_of_looks looked.looking).append done.quiet
  | refused looked refused overdue => exact (quiet_of_looks looked.looking).append refused.quiet
  | badKeys looked unknown => exact (quiet_of_looks looked.looking).append unknown.quiet

theorem InteractionWindow.endsInWindow {timeout : Nat} {chain : Chain}
    {interaction : Interaction} {journal : List JournalEntry} {outcome : Except (Stop Fault) Unit}
    (grounded : chain.Grounded) (checked : interaction.check = .ok ())
    (window : InteractionWindow timeout chain interaction journal outcome) :
    EndsInWindow Error.isTransient timeout journal outcome := by
  cases window with
  | @closed opened start finish earlier last _ works timed tried =>
      have ended := tried.ended grounded checked timed id
      have whole : Ended Error.isTransient (opened + timeout)
          (calls (.event opened (.interactionBegan interaction) :: (earlier ++ last))) outcome := by
        rw [calls_event, calls_append]
        exact ended.prepend (smooth_of_works works)
      have nothing : Smooth Error.isTransient (calls []) := by simp [Smooth]
      exact .closed nothing rfl ((quiet_of_works works).append tried.quiet) whole
  | @broken opened earlier _ works =>
      have nothing : Smooth Error.isTransient (calls []) := by simp [Smooth]
      have whole : Smooth Error.isTransient
          (calls (.event opened (.interactionBegan interaction) :: earlier)) := by
        rw [calls_event]
        exact smooth_of_works works
      exact .closed nothing rfl (quiet_of_works works) (.broken whole)

/-- Several interactions end in the window of the last one that is tried. -/
theorem InteractionWindows.endsInWindow {timeout : Nat} {chain : Chain}
    {interactions : List Interaction} {journal : List JournalEntry} {outcome : Except (Stop Fault) Unit}
    (grounded : chain.Grounded)
    (checked : ∀ interaction ∈ interactions, interaction.check = .ok ())
    (nonempty : interactions ≠ [])
    (windows : InteractionWindows timeout chain interactions journal outcome) :
    EndsInWindow Error.isTransient timeout journal outcome := by
  induction windows with
  | nil => exact absurd rfl nonempty
  | stopped window =>
      exact window.endsInWindow grounded (checked _ List.mem_cons_self)
  | @passed interaction rest first journal outcome window continued ih =>
      have here := window.endsInWindow grounded (checked _ List.mem_cons_self)
      by_cases last : rest = []
      · subst last
        cases continued
        rwa [List.append_nil]
      · have later := ih (fun interaction member => checked _ (List.mem_cons_of_mem _ member)) last
        exact later.prepend here.smooth_of_ok

/-- The refusals that a step waits out. -/
def Step.waitsOut : Step → Error → Bool
  | .assertUrlContains _ _ => fun _ => false
  | _ => Error.isTransient

/-- A step that waits for the page. -/
def Step.waits : Step → Bool
  | .navigate _ => false
  | _ => true

theorem Step.waitsOut_of_sought? {step : Step} {target : Chain}
    (seeks : step.sought? = some target) : step.waitsOut = Error.isTransient := by
  cases step with
  | assertUrlContains fragment timeout => cases seeks
  | _ => rfl

/-- A checked step that waits ends in its last window. -/
theorem Performed.endsInWindow {options : RunOptions} {stored : StoredChains}
    {known : List String} {opened : Nat} {opening : JournalEntry} {step : Step}
    {journal : List JournalEntry} {outcome : Except (Stop Fault) Unit}
    (checked : step.check known = .ok ()) (remembers : stored.Remembers known)
    (waits : step.waits = true)
    (opens : opening.openedAt? = some opened) (silent : opening.call? = none)
    (performed : Performed options stored opened step journal outcome) :
    EndsInWindow step.waitsOut (step.window options) (opening :: journal)
      outcome := by
  have nothing : Smooth step.waitsOut (calls []) := by simp [Smooth]
  have same : calls (opening :: journal) = calls journal := List.filterMap_cons_none silent
  have grounded {target chain : Chain} (targeted : step.target? = some target)
      (expanded : stored.expand target = .ok chain) : chain.Grounded :=
    Step.grounded_of_expand remembers checked targeted expanded
  cases performed with
  | navigated => cases waits
  | refused => cases waits
  | unknown targeted unknown =>
      exact absurd unknown (Step.expand_ne_error remembers checked targeted _)
  | sought seeks expanded window mapped =>
      refine .closed nothing opens window.quiet ?_
      have ended := window.ended (grounded (Step.target?_of_sought? seeks) expanded)
      rw [same, mapped, Step.waitsOut_of_sought? seeks]
      exact ended.map _
  | absent expanded window =>
      refine .closed nothing opens window.quiet ?_
      rw [same]
      exact window.ended (grounded rfl expanded)
  | @interacted target chain interactions timeout _ _ expanded windows =>
      obtain ⟨nonempty, known_keys⟩ := Step.check_interactions checked
      have ends := windows.endsInWindow (grounded rfl expanded) known_keys nonempty
      have quiet : calls [opening] = [] := List.filterMap_cons_none silent
      exact ends.prepend (by rw [quiet]; exact nothing)
  | addressed window =>
      refine .closed nothing opens window.quiet ?_
      rw [same]
      exact window.ended

/-- A call that halts an ending is the last call of it. -/
theorem Ended.halts_last {α : Type} {passing : Error → Bool} {deadline : Nat}
    {records front rest : List CallRecord} {record : CallRecord} {outcome : Except (Stop Fault) α}
    (ended : Ended passing deadline records outcome)
    (placed : records = front ++ record :: rest) (halts : record.Halts passing) :
    rest = [] ∧ ∃ fault, outcome = .error (.failed fault) := by
  have listed : record ∈ front ++ record :: rest := by simp
  cases ended with
  | passed smooth => exact absurd halts (smooth record (placed ▸ listed))
  | broken smooth => exact absurd halts (smooth record (placed ▸ listed))
  | expired smooth overdue => exact absurd halts (smooth record (placed ▸ listed))
  | @halted before last fault smooth last_halts =>
      refine ⟨?_, fault, rfl⟩
      rcases List.eq_nil_or_concat rest with nothing | ⟨others, other, ends⟩
      · exact nothing
      · -- a halting call further in front would be one of those that do not halt
        rw [ends, List.concat_eq_append, ← List.cons_append, ← List.append_assoc] at placed
        have same := (List.append_inj' placed rfl).1
        exact absurd halts (smooth record (by simp [same]))

/-- Without a halt a failure comes when the window is over. -/
theorem Ended.overdue_of_smooth {α : Type} {passing : Error → Bool}
    {deadline : Nat} {records : List CallRecord} {fault : Fault}
    (ended : Ended passing deadline records (.error (.failed fault) : Except (Stop Fault) α))
    (smooth : Smooth passing records) :
    ∃ front last, records = front ++ [last] ∧ deadline ≤ last.finished := by
  cases ended with
  | expired _ overdue => exact ⟨_, _, rfl, overdue⟩
  | halted _ halts => exact absurd halts (smooth _ (by simp))

theorem EndsInWindow.whole {passing : Error → Bool} {timeout : Nat}
    {journal : List JournalEntry} {outcome : Except (Stop Fault) Unit}
    (ends : EndsInWindow passing timeout journal outcome) :
    ∃ opened, windowOpened? journal = some opened ∧
      Ended passing (opened + timeout) (calls journal) outcome := by
  cases ends with
  | @closed front window opening opened _ smooth opens quiet ended =>
      refine ⟨opened, windowOpened?_append front opens quiet, ?_⟩
      rw [calls_append]
      exact ended.prepend smooth

end ScenarioRunner
