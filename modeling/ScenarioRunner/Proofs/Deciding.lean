import ScenarioRunner.Proofs.Envelopes
import ScenarioRunner.Proofs.Retrying

/-!
What an answer decides. Each answer grants a request, refuses it or breaks the protocol, and with it
is settled what a search finds and whether a step goes on; that a chain leads to nothing is told by
a search that has found nothing, never by one that has failed.
-/

namespace ScenarioRunner

variable {σ : Type} {host : Host σ}

/-- Calls end as those do that they end with. -/
theorem ends_of_append {earlier later front : List CallRecord} {last : CallRecord}
    (nonempty : later ≠ []) (ends : earlier ++ later = front ++ [last]) :
    ∃ before, later = before ++ [last] := by
  rcases List.eq_nil_or_concat later with nothing | ⟨before, other, same⟩
  · exact absurd nothing nonempty
  · rw [same, List.concat_eq_append, ← List.append_assoc] at ends
    obtain ⟨rfl, -⟩ := List.cons.inj (List.append_inj' ends rfl).2
    exact ⟨before, by rw [same, List.concat_eq_append]⟩

/-- A search that was answered with nothing. -/
def CallRecord.FindsNothing (record : CallRecord) : Prop :=
  ∃ started finished locator scope, record = ⟨started, finished, .find locator scope, .ok []⟩

theorem SearchedBelow.findsNothing {locator : Locator} {scopes : List ElementId}
    {searches : List CallRecord} {founds : List (List ElementId)}
    (searched : SearchedBelow locator scopes searches founds) (nothing : founds.flatten = []) :
    ∀ record ∈ searches, record.FindsNothing := by
  induction searched with
  | nil => simp
  | cons started finished continued ih =>
      rw [List.flatten_cons, List.append_eq_nil_iff] at nothing
      obtain ⟨rfl, others⟩ := nothing
      exact List.forall_mem_cons.mpr ⟨⟨started, finished, _, _, rfl⟩, ih others⟩

theorem SearchedFirst.findsNothing {locator : Locator} {scopes : List ElementId}
    {searches : List CallRecord} (searched : SearchedFirst locator scopes searches []) :
    ∀ record ∈ searches, record.FindsNothing := by
  generalize none_found : ([] : List ElementId) = found at searched
  induction searched with
  | nil => simp
  | here started finished matched => exact absurd none_found.symm matched
  | later started finished continued ih =>
      exact List.forall_mem_cons.mpr ⟨⟨started, finished, _, _, rfl⟩, ih none_found⟩

/-- Parents are only listed when some were found. -/
theorem Lookup.foldl_addNew_eq_nil {elements listed : List ElementId}
    (nothing : elements.foldl addNew listed = []) : elements = [] ∧ listed = [] := by
  induction elements generalizing listed with
  | nil => exact ⟨rfl, nothing⟩
  | cons element rest ih =>
      obtain ⟨-, added⟩ := ih nothing
      by_cases known : listed.contains element = true
      · rw [addNew, if_pos known] at added
        simp [added] at known
      · rw [addNew, if_neg known] at added
        simp at added

/-- A link leads to nothing when none of its searches has found anything. -/
theorem Link.Leads.findsNothing {subject : Option (List ElementId)} {link : Link}
    {searches : List CallRecord} (led : link.Leads subject searches []) :
    ∀ record ∈ searches, record.FindsNothing := by
  generalize none_found : ([] : List ElementId) = elements at led
  cases led with
  | get started finished =>
      subst none_found
      exact List.forall_mem_singleton.mpr ⟨started, finished, _, _, rfl⟩
  | find searched => exact searched.findsNothing none_found.symm
  | containsAnywhere started finished =>
      obtain rfl : _ = [] := by simpa using none_found.symm
      exact List.forall_mem_singleton.mpr ⟨started, finished, _, _, rfl⟩
  | containsBelow searched =>
      obtain rfl : _ = [] := by simpa using none_found.symm
      exact searched.findsNothing
  | parent searched =>
      exact searched.findsNothing (Lookup.foldl_addNew_eq_nil none_found.symm).1

/-- From elements a link is always searched for. -/
theorem Link.Leads.ne_nil_of_subject {subject elements : List ElementId} {link : Link}
    {searches : List CallRecord} (led : link.Leads (some subject) searches elements)
    (nonempty : subject ≠ []) : searches ≠ [] := by
  obtain ⟨scope, scopes, rfl⟩ := List.exists_cons_of_ne_nil nonempty
  cases led with
  | get => simp
  | find searched =>
      cases searched
      simp
  | containsBelow searched => cases searched <;> simp
  | parent searched =>
      cases searched
      simp

/-- The last search of a chain that leads to nothing has found nothing. -/
theorem Chain.Evaluated.last_findsNothing {position missing : Nat}
    {subject : Option (List ElementId)} {chain : Chain} {link : Link}
    {searches front : List CallRecord} {last : CallRecord}
    (evaluated : chain.Evaluated position subject searches (.missing missing link))
    (ends : searches = front ++ [last]) : last.FindsNothing := by
  generalize told : Lookup.missing missing link = lookup at evaluated
  induction evaluated generalizing front with
  | found => cases told
  | missing nothing => exact nothing.findsNothing last (by simp [ends])
  | @matched position subject link' rest searches later elements lookup led nonempty continued ih =>
      have more : later ≠ [] := by
        subst told
        cases continued with
        | missing nothing => exact nothing.ne_nil_of_subject nonempty
        | matched led_on _ _ =>
            exact List.append_ne_nil_of_left_ne_nil (led_on.ne_nil_of_subject nonempty) _
      obtain ⟨before, same⟩ := ends_of_append more ends
      exact ih same told

/-- The last search of a step that finds a chain to lead to nothing has found nothing. -/
theorem Executor.last_findsNothing {options : RunOptions} {executor : Executor} {target : Chain}
    {timeout : Option UInt64} {before after : World σ} {journal : List JournalEntry}
    {next : Executor} {front : List CallRecord} {last : CallRecord}
    (ran : (executor.execute options (.assertAbsent target timeout)).Runs host before journal after
      (.ok (.ok (), next)))
    (placed : calls journal = front ++ [last]) : last.FindsNothing := by
  obtain ⟨start, entries, outcome, recorded, -, -, attempted, told⟩ := Executor.runs_execute ran
  rw [recorded, calls_event] at placed
  rcases Attempt.runs_expand_bind attempted with ⟨fault, -, rfl, rfl⟩ | ⟨chain, -, waited⟩
  · cases told
  obtain ⟨result, vanished, rfl⟩ := Attempt.runs_bind_pure waited
  rcases result with (fault | breakdown) | value
  · cases told
  · cases told
  · cases opens : chain.opens with
    | false =>
        rw [Attempt.silent_poll opens _ _ vanished] at placed
        simp at placed
    | true =>
        obtain ⟨earlier, searches, lookup, same, -, -, evaluated, settles⟩ :=
          (Attempt.chainWindow_of_waitAbsent vanished).evidence
        obtain ⟨position, link, rfl⟩ := Look.eq_missing_of_absence settles
        rw [same] at placed
        obtain ⟨front, ends⟩ := ends_of_append (evaluated.searches_ne_nil opens) placed
        exact evaluated.last_findsNothing ends

open WebDriver in
/-- Answers are told apart by their status and shape. A request is granted when the status says so
and the body wraps a payload, refused when the status does not and the payload tells of it, and in
all other cases the protocol is broken. A body of strict JSON wraps what the JSON wraps. A search finds the elements of a list all of whose items
refer to elements, or nothing when it is refused as one without matches. In a step that looks for
elements a refusal with one of three codes is followed by another search while the window is open,
or the step is found to search without an end, as it may where no pause separates the searches. Any
other error, and any error in another step, is the last thing that happens in the step, which
fails. That a chain is gone is told by an answer to its last search, which lists nothing or refuses
it as one without matches. -/
theorem Executor.answers_decide (response : Response) :
    (∀ payload, readPayload response = .ok payload ↔ response.Granted payload) ∧
    (∀ code message,
      readPayload response = .error (.webDriver code message) ↔ response.Refused code message) ∧
    ((∃ payload, response.Granted payload) ∨ (∃ code message, response.Refused code message) ∨
      ∃ detail, readPayload response = .error (.protocol detail)) ∧
    (∀ value payload, Json.parse? response.body = some value →
      (response.Wraps payload ↔ Envelops value payload)) ∧
    (∀ locator scope elements,
      Client.readOutcome response (.find locator scope) = .ok elements ↔
        (elements = [] ∧ ∃ message, response.Refused "no such element" message) ∨
        ∃ items, response.Granted (.array items) ∧
          List.Forall₂ (fun item element => item.Holds elementKey (.text element.name)) items
            elements) ∧
    (∀ {σ : Type} (host : Host σ) (options : RunOptions) (executor : Executor) (step : Step)
      (before : World σ) (front : List CallRecord) (record : CallRecord) (rest : List CallRecord)
      (error : Error),
      let log := (executor.execute options step).run.log host before
      let ended := ((executor.execute options step).run.run host before).1
      calls log = front ++ record :: rest →
      record.outcome = Client.readOutcome response record.call → record.outcome = .error error →
      let passing := step.target?.isSome = true ∧ ∃ code message, response.Refused code message ∧
        code ∈ ["stale element reference", "element not interactable",
          "element click intercepted"]
      (∀ opened, windowOpened? log = some opened →
        record.finished < opened + step.window options →
        ((∃ search others, rest = search :: others ∧ search.IsFind) ∨ ended = .error .unending ↔
          passing)) ∧
      (ended = .error .unending → options.pollInterval = 0) ∧
      (¬ passing → rest = [] ∧ ∃ failure next, ended = .ok (.error failure, next))) ∧
    (∀ {σ : Type} (host : Host σ) (options : RunOptions) (executor : Executor) (target : Chain)
      (timeout : Option UInt64) (before after : World σ) (journal : List JournalEntry)
      (next : Executor) (front : List CallRecord) (last : CallRecord),
      (executor.execute options (.assertAbsent target timeout)).Runs host before journal after
        (.ok (.ok (), next)) →
      calls journal = front ++ [last] →
      last.outcome = Client.readOutcome response last.call →
        response.Granted (.array []) ∨ ∃ message, response.Refused "no such element" message) := by
  refine ⟨fun payload => Response.readPayload_eq_ok_iff,
    fun code message => Response.readPayload_eq_webDriver_iff, response.readPayload_cases,
    fun value payload parsed => Response.wraps_iff_of_parse? parsed,
    fun locator scope elements => Client.readOutcome_find_eq_ok_iff, ?_, ?_⟩
  · intro σ host options executor step before front record rest error log ended placed answered
      refused passing
    have codes := Client.isTransient_iff_of_readOutcome (answered.symm.trans refused)
    have ends (lasting : ¬ passing) : rest = [] ∧ ∃ failure next,
        ended = .ok (.error failure, next) := by
      apply over_of_refused placed refused
      apply Bool.eq_false_iff.mpr
      intro both
      obtain ⟨targeted, transient⟩ := Bool.and_eq_true_iff.mp both
      exact lasting ⟨targeted, codes.mp transient⟩
    refine ⟨fun opened opens early => ⟨?_, ?_⟩, ?_, ends⟩
    · intro goes_on
      by_contra lasting
      obtain ⟨last, failure, next, failed⟩ := ends lasting
      rcases goes_on with ⟨search, others, more, -⟩ | unending
      · cases more.symm.trans last
      · cases unending.symm.trans failed
    · rintro ⟨targeted, coded⟩
      obtain ⟨target, targeted⟩ := Option.isSome_iff_exists.mp targeted
      exact searches_of_refused targeted placed refused (codes.mpr coded) opens early
    · intro unending
      cases Executor.inWindow_of_execute (Attempt.runs_of_outcome unending) with
      | unending still => exact still
  · intro σ host options executor target timeout before after journal next front last passed placed
      answered
    obtain ⟨started, finished, locator, scope, rfl⟩ := last_findsNothing passed placed
    rcases Client.readOutcome_find_eq_ok_iff.mp answered.symm with
      ⟨-, refused⟩ | ⟨items, granted, each⟩
    · exact .inr refused
    · cases each
      exact .inl granted

/-- The answer to a request for an element that is no longer on the page. -/
def WebDriver.Response.stale : Response :=
  ⟨404,
    "\x7b\"value\":\x7b\"error\":\"stale element reference\",\"message\":\"node detached\"\x7d\x7d"⟩

open WebDriver in
theorem WebDriver.Response.readPayload_stale :
    readPayload Response.stale =
      .error (.webDriver "stale element reference" "node detached") := by
  have told : (match readPayload Response.stale with
      | .ok _ => none
      | .error error => some error) =
        some (.webDriver "stale element reference" "node detached") := by
    decide +kernel
  cases read : readPayload Response.stale with
  | ok payload => simp [read] at told
  | error error => simpa [read] using told

open WebDriver in
/-- The element of a click is searched for again when it is drawn anew. -/
theorem Executor.answers_decide_redrawn :
    let records := calls ((Executor.start.execute RunOptions.plain
      (.interact [.get ".save"] [.click] none)).run.log Host.redrawn (World.start 1 []))
    (∃ record, records[1]? = some record ∧
      record.outcome = Client.readOutcome Response.stale record.call) ∧
    ∃ search others, records.drop 2 = search :: others ∧ search.IsFind := by
  intro records
  let record : CallRecord :=
    ⟨0, 0, .click ⟨"element"⟩, .error (.webDriver "stale element reference" "node detached")⟩
  have placed : records = records.take 1 ++ record :: records.drop 2 := by rfl
  have answered : record.outcome = Client.readOutcome Response.stale record.call := by
    show _ = (fun _ => ()) <$> readPayload Response.stale
    rw [Response.readPayload_stale]
    rfl
  have refused : Response.stale.Refused "stale element reference" "node detached" :=
    Response.readPayload_eq_webDriver_iff.mp Response.readPayload_stale
  obtain ⟨-, -, -, -, -, steps, -⟩ := Executor.answers_decide Response.stale
  obtain ⟨again, -⟩ := steps Host.redrawn RunOptions.plain .start
    (.interact [.get ".save"] [.click] none) (World.start 1 []) _ record _ _ placed answered rfl
  have goes_on := (again 0 rfl (by decide)).mpr ⟨rfl, _, _, refused, by simp⟩
  exact ⟨⟨record, rfl, answered⟩, goes_on.resolve_right (by decide +kernel)⟩

open WebDriver in
/-- An address that could not be read is not read again, even if an element is said to be gone: no
element is looked for. -/
theorem Executor.address_not_read_again :
    let error := Error.webDriver "stale element reference" "node detached"
    let log := (Executor.start.execute RunOptions.plain
      (.assertUrlContains "app" (some 300))).run.log (Host.steady fun _ => .error error)
        (World.start () [])
    Response.stale.Refused "stale element reference" "node detached" ∧
    Client.readOutcome Response.stale .currentUrl = .error error ∧
    calls log = [⟨0, 0, .currentUrl, .error error⟩] ∧ windowOpened? log = some 0 := by
  have read : Client.readOutcome Response.stale .currentUrl =
      .error (.webDriver "stale element reference" "node detached") := by
    show (readPayload Response.stale >>= _ : Except Error String) = _
    rw [Response.readPayload_stale]
    rfl
  exact ⟨Response.readPayload_eq_webDriver_iff.mp Response.readPayload_stale, read, rfl, rfl⟩

end ScenarioRunner
