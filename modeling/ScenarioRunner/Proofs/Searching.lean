import ScenarioRunner.Proofs.Journal

/-!
What a lookup asks of the browser: the searches of each link in order, up to the first link that
matches nothing or the first search that is refused.
-/

namespace ScenarioRunner

variable {σ α β : Type}

/-- Each element is searched below once, in order. -/
inductive SearchedBelow (locator : Locator) :
    List ElementId → List CallRecord → List (List ElementId) → Prop where
  | nil : SearchedBelow locator [] [] []
  | cons {scope : ElementId} {scopes found : List ElementId} {founds : List (List ElementId)}
      {searches : List CallRecord} (started finished : Nat)
      (continued : SearchedBelow locator scopes searches founds) :
      SearchedBelow locator (scope :: scopes)
        (⟨started, finished, .find locator (some scope), .ok found⟩ :: searches) (found :: founds)

/-- Elements are searched below in order up to the first with a match. -/
inductive SearchedFirst (locator : Locator) :
    List ElementId → List CallRecord → List ElementId → Prop where
  | nil : SearchedFirst locator [] [] []
  | here {scope : ElementId} {scopes found : List ElementId} (started finished : Nat)
      (matched : found ≠ []) :
      SearchedFirst locator (scope :: scopes)
        [⟨started, finished, .find locator (some scope), .ok found⟩] found
  | later {scope : ElementId} {scopes found : List ElementId} {searches : List CallRecord}
      (started finished : Nat) (continued : SearchedFirst locator scopes searches found) :
      SearchedFirst locator (scope :: scopes)
        (⟨started, finished, .find locator (some scope), .ok []⟩ :: searches) found

/-- The searches that lead from a subject along a link to elements, none of them refused. -/
inductive Link.Leads :
    Option (List ElementId) → Link → List CallRecord → List ElementId → Prop where
  | get {subject : Option (List ElementId)} {selector : String} {found : List ElementId}
      (started finished : Nat) :
      Leads subject (.get selector) [⟨started, finished, .find (.css selector) none, .ok found⟩]
        found
  | find {subject : Option (List ElementId)} {selector : String} {searches : List CallRecord}
      {founds : List (List ElementId)}
      (searched : SearchedBelow (.css selector) (subject.getD []) searches founds) :
      Leads subject (.find selector) searches founds.flatten
  | containsAnywhere {text : String} {found : List ElementId} (started finished : Nat) :
      Leads none (.contains text) [⟨started, finished, .find (.containsText text) none, .ok found⟩]
        (found.take 1)
  | containsBelow {text : String} {scopes found : List ElementId} {searches : List CallRecord}
      (searched : SearchedFirst (.containsText text) scopes searches found) :
      Leads (some scopes) (.contains text) searches (found.take 1)
  | parent {subject : Option (List ElementId)} {searches : List CallRecord}
      {founds : List (List ElementId)}
      (searched : SearchedBelow .parent (subject.getD []) searches founds) :
      Leads subject .parent searches (founds.flatten.foldl Lookup.addNew [])

/-- A complete evaluation of a chain from a subject: every link leads to an element, or the first
that does not is told with its position. -/
inductive Chain.Evaluated :
    Nat → Option (List ElementId) → Chain → List CallRecord → Lookup → Prop where
  | found {position : Nat} {subject : Option (List ElementId)} :
      Evaluated position subject [] [] (.found (subject.getD []))
  | missing {position : Nat} {subject : Option (List ElementId)} {link : Link} {rest : Chain}
      {searches : List CallRecord} (nothing : link.Leads subject searches []) :
      Evaluated position subject (link :: rest) searches (.missing position link)
  | matched {position : Nat} {subject : Option (List ElementId)} {link : Link} {rest : Chain}
      {searches later : List CallRecord} {elements : List ElementId} {lookup : Lookup}
      (led : link.Leads subject searches elements) (nonempty : elements ≠ [])
      (continued : Evaluated (position + 1) (some elements) rest later lookup) :
      Evaluated position subject (link :: rest) (searches ++ later) lookup

/-- How an attempt to look at the page may end, with the calls that it made: with a value after
granted searches, at the first search that is refused, or at a name that is out of place. -/
inductive Looked (Done : List CallRecord → α → Prop) (Misplaced : String → Prop) :
    List CallRecord → Except Fault α → Prop where
  | done {searches : List CallRecord} {value : α}
      (granted : ∀ record ∈ searches, record.Granted) (complete : Done searches value) :
      Looked Done Misplaced searches (.ok value)
  | refused {searches front : List CallRecord} {last : CallRecord} {error : Error}
      (ends : searches = front ++ [last]) (granted : ∀ record ∈ front, record.Granted)
      (refused : last.RefusedWith error) : Looked Done Misplaced searches (.error (.refused error))
  | misplaced {searches : List CallRecord} {name : String}
      (granted : ∀ record ∈ searches, record.Granted) (misplaced : Misplaced name) :
      Looked Done Misplaced searches (.error (.misplacedName name))

/-- An entry of a look at the page, which searches and notes where it is. -/
def JournalEntry.Looks (Noted : Event → Prop) : JournalEntry → Prop
  | .call _ _ (.find _ _) _ => True
  | .event _ noted => Noted noted
  | _ => False

/-- A link of a chain is followed from a subject: the first link from the first subject, every later
one from elements that the link before has led to. -/
def Chain.Visits (first : Option (List ElementId)) (chain : Chain)
    (subject : Option (List ElementId)) (link : Link) : Prop :=
  (∃ rest, chain = link :: rest ∧ subject = first) ∨
    link ∈ chain.tail ∧ ∃ element others, subject = some (element :: others)

/-- What is noted while a chain is followed. -/
def Chain.NotedFrom (first : Option (List ElementId)) (chain : Chain) : Event → Prop
  | .linkFollowed subject link => chain.Visits first subject link
  | _ => False

/-- What is noted while a chain is evaluated. -/
def Chain.Noted (chain : Chain) : Event → Prop
  | .lookupBegan begun => begun = chain
  | event => chain.NotedFrom none event

/-- What is noted behind the first link belongs to the whole chain. -/
theorem Chain.notedFrom_cons {first : Option (List ElementId)} {link : Link} {rest : Chain}
    {element : ElementId} {others : List ElementId} {event : Event}
    (noted : rest.NotedFrom (some (element :: others)) event) :
    Chain.NotedFrom first (link :: rest) event := by
  cases event with
  | linkFollowed subject next =>
      refine .inr ?_
      rcases noted with ⟨later, rfl, rfl⟩ | ⟨member, nonempty⟩
      · exact ⟨List.mem_cons_self, element, others, rfl⟩
      · exact ⟨List.mem_of_mem_tail member, nonempty⟩
  | _ => exact noted.elim

/-- An attempt that does nothing but look at the page. -/
def Attempt.LooksFor (host : Host σ) (attempt : Attempt Fault α) (Noted : Event → Prop)
    (Done : List CallRecord → α → Prop) (Misplaced : String → Prop) : Prop :=
  ∀ ⦃before journal after outcome⦄, Attempt.Runs host attempt before journal after outcome →
    (∀ entry ∈ journal, entry.Looks Noted) ∧ Looked Done Misplaced (calls journal) outcome

variable {host : Host σ} {Noted : Event → Prop} {Misplaced : String → Prop}

/-- Granted searches before a look belong to it. -/
theorem Looked.prepend {Rest Done : List CallRecord → β → Prop} {first rest : List CallRecord}
    {outcome : Except Fault β} (looked : Looked Rest Misplaced rest outcome)
    (before : ∀ record ∈ first, record.Granted)
    (joined : ∀ result, Rest rest result → Done (first ++ rest) result) :
    Looked Done Misplaced (first ++ rest) outcome := by
  have both {rest : List CallRecord} (more : ∀ record ∈ rest, record.Granted) :
      ∀ record ∈ first ++ rest, record.Granted := List.forall_mem_append.mpr ⟨before, more⟩
  cases looked with
  | done granted complete => exact .done (both granted) (joined _ complete)
  | refused ends granted refused =>
      exact .refused (by rw [ends, List.append_assoc]) (both granted) refused
  | misplaced granted misplaced => exact .misplaced (both granted) misplaced

theorem JournalEntry.Looks.mono {Wider : Event → Prop} {entry : JournalEntry}
    (looks : entry.Looks Noted) (implies : ∀ event, Noted event → Wider event) :
    entry.Looks Wider := by
  cases entry with
  | call started finished asked outcome =>
      cases asked with
      | find locator scope => trivial
      | _ => exact looks.elim
  | event time event => exact implies event looks
  | _ => exact looks.elim

namespace Attempt

theorem looksFor_pure {value : α} {Done : List CallRecord → α → Prop} (complete : Done [] value) :
    LooksFor host (pure value) Noted Done Misplaced := by
  intro before journal after outcome ran
  obtain ⟨rfl, rfl, rfl⟩ := runs_pure_iff.mp ran
  exact ⟨by simp, .done (by simp) complete⟩

/-- A look goes on with what an earlier look has found. -/
theorem looksFor_bind {attempt : Attempt Fault α} {next : α → Attempt Fault β}
    {First : List CallRecord → α → Prop} {Rest : α → List CallRecord → β → Prop}
    {Done : List CallRecord → β → Prop} (first : LooksFor host attempt Noted First Misplaced)
    (second : ∀ value, LooksFor host (next value) Noted (Rest value) Misplaced)
    (joined : ∀ first value rest result,
      First first value → Rest value rest result → Done (first ++ rest) result) :
    LooksFor host (attempt >>= next) Noted Done Misplaced := by
  intro before journal after outcome ran
  rcases runs_bind_iff.mp ran with ⟨fault, started, rfl⟩ | ⟨_, _, value, _, started, continued, rfl⟩
  · obtain ⟨looks, looked⟩ := first started
    refine ⟨looks, ?_⟩
    cases looked with
    | refused ends granted refused => exact .refused ends granted refused
    | misplaced granted misplaced => exact .misplaced granted misplaced
  · obtain ⟨looks, looked⟩ := first started
    obtain ⟨more, looked_more⟩ := second value continued
    refine ⟨List.forall_mem_append.mpr ⟨looks, more⟩, ?_⟩
    cases looked with
    | done granted complete =>
        rw [calls_append]
        exact looked_more.prepend granted fun result => joined _ value _ result complete

theorem looksFor_mono {attempt : Attempt Fault α} {First Done : List CallRecord → α → Prop}
    (looks : LooksFor host attempt Noted First Misplaced)
    (implies : ∀ searches value, First searches value → Done searches value) :
    LooksFor host attempt Noted Done Misplaced := by
  intro before journal after outcome ran
  obtain ⟨entries, looked⟩ := looks ran
  refine ⟨entries, ?_⟩
  cases looked with
  | done granted complete => exact .done granted (implies _ _ complete)
  | refused ends granted refused => exact .refused ends granted refused
  | misplaced granted misplaced => exact .misplaced granted misplaced

theorem looksFor_map {attempt : Attempt Fault α} {f : α → β} {First : List CallRecord → α → Prop}
    {Done : List CallRecord → β → Prop} (first : LooksFor host attempt Noted First Misplaced)
    (implies : ∀ searches value, First searches value → Done searches (f value)) :
    LooksFor host (attempt >>= fun value => pure (f value)) Noted Done Misplaced := by
  have second (value : α) : LooksFor host (pure (f value)) Noted
      (fun searches result => searches = [] ∧ result = f value) Misplaced :=
    looksFor_pure ⟨rfl, rfl⟩
  refine looksFor_bind first second ?_
  rintro searches value _ _ complete ⟨rfl, rfl⟩
  rw [List.append_nil]
  exact implies searches value complete

theorem looksFor_mono_misplaced {attempt : Attempt Fault α} {Done : List CallRecord → α → Prop}
    {Wider : String → Prop} (looks : LooksFor host attempt Noted Done Misplaced)
    (implies : ∀ name, Misplaced name → Wider name) : LooksFor host attempt Noted Done Wider := by
  intro before journal after outcome ran
  obtain ⟨entries, looked⟩ := looks ran
  refine ⟨entries, ?_⟩
  cases looked with
  | done granted complete => exact .done granted complete
  | refused ends granted refused => exact .refused ends granted refused
  | misplaced granted misplaced => exact .misplaced granted (implies _ misplaced)

theorem looksFor_note {event : Event} (noted : Noted event) :
    LooksFor host (liftM (Program.note event)) Noted (fun searches _ => searches = [])
      Misplaced := by
  intro before journal after outcome ran
  obtain ⟨value, noting, rfl⟩ := runs_lift_iff.mp ran
  obtain ⟨rfl, -, -⟩ := Program.runs_note noting
  exact ⟨by simpa [JournalEntry.Looks] using noted, .done (by simp) rfl⟩

theorem looksFor_mono_noted {attempt : Attempt Fault α} {Done : List CallRecord → α → Prop}
    {Wider : Event → Prop} (looks : LooksFor host attempt Noted Done Misplaced)
    (implies : ∀ event, Noted event → Wider event) :
    LooksFor host attempt Wider Done Misplaced := by
  intro before journal after outcome ran
  obtain ⟨entries, looked⟩ := looks ran
  exact ⟨fun entry member => (entries entry member).mono implies, looked⟩

/-- One search is granted or refused. -/
theorem looksFor_search (locator : Locator) (scope : Option ElementId) :
    LooksFor host (search locator scope) Noted
      (fun searches found => ∃ started finished,
        searches = [⟨started, finished, .find locator scope, .ok found⟩]) Misplaced := by
  intro before journal after outcome ran
  obtain ⟨answer, called, rfl⟩ := runs_request ran
  obtain ⟨rfl, -, -, -⟩ := Program.runs_call called
  refine ⟨by simp [JournalEntry.Looks], ?_⟩
  cases answer with
  | ok found => exact .done (by simp [CallRecord.Granted]) ⟨_, _, rfl⟩
  | error error => exact .refused (List.nil_append _).symm (by simp) rfl

end Attempt

namespace Lookup

open Attempt

theorem looksFor_collectBelow (locator : Locator) (scopes : List ElementId) :
    LooksFor host (collectBelow locator scopes) Noted
      (fun searches found => ∃ founds, SearchedBelow locator scopes searches founds ∧
        found = founds.flatten) Misplaced := by
  induction scopes with
  | nil => exact looksFor_pure ⟨[], .nil, rfl⟩
  | cons scope scopes ih =>
      have rest (found : List ElementId) : LooksFor host
          (collectBelow locator scopes >>= fun more => pure (found ++ more)) Noted
          (fun searches result => ∃ founds, SearchedBelow locator scopes searches founds ∧
            result = found ++ founds.flatten) Misplaced := by
        refine looksFor_map ih ?_
        rintro searches _ ⟨founds, searched, rfl⟩
        exact ⟨founds, searched, rfl⟩
      refine looksFor_bind (looksFor_search locator (some scope)) rest ?_
      rintro _ found searches _ ⟨started, finished, rfl⟩ ⟨founds, searched, rfl⟩
      exact ⟨found :: founds, .cons started finished searched, rfl⟩

theorem looksFor_firstBelow (locator : Locator) (scopes : List ElementId) :
    LooksFor host (firstBelow locator scopes) Noted (SearchedFirst locator scopes) Misplaced := by
  induction scopes with
  | nil => exact looksFor_pure .nil
  | cons scope scopes ih =>
      have rest (found : List ElementId) : LooksFor host
          (if found.isEmpty then firstBelow locator scopes else pure found) Noted
          (fun searches result => if found.isEmpty then SearchedFirst locator scopes searches result
            else searches = [] ∧ result = found) Misplaced := by
        split
        · exact ih
        · exact looksFor_pure ⟨rfl, rfl⟩
      refine looksFor_bind (looksFor_search locator (some scope)) rest ?_
      rintro _ found searches result ⟨started, finished, rfl⟩ continued
      split at continued
      next empty =>
        rw [List.isEmpty_iff] at empty
        subst empty
        exact .later started finished continued
      next matched =>
        obtain ⟨rfl, rfl⟩ := continued
        exact .here started finished (by simpa using matched)

theorem looksFor_collectParents (listed scopes : List ElementId) :
    LooksFor host (collectParents listed scopes) Noted
      (fun searches found => ∃ founds, SearchedBelow .parent scopes searches founds ∧
        found = founds.flatten.foldl addNew listed) Misplaced := by
  induction scopes generalizing listed with
  | nil => exact looksFor_pure ⟨[], .nil, rfl⟩
  | cons scope scopes ih =>
      refine looksFor_bind (looksFor_search .parent (some scope))
        (fun parents => ih (parents.foldl addNew listed)) ?_
      rintro _ parents searches _ ⟨started, finished, rfl⟩ ⟨founds, searched, rfl⟩
      refine ⟨parents :: founds, .cons started finished searched, ?_⟩
      rw [List.flatten_cons, List.foldl_append]

/-- A link is followed by its searches; only a name cannot be followed. -/
theorem looksFor_follow (subject : Option (List ElementId)) (link : Link) :
    LooksFor host (follow subject link) Noted (link.Leads subject)
      (fun name => link = .stored name) := by
  cases link with
  | get selector =>
      refine looksFor_mono (looksFor_search (.css selector) none) ?_
      rintro _ found ⟨started, finished, rfl⟩
      exact .get started finished
  | find selector =>
      refine looksFor_mono (looksFor_collectBelow (.css selector) (subject.getD [])) ?_
      rintro searches _ ⟨founds, searched, rfl⟩
      exact .find searched
  | contains text =>
      cases subject with
      | none =>
          refine looksFor_map (looksFor_search (.containsText text) none) ?_
          rintro _ found ⟨started, finished, rfl⟩
          exact .containsAnywhere started finished
      | some scopes =>
          exact looksFor_map (looksFor_firstBelow (.containsText text) scopes)
            fun searches found searched => .containsBelow searched
  | parent =>
      refine looksFor_mono (looksFor_collectParents [] (subject.getD [])) ?_
      rintro searches _ ⟨founds, searched, rfl⟩
      exact .parent searched
  | stored name =>
      intro before journal after outcome ran
      obtain ⟨rfl, rfl, rfl⟩ := runs_throw_iff.mp ran
      exact ⟨by simp, .misplaced (by simp) rfl⟩

/-- Every link is followed until one of them leads to nothing. -/
theorem looksFor_followAll (position : Nat) (subject : Option (List ElementId)) (chain : Chain) :
    LooksFor host (followAll position subject chain) (chain.NotedFrom subject)
      (Chain.Evaluated position subject chain) (fun name => .stored name ∈ chain) := by
  induction chain generalizing position subject with
  | nil => exact looksFor_pure .found
  | cons link rest ih =>
      have followed : LooksFor host (follow subject link) (Chain.NotedFrom subject (link :: rest))
          (link.Leads subject) (fun name => .stored name ∈ link :: rest) :=
        looksFor_mono_misplaced (looksFor_follow subject link) fun name same =>
          same ▸ List.mem_cons_self
      have continued (elements : List ElementId) : LooksFor host
          (if elements.isEmpty then pure (.missing position link)
            else followAll (position + 1) (some elements) rest)
          (Chain.NotedFrom subject (link :: rest))
          (fun searches lookup =>
            if elements.isEmpty then searches = [] ∧ lookup = .missing position link
            else Chain.Evaluated (position + 1) (some elements) rest searches lookup)
          (fun name => .stored name ∈ link :: rest) := by
        cases elements with
        | nil => exact looksFor_pure ⟨rfl, rfl⟩
        | cons element others =>
            refine looksFor_mono_noted (looksFor_mono_misplaced
              (ih (position + 1) (some (element :: others)))
              fun name member => List.mem_cons_of_mem link member) ?_
            exact fun event => Chain.notedFrom_cons
      have both : LooksFor host (follow subject link >>= fun elements =>
          if elements.isEmpty then pure (.missing position link)
            else followAll (position + 1) (some elements) rest)
          (Chain.NotedFrom subject (link :: rest))
          (Chain.Evaluated position subject (link :: rest))
          (fun name => .stored name ∈ link :: rest) := by
        refine looksFor_bind followed continued ?_
        intro searches elements later lookup led evaluated
        split at evaluated
        next empty =>
          obtain ⟨rfl, rfl⟩ := evaluated
          rw [List.isEmpty_iff] at empty
          subst empty
          rw [List.append_nil]
          exact .missing led
        next nonempty => exact .matched led (by simpa using nonempty) evaluated
      have visited : Chain.NotedFrom subject (link :: rest) (.linkFollowed subject link) :=
        .inl ⟨rest, rfl, rfl⟩
      refine looksFor_bind (looksFor_note visited) (fun _ => both) ?_
      rintro _ _ searches lookup rfl evaluated
      exact evaluated

/-- A lookup looks and does nothing else. -/
theorem looksFor_evaluate (chain : Chain) :
    LooksFor host (evaluate chain) chain.Noted (Chain.Evaluated 0 none chain)
      (fun name => .stored name ∈ chain) := by
  have began : chain.Noted (.lookupBegan chain) := rfl
  refine looksFor_bind (looksFor_note began)
    (fun _ => looksFor_mono_noted (looksFor_followAll 0 none chain) ?_) ?_
  · intro event noted
    cases event with
    | linkFollowed subject link => exact noted
    | _ => exact noted.elim
  · rintro _ _ searches lookup rfl evaluated
    exact evaluated

end Lookup

end ScenarioRunner
