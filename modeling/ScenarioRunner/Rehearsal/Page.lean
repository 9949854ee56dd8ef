import ScenarioRunner.Run.World

/-!
A page that follows a script, for rehearsing scenarios without a browser. The script lists, for
each state of the page, the reactions to every call.
-/

namespace ScenarioRunner.Rehearsal

/-- A reaction may take time, change the state and the address, and refuse the call. -/
structure Reaction where
  wait : Nat := 0
  nextState : Option String := none
  nextUrl : Option String := none
  refusal : Option Error := none
  elements : List String := []
  image : ByteArray := .empty

/-- The reactions to a call in a state, in the order of their use. -/
structure Cue where
  state : String
  call : String
  reactions : List Reaction

abbrev Script := List Cue

/-- How often the reactions of a state to a call were used. -/
abbrev Uses := List ((String × String) × Nat)

/-- A scripted page stands in a state and at an address. -/
structure Page where
  state : String := "*"
  url : String := "about:blank"
  uses : Uses := []

/-- The words by which a script knows a search. -/
def searchWords (locator : Locator) (scope : Option ElementId) : String :=
  let words := match locator with
    | .css selector => s!"css {selector}"
    | .containsText text => s!"text {text}"
    | .parent => "parent"
  match scope with
  | some element => s!"{words} in {element.name}"
  | none => words

/-- The words by which a script knows a call. -/
def callWords : Call → String
  | .navigate url => s!"navigate {url}"
  | .currentUrl => "url"
  | .find locator scope => searchWords locator scope
  | .click element => s!"click {element.name}"
  | .sendKeys element keys => s!"keys {element.name} {keys}"
  | .clear element => s!"clear {element.name}"
  | .reveal element => s!"show {element.name}"
  | .screenshot => "screenshot"
  | .close => "close"

/-- The state whose cues hold in every state that has none of its own. -/
def anyState : String := "*"

/-- The cue for a call: one of the state at hand, or else one of every state. -/
def Script.cue? (script : Script) (state call : String) : Option Cue :=
  let given (wanted : String) := script.find? fun cue =>
    cue.state == wanted && cue.call == call && !cue.reactions.isEmpty
  (given state).or (given anyState)

namespace Page

/-- The next reaction to a call; the last one is used again and again. -/
def react (script : Script) (page : Page) (call : String) : Reaction × Page :=
  match script.cue? page.state call with
  | none => ({}, page)
  | some cue =>
    let key := (cue.state, cue.call)
    let used := (page.uses.lookup key).getD 0
    let reaction := (cue.reactions[used]?).or cue.reactions.getLast?
    let uses := (key, used + 1) :: page.uses.filter (·.1 != key)
    (reaction.getD {}, { page with uses })

/-- The page after a reaction. -/
def moved (page : Page) (reaction : Reaction) : Page :=
  { page with
    state := reaction.nextState.getD page.state
    url := reaction.nextUrl.getD page.url }

/-- The page after a granted call: a visited address becomes its own unless the reaction named one. -/
def visited (page : Page) (reaction : Reaction) : Call → Page
  | .navigate url => if reaction.nextUrl.isNone then { page with url } else page
  | _ => page

/-- What a granted call brings back. -/
def answer (page : Page) (reaction : Reaction) : (call : Call) → call.Answer
  | .navigate _ => ()
  | .currentUrl => page.url
  | .find _ _ => reaction.elements.map ElementId.mk
  | .click _ => ()
  | .sendKeys _ _ => ()
  | .clear _ => ()
  | .reveal _ => ()
  | .screenshot => reaction.image
  | .close => ()

/-- A call is answered from the script; the state and the address change also when it is refused. -/
def respond (script : Script) (page : Page) (call : Call) : Reply Page call.Outcome :=
  let (reaction, page) := page.react script (callWords call)
  let page := page.moved reaction
  match reaction.refusal with
  | some error => ⟨.error error, reaction.wait, page⟩
  | none => ⟨.ok (page.answer reaction call), reaction.wait, page.visited reaction call⟩

/-- A scripted page as a host. -/
def host (script : Script) : Host Page where
  openSession _ _ page := ⟨.ok (), 0, page⟩
  call call _ page := page.respond script call

end Page

end ScenarioRunner.Rehearsal
