import ScenarioRunner.Browser.Call
import ScenarioRunner.Files
import ScenarioRunner.Json.Basic
import ScenarioRunner.Scenario.Basic
import ScenarioRunner.Text.Styled

/-!
Runs as programs. A program says what it asks of the world around it and how it goes on with each
answer; it is a value, and what it does is decided by who interprets it.
-/

namespace ScenarioRunner

/-- A browser session is asked for at the address of a server. -/
structure SessionRequest where
  serverUrl : String
  capabilities : Json
  requestSeconds : Nat
deriving Repr

/-- Stored chains by name, the latest first. A stored chain holds no names itself. -/
abbrev StoredChains := List (String × Chain)

/-- Points of a run that are kept in its journal, with what is at hand there. -/
inductive Event where
  | stepBegan (number : Nat) (step : Step) (stored : StoredChains)
  | interactionBegan (interaction : Interaction)
  | lookupBegan (chain : Chain)
  | linkFollowed (subject : Option (List ElementId)) (link : Link)
  | typingBegan (text : String)
deriving DecidableEq, Repr

/-- What a program can ask for. Times and durations are in milliseconds. -/
inductive Effect where
  | call (call : Call)
  | openSession (request : SessionRequest)
  | clock
  | pause (duration : Nat)
  | note (event : Event)
  | print (text : Text.Styled)
  | fileExists (path : Path)
  | readFile (path : Path)
  | writeFile (path : Path) (content : ByteArray)
  | createDirectory (path : Path)

/-- The answer that an effect brings. -/
abbrev Effect.Answer : Effect → Type
  | .call asked => asked.Outcome
  | .openSession _ => Except Error Unit
  | .clock => Nat
  | .pause _ => Unit
  | .note _ => Unit
  | .print _ => Unit
  | .fileExists _ => Bool
  | .readFile _ => Except FileError ByteArray
  | .writeFile _ _ => Except FileError Unit
  | .createDirectory _ => Except FileError Unit

/-- A program is done, or asks for one effect and goes on with its answer. -/
inductive Program (α : Type) : Type where
  | done (value : α)
  | perform (effect : Effect) (next : effect.Answer → Program α)

namespace Program

variable {α β γ : Type}

/-- The second program goes on with the value of the first. -/
def bind : Program α → (α → Program β) → Program β
  | .done value, next => next value
  | .perform effect rest, next => .perform effect fun answer => (rest answer).bind next

instance : Monad Program where
  pure := .done
  bind := bind

theorem bind_done (program : Program α) : program.bind .done = program := by
  induction program with
  | done value => rfl
  | perform effect rest ih => simp [bind, ih]

theorem bind_assoc (program : Program α) (f : α → Program β) (g : β → Program γ) :
    (program.bind f).bind g = program.bind fun value => (f value).bind g := by
  induction program with
  | done value => rfl
  | perform effect rest ih => simp [bind, ih]

instance : LawfulMonad Program :=
  LawfulMonad.mk' Program bind_done (fun _ _ => rfl) bind_assoc

/-- One effect as a program. -/
def ask (effect : Effect) : Program effect.Answer := .perform effect .done

def call (call : Call) : Program call.Outcome := ask (.call call)

def openSession (request : SessionRequest) : Program (Except Error Unit) :=
  ask (.openSession request)

def clock : Program Nat := ask .clock

def pause (duration : Nat) : Program Unit := ask (.pause duration)

def note (event : Event) : Program Unit := ask (.note event)

def print (text : Text.Styled) : Program Unit := ask (.print text)

def fileExists (path : Path) : Program Bool := ask (.fileExists path)

def readFile (path : Path) : Program (Except FileError ByteArray) := ask (.readFile path)

def writeFile (path : Path) (content : ByteArray) : Program (Except FileError Unit) :=
  ask (.writeFile path content)

def createDirectory (path : Path) : Program (Except FileError Unit) :=
  ask (.createDirectory path)

/-- Text is printed only when it is wanted. -/
def printIf (wanted : Bool) (text : Text.Styled) : Program Unit :=
  if wanted then print text else .done ()

end Program

end ScenarioRunner
