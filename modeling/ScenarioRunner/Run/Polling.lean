import ScenarioRunner.Run.Lookup
import ScenarioRunner.Text.Search

/-!
Waiting for a condition of the page. The page is looked at until the condition holds or a look ends
at or after the deadline; between two looks passes one interval.
-/

namespace ScenarioRunner

/-- A look settles what is waited for, or gives the fault to report if no look follows. -/
inductive Look (α : Type) where
  | settled (value : α)
  | unsettled (fault : Fault)

/-- What a glance shows when the chain has to lead to an element. -/
def Look.presence (timeout : Nat) (chain : Chain) :
    Except Error Lookup → Look (List ElementId)
  | .ok (.found elements) => .settled elements
  | .ok (.missing _ link) => .unsettled (.notFound timeout chain (.noMatch link))
  | .error error => .unsettled (.notFound timeout chain (.lookupFailed error))

/-- What a glance shows when the chain has to lead to nothing. -/
def Look.absence (timeout : Nat) (chain : Chain) : Except Error Lookup → Look Unit
  | .ok (.missing _ _) => .settled ()
  | .ok (.found elements) => .unsettled (.notGone timeout chain (.matched elements.length))
  | .error error => .unsettled (.notGone timeout chain (.lookupFailed error))

/-- The clock shows the milliseconds of 2^63 seconds. -/
def clockEnd : Nat := Nat.pow 2 63 * 1000

/-- A window closes at a moment that the clock can show. To a window that is over as it opens nothing
is added. -/
def Fits (opened timeout : Nat) : Prop := timeout = 0 ∨ opened + timeout < clockEnd

instance (opened timeout : Nat) : Decidable (Fits opened timeout) :=
  inferInstanceAs (Decidable (_ ∨ _))

namespace Attempt

variable {α : Type}

/-- How many looks may follow the first. An interval takes a millisecond at least, so that as many
looks as the window has milliseconds outlast the deadline. Without an interval time may stand still,
and the bound is a number that no run reaches. -/
def patience (interval timeout : Nat) : Nat := if interval = 0 then Nat.pow 2 64 else timeout

/-- A look that settles nothing is the last at the deadline. Before it something else follows. -/
def lookUntil (deadline : Nat) (look : Attempt (Stop Fault) (Look α))
    (otherwise : Attempt (Stop Fault) α) : Attempt (Stop Fault) α := do
  match ← look with
  | .settled value => return value
  | .unsettled fault =>
    if deadline ≤ (← Program.clock) then throw (.failed fault)
    otherwise

/-- A wait that takes no time ends with the patience. -/
def pollUntil (interval deadline : Nat) (look : Attempt (Stop Fault) (Look α)) :
    Nat → Attempt (Stop Fault) α
  | 0 => lookUntil deadline look (throw (.broken .unending))
  | patience + 1 => lookUntil deadline look do
    Program.pause interval
    pollUntil interval deadline look patience

/-- The window starts when the polling starts, and every look knows its deadline. -/
def poll (interval timeout : Nat) (look : Nat → Attempt (Stop Fault) (Look α)) :
    Attempt (Stop Fault) α := do
  let start ← Program.clock
  if Fits start timeout then
    pollUntil interval (start + timeout) (look (start + timeout)) (patience interval timeout)
  else throw (.broken (.beyondClock start timeout))

/-- A lookup, or the passing refusal that kept it from its end. -/
def glance (chain : Chain) : Attempt Fault (Except Error Lookup) := do
  match ← (Lookup.evaluate chain).outcome with
  | .ok lookup => return .ok lookup
  | .error (.refused error) =>
    if error.isTransient then return .error error else throw (.refused error)
  | .error fault => throw fault

/-- The chain has to lead to an element. -/
def lookForPresence (timeout : Nat) (chain : Chain) : Attempt Fault (Look (List ElementId)) :=
  Look.presence timeout chain <$> glance chain

/-- The chain has to lead to nothing. -/
def lookForAbsence (timeout : Nat) (chain : Chain) : Attempt Fault (Look Unit) :=
  Look.absence timeout chain <$> glance chain

/-- The address has to contain the fragment. -/
def lookAtUrl (timeout : Nat) (fragment : String) : Attempt Fault (Look Unit) := do
  let url : String ← request .currentUrl
  if Text.contains url fragment then return .settled ()
  else return .unsettled (.otherUrl timeout fragment url)

/-- The elements that a chain leads to within the timeout. -/
def resolve (interval timeout : Nat) (chain : Chain) : Attempt (Stop Fault) (List ElementId) :=
  poll interval timeout fun _ => (lookForPresence timeout chain).failing

def waitAbsent (interval timeout : Nat) (chain : Chain) : Attempt (Stop Fault) Unit :=
  poll interval timeout fun _ => (lookForAbsence timeout chain).failing

def waitUrl (interval timeout : Nat) (fragment : String) : Attempt (Stop Fault) Unit :=
  poll interval timeout fun _ => (lookAtUrl timeout fragment).failing

end Attempt

end ScenarioRunner
