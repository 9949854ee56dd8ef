import ScenarioRunner.Content
import ScenarioRunner.Json.Reader
import ScenarioRunner.Json.Writer
import ScenarioRunner.Run.Program
import ScenarioRunner.Settings

/-!
The messages of the WebDriver protocol: what is asked of a server and how its answers are shaped.
-/

namespace ScenarioRunner.WebDriver

/-- The key under which a reference to an element keeps its name. -/
def elementKey : String := "element-6066-11e4-a52f-4ca9b5856ada"

/-- The element that a value refers to. -/
def elementOf? (value : Json) : Option ElementId :=
  ((value.get? elementKey).bind Json.text?).map ElementId.mk

/-- A reference to an element. -/
def elementReference (element : ElementId) : Json := .object [(elementKey, .text element.name)]

/-- Only the value of a message is read. Another member is passed over, with null in its place. -/
def readMember (name : String) (fuel : Nat) (input : List Char) : Option (Json × List Char) :=
  if name == "value" then Json.readValue fuel (Json.depthLimit - 1) input
  else (Json.skipValue fuel input).map fun rest => (.null, rest)

/-- The members of a message up to its closing brace. -/
def readMembers : Nat → List Char → Option (List (String × Json) × List Char)
  | 0, _ => none
  | fuel + 1, input =>
    match Json.skipSpace input with
    | '"' :: rest =>
      match Json.readString (rest.length + 1) [] rest with
      | none => none
      | some (name, rest) =>
        match Json.skipSpace rest with
        | ':' :: rest =>
          match readMember name fuel rest with
          | none => none
          | some (value, rest) =>
            match Json.skipSpace rest with
            | ',' :: rest =>
              (readMembers fuel rest).map fun (members, rest) => ((name, value) :: members, rest)
            | '}' :: rest => some ([(name, value)], rest)
            | _ => none
        | _ => none
    | _ => none

/-- A message is an object, or an array of what the object would hold. -/
def readMessage (fuel : Nat) (input : List Char) : Option (Json × List Char) :=
  match Json.skipSpace input with
  | '{' :: rest =>
    match Json.skipSpace rest with
    | '}' :: rest => some (.object [], rest)
    | rest => (readMembers fuel rest).map fun (members, rest) => (.object members, rest)
  | '[' :: rest =>
    match Json.skipSpace rest with
    | ']' :: rest => some (.array [], rest)
    | rest => (Json.readItems fuel (Json.depthLimit - 1) rest).map fun (items, rest) =>
        (.array items, rest)
  | _ => none

/-- The message that the whole text spells. -/
def message? (text : String) : Option Json :=
  let input := text.toList
  match readMessage (2 * input.length + 1) input with
  | some (message, rest) => if (Json.skipSpace rest).isEmpty then some message else none
  | none => none

/-- Every answer wraps its payload, which is null when it is left out and may not be given twice. An
answer may also be a list of its payload alone. -/
def envelope : Json → Decoded Json
  | .object members =>
    match members.filter (·.1 == "value") with
    | [] => .ok .null
    | [(_, payload)] => .ok payload
    | _ => .error (.duplicateField "value")
  | .array [] => .ok .null
  | .array [payload] => .ok payload
  | _ => .error .malformed

def decodeText : Json → Decoded String
  | .text value => .ok value
  | _ => .error .malformed

/-- A field of a payload. A payload is whole by the time it is read, so that of two members with one
name the later counts. -/
def fieldOf? {α : Type} (name : String) (decode : Json → Decoded α) (payload : Json) :
    Decoded (Option α) :=
  match payload.get? name with
  | none => .ok none
  | some value => some <$> decode value

def required {α : Type} (name : String) (value : Option α) : Decoded α :=
  match value with
  | some value => .ok value
  | none => .error (.missingField name)

/-- The two fields of a payload, the second of which may be left out. A payload may also be a list
of them in their order. -/
def pairOf {α : Type} (first second : String) (decode : Json → Decoded α) (default : α)
    (payload : Json) : Decoded (String × α) := do
  match payload with
  | .object _ =>
    let name ← fieldOf? first decodeText payload
    let detail ← fieldOf? second decode payload
    return (← required first name, detail.getD default)
  | .array [name] => return (← decodeText name, default)
  | .array [name, detail] => return (← decodeText name, ← decode detail)
  | _ => throw .malformed

/-- The code and the message of a refusal. -/
def refusal (payload : Json) : Decoded (String × String) :=
  pairOf "error" "message" decodeText "" payload

/-- The name of a new session and what was agreed on for it. -/
def newSession (payload : Json) : Decoded (String × Json) :=
  pairOf "sessionId" "capabilities" Except.ok .null payload

/-- The options that only one browser understands. -/
def browserOptions (settings : WebDriverSettings) : String × List String :=
  let width := toString settings.windowWidth
  let height := toString settings.windowHeight
  match settings.browser with
  | .chrome =>
    ("goog:chromeOptions", ["--window-size=" ++ width ++ "," ++ height] ++
      if settings.headless then ["--headless=new", "--disable-gpu"] else [])
  | .firefox =>
    ("moz:firefoxOptions", ["--width=" ++ width, "--height=" ++ height] ++
      if settings.headless then ["-headless"] else [])

/-- What a new session is asked to be. -/
def sessionBody (settings : WebDriverSettings) (pageLoad : UInt64) : Json :=
  let (optionsKey, arguments) := browserOptions settings
  .object [("capabilities", .object [("alwaysMatch", .object [
    ("browserName", .text settings.browser.name),
    ("timeouts", .object [("pageLoad", .nat pageLoad.toNat)]),
    (optionsKey, .object [("args", .array (arguments.map .text))])])])]

/-- The request for a session that the settings describe. -/
def sessionRequest (settings : Settings) : SessionRequest where
  serverUrl := settings.webDriver.url
  capabilities := sessionBody settings.webDriver settings.timeouts.pageLoad
  requestSeconds := settings.timeouts.requestSeconds.toNat

end ScenarioRunner.WebDriver
