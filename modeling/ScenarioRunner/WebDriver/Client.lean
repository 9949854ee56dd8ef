import ScenarioRunner.Run.World
import ScenarioRunner.Text.Shorten
import ScenarioRunner.WebDriver.Base64
import ScenarioRunner.WebDriver.Messages
import ScenarioRunner.WebDriver.Status

/-!
A browser session behind a WebDriver server. Every call is at most one request, and the answer to
the request decides the outcome of the call.
-/

namespace ScenarioRunner.WebDriver

inductive Method where
  | get
  | post
  | delete
deriving DecidableEq, Repr

def Method.name : Method → String
  | .get => "GET"
  | .post => "POST"
  | .delete => "DELETE"

structure Request where
  method : Method
  url : String
  body : Option Json

structure Response where
  status : Nat
  body : String
deriving DecidableEq, Repr

/-- A request is answered, or lost for a reason of the network. -/
abbrev Delivery := Except String Response

/-- A server takes a request and sees to its delivery, in the world or in a model of one. -/
abbrev Server (m : Type → Type) := Request → m Delivery

/-- A session at a server. It is marked closed as soon as its end has been asked for. -/
structure Client where
  base : String
  session : String
  closed : Bool
deriving DecidableEq, Repr

mutual

/-- Members sorted by name, the later of two with one name kept. -/
def canonical : Json → Json
  | .array items => .array (canonicalItems items)
  | .object members => .object (canonicalMembers members)
  | value => value

def canonicalItems : List Json → List Json
  | [] => []
  | item :: rest => canonical item :: canonicalItems rest

def canonicalMembers : List (String × Json) → List (String × Json)
  | [] => []
  | (name, value) :: rest =>
    let sorted := canonicalMembers rest
    if sorted.any (·.1 == name) then sorted
    else
      let smaller := sorted.filter (·.1 < name)
      let larger := sorted.filter (name < ·.1)
      smaller ++ (name, canonical value) :: larger

end

/-- A value in the text of an error. -/
def describe (value : Json) : String := (canonical value).render

/-- The answer must be an envelope. The payload of a granted request is its value; that of a refused
one should tell the refusal. -/
def readPayload (response : Response) : Except Error Json :=
  let decoded := match message? response.body with
    | some message => (envelope message).toOption
    | none => none
  match decoded with
  | none =>
    .error (.protocol
      s!"Non-JSON response (HTTP {statusText response.status}): {Text.shorten response.body 200}")
  | some payload =>
    if isSuccess response.status then .ok payload
    else
      match refusal payload with
      | .ok (code, message) => .error (.webDriver code message)
      | .error _ =>
        .error (.protocol s!"HTTP {statusText response.status} without error payload")

namespace Client

/-- A request below the address of the session. -/
def request (client : Client) (method : Method) (path : String) (body : Option Json) : Request :=
  ⟨method, client.base ++ "/session/" ++ client.session ++ path, body⟩

/-- The script that shows an element which is hidden until the pointer is over it. -/
def revealScript : String :=
  "const el = arguments[0];" ++
    "if (getComputedStyle(el).display === 'none') \x7b el.style.display = 'block'; \x7d" ++
    "el.style.visibility = 'visible';"

def scriptRequest (client : Client) (script : String) (arguments : List Json) : Request :=
  client.request .post "/execute/sync"
    (some (.object [("script", .text script), ("args", .array arguments)]))

/-- The address of an element below the session. -/
def elementPath (element : ElementId) (action : String) : String :=
  "/element/" ++ element.name ++ "/" ++ action

/-- The request that a call makes. A request that has nothing to say still sends an object. -/
def requestFor (client : Client) : Call → Request
  | .navigate url => client.request .post "/url" (some (.object [("url", .text url)]))
  | .currentUrl => client.request .get "/url" none
  | .find locator scope =>
    let path := match scope with
      | some element => elementPath element "elements"
      | none => "/elements"
    client.request .post path
      (some (.object [("using", .text locator.strategy), ("value", .text locator.expression)]))
  | .click element => client.request .post (elementPath element "click") (some (.object []))
  | .sendKeys element keys =>
    client.request .post (elementPath element "value") (some (.object [("text", .text keys)]))
  | .clear element => client.request .post (elementPath element "clear") (some (.object []))
  | .reveal element => client.scriptRequest revealScript [elementReference element]
  | .screenshot => client.request .get "/screenshot" none
  | .close => client.request .delete "" none

/-- The elements that a list refers to. -/
def readElements (payload : Json) : Except Error (List ElementId) :=
  match payload with
  | .array items =>
    items.mapM fun item =>
      match elementOf? item with
      | some element => .ok element
      | none => .error (.protocol s!"Malformed element reference: {describe item}")
  | other => .error (.protocol s!"Expected element list, got {describe other}")

/-- Some servers refuse a search without matches in place of an empty list. -/
def noSuchElement : String := "no such element"

/-- The outcome of a call, given the answer to its request. A session that is gone counts as ended. -/
def readOutcome (response : Response) : (call : Call) → call.Outcome
  | .navigate _ => (fun _ => ()) <$> readPayload response
  | .currentUrl => do
    match ← readPayload response with
    | .text url => return url
    | other => throw (.protocol s!"Expected URL string, got {describe other}")
  | .find _ _ =>
    match readPayload response with
    | .ok payload => readElements payload
    | .error (.webDriver code message) =>
      if code = noSuchElement then .ok [] else .error (.webDriver code message)
    | .error error => .error error
  | .click _ => (fun _ => ()) <$> readPayload response
  | .sendKeys _ _ => (fun _ => ()) <$> readPayload response
  | .clear _ => (fun _ => ()) <$> readPayload response
  | .reveal _ => (fun _ => ()) <$> readPayload response
  | .screenshot => do
    match ← readPayload response with
    | .text encoded =>
      match Base64.decode? encoded with
      | some image => return image
      | none => throw (.protocol "Invalid screenshot data: ")
    | _ => throw (.protocol "Screenshot response is not a string")
  | .close => if response.status = 404 then .ok () else (fun _ => ()) <$> readPayload response

/-- The outcome of a call, given what became of its request. -/
def readDelivery (call : Call) : Delivery → call.Outcome
  | .ok response => readOutcome response call
  | .error reason => .error (.http reason)

variable {m : Type → Type} [Monad m]

/-- A call against a server. A session whose end has been asked for is not ended again. -/
def perform (server : Server m) (client : Client) (call : Call) : m (call.Outcome × Client) :=
  match call with
  | .close => do
    if client.closed then return (.ok (), client)
    else
      let delivery ← server (client.requestFor .close)
      return (readDelivery .close delivery, { client with closed := true })
  | call => do
    let delivery ← server (client.requestFor call)
    return (readDelivery call delivery, client)

/-- A script run in the page. -/
def execute (server : Server m) (client : Client) (script : String) (arguments : List Json) :
    m (Except Error Json) := do
  match ← server (client.scriptRequest script arguments) with
  | .ok response => return readPayload response
  | .error reason => return .error (.http reason)

end Client

/-- The address of a server without slashes at its end. -/
def serverBase (request : SessionRequest) : String := dropTrailingSlashes request.serverUrl

/-- The request that starts a session. -/
def startRequest (request : SessionRequest) : Request :=
  ⟨.post, serverBase request ++ "/session", some request.capabilities⟩

/-- A session that the answer to its request starts. -/
def startedSession (base : String) : Delivery → Except Error Client
  | .error reason => .error (.browserUnreachable base reason)
  | .ok response => do
    let payload ← readPayload response
    match newSession payload with
    | .ok (session, _) => return ⟨base, session, false⟩
    | .error reason =>
      throw (.protocol s!"Invalid new session response: {reason.message}")

/-- A new session at a server. -/
def connect {m : Type → Type} [Monad m] (server : Server m) (request : SessionRequest) :
    m (Except Error Client) := do
  return startedSession (serverBase request) (← server (startRequest request))

/-- The session at hand, if there is one, and the server. -/
structure Connection (σ : Type) where
  client : Option Client
  server : σ

/-- A call where no session has been started. -/
def withoutSession (call : Call) : call.Outcome := .error (.protocol "no session")

/-- Sessions at a server as a host; the server answers at once. -/
def host {σ : Type} (server : Server (StateM σ)) : Host (Connection σ) where
  openSession request _ connection :=
    match (connect server request).run connection.server with
    | (.ok client, state) => ⟨.ok (), 0, ⟨some client, state⟩⟩
    | (.error error, state) => ⟨.error error, 0, ⟨none, state⟩⟩
  call call _ connection :=
    match connection.client with
    | none => ⟨withoutSession call, 0, connection⟩
    | some client =>
      let ((outcome, client), state) := (client.perform server call).run connection.server
      ⟨outcome, 0, ⟨some client, state⟩⟩

end ScenarioRunner.WebDriver
