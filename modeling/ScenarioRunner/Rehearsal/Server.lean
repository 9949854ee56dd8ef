import ScenarioRunner.WebDriver.Client

/-!
A WebDriver server that follows a script, for rehearsing sessions without a browser.
-/

namespace ScenarioRunner.Rehearsal

open WebDriver

/-- A scripted answer; a lost one closes the connection without a word. -/
inductive ServerReply where
  | answered (response : Response)
  | lost

/-- The replies to a request in the order of their use. -/
abbrev ServerScript := List (String × List ServerReply)

/-- What is known of a request that was received. -/
structure ReceivedRequest where
  method : String
  path : String
  body : Option Json

/-- A server remembers the requests, the latest first, and how often its replies were used. -/
structure ScriptedServer where
  received : List ReceivedRequest := []
  uses : List (String × Nat) := []

namespace ScriptedServer

/-- The path of an address below the root of the server. -/
def pathBelow (root url : String) : String :=
  if Text.beginsWith url root then String.ofList (url.toList.drop root.length) else url

/-- The first text among the value, the text and the address of a request. -/
def mainText (body : Option Json) : String :=
  let body := body.getD .null
  (["value", "text", "url"].findSome? fun name => (body.get? name).bind Json.text?).getD ""

/-- A payload as the body of an answer. -/
def envelopeText (payload : Json) : String := (Json.object [("value", payload)]).render

/-- The answer to a request that no list of the script is for. -/
def unscripted (method path : String) : Response :=
  if method == "POST" && path == "/session" then
    ⟨200, envelopeText (.object [("sessionId", .text "s1"), ("capabilities", .object [])])⟩
  else if method == "DELETE" then ⟨200, envelopeText .null⟩
  else
    ⟨404, envelopeText (.object [
      ("error", .text "unknown command"), ("message", .text (method ++ " " ++ path))])⟩

/-- The replies for a request with its main text, or else without it. -/
def replies? (script : ServerScript) (method path mainText : String) :
    Option (String × List ServerReply) :=
  let given (key : String) := script.find? fun entry => entry.1 == key && !entry.2.isEmpty
  (given (method ++ " " ++ path ++ " " ++ mainText)).or (given (method ++ " " ++ path))

/-- A request is answered from the script; the last reply of a list is used again and again. -/
def respond (root : String) (script : ServerScript) : Server (StateM ScriptedServer) :=
  fun request server =>
    let method := request.method.name
    let path := pathBelow root request.url
    let received := ⟨method, path, request.body⟩ :: server.received
    match replies? script method path (mainText request.body) with
    | none => (.ok (unscripted method path), { server with received })
    | some (key, replies) =>
      let used := (server.uses.lookup key).getD 0
      let uses := (key, used + 1) :: server.uses.filter (·.1 != key)
      match (replies[used]?).or replies.getLast? with
      | some (.answered response) => (.ok response, { received, uses })
      | _ => (.error "connection closed", { received, uses })

end ScriptedServer

/-- A server that no request reaches. -/
def unreachableServer {m : Type → Type} [Monad m] : Server m :=
  fun _ => return .error "connection refused"

end ScenarioRunner.Rehearsal
