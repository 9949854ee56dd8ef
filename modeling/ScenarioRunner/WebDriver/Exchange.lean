import ScenarioRunner.WebDriver.Client

/-!
Requests and responses as bytes. Every exchange has a connection of its own, which the server may
close behind its response.
-/

namespace ScenarioRunner.WebDriver

/-- The host and the number of its service that a server listens at, and the path of what is asked
of it. -/
structure Endpoint where
  hostName : String
  service : Nat
  path : String
deriving DecidableEq, Repr

/-- The service of addresses that name none. -/
def defaultService : Nat := 80

/-- A service is a number below 2 ^ 16. -/
def readService (digits : List Char) : Option Nat :=
  if digits.isEmpty || !digits.all Char.isDigit then none
  else
    let service := digits.foldl (fun number digit => number * 10 + (digit.toNat - 48)) 0
    if service < Nat.pow 2 16 then some service else none

/-- An address without encryption: a host, perhaps its service, and a path. -/
def Endpoint.ofUrl? (url : String) : Option Endpoint :=
  let scheme := "http://"
  if Text.beginsWith url scheme then do
    let written := url.toList.drop scheme.length
    let authority := written.takeWhile (· != '/')
    let hostName := authority.takeWhile (· != ':')
    let service ← match authority.drop (hostName.length + 1) with
      | [] => some defaultService
      | digits => readService digits
    if hostName.isEmpty then none
    else
      let path := written.drop authority.length
      return ⟨String.ofList hostName, service, if path.isEmpty then "/" else String.ofList path⟩
  else none

/-- Blanks and everything outside of printable ASCII are written as percent and two digits for each
byte, so that a path never ends early. -/
def escapePath (path : String) : String :=
  String.ofList (path.toUTF8.data.toList.flatMap fun byte =>
    if 32 < byte.toNat && byte.toNat < 127 then [Char.ofNat byte.toNat]
    else ['%', Json.hexDigit (byte.toNat / 16), Json.hexDigit (byte.toNat % 16)])

/-- The end of a line in the head of a message. -/
def lineEnd : String := "\r\n"

/-- A request with its head; a body is JSON. -/
def Request.toBytes (request : Request) (endpoint : Endpoint) : ByteArray :=
  let body := (request.body.map Json.render).getD ""
  let head := [
    request.method.name ++ " " ++ escapePath endpoint.path ++ " HTTP/1.1",
    "Host: " ++ endpoint.hostName ++ ":" ++ toString endpoint.service,
    "Accept: */*",
    "Connection: close"]
  let bodyHead := if request.body.isNone then [] else [
    "Content-Type: application/json",
    "Content-Length: " ++ toString body.utf8ByteSize]
  (String.join ((head ++ bodyHead ++ [""]).map (· ++ lineEnd)) ++ body).toUTF8

/-- The bytes before the first end of a line, and those behind it. -/
def splitLine : List UInt8 → Option (List UInt8 × List UInt8)
  | [] => none
  | 13 :: 10 :: rest => some ([], rest)
  | byte :: rest => (splitLine rest).map fun (line, after) => (byte :: line, after)

theorem length_of_splitLine {bytes line after : List UInt8}
    (found : splitLine bytes = some (line, after)) : after.length < bytes.length := by
  fun_induction splitLine bytes generalizing line after with
  | case1 => simp at found
  | case2 rest =>
    simp only [Option.some.injEq, Prod.mk.injEq] at found
    rw [← found.2, List.length_cons, List.length_cons]
    omega
  | case3 byte rest _ ih =>
    obtain ⟨split, splitFound, same⟩ := Option.map_eq_some_iff.1 found
    simp only [Prod.mk.injEq] at same
    have shorter := ih splitFound
    rw [← same.2, List.length_cons]
    omega

/-- The text of a line of the head, which is ASCII. -/
def lineText (line : List UInt8) : String :=
  String.ofList (line.map fun byte => Char.ofNat byte.toNat)

/-- The lines of a head up to the empty line, and the bytes of the body. -/
def splitHead (bytes : List UInt8) : Option (List String × List UInt8) :=
  match found : splitLine bytes with
  | none => none
  | some ([], body) => some ([], body)
  | some (line, after) =>
    have : after.length < bytes.length := length_of_splitLine found
    (splitHead after).map fun (lines, body) => (lineText line :: lines, body)
termination_by bytes.length

/-- The status is the second word of the first line. -/
def readStatus (line : String) : Option Nat :=
  match line.splitOn " " with
  | _ :: digits :: _ => digits.toNat?
  | _ => none

/-- The value of a header; letter case does not matter in its name. -/
def header? (lines : List String) (name : String) : Option String :=
  lines.findSome? fun line =>
    let given := line.toList.takeWhile (· != ':')
    if Text.lower (String.ofList given) == name then
      some (Text.trim (String.ofList (line.toList.drop (given.length + 1))))
    else none

/-- The number that hexadecimal digits at the start of a line stand for. -/
def readChunkSize (line : List UInt8) : Option Nat :=
  let digits := (line.map fun byte => Char.ofNat byte.toNat).takeWhile Char.isAlphanum
  if digits.isEmpty then none
  else digits.foldlM (fun size digit => do
    let value ← if digit.isDigit then some (digit.toNat - 48)
      else if 'a' ≤ digit && digit ≤ 'f' then some (digit.toNat - 87)
      else if 'A' ≤ digit && digit ≤ 'F' then some (digit.toNat - 55)
      else none
    return size * 16 + value) 0

/-- The body of a message in chunks, if the last chunk is there. -/
def readChunks (bytes : List UInt8) : Option (List UInt8) :=
  match found : splitLine bytes with
  | none => none
  | some (line, after) => do
    let size ← readChunkSize line
    if size = 0 then return []
    else if after.length < size + lineEnd.length then none
    else
      have : after.length < bytes.length := length_of_splitLine found
      have : after.length - (size + lineEnd.length) < bytes.length := by omega
      return after.take size ++ (← readChunks (after.drop (size + lineEnd.length)))
termination_by bytes.length

/-- The body of a response as far as the connection brought it. -/
def readBody (lines : List String) (ended : Bool) (bytes : List UInt8) : Option (List UInt8) :=
  if header? lines "transfer-encoding" == some "chunked" then readChunks bytes
  else
    match (header? lines "content-length").bind String.toNat? with
    | some length => if length ≤ bytes.length then some (bytes.take length) else none
    | none => if ended then some bytes else none

/-- A response once it is there as a whole; without a length it reaches to the end of the
connection. -/
def Response.ofBytes? (ended : Bool) (bytes : List UInt8) : Option Response := do
  let (lines, rest) ← splitHead bytes
  let status ← lines.head?.bind readStatus
  let body ← readBody lines ended rest
  return ⟨status, (String.fromUTF8? ⟨body.toArray⟩).getD ""⟩

end ScenarioRunner.WebDriver
