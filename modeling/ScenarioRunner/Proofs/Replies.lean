import ScenarioRunner.Proofs.Grounding
import ScenarioRunner.WebDriver.Client

/-!
What the answers of a WebDriver server say, told by their shape, and that they are read as such.
-/

namespace ScenarioRunner

/-- An object has a member, after which no other of its name follows. -/
def Json.Holds (value : Json) (name : String) (held : Json) : Prop :=
  ∃ before after, value = .object (before ++ (name, held) :: after) ∧
    ∀ member ∈ after, member.1 ≠ name

/-- Members can be asked for by name. -/
theorem Json.get?_eq_some_iff {value held : Json} {name : String} :
    value.get? name = some held ↔ value.Holds name held := by
  cases value with
  | object members =>
      simp only [get?, Option.map_eq_some_iff, List.find?_eq_some_iff_append, Holds, object.injEq]
      constructor
      · rintro ⟨member, ⟨named, after, before, split, others⟩, rfl⟩
        obtain rfl : member.1 = name := by simpa using named
        refine ⟨before.reverse, after.reverse, ?_, fun other listed => ?_⟩
        · rw [← List.reverse_reverse members, split]
          simp
        · simpa using others other (List.mem_reverse.mp listed)
      · rintro ⟨before, after, rfl, others⟩
        refine ⟨(name, held), ⟨by simp, after.reverse, before.reverse, by simp, ?_⟩, rfl⟩
        intro other listed
        simpa using others other (List.mem_reverse.mp listed)
  | _ => simp [get?, Holds]

theorem Json.get?_eq_none_iff {value : Json} {name : String} :
    value.get? name = none ↔ ∀ held, ¬ value.Holds name held := by
  simp only [← get?_eq_some_iff, Option.eq_none_iff_forall_ne_some, ne_eq]

theorem Json.text?_eq_some_iff {value : Json} {text : String} :
    value.text? = some text ↔ value = .text text := by
  cases value <;> simp [text?]

namespace WebDriver

/-- A message wraps a payload: it is an object with one value in it, or with none when the payload
is null, or a list of the payload alone, or an empty one when the payload is null. -/
inductive Envelops : Json → Json → Prop where
  | given {before after : List (String × Json)} {payload : Json}
      (first : ∀ member ∈ before, member.1 ≠ "value")
      (last : ∀ member ∈ after, member.1 ≠ "value") :
      Envelops (.object (before ++ ("value", payload) :: after)) payload
  | absent {members : List (String × Json)} (none : ∀ member ∈ members, member.1 ≠ "value") :
      Envelops (.object members) .null
  | listed (payload : Json) : Envelops (.array [payload]) payload
  | unlisted : Envelops (.array []) .null

/-- A payload tells of a refusal by its code and its message, which is empty when it is left out. -/
inductive TellsRefusal : Json → String → String → Prop where
  | whole {payload : Json} {code message : String} (coded : payload.Holds "error" (.text code))
      (told : payload.Holds "message" (.text message)) : TellsRefusal payload code message
  | brief {payload : Json} {code : String} (coded : payload.Holds "error" (.text code))
      (untold : ∀ held, ¬ payload.Holds "message" held) : TellsRefusal payload code ""
  | listed (code message : String) : TellsRefusal (.array [.text code, .text message]) code message
  | listedBrief (code : String) : TellsRefusal (.array [.text code]) code ""

/-- The body of an answer is the text of a message around a payload. -/
def Response.Wraps (response : Response) (payload : Json) : Prop :=
  ∃ message, message? response.body = some message ∧ Envelops message payload

/-- An answer grants its request. -/
def Response.Granted (response : Response) (payload : Json) : Prop :=
  (200 ≤ response.status ∧ response.status < 300) ∧ response.Wraps payload

/-- An answer refuses its request. -/
def Response.Refused (response : Response) (code message : String) : Prop :=
  ¬ (200 ≤ response.status ∧ response.status < 300) ∧
    ∃ payload, response.Wraps payload ∧ TellsRefusal payload code message

/-- An object without a value has nothing among its members of that name. -/
theorem filter_value_eq_nil_iff {members : List (String × Json)} :
    members.filter (·.1 == "value") = [] ↔ ∀ member ∈ members, member.1 ≠ "value" := by
  simp [List.filter_eq_nil_iff]

/-- Messages are opened just when they wrap a payload. -/
theorem envelope_eq_ok_iff {message payload : Json} :
    envelope message = .ok payload ↔ Envelops message payload := by
  constructor
  · intro opened
    unfold envelope at opened
    split at opened
    next members =>
      split at opened
      next nothing =>
        cases opened
        exact .absent (filter_value_eq_nil_iff.mp nothing)
      next name value alone =>
        cases opened
        obtain ⟨before, after, rfl, first, named, last⟩ := List.filter_eq_cons_iff.mp alone
        obtain rfl : name = "value" := by simpa using named
        exact .given (by simpa using first) (filter_value_eq_nil_iff.mp last)
      next => cases opened
    next =>
      cases opened
      exact .unlisted
    next =>
      cases opened
      exact .listed payload
    next => cases opened
  · intro wraps
    cases wraps with
    | @given before after _ first last =>
        have alone : (before ++ ("value", payload) :: after).filter (·.1 == "value") =
            [("value", payload)] := by
          rw [List.filter_append, filter_value_eq_nil_iff.mpr first,
            List.filter_cons_of_pos (by rfl), filter_value_eq_nil_iff.mpr last, List.nil_append]
        simp only [envelope, alone]
    | absent none => simp only [envelope, filter_value_eq_nil_iff.mpr none]
    | listed => rfl
    | unlisted => rfl

theorem decodeText_eq_ok_iff {value : Json} {text : String} :
    decodeText value = .ok text ↔ value = .text text := by
  cases value <;> simp [decodeText]

/-- A text is taken from a field that holds one. -/
theorem fieldOf?_eq_some_iff {payload : Json} {name text : String} :
    fieldOf? name decodeText payload = .ok (some text) ↔ payload.Holds name (.text text) := by
  simp only [← Json.get?_eq_some_iff, fieldOf?]
  cases payload.get? name with
  | none => simp
  | some value => cases value <;> simp [decodeText, Functor.map, Except.map]

/-- Nothing is taken from a field that is left out. -/
theorem fieldOf?_eq_none_iff {payload : Json} {name : String} :
    fieldOf? name decodeText payload = .ok none ↔ ∀ held, ¬ payload.Holds name held := by
  simp only [← Json.get?_eq_none_iff, fieldOf?]
  cases payload.get? name with
  | none => simp
  | some value => cases value <;> simp [decodeText, Functor.map, Except.map]

/-- What is read as a refusal tells of one. -/
theorem tellsRefusal_of_refusal {payload : Json} {code message : String}
    (read : refusal payload = .ok (code, message)) : TellsRefusal payload code message := by
  unfold refusal pairOf at read
  split at read
  next members =>
    obtain ⟨coded, first, continued⟩ := ok_of_bind read
    obtain ⟨told, second, continued⟩ := ok_of_bind continued
    obtain ⟨found, needed, same⟩ := ok_of_bind continued
    cases coded with
    | none => cases needed
    | some own =>
        cases needed
        cases same
        cases told with
        | none => exact .brief (fieldOf?_eq_some_iff.mp first) (fieldOf?_eq_none_iff.mp second)
        | some text =>
            exact .whole (fieldOf?_eq_some_iff.mp first) (fieldOf?_eq_some_iff.mp second)
  next value =>
    obtain ⟨found, decoded, same⟩ := ok_of_bind read
    cases same
    obtain rfl := decodeText_eq_ok_iff.mp decoded
    exact .listedBrief code
  next first second =>
    obtain ⟨found, decoded, continued⟩ := ok_of_bind read
    obtain ⟨text, told, same⟩ := ok_of_bind continued
    cases same
    obtain rfl := decodeText_eq_ok_iff.mp decoded
    obtain rfl := decodeText_eq_ok_iff.mp told
    exact .listed code message
  next => cases read

/-- Payloads are read as refusals just when they tell of one. -/
theorem refusal_eq_ok_iff {payload : Json} {code message : String} :
    refusal payload = .ok (code, message) ↔ TellsRefusal payload code message := by
  constructor
  · exact tellsRefusal_of_refusal
  · intro tells
    cases tells with
    | whole coded told =>
        obtain ⟨before, after, rfl, -⟩ := id coded
        simp only [refusal, pairOf, fieldOf?_eq_some_iff.mpr coded, fieldOf?_eq_some_iff.mpr told]
        rfl
    | brief coded untold =>
        obtain ⟨before, after, rfl, -⟩ := id coded
        simp only [refusal, pairOf, fieldOf?_eq_some_iff.mpr coded, fieldOf?_eq_none_iff.mpr untold]
        rfl
    | listed => rfl
    | listedBrief => rfl

/-- What is found in the body of an answer. -/
def Response.payload? (response : Response) : Option Json :=
  (message? response.body).bind fun message => (envelope message).toOption

namespace Response

variable {response : Response}

theorem payload?_eq_some_iff {payload : Json} :
    response.payload? = some payload ↔ response.Wraps payload := by
  simp only [payload?, Option.bind_eq_some_iff, Wraps, ← envelope_eq_ok_iff]
  have opened (message : Json) :
      (envelope message).toOption = some payload ↔ envelope message = .ok payload := by
    cases envelope message <;> simp [Except.toOption]
  simp only [opened]

theorem isSuccess_iff :
    isSuccess response.status = true ↔ 200 ≤ response.status ∧ response.status < 300 := by
  simp [isSuccess]

/-- The payload of an answer that has one, read according to the status. -/
theorem readPayload_eq {payload : Json} (wraps : response.Wraps payload) :
    readPayload response =
      if isSuccess response.status then .ok payload
      else
        match refusal payload with
        | .ok (code, message) => .error (.webDriver code message)
        | .error _ =>
          .error (.protocol s!"HTTP {statusText response.status} without error payload") := by
  have found := payload?_eq_some_iff.mpr wraps
  unfold payload? at found
  unfold readPayload
  cases parsed : message? response.body with
  | none => simp [parsed] at found
  | some message =>
      rw [parsed, Option.bind_some] at found
      dsimp only
      generalize (envelope message).toOption = decoded at found
      subst found
      rfl

/-- An answer without a payload breaks the protocol. -/
theorem readPayload_eq_protocol (empty : ∀ payload, ¬ response.Wraps payload) :
    ∃ detail, readPayload response = .error (.protocol detail) := by
  have nothing : response.payload? = none := by
    apply Option.eq_none_iff_forall_ne_some.mpr
    intro payload found
    exact empty payload (payload?_eq_some_iff.mp found)
  unfold payload? at nothing
  unfold readPayload
  cases parsed : message? response.body with
  | none => exact ⟨_, rfl⟩
  | some message =>
      rw [parsed, Option.bind_some] at nothing
      simp only [nothing]
      exact ⟨_, rfl⟩

/-- There is no more than one payload in a body. -/
theorem Wraps.unique {payload other : Json} (wraps : response.Wraps payload)
    (again : response.Wraps other) : payload = other := by
  have same := (payload?_eq_some_iff.mpr wraps).symm.trans (payload?_eq_some_iff.mpr again)
  exact Option.some.inj same

/-- Requests are granted by the answers that say so. -/
theorem readPayload_eq_ok_iff {payload : Json} :
    readPayload response = .ok payload ↔ response.Granted payload := by
  by_cases wrapping : ∃ other, response.Wraps other
  · obtain ⟨other, wraps⟩ := wrapping
    rw [readPayload_eq wraps, Granted, ← isSuccess_iff]
    by_cases success : isSuccess response.status = true
    · simp only [success, if_true, Except.ok.injEq, true_and]
      constructor
      · rintro rfl
        exact wraps
      · exact wraps.unique
    · simp only [success]
      cases refusal other <;> simp
  · have empty : ∀ payload, ¬ response.Wraps payload := not_exists.mp wrapping
    obtain ⟨detail, broken⟩ := readPayload_eq_protocol empty
    simp [broken, Granted, empty]

/-- Requests are refused by the answers that say so. -/
theorem readPayload_eq_webDriver_iff {code message : String} :
    readPayload response = .error (.webDriver code message) ↔ response.Refused code message := by
  by_cases wrapping : ∃ other, response.Wraps other
  · obtain ⟨other, wraps⟩ := wrapping
    rw [readPayload_eq wraps, Refused, ← isSuccess_iff]
    have told : (∃ payload, response.Wraps payload ∧ TellsRefusal payload code message) ↔
        refusal other = .ok (code, message) := by
      rw [refusal_eq_ok_iff]
      constructor
      · rintro ⟨payload, again, tells⟩
        rwa [wraps.unique again]
      · intro tells
        exact ⟨other, wraps, tells⟩
    rw [told]
    by_cases success : isSuccess response.status = true
    · simp [success]
    · simp only [success]
      cases refusal other <;> simp [Prod.ext_iff]
  · have empty : ∀ payload, ¬ response.Wraps payload := not_exists.mp wrapping
    obtain ⟨detail, broken⟩ := readPayload_eq_protocol empty
    simp [broken, Refused, empty]

/-- An answer that neither grants nor refuses its request breaks the protocol. -/
theorem readPayload_cases (response : Response) :
    (∃ payload, response.Granted payload) ∨ (∃ code message, response.Refused code message) ∨
      ∃ detail, readPayload response = .error (.protocol detail) := by
  simp only [← readPayload_eq_ok_iff, ← readPayload_eq_webDriver_iff]
  by_cases wrapping : ∃ payload, response.Wraps payload
  · obtain ⟨payload, wraps⟩ := wrapping
    rw [readPayload_eq wraps]
    by_cases success : isSuccess response.status = true
    · simp [success]
    · cases refusal payload <;> simp [success]
  · exact .inr (.inr (readPayload_eq_protocol (not_exists.mp wrapping)))

end Response

/-- An item of a list refers to an element. -/
theorem elementOf?_eq_some_iff {item : Json} {element : ElementId} :
    elementOf? item = some element ↔ item.Holds elementKey (.text element.name) := by
  simp only [elementOf?, Option.map_eq_some_iff, Option.bind_eq_some_iff,
    Json.text?_eq_some_iff, Json.get?_eq_some_iff]
  constructor
  · rintro ⟨name, ⟨_, holds, rfl⟩, rfl⟩
    exact holds
  · intro holds
    exact ⟨element.name, ⟨_, holds, rfl⟩, rfl⟩

namespace Client

theorem readElements_eq_ok_iff {payload : Json} {elements : List ElementId} :
    readElements payload = .ok elements ↔
      ∃ items, payload = .array items ∧
        List.Forall₂ (fun item element => item.Holds elementKey (.text element.name)) items
          elements := by
  cases payload with
  | array items =>
      simp only [readElements, mapM_eq_ok_iff]
      constructor
      · intro each
        refine ⟨items, rfl, each.imp fun item element read => ?_⟩
        apply elementOf?_eq_some_iff.mp
        cases found : elementOf? item <;> simp_all
      · rintro ⟨_, same, each⟩
        cases same
        refine each.imp fun item element holds => ?_
        rw [elementOf?_eq_some_iff.mpr holds]
  | _ => simp [readElements]

/-- A search is answered by the list of what was found, which is whole, or by the refusal that
stands for an empty one. -/
theorem readOutcome_find_eq_ok_iff {response : Response} {locator : Locator}
    {scope : Option ElementId} {elements : List ElementId} :
    readOutcome response (.find locator scope) = .ok elements ↔
      (elements = [] ∧ ∃ message, response.Refused noSuchElement message) ∨
      ∃ items, response.Granted (.array items) ∧
        List.Forall₂ (fun item element => item.Holds elementKey (.text element.name)) items
          elements := by
  simp only [← Response.readPayload_eq_ok_iff, ← Response.readPayload_eq_webDriver_iff]
  cases read : readPayload response with
  | ok payload =>
      have listed : readOutcome response (.find locator scope) = readElements payload := by
        rw [readOutcome, read]
      rw [listed]
      show readElements payload = .ok elements ↔ _
      simp [readElements_eq_ok_iff]
  | error error =>
      cases error with
      | webDriver code message =>
          by_cases nothing : code = noSuchElement
          · have empty : readOutcome response (.find locator scope) =
                .ok ([] : List ElementId) := by
              simp only [readOutcome, read, nothing, if_true]
            rw [empty]
            show (.ok [] : Except Error (List ElementId)) = .ok elements ↔ _
            simp [nothing, eq_comm]
          · simp [readOutcome, read, nothing]
      | _ => simp [readOutcome, read]

/-- A list that cannot be read breaks the protocol. -/
theorem protocol_of_readElements {payload : Json} {error : Error}
    (failed : readElements payload = .error error) : ∃ detail, error = .protocol detail := by
  cases payload with
  | array items =>
      obtain ⟨_, item, _, -, -, malformed⟩ := mapM_eq_error_iff.mp failed
      cases found : elementOf? item <;> simp_all
      exact ⟨_, malformed.symm⟩
  | _ =>
      cases failed
      exact ⟨_, rfl⟩

section Errors

variable {response : Response} {call : Call} {error : Error}

/-- When the answer is an error a call fails with that error, if it fails. -/
theorem eq_of_readOutcome_error {own : Error} (read : readPayload response = .error own)
    (failed : readOutcome response call = .error error) : error = own := by
  cases call with
  | find locator scope =>
      simp only [readOutcome, read] at failed
      cases own with
      | webDriver code message =>
          by_cases nothing : code = noSuchElement
          · simp [nothing] at failed
          · simpa [nothing, eq_comm] using failed
      | _ =>
          cases failed
          rfl
  | close =>
      simp only [readOutcome, read] at failed
      by_cases gone : response.status = 404
      · simp [gone] at failed
      · simp only [gone, if_false] at failed
        cases failed
        rfl
  | _ =>
      simp only [readOutcome, read] at failed
      cases failed
      rfl

/-- When the answer grants a request a call fails only for a payload that it can make no use of. -/
theorem protocol_of_readOutcome_error {payload : Json} (read : readPayload response = .ok payload)
    (failed : readOutcome response call = .error error) : ∃ detail, error = .protocol detail := by
  cases call with
  | find locator scope =>
      simp only [readOutcome, read] at failed
      exact protocol_of_readElements failed
  | currentUrl =>
      simp only [readOutcome, read] at failed
      cases payload <;> cases failed <;> exact ⟨_, rfl⟩
  | screenshot =>
      simp only [readOutcome, read] at failed
      cases payload with
      | text encoded =>
          cases decoded : Base64.decode? encoded with
          | none =>
              simp only [bind, Except.bind, decoded] at failed
              cases failed
              exact ⟨_, rfl⟩
          | some image =>
              simp only [bind, Except.bind, decoded] at failed
              cases failed
      | _ =>
          cases failed
          exact ⟨_, rfl⟩
  | close =>
      simp only [readOutcome, read] at failed
      by_cases gone : response.status = 404
      · simp [gone] at failed
      · simp only [gone, if_false] at failed
        cases failed
  | _ =>
      simp only [readOutcome, read] at failed
      cases failed

/-- An error of a call is that of its answer, or its answer grants what cannot be made use of. -/
theorem readOutcome_error_cases (failed : readOutcome response call = .error error) :
    readPayload response = .error error ∨
      (∃ payload, readPayload response = .ok payload) ∧ ∃ detail, error = .protocol detail := by
  cases read : readPayload response with
  | error own =>
      left
      rw [eq_of_readOutcome_error read failed]
  | ok payload =>
      right
      exact ⟨⟨payload, rfl⟩, protocol_of_readOutcome_error read failed⟩

/-- An error of a call is worth another try when the answer refuses the request with one of three
codes. -/
theorem isTransient_iff_of_readOutcome (failed : readOutcome response call = .error error) :
    error.isTransient = true ↔
      ∃ code message, response.Refused code message ∧ code ∈ Error.transientCodes := by
  simp only [← Response.readPayload_eq_webDriver_iff]
  rcases readOutcome_error_cases failed with refused | ⟨⟨payload, granted⟩, detail, rfl⟩
  · cases error <;> simp [refused, Error.isTransient, eq_comm]
  · simp [granted, Error.isTransient]

end Errors

end Client

end WebDriver

end ScenarioRunner
