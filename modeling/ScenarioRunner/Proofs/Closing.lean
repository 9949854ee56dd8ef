import ScenarioRunner.Proofs.Replies

/-!
The end of a session. A client asks for it once, and takes its word from then on: what a later close
reports is that the end has been asked for, not that the session has ended.
-/

namespace ScenarioRunner.WebDriver

/-- A request, and what became of it. -/
structure Exchange where
  request : Request
  delivery : Delivery

/-- A server that keeps a list of its exchanges. -/
def recording {σ : Type} (server : Server (StateM σ)) : Server (StateM (σ × List Exchange)) :=
  fun request (state, exchanges) =>
    let (delivery, state) := (server request).run state
    (delivery, (state, exchanges ++ [⟨request, delivery⟩]))

/-- A call with its outcome and the exchanges that were needed for it. -/
structure Handled where
  call : Call
  outcome : call.Outcome
  exchanges : List Exchange

/-- The call was granted. -/
def Handled.Succeeds (handled : Handled) : Prop := ∃ answer, handled.outcome = .ok answer

/-- The exchange ends the session of the client: the server was asked for it, and answered that it is
done or that there is no such session. -/
def Exchange.Ends (client : Client) (exchange : Exchange) : Prop :=
  exchange.request = client.requestFor .close ∧ ∃ response, exchange.delivery = .ok response ∧
    (response.status = 404 ∨ ∃ payload, response.Granted payload)

variable {σ : Type}

namespace Client

/-- The calls one after another. -/
def performAll (server : Server (StateM σ)) : Client → σ → List Call → List Handled
  | _, _, [] => []
  | client, state, call :: calls =>
    let ((outcome, client), (state, exchanges)) :=
      (client.perform (recording server) call).run (state, [])
    ⟨call, outcome, exchanges⟩ :: performAll server client state calls

/-- The records change neither the outcome of a call nor what becomes of the server. -/
theorem perform_recording (server : Server (StateM σ)) (client : Client) (call : Call) (state : σ)
    (exchanges : List Exchange) :
    (client.perform server call).run state =
      let (result, (state, _)) := (client.perform (recording server) call).run (state, exchanges)
      (result, state) := by
  cases call with
  | close =>
      cases ended : client.closed with
      | true => simp only [perform, ended, if_true]; rfl
      | false => simp only [perform, ended, Bool.false_eq_true, if_false]; rfl
  | _ => rfl

/-- What a client can do: ask for the end of its session once, take note of further wishes for it,
and pass on every other call. -/
inductive Handles : Client → List Handled → Prop where
  | done (client : Client) : Handles client []
  | ended {client : Client} {later : List Handled} (fresh : client.closed = false)
      (delivery : Delivery) (rest : Handles { client with closed := true } later) :
      Handles client (⟨.close, readDelivery .close delivery,
        [⟨client.requestFor .close, delivery⟩]⟩ :: later)
  | noted {client : Client} {later : List Handled} (closed : client.closed = true)
      (rest : Handles client later) : Handles client (⟨.close, .ok (), []⟩ :: later)
  | passed {client : Client} {later : List Handled} {call : Call} (other : call ≠ .close)
      (delivery : Delivery) (rest : Handles client later) :
      Handles client (⟨call, readDelivery call delivery,
        [⟨client.requestFor call, delivery⟩]⟩ :: later)

theorem handles_performAll (server : Server (StateM σ)) (client : Client) (state : σ)
    (calls : List Call) : client.Handles (client.performAll server state calls) := by
  induction calls generalizing client state with
  | nil => exact .done client
  | cons call calls ih =>
      cases call with
      | close =>
          cases asked : client.closed with
          | true =>
              have noted : client.performAll server state (.close :: calls) =
                  ⟨.close, .ok (), []⟩ :: client.performAll server state calls := by
                simp only [performAll, perform, asked, if_true]
                rfl
              exact noted ▸ .noted asked (ih client state)
          | false =>
              have ended : client.performAll server state (.close :: calls) =
                  ⟨.close, readDelivery .close ((server (client.requestFor .close)).run state).1,
                    [⟨client.requestFor .close, ((server (client.requestFor .close)).run state).1⟩]⟩ ::
                  performAll server { client with closed := true }
                    ((server (client.requestFor .close)).run state).2 calls := by
                simp only [performAll, perform, asked, Bool.false_eq_true, if_false]
                rfl
              exact ended ▸ .ended asked _ (ih _ _)
      | _ => exact .passed (by simp) _ (ih client _)

/-- Only the end of the session is asked for by a deletion. -/
theorem requestFor_method_iff {client : Client} {call : Call} :
    (client.requestFor call).method = .delete ↔ call = .close := by
  cases call <;> simp [requestFor, request, scriptRequest]

/-- A close that is passed on is granted just when the answer says that the session has ended. -/
theorem readDelivery_close_iff {client : Client} {delivery : Delivery} :
    (∃ answer, readDelivery .close delivery = .ok answer) ↔
      Exchange.Ends client ⟨client.requestFor .close, delivery⟩ := by
  cases delivery with
  | error reason => simp [readDelivery, Exchange.Ends]
  | ok response =>
      have granted : (∃ answer, readDelivery .close (.ok response) = .ok answer) ↔
          response.status = 404 ∨ ∃ payload, response.Granted payload := by
        simp only [readDelivery, readOutcome, ← Response.readPayload_eq_ok_iff]
        split
        · rename_i gone
          exact ⟨fun _ => .inl gone, fun _ => ⟨(), rfl⟩⟩
        · rename_i found
          cases readPayload response with
          | error reason =>
              refine ⟨fun granted => ?_, fun ends => by simp [found] at ends⟩
              obtain ⟨answer, read⟩ := granted
              cases read
          | ok payload => exact ⟨fun _ => .inr ⟨payload, rfl⟩, fun _ => ⟨(), rfl⟩⟩
      simp [Exchange.Ends, granted]

namespace Handles

variable {client : Client} {handled : List Handled}

/-- Once the end has been asked for, every close is granted and none is passed on. -/
theorem of_closed (handles : client.Handles handled) (closed : client.closed = true) :
    (∀ record ∈ handled, record.call = .close → record.Succeeds) ∧
      ∀ exchange ∈ handled.flatMap Handled.exchanges, exchange.request.method ≠ .delete := by
  induction handles with
  | done client => simp
  | ended fresh => exact absurd closed (by simp [fresh])
  | noted _ rest ih =>
      obtain ⟨granted, silent⟩ := ih closed
      exact ⟨List.forall_mem_cons.mpr ⟨fun _ => ⟨(), rfl⟩, granted⟩, silent⟩
  | passed other delivery rest ih =>
      obtain ⟨granted, silent⟩ := ih closed
      refine ⟨List.forall_mem_cons.mpr ⟨fun same => absurd same other, granted⟩, ?_⟩
      rw [List.flatMap_cons]
      exact List.forall_mem_append.mpr ⟨by simpa [requestFor_method_iff] using other, silent⟩

/-- Deletions are sent at most once. -/
theorem deletes_once (handles : client.Handles handled) {before later : List Exchange}
    {exchange : Exchange} (split : handled.flatMap Handled.exchanges = before ++ exchange :: later)
    (deletes : exchange.request.method = .delete) :
    ∀ next ∈ later, next.request.method ≠ .delete := by
  induction handles generalizing before with
  | done client => simp at split
  | ended fresh delivery rest ih =>
      have silent := (rest.of_closed rfl).2
      rw [List.flatMap_cons, List.singleton_append] at split
      cases before with
      | nil =>
          obtain ⟨-, rfl⟩ := List.cons.inj split
          exact silent
      | cons first before =>
          obtain ⟨-, others⟩ := List.cons.inj split
          refine absurd deletes (silent exchange ?_)
          rw [others]
          exact List.mem_append_right before List.mem_cons_self
  | noted _ rest ih => exact ih split
  | passed other delivery rest ih =>
      rw [List.flatMap_cons, List.singleton_append] at split
      cases before with
      | nil =>
          obtain ⟨rfl, -⟩ := List.cons.inj split
          exact absurd (requestFor_method_iff.mp deletes) other
      | cons first before => exact ih (List.cons.inj split).2

/-- A granted close means that the session has ended unless an earlier one failed. -/
theorem ends_iff (handles : client.Handles handled) (fresh : client.closed = false)
    {front back : List Handled} {last : Handled} (split : handled = front ++ last :: back)
    (closes : last.call = .close) (granted : last.Succeeds) :
    (∃ exchange ∈ (front ++ [last]).flatMap Handled.exchanges, exchange.Ends client) ↔
      ∀ earlier ∈ front, earlier.call = .close → earlier.Succeeds := by
  induction handles generalizing front with
  | done client => simp at split
  | noted closed => exact absurd closed (by simp [fresh])
  | @ended client later _ delivery rest ih =>
      obtain ⟨succeeds, silent⟩ := rest.of_closed rfl
      cases front with
      | nil =>
          obtain ⟨rfl, rfl⟩ := List.cons.inj split
          simpa using readDelivery_close_iff.mp granted
      | cons first front =>
          rw [List.cons_append] at split
          obtain ⟨rfl, rfl⟩ := List.cons.inj split
          have others : ¬ ∃ exchange ∈ (front ++ [last]).flatMap Handled.exchanges,
              exchange.Ends client := by
            rintro ⟨exchange, member, same, -⟩
            refine silent exchange ?_ (by rw [same]; rfl)
            rw [List.append_cons, List.flatMap_append]
            exact List.mem_append_left _ member
          have kept : ∀ earlier ∈ front, earlier.call = .close → earlier.Succeeds :=
            fun earlier member => succeeds earlier (List.mem_append_left _ member)
          rw [List.cons_append, List.flatMap_cons, List.singleton_append, List.exists_mem_cons_iff,
            or_iff_left others, ← readDelivery_close_iff, List.forall_mem_cons, and_iff_left kept]
          exact ⟨fun ends _ => ends, fun ends => ends rfl⟩
  | @passed client later call other delivery rest ih =>
      cases front with
      | nil =>
          obtain ⟨rfl, rfl⟩ := List.cons.inj split
          exact absurd closes other
      | cons first front =>
          obtain ⟨rfl, others⟩ := List.cons.inj split
          have own : ¬ Exchange.Ends client ⟨client.requestFor call, delivery⟩ := by
            rintro ⟨same, -⟩
            exact other (requestFor_method_iff.mp (congrArg Request.method same))
          rw [List.forall_mem_cons, ← ih fresh others]
          simp [own, other]

end Handles

/-- The end of a new session has not been asked for. -/
theorem closed_of_startedSession {base : String} {delivery : Delivery} {client : Client}
    (started : startedSession base delivery = .ok client) : client.closed = false := by
  cases delivery with
  | error reason => cases started
  | ok response =>
      obtain ⟨payload, -, continued⟩ := ok_of_bind started
      cases agreed : newSession payload with
      | error reason =>
          rw [agreed] at continued
          cases continued
      | ok session =>
          rw [agreed] at continued
          cases continued
          rfl

/-- After a granted close the session has ended just when no earlier close failed: the first close
asks the server, and all others are granted whatever has come of it. The end is asked for at most
once. -/
theorem closes_end_iff (server : Server (StateM σ)) (request : SessionRequest) (before after : σ)
    (client : Client) (connected : (connect server request).run before = (.ok client, after))
    (calls : List Call) :
    (∀ front last back, client.performAll server after calls = front ++ last :: back →
      last.call = .close → last.Succeeds →
      ((∃ exchange ∈ (front ++ [last]).flatMap Handled.exchanges, exchange.Ends client) ↔
        ∀ earlier ∈ front, earlier.call = .close → earlier.Succeeds)) ∧
    ∀ front exchange back,
      (client.performAll server after calls).flatMap Handled.exchanges = front ++ exchange :: back →
      exchange.request.method = .delete → ∀ next ∈ back, next.request.method ≠ .delete := by
  have handles := handles_performAll server client after calls
  have fresh : client.closed = false := closed_of_startedSession (congrArg Prod.fst connected)
  exact ⟨fun front last back => handles.ends_iff fresh, fun front exchange back =>
    handles.deletes_once⟩

/-- A server that starts a session, and answers every wish for its end with the response. -/
def answering (response : Response) : Server (StateM Unit) := fun request =>
  match request.method with
  | .delete => return .ok response
  | _ => return .ok ⟨200, "\x7b\"value\": \x7b\"sessionId\": \"s1\"\x7d\x7d"⟩

/-- The session that it starts. -/
def answered : Client := ⟨"http://driver", "s1", false⟩

def opening : SessionRequest := ⟨"http://driver/", .object [], 30⟩

theorem connect_answering (response : Response) :
    (connect (answering response) opening).run () = (.ok answered, ()) := by
  have base : serverBase opening = "http://driver" := by decide +kernel
  have started : startedSession "http://driver" (.ok
      ⟨200, "\x7b\"value\": \x7b\"sessionId\": \"s1\"\x7d\x7d"⟩) = .ok answered := by decide +kernel
  rw [connect, base]
  exact Prod.ext started rfl

/-- What is handled when the end is asked for again after a look at the address. -/
def handledTwice (response : Response) : List Handled :=
  let delivered (call : Call) (delivery : Delivery) : Handled :=
    ⟨call, readDelivery call delivery, [⟨answered.requestFor call, delivery⟩]⟩
  [delivered .close (.ok response),
    delivered .currentUrl (.ok ⟨200, "\x7b\"value\": \x7b\"sessionId\": \"s1\"\x7d\x7d"⟩)]

/-- A close that is granted without a request. -/
def granted : Handled := ⟨.close, .ok (), []⟩

theorem performAll_answering (response : Response) :
    answered.performAll (answering response) () [.close, .currentUrl, .close] =
      handledTwice response ++ [granted] := rfl

/-- A session that is gone has ended, as the second close says, and is not asked for again. -/
theorem closes_end_iff_gone :
    let gone : Response := ⟨404, ""⟩
    (connect (answering gone) opening).run () = (.ok answered, ()) ∧
    (∃ exchange ∈ (handledTwice gone ++ [granted]).flatMap Handled.exchanges,
      exchange.Ends answered) ∧
    ∃ first later, (answered.performAll (answering gone) () [.close, .currentUrl, .close]).flatMap
        Handled.exchanges = first :: later ∧ first.request.method = .delete ∧
      ∀ next ∈ later, next.request.method ≠ .delete := by
  intro gone
  have connected := connect_answering gone
  obtain ⟨ends, once⟩ :=
    closes_end_iff _ opening () () answered connected [.close, .currentUrl, .close]
  refine ⟨connected, ?_, _, _, rfl, rfl, once [] _ _ rfl rfl⟩
  refine (ends (handledTwice gone) granted [] rfl rfl ⟨(), rfl⟩).mpr ?_
  exact List.forall_mem_cons.mpr ⟨fun _ => ⟨(), rfl⟩, List.forall_mem_singleton.mpr nofun⟩

/-- The end of the session is refused, and the next close is granted all the same. -/
theorem granted_without_end :
    let refusing : Response :=
      ⟨500, "\x7b\"value\": \x7b\"error\": \"unknown error\", \"message\": \"busy\"\x7d\x7d"⟩
    (connect (answering refusing) opening).run () = (.ok answered, ()) ∧
    ∃ front last, answered.performAll (answering refusing) () [.close, .currentUrl, .close] =
        front ++ [last] ∧ last.call = .close ∧ last.Succeeds ∧
      ∀ exchange ∈ (front ++ [last]).flatMap Handled.exchanges, ¬ exchange.Ends answered := by
  intro refusing
  refine ⟨connect_answering _, _, _, performAll_answering _, rfl, ⟨(), rfl⟩, ?_⟩
  simp [handledTwice, granted, refusing, Exchange.Ends, Response.Granted, requestFor, request]

end Client

end ScenarioRunner.WebDriver
