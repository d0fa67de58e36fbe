import Switchboard.Proofs.Network.Answers
import Switchboard.Sample.Server

/-!
# Runs against a server with a list of replies

Every request that can be sent is one post, and the posts get the replies in their order, the last
one for all posts after it. The outcome of a call is that of its own reply (`replyOutcome`), so
nothing that was called before has a part in it but the count of posts.

`Classified` says what an outcome is by the exchange alone: four cases, of which always exactly one
holds.
-/
namespace Switchboard.Network

open Sample (Reply replyAt server)

/-! ## The outcome of one exchange -/

namespace Exchange

/-- A complete reply came, with a status of a success and a body that is `v` in JSON. -/
@[simp] def IsValue (v : Json.Value) : Exchange → Prop
  | .refused => False
  | .reply status body complete =>
    isSuccess status = true ∧ complete = true ∧ Json.parse body = .ok v

/-- A reply came with the status `code`, which is no success, and `text` as its body. A broken body
counts as empty. -/
@[simp] def IsStatus (code : Nat) (text : String) : Exchange → Prop
  | .refused => False
  | .reply status body complete =>
    isSuccess status = false ∧ status = code ∧
      text = if complete then Utf8.textLossy body else ""

/-- A complete reply came, with a status of a success and a body that is refused as JSON. -/
@[simp] def IsMalformed (text : String) : Exchange → Prop
  | .refused => False
  | .reply status body complete =>
    isSuccess status = true ∧ complete = true ∧ ∃ e, Json.parse body = .error e ∧ text = e.message

/-- No reply came, or one with a status of a success and a broken body. -/
@[simp] def IsLost : Exchange → Prop
  | .refused => True
  | .reply status _ complete => isSuccess status = true ∧ complete = false

/-- The kinds of what can come back for a post. -/
inductive Case where
  | value
  | status
  | malformed
  | lost

/-- An exchange is of a kind. -/
@[simp] def Is (x : Exchange) : Case → Prop
  | .value => ∃ v, x.IsValue v
  | .status => ∃ code text, x.IsStatus code text
  | .malformed => ∃ text, x.IsMalformed text
  | .lost => x.IsLost

/-- The ways in which a post can end, by what the outcome of the call looks at. -/
theorem shape (x : Exchange) :
    x = .refused ∨
      (∃ status body complete, x = .reply status body complete ∧ isSuccess status = false) ∨
      (∃ status body, x = .reply status body false ∧ isSuccess status = true) ∨
      (∃ status body v, x = .reply status body true ∧ isSuccess status = true ∧
        Json.parse body = .ok v) ∨
      (∃ status body e, x = .reply status body true ∧ isSuccess status = true ∧
        Json.parse body = .error e) := by
  rcases x with _ | ⟨status, body, complete⟩
  · exact .inl rfl
  · cases success : isSuccess status with
    | false => exact .inr (.inl ⟨status, body, complete, rfl, success⟩)
    | true =>
      cases complete with
      | false => exact .inr (.inr (.inl ⟨status, body, rfl, success⟩))
      | true =>
        cases parsed : Json.parse body with
        | ok v => exact .inr (.inr (.inr (.inl ⟨status, body, v, rfl, success, parsed⟩)))
        | error e => exact .inr (.inr (.inr (.inr ⟨status, body, e, rfl, success, parsed⟩)))

/-- Every exchange is of exactly one kind. -/
theorem exists_case (x : Exchange) : ∃ c, ∀ c', x.Is c' ↔ c' = c := by
  rcases x.shape with rfl | ⟨status, body, complete, rfl, success⟩ | ⟨status, body, rfl, success⟩ |
    ⟨status, body, v, rfl, success, parsed⟩ | ⟨status, body, e, rfl, success, parsed⟩
  · exact ⟨.lost, fun c' => by cases c' <;> simp⟩
  · exact ⟨.status, fun c' => by cases c' <;> simp [success]⟩
  · exact ⟨.lost, fun c' => by cases c' <;> simp [success]⟩
  · exact ⟨.value, fun c' => by cases c' <;> simp [success, parsed]⟩
  · exact ⟨.malformed, fun c' => by cases c' <;> simp [success, parsed]⟩

end Exchange

/-- An outcome is what the exchange says, in each of its kinds. -/
structure Classified (x : Exchange) (o : Outcome) : Prop where
  ok : ∀ v, o = .ok v ↔ x.IsValue v
  status : ∀ code text, o = .error (.execution .network (.status code text)) ↔ x.IsStatus code text
  malformed : ∀ text,
    o = .error (.execution .network (.malformedResponse text)) ↔ x.IsMalformed text
  transport : (∃ text, o = .error (.execution .network (.transport text))) ↔ x.IsLost

/-- The outcome of an exchange is what the exchange says. -/
theorem classified_outcomeOf (url : Url) (x : Exchange) :
    Classified x ((outcomeOf url x).mapError (.execution .network)) := by
  rcases x.shape with rfl | ⟨status, body, complete, rfl, success⟩ | ⟨status, body, rfl, success⟩ |
    ⟨status, body, v, rfl, success, parsed⟩ | ⟨status, body, e, rfl, success, parsed⟩
  · change Classified _ (.error (.execution .network (.transport _)))
    constructor <;> simp
  · rw [outcomeOf_of_status url success]
    change Classified _ (.error (.execution .network (.status _ _)))
    constructor <;> simp [success, eq_comm]
  · rw [outcomeOf_of_broken url success]
    change Classified _ (.error (.execution .network (.transport _)))
    constructor <;> simp [success]
  · rw [outcomeOf_of_success url success, parsed]
    change Classified _ (.ok v)
    constructor <;> simp [success, parsed]
  · rw [outcomeOf_of_success url success, parsed]
    change Classified _ (.error (.execution .network (.malformedResponse _)))
    constructor <;> simp [success, parsed, eq_comm]

/-! ## Replies of the server -/

def sendable (base : Url) (r : Request) : Bool := isSendable (endpoint base r)

/-- The outcome of a call that gets a reply of the server. -/
def replyOutcome (base : Url) (r : Request) (reply : Reply) : Outcome :=
  (outcomeOf (endpoint base r) (reply.exchange (postFor base r))).mapError (.execution .network)

/-- The replies are served in their order, and the last one to all posts behind them. -/
theorem replyAt_eq {replies : List Reply} (h : replies ≠ []) (k : Nat) :
    replies[min k (replies.length - 1)]? = some (replyAt replies k) := by
  have pos := List.length_pos_iff.mpr h
  unfold replyAt
  by_cases inside : k < replies.length
  · rw [Nat.min_eq_left (by omega), List.getElem?_eq_getElem inside]
    rfl
  · rw [Nat.min_eq_right (by omega), List.getElem?_eq_none (Nat.not_lt.mp inside),
      ← List.getLast?_eq_getElem?, List.getLast?_eq_some_getLast h]
    rfl

/-- A reply without a body is no JSON, even with the status of a success. -/
theorem replyOutcome_of_noContent (base : Url) (r : Request) {reply : Reply}
    (came : reply.close = false) (status : reply.status = 204) :
    replyOutcome base r reply = .error (.execution .network
      (.malformedResponse "EOF while parsing a value at line 1 column 0")) := by
  have exchange : reply.exchange (postFor base r) = .reply 204 [] true := by
    simp [Reply.exchange, came, status, Sample.isBodiless]
  have refusal : Json.parse [] =
      .error { cause := .endInValue, position := { line := 1, column := 0 } } := rfl
  have message :
      Json.Error.message { cause := .endInValue, position := { line := 1, column := 0 } } =
        "EOF while parsing a value at line 1 column 0" := by decide
  rw [replyOutcome, exchange, outcomeOf_of_success _ (by decide), refusal, ← message]
  rfl

/-! ## One call -/

section

variable (replies : List Reply) (base : Url)

theorem invoke_server_of_sendable (received : List Post) {r : Request}
    (h : sendable base r = true) :
    ((strategy (server replies) base).invoke received r).outcome =
        replyOutcome base r (replyAt replies received.length) ∧
      ((strategy (server replies) base).invoke received r).state =
        received ++ [postFor base r] := by
  have sent : isSendable (postFor base r).url = true := h
  simp only [strategy_invoke, sent, if_true]
  exact ⟨rfl, rfl⟩

theorem invoke_server_of_not_sendable (received : List Post) {r : Request}
    (h : sendable base r = false) :
    ((strategy (server replies) base).invoke received r).outcome =
        .error (.execution .network (notSent (endpoint base r))) ∧
      ((strategy (server replies) base).invoke received r).state = received := by
  rw [invoke_of_not_sendable (server replies) received h]
  exact ⟨rfl, rfl⟩

/-! ## Whole runs -/

/-- The posts of a run are those of the requests that can be sent, in their order. -/
theorem posts_run (received : List Post) (rs : List Request) :
    ((strategy (server replies) base).run received rs).2 =
      received ++ (rs.filter (sendable base)).map (postFor base) := by
  induction rs generalizing received with
  | nil => simp [Strategy.run]
  | cons r rs ih =>
    simp only [Strategy.run, ih]
    cases h : sendable base r with
    | true =>
      rw [(invoke_server_of_sendable replies base received h).2, List.filter_cons_of_pos h]
      simp
    | false =>
      rw [(invoke_server_of_not_sendable replies base received h).2,
        List.filter_cons_of_neg (by simp [h])]

/-- The outcome of a call in a run: that of the reply to its post. -/
theorem getElem?_outcomes_run (received : List Post) {rs : List Request} {i : Nat} {r : Request}
    (hi : rs[i]? = some r) :
    ((strategy (server replies) base).run received rs).1[i]? = some
      (if sendable base r then
        replyOutcome base r
          (replyAt replies (received.length + (rs.take i).countP (sendable base)))
      else .error (.execution .network (notSent (endpoint base r)))) := by
  -- the posts before the call are those received at the start and those of the requests before it
  induction rs generalizing received i with
  | nil => cases hi
  | cons r' rs ih =>
    cases i with
    | zero =>
      cases hi
      simp only [Strategy.run, List.getElem?_cons_zero, List.take_zero, List.countP_nil]
      cases h : sendable base r with
      | true => rw [(invoke_server_of_sendable replies base received h).1]; rfl
      | false => rw [(invoke_server_of_not_sendable replies base received h).1]; rfl
    | succ i =>
      simp only [Strategy.run, List.getElem?_cons_succ, List.take_succ_cons]
      rw [ih _ hi]
      cases h : sendable base r' with
      | true =>
        rw [(invoke_server_of_sendable replies base received h).2, List.countP_cons_of_pos h,
          List.length_append, List.length_singleton, Nat.add_assoc, Nat.add_comm 1]
      | false =>
        rw [(invoke_server_of_not_sendable replies base received h).2,
          List.countP_cons_of_neg (by simp [h])]

end

/-- What a run against a server with a list of replies comes to. -/
structure ServerRun (replies : List Reply) (base : Url) (rs : List Request)
    (outcomes : List Outcome) (posts : List Post) : Prop where
  /-- Each request that can be sent is exactly one post of its arguments to its endpoint, and the
  posts come in the order of the requests. -/
  posts : posts = (rs.filter (sendable base)).map fun r =>
    { url := endpoint base r, body := Utf8.bytes r.argsJson }
  /-- Such a request gets the reply with the number of its post, or the last one. Its outcome is
  a function of the request and that reply, and is what the exchange says. -/
  answered : ∀ (i : Nat) (r : Request), rs[i]? = some r → sendable base r = true →
    ∃ reply, replies[min ((rs.take i).countP (sendable base)) (replies.length - 1)]? = some reply ∧
      outcomes[i]? = some (replyOutcome base r reply) ∧
      Classified (reply.exchange (postFor base r)) (replyOutcome base r reply)
  /-- Any other request fails without a post, whatever the replies. -/
  unsent : ∀ (i : Nat) (r : Request), rs[i]? = some r → sendable base r = false →
    outcomes[i]? = some (.error (.execution .network (notSent (endpoint base r))))

/-- The whole run, whatever the replies and the requests: one post for each request that can be
sent, and an outcome by the reply to it. -/
theorem server_run {replies : List Reply} (h : replies ≠ []) (base : Url) (rs : List Request) :
    let run := (strategy (server replies) base).run [] rs
    ServerRun replies base rs run.1 run.2 ∧
      (∀ x : Exchange, ∃ c, ∀ c', x.Is c' ↔ c' = c) ∧
      ∀ (r : Request) (reply : Reply), reply.close = false → reply.status = 204 →
        replyOutcome base r reply = .error (.execution .network
          (.malformedResponse "EOF while parsing a value at line 1 column 0")) := by
  refine ⟨?_, Exchange.exists_case, fun r reply => replyOutcome_of_noContent base r⟩
  constructor
  · rw [posts_run, List.nil_append]
    refine List.map_congr_left fun r _ => ?_
    rw [postFor, Request.argsJson, Json.Value.bytes_text]
  · intro i r hi sent
    have outcome := getElem?_outcomes_run replies base [] hi
    rw [sent, List.length_nil, Nat.zero_add] at outcome
    exact ⟨_, replyAt_eq h _, outcome, classified_outcomeOf _ _⟩
  · intro i r hi unsent
    have outcome := getElem?_outcomes_run replies base [] hi
    rw [unsent] at outcome
    exact outcome

/-- Three requests against two replies: an echo, then a status without a body. The last reply serves
the third request too. -/
theorem server_run_two :
    let replies : List Reply := [{}, { status := 204 }]
    let rs : List Request :=
      [⟨"lists", "first", []⟩, ⟨"lists", "second", []⟩, ⟨"lists", "third", []⟩]
    let run := (strategy (server replies) Sample.address).run [] rs
    ServerRun replies Sample.address rs run.1 run.2 ∧ run.2.length = 3 ∧
      run.1[2]? = some (.error (.execution .network
        (.malformedResponse "EOF while parsing a value at line 1 column 0"))) := by
  intro replies rs run
  obtain ⟨law, -, noContent⟩ :=
    server_run (show replies ≠ [] from List.cons_ne_nil _ _) Sample.address rs
  obtain ⟨reply, served, outcome, -⟩ := law.answered 2 ⟨"lists", "third", []⟩ rfl (by decide)
  have second : reply = { status := 204 } := by
    have count : (rs.take 2).countP (sendable Sample.address) = 2 := by decide
    rw [count] at served
    cases served
    rfl
  refine ⟨law, ?_, ?_⟩
  · have posts : run.2 = _ := law.posts
    rw [posts]
    decide
  · rw [outcome, second, noContent _ _ rfl rfl]

/-- A request whose endpoint is too long for a message is called without a post, and its outcome is
not that of the reply that waits for it. -/
theorem not_posted_longCall :
    let run := (strategy (server [{}]) Sample.address).run [] [longCall]
    run.2 = [] ∧
      run.1 = [.error (.execution .network (notSent (endpoint Sample.address longCall)))] ∧
      ¬ (run.2.length = 1 ∧ run.1 = [replyOutcome Sample.address longCall {}]) := by
  have step : (strategy (server [{}]) Sample.address).run [] [longCall] =
      ([.error (.execution .network (notSent (endpoint Sample.address longCall)))], []) := by
    rw [Strategy.run, invoke_of_not_sendable _ _ (isSendable_longCall Sample.address)]
    rfl
  intro run
  have posts : run.2 = [] := congrArg Prod.snd step
  refine ⟨posts, congrArg Prod.fst step, ?_⟩
  rw [posts]
  exact fun h => nomatch h.1

end Switchboard.Network
