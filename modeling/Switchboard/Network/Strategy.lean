import Switchboard.Call.Strategy
import Switchboard.Network.Endpoint

/-!
# The network strategy

A request is posted to its endpoint with the argument list as JSON, and the reply says what comes of
it (specification, §4.1). `outcomeOf` is the whole rule: no reply, or a broken body of a success, is
a transport failure; another status is a failure with the body as text; a complete body of a success
is read as JSON.

An endpoint may be an address that no message can name: its host has a character that a message may
not have there, or it is too long. Then nothing is sent. Nothing is sent either where a call has no
time at all (`hurried`). Any other time is left to the link, as §5 leaves it to the transport: that
it is over before the reply is there is one of the things that may come of an exchange.
-/
namespace Switchboard.Network

structure Post where
  url : Url
  body : List UInt8
  deriving DecidableEq

def Post.contentType : String := "application/json"

/-- What comes back for a post. -/
inductive Exchange where
  /-- No reply: the connection was refused or broke, or the time was over. -/
  | refused
  /-- A reply with the part of its body that arrived in time. -/
  | reply (status : Nat) (body : List UInt8) (complete : Bool)
  deriving DecidableEq

/-- Everything that the network does, as a machine with states in `σ`. -/
structure Link (σ : Type) where
  exchange : σ → Post → Exchange × σ

/-- The address of an endpoint as failures name it. -/
def shownUrl (url : Url) : String := url.withoutCredentials.text

/-- Whether a character may stand in the host of a message. -/
def fitsHost (c : Char) : Bool := c != '\x22' && c != '\x60' && c != '\x7b' && c != '\x7d'

/-- The bytes that an address in a message may have. -/
def maxAddressBytes : Nat := 65534

/-- Whether a message can be sent to an address. -/
def isSendable (url : Url) : Bool :=
  url.host.chars.all fitsHost && Utf8.size (shownUrl url) ≤ maxAddressBytes

/-- The failure of a call to an endpoint to which nothing can be sent. -/
def notSent (url : Url) : Failure := .transport ("builder error for url (" ++ shownUrl url ++ ")")

/-- What comes of a call to an endpoint (§4.1). -/
def outcomeOf (url : Url) : Exchange → Except Failure Json.Value
  | .refused => .error (.transport ("error sending request for url (" ++ shownUrl url ++ ")"))
  | .reply status body complete =>
    if isSuccess status then
      if complete then (Json.parse body).mapError fun e => .malformedResponse e.message
      else .error (.transport "error decoding response body")
    else .error (.status status (if complete then Utf8.textLossy body else ""))

def recordsOf (url : Url) (r : Request) : Exchange → List Event
  | .refused => [.posting url.text]
  | .reply status _ _ =>
    if isSuccess status then [.posting url.text]
    else [.posting url.text, .refusedByServer r.service r.function status]

def postFor (base : Url) (r : Request) : Post :=
  { url := endpoint base r, body := r.argsValue.bytes }

/-- The strategy that posts to endpoints below a base address. -/
def strategy {σ : Type} (link : Link σ) (base : Url) : Strategy σ where
  kind := .network
  invoke state r :=
    match resolve base r with
    | .error cause => { outcome := .error (.execution .network cause), log := [], state }
    | .ok url =>
      if isSendable url then
        let (exchange, next) := link.exchange state { url, body := r.argsValue.bytes }
        { outcome := (outcomeOf url exchange).mapError (.execution .network)
          log := recordsOf url r exchange
          state := next }
      else
        { outcome := .error (.execution .network (notSent url))
          log := [.posting url.text]
          state }

/-- A request is posted to its endpoint, if a message can be sent there. -/
theorem strategy_invoke {σ : Type} (link : Link σ) (base : Url) (state : σ) (r : Request) :
    (strategy link base).invoke state r =
      let post := postFor base r
      if isSendable post.url then
        let (exchange, next) := link.exchange state post
        { outcome := (outcomeOf post.url exchange).mapError (.execution .network)
          log := recordsOf post.url r exchange
          state := next }
      else
        { outcome := .error (.execution .network (notSent post.url))
          log := [.posting post.url.text]
          state } := by
  simp only [strategy, resolve_eq]
  rfl

/-- The strategy whose calls have no time. Each is given up before anything is sent, and fails as if
no reply had come. -/
def hurried {σ : Type} (base : Url) : Strategy σ where
  kind := .network
  invoke state r :=
    match resolve base r with
    | .error cause => { outcome := .error (.execution .network cause), log := [], state }
    | .ok url =>
      { outcome := (outcomeOf url .refused).mapError (.execution .network)
        log := recordsOf url r .refused
        state }

theorem hurried_invoke {σ : Type} (base : Url) (state : σ) (r : Request) :
    (hurried base).invoke state r =
      let url := endpoint base r
      { outcome := (outcomeOf url .refused).mapError (.execution .network)
        log := recordsOf url r .refused
        state } := by
  simp only [hurried, resolve_eq]

/-- The strategy that the settings describe, over a link. -/
def Settings.strategy {σ : Type} (s : Settings) (link : Link σ) (base : Url) : Strategy σ :=
  if s.timeoutMs = 0 then hurried base else Network.strategy link base

/-- The strategy of the settings in use. No connection is made here. -/
def connect {σ : Type} (link : Link σ) (state : σ) (s : Settings) :
    Except Url.Fault (Running σ × List Event) := do
  let base ← s.base
  return ({ strategy := s.strategy link base, state }, [.targeting base.text])

end Switchboard.Network
