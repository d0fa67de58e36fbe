import Switchboard.Call.Kind

/-!
# Why a call fails

A call fails because its strategy cannot be used (`unavailable`), or because the strategy was used
and the call itself failed (`execution`). Only the first leads to another strategy (specification,
§7). When that one fails too, the result keeps both reasons (`fallbackFailed`, E3).

`CallError.message` words an error and `CallError.sources` lists the errors below it.
-/
namespace Switchboard

/-- Why a strategy that was used could not complete a call (E3). -/
inductive Failure where
  /-- No complete answer came. -/
  | transport (text : String)
  /-- The server answered with a status that is not a success. -/
  | status (code : Nat) (body : String)
  /-- The answer is not JSON. -/
  | malformedResponse (text : String)
  /-- The function that was called reports a failure. -/
  | remote (text : String)
  /-- The arguments were refused before the call. -/
  | invalidArguments (text : String)
  deriving DecidableEq

def Failure.message : Failure → String
  | transport text => "transport error: " ++ text
  | status code body =>
    if body = "" then "HTTP status " ++ code.repr else "HTTP status " ++ code.repr ++ ": " ++ body
  | malformedResponse text => "malformed response: " ++ text
  | remote text => "call failed: " ++ text
  | invalidArguments text => "invalid arguments: " ++ text

/-- Why a call has no result. -/
inductive CallError where
  | unavailable (strategy : Kind) (reason : String)
  | execution (strategy : Kind) (cause : Failure)
  | fallbackFailed (reason : String) (fallback : CallError)
  deriving DecidableEq

namespace CallError

def isUnavailable : CallError → Bool
  | unavailable .. => true
  | _ => false

def isExecution : CallError → Bool
  | execution .. => true
  | _ => false

/-- Whether the answer of the strategy that was used last is not JSON. -/
def isMalformedResponse : CallError → Bool
  | execution _ (.malformedResponse _) => true
  | fallbackFailed _ fallback => fallback.isMalformedResponse
  | _ => false

/-- The strategy that was used last. -/
def strategy : CallError → Kind
  | unavailable k _ => k
  | execution k _ => k
  | fallbackFailed _ fallback => fallback.strategy

def message : CallError → String
  | unavailable k reason => k.name ++ " strategy unavailable: " ++ reason
  | execution k cause => k.name ++ " strategy: " ++ cause.message
  | fallbackFailed reason fallback =>
    "native strategy unavailable (" ++ reason ++ ") and fallback failed: " ++ fallback.message

/-- The errors below an error in words, the nearest first. -/
def sources : CallError → List String
  | unavailable .. => []
  | execution _ cause => [cause.message]
  | fallbackFailed _ fallback => fallback.message :: fallback.sources

end CallError

abbrev Outcome := Except CallError Json.Value

end Switchboard
