import Switchboard.Call.Strategy

/-!
# A scripted strategy

A stand-in for a transport (specification, E8). It answers by its script, whatever it is asked, and
its state is the list of the requests received since it was last cleared. One call, given by its
index in that list, can be made to fail.
-/
namespace Switchboard

inductive Script where
  /-- The arguments as an array. -/
  | echo
  /-- Always the same value. -/
  | value (v : Json.Value)
  /-- As if it could not be used. -/
  | unavailable (reason : String)
  /-- A failure of the function called. -/
  | fail (text : String)
  /-- An answer that is not JSON. -/
  | malformed (text : String)

/-- A strategy with a script, and the call that is to fail with its message. -/
structure Scripted where
  kind : Kind
  script : Script := .echo
  failAt : Option (Nat × String) := none

namespace Scripted

def scriptedOutcome (s : Scripted) (r : Request) : Outcome :=
  match s.script with
  | .echo => .ok r.argsValue
  | .value v => .ok v
  | .unavailable reason => .error (.unavailable s.kind reason)
  | .fail text => .error (.execution s.kind (.remote text))
  | .malformed text => .error (.execution s.kind (.malformedResponse text))

/-- The answer to a request that finds `received` requests in the list. -/
def outcome (s : Scripted) (received : Nat) (r : Request) : Outcome :=
  match s.failAt with
  | some (index, text) =>
    if index = received then .error (.execution s.kind (.remote text)) else s.scriptedOutcome r
  | none => s.scriptedOutcome r

/-- The strategy. Every request is recorded, also one that fails. -/
def strategy (s : Scripted) : Strategy (List Request) where
  kind := s.kind
  invoke received r :=
    { outcome := s.outcome received.length r, log := [], state := received ++ [r] }

/-! ## In use -/

def start (s : Scripted) : Running (List Request) := ⟨s.strategy, []⟩

/-- The requests received since it was last cleared. -/
def calls (d : Running (List Request)) : List Request := d.state

def callCount (d : Running (List Request)) : Nat := (calls d).length

def clear (d : Running (List Request)) : Running (List Request) := { d with state := [] }

end Scripted

end Switchboard
