import Switchboard.Call.Error
import Switchboard.Call.Event
import Switchboard.Call.Request

/-!
# Strategies

A strategy is a machine: from its state and a request it gives an answer, which is an outcome, the
records written on the way and the next state. A caller sees the outcome alone and decides by it
(specification, §4.1). A `Running` strategy is the machine together with the state it is in.
-/
namespace Switchboard

/-- What comes of one step of a machine with states in `σ`. -/
structure Answer (σ : Type) where
  outcome : Outcome
  log : List Event
  state : σ

structure Strategy (σ : Type) where
  kind : Kind
  invoke : σ → Request → Answer σ

namespace Strategy

variable {σ : Type}

/-- The answers to a list of requests, one after the other, and the state after them. -/
def run (s : Strategy σ) (state : σ) : List Request → List Outcome × σ
  | [] => ([], state)
  | r :: rs =>
    let a := s.invoke state r
    let (os, last) := s.run a.state rs
    (a.outcome :: os, last)

end Strategy

structure Running (σ : Type) where
  strategy : Strategy σ
  state : σ

/-- One call, after which the strategy is in its next state. -/
def Running.invoke {σ : Type} (s : Running σ) (r : Request) : Answer (Running σ) :=
  let a := s.strategy.invoke s.state r
  { outcome := a.outcome, log := a.log, state := { s with state := a.state } }

end Switchboard
