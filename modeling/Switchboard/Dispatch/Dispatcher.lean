import Switchboard.Call.Availability
import Switchboard.Call.Strategy
import Switchboard.Dispatch.Selector

/-!
# Dispatching calls

A dispatcher has a network strategy, a native strategy or the reason why there is none, and a
`Mode` (specification, E6.1). Only a native strategy that cannot be used leads to the network; a
call that failed stays failed (§4.2). When the network then fails as well, the error keeps both
reasons, which answers the open question of §9.

`dispatch` takes the preference with the call, `call` has it stored, and `auto` asks the selector.
`step` and `run` put these together with the changes of a dispatcher.
-/
namespace Switchboard.Dispatch

inductive Mode where
  /-- The preferred one, and the network in place of a native strategy that cannot be used. -/
  | both
  | network
  | native
  deriving DecidableEq, Repr

def Mode.name : Mode → String
  | both => "both"
  | network => "network"
  | native => "native"

structure Routing where
  mode : Mode := .both
  preferNative : Bool := true
  deriving DecidableEq

/-- The strategies with their states, and how calls are routed between them. -/
structure Dispatcher (ν μ : Type) where
  native : Availability (Running ν)
  network : Running μ
  mode : Mode := .both
  preferNative : Bool := true
  selector : Selector := {}

namespace Dispatcher

variable {ν μ : Type}

def nativeAvailable (d : Dispatcher ν μ) : Bool := d.native.isAvailable

def invokeNetwork (d : Dispatcher ν μ) (r : Request) : Answer (Dispatcher ν μ) :=
  let a := d.network.invoke r
  { outcome := a.outcome, log := a.log, state := { d with network := a.state } }

def invokeNative (d : Dispatcher ν μ) (r : Request) : Answer (Dispatcher ν μ) :=
  match d.native with
  | .available s =>
    let a := s.invoke r
    { outcome := a.outcome, log := a.log, state := { d with native := .available a.state } }
  | .unavailable reason =>
    { outcome := .error (.unavailable .native reason), log := [], state := d }

/-- A call by the native strategy, or by the network if the native strategy cannot be used: the rule
of §4.2. The reason may come from the detection or with the answer. -/
def invokeWithFallback (d : Dispatcher ν μ) (r : Request) : Answer (Dispatcher ν μ) :=
  let first := d.invokeNative r
  match first.outcome with
  | .error (.unavailable _ reason) =>
    let second := first.state.invokeNetwork r
    { outcome := second.outcome.mapError (.fallbackFailed reason)
      log := first.log ++ .fallingBack r.service r.function reason :: second.log
      state := second.state }
  -- a call that failed stays failed
  | _ => first

/-- A call with a preference: §4.2 under the modes of E6.1. -/
def dispatch (d : Dispatcher ν μ) (r : Request) (preferNative : Bool) : Answer (Dispatcher ν μ) :=
  match d.mode with
  | .network => d.invokeNetwork r
  | .native => d.invokeNative r
  | .both => if preferNative then d.invokeWithFallback r else d.invokeNetwork r

def call (d : Dispatcher ν μ) (r : Request) : Answer (Dispatcher ν μ) :=
  d.dispatch r d.preferNative

/-- The strategy that the selector chooses for a call. In mode network it is told of no extension,
as that mode never uses one. -/
def route (d : Dispatcher ν μ) (r : Request) : Kind :=
  d.selector.select r (d.mode ≠ .network && d.nativeAvailable)

/-- A call with the preference that the selector chooses (E6.2). -/
def auto (d : Dispatcher ν μ) (r : Request) : Answer (Dispatcher ν μ) :=
  let kind := d.route r
  let a := d.dispatch r (kind = .native)
  { a with log := .routed r.service r.function kind :: a.log }

inductive Step where
  | dispatch (r : Request) (preferNative : Bool)
  | call (r : Request)
  | auto (r : Request)
  | setMode (m : Mode)
  | setPreference (preferNative : Bool)
  | register (p : Profile)

/-- What comes of a step. Only a call has an outcome. -/
structure Stepped (ν μ : Type) where
  outcome : Option Outcome
  log : List Event
  next : Dispatcher ν μ

def Stepped.ofAnswer (a : Answer (Dispatcher ν μ)) : Stepped ν μ :=
  { outcome := some a.outcome, log := a.log, next := a.state }

def step (d : Dispatcher ν μ) : Step → Stepped ν μ
  | .dispatch r preferNative => .ofAnswer (d.dispatch r preferNative)
  | .call r => .ofAnswer (d.call r)
  | .auto r => .ofAnswer (d.auto r)
  | .setMode m => { outcome := none, log := [], next := { d with mode := m } }
  | .setPreference p => { outcome := none, log := [], next := { d with preferNative := p } }
  | .register p =>
    { outcome := none, log := [], next := { d with selector := d.selector.register p } }

/-- The results of a list of steps, one after the other, and the dispatcher after them. -/
def run (d : Dispatcher ν μ) : List Step → List (Stepped ν μ) × Dispatcher ν μ
  | [] => ([], d)
  | s :: ss =>
    let first := d.step s
    let (others, last) := first.next.run ss
    (first :: others, last)

end Dispatcher

end Switchboard.Dispatch
