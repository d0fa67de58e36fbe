import Switchboard.Bench.Report
import Switchboard.Call.Availability
import Switchboard.Call.Strategy
import Switchboard.Text.Utf8

/-!
# Benchmarks

A benchmark makes the same call many times, first by the native strategy and then by the network
(specification, §4.3). A strategy stops at its first failing call, and the other one still runs
(§7). If both made all their calls, the result is a report; otherwise it names every strategy that
failed. A native strategy that is not there is left out, and nothing takes its place.

The time that the calls take is not decided here: `run` is told it for each strategy.
-/
namespace Switchboard.Bench

/-- What is called and how often. -/
structure Settings where
  iterations : Nat := 10000
  service : String := "CryptoService"
  function : String := "hash_data"
  payloadRepeat : Nat := 1000
  deriving DecidableEq

/-- The text that is repeated to make the payload. -/
def payloadUnit : String := "test_data"

def Settings.payloadSize (s : Settings) : Nat := Utf8.size payloadUnit * s.payloadRepeat

def Settings.payload (s : Settings) : List UInt8 :=
  (List.replicate s.payloadRepeat (Utf8.bytes payloadUnit)).flatten

structure StrategyFailure where
  strategy : Kind
  iteration : Nat
  error : CallError

def StrategyFailure.message (f : StrategyFailure) : String :=
  f.strategy.name ++ " failed at iteration " ++ f.iteration.repr ++ ": " ++ f.error.message

/-- Why there is no report (E3). -/
inductive RunError where
  | invalidIterations
  | strategyFailed (failures : List StrategyFailure)

namespace RunError

def message : RunError → String
  | invalidIterations => "iteration count must be greater than zero"
  | strategyFailed [] => "benchmark failed"
  | strategyFailed failures =>
    "benchmark failed: " ++ String.intercalate "; " (failures.map StrategyFailure.message)

def source? : RunError → Option CallError
  | invalidIterations => none
  | strategyFailed failures => failures.head?.map (·.error)

end RunError

/-- What comes of many calls: the error of the first that failed, with its index. -/
structure Repeated (σ : Type) where
  failure : Option (Nat × CallError)
  log : List Event
  next : Running σ

/-- Makes `left` calls after `done` others, up to the first that fails. -/
def repeatCall {σ : Type} (r : Request) : (left done : Nat) → Running σ → Repeated σ
  | 0, _, s => { failure := none, log := [], next := s }
  | left + 1, done, s =>
    let a := s.invoke r
    match a.outcome with
    -- the time of some of the calls would mean nothing, so the others are not made
    | .error e => { failure := some (done, e), log := a.log, next := a.state }
    | .ok _ =>
      let rest := repeatCall r left (done + 1) a.state
      { rest with log := a.log ++ rest.log }

/-- A strategy after its calls, with its sample or its failure. -/
structure Measured (σ : Type) where
  result : Except StrategyFailure Sample
  log : List Event
  next : Running σ

/-- Makes `count` calls by a strategy. -/
def measure {σ : Type} (s : Running σ) (r : Request) (count : Nat) (elapsed : Kind → Float) :
    Measured σ :=
  let kind := s.strategy.kind
  let calls := repeatCall r count 0 s
  match calls.failure with
  | some (iteration, error) =>
    let failure : StrategyFailure := { strategy := kind, iteration, error }
    { result := .error failure, log := calls.log ++ [.measurementFailed failure.message],
      next := calls.next }
  | none =>
    { result := .ok (Sample.of kind.name count (elapsed kind)),
      log := calls.log ++ [.measured kind count (elapsed kind)], next := calls.next }

/-- The strategies with their states, and what they are to call. -/
structure Harness (ν μ : Type) where
  native : Availability (Running ν)
  network : Running μ
  service : String
  function : String

structure Run (ν μ : Type) where
  result : Except RunError Report
  log : List Event
  next : Harness ν μ

namespace Harness

variable {ν μ : Type}

def nativeAvailable (h : Harness ν μ) : Bool := h.native.isAvailable

/-- The call that is made: the payload is its only argument. -/
def request (h : Harness ν μ) (payload : List UInt8) : Request :=
  { service := h.service, function := h.function, args := [.string (Utf8.textLossy payload)] }

/-- The native part of a benchmark: a sample, a failure, or the reason why it is left out. -/
def runNative (h : Harness ν μ) (r : Request) (count : Nat) (elapsed : Kind → Float) :
    Except StrategyFailure Report × List Event × Availability (Running ν) :=
  match h.native with
  | .available s =>
    let m := measure s r count elapsed
    (m.result.map fun sample => ({} : Report).insert sample, m.log, .available m.next)
  | .unavailable reason =>
    (.ok (({} : Report).skip .native reason), [.nativeSkipped reason], .unavailable reason)

def combine (native : Except StrategyFailure Report) (network : Except StrategyFailure Sample) :
    Except RunError Report :=
  match native, network with
  | .ok report, .ok sample => .ok (report.insert sample)
  | .error f, .ok _ => .error (.strategyFailed [f])
  | .ok _, .error g => .error (.strategyFailed [g])
  | .error f, .error g => .error (.strategyFailed [f, g])

/-- A benchmark of so many calls (§4.3). `elapsed` is the time that all calls of a strategy take. -/
def run (h : Harness ν μ) (elapsed : Kind → Float) (count : Nat) (payload : List UInt8) :
    Run ν μ :=
  if count = 0 then { result := .error .invalidIterations, log := [], next := h }
  else
    let r := h.request payload
    let (nativePart, nativeLog, native) := h.runNative r count elapsed
    let m := measure h.network r count elapsed
    { result := combine nativePart m.result, log := nativeLog ++ m.log,
      next := { h with native, network := m.next } }

end Harness

end Switchboard.Bench
