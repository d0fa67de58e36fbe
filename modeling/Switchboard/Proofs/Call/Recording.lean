import Switchboard.Call.Availability
import Switchboard.Call.Strategy

/-!
# Strategies that keep a record

A recorded strategy does what another one does and keeps a record of its calls: what it was asked,
and what it answered. The record is a ghost: no answer depends on it (`Running.invoke_recording`,
`Running.answers_recording`), so what is in the record at the end of a run is what the strategy was
asked in that run.
-/
namespace Switchboard

variable {σ : Type}

/-- A call of a strategy: what it was asked, and what it answered. -/
structure Invocation where
  request : Request
  outcome : Outcome

/-- The state of a recorded strategy: that of the strategy itself, and its calls so far. -/
structure Recorded (σ : Type) where
  own : σ
  record : List Invocation

/-- The strategy that does what `s` does and keeps a record of it. -/
def Strategy.recorded (s : Strategy σ) : Strategy (Recorded σ) where
  kind := s.kind
  invoke state r :=
    let a := s.invoke state.own r
    { outcome := a.outcome, log := a.log
      state := { own := a.state, record := state.record ++ [⟨r, a.outcome⟩] } }

/-- The calls of a recorded strategy that may not be there. -/
def Availability.record (a : Availability (Running (Recorded σ))) : List Invocation :=
  match a with
  | .available s => s.state.record
  | .unavailable _ => []

/-- An answer with a function applied to the next state. -/
def Answer.map {τ : Type} (f : σ → τ) (a : Answer σ) : Answer τ where
  outcome := a.outcome
  log := a.log
  state := f a.state

/-- A strategy in use that continues a record. -/
def Running.recording (s : Running σ) (record : List Invocation) : Running (Recorded σ) where
  strategy := s.strategy.recorded
  state := { own := s.state, record }

/-- Where there is no strategy there is no record either. -/
theorem Availability.record_recording (a : Availability (Running σ)) (record : List Invocation) :
    (a.map (·.recording record)).record = if a.reason? = none then record else [] := by
  cases a <;> rfl

namespace Running

theorem invoke_recording (s : Running σ) (record : List Invocation) (r : Request) :
    (s.recording record).invoke r =
      (s.invoke r).map (·.recording (record ++ [⟨r, (s.invoke r).outcome⟩])) := rfl

/-! ## A strategy alone -/

def answers (s : Running σ) (rs : List Request) : List Outcome := (s.strategy.run s.state rs).1

theorem answers_cons (s : Running σ) (r : Request) (rs : List Request) :
    s.answers (r :: rs) = (s.invoke r).outcome :: (s.invoke r).state.answers rs := rfl

theorem length_answers (s : Running σ) (rs : List Request) : (s.answers rs).length = rs.length := by
  induction rs generalizing s with
  | nil => rfl
  | cons r rs ih => rw [answers_cons, List.length_cons, ih, List.length_cons]

theorem answers_recording (s : Running σ) (record : List Invocation) (rs : List Request) :
    (s.recording record).answers rs = s.answers rs := by
  induction rs generalizing s record with
  | nil => rfl
  | cons r rs ih =>
    rw [answers_cons, answers_cons, invoke_recording]
    exact congrArg _ (ih _ _)

/-- What becomes of a strategy with a list of requests: each answer, and the strategy after it. -/
def trace (s : Running σ) : List Request → List (Outcome × Running σ)
  | [] => []
  | r :: rs => ((s.invoke r).outcome, (s.invoke r).state) :: (s.invoke r).state.trace rs

theorem map_fst_trace (s : Running σ) (rs : List Request) :
    (s.trace rs).map Prod.fst = s.answers rs := by
  induction rs generalizing s with
  | nil => rfl
  | cons r rs ih => rw [answers_cons, trace, List.map_cons, ih]

/-- After each call the record has one more request, the one of that call. -/
theorem requests_trace (s : Running σ) (record : List Invocation) (rs : List Request) (i : Nat)
    (x : Outcome × Running (Recorded σ)) (h : ((s.recording record).trace rs)[i]? = some x) :
    x.2.state.record.map (·.request) = record.map (·.request) ++ rs.take (i + 1) := by
  induction rs generalizing s record i with
  | nil => cases h
  | cons r rs ih =>
    rw [trace, invoke_recording] at h
    cases i with
    | zero => cases h; exact List.map_append
    | succ i =>
      have := ih _ _ i h
      rw [this, List.map_append, List.append_assoc]; rfl

end Running

end Switchboard
