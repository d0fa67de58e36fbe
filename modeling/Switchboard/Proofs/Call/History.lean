import Switchboard.Call.Scripted

/-!
# Any history of a scripted strategy

A scripted strategy can be invoked and cleared, in any order. Its list is what it was asked since it
was last cleared (`sinceClear`, which looks at the history alone), and so the index of an invocation,
by which it may be made to fail, is the number of those before it in its segment, the part of the
history between two clears.

* `replay_start`: the strategy after a history;
* `getElem?_replay`: the answer to an invocation, by those before it since the last clear;
* `Answers`: what a script answers to the arguments of a request;
* `scripted_history`: hence the laws of the list, of the failing index and of all other answers.
-/
namespace Switchboard.Scripted

inductive Use where
  | invoke (r : Request)
  | clear
  deriving DecidableEq

def Use.request? : Use → Option Request
  | invoke r => some r
  | clear => none

def use (d : Running (List Request)) : Use → Option Outcome × Running (List Request)
  | .invoke r => (some (d.invoke r).outcome, (d.invoke r).state)
  | .clear => (none, clear d)

/-- What uses one after the other are answered, and the strategy after them. -/
def replay (d : Running (List Request)) :
    List Use → List (Option Outcome) × Running (List Request)
  | [] => ([], d)
  | u :: us =>
    let (o, next) := use d u
    let (os, last) := replay next us
    (o :: os, last)

/-- The requests of the invocations behind the last clear of a history. -/
def sinceClear (history : List Use) : List Request :=
  ((history.reverse.takeWhile (· ≠ .clear)).filterMap Use.request?).reverse

/-- A part of a history between two clears, or between its start or end and a clear. -/
structure Segment (history : List Use) where
  before : List Use
  requests : List Request
  after : List Use
  parts : history = before ++ requests.map .invoke ++ after
  starts : before = [] ∨ ∃ us, before = us ++ [.clear]
  ends : after = [] ∨ ∃ us, after = .clear :: us

/-- How many requests there are since the last clear where invocation `i` of a segment is made. -/
def Segment.received {history : List Use} (g : Segment history) (i : Nat) : Nat :=
  (sinceClear (g.before ++ (g.requests.take i).map .invoke)).length

/-! ## The list -/

theorem sinceClear_invoke (us : List Use) (r : Request) :
    sinceClear (us ++ [.invoke r]) = sinceClear us ++ [r] := by
  simp [sinceClear, Use.request?]

theorem sinceClear_clear (us : List Use) : sinceClear (us ++ [.clear]) = [] := by
  simp [sinceClear]

theorem sinceClear_invokes (us : List Use) (rs : List Request) :
    sinceClear (us ++ rs.map .invoke) = sinceClear us ++ rs := by
  induction rs generalizing us with
  | nil => rw [List.map_nil, List.append_nil, List.append_nil]
  | cons r rs ih =>
    rw [List.map_cons, List.append_cons, ih, sinceClear_invoke]
    exact (List.append_cons _ _ _).symm

variable (s : Scripted)

/-- One use changes the list as the history says. -/
theorem use_after (before : List Use) (u : Use) :
    (use ⟨s.strategy, sinceClear before⟩ u).2 = ⟨s.strategy, sinceClear (before ++ [u])⟩ := by
  cases u with
  | invoke r => rw [sinceClear_invoke]; rfl
  | clear => rw [sinceClear_clear]; rfl

theorem replay_after (before us : List Use) :
    (replay ⟨s.strategy, sinceClear before⟩ us).2 = ⟨s.strategy, sinceClear (before ++ us)⟩ := by
  -- a use moves from the rest of the history to what stands before it
  induction us generalizing before with
  | nil => rw [List.append_nil]; rfl
  | cons u us ih =>
    change (replay (use _ u).2 us).2 = _
    rw [use_after, ih, List.append_assoc]
    rfl

theorem replay_start (us : List Use) :
    (replay s.start us).2 = ⟨s.strategy, sinceClear us⟩ := replay_after s [] us

/-! ## The answers -/

theorem replay_append (d : Running (List Request)) (us vs : List Use) :
    (replay d (us ++ vs)).1 = (replay d us).1 ++ (replay (replay d us).2 vs).1 := by
  induction us generalizing d with
  | nil => rfl
  | cons u us ih => exact congrArg ((use d u).1 :: ·) (ih _)

theorem length_replay (d : Running (List Request)) (us : List Use) :
    (replay d us).1.length = us.length := by
  induction us generalizing d with
  | nil => rfl
  | cons u us ih => exact congrArg (· + 1) (ih _)

/-- An invocation is answered by the number of those before it since the last clear. -/
theorem getElem?_replay (before : List Use) (r : Request) (after : List Use) :
    (replay s.start (before ++ .invoke r :: after)).1[before.length]? =
      some (some (s.outcome (sinceClear before).length r)) := by
  rw [replay_append, List.getElem?_append_right (Nat.le_of_eq (length_replay _ _)),
    length_replay, Nat.sub_self, replay_start]
  rfl

variable {s}

theorem outcome_of_failAt {received : Nat} {text : String} (h : s.failAt = some (received, text))
    (r : Request) : s.outcome received r = .error (.execution s.kind (.remote text)) := by
  rw [outcome, h]
  exact if_pos rfl

theorem outcome_of_other {received : Nat} (h : ∀ text, s.failAt ≠ some (received, text))
    (r : Request) : s.outcome received r = s.scriptedOutcome r := by
  rw [outcome]
  cases failAt : s.failAt with
  | none => rfl
  | some fails =>
    obtain ⟨index, text⟩ := fails
    refine if_neg fun same => h text ?_
    rw [failAt, same]

/-- What a script answers to a request, by its arguments alone. -/
inductive Answers (s : Scripted) (r : Request) : Outcome → Prop
  | echo (script : s.script = .echo) : Answers s r (.ok (.array r.args))
  | value {v : Json.Value} (script : s.script = .value v) : Answers s r (.ok v)
  | unavailable {reason : String} (script : s.script = .unavailable reason) :
      Answers s r (.error (.unavailable s.kind reason))
  | fail {text : String} (script : s.script = .fail text) :
      Answers s r (.error (.execution s.kind (.remote text)))
  | malformed {text : String} (script : s.script = .malformed text) :
      Answers s r (.error (.execution s.kind (.malformedResponse text)))

theorem answers_scriptedOutcome (s : Scripted) (r : Request) :
    s.Answers r (s.scriptedOutcome r) := by
  unfold scriptedOutcome
  split <;> rename_i script
  · exact .echo script
  · exact .value script
  · exact .unavailable script
  · exact .fail script
  · exact .malformed script

/-- In a segment, the index of an invocation is its place. -/
theorem Segment.received_eq {history : List Use} (g : Segment history) {i : Nat}
    (h : i < g.requests.length) : g.received i = i := by
  have none : sinceClear g.before = [] := by
    rcases g.starts with e | ⟨us, e⟩
    · rw [e]; rfl
    · rw [e, sinceClear_clear]
  rw [received, sinceClear_invokes, none, List.nil_append, List.length_take]
  omega

/-! ## Any history -/

/-- The laws of a scripted strategy that has been used as `history` says. -/
structure Recounts (s : Scripted) (history : List Use) : Prop where
  calls : calls (replay s.start history).2 = sinceClear history
  callCount : callCount (replay s.start history).2 = (sinceClear history).length
  /-- The invocation at the failing index fails, whatever the script is. -/
  failing : ∀ before r after text, history = before ++ .invoke r :: after →
    s.failAt = some ((sinceClear before).length, text) →
    (replay s.start history).1[before.length]? =
      some (some (.error (.execution s.kind (.remote text))))
  /-- Any other is answered by the script. -/
  scripted : ∀ before r after, history = before ++ .invoke r :: after →
    (∀ text, s.failAt ≠ some ((sinceClear before).length, text)) →
    (replay s.start history).1[before.length]? = some (some (s.scriptedOutcome r)) ∧
      s.Answers r (s.scriptedOutcome r)
  /-- A segment that is long enough has one invocation at an index. -/
  once : ∀ (g : Segment history) (index : Nat), index < g.requests.length →
    ∃ i < g.requests.length, g.received i = index ∧
      ∀ j < g.requests.length, g.received j = index → j = i
  never : ∀ (g : Segment history) (index : Nat), g.requests.length ≤ index →
    ∀ i < g.requests.length, g.received i ≠ index

/-- The list of a scripted strategy is what it was asked since it was last cleared, the failing index
counts from there, and the script answers by the arguments alone. -/
theorem scripted_history (s : Scripted) (history : List Use) :
    s.Recounts history ∧
      ∀ r r' : Request, r.args = r'.args → s.scriptedOutcome r = s.scriptedOutcome r' := by
  refine ⟨⟨?_, ?_, ?_, ?_, ?_, ?_⟩, ?_⟩
  · rw [replay_start]
    rfl
  · rw [replay_start]
    rfl
  · rintro before r after text rfl failAt
    rw [getElem?_replay, outcome_of_failAt failAt]
  · rintro before r after rfl other
    rw [getElem?_replay, outcome_of_other other]
    exact ⟨rfl, s.answers_scriptedOutcome r⟩
  · intro g index within
    refine ⟨index, within, g.received_eq within, fun j hj same => ?_⟩
    rw [← same, g.received_eq hj]
  · intro g index short i hi same
    rw [g.received_eq hi] at same
    omega
  · intro r r' args
    have value : r.argsValue = r'.argsValue := congrArg Json.Value.array args
    unfold scriptedOutcome
    rw [value]

/-- A strategy that always has the same value fails the second request, is cleared, and fails the
second request after that. -/
theorem scripted_history_rearmed :
    let s : Scripted := { kind := .native, script := .value .null, failAt := some (1, "no") }
    let a : Request := { service := "Ledger", function := "open", args := [.bool true] }
    let b : Request := { service := "Ledger", function := "close", args := [] }
    let history : List Use := [.invoke a, .invoke b, .clear, .invoke b, .invoke a, .invoke a]
    let answers := (replay s.start history).1
    let failed : Outcome := .error (.execution .native (.remote "no"))
    calls (replay s.start history).2 = [b, a, a] ∧ callCount (replay s.start history).2 = 3 ∧
      answers[1]? = some (some failed) ∧ answers[3]? = some (some (.ok .null)) ∧
      answers[4]? = some (some failed) ∧ answers[5]? = some (some (.ok .null)) := by
  intro s a b history answers failed
  obtain ⟨laws, -⟩ := scripted_history s history
  have unscripted {r : Request} {o : Outcome} (h : s.Answers r o) : o = .ok .null := by
    cases h with
    | value script => cases script; rfl
    | echo script | unavailable script | fail script | malformed script => cases script
  refine ⟨laws.calls, laws.callCount, laws.failing [.invoke a] b _ "no" rfl rfl, ?_,
    laws.failing [.invoke a, .invoke b, .clear, .invoke b] a _ "no" rfl rfl, ?_⟩
  · obtain ⟨answer, said⟩ := laws.scripted [.invoke a, .invoke b, .clear] b _ rfl fun _ h => by
      cases h
    exact unscripted said ▸ answer
  · obtain ⟨answer, said⟩ := laws.scripted [.invoke a, .invoke b, .clear, .invoke b, .invoke a] a _
      rfl fun _ h => by cases h
    exact unscripted said ▸ answer

end Switchboard.Scripted
