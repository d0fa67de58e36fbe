import Switchboard.Native.Strategy
import Switchboard.Network.Strategy
import Switchboard.Proofs.Call.Recording

/-!
# What a transport answers when a call fails

A transport that was built from a configuration fails a call with a failure of its own kind
(`Failure.fits`), and never says by itself that it cannot be used: `network_plain` over any server,
`native_plain` over any library. `PlainRecord.invoke` keeps this for the whole record of a strategy.
-/
namespace Switchboard

/-- Whether a strategy of a kind can fail with a failure. The answer of both can be no JSON. -/
def Failure.fits : Kind → Failure → Bool
  | _, .malformedResponse _ => true
  | .network, .transport _ | .network, .status .. => true
  | .native, .invalidArguments _ | .native, .remote _ => true
  | _, _ => false

/-- An outcome whose error, if it is one, is a failure that fits the kind. -/
def PlainOutcome (k : Kind) (o : Outcome) : Prop :=
  ∀ e, o = .error e → ∃ f : Failure, e = .execution k f ∧ f.fits k = true

theorem PlainOutcome.ne_unavailable {k : Kind} {o : Outcome} (h : PlainOutcome k o) (k' : Kind)
    (reason : String) : o ≠ .error (.unavailable k' reason) := by
  intro e
  obtain ⟨f, hf, -⟩ := h _ e
  cases hf

theorem PlainOutcome.ne_fallbackFailed {k : Kind} {o : Outcome} (h : PlainOutcome k o)
    (reason : String) (x : CallError) : o ≠ .error (.fallbackFailed reason x) := by
  intro e
  obtain ⟨f, hf, -⟩ := h _ e
  cases hf

theorem plainOutcome_mapError {k : Kind} {x : Except Failure Json.Value}
    (h : ∀ f, x = .error f → f.fits k = true) : PlainOutcome k (x.mapError (.execution k)) := by
  intro e he
  cases x with
  | ok v => cases he
  | error f => cases he; exact ⟨f, rfl, h f rfl⟩

/-- A strategy that in every state has plain outcomes only. -/
def Strategy.Plain {σ : Type} (k : Kind) (s : Strategy σ) : Prop :=
  ∀ state r, PlainOutcome k (s.invoke state r).outcome

/-- A recorded strategy with plain outcomes, those in its record included. -/
structure Running.PlainRecord {σ : Type} (k : Kind) (s : Running (Recorded σ)) : Prop where
  strategy : ∃ t : Strategy σ, t.Plain k ∧ s.strategy = t.recorded
  record : ∀ i ∈ s.state.record, PlainOutcome k i.outcome

theorem Running.PlainRecord.invoke {σ : Type} {k : Kind} {s : Running (Recorded σ)}
    (h : s.PlainRecord k) (r : Request) : (s.invoke r).state.PlainRecord k := by
  obtain ⟨t, ht, hs⟩ := h.strategy
  refine ⟨⟨t, ht, hs⟩, ?_⟩
  have hr : (s.invoke r).state.state.record =
      s.state.record ++ [⟨r, (t.invoke s.state.own r).outcome⟩] := by
    simp only [Running.invoke, hs]; rfl
  intro i hi
  rw [hr] at hi
  rcases List.mem_append.mp hi with hi | hi
  · exact h.record i hi
  · rw [List.mem_singleton.mp hi]
    exact ht _ r

namespace Network

theorem fits_outcomeOf (url : Url) (x : Exchange) (f : Failure) (h : outcomeOf url x = .error f) :
    f.fits .network = true := by
  cases x with
  | refused => cases h; rfl
  | reply status body complete =>
    simp only [outcomeOf] at h
    split at h
    · split at h
      · cases hp : Json.parse body with
        | ok v => rw [hp] at h; cases h
        | error e => rw [hp] at h; cases h; rfl
      · cases h; rfl
    · cases h; rfl

/-- Whatever the server does, the network strategy fails as a transport does. -/
theorem network_plain {σ : Type} (link : Link σ) (base : Url) :
    (strategy link base).Plain .network := by
  intro state r
  rw [strategy_invoke]
  simp only
  split
  · exact plainOutcome_mapError fun f h => fits_outcomeOf _ _ f h
  · intro e he
    cases he
    exact ⟨_, rfl, rfl⟩

theorem hurried_plain {σ : Type} (base : Url) : (hurried (σ := σ) base).Plain .network := by
  intro state r
  rw [hurried_invoke]
  simp only
  exact plainOutcome_mapError fun f h => fits_outcomeOf _ _ f h

/-- So does the strategy of any settings. -/
theorem Settings.strategy_plain {σ : Type} (s : Settings) (link : Link σ) (base : Url) :
    (s.strategy link base).Plain .network := by
  unfold Settings.strategy
  split
  · exact hurried_plain base
  · exact network_plain link base

theorem Settings.kind_strategy {σ : Type} (s : Settings) (link : Link σ) (base : Url) :
    (s.strategy link base).kind = .network := by
  unfold Settings.strategy
  split <;> rfl

end Network

namespace Native

theorem fits_handOver (what s : String) (f : Failure) (h : handOver what s = .error f) :
    f.fits .native = true := by
  unfold handOver at h
  split at h
  · cases h
  · cases h; rfl

theorem fits_handOverAll (service function : String) (args : List Json.Value) (f : Failure)
    (h : handOverAll service function args = .error f) : f.fits .native = true := by
  unfold handOverAll at h
  cases h1 : handOver "service name" service with
  | error f1 => rw [h1] at h; cases h; exact fits_handOver _ _ _ h1
  | ok s =>
    cases h2 : handOver "function name" function with
    | error f2 => rw [h1, h2] at h; cases h; exact fits_handOver _ _ _ h2
    | ok t =>
      cases h3 : handOver "arguments" (Json.Value.array args).text with
      | error f3 => rw [h1, h2, h3] at h; cases h; exact fits_handOver _ _ _ h3
      | ok a => rw [h1, h2, h3] at h; cases h

theorem fits_returned (answer : Return) (f : Failure) (h : answer.outcome = .error f) :
    f.fits .native = true := by
  unfold Return.outcome at h
  split at h
  · cases h; rfl
  · simp only at h
    split at h
    · cases h; rfl
    · split at h
      · cases h
      · cases h; rfl

theorem fits_call {ρ : Type} (l : Library ρ) (symbol : String) (limits : Limits) (runtime : ρ)
    (r : Request) (f : Failure) (h : (call (l.module symbol) limits runtime r).1 = .error f) :
    f.fits .native = true := by
  unfold call at h
  split at h
  · cases h; rfl
  · unfold Library.module at h
    simp only at h
    split at h
    · rename_i f' hf
      cases h; exact fits_handOverAll _ _ _ _ hf
    · exact fits_returned _ f h

/-- Whatever the library does, the native strategy fails as a call into it does. -/
theorem native_plain {ρ : Type} (l : Library ρ) (symbol : String) (limits : Limits) :
    (strategy (l.module symbol) limits).Plain .native := by
  intro runtime r
  exact plainOutcome_mapError fun f h => fits_call l symbol limits runtime r f h

end Native

end Switchboard
