import Switchboard.Proofs.Call.Failures
import Switchboard.Proofs.Dispatch.Fallback

/-!
# Which errors reach the caller

Over strategies that never say by themselves that they cannot be used (`Strategy.Plain`), "native
strategy unavailable" can only come from the detection, and an error around another one only from a
fallback that the caller asked for.

* `Routed.unavailable_iff`, `Routed.fallbackFailed_iff`: exactly when a call ends in each of them;
* `Accounted.errorLaw`: the same for a step, with the entry by which the call came;
* `run_errors`: every step of every run obeys the law.
-/
namespace Switchboard.Dispatch

open Dispatcher (Step Stepped)

/-- A step that leads to the native strategy first. -/
def Controls.Prefers (c : Controls) (nativeAvailable : Bool) (s : Step) : Prop :=
  ∃ r p, c.call? nativeAvailable s = some (r, p) ∧ (c.mode = .native ∨ c.mode = .both ∧ p = true)

/-- A step that asks for the native strategy itself, and does not leave the choice to the
selector. -/
def Controls.Insists (c : Controls) : Step → Prop
  | .dispatch _ p => p = true
  | .call _ => c.preferNative = true
  | _ => False

/-- The law of errors: whose error an answer is, and when it is one about the strategies. -/
structure ErrorLaw (c : Controls) (missing : Option String) (s : Step)
    (toNative toNetwork : List Invocation) (outcome : Option Outcome) : Prop where
  native_plain : ∀ i ∈ toNative, PlainOutcome .native i.outcome
  network_plain : ∀ i ∈ toNetwork, PlainOutcome .network i.outcome
  /-- What leads straight to the network answers what the network answers. -/
  direct : c.Direct missing.isNone s →
    ∃ i, toNative = [] ∧ toNetwork = [i] ∧ outcome = some i.outcome
  /-- What leads to a native strategy answers what that one answers. -/
  native : missing = none → c.Prefers missing.isNone s →
    ∃ i, toNative = [i] ∧ toNetwork = [] ∧ outcome = some i.outcome
  unavailable : ∀ k reason, outcome = some (.error (.unavailable k reason)) ↔
    k = .native ∧ s.request?.isSome ∧ c.mode = .native ∧ missing = some reason
  fallbackFailed : ∀ reason e, outcome = some (.error (.fallbackFailed reason e)) ↔
    c.mode = .both ∧ missing = some reason ∧ c.Insists s ∧ ∃ i ∈ toNetwork, i.outcome = .error e
  /-- The error below a reason is one of the network, and not again an error around another. -/
  fallback_plain : ∀ reason e, outcome = some (.error (.fallbackFailed reason e)) →
    ∃ f : Failure, e = .execution .network f ∧ f.fits .network = true

/-! ## One call -/

namespace Routed

variable {mode : Mode} {missing : Option String} {r : Request} {p : Bool}
  {toNative toNetwork : List Invocation} {o : Outcome}

theorem of_direct (h : Routed mode missing r p toNative toNetwork o)
    (hd : mode = .network ∨ mode = .both ∧ p = false) : toNative = [] ∧ toNetwork = [⟨r, o⟩] := by
  cases h with
  | direct => exact ⟨rfl, rfl⟩
  | native _ _ h =>
    rcases hd with rfl | ⟨rfl, rfl⟩
    · rcases h with h | ⟨h, -⟩ <;> cases h
    · rcases h with h | ⟨-, h, -⟩ <;> cases h
  | nothing _ _ hm => subst hm; rcases hd with h | ⟨h, -⟩ <;> cases h
  | fallback _ _ _ hm hp => subst hm hp; rcases hd with h | ⟨-, h⟩ <;> cases h
  | lateFallback _ _ _ _ hm hp => subst hm hp; rcases hd with h | ⟨-, h⟩ <;> cases h

section
variable (h : Routed mode missing r p toNative toNetwork o)
  (hnat : ∀ i ∈ toNative, PlainOutcome .native i.outcome)

include h hnat in
theorem of_prefers (hn : missing = none) (hp : mode = .native ∨ mode = .both ∧ p = true) :
    toNative = [⟨r, o⟩] ∧ toNetwork = [] := by
  cases h with
  | direct _ hd =>
    rcases hd with rfl | ⟨rfl, rfl⟩
    · rcases hp with h | ⟨h, -⟩ <;> cases h
    · rcases hp with h | ⟨-, h⟩ <;> cases h
  | native => exact ⟨rfl, rfl⟩
  | nothing _ hs => subst hs; cases hn
  | fallback _ _ hs => subst hs; cases hn
  | lateFallback k reason _ =>
    exact absurd rfl ((hnat _ List.mem_cons_self).ne_unavailable k reason)

variable (hnet : ∀ i ∈ toNetwork, PlainOutcome .network i.outcome)

include h hnat hnet in
/-- A call says that a strategy is missing exactly in mode native without a native strategy. -/
theorem unavailable_iff (k : Kind) (reason : String) :
    o = .error (.unavailable k reason) ↔ k = .native ∧ mode = .native ∧ missing = some reason := by
  refine ⟨?_, ?_⟩
  · intro e
    cases h with
    | direct => exact absurd e ((hnet _ List.mem_cons_self).ne_unavailable k reason)
    | native => exact absurd e ((hnat _ List.mem_cons_self).ne_unavailable k reason)
    | nothing _ hn hm => cases e; exact ⟨rfl, hm, hn⟩
    | fallback _ x | lateFallback _ _ x => cases x <;> cases e
  · rintro ⟨rfl, rfl, rfl⟩
    cases h with
    | direct _ hd => rcases hd with h | ⟨h, -⟩ <;> cases h
    | native _ hn => cases hn
    | nothing _ hn => cases hn; rfl
    | fallback _ _ _ hm | lateFallback _ _ _ _ hm => cases hm

include h hnat hnet in
/-- A call ends in an error around another one exactly if it fell back for want of a native strategy
and the network failed. -/
theorem fallbackFailed_iff (reason : String) (x : CallError) :
    o = .error (.fallbackFailed reason x) ↔
      mode = .both ∧ missing = some reason ∧ p = true ∧ ∃ i ∈ toNetwork, i.outcome = .error x := by
  refine ⟨?_, ?_⟩
  · intro e
    cases h with
    | direct => exact absurd e ((hnet _ List.mem_cons_self).ne_fallbackFailed reason x)
    | native => exact absurd e ((hnat _ List.mem_cons_self).ne_fallbackFailed reason x)
    | nothing => cases e
    | fallback _ y hn hm hp =>
      cases y with
      | ok v => cases e
      | error y => cases e; exact ⟨hm, hn, hp, _, List.mem_cons_self, rfl⟩
    | lateFallback k why _ =>
      exact absurd rfl ((hnat _ List.mem_cons_self).ne_unavailable k why)
  · rintro ⟨rfl, rfl, rfl, i, hi, hx⟩
    cases h with
    | direct _ hd => rcases hd with h | ⟨-, h⟩ <;> cases h
    | native _ hn | lateFallback _ _ _ hn => cases hn
    | nothing _ _ hm => cases hm
    | fallback _ _ hn =>
      cases hn
      rw [List.mem_singleton.mp hi] at hx
      exact congrArg _ hx

end

end Routed

/-! ## One step -/

/-- Without a native strategy only the caller can have preferred it. -/
theorem Controls.insists_iff {c : Controls} {s : Step} {r : Request} {p : Bool}
    (h : c.call? false s = some (r, p)) : c.Insists s ↔ p = true := by
  cases s with
  | dispatch r' p' | call r' => cases h; exact Iff.rfl
  | auto r' =>
    simp only [call?, Bool.and_false, Selector.prefersNative_false] at h
    cases h
    constructor <;> intro h <;> cases h
  | setMode m | setPreference p' | register q => cases h

section
variable {c : Controls} {missing : Option String} {s : Step} {toNative toNetwork : List Invocation}
  {outcome : Option Outcome}

theorem Accounted.errorLaw_of_call (h : Accounted c missing s toNative toNetwork outcome)
    (hnat : ∀ i ∈ toNative, PlainOutcome .native i.outcome)
    (hnet : ∀ i ∈ toNetwork, PlainOutcome .network i.outcome) {r : Request} {p : Bool}
    (hc : c.call? missing.isNone s = some (r, p)) :
    ErrorLaw c missing s toNative toNetwork outcome := by
  obtain ⟨o, ho, hr⟩ := h.of_call hc
  subst ho
  have hfall : ∀ reason e, some o = some (.error (.fallbackFailed reason e)) ↔
      c.mode = .both ∧ missing = some reason ∧ c.Insists s ∧
        ∃ i ∈ toNetwork, i.outcome = .error e := by
    intro reason e
    rw [Option.some_inj, hr.fallbackFailed_iff hnat hnet]
    refine and_congr_right fun _ => and_congr_right fun hm => and_congr_left fun _ => ?_
    rw [hm] at hc
    exact (Controls.insists_iff hc).symm
  refine ⟨hnat, hnet, ?_, ?_, ?_, hfall, ?_⟩
  · rintro ⟨r', p', hc', hd⟩
    rw [hc] at hc'
    cases hc'
    exact ⟨_, (hr.of_direct hd).1, (hr.of_direct hd).2, rfl⟩
  · rintro hn ⟨r', p', hc', hp⟩
    rw [hc] at hc'
    cases hc'
    exact ⟨_, (hr.of_prefers hnat hn hp).1, (hr.of_prefers hnat hn hp).2, rfl⟩
  · intro k reason
    have hq : s.request?.isSome = true := by rw [c.request?_eq missing.isNone, hc]; rfl
    rw [Option.some_inj, hr.unavailable_iff hnat hnet, hq]
    simp only [true_and]
  · intro reason e he
    obtain ⟨-, -, -, i, hi, hx⟩ := (hfall reason e).mp he
    exact hnet i hi e hx

/-- Over plain strategies every step obeys the law of errors. -/
theorem Accounted.errorLaw (h : Accounted c missing s toNative toNetwork outcome)
    (hnat : ∀ i ∈ toNative, PlainOutcome .native i.outcome)
    (hnet : ∀ i ∈ toNetwork, PlainOutcome .network i.outcome) :
    ErrorLaw c missing s toNative toNetwork outcome := by
  cases hc : c.call? missing.isNone s with
  | some call => exact h.errorLaw_of_call hnat hnet hc
  | none =>
    obtain ⟨rfl, rfl, rfl⟩ := h.of_change hc
    have hq : s.request? = none := by rw [c.request?_eq missing.isNone, hc]; rfl
    refine ⟨hnat, hnet, ?_, ?_, ?_, ?_, ?_⟩
    · rintro ⟨r, p, hc', -⟩; rw [hc] at hc'; cases hc'
    · rintro - ⟨r, p, hc', -⟩; rw [hc] at hc'; cases hc'
    · intro k reason; simp [hq]
    · intro reason e; simp
    · intro reason e he; cases he

end

namespace Dispatcher

variable {ν μ : Type}

/-! ## Runs -/

/-- Plain strategies go on giving plain outcomes. -/
theorem keeps_plainRecord :
    Keeps (Running.PlainRecord (σ := ν) .native) (Running.PlainRecord (σ := μ) .network) :=
  ⟨fun _ r h => h.invoke r, fun _ r h => h.invoke r⟩

theorem recorded_holds {d : Dispatcher ν μ}
    (hnat : ∀ s, d.native = .available s → s.strategy.Plain .native)
    (hnet : d.network.strategy.Plain .network) :
    Holds (Running.PlainRecord .native) (Running.PlainRecord .network) d.recorded := by
  have hempty (k : Kind) : ∀ i ∈ ([] : List Invocation), PlainOutcome k i.outcome := by
    intro i hi; cases hi
  refine ⟨?_, ⟨⟨_, hnet, rfl⟩, hempty _⟩⟩
  intro t ht
  cases hn : d.native with
  | available s =>
    simp only [recorded, recording, hn] at ht
    cases ht
    exact ⟨⟨_, hnat s hn, rfl⟩, hempty _⟩
  | unavailable reason =>
    simp only [recorded, recording, hn] at ht
    cases ht

theorem Holds.nativeRecord {Q : Running μ → Prop} {d : Dispatcher (Recorded ν) μ}
    (h : Holds (Running.PlainRecord .native) Q d) :
    ∀ i ∈ d.nativeRecord, PlainOutcome .native i.outcome := by
  intro i hi
  unfold Dispatcher.nativeRecord Availability.record at hi
  split at hi
  · rename_i s hs
    exact (h.native s hs).record i hi
  · cases hi

/-- Over plain strategies every step of every run obeys the law of errors. -/
theorem run_errors (d : Dispatcher ν μ)
    (hnat : ∀ s, d.native = .available s → s.strategy.Plain .native)
    (hnet : d.network.strategy.Plain .network) (before : List Step) (s : Step) (after : List Step) :
    ∃ done toNative toNetwork, d.Asked before s after done toNative toNetwork ∧
      ErrorLaw (before.foldl Controls.after d.controls) d.native.reason? s toNative toNetwork
        done.outcome := by
  obtain ⟨done, toNative, toNetwork, hasked, hacc⟩ := d.run_step before s after
  have hholds : Holds (Running.PlainRecord .native) (Running.PlainRecord .network) done.next := by
    rw [hasked.done_eq]
    exact step_holds keeps_plainRecord
      (run_holds keeps_plainRecord (recorded_holds hnat hnet) before) s
  refine ⟨done, toNative, toNetwork, hasked, hacc.errorLaw ?_ ?_⟩
  · intro i hi
    have hmem : i ∈ done.next.nativeRecord := by
      rw [hasked.native]; exact List.mem_append_right _ hi
    exact hholds.nativeRecord i hmem
  · intro i hi
    have hmem : i ∈ done.next.networkRecord := by
      rw [hasked.network]; exact List.mem_append_right _ hi
    exact hholds.network.record i hmem

end Dispatcher

end Switchboard.Dispatch
