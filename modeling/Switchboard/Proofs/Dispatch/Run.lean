import Switchboard.Dispatch.Dispatcher

/-!
# Runs of a dispatcher

What decides how a call is routed are the `Controls` of a dispatcher, and whether it has a native
strategy. Here it is said once what a step and a run do to them:

* `way`: a call goes to the network at once, to the native strategy alone, or to one after the other;
* `step_frame`, `run_frame`: a call leaves the controls alone, each of the other steps changes its
  own part of them, and no step exchanges a strategy, so a native strategy that is missing stays
  missing for the same reason;
* `step_of_call`, `step_of_change`: a step that calls is `dispatch` with the preference in force
  (`Controls.call?`), and any other step touches no strategy;
* `run_append`, `getElem?_run`: what a step gives in a run depends on the steps before it alone.
-/
namespace Switchboard

theorem Availability.reason?_map {α β : Type} (f : α → β) (a : Availability α) :
    (a.map f).reason? = a.reason? := by
  cases a <;> rfl

namespace Dispatch

open Dispatcher (Step)

/-- What decides the routing of a call, apart from whether there is a native strategy. -/
structure Controls where
  mode : Mode
  preferNative : Bool
  selector : Selector

namespace Controls

def after (c : Controls) : Step → Controls
  | .setMode m => { c with mode := m }
  | .setPreference p => { c with preferNative := p }
  | .register p => { c with selector := c.selector.register p }
  | _ => c

/-- The request of a call and the preference in force for it: the one that comes with the call, the
stored one, or the selector's. -/
def call? (c : Controls) (nativeAvailable : Bool) : Step → Option (Request × Bool)
  | .dispatch r p => some (r, p)
  | .call r => some (r, c.preferNative)
  | .auto r => some (r, c.selector.prefersNative r (c.mode ≠ .network && nativeAvailable))
  | _ => none

end Controls

/-- The reason in an outcome that says that its strategy cannot be used. -/
def unusable? : Outcome → Option String
  | .error (.unavailable _ reason) => some reason
  | _ => none

theorem unusable?_eq_some {o : Outcome} {reason : String} :
    unusable? o = some reason ↔ ∃ k, o = .error (.unavailable k reason) := by
  unfold unusable?
  split
  · rename_i k why
    refine ⟨?_, ?_⟩
    · intro h; cases h; exact ⟨k, rfl⟩
    · rintro ⟨_, h⟩; cases h; rfl
  · rename_i h
    refine ⟨?_, ?_⟩
    · intro e; cases e
    · rintro ⟨k, rfl⟩; exact absurd rfl (h k reason)

namespace Dispatcher

variable {ν μ : Type}

def controls (d : Dispatcher ν μ) : Controls := ⟨d.mode, d.preferNative, d.selector⟩

/-- The strategies of a dispatcher without the states they are in. -/
def strategies (d : Dispatcher ν μ) : Availability (Strategy ν) × Strategy μ :=
  (d.native.map (·.strategy), d.network.strategy)

theorem reason?_of_strategies {d e : Dispatcher ν μ} (h : e.strategies = d.strategies) :
    e.native.reason? = d.native.reason? := by
  have h1 : e.native.map (·.strategy) = d.native.map (·.strategy) := congrArg Prod.fst h
  rw [← Availability.reason?_map (·.strategy), h1, Availability.reason?_map]

theorem nativeAvailable_eq (d : Dispatcher ν μ) : d.nativeAvailable = d.native.reason?.isNone := by
  unfold nativeAvailable
  cases d.native <;> rfl

/-! ## One call -/

theorem invokeNative_of_available {d : Dispatcher ν μ} {s : Running ν}
    (h : d.native = .available s) (r : Request) :
    d.invokeNative r =
      { outcome := (s.invoke r).outcome, log := (s.invoke r).log
        state := { d with native := .available (s.invoke r).state } } := by
  unfold invokeNative; rw [h]

theorem invokeNative_of_unavailable {d : Dispatcher ν μ} {reason : String}
    (h : d.native = .unavailable reason) (r : Request) :
    d.invokeNative r =
      { outcome := .error (.unavailable .native reason), log := [], state := d } := by
  unfold invokeNative; rw [h]

theorem invokeWithFallback_of_some {d : Dispatcher ν μ} {r : Request} {reason : String}
    (h : unusable? (d.invokeNative r).outcome = some reason) :
    d.invokeWithFallback r =
      let first := d.invokeNative r
      let second := first.state.invokeNetwork r
      { outcome := second.outcome.mapError (.fallbackFailed reason)
        log := first.log ++ .fallingBack r.service r.function reason :: second.log
        state := second.state } := by
  obtain ⟨k, hk⟩ := unusable?_eq_some.mp h
  unfold invokeWithFallback
  simp only [hk]

theorem invokeWithFallback_of_none {d : Dispatcher ν μ} {r : Request}
    (h : unusable? (d.invokeNative r).outcome = none) :
    d.invokeWithFallback r = d.invokeNative r := by
  unfold invokeWithFallback
  simp only
  split
  · rename_i k reason hk
    rw [hk] at h; cases h
  · rfl

theorem dispatch_of_direct {d : Dispatcher ν μ} {p : Bool}
    (h : d.mode = .network ∨ d.mode = .both ∧ p = false) (r : Request) :
    d.dispatch r p = d.invokeNetwork r := by
  unfold dispatch
  rcases h with h | ⟨h, rfl⟩ <;> rw [h]
  rfl

theorem dispatch_of_native {d : Dispatcher ν μ} (h : d.mode = .native) (r : Request) (p : Bool) :
    d.dispatch r p = d.invokeNative r := by
  unfold dispatch; rw [h]

theorem dispatch_of_both {d : Dispatcher ν μ} (h : d.mode = .both) (r : Request) :
    d.dispatch r true = d.invokeWithFallback r := by
  unfold dispatch; rw [h]; rfl

theorem invokeNetwork_frame (d : Dispatcher ν μ) (r : Request) :
    (d.invokeNetwork r).state.controls = d.controls ∧
      (d.invokeNetwork r).state.strategies = d.strategies := ⟨rfl, rfl⟩

theorem invokeNative_frame (d : Dispatcher ν μ) (r : Request) :
    (d.invokeNative r).state.controls = d.controls ∧
      (d.invokeNative r).state.strategies = d.strategies ∧
      (d.invokeNative r).state.network = d.network := by
  cases h : d.native with
  | available s =>
    rw [invokeNative_of_available h]
    refine ⟨rfl, ?_, rfl⟩
    simp only [strategies, h]; rfl
  | unavailable reason => rw [invokeNative_of_unavailable h]; exact ⟨rfl, rfl, rfl⟩

/-- All ways of a call: to the network at once, to the native strategy alone, or to one after the
other. -/
inductive Way (d : Dispatcher ν μ) (r : Request) (p : Bool) : Prop where
  | direct (free : d.mode = .network ∨ d.mode = .both ∧ p = false)
    (same : d.dispatch r p = d.invokeNetwork r)
  | native (bound : d.mode = .native ∨ d.mode = .both ∧ p = true ∧
      unusable? (d.invokeNative r).outcome = none)
    (same : d.dispatch r p = d.invokeNative r)
  | fallback (both : d.mode = .both) (preferred : p = true) (reason : String)
    (unusable : unusable? (d.invokeNative r).outcome = some reason)
    (same : d.dispatch r p =
      { outcome := (d.invokeNetwork r).outcome.mapError (.fallbackFailed reason)
        log := (d.invokeNative r).log ++
          .fallingBack r.service r.function reason :: (d.invokeNetwork r).log
        state := ((d.invokeNative r).state.invokeNetwork r).state })

theorem way (d : Dispatcher ν μ) (r : Request) (p : Bool) : d.Way r p := by
  by_cases free : d.mode = .network ∨ d.mode = .both ∧ p = false
  · exact .direct free (dispatch_of_direct free r)
  · cases mode : d.mode with
    | network => exact absurd (.inl mode) free
    | native => exact .native (.inl mode) (dispatch_of_native mode r p)
    | both =>
      have preferred : p = true := (Bool.not_eq_false p).mp fun h => free (.inr ⟨mode, h⟩)
      have same : d.dispatch r p = d.invokeWithFallback r := by
        rw [preferred]
        exact dispatch_of_both mode r
      cases unusable : unusable? (d.invokeNative r).outcome with
      | none =>
        exact .native (.inr ⟨mode, preferred, unusable⟩)
          (same.trans (invokeWithFallback_of_none unusable))
      | some reason =>
        refine .fallback mode preferred reason unusable ?_
        have untouched := (d.invokeNative_frame r).2.2
        rw [same, invokeWithFallback_of_some unusable]
        simp only [invokeNetwork, untouched]

theorem dispatch_frame (d : Dispatcher ν μ) (r : Request) (p : Bool) :
    (d.dispatch r p).state.controls = d.controls ∧
      (d.dispatch r p).state.strategies = d.strategies := by
  obtain ⟨controls, strategies, -⟩ := d.invokeNative_frame r
  cases d.way r p with
  | direct free same => rw [same]; exact d.invokeNetwork_frame r
  | native bound same => rw [same]; exact ⟨controls, strategies⟩
  | fallback both preferred reason unusable same =>
    rw [same]
    obtain ⟨controls', strategies'⟩ := (d.invokeNative r).state.invokeNetwork_frame r
    exact ⟨controls'.trans controls, strategies'.trans strategies⟩

/-! ## One step -/

/-- A step that calls is `dispatch` with the preference in force. -/
theorem step_of_call {d : Dispatcher ν μ} {s : Step} {r : Request} {p : Bool}
    (h : d.controls.call? d.nativeAvailable s = some (r, p)) :
    (d.step s).outcome = some (d.dispatch r p).outcome ∧
      (d.step s).next = (d.dispatch r p).state := by
  cases s with
  | dispatch r' p' | call r' | auto r' => cases h; exact ⟨rfl, rfl⟩
  | setMode m | setPreference p' | register q => cases h

/-- A step that does not call has no outcome and touches no strategy. -/
theorem step_of_change {d : Dispatcher ν μ} {s : Step}
    (h : d.controls.call? d.nativeAvailable s = none) :
    (d.step s).outcome = none ∧ (d.step s).next.native = d.native ∧
      (d.step s).next.network = d.network := by
  cases s with
  | dispatch r p | call r | auto r => cases h
  | setMode m | setPreference p | register q => exact ⟨rfl, rfl, rfl⟩

theorem step_frame (d : Dispatcher ν μ) (s : Step) :
    (d.step s).next.controls = d.controls.after s ∧
      (d.step s).next.strategies = d.strategies := by
  cases s with
  | dispatch r p => exact d.dispatch_frame r p
  | call r => exact d.dispatch_frame r _
  | auto r => exact d.dispatch_frame r _
  | setMode m | setPreference p | register q => exact ⟨rfl, rfl⟩

/-- Properties that the strategies keep when they are used. -/
structure Keeps (P : Running ν → Prop) (Q : Running μ → Prop) : Prop where
  native : ∀ s r, P s → P (s.invoke r).state
  network : ∀ s r, Q s → Q (s.invoke r).state

/-- A property of the strategies of a dispatcher, each in the state that it is in. -/
structure Holds (P : Running ν → Prop) (Q : Running μ → Prop) (d : Dispatcher ν μ) : Prop where
  native : ∀ s, d.native = .available s → P s
  network : Q d.network

section
variable {P : Running ν → Prop} {Q : Running μ → Prop} (hk : Keeps P Q)

include hk in
theorem invokeNetwork_holds {d : Dispatcher ν μ} (h : Holds P Q d) (r : Request) :
    Holds P Q (d.invokeNetwork r).state := ⟨h.native, hk.network _ r h.network⟩

include hk in
theorem invokeNative_holds {d : Dispatcher ν μ} (h : Holds P Q d) (r : Request) :
    Holds P Q (d.invokeNative r).state := by
  cases hn : d.native with
  | available s =>
    rw [invokeNative_of_available hn]
    refine ⟨?_, h.network⟩
    intro t ht
    cases ht
    exact hk.native s r (h.native s hn)
  | unavailable reason => rw [invokeNative_of_unavailable hn]; exact h

include hk in
theorem dispatch_holds {d : Dispatcher ν μ} (h : Holds P Q d) (r : Request) (p : Bool) :
    Holds P Q (d.dispatch r p).state := by
  cases d.way r p with
  | direct free same => rw [same]; exact invokeNetwork_holds hk h r
  | native bound same => rw [same]; exact invokeNative_holds hk h r
  | fallback both preferred reason unusable same =>
    rw [same]
    exact invokeNetwork_holds hk (invokeNative_holds hk h r) r

include hk in
theorem step_holds {d : Dispatcher ν μ} (h : Holds P Q d) (s : Step) :
    Holds P Q (d.step s).next := by
  cases s with
  | dispatch r p => exact dispatch_holds hk h r p
  | call r => exact dispatch_holds hk h r _
  | auto r => exact dispatch_holds hk h r _
  | setMode m | setPreference p | register q => exact ⟨h.native, h.network⟩

include hk in
/-- What each strategy keeps when it is used, a run keeps of both. -/
theorem run_holds {d : Dispatcher ν μ} (h : Holds P Q d) (ss : List Step) :
    Holds P Q (d.run ss).2 := by
  induction ss generalizing d with
  | nil => exact h
  | cons s ss ih => exact ih (step_holds hk h s)

end

/-! ## A whole run -/

theorem run_frame (d : Dispatcher ν μ) (ss : List Step) :
    (d.run ss).2.controls = ss.foldl Controls.after d.controls ∧
      (d.run ss).2.strategies = d.strategies := by
  induction ss generalizing d with
  | nil => exact ⟨rfl, rfl⟩
  | cons s ss ih =>
    obtain ⟨h1, h2⟩ := d.step_frame s
    obtain ⟨i1, i2⟩ := ih (d.step s).next
    refine ⟨?_, i2.trans h2⟩
    rw [List.foldl_cons, ← h1]
    exact i1

theorem run_append (d : Dispatcher ν μ) (ss ts : List Step) :
    d.run (ss ++ ts) = ((d.run ss).1 ++ ((d.run ss).2.run ts).1, ((d.run ss).2.run ts).2) := by
  induction ss generalizing d with
  | nil => rfl
  | cons s ss ih => simp only [List.cons_append, run, ih]

theorem length_run (d : Dispatcher ν μ) (ss : List Step) : (d.run ss).1.length = ss.length := by
  induction ss generalizing d with
  | nil => rfl
  | cons s ss ih => simp only [run, List.length_cons, ih]

/-- What a step gives in a run is what it gives after the steps before it. -/
theorem getElem?_run (d : Dispatcher ν μ) (before : List Step) (s : Step) (after : List Step) :
    (d.run (before ++ s :: after)).1[before.length]? = some ((d.run before).2.step s) := by
  rw [run_append, ← d.length_run before, List.getElem?_append_right (Nat.le_refl _), Nat.sub_self]
  rfl

end Dispatcher

end Dispatch

end Switchboard
