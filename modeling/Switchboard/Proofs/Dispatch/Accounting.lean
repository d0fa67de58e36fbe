import Switchboard.Proofs.Call.Recording
import Switchboard.Proofs.Dispatch.Run

/-!
# Which strategies a call asks

`Routed` is all that one call can do: which strategies it asks, and how its outcome comes from their
answers. A dispatcher over recorded strategies shows what was asked.

* `dispatch_recording`, `step_recording`: a call, and any step, does what is listed there, and
  recording does not change what comes of it;
* `run_recording`: a run over recorded strategies is the run itself, with records on the side;
* `Routed.law`: what is listed there obeys `CallLaw`, which says when each strategy is asked;
* `run_accounted`: so does each step of every run, with the controls that the steps before it left.
-/
namespace Switchboard.Dispatch

open Dispatcher (Step Stepped)

/-- All that a call of `r` with preference `p` can do in a mode, where `missing` is the reason why
there is no native strategy, if there is none: what the native strategy and the network are asked
and answer, and what the call comes to. -/
inductive Routed (mode : Mode) (missing : Option String) (r : Request) (p : Bool) :
    List Invocation → List Invocation → Outcome → Prop where
  | direct (o : Outcome) (h : mode = .network ∨ mode = .both ∧ p = false) :
    Routed mode missing r p [] [⟨r, o⟩] o
  | native (o : Outcome) (hn : missing = none)
    (h : mode = .native ∨ mode = .both ∧ p = true ∧ unusable? o = none) :
    Routed mode missing r p [⟨r, o⟩] [] o
  | nothing (reason : String) (hn : missing = some reason) (hm : mode = .native) :
    Routed mode missing r p [] [] (.error (.unavailable .native reason))
  | fallback (reason : String) (o : Outcome) (hn : missing = some reason) (hm : mode = .both)
    (hp : p = true) :
    Routed mode missing r p [] [⟨r, o⟩] (o.mapError (.fallbackFailed reason))
  | lateFallback (k : Kind) (reason : String) (o : Outcome) (hn : missing = none)
    (hm : mode = .both) (hp : p = true) :
    Routed mode missing r p [⟨r, .error (.unavailable k reason)⟩] [⟨r, o⟩]
      (o.mapError (.fallbackFailed reason))

/-- The law of a call: how often and with what each strategy is asked, when it is asked, and whose
answer stands. -/
structure CallLaw (mode : Mode) (missing : Option String) (r : Request) (p : Bool)
    (toNative toNetwork : List Invocation) (outcome : Outcome) : Prop where
  native_once : toNative.length ≤ 1
  network_once : toNetwork.length ≤ 1
  native_request : ∀ i ∈ toNative, i.request = r
  network_request : ∀ i ∈ toNetwork, i.request = r
  native_asked : toNative ≠ [] ↔ missing = none ∧ (mode = .native ∨ mode = .both ∧ p = true)
  network_asked : toNetwork ≠ [] ↔
    mode = .network ∨ mode = .both ∧ p = false ∨
      mode = .both ∧ p = true ∧
        (missing ≠ none ∨ ∃ i ∈ toNative, ∃ k reason, i.outcome = .error (.unavailable k reason))
  /-- The native answer stands if the network is not asked. -/
  native_answers : toNetwork = [] → ∀ i ∈ toNative, outcome = i.outcome
  /-- The network's answer stands if the native strategy is not preferred. -/
  network_answers : mode = .network ∨ mode = .both ∧ p = false →
    ∀ i ∈ toNetwork, outcome = i.outcome
  /-- The network's error is kept below the reason for the fallback. -/
  fallback_answers : mode = .both → p = true → ∀ i ∈ toNetwork, ∃ reason,
    (missing = some reason ∨ ∃ j ∈ toNative, ∃ k, j.outcome = .error (.unavailable k reason)) ∧
      outcome = i.outcome.mapError (.fallbackFailed reason)
  /-- Where nothing can be asked, the reason is the answer. -/
  nothing_asked : toNative = [] → toNetwork = [] →
    ∃ reason, missing = some reason ∧ outcome = .error (.unavailable .native reason)

theorem ne_unavailable {o : Outcome} (h : unusable? o = none) (k : Kind) (reason : String) :
    o ≠ .error (.unavailable k reason) := by
  intro e
  rw [unusable?_eq_some.mpr ⟨k, e⟩] at h
  cases h

theorem Routed.law {mode : Mode} {missing : Option String} {r : Request} {p : Bool}
    {toNative toNetwork : List Invocation} {o : Outcome}
    (h : Routed mode missing r p toNative toNetwork o) :
    CallLaw mode missing r p toNative toNetwork o := by
  cases h with
  | direct _ h =>
    rcases h with rfl | ⟨rfl, rfl⟩
    · constructor <;> simp
    · constructor <;> simp
  | native _ hn h =>
    subst hn
    rcases h with rfl | ⟨rfl, rfl, ho⟩
    · constructor <;> simp
    · have hne := ne_unavailable ho
      constructor <;> simp [hne]
  | nothing reason hn hm => subst hn hm; constructor <;> simp
  | fallback reason _ hn hm hp => subst hn hm hp; constructor <;> simp
  | lateFallback k reason _ hn hm hp => subst hn hm hp; constructor <;> simp

/-- All that a step can do: a call is routed, and any other step asks nothing and gives nothing. -/
def Accounted (c : Controls) (missing : Option String) (s : Step)
    (toNative toNetwork : List Invocation) (outcome : Option Outcome) : Prop :=
  match c.call? missing.isNone s with
  | some (r, p) => ∃ o, outcome = some o ∧ Routed c.mode missing r p toNative toNetwork o
  | none => toNative = [] ∧ toNetwork = [] ∧ outcome = none

namespace Accounted

variable {c : Controls} {missing : Option String} {s : Step} {toNative toNetwork : List Invocation}
  {outcome : Option Outcome}

theorem of_call (h : Accounted c missing s toNative toNetwork outcome) {r : Request} {p : Bool}
    (hc : c.call? missing.isNone s = some (r, p)) :
    ∃ o, outcome = some o ∧ Routed c.mode missing r p toNative toNetwork o := by
  unfold Accounted at h
  rw [hc] at h
  exact h

theorem of_change (h : Accounted c missing s toNative toNetwork outcome)
    (hc : c.call? missing.isNone s = none) : toNative = [] ∧ toNetwork = [] ∧ outcome = none := by
  unfold Accounted at h
  rw [hc] at h
  exact h

/-- A native strategy that is missing is not asked. -/
theorem toNative_eq_nil {reason : String}
    (h : Accounted c (some reason) s toNative toNetwork outcome) : toNative = [] := by
  cases hc : c.call? (some reason).isNone s with
  | some call =>
    obtain ⟨o, -, hr⟩ := h.of_call hc
    cases hr <;> first | rfl | contradiction
  | none => exact (h.of_change hc).1

end Accounted

namespace Dispatcher

variable {ν μ : Type}

/-- A dispatcher whose strategies continue their records. -/
def recording (d : Dispatcher ν μ) (native network : List Invocation) :
    Dispatcher (Recorded ν) (Recorded μ) where
  native := d.native.map (·.recording native)
  network := d.network.recording network
  mode := d.mode
  preferNative := d.preferNative
  selector := d.selector

def recorded (d : Dispatcher ν μ) : Dispatcher (Recorded ν) (Recorded μ) := d.recording [] []

def nativeRecord (d : Dispatcher (Recorded ν) μ) : List Invocation := d.native.record

def networkRecord (d : Dispatcher ν (Recorded μ)) : List Invocation := d.network.state.record

theorem nativeAvailable_recording (d : Dispatcher ν μ) (a b : List Invocation) :
    (d.recording a b).nativeAvailable = d.nativeAvailable := by
  unfold nativeAvailable recording
  cases d.native <;> rfl

/-! ## One call -/

theorem invokeNetwork_recording (d : Dispatcher ν μ) (a b : List Invocation) (r : Request) :
    (d.recording a b).invokeNetwork r =
      (d.invokeNetwork r).map (·.recording a (b ++ [⟨r, (d.invokeNetwork r).outcome⟩])) := rfl

/-- A native attempt is recorded if there is a native strategy. Where there is none there is no
record either. -/
theorem invokeNative_recording (d : Dispatcher ν μ) (a b : List Invocation) (r : Request) :
    ∃ toNative : List Invocation,
      (d.recording a b).invokeNative r = (d.invokeNative r).map (·.recording (a ++ toNative) b) ∧
      (d.native.reason? = none ∧ toNative = [⟨r, (d.invokeNative r).outcome⟩] ∨
        ∃ reason, d.native.reason? = some reason ∧ toNative = [] ∧
          (d.invokeNative r).outcome = .error (.unavailable .native reason)) := by
  cases h : d.native with
  | available s =>
    have hr : (d.recording a b).native = .available (s.recording a) := by
      simp only [recording, h]; rfl
    rw [invokeNative_of_available h, invokeNative_of_available hr]
    exact ⟨[⟨r, (s.invoke r).outcome⟩], rfl, .inl ⟨rfl, rfl⟩⟩
  | unavailable reason =>
    have hr : (d.recording a b).native = .unavailable reason := by
      simp only [recording, h]; rfl
    rw [invokeNative_of_unavailable h, invokeNative_of_unavailable hr]
    exact ⟨[], by rw [List.append_nil]; rfl, .inr ⟨reason, rfl, rfl, rfl⟩⟩

theorem invokeWithFallback_recording (d : Dispatcher ν μ) (a b : List Invocation) (r : Request) :
    ∃ toNative toNetwork : List Invocation,
      (d.recording a b).invokeWithFallback r =
        (d.invokeWithFallback r).map (·.recording (a ++ toNative) (b ++ toNetwork)) ∧
      Routed .both d.native.reason? r true toNative toNetwork (d.invokeWithFallback r).outcome := by
  obtain ⟨toNative, hrec, hnat⟩ := d.invokeNative_recording a b r
  have hout : ((d.recording a b).invokeNative r).outcome = (d.invokeNative r).outcome := by
    rw [hrec]; rfl
  cases hu : unusable? (d.invokeNative r).outcome with
  | none =>
    rw [invokeWithFallback_of_none hu, invokeWithFallback_of_none (by rw [hout]; exact hu), hrec]
    refine ⟨toNative, [], by rw [List.append_nil], ?_⟩
    rcases hnat with ⟨hm, rfl⟩ | ⟨reason, -, -, ho⟩
    · exact .native _ hm (.inr ⟨rfl, rfl, hu⟩)
    · rw [ho] at hu; cases hu
  | some reason =>
    rw [invokeWithFallback_of_some hu, invokeWithFallback_of_some (by rw [hout]; exact hu), hrec]
    refine ⟨toNative, _, rfl, ?_⟩
    rcases hnat with ⟨hm, rfl⟩ | ⟨why, hm, rfl, ho⟩
    · obtain ⟨k, hk⟩ := unusable?_eq_some.mp hu
      rw [hk]; exact .lateFallback k reason _ hm rfl rfl
    · rw [ho] at hu; cases hu
      exact .fallback reason _ hm rfl rfl

theorem dispatch_recording_of_direct {d : Dispatcher ν μ} {p : Bool}
    (h : d.mode = .network ∨ d.mode = .both ∧ p = false) (a b : List Invocation) (r : Request) :
    (d.recording a b).dispatch r p =
      (d.dispatch r p).map (·.recording a (b ++ [⟨r, (d.dispatch r p).outcome⟩])) := by
  rw [dispatch_of_direct h, dispatch_of_direct (d := d.recording a b) h, invokeNetwork_recording]

/-- A call asks what the law says, and its outcome does not depend on the recording. -/
theorem dispatch_recording (d : Dispatcher ν μ) (a b : List Invocation) (r : Request) (p : Bool) :
    ∃ toNative toNetwork : List Invocation,
      (d.recording a b).dispatch r p =
        (d.dispatch r p).map (·.recording (a ++ toNative) (b ++ toNetwork)) ∧
      Routed d.mode d.native.reason? r p toNative toNetwork (d.dispatch r p).outcome := by
  by_cases hd : d.mode = .network ∨ d.mode = .both ∧ p = false
  · rw [dispatch_recording_of_direct hd]
    exact ⟨[], _, by rw [List.append_nil], .direct _ hd⟩
  · cases hm : d.mode with
    | network => exact absurd (.inl hm) hd
    | native =>
      obtain ⟨toNative, hrec, hnat⟩ := d.invokeNative_recording a b r
      rw [dispatch_of_native hm, dispatch_of_native (d := d.recording a b) hm, hrec]
      refine ⟨toNative, [], by rw [List.append_nil], ?_⟩
      rcases hnat with ⟨hr, rfl⟩ | ⟨reason, hr, rfl, ho⟩
      · exact .native _ hr (.inl rfl)
      · rw [ho]; exact .nothing reason hr rfl
    | both =>
      have hp : p = true := by
        cases p with
        | false => exact absurd (.inr ⟨hm, rfl⟩) hd
        | true => rfl
      rw [hp, dispatch_of_both hm, dispatch_of_both (d := d.recording a b) hm]
      exact d.invokeWithFallback_recording a b r

/-! ## Steps and runs -/

/-- A step asks what the law says, and its outcome does not depend on the recording. -/
theorem step_recording (d : Dispatcher ν μ) (a b : List Invocation) (s : Step) :
    ∃ toNative toNetwork : List Invocation,
      ((d.recording a b).step s).outcome = (d.step s).outcome ∧
      ((d.recording a b).step s).next = (d.step s).next.recording (a ++ toNative) (b ++ toNetwork) ∧
      Accounted d.controls d.native.reason? s toNative toNetwork (d.step s).outcome := by
  have hn := d.nativeAvailable_recording a b
  unfold Accounted
  rw [← nativeAvailable_eq]
  cases hc : d.controls.call? d.nativeAvailable s with
  | some call =>
    obtain ⟨r, p⟩ := call
    obtain ⟨toNative, toNetwork, hrec, hr⟩ := d.dispatch_recording a b r p
    obtain ⟨h1, h2⟩ := step_of_call hc
    obtain ⟨g1, g2⟩ := step_of_call (d := d.recording a b) (by rw [hn]; exact hc)
    refine ⟨toNative, toNetwork, ?_, ?_, _, h1, hr⟩
    · rw [g1, h1, hrec]; rfl
    · rw [g2, h2, hrec]; rfl
  | none =>
    refine ⟨[], [], ?_, ?_, rfl, rfl, (step_of_change hc).1⟩
    · rw [(step_of_change hc).1, (step_of_change (d := d.recording a b) (by rw [hn]; exact hc)).1]
    · rw [List.append_nil, List.append_nil]
      cases s with
      | dispatch r p | call r | auto r => cases hc
      | setMode m | setPreference p | register q => rfl

/-- A run over recorded strategies is the run itself, with records on the side. -/
theorem run_recording (d : Dispatcher ν μ) (a b : List Invocation) (ss : List Step) :
    (∃ a' b', ((d.recording a b).run ss).2 = (d.run ss).2.recording a' b') ∧
      ((d.recording a b).run ss).1.map (·.outcome) = (d.run ss).1.map (·.outcome) := by
  induction ss generalizing d a b with
  | nil => exact ⟨⟨a, b, rfl⟩, rfl⟩
  | cons s ss ih =>
    obtain ⟨toNative, toNetwork, ho, hn, -⟩ := d.step_recording a b s
    obtain ⟨hs, hos⟩ := ih (d.step s).next (a ++ toNative) (b ++ toNetwork)
    rw [← hn] at hs hos
    refine ⟨hs, ?_⟩
    simp only [run, List.map_cons, ho, hos]

theorem nativeRecord_recording (d : Dispatcher ν μ) (a b : List Invocation) :
    (d.recording a b).nativeRecord = if d.native.reason? = none then a else [] :=
  d.native.record_recording a

/-- In a run of `before`, then `s`, then `after`, the step `s` gives `done`, and `toNative` and
`toNetwork` are the calls of the strategies that it adds to those before it. -/
structure Asked (d : Dispatcher ν μ) (before : List Step) (s : Step) (after : List Step)
    (done : Stepped (Recorded ν) (Recorded μ)) (toNative toNetwork : List Invocation) : Prop where
  gives : (d.recorded.run (before ++ s :: after)).1[before.length]? = some done
  native : done.next.nativeRecord = (d.recorded.run before).2.nativeRecord ++ toNative
  network : done.next.networkRecord = (d.recorded.run before).2.networkRecord ++ toNetwork

theorem Asked.done_eq {d : Dispatcher ν μ} {before after : List Step} {s : Step}
    {done : Stepped (Recorded ν) (Recorded μ)} {toNative toNetwork : List Invocation}
    (h : d.Asked before s after done toNative toNetwork) :
    done = (d.recorded.run before).2.step s := by
  have hg := h.gives
  rw [getElem?_run] at hg
  injection hg with hg
  exact hg.symm

/-- Each step of a run asks something, and it is among what a step can do. -/
theorem run_step (d : Dispatcher ν μ) (before : List Step) (s : Step) (after : List Step) :
    ∃ done toNative toNetwork, d.Asked before s after done toNative toNetwork ∧
      Accounted (before.foldl Controls.after d.controls) d.native.reason? s toNative toNetwork
        done.outcome := by
  obtain ⟨⟨a, b, hab⟩, -⟩ := d.run_recording [] [] before
  have hfound : (d.recorded.run before).2 = (d.run before).2.recording a b := hab
  obtain ⟨hc, hst⟩ := d.run_frame before
  have hr : (d.run before).2.native.reason? = d.native.reason? := reason?_of_strategies hst
  obtain ⟨toNative, toNetwork, ho, hn, hacc⟩ := (d.run before).2.step_recording a b s
  rw [hc, hr] at hacc
  refine ⟨(d.recorded.run before).2.step s, toNative, toNetwork,
    ⟨d.recorded.getElem?_run before s after, ?_, ?_⟩, ?_⟩
  · have hr' : ((d.run before).2.step s).next.native.reason? = d.native.reason? :=
      (reason?_of_strategies ((d.run before).2.step_frame s).2).trans hr
    rw [hfound, hn, nativeRecord_recording, nativeRecord_recording, hr, hr']
    cases hm : d.native.reason? with
    | none => rfl
    | some reason => rw [hm] at hacc; rw [hacc.toNative_eq_nil]; rfl
  · rw [hfound, hn]; rfl
  · rw [hfound, ho]; exact hacc

/-- **Call accounting.** In every run, of any dispatcher over any two strategies, a step that calls
asks the strategies what the law says and answers by it, and any other step asks nothing. The law
is read with the controls to which the steps before have brought the dispatcher; whether there is a
native strategy never changes. -/
theorem run_accounted (d : Dispatcher ν μ) (before : List Step) (s : Step) (after : List Step) :
    let ss := before ++ s :: after
    let c := before.foldl Controls.after d.controls
    (d.recorded.run ss).1.map (·.outcome) = (d.run ss).1.map (·.outcome) ∧
      ∃ done toNative toNetwork, d.Asked before s after done toNative toNetwork ∧
        (∀ r p, c.call? d.nativeAvailable s = some (r, p) →
          ∃ o, done.outcome = some o ∧
            CallLaw c.mode d.native.reason? r p toNative toNetwork o) ∧
        (c.call? d.nativeAvailable s = none →
          toNative = [] ∧ toNetwork = [] ∧ done.outcome = none) := by
  intro ss c
  refine ⟨(d.run_recording [] [] _).2, ?_⟩
  obtain ⟨done, toNative, toNetwork, hasked, hacc⟩ := d.run_step before s after
  rw [nativeAvailable_eq]
  refine ⟨done, toNative, toNetwork, hasked, ?_, hacc.of_change⟩
  intro r p hc
  obtain ⟨o, ho, hr⟩ := hacc.of_call hc
  exact ⟨o, ho, hr.law⟩

end Dispatcher

end Switchboard.Dispatch
