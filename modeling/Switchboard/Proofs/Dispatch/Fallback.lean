import Switchboard.Call.Scripted
import Switchboard.Proofs.Dispatch.Accounting

/-!
# Falling back is calling the network

A run of calls that prefer a native strategy which cannot be used, and the run of the same calls
that prefer the network, differ in the wrapping of errors only. Both are compared with the network
strategy alone (`Running.trace`):

* `run_direct`: calls that lead straight to the network give its own answers;
* `run_preferred`: calls that fall back give its answers with the reason around each error;
* `fallback_equivalence`: hence the two runs agree, and so do the other ways to the network.
-/
namespace Switchboard.Dispatch

open Dispatcher (Step Stepped)

def Dispatcher.Step.request? : Step → Option Request
  | .dispatch r _ | .call r | .auto r => some r
  | _ => none

theorem Controls.request?_eq (c : Controls) (there : Bool) (s : Step) :
    s.request? = (c.call? there s).map Prod.fst := by
  cases s <;> rfl

/-- A step that leads straight to the network. -/
def Controls.Direct (c : Controls) (nativeAvailable : Bool) (s : Step) : Prop :=
  ∃ r p, c.call? nativeAvailable s = some (r, p) ∧ (c.mode = .network ∨ c.mode = .both ∧ p = false)

theorem Selector.prefersNative_false (s : Selector) (r : Request) :
    s.prefersNative r false = false := rfl

namespace Controls

theorem direct_dispatch {c : Controls} (h : c.mode = .both) (there : Bool) (r : Request) :
    c.Direct there (.dispatch r false) := ⟨r, false, rfl, .inr ⟨h, rfl⟩⟩

/-- Without a native strategy the selector leads to the network, whatever it knows. -/
theorem direct_auto {c : Controls} (h : c.mode = .both) (r : Request) :
    c.Direct false (.auto r) := by
  refine ⟨r, false, ?_, .inr ⟨h, rfl⟩⟩
  simp only [call?, Bool.and_false, Selector.prefersNative_false]

theorem direct_of_network {c : Controls} (h : c.mode = .network) (there : Bool) {s : Step}
    {r : Request} (hr : s.request? = some r) : c.Direct there s := by
  cases s with
  | dispatch r' p | call r' | auto r' => exact ⟨r', _, rfl, .inl h⟩
  | setMode m | setPreference p | register q => cases hr

end Controls

/-- `x` is what falling back for a reason makes of the network's outcome `y`. -/
structure FellBack (reason : String) (x y : Outcome) : Prop where
  ok : ∀ v, x = .ok v ↔ y = .ok v
  error : ∀ e, x = .error (.fallbackFailed reason e) ↔ y = .error e

theorem fellBack_mapError (reason : String) (o : Outcome) :
    FellBack reason (o.mapError (.fallbackFailed reason)) o := by
  refine ⟨?_, ?_⟩
  · intro v
    cases o with
    | ok w => exact Iff.rfl
    | error x => constructor <;> intro h <;> cases h
  · intro e
    cases o with
    | ok w => constructor <;> intro h <;> cases h
    | error x => constructor <;> intro h <;> cases h <;> rfl

namespace Dispatcher

variable {ν μ : Type}

/-- What the native attempts of a list of calls come to, without the network. -/
def attempts (d : Dispatcher ν μ) (rs : List Request) : List Outcome :=
  match d.native with
  | .available s => s.answers rs
  | .unavailable reason => rs.map fun _ => .error (.unavailable .native reason)

theorem attempts_cons (d : Dispatcher ν μ) (r : Request) (rs : List Request) :
    d.attempts (r :: rs) = (d.invokeNative r).outcome :: (d.invokeNative r).state.attempts rs := by
  cases h : d.native with
  | available s =>
    rw [invokeNative_of_available h]
    simp only [attempts, h]; rfl
  | unavailable reason =>
    rw [invokeNative_of_unavailable h]
    simp only [attempts, h]; rfl

theorem length_attempts (d : Dispatcher ν μ) (rs : List Request) :
    (d.attempts rs).length = rs.length := by
  unfold attempts
  cases d.native with
  | available s => exact s.length_answers rs
  | unavailable reason => exact List.length_map _

theorem attempts_recorded (d : Dispatcher ν μ) (rs : List Request) :
    d.recorded.attempts rs = d.attempts rs := by
  unfold attempts recorded recording
  cases d.native with
  | available s => exact s.answers_recording [] rs
  | unavailable reason => rfl

/-- The outcomes of a run, and the network strategy after each step. -/
def networkView (d : Dispatcher ν μ) (ss : List Step) : List (Option Outcome × Running μ) :=
  (d.run ss).1.map fun x => (x.outcome, x.next.network)

theorem networkView_cons (d : Dispatcher ν μ) (s : Step) (ss : List Step) :
    d.networkView (s :: ss) =
      ((d.step s).outcome, (d.step s).next.network) :: (d.step s).next.networkView ss := rfl

/-- Calls that lead straight to the network give what the network strategy gives alone. -/
theorem run_direct (d : Dispatcher ν μ) (ss : List Step) (rs : List Request)
    (hr : ss.map Step.request? = rs.map some)
    (hd : ∀ s ∈ ss, d.controls.Direct d.nativeAvailable s) :
    d.networkView ss = (d.network.trace rs).map fun x => (some x.1, x.2) := by
  induction ss generalizing d rs with
  | nil =>
    cases rs with
    | nil => rfl
    | cons r rs => cases hr
  | cons s ss ih =>
    obtain ⟨r, p, hc, hm⟩ := hd s List.mem_cons_self
    cases rs with
    | nil => cases hr
    | cons r' rs =>
      rw [List.map_cons, List.map_cons, d.controls.request?_eq, hc] at hr
      injection hr with hhead htail
      injection hhead with hhead
      subst hhead
      obtain ⟨ho, hn⟩ := step_of_call hc
      rw [dispatch_of_direct hm] at ho hn
      -- the network strategy is all that a direct call changes
      have hrest := ih (d.invokeNetwork r).state rs htail
        fun t ht => hd t (List.mem_cons_of_mem _ ht)
      rw [networkView_cons, ho, hn, hrest]
      rfl

/-- Calls that fall back give what the network strategy gives alone, with the reason of the native
attempt around each error. -/
theorem run_preferred (d : Dispatcher ν μ) (rs : List Request) (gone : List (Kind × String))
    (hm : d.mode = .both)
    (hg : d.attempts rs = gone.map fun g => .error (.unavailable g.1 g.2)) :
    d.networkView (rs.map (.dispatch · true)) =
      List.zipWith (fun g x => (some (x.1.mapError (.fallbackFailed g.2)), x.2)) gone
        (d.network.trace rs) := by
  induction rs generalizing d gone with
  | nil => cases gone <;> rfl
  | cons r rs ih =>
    cases gone with
    | nil => rw [attempts_cons] at hg; cases hg
    | cons g gone =>
      rw [attempts_cons, List.map_cons] at hg
      injection hg with hhead htail
      have hu : unusable? (d.invokeNative r).outcome = some g.2 :=
        unusable?_eq_some.mpr ⟨g.1, hhead⟩
      obtain ⟨hc, -, hnet⟩ := d.invokeNative_frame r
      have hstep : d.dispatch r true = d.invokeWithFallback r := dispatch_of_both hm r
      rw [invokeWithFallback_of_some hu] at hstep
      have hrest := ih ((d.invokeNative r).state.invokeNetwork r).state gone
        ((congrArg Controls.mode hc).trans hm) htail
      rw [List.map_cons, networkView_cons, (step_of_call rfl).1, (step_of_call rfl).2, hstep, hrest]
      simp only [invokeNetwork, hnet]
      rfl

theorem getElem?_direct {d : Dispatcher ν μ} {ss : List Step} {rs : List Request}
    (hr : ss.map Step.request? = rs.map some)
    (hd : ∀ s ∈ ss, d.controls.Direct d.nativeAvailable s) {i : Nat} {x : Stepped ν μ}
    (hx : (d.run ss).1[i]? = some x) :
    ∃ t, (d.network.trace rs)[i]? = some t ∧ x.outcome = some t.1 ∧ x.next.network = t.2 := by
  have h : (d.networkView ss)[i]? = some (x.outcome, x.next.network) := by
    rw [networkView, List.getElem?_map, hx]; rfl
  rw [run_direct d ss rs hr hd, List.getElem?_map, Option.map_eq_some_iff] at h
  obtain ⟨t, ht, he⟩ := h
  injection he with h1 h2
  exact ⟨t, ht, h1.symm, h2.symm⟩

theorem getElem?_preferred {d : Dispatcher ν μ} {rs : List Request} {gone : List (Kind × String)}
    (hm : d.mode = .both)
    (hg : d.attempts rs = gone.map fun g => .error (.unavailable g.1 g.2)) {i : Nat}
    {x : Stepped ν μ} (hx : (d.run (rs.map (.dispatch · true))).1[i]? = some x) :
    ∃ g t, gone[i]? = some g ∧ (d.network.trace rs)[i]? = some t ∧
      x.outcome = some (t.1.mapError (.fallbackFailed g.2)) ∧ x.next.network = t.2 := by
  have h : (d.networkView (rs.map (.dispatch · true)))[i]? = some (x.outcome, x.next.network) := by
    rw [networkView, List.getElem?_map, hx]; rfl
  rw [run_preferred d rs gone hm hg, List.getElem?_zipWith_eq_some] at h
  obtain ⟨g, t, hgi, hti, he⟩ := h
  injection he with h1 h2
  exact ⟨g, t, hgi, hti, h1.symm, h2.symm⟩

/-- Calls of the same requests that lead straight to the same network strategy cannot be told
apart. -/
theorem networkView_eq {ν' : Type} {d : Dispatcher ν μ} {e : Dispatcher ν' μ} {ss ts : List Step}
    {rs : List Request} (hn : e.network = d.network) (hs : ss.map Step.request? = rs.map some)
    (ht : ts.map Step.request? = rs.map some)
    (hd : ∀ s ∈ ss, d.controls.Direct d.nativeAvailable s)
    (he : ∀ s ∈ ts, e.controls.Direct e.nativeAvailable s) :
    e.networkView ts = d.networkView ss := by
  rw [run_direct e ts rs ht he, run_direct d ss rs hs hd, hn]

/-- Every entry leads to the network in mode network, and the selector's does while there is no
native strategy. -/
theorem direct_of_way {d : Dispatcher ν μ} {ss : List Step} {rs : List Request}
    (hs : ss.map Step.request? = rs.map some)
    (hw : d.mode = .network ∨ d.mode = .both ∧ d.nativeAvailable = false ∧ ss = rs.map .auto) :
    ∀ s ∈ ss, d.controls.Direct d.nativeAvailable s := by
  intro s hmem
  rcases hw with hm | ⟨hm, hav, rfl⟩
  · have h : s.request? ∈ rs.map some := hs ▸ List.mem_map_of_mem hmem
    obtain ⟨r, -, hr⟩ := List.mem_map.mp h
    exact Controls.direct_of_network hm _ hr.symm
  · obtain ⟨r, -, rfl⟩ := List.mem_map.mp hmem
    rw [hav]
    exact Controls.direct_auto hm r

/-- **Fallback equivalence.** In mode both, let every native attempt of the calls `rs` by `d` end in
"unavailable", for the reasons `gone`. Then `d` preferring the native strategy and `b` preferring
the network, both over the same network strategy, give the same values, and the same errors up to
the reason around them, and the network strategy goes through the same states and receives the same
requests. What `b` gives is what the network strategy answers alone, and so is what any dispatcher
gives whose mode is network, by whichever entry, or whose selector is asked while the native
strategy is missing. -/
theorem fallback_equivalence {ν' : Type} (d : Dispatcher ν μ) (b : Dispatcher ν' μ)
    (rs : List Request) (gone : List (Kind × String)) (hd : d.mode = .both) (hb : b.mode = .both)
    (hn : b.network = d.network)
    (hg : d.attempts rs = gone.map fun g => .error (.unavailable g.1 g.2)) :
    let preferred := rs.map (Step.dispatch · true)
    let direct := rs.map (Step.dispatch · false)
    ((d.run preferred).1.length = rs.length ∧ (b.run direct).1.length = rs.length ∧
      gone.length = rs.length) ∧
    (∀ (i : Nat) (x : Stepped ν μ) (y : Stepped ν' μ) (g : Kind × String),
      (d.run preferred).1[i]? = some x → (b.run direct).1[i]? = some y → gone[i]? = some g →
      ∃ ox oy, x.outcome = some ox ∧ y.outcome = some oy ∧ FellBack g.2 ox oy ∧
        x.next.network = y.next.network) ∧
    (∀ (i : Nat) (x : Stepped (Recorded ν) (Recorded μ)) (y : Stepped (Recorded ν') (Recorded μ)),
      (d.recorded.run preferred).1[i]? = some x → (b.recorded.run direct).1[i]? = some y →
      x.next.networkRecord = y.next.networkRecord ∧
        x.next.networkRecord.map (·.request) = rs.take (i + 1)) ∧
    (b.run direct).1.map (·.outcome) = (d.network.answers rs).map some ∧
    ∀ (e : Dispatcher ν μ) (ss : List Step), e.network = d.network →
      ss.map Step.request? = rs.map some →
      (e.mode = .network ∨ e.mode = .both ∧ e.nativeAvailable = false ∧ ss = rs.map .auto) →
      e.networkView ss = b.networkView direct ∧
        e.recorded.networkView ss = b.recorded.networkView direct := by
  intro preferred direct
  have hdirect : direct.map Step.request? = rs.map some := List.map_map
  have hway (avail : Bool) : ∀ s ∈ direct, b.controls.Direct avail s := by
    intro s hs
    obtain ⟨r, -, rfl⟩ := List.mem_map.mp hs
    exact Controls.direct_dispatch hb avail r
  have hrec : b.recorded.network = d.recorded.network := congrArg (·.recording []) hn
  have hlen : gone.length = rs.length := by
    have := congrArg List.length hg
    rw [length_attempts, List.length_map] at this
    exact this.symm
  refine ⟨⟨?_, ?_, hlen⟩, ?_, ?_, ?_, ?_⟩
  · rw [length_run]; exact List.length_map _
  · rw [length_run]; exact List.length_map _
  · intro i x y g hx hy hgi
    obtain ⟨g', t, hgi', ht, ho, hxn⟩ := getElem?_preferred hd hg hx
    obtain ⟨t', ht', ho', hyn⟩ := getElem?_direct hdirect (hway _) hy
    rw [hn, ht] at ht'; cases ht'
    rw [hgi] at hgi'; cases hgi'
    exact ⟨_, _, ho, ho', fellBack_mapError g.2 t.1, hxn.trans hyn.symm⟩
  · intro i x y hx hy
    obtain ⟨-, t, -, ht, -, hxn⟩ :=
      getElem?_preferred (d := d.recorded) hd ((d.attempts_recorded rs).trans hg) hx
    obtain ⟨t', ht', -, hyn⟩ := getElem?_direct (d := b.recorded) hdirect (hway _) hy
    rw [hrec, ht] at ht'; cases ht'
    rw [networkRecord, networkRecord, hxn, hyn]
    exact ⟨rfl, d.network.requests_trace [] rs i t ht⟩
  · have h := congrArg (List.map Prod.fst) (run_direct b direct rs hdirect (hway _))
    rw [networkView, List.map_map, List.map_map] at h
    rw [← hn, ← Running.map_fst_trace, List.map_map]
    exact h
  · intro e ss hen hss hw
    have hw' : e.recorded.mode = .network ∨
        e.recorded.mode = .both ∧ e.recorded.nativeAvailable = false ∧ ss = rs.map .auto := by
      rw [recorded, nativeAvailable_recording]; exact hw
    refine ⟨networkView_eq (hen.trans hn.symm) hdirect hss (hway _) (direct_of_way hss hw),
      networkView_eq ?_ hdirect hss (hway _) (direct_of_way hss hw')⟩
    rw [hrec, recorded, recorded, recording, recording, hen]

/-- Two calls of a native strategy that has gone away, over a network that fails the second: the
reason stands around the network's own error, and only in the run that prefers the native one. -/
theorem fallback_equivalence_scripted :
    let r : Request := { service := "Ledger", function := "close", args := [.null] }
    let boom : CallError := .execution .network (.remote "boom")
    let gone : List (Kind × String) := [(.native, "runtime gone"), (.native, "runtime gone")]
    let native : Scripted := { kind := .native, script := .unavailable "runtime gone" }
    let network : Scripted := { kind := .network, failAt := some (1, "boom") }
    let d : Dispatcher (List Request) (List Request) :=
      { native := .available ⟨native.strategy, []⟩, network := ⟨network.strategy, []⟩ }
    d.attempts [r, r] = gone.map (fun g => .error (.unavailable g.1 g.2)) ∧
    ∀ x y, (d.run [.dispatch r true, .dispatch r true]).1[1]? = some x →
      (d.run [.dispatch r false, .dispatch r false]).1[1]? = some y →
      y.outcome = some (.error boom) ∧
      x.outcome = some (.error (.fallbackFailed "runtime gone" boom)) ∧
      x.next.network = y.next.network := by
  intro r boom gone native network d
  refine ⟨rfl, ?_⟩
  intro x y hx hy
  obtain ⟨-, hsteps, -⟩ := fallback_equivalence d d [r, r] gone rfl rfl rfl rfl
  obtain ⟨ox, oy, ho, ho', hfell, hnet⟩ := hsteps 1 x y (.native, "runtime gone") hx hy rfl
  have hy' : y.outcome = some (.error boom) := by cases hy; rfl
  rw [ho'] at hy'
  injection hy' with hy'
  refine ⟨by rw [ho', hy'], ?_, hnet⟩
  rw [ho, (hfell.error boom).mpr hy']

end Dispatcher

end Switchboard.Dispatch
