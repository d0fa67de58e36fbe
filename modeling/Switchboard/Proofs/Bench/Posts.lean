import Switchboard.Proofs.Bench.Calls
import Switchboard.Proofs.Network.Answers

/-!
# The posts of a benchmark

A link may keep the posts that it receives (`Link.Receives`). The calls that a benchmark makes over
the network are then all there, one after the other.

* `posts_repeatCall`: a loop posts each of its calls, the one that failed too;
* `repeatCall_of_not_sendable`, `repeatCall_of_hurried`: unless nothing can be sent, or there is no
  time, then it ends with the first;
* `Harness.run_series`: a whole benchmark, its result and the network after it.
-/
namespace Switchboard

namespace Network

variable {μ : Type}

/-- `posts` is what a link has received, in each of its states. -/
def Link.Receives (link : Link μ) (posts : μ → List Post) : Prop :=
  ∀ state post, posts (link.exchange state post).2 = posts state ++ [post]

theorem posts_invoke {link : Link μ} {posts : μ → List Post} (received : link.Receives posts)
    {base : Url} {r : Request} (sent : isSendable (endpoint base r) = true) (web : μ) :
    posts ((strategy link base).invoke web r).state = posts web ++ [postFor base r] := by
  have sent' : isSendable (postFor base r).url = true := sent
  simp only [strategy_invoke, sent', if_true]
  exact received web (postFor base r)

end Network

namespace Bench

open Network (Link Post isSendable endpoint postFor)

variable {ν μ : Type}

section
variable {link : Link μ} {posts : μ → List Post} (received : link.Receives posts) {base : Url}
  {r : Request}

include received in
/-- A loop posts each of its calls. If one fails, it is the last. -/
theorem posts_repeatCall (sent : isSendable (endpoint base r) = true) (n done : Nat) (web : μ) :
    ∃ m, posts (repeatCall r n done ⟨Network.strategy link base, web⟩).next.state =
        posts web ++ List.replicate m (postFor base r) ∧
      ((repeatCall r n done ⟨Network.strategy link base, web⟩).failure = none → m = n) ∧
      ∀ k e, (repeatCall r n done ⟨Network.strategy link base, web⟩).failure = some (k, e) →
        done + m = k + 1 := by
  induction n generalizing done web with
  | zero =>
    refine ⟨0, (List.append_nil _).symm, fun _ => rfl, ?_⟩
    intro k e h
    cases h
  | succ n ih =>
    have one := Network.posts_invoke received sent web
    rw [repeatCall]
    simp only [Running.invoke]
    cases ho : ((Network.strategy link base).invoke web r).outcome with
    | error e =>
      refine ⟨1, one, fun h => ?_, fun k x h => ?_⟩
      · cases h
      · cases h
        rfl
    | ok v =>
      obtain ⟨m, hposts, hall, hfail⟩ :=
        ih (done + 1) ((Network.strategy link base).invoke web r).state
      refine ⟨m + 1, ?_, fun h => congrArg (· + 1) (hall h), fun k e h => ?_⟩
      · rw [hposts, one, List.append_assoc, List.replicate_succ]
        rfl
      · have := hfail k e h
        omega

end

/-- A loop ends with its first call if that one fails. -/
theorem repeatCall_of_error {s : Running μ} {r : Request} {e : CallError}
    (failed : (s.invoke r).outcome = .error e) {n : Nat} (hn : n ≠ 0) (done : Nat) :
    (repeatCall r n done s).failure = some (done, e) ∧
      (repeatCall r n done s).next = (s.invoke r).state := by
  obtain ⟨n, rfl⟩ := Nat.exists_eq_succ_of_ne_zero hn
  simp only [repeatCall, failed, and_self]

/-- A call that cannot be sent fails at once, and nothing is posted. -/
theorem repeatCall_of_not_sendable (link : Link μ) {base : Url} {r : Request}
    (unsent : isSendable (endpoint base r) = false) {n : Nat} (hn : n ≠ 0) (done : Nat) (web : μ) :
    (repeatCall r n done ⟨Network.strategy link base, web⟩).failure =
        some (done, .execution .network (Network.notSent (endpoint base r))) ∧
      (repeatCall r n done ⟨Network.strategy link base, web⟩).next.state = web := by
  have first := Network.invoke_of_not_sendable link web unsent
  obtain ⟨failure, next⟩ := repeatCall_of_error (s := ⟨Network.strategy link base, web⟩) (r := r)
    (by rw [Running.invoke, first]) hn done
  rw [failure, next, Running.invoke, first]
  exact ⟨rfl, rfl⟩

/-- A call without time fails at once, and nothing is posted. -/
theorem repeatCall_of_hurried (base : Url) (r : Request) {n : Nat} (hn : n ≠ 0) (done : Nat)
    (web : μ) :
    (repeatCall r n done ⟨Network.hurried base, web⟩).failure =
        some (done, .execution .network (.transport
          ("error sending request for url (" ++ Network.shownUrl (endpoint base r) ++ ")"))) ∧
      (repeatCall r n done ⟨Network.hurried base, web⟩).next.state = web := by
  have first := Network.hurried_invoke base web r
  obtain ⟨failure, next⟩ := repeatCall_of_error (s := ⟨Network.hurried base, web⟩) (r := r)
    (by rw [Running.invoke, first]; rfl) hn done
  rw [failure, next, Running.invoke, first]
  exact ⟨rfl, rfl⟩

theorem series_repeatCall (s : Running μ) (r : Request) (n : Nat) :
    ∃ made, Series s r n made (repeatCall r n 0 s).failure := by
  obtain ⟨made, failure, hs, -, -, hf⟩ := repeatCall_recording r n 0 s []
  rw [shift_zero] at hf
  exact ⟨made, hf ▸ hs⟩

/-- A benchmark makes one series for each strategy, and leaves the network as its own series
does. -/
theorem Harness.run_series (h : Harness ν μ) (elapsed : Kind → Float) {n : Nat} (hn : n ≠ 0)
    (payload : List UInt8) (hnat : ∀ s, h.native = .available s → s.strategy.kind = .native)
    (hnet : h.network.strategy.kind = .network) :
    ∃ toNative nf toNetwork,
      h.NativeSeries (h.request payload) n toNative nf ∧
      Series h.network (h.request payload) n toNetwork
        (repeatCall (h.request payload) n 0 h.network).failure ∧
      (h.run elapsed n payload).result =
        combine (nativePartOf h.native.reason? n elapsed nf)
          (partOf .network n elapsed (repeatCall (h.request payload) n 0 h.network).failure) ∧
      (h.run elapsed n payload).next.network =
        (repeatCall (h.request payload) n 0 h.network).next := by
  obtain ⟨toNative, nf, hs, -, -, hf⟩ := h.runNative_recording (h.request payload) n elapsed hnat
  obtain ⟨toNetwork, ht⟩ := series_repeatCall h.network (h.request payload) n
  refine ⟨toNative, nf, toNetwork, hs, ht, ?_, ?_⟩
  · simp only [run, if_neg hn, hf, measure_result, hnet]
  · simp only [run, if_neg hn, measure_next]

end Bench

end Switchboard
