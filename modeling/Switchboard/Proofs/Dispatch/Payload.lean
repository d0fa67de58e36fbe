import Switchboard.Dispatch.Selector
import Switchboard.Proofs.Call.Estimate

/-!
# Larger arguments never lead back to the extension

For two calls of one function a selector's choices differ only where it looks at the size of the
arguments (`select_cases`), and there the network is chosen for large arguments only
(`bySize_eq_network`). So the choice is monotone in the size, and the same for all small arguments:
`payload_monotone`, with what can be said of the size itself (`Proofs/Call/Estimate`).
-/
namespace Switchboard.Dispatch.Selector

open Json (Value Part Grown Rearranged)

/-- Calls of one function of one service. -/
structure SameNames (r r' : Request) : Prop where
  service : r.service = r'.service
  function : r.function = r'.function

section

variable {r r' : Request}

theorem bySize_of_small (small : r.estimatedBytes < smallPayload) : bySize r = .native :=
  if_pos small

theorem bySize_eq_network : bySize r = .network ↔
    smallPayload ≤ r.estimatedBytes ∧ hasPattern networkPatterns r.service = true := by
  unfold bySize
  split
  · next small => simp [Nat.not_le.mpr small]
  · next large =>
    cases hasPattern networkPatterns r.service <;> simp [Nat.not_lt.mp large]

theorem bySize_mono (same : SameNames r r') (more : r.estimatedBytes ≤ r'.estimatedBytes)
    (h : bySize r = .network) : bySize r' = .network := by
  obtain ⟨large, pattern⟩ := bySize_eq_network.mp h
  exact bySize_eq_network.mpr ⟨large.trans more, same.service ▸ pattern⟩

/-- The choices are the same, or both go by the size. -/
theorem select_cases (s : Selector) (available : Bool) (same : SameNames r r') :
    s.select r available = s.select r' available ∨
      s.select r available = bySize r ∧ s.select r' available = bySize r' := by
  cases available with
  | false => exact .inl rfl
  | true =>
    simp only [select, if_true, same.service, same.function]
    cases functionHint r'.function with
    | some k => exact .inl rfl
    | none =>
      cases (s.profile? r'.service).bind Profile.preferred with
      | some k => exact .inl rfl
      | none => exact .inr ⟨rfl, rfl⟩

theorem select_mono (s : Selector) (available : Bool) (same : SameNames r r')
    (more : r.estimatedBytes ≤ r'.estimatedBytes) (h : s.select r available = .network) :
    s.select r' available = .network := by
  rcases select_cases s available same with alike | ⟨first, second⟩
  · exact alike ▸ h
  · rw [second]
    exact bySize_mono same more (first ▸ h)

theorem select_of_small (s : Selector) (available : Bool) (same : SameNames r r')
    (small : r.estimatedBytes < smallPayload) (small' : r'.estimatedBytes < smallPayload) :
    s.select r available = s.select r' available := by
  rcases select_cases s available same with alike | ⟨first, second⟩
  · exact alike
  · rw [first, second, bySize_of_small small, bySize_of_small small']

end

theorem estimatedBytes_eq (r : Request) : r.estimatedBytes = r.argsValue.estimatedSize := by
  rw [Request.argsValue, Value.estimatedSize, Request.estimatedBytes]

/-- **Routing is monotone in the payload.** Of two calls of one function the one with the larger
arguments goes to the network if the other does, and arguments below 1024 bytes are all alike. The
size is a sum over the leaves and keys of the arguments. It does not fall when these grow, so a call
that goes to the network still does then, and it stays when they are rearranged. -/
theorem payload_monotone :
    (∀ (s : Selector) (available : Bool) (r r' : Request), SameNames r r' →
      r.estimatedBytes ≤ r'.estimatedBytes → s.select r available = .network →
        s.select r' available = .network) ∧
    (∀ (s : Selector) (available : Bool) (r r' : Request), SameNames r r' →
      r.estimatedBytes < 1024 → r'.estimatedBytes < 1024 →
        s.select r available = s.select r' available) ∧
    (∀ r : Request, r.estimatedBytes = (r.argsValue.parts.map Part.weight).sum) ∧
    (∀ v : Value, v.estimatedSize = (v.parts.map Part.weight).sum) ∧
    (∀ v w : Value, Grown v w → v.estimatedSize ≤ w.estimatedSize) ∧
    (∀ v w : Value, Rearranged v w → v.estimatedSize = w.estimatedSize) ∧
    ∀ (s : Selector) (available : Bool) (r r' : Request), SameNames r r' →
      Grown r.argsValue r'.argsValue → s.select r available = .network →
        s.select r' available = .network := by
  refine ⟨fun s available r r' => select_mono s available,
    fun s available r r' => select_of_small s available, fun r => ?_, Value.estimatedSize_eq_sum,
    fun v w => Json.estimatedSize_of_grown, fun v w => Json.estimatedSize_of_rearranged,
    fun s available r r' same grown => ?_⟩
  · rw [estimatedBytes_eq, Value.estimatedSize_eq_sum]
  · refine select_mono s available same ?_
    rw [estimatedBytes_eq, estimatedBytes_eq]
    exact Json.estimatedSize_of_grown grown

/-- A call with nothing but zeros, each of which counts as eight bytes. -/
def zeros (n : Nat) : Request :=
  ⟨"remote_store", "get_user", List.replicate n (.number (.whole ⟨0, by decide, by decide⟩))⟩

theorem estimatedBytes_zeros (n : Nat) : (zeros n).estimatedBytes = 8 * n := by
  induction n with
  | zero => rfl
  | succ n ih =>
    have more : (zeros (n + 1)).estimatedBytes = 8 + (zeros n).estimatedBytes := rfl
    omega

/-- Neither the function's name nor a profile decides. -/
theorem select_zeros (n : Nat) : select {} (zeros n) true = bySize (zeros n) := by
  have undecided : functionHint (zeros n).function = none := by
    change functionHint "get_user" = none
    decide
  simp only [select, undecided]
  rfl

theorem sameNames_zeros (m n : Nat) : SameNames (zeros m) (zeros n) := ⟨rfl, rfl⟩

theorem grown_zeros (n : Nat) : Grown (zeros n).argsValue (zeros (n + 1)).argsValue :=
  .single (.here (.element [] _ _))

theorem rearranged_nested :
    Rearranged (.array [.array [.null, .bool true], .string "x"])
      (.array [.string "x", .bool true, .null]) := by
  have spliced : Json.Rearrangement (.array [.array [.null, .bool true], .string "x"])
      (.array [.null, .bool true, .string "x"]) := .splice [] [.null, .bool true] [.string "x"]
  have permuted : Json.Rearrangement (.array [.null, .bool true, .string "x"])
      (.array [.string "x", .bool true, .null]) := .permute (by decide)
  exact .trans _ _ _ (.rel _ _ (.here spliced)) (.rel _ _ (.here permuted))

/-- The 128th zero moves a call to the network, and further ones leave it there. Below that their
number makes no difference. -/
theorem payload_monotone_zeros :
    (zeros 127).estimatedBytes < 1024 ∧ (zeros 128).estimatedBytes = 1024 ∧
      SameNames (zeros 0) (zeros 127) ∧ Grown (zeros 128).argsValue (zeros 129).argsValue ∧
      select {} (zeros 127) true = .native ∧ select {} (zeros 128) true = .network ∧
      select {} (zeros 0) true = select {} (zeros 127) true ∧
      select {} (zeros 129) true = .network ∧ select {} (zeros 200) true = .network ∧
      (zeros 128).argsValue.estimatedSize ≤ (zeros 129).argsValue.estimatedSize ∧
      (Value.array [.array [.null, .bool true], .string "x"]).estimatedSize =
        (Value.array [.string "x", .bool true, .null]).estimatedSize := by
  obtain ⟨mono, small, -, -, grows, stays, monoOfGrown⟩ := payload_monotone
  have size := estimatedBytes_zeros
  have below : (zeros 127).estimatedBytes < 1024 := by rw [size]; decide
  have moved : select {} (zeros 128) true = .network := by
    rw [select_zeros, bySize_eq_network, size]
    exact ⟨by decide, by decide⟩
  refine ⟨below, size 128, sameNames_zeros 0 127, grown_zeros 128, ?_, moved, ?_, ?_, ?_, ?_, ?_⟩
  · rw [select_zeros, bySize_of_small below]
  · exact small {} true _ _ (sameNames_zeros 0 127) (by decide) below
  · exact monoOfGrown {} true _ _ (sameNames_zeros 128 129) (grown_zeros 128) moved
  · exact mono {} true _ _ (sameNames_zeros 128 200) (by rw [size, size]; decide) moved
  · exact grows _ _ (grown_zeros 128)
  · exact stays _ _ rearranged_nested

end Switchboard.Dispatch.Selector
