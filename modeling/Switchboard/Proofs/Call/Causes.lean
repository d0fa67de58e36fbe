import Switchboard.Call.Error

/-!
# What a composite error keeps

Every error is an error of one strategy, the leaf, with a reason around it for each strategy that
could not be used before. `CallError.KeepsCauses` says what an error shows of its leaf and of its
reasons: it holds of a leaf alone (`Leaf.keepsCauses`), one more reason around an error keeps it
(`CallError.KeepsCauses.fallbackFailed`), and so it holds of every error
(`exists_keepsCauses`).
-/
namespace Switchboard

/-- An error of one strategy. -/
inductive Leaf where
  | unavailable (strategy : Kind) (reason : String)
  | execution (strategy : Kind) (cause : Failure)

namespace Leaf

def error : Leaf → CallError
  | unavailable k reason => .unavailable k reason
  | execution k cause => .execution k cause

def strategy : Leaf → Kind
  | unavailable k _ => k
  | execution k _ => k

def causes : Leaf → List String
  | unavailable .. => []
  | execution _ cause => [cause.message]

/-- The error of the leaf with the reasons around it, the first of them outermost. -/
def around (leaf : Leaf) (reasons : List String) : CallError :=
  reasons.foldr .fallbackFailed leaf.error

theorem around_inj {leaf leaf' : Leaf} {reasons reasons' : List String}
    (h : leaf.around reasons = leaf'.around reasons') : leaf = leaf' ∧ reasons = reasons' := by
  induction reasons generalizing reasons' with
  | nil =>
    cases reasons' with
    | nil => cases leaf <;> cases leaf' <;> cases h <;> exact ⟨rfl, rfl⟩
    | cons reason' reasons' => cases leaf <;> cases h
  | cons reason reasons ih =>
    cases reasons' with
    | nil => cases leaf' <;> cases h
    | cons reason' reasons' =>
      obtain ⟨rfl, inner⟩ := CallError.fallbackFailed.inj h
      obtain ⟨rfl, rfl⟩ := ih inner
      exact ⟨rfl, rfl⟩

end Leaf

namespace CallError

/-- The words for a strategy that could not be used, before those for the error of the next. -/
def lead (reason : String) : String :=
  "native strategy unavailable (" ++ reason ++ ") and fallback failed: "

/-- An error shows all of its reasons and its leaf. -/
structure KeepsCauses (reasons : List String) (leaf : Leaf) (e : CallError) : Prop where
  parts : e = leaf.around reasons
  strategy : e.strategy = leaf.strategy
  malformed : e.isMalformedResponse = true ↔
    ∃ k text, leaf = .execution k (.malformedResponse text)
  /-- Without reasons it is of exactly one kind, by whether the strategy was used. -/
  single : reasons = [] →
    e.isUnavailable = leaf.causes.isEmpty ∧ e.isExecution = !leaf.causes.isEmpty
  composite : reasons ≠ [] → e.isUnavailable = false ∧ e.isExecution = false
  /-- One error lies below for each reason, and the failure of a leaf that was used. -/
  length : e.sources.length = reasons.length + leaf.causes.length
  inner : ∀ i < reasons.length,
    e.sources[i]? = some (leaf.around (reasons.drop (i + 1))).message
  last : e.sources.drop reasons.length = leaf.causes
  message : e.message = String.join (reasons.map lead) ++ leaf.error.message

end CallError

theorem Leaf.keepsCauses (leaf : Leaf) : leaf.error.KeepsCauses [] leaf where
  parts := rfl
  strategy := by cases leaf <;> rfl
  malformed := by
    cases leaf with
    | unavailable k reason => simp [error, CallError.isMalformedResponse]
    | execution k cause => cases cause <;> simp [error, CallError.isMalformedResponse]
  single _ := by cases leaf <;> exact ⟨rfl, rfl⟩
  composite h := absurd rfl h
  length := by cases leaf <;> rfl
  inner i h := absurd h (Nat.not_lt_zero i)
  last := by cases leaf <;> rfl
  message := String.empty_append.symm

namespace CallError.KeepsCauses

variable {reasons : List String} {leaf : Leaf} {e : CallError}

/-- One more strategy that could not be used. -/
theorem fallbackFailed (h : e.KeepsCauses reasons leaf) (reason : String) :
    (CallError.fallbackFailed reason e).KeepsCauses (reason :: reasons) leaf where
  parts := congrArg (CallError.fallbackFailed reason) h.parts
  strategy := h.strategy
  malformed := h.malformed
  single h := by cases h
  composite _ := ⟨rfl, rfl⟩
  length := by
    rw [sources, List.length_cons, List.length_cons, h.length]
    omega
  inner i hi := by
    cases i with
    | zero => exact congrArg (fun e : CallError => some e.message) h.parts
    | succ i => exact h.inner i (Nat.lt_of_succ_lt_succ hi)
  last := h.last
  message := by
    change lead reason ++ e.message = _
    rw [h.message, List.map_cons, String.join_cons, String.append_assoc]

end CallError.KeepsCauses

/-- Every error has one leaf and one list of reasons, and shows all of them. -/
theorem exists_keepsCauses (e : CallError) :
    ∃ reasons leaf, e.KeepsCauses reasons leaf ∧
      ∀ reasons' leaf', e = Leaf.around leaf' reasons' → reasons' = reasons ∧ leaf' = leaf := by
  have keeps : ∃ reasons leaf, e.KeepsCauses reasons leaf := by
    induction e with
    | unavailable k reason => exact ⟨[], .unavailable k reason, Leaf.keepsCauses _⟩
    | execution k cause => exact ⟨[], .execution k cause, Leaf.keepsCauses _⟩
    | fallbackFailed reason e ih =>
      obtain ⟨reasons, leaf, h⟩ := ih
      exact ⟨reason :: reasons, leaf, h.fallbackFailed reason⟩
  obtain ⟨reasons, leaf, h⟩ := keeps
  refine ⟨reasons, leaf, h, fun reasons' leaf' same => ?_⟩
  obtain ⟨rfl, rfl⟩ := Leaf.around_inj (same.symm.trans h.parts)
  exact ⟨rfl, rfl⟩

/-- Two strategies that could not be used, and a third whose answer is not JSON. -/
example :
    (Leaf.around (.execution .network (.malformedResponse "EOF")) ["a", "b"]).sources =
      ["native strategy unavailable (b) and fallback failed: network strategy: malformed response: EOF",
        "network strategy: malformed response: EOF", "malformed response: EOF"] := by
  decide

end Switchboard
