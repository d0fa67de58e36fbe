import Switchboard.Dispatch.Hint

/-!
# A hint is a matter of occurrences

The hint of a name is compared with the ways in which the name can be taken apart: `Shows k name`
says that one of the patterns of `k` stands in it, wherever that is and whatever it overlaps with.

* `functionHint_eq_some_iff`, `functionHint_eq_none_iff`: the hint in terms of `Shows`.
* `Shows.embed`: a pattern is still there when something is put around the name.
* `functionHint_embedded`: so a longer name may lose a hint, and never turns to the other strategy.
-/
namespace Switchboard

def Kind.other : Kind → Kind
  | native => network
  | network => native

theorem Kind.other_other (k : Kind) : k.other.other = k := by
  cases k <;> rfl

namespace Dispatch

/-- The patterns in the names of the work for a strategy. -/
def patterns : Kind → List String
  | .native => computePatterns
  | .network => networkPatterns

/-- A name has a pattern of a strategy, between what stands before and behind it. -/
def Shows (k : Kind) (name : String) : Prop := ∃ p ∈ patterns k, ∃ x y, name = x ++ p ++ y

theorem hasPattern_iff {k : Kind} {name : String} :
    hasPattern (patterns k) name = true ↔ Shows k name := by
  simp only [hasPattern, List.any_eq_true, Text.contains_iff, Shows]

theorem hasPattern_eq_false_iff {k : Kind} {name : String} :
    hasPattern (patterns k) name = false ↔ ¬ Shows k name := by
  rw [← hasPattern_iff, Bool.not_eq_true]

section

variable {k : Kind} {name : String}

theorem functionHint_eq_some_iff :
    functionHint name = some k ↔ Shows k name ∧ ¬ Shows k.other name := by
  rw [← hasPattern_iff, ← hasPattern_eq_false_iff]
  unfold functionHint
  cases k <;> simp only [patterns, Kind.other] <;>
    cases hasPattern networkPatterns name <;> cases hasPattern computePatterns name <;> decide

theorem functionHint_eq_none_iff :
    functionHint name = none ↔ ¬ ∃ k, Shows k name ∧ ¬ Shows k.other name := by
  simp only [← functionHint_eq_some_iff, ← Option.isSome_iff_exists, Option.not_isSome_iff_eq_none]

/-- Around an occurrence there is room for more. -/
theorem Shows.embed (h : Shows k name) (x y : String) : Shows k (x ++ name ++ y) := by
  obtain ⟨p, member, before, behind, rfl⟩ := h
  exact ⟨p, member, x ++ before, behind ++ y, by simp only [String.append_assoc]⟩

theorem functionHint_of_both (own : Shows k name) (others : Shows k.other name) :
    functionHint name = none := by
  refine functionHint_eq_none_iff.mpr ?_
  rintro ⟨k', shown, alone⟩
  cases k <;> cases k' <;> contradiction

theorem functionHint_embed (h : functionHint name = some k) (x y : String) :
    functionHint (x ++ name ++ y) = some k ∨ functionHint (x ++ name ++ y) = none := by
  have own := (functionHint_eq_some_iff.mp h).1.embed x y
  by_cases others : Shows k.other (x ++ name ++ y)
  · exact .inr (functionHint_of_both own others)
  · exact .inl (functionHint_eq_some_iff.mpr ⟨own, others⟩)

theorem functionHint_embed_ne (h : functionHint name = some k) (x y : String) :
    functionHint (x ++ name ++ y) ≠ some k.other := by
  intro flipped
  have own := (functionHint_eq_some_iff.mp h).1.embed x y
  have lacking := (functionHint_eq_some_iff.mp flipped).2
  rw [Kind.other_other] at lacking
  exact lacking own

end

/-- **A hint follows the occurrences of patterns and never flips.** A name points to a strategy if
one of its patterns stands in the name and none of the other strategy's does, and otherwise to none.
With something put around it a name that points to a strategy points to it still or to none, and one
with patterns of both points to none. -/
theorem functionHint_embedded :
    (∀ (t : String) (k : Kind), functionHint t = some k ↔ Shows k t ∧ ¬ Shows k.other t) ∧
    (∀ t : String, functionHint t = none ↔ ¬ ∃ k, Shows k t ∧ ¬ Shows k.other t) ∧
    (∀ (x s y : String) (k : Kind), functionHint s = some k →
      (functionHint (x ++ s ++ y) = some k ∨ functionHint (x ++ s ++ y) = none) ∧
        functionHint (x ++ s ++ y) ≠ some k.other) ∧
    ∀ x s y : String, Shows .native s → Shows .network s → functionHint (x ++ s ++ y) = none := by
  refine ⟨fun t k => functionHint_eq_some_iff, fun t => functionHint_eq_none_iff,
    fun x s y k h => ⟨functionHint_embed h x y, functionHint_embed_ne h x y⟩, ?_⟩
  intro x s y native network
  exact functionHint_of_both (k := .native) (native.embed x y) (network.embed x y)

/-- Put behind `fetc`, `hash` makes a pattern of the other strategy that shares a letter with it. In
front of other text it keeps its hint. -/
theorem functionHint_embedded_overlap :
    functionHint "hash" = some .native ∧ functionHint ("re" ++ "hash" ++ "ed") = some .native ∧
      functionHint ("fetc" ++ "hash" ++ "") = none ∧
      functionHint ("fetc" ++ "hash" ++ "") ≠ some .network ∧
      Shows .native "fetchash" ∧ Shows .network "fetchash" ∧
      functionHint ("pre" ++ "fetchash" ++ "_api_x") = none := by
  obtain ⟨-, -, embed, both⟩ := functionHint_embedded
  have hash : functionHint "hash" = some .native := by decide
  have native : Shows .native "fetchash" := ⟨"hash", by decide, "fetc", "", by decide⟩
  have network : Shows .network "fetchash" := ⟨"fetch", by decide, "", "ash", by decide⟩
  refine ⟨hash, by decide, by decide, (embed "fetc" "hash" "" .native hash).2, native, network, ?_⟩
  exact both "pre" "fetchash" "_api_x" native network

end Dispatch

end Switchboard
