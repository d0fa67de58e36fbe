import Switchboard.Proofs.Json.Reduction
import Switchboard.Proofs.Native.Limits

/-!
# Less input under larger limits is accepted

Arguments that are accepted stay so when they are made smaller (`Json.Reduced`) and when a limit is
raised: `check_closed`. The list of arguments counts as one array here, so leaving out arguments is
a reduction like any other.

A value is `Clean` if none of its parts has a violation. Arrays and objects have their own length to
answer for and otherwise what they hold (`clean_array`, `clean_object`), so being clean passes to
what is left of them; that the text does not grow is `Json.size_text_of_reduced`.
-/
namespace Switchboard.Native.Limits

open Json (Value Part Occurs Congruent Inside Reduction Reduced)

/-- Neither limit is lowered. -/
structure Raised (l l' : Limits) : Prop where
  bytes : l.maxInputBytes ≤ l'.maxInputBytes
  collection : l.maxCollectionLen ≤ l'.maxCollectionLen

/-- No part of a value has a violation. -/
def Clean (l : Limits) (v : Value) : Prop := ∀ p ∈ v.parts, l.violation? p = none

section

variable {l l' : Limits}

theorem clean_array {items : List Value} :
    l.Clean (.array items) ↔ items.length ≤ l.maxCollectionLen ∧ ∀ v ∈ items, l.Clean v := by
  simp only [Clean, Value.parts_array, List.forall_mem_cons, violation?_array,
    List.forall_mem_flatMap]

theorem clean_object {es : List (String × Value)} :
    l.Clean (.object es) ↔
      es.length ≤ l.maxCollectionLen ∧ ∀ e ∈ es, '\x00' ∉ e.1.toList ∧ l.Clean e.2 := by
  simp only [Clean, Value.parts_object, List.forall_mem_cons, violation?_object,
    List.forall_mem_flatMap, violation?_key]

/-- The arguments are accepted if as one array they are clean, and not too long as a text. -/
theorem check_eq_ok_iff_clean {args : List Value} :
    l.check args = .ok () ↔ l.Clean (.array args) ∧ argsSize args ≤ l.maxInputBytes := by
  rw [check_eq_ok_iff, clean_array, and_assoc, List.forall_mem_flatMap]
  rfl

/-! ## Larger limits -/

theorem Raised.violation? (h : l.Raised l') {p : Part} (clean : l.violation? p = none) :
    l'.violation? p = none := by
  cases p with
  | key k => exact clean
  | value v =>
    cases v with
    | null | bool | number | string => exact clean
    | array items => exact violation?_array.mpr ((violation?_array.mp clean).trans h.collection)
    | object es => exact violation?_object.mpr ((violation?_object.mp clean).trans h.collection)

theorem Raised.check (h : l.Raised l') {args : List Value} (accepted : l.check args = .ok ()) :
    l'.check args = .ok () := by
  obtain ⟨clean, size⟩ := check_eq_ok_iff_clean.mp accepted
  exact check_eq_ok_iff_clean.mpr
    ⟨fun p hp => h.violation? (clean p hp), size.trans h.bytes⟩

/-! ## Smaller values -/

theorem Clean.of_occurs {w v : Value} (clean : l.Clean v) (h : Occurs w v) : l.Clean w := by
  induction h with
  | here => exact clean
  | element member _ ih => exact ih ((clean_array.mp clean).2 _ member)
  | entry member _ ih => exact ih ((clean_object.mp clean).2 _ member).2

theorem Clean.of_reduction {v w : Value} (clean : l.Clean v) (h : Reduction v w) : l.Clean w := by
  cases h with
  | elements fewer =>
    obtain ⟨length, items⟩ := clean_array.mp clean
    exact clean_array.mpr ⟨fewer.length_le.trans length, fun v hv => items v (fewer.subset hv)⟩
  | entries fewer =>
    obtain ⟨length, entries⟩ := clean_object.mp clean
    exact clean_object.mpr ⟨fewer.length_le.trans length, fun e he => entries e (fewer.subset he)⟩
  | part inside => exact clean.of_occurs inside

/-- What an array or an object holds may change into something clean. -/
theorem congruent_clean (l : Limits) : Congruent fun v w => l.Clean v → l.Clean w where
  element front back v v' h clean := by
    simp only [clean_array, List.length_append, List.length_cons, List.forall_mem_append,
      List.forall_mem_cons] at clean ⊢
    obtain ⟨length, before, here, after⟩ := clean
    exact ⟨length, before, h here, after⟩
  entry front back k v v' h clean := by
    simp only [clean_object, List.length_append, List.length_cons, List.forall_mem_append,
      List.forall_mem_cons] at clean ⊢
    obtain ⟨length, before, ⟨key, here⟩, after⟩ := clean
    exact ⟨length, before, ⟨key, h here⟩, after⟩

theorem Clean.of_reduced {v w : Value} (clean : l.Clean v) (h : Reduced v w) : l.Clean w :=
  Json.keeps_of_inside (Q := fun v w => l.Clean v → l.Clean w) l.congruent_clean
    (fun _ => id) (fun h h' clean => h' (h clean)) (fun h clean => clean.of_reduction h) h clean

end

/-- **Acceptance is closed under smaller input and larger limits.** The size that is compared with
its limit does not grow when the input is made smaller. -/
theorem check_closed :
    (∀ (l l' : Limits) (args args' : List Value), l.Raised l' →
      Reduced (.array args) (.array args') → l.check args = .ok () → l'.check args' = .ok ()) ∧
    ∀ args args' : List Value, Reduced (.array args) (.array args') →
      argsSize args' ≤ argsSize args := by
  have shorter {args args' : List Value} (h : Reduced (.array args) (.array args')) :
      argsSize args' ≤ argsSize args := Json.size_text_of_reduced h
  refine ⟨fun l l' args args' raised reduced accepted => ?_, fun args args' => shorter⟩
  obtain ⟨clean, size⟩ := check_eq_ok_iff_clean.mp accepted
  exact raised.check
    (check_eq_ok_iff_clean.mpr ⟨clean.of_reduced reduced, (shorter reduced).trans size⟩)

/-- Arguments of 35 bytes with collections of up to three elements. -/
def furnished : List Value :=
  [.object [("a", .array [.null, .string "x", .string "y"]), ("b", .bool true)], .string "z"]

/-- What is left without the second argument, without an entry of the first, with the value of the
other entry in the place of the first, and without two elements of that. -/
def bare : List Value := [.array [.string "y"]]

theorem reduced_bare : Reduced (.array furnished) (.array bare) := by
  have argument : Inside Reduction (.array furnished) (.array [.object
      [("a", .array [.null, .string "x", .string "y"]), ("b", .bool true)]]) :=
    .here (.elements (by decide))
  have entry : Inside Reduction
      (.array [.object [("a", .array [.null, .string "x", .string "y"]), ("b", .bool true)]])
      (.array [.object [("a", .array [.null, .string "x", .string "y"])]]) :=
    .element [] [] (.here (.entries (by decide)))
  have value : Inside Reduction
      (.array [.object [("a", .array [.null, .string "x", .string "y"])]])
      (.array [.array [.null, .string "x", .string "y"]]) :=
    .element [] [] (.here (.part (.entry (List.mem_singleton_self _) (.here _))))
  have elements : Inside Reduction (.array [.array [.null, .string "x", .string "y"]])
      (.array bare) :=
    .element [] [] (.here (.elements (by decide)))
  exact .tail (.tail (.tail (.single argument) entry) value) elements

/-- They are accepted under limits that fit exactly, and what is left of them under such limits with
more room for collections. -/
theorem check_closed_bare :
    (⟨35, 3⟩ : Limits).Raised ⟨35, 4⟩ ∧ Reduced (.array furnished) (.array bare) ∧
      (⟨35, 3⟩ : Limits).check furnished = .ok () ∧ (⟨35, 4⟩ : Limits).check bare = .ok () ∧
      argsSize bare ≤ argsSize furnished ∧ argsSize furnished = 35 := by
  have raised : (⟨35, 3⟩ : Limits).Raised ⟨35, 4⟩ := ⟨by decide, by decide⟩
  have accepted : (⟨35, 3⟩ : Limits).check furnished = .ok () := rfl
  exact ⟨raised, reduced_bare, accepted,
    check_closed.1 _ _ _ _ raised reduced_bare accepted, check_closed.2 _ _ reduced_bare, rfl⟩

end Switchboard.Native.Limits
