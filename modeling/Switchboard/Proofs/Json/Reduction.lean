import Mathlib.Algebra.Order.BigOperators.Group.List
import Mathlib.Algebra.Order.Ring.Nat
import Switchboard.Proofs.Json.Parts
import Switchboard.Proofs.Json.Printed

/-!
# Smaller values have shorter texts

A value is made smaller by leaving out elements or entries, and by putting a value that occurs in it
in its place (`Reduction`), at any depth and any number of times (`Reduced`). `size_text_of_reduced`:
its text does not grow in bytes.

The text of an array has a bracket in front, and a comma or the other bracket behind each element.
Only an empty array has both brackets without an element. So its size is one more than that of the
elements with one byte for each, and two at least (`textSize_array`); objects are alike. In this
form commas need no cases: where a sum does not grow, neither does the size.
-/
namespace Switchboard.Json

/-! ## The size of a text -/

def Value.textSize (v : Value) : Nat := Utf8.size v.text

theorem Value.textSize_eq (v : Value) : v.textSize = v.bytes.length :=
  congrArg List.length v.bytes_text

/-- The bytes of an element and of the comma or bracket behind it. -/
def itemSize (v : Value) : Nat := v.textSize + 1

/-- The bytes of an entry, of its colon, and of the comma or brace behind it. -/
def entrySize (e : String × Value) : Nat := (Utf8.encode (quoted e.1)).length + e.2.textSize + 2

theorem length_moreItems (vs : List Value) :
    (Utf8.encode (Value.moreItems vs)).length = (vs.map itemSize).sum := by
  induction vs with
  | nil => rfl
  | cons v vs ih =>
    rw [Value.encode_moreItems, List.length_cons, List.length_append, ih, ← Value.textSize_eq,
      List.map_cons, List.sum_cons, itemSize]
    omega

theorem length_moreEntries (es : List (String × Value)) :
    (Utf8.encode (Value.moreEntries es)).length = (es.map entrySize).sum := by
  induction es with
  | nil => rfl
  | cons e es ih =>
    obtain ⟨k, v⟩ := e
    simp only [Value.encode_moreEntries, List.length_cons, List.length_append, ih,
      ← Value.textSize_eq, List.map_cons, List.sum_cons, entrySize]
    omega

theorem textSize_array (items : List Value) :
    (Value.array items).textSize = max 2 ((items.map itemSize).sum + 1) := by
  cases items with
  | nil => rfl
  | cons v vs =>
    simp only [Value.textSize_eq, Value.bytes_array, List.length_cons, List.length_append,
      List.length_nil, length_moreItems, List.map_cons, List.sum_cons, itemSize]
    omega

theorem textSize_object (entries : List (String × Value)) :
    (Value.object entries).textSize = max 2 ((entries.map entrySize).sum + 1) := by
  rcases entries with _ | ⟨⟨k, v⟩, es⟩
  · rfl
  · simp only [Value.textSize_eq, Value.bytes_object, List.length_cons, List.length_append,
      List.length_nil, length_moreEntries, List.map_cons, List.sum_cons, entrySize]
    omega

/-! ## Making values smaller -/

/-- One way to make a value smaller. -/
inductive Reduction : Value → Value → Prop
  /-- Elements of an array are left out. -/
  | elements {items items' : List Value} (fewer : items'.Sublist items) :
      Reduction (.array items) (.array items')
  /-- Entries of an object are left out. -/
  | entries {es es' : List (String × Value)} (fewer : es'.Sublist es) :
      Reduction (.object es) (.object es')
  /-- A value that occurs in it takes its place. -/
  | part {w v : Value} (inside : Occurs w v) : Reduction v w

/-- Any number of reductions, each at any depth. -/
abbrev Reduced : Value → Value → Prop := Relation.ReflTransGen (Inside Reduction)

theorem textSize_of_occurs {w v : Value} (h : Occurs w v) : w.textSize ≤ v.textSize := by
  induction h with
  | here => exact Nat.le_refl _
  | @element v items member _ ih =>
    have part := List.le_sum_of_mem (List.mem_map_of_mem (f := itemSize) member)
    have item : v.textSize < itemSize v := Nat.lt_succ_self _
    rw [textSize_array]
    omega
  | @entry v k entries member _ ih =>
    have part := List.le_sum_of_mem (List.mem_map_of_mem (f := entrySize) member)
    have entry : entrySize (k, v) = (Utf8.encode (quoted k)).length + v.textSize + 2 := rfl
    rw [textSize_object]
    omega

theorem textSize_of_reduction {v w : Value} (h : Reduction v w) : w.textSize ≤ v.textSize := by
  cases h with
  | elements fewer =>
    have sum := (fewer.map itemSize).sum_le_sum fun _ _ => Nat.zero_le _
    rw [textSize_array, textSize_array]
    omega
  | entries fewer =>
    have sum := (fewer.map entrySize).sum_le_sum fun _ _ => Nat.zero_le _
    rw [textSize_object, textSize_object]
    omega
  | part inside => exact textSize_of_occurs inside

theorem congruent_textSize : Congruent fun v w => w.textSize ≤ v.textSize where
  element front back v v' h := by
    simp only [textSize_array, List.map_append, List.map_cons, List.sum_append, List.sum_cons,
      itemSize]
    omega
  entry front back k v v' h := by
    simp only [textSize_object, List.map_append, List.map_cons, List.sum_append, List.sum_cons,
      entrySize]
    omega

/-- A smaller value has no longer text. -/
theorem size_text_of_reduced {v w : Value} (h : Reduced v w) :
    Utf8.size w.text ≤ Utf8.size v.text :=
  keeps_of_inside (Q := fun v w => w.textSize ≤ v.textSize) congruent_textSize
    (fun _ => Nat.le_refl _) (fun h h' => Nat.le_trans h' h) textSize_of_reduction h

end Switchboard.Json
