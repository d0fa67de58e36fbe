import Mathlib.Algebra.Order.Ring.Nat
import Mathlib.Data.List.Flatten
import Switchboard.Call.Request
import Switchboard.Proofs.Json.Parts

/-!
# The rough size of arguments

The rough size of a value is a sum over its parts: the bytes of its strings and keys, eight for a
number and one for a truth value, at any depth (`estimatedSize_eq_sum`). Arrays and objects add
nothing of their own, so

* it does not fall when a value grows (`Growth`): with an element, with an entry under a new key, or
  with characters in a string (`estimatedSize_of_grown`);
* it stays when what is there is put in another order or in other arrays (`Rearrangement`,
  `estimatedSize_of_rearranged`).

Both are about one change, and a value in an array or an object adds its size to that of the rest
(`congruent_estimatedSize`).
-/
namespace Switchboard.Json

/-! ## A sum over the parts -/

/-- What a part adds by itself. -/
def Part.weight : Part → Nat
  | .key k => Utf8.size k
  | .value (.string s) => Utf8.size s
  | .value (.number _) => 8
  | .value (.bool _) => 1
  | .value .null | .value (.array _) | .value (.object _) => 0

mutual

theorem Value.estimatedSize_eq_sum : ∀ v : Value, v.estimatedSize = (v.parts.map Part.weight).sum
  | .null | .bool _ | .number _ => rfl
  | .string s => (Nat.add_zero _).symm
  | .array items => by
    rw [estimatedSize, parts, List.map_cons, List.sum_cons, estimatedItems_eq_sum items]
    exact (Nat.zero_add _).symm
  | .object entries => by
    rw [estimatedSize, parts, List.map_cons, List.sum_cons, estimatedEntries_eq_sum entries]
    exact (Nat.zero_add _).symm

theorem Value.estimatedItems_eq_sum : ∀ vs : List Value,
    estimatedItems vs = ((partsOfItems vs).map Part.weight).sum
  | [] => rfl
  | v :: vs => by
    rw [estimatedItems, partsOfItems, List.map_append, List.sum_append, estimatedSize_eq_sum v,
      estimatedItems_eq_sum vs]

theorem Value.estimatedEntries_eq_sum : ∀ es : List (String × Value),
    estimatedEntries es = ((partsOfEntries es).map Part.weight).sum
  | [] => rfl
  | (k, v) :: es => by
    rw [estimatedEntries, partsOfEntries, List.map_cons, List.sum_cons, List.map_append,
      List.sum_append, estimatedSize_eq_sum v, estimatedEntries_eq_sum es, Nat.add_assoc]
    rfl

end

/-! ## Elements and entries -/

def estimatedEntry (e : String × Value) : Nat := Utf8.size e.1 + e.2.estimatedSize

theorem estimatedSize_array (items : List Value) :
    (Value.array items).estimatedSize = (items.map Value.estimatedSize).sum := by
  rw [Value.estimatedSize]
  induction items with
  | nil => rfl
  | cons v vs ih => rw [Value.estimatedItems, ih, List.map_cons, List.sum_cons]

theorem estimatedSize_object (entries : List (String × Value)) :
    (Value.object entries).estimatedSize = (entries.map estimatedEntry).sum := by
  rw [Value.estimatedSize]
  induction entries with
  | nil => rfl
  | cons e es ih => rw [Value.estimatedEntries, ih, List.map_cons, List.sum_cons, estimatedEntry]

/-- A relation of two sizes that adding the same to both keeps passes from what an array or an
object holds to itself. -/
theorem congruent_estimatedSize {r : Nat → Nat → Prop}
    (add : ∀ {m n : Nat} (k : Nat), r m n → r (k + m) (k + n)) :
    Congruent fun v w => r v.estimatedSize w.estimatedSize where
  element front back v v' h := by
    have around (u : Value) : (Value.array (front ++ u :: back)).estimatedSize =
        (Value.array (front ++ back)).estimatedSize + u.estimatedSize := by
      simp only [estimatedSize_array, List.map_append, List.map_cons, List.sum_append,
        List.sum_cons]
      omega
    rw [around, around]
    exact add _ h
  entry front back k v v' h := by
    have around (u : Value) : (Value.object (front ++ (k, u) :: back)).estimatedSize =
        (Value.object (front ++ back)).estimatedSize + Utf8.size k + u.estimatedSize := by
      simp only [estimatedSize_object, List.map_append, List.map_cons, List.sum_append,
        List.sum_cons, estimatedEntry]
      omega
    rw [around, around]
    exact add _ h

/-! ## Growth -/

/-- One way in which a value grows. -/
inductive Growth : Value → Value → Prop
  /-- An element is added to an array, anywhere. -/
  | element (front back : List Value) (v : Value) :
      Growth (.array (front ++ back)) (.array (front ++ v :: back))
  /-- An entry is added to an object under a key that is new. -/
  | entry {entries : List (String × Value)} {k : String} (v : Value)
      (new : k ∉ entries.map Prod.fst) :
      Growth (.object entries) (.object (Keyed.insert k v entries))
  /-- Characters are added to a string, anywhere. -/
  | text {s t : String} (longer : s.toList.Sublist t.toList) : Growth (.string s) (.string t)

/-- Any number of growths, each at any depth. -/
abbrev Grown : Value → Value → Prop := Relation.ReflTransGen (Inside Growth)

theorem size_of_sublist {s t : String} (h : s.toList.Sublist t.toList) :
    Utf8.size s ≤ Utf8.size t :=
  (h.flatMap String.utf8EncodeChar).length_le

theorem estimatedSize_of_growth {v w : Value} (h : Growth v w) :
    v.estimatedSize ≤ w.estimatedSize := by
  cases h with
  | element front back v =>
    simp only [estimatedSize_array, List.map_append, List.map_cons, List.sum_append,
      List.sum_cons]
    omega
  | @entry entries k v new =>
    -- Where the new entry is put does not matter for the sum.
    have sum := ((Keyed.insert_perm v new).map estimatedEntry).sum_nat
    rw [estimatedSize_object, estimatedSize_object, sum, List.map_cons, List.sum_cons]
    exact Nat.le_add_left _ _
  | text longer =>
    rw [Value.estimatedSize, Value.estimatedSize]
    exact size_of_sublist longer

theorem estimatedSize_of_grown {v w : Value} (h : Grown v w) :
    v.estimatedSize ≤ w.estimatedSize :=
  keeps_of_inside (Q := fun v w => v.estimatedSize ≤ w.estimatedSize)
    (congruent_estimatedSize fun k h => Nat.add_le_add_left h k) (fun _ => Nat.le_refl _)
    Nat.le_trans estimatedSize_of_growth h

/-! ## Rearrangement -/

/-- One way to put what is there differently. -/
inductive Rearrangement : Value → Value → Prop
  /-- The elements of an array change places. -/
  | permute {items items' : List Value} (same : items.Perm items') :
      Rearrangement (.array items) (.array items')
  /-- A value is wrapped in an array. -/
  | wrap (v : Value) : Rearrangement v (.array [v])
  /-- The elements of an array take its place in the array around it. -/
  | splice (front items back : List Value) :
      Rearrangement (.array (front ++ .array items :: back)) (.array (front ++ items ++ back))

/-- Any number of rearrangements, each at any depth, back and forth. -/
abbrev Rearranged : Value → Value → Prop := Relation.EqvGen (Inside Rearrangement)

theorem estimatedSize_of_rearrangement {v w : Value} (h : Rearrangement v w) :
    v.estimatedSize = w.estimatedSize := by
  cases h with
  | permute same =>
    rw [estimatedSize_array, estimatedSize_array]
    exact (same.map Value.estimatedSize).sum_nat
  | wrap => rw [estimatedSize_array, List.map_singleton, List.sum_singleton]
  | splice front items back =>
    simp only [estimatedSize_array, List.map_append, List.map_cons, List.sum_append,
      List.sum_cons, Nat.add_assoc]

theorem estimatedSize_of_rearranged {v w : Value} (h : Rearranged v w) :
    v.estimatedSize = w.estimatedSize := by
  induction h with
  | rel v w change =>
    exact change.keeps (Q := fun v w => v.estimatedSize = w.estimatedSize)
      (congruent_estimatedSize fun k h => congrArg (k + ·) h) estimatedSize_of_rearrangement
  | refl v => rfl
  | symm v w _ ih => exact ih.symm
  | trans u v w _ _ ih ih' => exact ih.trans ih'

end Switchboard.Json
