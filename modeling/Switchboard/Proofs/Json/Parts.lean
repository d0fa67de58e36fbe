import Mathlib.Logic.Relation
import Switchboard.Json.Value

/-!
# The parts of a value

`Value.parts` lists what a value consists of in pre-order: the value itself, then what it holds from
the left, each key of an object before the value of its entry. In a value with its keys in order
that is the order of the keys. `mem_parts` and `key_mem_parts` say what is listed: the values that
occur at any depth (`Occurs`), and the keys of the objects among them.

`Inside R` changes one value at any depth by `R` and leaves everything around it as it is.
`Inside.keeps` is the one induction over it: what `R` does to a value, and an array and an object
pass on, holds at every depth. `keeps_of_inside` is the same for any number of changes.
-/
namespace Switchboard.Json

/-! ## Induction -/

/-- Induction on a value. The property is assumed of every element of an array and of every value of
an object. -/
@[elab_as_elim]
theorem Value.members_induction {P : Value → Prop} (null : P .null) (bool : ∀ b, P (.bool b))
    (number : ∀ n, P (.number n)) (string : ∀ s, P (.string s))
    (array : ∀ items, (∀ v ∈ items, P v) → P (.array items))
    (object : ∀ entries, (∀ e ∈ entries, P e.2) → P (.object entries)) (v : Value) : P v :=
  @Value.rec P (fun items => ∀ v ∈ items, P v) (fun entries => ∀ e ∈ entries, P e.2)
    (fun e => P e.2) null bool number string array object (List.forall_mem_nil _)
    (fun _ _ first others => List.forall_mem_cons.mpr ⟨first, others⟩) (List.forall_mem_nil _)
    (fun _ _ first others => List.forall_mem_cons.mpr ⟨first, others⟩) (fun _ _ h => h) v

/-! ## Parts in pre-order -/

/-- A part of a value: a value, or a key of an object. -/
inductive Part where
  | value (v : Value)
  | key (k : String)

mutual

/-- The parts of a value, itself first. -/
def Value.parts : Value → List Part
  | .array items => .value (.array items) :: partsOfItems items
  | .object entries => .value (.object entries) :: partsOfEntries entries
  | v => [.value v]

def Value.partsOfItems : List Value → List Part
  | [] => []
  | v :: vs => v.parts ++ partsOfItems vs

def Value.partsOfEntries : List (String × Value) → List Part
  | [] => []
  | (k, v) :: es => .key k :: (v.parts ++ partsOfEntries es)

end

theorem Value.partsOfItems_eq (items : List Value) :
    partsOfItems items = items.flatMap Value.parts := by
  induction items with
  | nil => rfl
  | cons v vs ih => rw [partsOfItems, List.flatMap_cons, ih]

theorem Value.partsOfEntries_eq (entries : List (String × Value)) :
    partsOfEntries entries = entries.flatMap fun e => .key e.1 :: e.2.parts := by
  induction entries with
  | nil => rfl
  | cons e es ih => rw [partsOfEntries, List.flatMap_cons, ih, List.cons_append]

theorem Value.parts_array (items : List Value) :
    (Value.array items).parts = .value (.array items) :: items.flatMap Value.parts := by
  rw [parts, partsOfItems_eq]

theorem Value.parts_object (entries : List (String × Value)) :
    (Value.object entries).parts =
      .value (.object entries) :: entries.flatMap fun e => .key e.1 :: e.2.parts := by
  rw [parts, partsOfEntries_eq]

/-! ## What occurs in a value -/

/-- A value occurs in another, at any depth. -/
inductive Occurs : Value → Value → Prop
  | here (v : Value) : Occurs v v
  | element {w v : Value} {items : List Value} (member : v ∈ items) (inside : Occurs w v) :
      Occurs w (.array items)
  | entry {w v : Value} {k : String} {entries : List (String × Value)} (member : (k, v) ∈ entries)
      (inside : Occurs w v) : Occurs w (.object entries)

theorem occurs_array {w : Value} {items : List Value} :
    Occurs w (.array items) ↔ w = .array items ∨ ∃ v ∈ items, Occurs w v := by
  constructor
  · intro h
    cases h with
    | here => exact .inl rfl
    | element member inside => exact .inr ⟨_, member, inside⟩
  · rintro (rfl | ⟨v, member, inside⟩)
    · exact .here _
    · exact .element member inside

theorem occurs_object {w : Value} {entries : List (String × Value)} :
    Occurs w (.object entries) ↔ w = .object entries ∨ ∃ e ∈ entries, Occurs w e.2 := by
  constructor
  · intro h
    cases h with
    | here => exact .inl rfl
    | entry member inside => exact .inr ⟨_, member, inside⟩
  · rintro (rfl | ⟨e, member, inside⟩)
    · exact .here _
    · exact .entry member inside

/-- The values among the parts are those that occur. -/
theorem mem_parts {w v : Value} : .value w ∈ v.parts ↔ Occurs w v := by
  induction v using Value.members_induction with
  | null | bool | number | string =>
    simp only [Value.parts, List.mem_singleton, Part.value.injEq]
    exact ⟨fun e => e ▸ .here _, fun h => by cases h; rfl⟩
  | array items ih =>
    simp only [Value.parts_array, List.mem_cons, List.mem_flatMap, Part.value.injEq, occurs_array]
    exact or_congr_right (exists_congr fun v => and_congr_right fun member => ih v member)
  | object entries ih =>
    simp only [Value.parts_object, List.mem_cons, List.mem_flatMap, Part.value.injEq, reduceCtorEq,
      false_or, occurs_object]
    exact or_congr_right (exists_congr fun e => and_congr_right fun member => ih e member)

/-- The keys among the parts are those of the objects that occur. -/
theorem key_mem_parts {k : String} {v : Value} :
    .key k ∈ v.parts ↔ ∃ entries, Occurs (.object entries) v ∧ k ∈ entries.map Prod.fst := by
  induction v using Value.members_induction with
  | null | bool | number | string =>
    simp only [Value.parts, List.mem_singleton, reduceCtorEq, false_iff]
    rintro ⟨entries, h, -⟩
    cases h
  | array items ih =>
    simp only [Value.parts_array, List.mem_cons, List.mem_flatMap, reduceCtorEq, false_or,
      occurs_array]
    constructor
    · rintro ⟨v, member, h⟩
      obtain ⟨entries, inside, key⟩ := (ih v member).mp h
      exact ⟨entries, ⟨v, member, inside⟩, key⟩
    · rintro ⟨entries, ⟨v, member, inside⟩, key⟩
      exact ⟨v, member, (ih v member).mpr ⟨entries, inside, key⟩⟩
  | object es ih =>
    simp only [Value.parts_object, List.mem_cons, List.mem_flatMap, reduceCtorEq, false_or,
      Part.key.injEq, occurs_object, Value.object.injEq]
    constructor
    · rintro ⟨e, member, rfl | h⟩
      · exact ⟨es, .inl rfl, List.mem_map_of_mem member⟩
      · obtain ⟨entries, inside, key⟩ := (ih e member).mp h
        exact ⟨entries, .inr ⟨e, member, inside⟩, key⟩
    · rintro ⟨entries, rfl | ⟨e, member, inside⟩, key⟩
      · obtain ⟨e, member, rfl⟩ := List.mem_map.mp key
        exact ⟨e, member, .inl rfl⟩
      · exact ⟨e, member, .inr ((ih e member).mpr ⟨entries, inside, key⟩)⟩

theorem Value.orderedItems_iff {items : List Value} :
    OrderedItems items ↔ ∀ v ∈ items, v.Ordered := by
  induction items with
  | nil => simp [OrderedItems]
  | cons v vs ih => rw [OrderedItems, ih, List.forall_mem_cons]

theorem Value.orderedEntries_iff {entries : List (String × Value)} :
    OrderedEntries entries ↔ ∀ e ∈ entries, e.2.Ordered := by
  induction entries with
  | nil => simp [OrderedEntries]
  | cons e es ih => rw [OrderedEntries, ih, List.forall_mem_cons]

/-- Where the keys are in order, they are so in every object that occurs. -/
theorem Occurs.ordered {w v : Value} (h : Occurs w v) (ordered : v.Ordered) : w.Ordered := by
  induction h with
  | here => exact ordered
  | element member _ ih => exact ih (Value.orderedItems_iff.mp ordered _ member)
  | entry member _ ih => exact ih (Value.orderedEntries_iff.mp ordered.2 _ member)

/-! ## Changes inside a value -/

/-- One value inside another is changed by `R`, at any depth, and nothing else is. -/
inductive Inside (R : Value → Value → Prop) : Value → Value → Prop
  | here {v v' : Value} (h : R v v') : Inside R v v'
  | element (front back : List Value) {v v' : Value} (h : Inside R v v') :
      Inside R (.array (front ++ v :: back)) (.array (front ++ v' :: back))
  | entry (front back : List (String × Value)) (k : String) {v v' : Value} (h : Inside R v v') :
      Inside R (.object (front ++ (k, v) :: back)) (.object (front ++ (k, v') :: back))

/-- A relation of two values that passes from what an array or an object holds to itself. -/
structure Congruent (Q : Value → Value → Prop) : Prop where
  element (front back : List Value) {v v' : Value} (h : Q v v') :
    Q (.array (front ++ v :: back)) (.array (front ++ v' :: back))
  entry (front back : List (String × Value)) (k : String) {v v' : Value} (h : Q v v') :
    Q (.object (front ++ (k, v) :: back)) (.object (front ++ (k, v') :: back))

/-- What a change does to the value that it is made to, it does wherever it is made. -/
theorem Inside.keeps {R Q : Value → Value → Prop} (congruent : Congruent Q)
    (change : ∀ {v v'}, R v v' → Q v v') {v v' : Value} (h : Inside R v v') : Q v v' := by
  induction h with
  | here h => exact change h
  | element front back _ ih => exact congruent.element front back ih
  | entry front back k _ ih => exact congruent.entry front back k ih

/-- What one change keeps is kept by any number of them. -/
theorem keeps_of_inside {R Q : Value → Value → Prop} (congruent : Congruent Q) (refl : ∀ v, Q v v)
    (trans : ∀ {u v w}, Q u v → Q v w → Q u w) (change : ∀ {v v'}, R v v' → Q v v')
    {v v' : Value} (h : Relation.ReflTransGen (Inside R) v v') : Q v v' := by
  induction h with
  | refl => exact refl v
  | tail _ step ih => exact trans ih (step.keeps congruent change)

end Switchboard.Json
