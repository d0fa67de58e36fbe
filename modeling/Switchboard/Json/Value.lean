import Switchboard.Keyed

/-!
# JSON values

A number is a whole number of 64 bits or a double. An object is the list of its entries in the
order of their keys, each key once; `Value.Ordered` says so for a value at every depth.

`depth` counts how many arrays and objects enclose one another.
-/
namespace Switchboard.Json

/-- A whole number that 64 bits hold, with a sign or without. -/
structure Whole where
  val : Int
  lower : -0x8000000000000000 ≤ val
  upper : val < 0x10000000000000000
  deriving DecidableEq

/-- A number: whole, or the bits of a double. -/
inductive Number where
  | whole (n : Whole)
  | real (bits : UInt64)
  deriving DecidableEq

inductive Value where
  | null
  | bool (b : Bool)
  | number (n : Number)
  | string (s : String)
  | array (items : List Value)
  | object (entries : List (String × Value))
  deriving Inhabited

/-- A whole number as a JSON value, `null` where 64 bits do not hold it. -/
def Value.ofNat (n : Nat) : Value :=
  if h : (n : Int) < 0x10000000000000000 then .number (.whole ⟨n, by omega, h⟩) else .null

/-- An object given by its entries in any order. -/
def Value.ofEntries (entries : List (String × Value)) : Value := .object (Keyed.ofList entries)

mutual

/-- The levels of arrays and objects in a value. -/
def Value.depth : Value → Nat
  | .array items => depthItems items + 1
  | .object entries => depthEntries entries + 1
  | _ => 0

def Value.depthItems : List Value → Nat
  | [] => 0
  | v :: vs => max v.depth (depthItems vs)

def Value.depthEntries : List (String × Value) → Nat
  | [] => 0
  | (_, v) :: es => max v.depth (depthEntries es)

end

mutual

/-- Every object in a value has its keys in order, each once. -/
def Value.Ordered : Value → Prop
  | .array items => OrderedItems items
  | .object entries => Keyed.Sorted entries ∧ OrderedEntries entries
  | _ => True

def Value.OrderedItems : List Value → Prop
  | [] => True
  | v :: vs => v.Ordered ∧ OrderedItems vs

def Value.OrderedEntries : List (String × Value) → Prop
  | [] => True
  | (_, v) :: es => v.Ordered ∧ OrderedEntries es

end

mutual

def Value.beq : Value → Value → Bool
  | .null, .null => true
  | .bool a, .bool b => a == b
  | .number a, .number b => decide (a = b)
  | .string a, .string b => a == b
  | .array as, .array bs => beqItems as bs
  | .object as, .object bs => beqEntries as bs
  | _, _ => false

def Value.beqItems : List Value → List Value → Bool
  | [], [] => true
  | a :: as, b :: bs => a.beq b && beqItems as bs
  | _, _ => false

def Value.beqEntries : List (String × Value) → List (String × Value) → Bool
  | [], [] => true
  | (k, a) :: as, (l, b) :: bs => k == l && a.beq b && beqEntries as bs
  | _, _ => false

end

mutual

theorem Value.beq_iff_eq : ∀ (a b : Value), a.beq b = true ↔ a = b
  | .null, b => by cases b <;> simp [Value.beq]
  | .bool _, b => by cases b <;> simp [Value.beq]
  | .number _, b => by cases b <;> simp [Value.beq]
  | .string _, b => by cases b <;> simp [Value.beq]
  | .array as, b => by cases b <;> simp [Value.beq, beqItems_iff_eq as]
  | .object as, b => by cases b <;> simp [Value.beq, beqEntries_iff_eq as]

theorem Value.beqItems_iff_eq : ∀ (as bs : List Value), beqItems as bs = true ↔ as = bs
  | [], bs => by cases bs <;> simp [Value.beqItems]
  | a :: as, bs => by
    cases bs <;> simp [Value.beqItems, Value.beq_iff_eq a, beqItems_iff_eq as]

theorem Value.beqEntries_iff_eq :
    ∀ (as bs : List (String × Value)), beqEntries as bs = true ↔ as = bs
  | [], bs => by cases bs <;> simp [Value.beqEntries]
  | (k, a) :: as, bs => by
    rcases bs with _ | ⟨⟨l, b⟩, bs⟩ <;>
      simp [Value.beqEntries, Value.beq_iff_eq a, beqEntries_iff_eq as, and_assoc]

end

instance : DecidableEq Value := fun a b => decidable_of_iff _ (Value.beq_iff_eq a b)

end Switchboard.Json
