import Switchboard.Native.Strategy
import Switchboard.Proofs.Json.Parts

/-!
# Which arguments are within the limits

`Limits.check` stops at the first violation. It is compared with two descriptions that do not walk
through the arguments:

* `Permits`: what has to hold of everything that occurs in the arguments, at any depth;
* `Reports`: which violation comes first, in the order of `Json.Value.parts`, and `Worded`: what is
  said about it.

Both come from one equation for each of the three walkers (`scan_eq`): what it finds is the first
violation of one part by itself (`violation?`). `check_exact` puts them together.
-/
namespace Switchboard.Native

open Json (Part Value Occurs)

theorem hasNul_eq_false {s : String} : hasNul s = false ↔ '\x00' ∉ s.toList := by
  simp [hasNul]

/-! ## The first violation -/

/-- The result of a check that has found a violation or none. -/
def verdict : Option Violation → Except Violation Unit
  | none => .ok ()
  | some violation => .error violation

theorem verdict_or (found more : Option Violation) :
    verdict (found.or more) = (verdict found >>= fun _ => verdict more) := by
  cases found <;> rfl

theorem verdict_eq_ok {found : Option Violation} : verdict found = .ok () ↔ found = none := by
  cases found <;> simp [verdict]

theorem verdict_eq_error {found : Option Violation} {violation : Violation} :
    verdict found = .error violation ↔ found = some violation := by
  cases found <;> simp [verdict]

/-- A violation in words, with the numbers that it is about. -/
inductive Violation.Worded : Violation → String → Prop
  | tooManyArguments (count max : Nat) : Worded (.tooManyArguments count max)
      ("too many arguments: " ++ count.repr ++ " (max: " ++ max.repr ++ ")")
  | nulInString : Worded .nulInString "string contains null bytes"
  | arrayTooLarge (length : Nat) : Worded (.arrayTooLarge length)
      ("array too large: " ++ length.repr ++ " elements")
  | objectTooLarge (length : Nat) : Worded (.objectTooLarge length)
      ("object too large: " ++ length.repr ++ " entries")
  | nulInKey : Worded .nulInKey "object key contains null bytes"
  | inputTooLarge (size max : Nat) : Worded (.inputTooLarge size max)
      ("input too large: " ++ size.repr ++ " bytes (max: " ++ max.repr ++ " bytes)")

theorem Violation.worded_message (violation : Violation) :
    violation.Worded violation.message := by
  cases violation <;> constructor

namespace Limits

/-- What is wrong with one part of the arguments, whatever stands around it. -/
def violation? (l : Limits) : Part → Option Violation
  | .key k => if hasNul k then some .nulInKey else none
  | .value (.string s) => if hasNul s then some .nulInString else none
  | .value (.array items) =>
    if items.length > l.maxCollectionLen then some (.arrayTooLarge items.length) else none
  | .value (.object entries) =>
    if entries.length > l.maxCollectionLen then some (.objectTooLarge entries.length) else none
  | .value _ => none

mutual

/-- What is found in a value is the first violation of its parts. -/
theorem scan_eq (l : Limits) : ∀ v : Value, l.scan v = verdict (v.parts.findSome? l.violation?)
  | .null | .bool _ | .number _ => rfl
  | .string s => by
    simp only [scan, Value.parts, List.findSome?_cons, violation?]
    cases hasNul s <;> rfl
  | .array items => by
    simp only [scan, Value.parts, List.findSome?_cons, violation?, scanItems_eq l items]
    split <;> rfl
  | .object entries => by
    simp only [scan, Value.parts, List.findSome?_cons, violation?, scanEntries_eq l entries]
    split <;> rfl

theorem scanItems_eq (l : Limits) : ∀ vs : List Value,
    l.scanItems vs = verdict ((Value.partsOfItems vs).findSome? l.violation?)
  | [] => rfl
  | v :: vs => by
    rw [scanItems, scan_eq l v, scanItems_eq l vs, Value.partsOfItems, List.findSome?_append,
      verdict_or]

theorem scanEntries_eq (l : Limits) : ∀ es : List (String × Value),
    l.scanEntries es = verdict ((Value.partsOfEntries es).findSome? l.violation?)
  | [] => rfl
  | (k, v) :: es => by
    simp only [scanEntries, Value.partsOfEntries, List.findSome?_cons, List.findSome?_append,
      violation?, scan_eq l v, scanEntries_eq l es]
    cases hasNul k with
    | true => rfl
    | false => exact (verdict_or _ _).symm

end

def argsSize (args : List Value) : Nat := Utf8.size (Value.array args).text

/-- The first violation of an argument list: its own length, then that of the first part with one,
then its size as text. -/
theorem check_eq (l : Limits) (args : List Value) :
    l.check args = verdict
      ((if args.length > l.maxCollectionLen then
          some (.tooManyArguments args.length l.maxCollectionLen) else none).or
        (((args.flatMap Value.parts).findSome? l.violation?).or
          (if argsSize args > l.maxInputBytes then
            some (.inputTooLarge (argsSize args) l.maxInputBytes) else none))) := by
  rw [← Value.partsOfItems_eq, verdict_or, verdict_or, ← scanItems_eq]
  unfold check argsSize
  by_cases count : args.length > l.maxCollectionLen
  · simp only [count, if_true]
    rfl
  · by_cases size : Utf8.size (Value.array args).text > l.maxInputBytes
    · simp only [count, size, if_true, if_false]
      rfl
    · simp only [count, size, if_false]
      rfl

/-! ## What has to hold of the arguments -/

/-- A value occurs in one of the arguments, at any depth. -/
def OccursIn (w : Value) (args : List Value) : Prop := ∃ v ∈ args, Occurs w v

/-- The arguments are as they are meant to be, in all that occurs in them and as a text. -/
structure Permits (l : Limits) (args : List Value) : Prop where
  count : args.length ≤ l.maxCollectionLen
  array : ∀ items, OccursIn (.array items) args → items.length ≤ l.maxCollectionLen
  object : ∀ entries, OccursIn (.object entries) args → entries.length ≤ l.maxCollectionLen
  string : ∀ s, OccursIn (.string s) args → '\x00' ∉ s.toList
  key : ∀ entries, OccursIn (.object entries) args → ∀ e ∈ entries, '\x00' ∉ e.1.toList
  size : argsSize args ≤ l.maxInputBytes

section

variable {l : Limits}

theorem violation?_key {k : String} : l.violation? (.key k) = none ↔ '\x00' ∉ k.toList := by
  simp [violation?, ← hasNul_eq_false]

theorem violation?_string {s : String} :
    l.violation? (.value (.string s)) = none ↔ '\x00' ∉ s.toList := by
  simp [violation?, ← hasNul_eq_false]

theorem violation?_array {items : List Value} :
    l.violation? (.value (.array items)) = none ↔ items.length ≤ l.maxCollectionLen := by
  simp [violation?]

theorem violation?_object {entries : List (String × Value)} :
    l.violation? (.value (.object entries)) = none ↔ entries.length ≤ l.maxCollectionLen := by
  simp [violation?]

/-- No part of the arguments has a violation if everything that occurs in them is as meant. -/
theorem violation?_eq_none_iff {args : List Value} :
    (∀ p ∈ args.flatMap Value.parts, l.violation? p = none) ↔
      (∀ items, OccursIn (.array items) args → items.length ≤ l.maxCollectionLen) ∧
      (∀ entries, OccursIn (.object entries) args → entries.length ≤ l.maxCollectionLen) ∧
      (∀ s, OccursIn (.string s) args → '\x00' ∉ s.toList) ∧
      ∀ entries, OccursIn (.object entries) args → ∀ e ∈ entries, '\x00' ∉ e.1.toList := by
  have value {w : Value} (h : OccursIn w args) : .value w ∈ args.flatMap Value.parts := by
    obtain ⟨v, member, inside⟩ := h
    exact List.mem_flatMap.mpr ⟨v, member, Json.mem_parts.mpr inside⟩
  constructor
  · intro clean
    refine ⟨fun items h => violation?_array.mp (clean _ (value h)),
      fun entries h => violation?_object.mp (clean _ (value h)),
      fun s h => violation?_string.mp (clean _ (value h)), fun entries h e member => ?_⟩
    obtain ⟨v, argument, inside⟩ := h
    have key : .key e.1 ∈ v.parts :=
      Json.key_mem_parts.mpr ⟨entries, inside, List.mem_map_of_mem member⟩
    exact violation?_key.mp (clean _ (List.mem_flatMap.mpr ⟨v, argument, key⟩))
  · rintro ⟨array, object, string, key⟩ p hp
    obtain ⟨v, argument, part⟩ := List.mem_flatMap.mp hp
    -- Only a key, a string, an array or an object can have a violation.
    cases p with
    | key k =>
      obtain ⟨entries, inside, keyed⟩ := Json.key_mem_parts.mp part
      obtain ⟨e, member, rfl⟩ := List.mem_map.mp keyed
      exact violation?_key.mpr (key entries ⟨v, argument, inside⟩ e member)
    | value w =>
      have occurs : OccursIn w args := ⟨v, argument, Json.mem_parts.mp part⟩
      cases w with
      | null | bool | number => rfl
      | string s => exact violation?_string.mpr (string s occurs)
      | array items => exact violation?_array.mpr (array items occurs)
      | object entries => exact violation?_object.mpr (object entries occurs)

/-! ## Which violation is reported -/

/-- The violation that comes first: that of the number of arguments, then those of the parts of the
arguments from the left, each in pre-order, and last that of the size. -/
inductive Reports (l : Limits) (args : List Value) : Violation → Prop
  | count (large : l.maxCollectionLen < args.length) :
      Reports l args (.tooManyArguments args.length l.maxCollectionLen)
  | part (count : args.length ≤ l.maxCollectionLen) {before after : List Part} {p : Part}
      {violation : Violation} (order : args.flatMap Value.parts = before ++ p :: after)
      (clean : ∀ q ∈ before, l.violation? q = none) (found : l.violation? p = some violation) :
      Reports l args violation
  | size (count : args.length ≤ l.maxCollectionLen)
      (clean : ∀ p ∈ args.flatMap Value.parts, l.violation? p = none)
      (large : l.maxInputBytes < argsSize args) :
      Reports l args (.inputTooLarge (argsSize args) l.maxInputBytes)

theorem check_eq_ok_iff {args : List Value} :
    l.check args = .ok () ↔
      args.length ≤ l.maxCollectionLen ∧
        (∀ p ∈ args.flatMap Value.parts, l.violation? p = none) ∧
        argsSize args ≤ l.maxInputBytes := by
  rw [check_eq, verdict_eq_ok]
  simp only [Option.or_eq_none_iff, List.findSome?_eq_none_iff, ite_eq_right_iff, reduceCtorEq,
    imp_false, gt_iff_lt, Nat.not_lt]

/-- Arguments that are accepted are within the limit on their size as text. -/
theorem size_of_check {args : List Value} (h : l.check args = .ok ()) :
    argsSize args ≤ l.maxInputBytes :=
  (check_eq_ok_iff.mp h).2.2

theorem check_eq_error_iff {args : List Value} {violation : Violation} :
    l.check args = .error violation ↔ l.Reports args violation := by
  rw [check_eq, verdict_eq_error]
  constructor
  · intro h
    by_cases count : args.length > l.maxCollectionLen
    · simp only [count, if_true, Option.some_or, Option.some.injEq] at h
      exact h ▸ .count count
    · simp only [count, if_false, Option.none_or, Option.or_eq_some_iff,
        List.findSome?_eq_some_iff, List.findSome?_eq_none_iff] at h
      rcases h with ⟨before, p, after, order, found, clean⟩ | ⟨clean, h⟩
      · exact .part (Nat.not_lt.mp count) order clean found
      · split at h
        · next large =>
          cases h
          exact .size (Nat.not_lt.mp count) clean large
        · cases h
  · intro h
    cases h with
    | count large => rw [if_pos large, Option.some_or]
    | part count order clean found =>
      rw [if_neg (Nat.not_lt.mpr count), Option.none_or, Option.or_eq_some_iff]
      exact .inl (List.findSome?_eq_some_iff.mpr ⟨_, _, _, order, found, clean⟩)
    | size count clean large =>
      rw [if_neg (Nat.not_lt.mpr count), Option.none_or, List.findSome?_eq_none_iff.mpr clean,
        Option.none_or, if_pos large]

end

/-- **The limits accept exactly the intended arguments.** Accepted is what `Permits` describes. All
else is refused as invalid arguments, with the words of the violation that comes first, before the
extension is entered. In pre-order the entries of an object are in the order of their keys. -/
theorem check_exact (l : Limits) :
    (∀ args, l.check args = .ok () ↔ l.Permits args) ∧
    (∀ args violation, l.check args = .error violation ↔ l.Reports args violation) ∧
    (∀ {ρ : Type} (m : Module ρ) (runtime : ρ) (r : Request) (violation : Violation),
      l.Reports r.args violation → ∃ text, violation.Worded text ∧
        call m l runtime r = (.error (.invalidArguments text), runtime)) ∧
    ∀ args, Value.OrderedItems args → ∀ entries, OccursIn (.object entries) args →
      Keyed.Sorted entries := by
  refine ⟨fun args => ?_, fun args violation => check_eq_error_iff,
    fun m runtime r violation h => ?_, fun args ordered entries h => ?_⟩
  · rw [check_eq_ok_iff, violation?_eq_none_iff]
    constructor
    · rintro ⟨count, ⟨array, object, string, key⟩, size⟩
      exact { count, array, object, string, key, size }
    · intro h
      exact ⟨h.count, ⟨h.array, h.object, h.string, h.key⟩, h.size⟩
  · refine ⟨violation.message, violation.worded_message, ?_⟩
    simp only [call, check_eq_error_iff.mpr h]
  · obtain ⟨v, argument, inside⟩ := h
    exact (inside.ordered (Value.orderedItems_iff.mp ordered v argument)).1

/-- Entries with a NUL in a string and in the key behind it, and with an array of three elements. -/
def crowdedEntries : List (String × Value) :=
  [("a", .string "\x00"), ("b\x00", .array [.null, .null, .null])]

/-- The one argument has all of these violations, and its text is too long. -/
def crowded : List Value := [.object crowdedEntries]

/-- The violation in the first entry comes before the others. A text is too long by one byte, and
one with a byte less is not. -/
theorem check_exact_crowded :
    (⟨10, 2⟩ : Limits).Reports crowded .nulInString ∧
      (∀ {ρ : Type} (m : Module ρ) (runtime : ρ),
        call m ⟨10, 2⟩ runtime ⟨"S", "f", crowded⟩ =
          (.error (.invalidArguments "string contains null bytes"), runtime)) ∧
      (⟨10, 2⟩ : Limits).Reports [.string "1234567"] (.inputTooLarge 11 10) ∧
      (∀ {ρ : Type} (m : Module ρ) (runtime : ρ),
        call m ⟨10, 2⟩ runtime ⟨"S", "f", [.string "1234567"]⟩ =
          (.error (.invalidArguments "input too large: 11 bytes (max: 10 bytes)"), runtime)) ∧
      (⟨10, 2⟩ : Limits).Permits [.string "123456"] ∧
      Value.OrderedItems crowded ∧ Keyed.Sorted crowdedEntries := by
  obtain ⟨permits, reports, refused, sorted⟩ := check_exact ⟨10, 2⟩
  have first := (reports crowded .nulInString).mp rfl
  have long : (⟨10, 2⟩ : Limits).Reports [.string "1234567"] (.inputTooLarge 11 10) :=
    (reports _ _).mp rfl
  have keys : Keyed.Sorted crowdedEntries := List.pairwise_pair.mpr (by decide)
  have ordered : Value.OrderedItems crowded :=
    ⟨⟨keys, trivial, ⟨trivial, trivial, trivial, trivial⟩, trivial⟩, trivial⟩
  refine ⟨first, fun m runtime => ?_, long, fun m runtime => ?_, (permits _).mp rfl, ordered, ?_⟩
  · obtain ⟨_, ⟨⟩, answer⟩ := refused m runtime ⟨"S", "f", crowded⟩ .nulInString first
    exact answer
  · obtain ⟨_, ⟨⟩, answer⟩ := refused m runtime ⟨"S", "f", [.string "1234567"]⟩ _ long
    exact answer
  · exact sorted crowded ordered crowdedEntries ⟨_, List.mem_singleton_self _, .here _⟩

end Limits

end Switchboard.Native
