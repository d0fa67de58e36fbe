import Switchboard.Proofs.Json.Numbers
import Switchboard.Proofs.Json.Quoted
import Switchboard.Proofs.Json.Reading

/-!
# Printed values are read back

`parse_bytes`: the text of a value is read as that value, as long as its arrays and objects enclose
one another in at most `maxDepth` levels. `parse_bytes_deep`: a deeper one is refused, for its depth
and for nothing else. Both need the keys of every object in order, and numbers that are read back by
themselves (`Number.Survives`); whole numbers always are (`Number.survives_whole`).

`ReadBack` says both things of any reader, with the levels it may go down.
-/
namespace Switchboard.Json

/-! ## Numbers that are read back -/

/-- The number is read back from its own text. -/
def Number.Survives (n : Number) : Prop := parse (Value.number n).bytes = .ok (.number n)

mutual

def Value.numbers : Value → List Number
  | .number n => [n]
  | .array items => numbersItems items
  | .object entries => numbersEntries entries
  | _ => []

def Value.numbersItems : List Value → List Number
  | [] => []
  | v :: vs => v.numbers ++ numbersItems vs

def Value.numbersEntries : List (String × Value) → List Number
  | [] => []
  | (_, v) :: es => v.numbers ++ numbersEntries es

end

theorem skipBlank_of_lt {text : List UInt8} (h : ∀ b ∈ text, 0x20 < b.toNat) :
    skipBlank text = text := by
  cases text with
  | nil => rfl
  | cons b r => exact skipBlank_cons (isBlank_of_lt (h b List.mem_cons_self)) r

theorem startsNumber_of_readNumber {text rest : List UInt8} {n : Number}
    (h : readNumber text = .ok (n, rest)) : ∃ b r, text = b :: r ∧ StartsNumber b := by
  unfold readNumber at h
  cases hm : Numeral.read .endInValue text with
  | error e => rw [hm] at h; cases h
  | ok m =>
    by_cases sign : ∃ r, text = 0x2D :: r
    · obtain ⟨r, rfl⟩ := sign
      exact ⟨_, r, rfl, .inl rfl⟩
    · rw [Numeral.read_unsigned _ fun r e => sign ⟨r, e⟩] at hm
      cases text with
      | nil => cases hm
      | cons b r =>
        refine ⟨b, r, rfl, .inr ?_⟩
        cases hb : digit? b with
        | some d => rfl
        | none => simp only [Numeral.readUnsigned, readWhole, hb] at hm; cases hm

/-- A number survives if and only if it is read up to the end of its text. -/
theorem Number.survives_iff {n : Number} :
    n.Survives ↔ readNumber (Value.number n).bytes = .ok (n, []) := by
  have printed : ∀ b ∈ (Value.number n).bytes, 0x20 < b.toNat := by
    refine Utf8.le_of_mem_encode (k := 0x21) (by decide) fun c hc => ?_
    rw [Value.chars] at hc
    exact lt_of_mem_number hc
  constructor
  · intro h
    obtain ⟨rest, read, ends⟩ := readAll_eq_ok.mp h
    have number := readValue_eq_number (skipBlank_of_lt printed) read
    have suffix := (readNumber_append number).1
    rw [skipBlank_of_lt fun b hb => printed b (suffix.subset hb)] at ends
    rw [number, ends]
  · intro h
    obtain ⟨b, r, text, start⟩ := startsNumber_of_readNumber h
    refine readAll_eq_ok.mpr ⟨[], ?_, rfl⟩
    rw [text] at h ⊢
    rw [readValue_number start, h]
    rfl

/-- Every whole number of 64 bits survives. -/
theorem Number.survives_whole (n : Whole) : (Number.whole n).Survives := by
  rw [Number.survives_iff, Value.bytes, Value.chars, Number.chars]
  exact readNumber_wholeChars n

/-! ## Both ends of a reading -/

/-- What a reader makes of the text of `x` before `rest`: `x` if it may go down as many levels as
`x` has, and otherwise a refusal because of them. -/
structure ReadBack {α : Type} (levels depth : Nat) (x : α) (rest : List UInt8)
    (result : Except Fault (α × List UInt8)) : Prop where
  fits : depth ≤ levels → result = .ok (x, rest)
  deep : levels < depth → ∃ left, result = .error { cause := .tooDeep, left }

namespace ReadBack

variable {α β : Type} {levels depth : Nat} {x : α} {rest : List UInt8}
  {result : Except Fault (α × List UInt8)}

theorem ok (levels : Nat) (x : α) (rest : List UInt8) :
    ReadBack levels 0 x rest (.ok (x, rest)) :=
  ⟨fun _ => rfl, fun h => absurd h (Nat.not_lt_zero _)⟩

theorem map (h : ReadBack levels depth x rest result) (f : α → β) :
    ReadBack levels depth (f x) rest (result.map fun (x, r) => (f x, r)) := by
  constructor
  · intro fits
    rw [h.fits fits]
    rfl
  · intro deep
    obtain ⟨left, e⟩ := h.deep deep
    exact ⟨left, by rw [e]; rfl⟩

/-- One reading after the other goes down as far as the deeper of the two. -/
theorem bind {depth' : Nat} {y : β} {rest' : List UInt8}
    {next : α × List UInt8 → Except Fault (β × List UInt8)}
    (h : ReadBack levels depth x rest' result)
    (h' : ReadBack levels depth' y rest (next (x, rest'))) :
    ReadBack levels (max depth depth') y rest (result.bind next) := by
  by_cases first : depth ≤ levels
  · rw [h.fits first]
    exact ⟨fun fits => h'.fits (by omega), fun deep => h'.deep (by omega)⟩
  · obtain ⟨left, e⟩ := h.deep (by omega)
    rw [e]
    exact ⟨fun fits => absurd fits (by omega), fun _ => ⟨left, rfl⟩⟩

/-- A reading inside brackets takes one level more. -/
theorem nest (h : ReadBack levels depth x rest result) :
    ReadBack (levels + 1) (depth + 1) x rest result :=
  ⟨fun fits => h.fits (by omega), fun deep => h.deep (by omega)⟩

theorem refused (depth : Nat) (x : α) (rest : List UInt8) (left : Nat) :
    ReadBack 0 (depth + 1) x rest (.error { cause := .tooDeep, left }) :=
  ⟨fun fits => absurd fits (Nat.not_succ_le_zero _), fun _ => ⟨left, rfl⟩⟩

end ReadBack

/-! ## Where a text starts, and where a number in it ends -/

/-- The first byte of a value is no blank, and not the end of an array. -/
theorem Value.bytes_head (v : Value) (hn : ∀ n ∈ v.numbers, n.Survives) :
    ∃ b r, v.bytes = b :: r ∧ isBlank b = false ∧ b ≠ 0x5D := by
  cases v with
  | null => exact ⟨_, _, rfl, rfl, by decide⟩
  | bool b => cases b <;> exact ⟨_, _, rfl, rfl, by decide⟩
  | number n =>
    have survives := hn n (by simp only [Value.numbers, List.mem_singleton])
    obtain ⟨b, r, text, start⟩ := startsNumber_of_readNumber (Number.survives_iff.mp survives)
    have range := start.toNat
    refine ⟨b, r, text, isBlank_of_lt (by omega), ?_⟩
    rintro rfl
    simp only [UInt8.reduceToNat] at range
    omega
  | string s =>
    obtain ⟨content, text, -⟩ := readString_quoted s [] (Nat.le_refl _)
    exact ⟨_, _, (Value.bytes_string s).trans text, rfl, by decide⟩
  | array items =>
    cases items with
    | nil => exact ⟨_, _, rfl, rfl, by decide⟩
    | cons v vs => exact ⟨_, _, Value.bytes_array v vs, rfl, by decide⟩
  | object entries =>
    rcases entries with _ | ⟨⟨k, v⟩, es⟩
    · exact ⟨_, _, rfl, rfl, by decide⟩
    · exact ⟨_, _, Value.bytes_object k v es, rfl, by decide⟩

theorem stops_of_byte {b : UInt8} {r : List UInt8}
    (h : digit? b = none ∧ b ≠ 0x2E ∧ b ≠ 0x65 ∧ b ≠ 0x45) : Stops (b :: r) := by
  rintro _ _ ⟨⟩
  exact h

theorem stops_moreItems (vs : List Value) (rest : List UInt8) :
    Stops (Utf8.encode (Value.moreItems vs) ++ 0x5D :: rest) := by
  cases vs with
  | nil => exact stops_of_byte (by decide)
  | cons v vs => rw [Value.encode_moreItems]; exact stops_of_byte (by decide)

theorem stops_moreEntries (es : List (String × Value)) (rest : List UInt8) :
    Stops (Utf8.encode (Value.moreEntries es) ++ 0x7D :: rest) := by
  cases es with
  | nil => exact stops_of_byte (by decide)
  | cons e es => rw [Value.encode_moreEntries]; exact stops_of_byte (by decide)

/-! ## Reading back -/

theorem readValue_of_survives {n : Number} (h : n.Survives) (fuel levels : Nat)
    {rest : List UInt8} (hs : Stops rest) :
    readValue fuel levels ((Value.number n).bytes ++ rest) = .ok (.number n, rest) := by
  have read := Number.survives_iff.mp h
  obtain ⟨b, r, text, start⟩ := startsNumber_of_readNumber read
  have append := (readNumber_append read).2 rest fun _ => hs
  rw [text, List.cons_append] at append ⊢
  rw [readValue_number start, append]
  rfl

theorem readValue_quoted (s : String) {fuel : Nat} (levels : Nat) (rest : List UInt8)
    (h : (Value.string s).bytes.length ≤ fuel) :
    readValue fuel levels ((Value.string s).bytes ++ rest) = .ok (.string s, rest) := by
  rw [Value.bytes_string] at h ⊢
  obtain ⟨content, text, read⟩ := readString_quoted s rest h
  rw [text, List.cons_append, readValue_string, read]
  rfl

mutual

/-- A value is read back from its text, whatever follows that does not go on with a number. -/
theorem readValue_bytes : ∀ (v : Value), v.Ordered → (∀ n ∈ v.numbers, n.Survives) →
    ∀ (fuel levels : Nat) {rest : List UInt8}, v.bytes.length ≤ fuel → Stops rest →
      ReadBack levels v.depth v rest (readValue fuel levels (v.bytes ++ rest))
  | .null, _, _, fuel, levels, rest, _, _ => by
    rw [show readValue fuel levels (Value.null.bytes ++ rest) = .ok (.null, rest) from
      readValue_null fuel levels rest]
    exact .ok levels _ rest
  | .bool true, _, _, fuel, levels, rest, _, _ => by
    rw [show readValue fuel levels ((Value.bool true).bytes ++ rest) = .ok (.bool true, rest) from
      readValue_true fuel levels rest]
    exact .ok levels _ rest
  | .bool false, _, _, fuel, levels, rest, _, _ => by
    rw [show readValue fuel levels ((Value.bool false).bytes ++ rest) = .ok (.bool false, rest) from
      readValue_false fuel levels rest]
    exact .ok levels _ rest
  | .number n, _, hn, fuel, levels, rest, _, hs => by
    rw [readValue_of_survives (hn n (by simp only [Value.numbers, List.mem_singleton])) _ _ hs]
    exact .ok levels _ rest
  | .string s, _, _, fuel, levels, rest, hf, _ => by
    rw [readValue_quoted s levels rest hf]
    exact .ok levels _ rest
  | .array [], _, _, fuel, levels, rest, _, _ => by
    rw [Value.depth, Value.depthItems]
    rw [show (Value.array []).bytes ++ rest = 0x5B :: 0x5D :: rest from rfl]
    cases levels with
    | zero => rw [readValue_array_zero]; exact .refused _ _ _ _
    | succ levels =>
      rw [readValue_array, readItems_end]
      exact (ReadBack.ok levels [] rest).nest.map Value.array
  | .array (v :: vs), ho, hn, fuel, levels, rest, hf, _ => by
    rw [Value.Ordered, Value.OrderedItems] at ho
    rw [Value.numbers, Value.numbersItems, List.forall_mem_append] at hn
    rw [Value.depth, Value.depthItems]
    obtain ⟨b, r, head, blank, bracket⟩ := Value.bytes_head v hn.1
    rw [Value.bytes_array] at hf ⊢
    simp only [List.length_cons, List.length_append, List.cons_append, List.append_assoc,
      List.nil_append] at hf ⊢
    cases levels with
    | zero => rw [readValue_array_zero]; exact .refused _ _ _ _
    | succ levels =>
      -- a number in front goes on neither with a comma nor with the closing bracket
      have first := readValue_bytes v ho.1 hn.1 fuel levels (by omega)
        (stops_moreItems vs rest)
      have others := readMoreItems_bytes vs ho.2 hn.2 fuel fuel levels [v] rest (by omega)
        (by omega)
      rw [readValue_array]
      rw [head, List.cons_append] at first ⊢
      rw [readItems_first _ _ blank bracket]
      refine ReadBack.map (ReadBack.nest ?_) Value.array
      exact first.bind others
  | .object [], _, _, fuel, levels, rest, _, _ => by
    rw [Value.depth, Value.depthEntries]
    rw [show (Value.object []).bytes ++ rest = 0x7B :: 0x7D :: rest from rfl]
    cases levels with
    | zero => rw [readValue_object_zero]; exact .refused _ _ _ _
    | succ levels =>
      rw [readValue_object, readFields_end]
      exact (ReadBack.ok levels [] rest).nest.map Value.object
  | .object ((k, v) :: es), ho, hn, fuel, levels, rest, hf, _ => by
    rw [Value.Ordered, Value.OrderedEntries] at ho
    rw [Value.numbers, Value.numbersEntries, List.forall_mem_append] at hn
    rw [Value.depth, Value.depthEntries]
    rw [Value.bytes_object] at hf ⊢
    simp only [List.length_cons, List.length_append, List.cons_append, List.append_assoc,
      List.nil_append] at hf ⊢
    cases levels with
    | zero => rw [readValue_object_zero]; exact .refused _ _ _ _
    | succ levels =>
      have first := readValue_bytes v ho.2.1 hn.1 fuel levels (by omega)
        (stops_moreEntries es rest)
      have others := readMoreFields_bytes es ho.2.2 hn.2 fuel fuel levels [(k, v)] rest ho.1
        (by omega) (by omega)
      obtain ⟨content, text, read⟩ := readString_quoted k
        (0x3A :: (v.bytes ++ (Utf8.encode (Value.moreEntries es) ++ 0x7D :: rest)))
        (show (Utf8.encode (quoted k)).length ≤ fuel by omega)
      rw [readValue_object, text, List.cons_append, readFields_first _ _ _ read, readEntry_colon]
      refine ReadBack.map (ReadBack.nest ?_) Value.object
      exact (first.map fun v => Keyed.insert k v []).bind others

/-- The elements behind those in `read` are read back. -/
theorem readMoreItems_bytes : ∀ (vs : List Value), Value.OrderedItems vs →
    (∀ n ∈ Value.numbersItems vs, n.Survives) →
    ∀ (fuel count levels : Nat) (read : List Value) (rest : List UInt8),
      (Utf8.encode (Value.moreItems vs)).length ≤ fuel →
      (Utf8.encode (Value.moreItems vs)).length < count →
      ReadBack levels (Value.depthItems vs) (read.reverse ++ vs) rest
        (readMoreItems (readValue fuel levels) count read
          (Utf8.encode (Value.moreItems vs) ++ 0x5D :: rest))
  | [], _, _, fuel, count, levels, read, rest, _, hc => by
    obtain ⟨count, rfl⟩ : ∃ n, count = n + 1 := ⟨count - 1, by omega⟩
    rw [List.append_nil, Value.moreItems, Utf8.encode_nil, List.nil_append, readMoreItems_end]
    exact .ok levels _ rest
  | v :: vs, ho, hn, fuel, count, levels, read, rest, hf, hc => by
    obtain ⟨count, rfl⟩ : ∃ n, count = n + 1 := ⟨count - 1, by omega⟩
    rw [Value.OrderedItems] at ho
    rw [Value.numbersItems, List.forall_mem_append] at hn
    rw [Value.depthItems]
    obtain ⟨b, r, head, blank, bracket⟩ := Value.bytes_head v hn.1
    rw [Value.encode_moreItems] at hf hc ⊢
    simp only [List.length_cons, List.length_append, List.cons_append, List.append_assoc]
      at hf hc ⊢
    have first := readValue_bytes v ho.1 hn.1 fuel levels (by omega)
      (stops_moreItems vs rest)
    have others := readMoreItems_bytes vs ho.2 hn.2 fuel count levels (v :: read) rest (by omega)
      (by omega)
    rw [List.reverse_cons, List.append_assoc, List.singleton_append] at others
    rw [head, List.cons_append] at first ⊢
    rw [readMoreItems_comma _ _ _ blank bracket]
    exact first.bind others

/-- The entries behind those in `entries` are read back, in the order of their keys. -/
theorem readMoreFields_bytes : ∀ (es : List (String × Value)), Value.OrderedEntries es →
    (∀ n ∈ Value.numbersEntries es, n.Survives) →
    ∀ (fuel count levels : Nat) (entries : List (String × Value)) (rest : List UInt8),
      Keyed.Sorted (entries ++ es) →
      (Utf8.encode (Value.moreEntries es)).length ≤ fuel →
      (Utf8.encode (Value.moreEntries es)).length < count →
      ReadBack levels (Value.depthEntries es) (entries ++ es) rest
        (readMoreFields (readEntry (readValue fuel levels)) count entries
          (Utf8.encode (Value.moreEntries es) ++ 0x7D :: rest))
  | [], _, _, fuel, count, levels, entries, rest, _, _, hc => by
    obtain ⟨count, rfl⟩ : ∃ n, count = n + 1 := ⟨count - 1, by omega⟩
    rw [List.append_nil, Value.moreEntries, Utf8.encode_nil, List.nil_append, readMoreFields_end]
    exact .ok levels _ rest
  | (k, v) :: es, ho, hn, fuel, count, levels, entries, rest, sorted, hf, hc => by
    obtain ⟨count, rfl⟩ : ∃ n, count = n + 1 := ⟨count - 1, by omega⟩
    rw [Value.OrderedEntries] at ho
    rw [Value.numbersEntries, List.forall_mem_append] at hn
    rw [Value.depthEntries]
    rw [Value.encode_moreEntries] at hf hc ⊢
    simp only [List.length_cons, List.length_append, List.cons_append, List.append_assoc]
      at hf hc ⊢
    -- the reader sorts entries by their keys, and the printer wrote them sorted
    have last : Keyed.insert k v entries = entries ++ [(k, v)] :=
      Keyed.insert_of_forall_lt v fun e he =>
        (List.pairwise_append.mp sorted).2.2 e he (k, v) List.mem_cons_self
    have first := readValue_bytes v ho.1 hn.1 fuel levels (by omega)
      (stops_moreEntries es rest)
    have others := readMoreFields_bytes es ho.2 hn.2 fuel count levels (entries ++ [(k, v)]) rest
      (by rw [List.append_assoc]; exact sorted) (by omega) (by omega)
    rw [List.append_assoc, List.singleton_append, ← last] at others
    obtain ⟨content, text, read⟩ := readString_quoted k
      (0x3A :: (v.bytes ++ (Utf8.encode (Value.moreEntries es) ++ 0x7D :: rest)))
      (show (Utf8.encode (quoted k)).length ≤ count + 1 by omega)
    rw [text, List.cons_append, readMoreFields_comma _ _ _ read, readEntry_colon]
    exact (first.map fun v => Keyed.insert k v entries).bind others

end

/-! ## Whole texts -/

/-- A text has one line only if it has no line break. -/
theorem locate_line {text : List UInt8} (h : ∀ b ∈ text, 0x20 ≤ b.toNat) (f : Fault) :
    (f.locate text).position.line = 1 := by
  have none : (text.take (text.length - f.left)).count 0x0A = 0 := by
    rw [List.count_eq_zero]
    intro hb
    exact absurd (h _ (List.mem_of_mem_take hb)) (by decide)
  simp only [Fault.locate, Position.after, none]

section

variable {v : Value} (ordered : v.Ordered) (survive : ∀ n ∈ v.numbers, n.Survives)

include ordered survive

/-- The text of a value with few enough levels is read as that value. -/
theorem parse_bytes (h : v.depth ≤ maxDepth) : parse v.bytes = .ok v := by
  have read := readValue_bytes v ordered survive _ maxDepth (Nat.le_succ v.bytes.length) Stops.nil
  rw [List.append_nil] at read
  exact readAll_eq_ok.mpr ⟨[], read.fits h, rfl⟩

/-- The text of a value with more levels is refused because of them. -/
theorem parse_bytes_deep (h : maxDepth < v.depth) :
    ∃ column, parse v.bytes = .error { cause := .tooDeep, position := { line := 1, column } } := by
  have read := readValue_bytes v ordered survive _ maxDepth (Nat.le_succ v.bytes.length) Stops.nil
  rw [List.append_nil] at read
  obtain ⟨left, e⟩ := read.deep h
  have line := locate_line v.le_of_mem_bytes { cause := .tooDeep, left }
  refine ⟨(Fault.locate { cause := .tooDeep, left } v.bytes).position.column, ?_⟩
  rw [← line]
  exact @readAll_of_error _ (fun fuel => readValue fuel maxDepth) _ _ e

end

end Switchboard.Json
