import Switchboard.Json.Typed
import Switchboard.Proofs.Json.RoundTrip

/-!
# What a reader of one type makes of any value

A reader of a known type, put before the text of any value, either takes exactly that text or
refuses it for what the value is (`readStringAs_bytes`, `readValues_bytes`). So reading a text as a
type is the same as reading it as a value and then looking at the value (`Value.asString`,
`Value.asItems`), refusals included.

`readFields_fold` says the same of an object: its fields are folded in the order of the text, by
what each of them does alone.
-/
namespace Switchboard.Json

/-- A value that its own text stands for: the keys of its objects are in order, and its numbers are
read back. -/
structure Value.Readable (v : Value) : Prop where
  ordered : v.Ordered
  survive : ∀ n ∈ v.numbers, n.Survives

theorem Value.readable_string (s : String) : (Value.string s).Readable :=
  ⟨trivial, List.forall_mem_nil _⟩

/-! ## Looking at a value -/

/-- What a refusal says of a value in the place of another type. -/
def Value.found : Value → Found
  | .null => .unit
  | .bool b => .bool b
  | .number n => .number n
  | .string s => .string s
  | .array _ => .sequence
  | .object _ => .map

/-- A value as a string. -/
def Value.asString : Value → Except Cause String
  | .string s => .ok s
  | v => .error (.invalidType v.found "a string")

/-- A value as the list of its elements, with at most `levels` levels. -/
def Value.asItems (levels : Nat) : Value → Except Cause (List Value)
  | .array vs => if (Value.array vs).depth ≤ levels then .ok vs else .error .tooDeep
  | v => .error (.invalidType v.found "a sequence")

theorem Value.asString_of_ne {v : Value} (h : ∀ s, v ≠ .string s) :
    v.asString = .error (.invalidType v.found "a string") := by
  cases v with
  | string s => exact absurd rfl (h s)
  | null | bool _ | number _ | array _ | object _ => rfl

theorem Value.asItems_of_ne {v : Value} (h : ∀ vs, v ≠ .array vs) (levels : Nat) :
    v.asItems levels = .error (.invalidType v.found "a sequence") := by
  cases v with
  | array vs => exact absurd rfl (h vs)
  | null | bool _ | number _ | string _ | object _ => rfl

theorem Value.asString_eq_ok {v : Value} {s : String} : v.asString = .ok s ↔ v = .string s := by
  cases v <;> simp [asString]

theorem Value.asItems_eq_ok {levels : Nat} {v : Value} {vs : List Value} :
    v.asItems levels = .ok vs ↔ v = .array vs ∧ v.depth ≤ levels := by
  cases v with
  | array ws =>
    rw [asItems, Value.array.injEq]
    split
    · next fits => simp only [Except.ok.injEq, fits, and_true]
    · next deep => simp only [reduceCtorEq, deep, and_false]
  | null | bool _ | number _ | string _ | object _ => simp [asItems]

/-! ## Results that agree -/

theorem bind_eq_ok {α β : Type} {x : Except Cause α} {f : α → Except Cause β} {b : β} :
    x.bind f = .ok b ↔ ∃ a, x = .ok a ∧ f a = .ok b := by
  constructor
  · intro h
    cases x with
    | error c => cases h
    | ok a => exact ⟨a, rfl, h⟩
  · rintro ⟨a, rfl, h⟩
    exact h

theorem map_eq_ok {α β : Type} {x : Except Cause α} {f : α → β} {b : β} :
    x.map f = .ok b ↔ ∃ a, x = .ok a ∧ f a = b := by
  cases x <;> simp [Except.map]

/-- The result of a reader before `rest`, when it should give `x`: all that stands before `rest` is
taken, or the text is refused for the same cause. -/
inductive Reads {α : Type} (rest : List UInt8) :
    Except Cause α → Except Fault (α × List UInt8) → Prop where
  | value (x : α) : Reads rest (.ok x) (.ok (x, rest))
  | refusal (cause : Cause) (left : Nat) : Reads rest (.error cause) (.error { cause, left })

namespace Reads

variable {α β : Type} {rest rest' : List UInt8} {x : Except Cause α}
  {result : Except Fault (α × List UInt8)}

/-- One reading after the other. -/
theorem bind {f : α → Except Cause β} {next : α × List UInt8 → Except Fault (β × List UInt8)}
    (h : Reads rest' x result) (h' : ∀ a, x = .ok a → Reads rest (f a) (next (a, rest'))) :
    Reads rest (x.bind f) (result.bind next) := by
  cases h with
  | value a => exact h' a rfl
  | refusal cause left => exact .refusal cause left

/-- What is refused behind every value is refused. -/
theorem bind_error {next : α × List UInt8 → Except Fault β} (h : Reads rest' x result)
    (h' : ∀ a, ∃ f, next (a, rest') = .error f) : ∃ f, result.bind next = .error f := by
  cases h with
  | value a => exact h' a
  | refusal cause left => exact ⟨_, rfl⟩

theorem map (h : Reads rest x result) (f : α → β) :
    Reads rest (x.map f) (result.map fun (a, r) => (f a, r)) := by
  cases h with
  | value a => exact .value (f a)
  | refusal cause left => exact .refusal cause left

end Reads

theorem ReadBack.reads {α : Type} {levels depth : Nat} {x : α} {rest : List UInt8}
    {result : Except Fault (α × List UInt8)} (h : ReadBack levels depth x rest result) :
    Reads rest (if depth ≤ levels then .ok x else .error .tooDeep) result := by
  split
  · next fits => rw [h.fits fits]; exact .value x
  · next deep =>
    obtain ⟨left, e⟩ := h.deep (Nat.lt_of_not_le deep)
    rw [e]
    exact .refusal .tooDeep left

/-! ## Where a text starts -/

/-- The byte with which the text of a value can start. -/
def Value.Starts : Value → UInt8 → Prop
  | .null, b => b = 0x6E
  | .bool true, b => b = 0x74
  | .bool false, b => b = 0x66
  | .number _, b => StartsNumber b
  | .string _, b => b = 0x22
  | .array _, b => b = 0x5B
  | .object _, b => b = 0x7B

theorem Value.exists_starts {v : Value} (readable : v.Readable) :
    ∃ b r, v.bytes = b :: r ∧ v.Starts b := by
  cases v with
  | null => exact ⟨_, _, rfl, rfl⟩
  | bool b => cases b <;> exact ⟨_, _, rfl, rfl⟩
  | number n =>
    have survives := readable.survive n (by simp only [numbers, List.mem_singleton])
    exact startsNumber_of_readNumber (Number.survives_iff.mp survives)
  | string s =>
    obtain ⟨content, text, -⟩ := readString_quoted s [] (Nat.le_refl _)
    exact ⟨_, _, (bytes_string s).trans text, rfl⟩
  | array vs =>
    cases vs with
    | nil => exact ⟨_, _, rfl, rfl⟩
    | cons v vs => exact ⟨_, _, bytes_array v vs, rfl⟩
  | object es =>
    rcases es with _ | ⟨⟨k, v⟩, es⟩
    · exact ⟨_, _, rfl, rfl⟩
    · exact ⟨_, _, bytes_object k v es, rfl⟩

namespace Value.Starts

variable {v : Value} {b : UInt8}

theorem isBlank_eq (h : v.Starts b) : isBlank b = false := by
  rcases v with _ | (_ | _) | n | _ | _ | _
  case number =>
    have := StartsNumber.toNat h
    exact isBlank_of_lt (by omega)
  all_goals cases h; rfl

theorem ne_bracket (h : v.Starts b) : b ≠ 0x5D := by
  rcases v with _ | (_ | _) | n | _ | _ | _
  case number => rintro rfl; exact absurd (StartsNumber.toNat h) (by decide)
  all_goals cases h; decide

/-- Only a string starts with a quotation mark. -/
theorem ne_quote (h : v.Starts b) (other : ∀ s, v ≠ .string s) : b ≠ 0x22 := by
  rcases v with _ | (_ | _) | n | s | _ | _
  case number => rintro rfl; exact absurd (StartsNumber.toNat h) (by decide)
  case string => exact absurd rfl (other s)
  all_goals cases h; decide

/-- Only an array starts with its bracket. -/
theorem ne_opening (h : v.Starts b) (other : ∀ vs, v ≠ .array vs) : b ≠ 0x5B := by
  rcases v with _ | (_ | _) | n | _ | vs | _
  case number => rintro rfl; exact absurd (StartsNumber.toNat h) (by decide)
  case array => exact absurd rfl (other vs)
  all_goals cases h; decide

end Value.Starts

/-! ## Readers of one type -/

section Byte

variable {b : UInt8} (blank : isBlank b = false) (fuel : Nat) (r : List UInt8)

include blank

theorem readStringAs_of_ne (quote : b ≠ 0x22) (wanted : String) :
    readStringAs fuel wanted (b :: r) = refuse fuel wanted (b :: r) := by
  unfold readStringAs
  rw [skipBlank_cons blank]
  split
  · rename_i e; cases e
  · rename_i e; cases e; exact absurd rfl quote
  · rfl

theorem readValues_of_ne (bracket : b ≠ 0x5B) (levels : Nat) :
    readValues fuel levels (b :: r) = refuse fuel "a sequence" (b :: r) := by
  unfold readValues
  rw [skipBlank_cons blank]
  split
  · rename_i e; cases e
  · rename_i e; cases e; exact absurd rfl bracket
  · rfl

end Byte

theorem readValue_eq_readValues (fuel levels : Nat) (r : List UInt8) :
    readValue fuel levels (0x5B :: r) =
      (readValues fuel levels (0x5B :: r)).map fun (vs, r) => (.array vs, r) := by
  cases levels <;> rfl

theorem refuse_number {α : Type} {b : UInt8} (h : StartsNumber b) (fuel : Nat) (wanted : String)
    (r : List UInt8) :
    refuse (α := α) fuel wanted (b :: r) =
      (readNumber (b :: r)).bind fun (n, r) => here (.invalidType (.number n) wanted) r := by
  unfold refuse
  split
  · rename_i e; exact (h.ne e (by decide)).elim
  · rename_i e; exact (h.ne e (by decide)).elim
  · rename_i e; exact (h.ne e (by decide)).elim
  · rename_i e; exact (h.ne e (by decide)).elim
  · rename_i e; exact (h.ne e (by decide)).elim
  · rename_i e; exact (h.ne e (by decide)).elim
  · rename_i e; cases e
  · rename_i e
    cases e
    exact if_pos (by simpa only [StartsNumber, Bool.or_eq_true, decide_eq_true_eq] using h)

section

variable {v : Value} {fuel : Nat} {rest : List UInt8} (readable : v.Readable)
  (enough : v.bytes.length ≤ fuel) (stops : Stops rest)

include readable enough stops

/-- A refusal names the value that stands there. -/
theorem refuse_bytes {α : Type} (wanted : String) :
    ∃ left, refuse (α := α) fuel wanted (v.bytes ++ rest) =
      .error { cause := .invalidType v.found wanted, left } := by
  cases v with
  | null => exact ⟨_, rfl⟩
  | bool b => cases b <;> exact ⟨_, rfl⟩
  | number n =>
    have survives := readable.survive n (by simp only [Value.numbers, List.mem_singleton])
    have read := Number.survives_iff.mp survives
    obtain ⟨b, r, text, start⟩ := startsNumber_of_readNumber read
    have append := (readNumber_append read).2 rest fun _ => stops
    rw [text, List.cons_append] at append ⊢
    rw [refuse_number start, append]
    exact ⟨_, rfl⟩
  | string s =>
    rw [Value.bytes_string] at enough ⊢
    obtain ⟨content, text, read⟩ := readString_quoted s rest enough
    refine ⟨rest.length, ?_⟩
    rw [text, List.cons_append]
    change (readString fuel (content ++ rest)).bind _ = _
    rw [read]
    rfl
  | array vs =>
    cases vs with
    | nil => exact ⟨_, rfl⟩
    | cons v vs => rw [Value.bytes_array]; exact ⟨_, rfl⟩
  | object es =>
    rcases es with _ | ⟨⟨k, v⟩, es⟩
    · exact ⟨_, rfl⟩
    · rw [Value.bytes_object]; exact ⟨_, rfl⟩

/-- A string is read where one is wanted, and nothing else is. -/
theorem readStringAs_bytes :
    Reads rest v.asString (readStringAs fuel "a string" (v.bytes ++ rest)) := by
  by_cases string : ∃ s, v = .string s
  · obtain ⟨s, rfl⟩ := string
    rw [Value.bytes_string] at enough ⊢
    obtain ⟨content, text, read⟩ := readString_quoted s rest enough
    rw [text, List.cons_append]
    change Reads rest _ (readString fuel (content ++ rest))
    rw [read]
    exact .value s
  · have other (s : String) (e : v = .string s) : False := string ⟨s, e⟩
    obtain ⟨left, refused⟩ := refuse_bytes readable enough stops "a string"
    obtain ⟨b, r, text, starts⟩ := Value.exists_starts readable
    rw [text, List.cons_append] at refused ⊢
    rw [readStringAs_of_ne starts.isBlank_eq _ _ (starts.ne_quote other), refused,
      Value.asString_of_ne other]
    exact .refusal _ left

/-- An array is read where one is wanted, unless it has too many levels, and nothing else is. -/
theorem readValues_bytes (levels : Nat) :
    Reads rest (v.asItems levels) (readValues fuel levels (v.bytes ++ rest)) := by
  by_cases array : ∃ vs, v = .array vs
  · obtain ⟨vs, rfl⟩ := array
    have whole := (readValue_bytes _ readable.ordered readable.survive fuel levels enough stops).reads
    obtain ⟨b, r, text, rfl⟩ := Value.exists_starts readable
    rw [text, List.cons_append, readValue_eq_readValues] at whole
    rw [text, List.cons_append]
    rw [Value.asItems]
    -- the reader of values and this one differ only in the array around the elements
    cases read : readValues fuel levels (0x5B :: (r ++ rest)) with
    | ok p =>
      rw [read] at whole
      split at whole
      · next fits => rw [if_pos fits]; cases whole; exact .value _
      · cases whole
    | error f =>
      rw [read] at whole
      split at whole
      · cases whole
      · next deep => rw [if_neg deep]; cases whole; exact .refusal _ _
  · have other (vs : List Value) (e : v = .array vs) : False := array ⟨vs, e⟩
    obtain ⟨left, refused⟩ := refuse_bytes readable enough stops "a sequence"
    obtain ⟨b, r, text, starts⟩ := Value.exists_starts readable
    rw [text, List.cons_append] at refused ⊢
    rw [readValues_of_ne starts.isBlank_eq _ _ (starts.ne_opening other), refused,
      Value.asItems_of_ne other]
    exact .refusal _ left

end

/-! ## Objects of fields -/

section Fields

variable {σ : Type} {field : σ → String → Reader σ} {step : σ → String × Value → Except Cause σ}

/-- What stands behind the key of a field is read as the field says, whatever follows it. -/
def ReadsField (field : σ → String → Reader σ) (step : σ → String × Value → Except Cause σ)
    (e : String × Value) : Prop :=
  ∀ (s : σ) (rest : List UInt8), Stops rest →
    Reads rest (step s e) (field s e.1 (0x3A :: (e.2.bytes ++ rest)))

/-- The same of every value whose text is no longer than `fuel`, as those in a text are. -/
def ReadsFields (field : σ → String → Reader σ) (step : σ → String × Value → Except Cause σ)
    (fuel : Nat) (es : List (String × Value)) : Prop :=
  ∀ e ∈ es, e.2.bytes.length ≤ fuel → ReadsField field step e

theorem readMoreFields_fold {fuel : Nat} (es : List (String × Value))
    (h : ReadsFields field step fuel es)
    (short : (Utf8.encode (Value.moreEntries es)).length ≤ fuel) {count : Nat}
    (enough : (Utf8.encode (Value.moreEntries es)).length < count) (s : σ) (rest : List UInt8) :
    Reads rest (es.foldlM step s)
      (readMoreFields field count s (Utf8.encode (Value.moreEntries es) ++ 0x7D :: rest)) := by
  induction es generalizing count s with
  | nil =>
    obtain ⟨count, rfl⟩ : ∃ n, count = n + 1 := ⟨count - 1, by omega⟩
    exact .value s
  | cons e es ih =>
    obtain ⟨k, v⟩ := e
    obtain ⟨first, others⟩ := List.forall_mem_cons.mp h
    obtain ⟨count, rfl⟩ : ∃ n, count = n + 1 := ⟨count - 1, by omega⟩
    rw [Value.encode_moreEntries] at short enough ⊢
    simp only [List.length_cons, List.length_append, List.cons_append, List.append_assoc]
      at short enough ⊢
    obtain ⟨content, text, read⟩ := readString_quoted k
      (0x3A :: (v.bytes ++ (Utf8.encode (Value.moreEntries es) ++ 0x7D :: rest)))
      (show (Utf8.encode (quoted k)).length ≤ count + 1 by omega)
    have value := first (show v.bytes.length ≤ fuel by omega) s _ (stops_moreEntries es rest)
    rw [text, List.cons_append, readMoreFields_comma _ _ _ read, List.foldlM_cons]
    exact value.bind fun s' _ => ih others (by omega) (by omega) s'

/-- The fields of an object are folded in the order of the text. -/
theorem readFields_fold {fuel : Nat} (es : List (String × Value))
    (h : ReadsFields field step fuel es) (enough : (Value.object es).bytes.length ≤ fuel) (s : σ)
    (rest : List UInt8) :
    ∃ inside, (Value.object es).bytes ++ rest = 0x7B :: inside ∧
      Reads rest (es.foldlM step s) (readFields field fuel s inside) := by
  cases es with
  | nil => exact ⟨0x7D :: rest, rfl, .value s⟩
  | cons e es =>
    obtain ⟨k, v⟩ := e
    obtain ⟨first, others⟩ := List.forall_mem_cons.mp h
    rw [Value.bytes_object] at enough ⊢
    simp only [List.length_cons, List.length_append, List.cons_append, List.append_assoc,
      List.nil_append] at enough ⊢
    obtain ⟨content, text, read⟩ := readString_quoted k
      (0x3A :: (v.bytes ++ (Utf8.encode (Value.moreEntries es) ++ 0x7D :: rest)))
      (show (Utf8.encode (quoted k)).length ≤ fuel by omega)
    have value := first (show v.bytes.length ≤ fuel by omega) s _ (stops_moreEntries es rest)
    refine ⟨_, rfl, ?_⟩
    rw [text, List.cons_append, readFields_first _ _ _ read, List.foldlM_cons]
    exact value.bind fun s' _ => readMoreFields_fold es others (by omega) (by omega) s' rest

end Fields

/-! ## Whole texts -/

/-- The text of a value is read up to its end, or refused for the same cause. A text has one
line. -/
theorem readAll_of_reads {α : Type} {reader : Nat → Reader α} {v : Value} {x : Except Cause α}
    (h : Reads [] x (reader (v.bytes.length + 1) v.bytes)) :
    (∀ a, x = .ok a → readAll reader v.bytes = .ok a) ∧
      ∀ cause, x = .error cause → ∃ column,
        readAll reader v.bytes = .error { cause, position := { line := 1, column } } := by
  constructor
  · rintro a rfl
    refine readAll_eq_ok.mpr ⟨[], ?_, rfl⟩
    cases e : reader (v.bytes.length + 1) v.bytes with
    | ok p => rw [e] at h; cases h; rfl
    | error f => rw [e] at h; cases h
  · rintro cause rfl
    cases e : reader (v.bytes.length + 1) v.bytes with
    | ok p => rw [e] at h; cases h
    | error f =>
      rw [e] at h
      cases h with
      | refusal _ left =>
        have line := locate_line v.le_of_mem_bytes { cause, left }
        refine ⟨(Fault.locate { cause, left } v.bytes).position.column, ?_⟩
        rw [← line]
        exact readAll_of_error e

end Switchboard.Json
