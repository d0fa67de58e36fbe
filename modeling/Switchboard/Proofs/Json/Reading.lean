import Switchboard.Json.Parser

/-!
# What the reader does at a byte

Equations of the readers for a text whose first byte is known and is no blank. The loops over
elements and fields are put as a bind of the reader of one element or field (`readItems_first`,
`readMoreItems_comma`, `readFields_first`, `readMoreFields_comma`), so that a proof about a list of
elements never opens a loop. `readAll_eq_ok` takes a successful reading of a whole text apart.
-/
namespace Switchboard.Json

/-! ## Values -/

theorem skipBlank_cons {b : UInt8} (h : isBlank b = false) (r : List UInt8) :
    skipBlank (b :: r) = b :: r := by
  rw [skipBlank, List.dropWhile_cons_of_neg (by rw [h]; decide)]

theorem readValue_null (fuel levels : Nat) (r : List UInt8) :
    readValue fuel levels (0x6E :: 0x75 :: 0x6C :: 0x6C :: r) = .ok (.null, r) := by
  cases levels <;> rfl

theorem readValue_true (fuel levels : Nat) (r : List UInt8) :
    readValue fuel levels (0x74 :: 0x72 :: 0x75 :: 0x65 :: r) = .ok (.bool true, r) := by
  cases levels <;> rfl

theorem readValue_false (fuel levels : Nat) (r : List UInt8) :
    readValue fuel levels (0x66 :: 0x61 :: 0x6C :: 0x73 :: 0x65 :: r) = .ok (.bool false, r) := by
  cases levels <;> rfl

theorem readValue_string (fuel levels : Nat) (r : List UInt8) :
    readValue fuel levels (0x22 :: r) = (readString fuel r).map fun (s, r) => (.string s, r) := by
  cases levels <;> rfl

theorem readValue_array (fuel levels : Nat) (r : List UInt8) :
    readValue fuel (levels + 1) (0x5B :: r) =
      (readItems (readValue fuel levels) fuel r).map fun (vs, r) => (.array vs, r) := rfl

theorem readValue_array_zero (fuel : Nat) (r : List UInt8) :
    readValue fuel 0 (0x5B :: r) = .error ⟨.tooDeep, r.length⟩ := rfl

theorem readValue_object (fuel levels : Nat) (r : List UInt8) :
    readValue fuel (levels + 1) (0x7B :: r) =
      (readFields (readEntry (readValue fuel levels)) fuel [] r).map fun (es, r) =>
        (.object es, r) := rfl

theorem readValue_object_zero (fuel : Nat) (r : List UInt8) :
    readValue fuel 0 (0x7B :: r) = .error ⟨.tooDeep, r.length⟩ := rfl

/-- The bytes with which a number starts. -/
def StartsNumber (b : UInt8) : Prop := b = 0x2D ∨ (digit? b).isSome = true

theorem StartsNumber.toNat {b : UInt8} (h : StartsNumber b) :
    b.toNat = 0x2D ∨ 0x30 ≤ b.toNat ∧ b.toNat ≤ 0x39 := by
  rcases h with rfl | h
  · exact .inl rfl
  · unfold digit? at h
    split at h
    · rename_i range
      simp only [Bool.and_eq_true, decide_eq_true_eq, UInt8.le_iff_toNat_le, UInt8.reduceToNat]
        at range
      exact .inr range
    · cases h

/-- A number starts with none of the bytes that other values start with. -/
theorem StartsNumber.ne {b x : UInt8} {r r' : List UInt8} (h : StartsNumber b)
    (e : b :: r = x :: r') (hx : x.toNat ≠ 0x2D ∧ (x.toNat < 0x30 ∨ 0x39 < x.toNat)) : False := by
  have range := h.toNat
  cases e
  omega

theorem isBlank_of_lt {b : UInt8} (h : 0x20 < b.toNat) : isBlank b = false := by
  have ne (x : UInt8) (hx : x.toNat ≤ 0x20) : b ≠ x := by
    rintro rfl
    omega
  simp only [isBlank, ne 0x20 (by decide), ne 0x0A (by decide), ne 0x09 (by decide),
    ne 0x0D (by decide), decide_false, Bool.or_self]

theorem readValue_number {b : UInt8} (h : StartsNumber b) (fuel levels : Nat) (r : List UInt8) :
    readValue fuel levels (b :: r) = (readNumber (b :: r)).map fun (n, r) => (.number n, r) := by
  have range := h.toNat
  rw [readValue, skipBlank_cons (isBlank_of_lt (by omega))]
  split
  · rename_i e; cases e
  · rename_i e; exact (h.ne e (by decide)).elim
  · rename_i e; exact (h.ne e (by decide)).elim
  · rename_i e; exact (h.ne e (by decide)).elim
  · rename_i e; exact (h.ne e (by decide)).elim
  · rename_i e; exact (h.ne e (by decide)).elim
  · rename_i e; exact (h.ne e (by decide)).elim
  · rename_i e
    cases e
    exact if_pos (by simpa only [StartsNumber, Bool.or_eq_true, decide_eq_true_eq] using h)

theorem readValue_eq_number {fuel levels : Nat} {text rest : List UInt8} {n : Number}
    (hs : skipBlank text = text) (h : readValue fuel levels text = .ok (.number n, rest)) :
    readNumber text = .ok (n, rest) := by
  rw [readValue, hs] at h
  split at h
  · cases h
  · rename_i r
    cases hr : readWord [0x75, 0x6C, 0x6C] r <;> rw [hr] at h <;> cases h
  · rename_i r
    cases hr : readWord [0x72, 0x75, 0x65] r <;> rw [hr] at h <;> cases h
  · rename_i r
    cases hr : readWord [0x61, 0x6C, 0x73, 0x65] r <;> rw [hr] at h <;> cases h
  · rename_i r
    cases hr : readString fuel r <;> rw [hr] at h <;> cases h
  · rename_i r
    cases levels with
    | zero => cases h
    | succ levels =>
      simp only at h
      cases hr : readItems (readValue fuel levels) fuel r <;> rw [hr] at h <;> cases h
  · rename_i r
    cases levels with
    | zero => cases h
    | succ levels =>
      simp only at h
      cases hr : readFields (readEntry (readValue fuel levels)) fuel [] r <;> rw [hr] at h <;>
        cases h
  · rename_i b r _ _ _ _ _ _
    split at h
    · cases hr : readNumber (b :: r) with
      | error e => rw [hr] at h; cases h
      | ok x => rw [hr] at h; cases h; rfl
    · cases h

/-! ## Elements -/

section Elements

variable {α : Type} (item : Reader α) (fuel : Nat)

theorem readItems_end (rest : List UInt8) :
    readItems item fuel (0x5D :: rest) = .ok ([], rest) := rfl

theorem readMoreItems_end (read : List α) (rest : List UInt8) :
    readMoreItems item (fuel + 1) read (0x5D :: rest) = .ok (read.reverse, rest) := rfl

theorem readItems_first {b : UInt8} (blank : isBlank b = false) (bracket : b ≠ 0x5D)
    (r : List UInt8) :
    readItems item fuel (b :: r) =
      (item (b :: r)).bind fun (x, r) => readMoreItems item fuel [x] r := by
  rw [readItems, skipBlank_cons blank]
  split
  · rename_i e; cases e
  · rename_i e; cases e; exact absurd rfl bracket
  · rfl

theorem readMoreItems_comma (read : List α) {b : UInt8} (blank : isBlank b = false)
    (bracket : b ≠ 0x5D) (r : List UInt8) :
    readMoreItems item (fuel + 1) read (0x2C :: b :: r) =
      (item (b :: r)).bind fun (x, r) => readMoreItems item fuel (x :: read) r := by
  rw [readMoreItems, skipBlank_cons (b := 0x2C) rfl]
  simp only [skipBlank_cons blank]
  split
  · rename_i e; cases e
  · rename_i e; cases e; exact absurd rfl bracket
  · cases item (b :: r) <;> rfl

end Elements

/-! ## Fields -/

section Fields

variable {σ : Type} (field : σ → String → Reader σ) (fuel : Nat) (s : σ)

theorem readFields_end (rest : List UInt8) :
    readFields field fuel s (0x7D :: rest) = .ok (s, rest) := rfl

theorem readMoreFields_end (rest : List UInt8) :
    readMoreFields field (fuel + 1) s (0x7D :: rest) = .ok (s, rest) := rfl

theorem readFields_first {text rest : List UInt8} {key : String}
    (h : readString fuel text = .ok (key, rest)) :
    readFields field fuel s (0x22 :: text) =
      (field s key rest).bind fun (s, r) => readMoreFields field fuel s r := by
  change (readString fuel text).bind _ = _
  rw [h]
  rfl

theorem readMoreFields_comma {text rest : List UInt8} {key : String}
    (h : readString (fuel + 1) text = .ok (key, rest)) :
    readMoreFields field (fuel + 1) s (0x2C :: 0x22 :: text) =
      (field s key rest).bind fun (s, r) => readMoreFields field fuel s r := by
  rw [readMoreFields, skipBlank_cons (b := 0x2C) rfl]
  simp only [skipBlank_cons (b := 0x22) rfl, h]
  cases field s key rest <;> rfl

end Fields

theorem readEntry_colon (value : Reader Value) (entries : List (String × Value)) (key : String)
    (r : List UInt8) :
    readEntry value entries key (0x3A :: r) =
      (value r).map fun (v, r) => (Keyed.insert key v entries, r) := by
  change (value r).bind _ = _
  cases value r <;> rfl

/-! ## Whole texts -/

theorem readAll_eq_ok {α : Type} {reader : Nat → Reader α} {text : List UInt8} {x : α} :
    readAll reader text = .ok x ↔
      ∃ rest, reader (text.length + 1) text = .ok (x, rest) ∧ skipBlank rest = [] := by
  unfold readAll
  rcases reader (text.length + 1) text with e | ⟨y, rest⟩
  · constructor
    · intro h
      cases h
    · rintro ⟨_, h, -⟩
      cases h
  · have finished : readEnd rest = .ok () ↔ skipBlank rest = [] := by
      unfold readEnd
      cases skipBlank rest with
      | nil => exact ⟨fun _ => rfl, fun _ => rfl⟩
      | cons b r => exact ⟨fun h => (by cases h), fun h => (by cases h)⟩
    constructor
    · intro h
      cases hr : readEnd rest with
      | error e => simp only [bind, Except.bind, hr] at h; cases h
      | ok u =>
        simp only [bind, Except.bind, hr, pure, Except.pure] at h
        cases h
        exact ⟨rest, rfl, finished.mp hr⟩
    · rintro ⟨_, h, ends⟩
      cases h
      simp only [bind, Except.bind, finished.mpr ends]
      rfl

theorem readAll_of_error {α : Type} {reader : Nat → Reader α} {text : List UInt8} {f : Fault}
    (h : reader (text.length + 1) text = .error f) :
    readAll reader text = .error (f.locate text) := by
  unfold readAll
  rw [h]
  rfl

end Switchboard.Json
