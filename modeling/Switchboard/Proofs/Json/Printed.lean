import Switchboard.Json.Printer
import Switchboard.Proofs.Text.Utf8

/-!
# What a printed text does not contain

The compact text of a value has no character below U+0020, whatever its strings hold
(`le_of_mem_chars`): the printer escapes them. So it has no NUL, for a reader that stops at one, and
no line break, for a reader that counts lines. A number has no blank either (`lt_of_mem_number`).
-/
namespace Switchboard

/-! ## Decimals -/

namespace Decimal

theorem mem_of_mem_dropZeros {c : Char} {ds : List Char} (h : c ∈ dropZeros ds) : c ∈ ds := by
  unfold dropZeros at h
  exact List.mem_reverse.mp ((List.dropWhile_suffix _).subset (List.mem_reverse.mp h))

theorem isDigit_of_mem_shortestFrom {d : Dyadic} {magnitude : Int} {fuel n : Nat} {c : Char}
    (h : c ∈ (d.shortestFrom magnitude fuel n).digits) : c.isDigit = true := by
  induction fuel generalizing n with
  | zero => rw [List.mem_singleton.mp h]; rfl
  | succ fuel ih =>
    simp only [Dyadic.shortestFrom] at h
    split at h
    · exact Nat.isDigit_of_mem_toDigits (by decide) (by decide) (mem_of_mem_dropZeros h)
    · exact ih h

end Decimal

namespace Json

theorem lt_of_isDigit {c : Char} (h : c.isDigit = true) : 0x20 < c.toNat := by
  have h' := (Char.isDigit_iff_toNat.mp h).1
  exact Nat.lt_of_lt_of_le (by decide) h'

theorem lt_of_mem_toDigits {n : Nat} {c : Char} (h : c ∈ Nat.toDigits 10 n) : 0x20 < c.toNat :=
  lt_of_isDigit (Nat.isDigit_of_mem_toDigits (by decide) (by decide) h)

/-- A decimal is written with digits, a point, and an exponent with its sign. -/
theorem lt_of_mem_decimalChars {d : Decimal.Digits} (hd : ∀ c ∈ d.digits, c.isDigit = true)
    {c : Char} (h : c ∈ decimalChars d) : 0x20 < c.toNat := by
  have digits {ds : List Char} (sub : ds ⊆ d.digits) (hc : c ∈ ds) : 0x20 < c.toNat :=
    lt_of_isDigit (hd c (sub hc))
  have zeros {n : Nat} (hc : c ∈ List.replicate n '0') : 0x20 < c.toNat := by
    rw [List.eq_of_mem_replicate hc]; decide
  unfold decimalChars at h
  simp only at h
  split at h
  · split at h
    · simp only [List.mem_cons, List.mem_append] at h
      rcases h with rfl | rfl | h | h
      · decide
      · decide
      · exact zeros h
      · exact digits (List.Subset.refl _) h
    · split at h
      · simp only [List.mem_cons, List.mem_append, List.not_mem_nil, or_false] at h
        rcases h with (h | h) | rfl | rfl
        · exact digits (List.Subset.refl _) h
        · exact zeros h
        · decide
        · decide
      · simp only [List.mem_cons, List.mem_append] at h
        rcases h with h | rfl | h
        · exact digits (List.take_subset _ _) h
        · decide
        · exact digits (List.drop_subset _ _) h
  · simp only [List.mem_cons, List.mem_append] at h
    rcases h with (h | h) | rfl | rfl | h
    · exact digits (List.take_subset _ _) h
    · split at h
      · cases h
      · rename_i ds hds
        rcases List.mem_cons.mp h with rfl | h
        · decide
        · exact digits (List.drop_subset 1 _) h
    · decide
    · split <;> decide
    · exact lt_of_mem_toDigits h

theorem lt_of_mem_wholeChars {n : Int} {c : Char} (h : c ∈ wholeChars n) : 0x20 < c.toNat := by
  unfold wholeChars at h
  split at h
  · rcases List.mem_cons.mp h with rfl | h
    · decide
    · exact lt_of_mem_toDigits h
  · exact lt_of_mem_toDigits h

theorem lt_of_mem_realChars {bits : UInt64} {c : Char} (h : c ∈ realChars bits) :
    0x20 < c.toNat := by
  unfold realChars at h
  split at h
  · rename_i d _
    have hc (h : c ∈ if d.mantissa = 0 then ['0', '.', '0'] else decimalChars d.shortest) :
        0x20 < c.toNat := by
      split at h
      · simp only [List.mem_cons, List.not_mem_nil, or_false] at h
        rcases h with rfl | rfl | rfl <;> decide
      · exact lt_of_mem_decimalChars (fun _ => Decimal.isDigit_of_mem_shortestFrom) h
    simp only at h
    split at h
    · rcases List.mem_cons.mp h with rfl | h
      · decide
      · exact hc h
    · exact hc h
  · simp only [List.mem_cons, List.not_mem_nil, or_false] at h
    rcases h with rfl | rfl | rfl | rfl <;> decide

/-- A number is written without blanks. -/
theorem lt_of_mem_number {n : Number} {c : Char} (h : c ∈ n.chars) : 0x20 < c.toNat := by
  cases n with
  | whole n => exact lt_of_mem_wholeChars h
  | real bits => exact lt_of_mem_realChars h

/-! ## Strings -/

def letters : List (Char × Char) :=
  [('\x22', '\x22'), ('\\', '\\'), ('\x08', 'b'), ('\x0c', 'f'), ('\n', 'n'), ('\r', 'r'),
    ('\t', 't')]

/-- The three forms of a character inside quotation marks. -/
theorem escape_cases (c : Char) :
    (∃ l, (c, l) ∈ letters ∧ escape c = ['\\', l]) ∨
      (c.toNat < 0x20 ∧ escape c =
        ['\\', 'u', '0', '0', hexDigit (c.toNat / 16), hexDigit (c.toNat % 16)]) ∨
      (0x20 ≤ c.toNat ∧ c ≠ '\x22' ∧ c ≠ '\\' ∧ escape c = [c]) := by
  by_cases letter : ∃ l, (c, l) ∈ letters
  · obtain ⟨l, hl⟩ := letter
    refine .inl ⟨l, hl, ?_⟩
    simp only [letters, List.mem_cons, Prod.mk.injEq, List.not_mem_nil, or_false] at hl
    rcases hl with ⟨rfl, rfl⟩ | ⟨rfl, rfl⟩ | ⟨rfl, rfl⟩ | ⟨rfl, rfl⟩ | ⟨rfl, rfl⟩ | ⟨rfl, rfl⟩ |
      ⟨rfl, rfl⟩ <;> rfl
  · simp only [letters, List.mem_cons, Prod.mk.injEq, List.not_mem_nil, or_false, exists_or,
      exists_and_left, exists_eq, and_true, not_or] at letter
    obtain ⟨h₁, h₂, h₃, h₄, h₅, h₆, h₇⟩ := letter
    simp only [escape, h₁, h₂, h₃, h₄, h₅, h₆, h₇, if_false]
    by_cases control : c.toNat < 0x20
    · exact .inr (.inl ⟨control, if_pos control⟩)
    · exact .inr (.inr ⟨by omega, h₁, h₂, if_neg control⟩)

theorem le_hexDigit : ∀ n < 16, 0x20 ≤ (hexDigit n).toNat := by decide

theorem le_of_mem_escape {c d : Char} (h : d ∈ escape c) : 0x20 ≤ d.toNat := by
  rcases escape_cases c with ⟨l, hl, e⟩ | ⟨control, e⟩ | ⟨plain, -, -, e⟩
  · rw [e] at h
    simp only [List.mem_cons, List.not_mem_nil, or_false] at h
    rcases h with rfl | rfl
    · decide
    · have : ∀ p ∈ letters, 0x20 ≤ p.2.toNat := by decide
      exact this _ hl
  · rw [e] at h
    simp only [List.mem_cons, List.not_mem_nil, or_false] at h
    rcases h with rfl | rfl | rfl | rfl | rfl | rfl
    · decide
    · decide
    · decide
    · decide
    · exact le_hexDigit _ (by omega)
    · exact le_hexDigit _ (by omega)
  · rw [e] at h
    rw [List.mem_singleton.mp h]
    exact plain

theorem le_of_mem_quoted {s : String} {c : Char} (h : c ∈ quoted s) : 0x20 ≤ c.toNat := by
  simp only [quoted, List.mem_cons, List.mem_append, List.not_mem_nil, or_false,
    List.mem_flatMap] at h
  rcases h with rfl | ⟨d, -, h⟩ | rfl
  · decide
  · exact le_of_mem_escape h
  · decide

/-! ## Values -/

theorem le_of_all {cs : List Char} (h : (cs.all fun c => 0x20 ≤ c.toNat) = true) {c : Char}
    (hc : c ∈ cs) : 0x20 ≤ c.toNat :=
  of_decide_eq_true (List.all_eq_true.mp h c hc)

mutual

/-- No control character stands in the text of a value. -/
theorem Value.le_of_mem_chars : ∀ (v : Value) {c : Char}, c ∈ v.chars → 0x20 ≤ c.toNat
  | .null, c, h => le_of_all (by decide) h
  | .bool true, c, h => le_of_all (by decide) h
  | .bool false, c, h => le_of_all (by decide) h
  | .number n, c, h => by
    rw [Value.chars] at h
    exact Nat.le_of_lt (lt_of_mem_number h)
  | .string s, c, h => by
    rw [Value.chars] at h
    exact le_of_mem_quoted h
  | .array [], c, h => le_of_all (by decide) h
  | .array (v :: vs), c, h => by
    simp only [Value.chars, List.mem_cons, List.mem_append, List.not_mem_nil, or_false] at h
    rcases h with rfl | h | h | rfl
    · decide
    · exact Value.le_of_mem_chars v h
    · exact Value.le_of_mem_moreItems vs h
    · decide
  | .object [], c, h => le_of_all (by decide) h
  | .object ((k, v) :: es), c, h => by
    simp only [Value.chars, List.mem_cons, List.mem_append, List.not_mem_nil, or_false] at h
    rcases h with rfl | h | rfl | h | h | rfl
    · decide
    · exact le_of_mem_quoted h
    · decide
    · exact Value.le_of_mem_chars v h
    · exact Value.le_of_mem_moreEntries es h
    · decide

theorem Value.le_of_mem_moreItems :
    ∀ (vs : List Value) {c : Char}, c ∈ Value.moreItems vs → 0x20 ≤ c.toNat
  | [], c, h => by cases h
  | v :: vs, c, h => by
    simp only [Value.moreItems, List.mem_cons, List.mem_append] at h
    rcases h with rfl | h | h
    · decide
    · exact Value.le_of_mem_chars v h
    · exact Value.le_of_mem_moreItems vs h

theorem Value.le_of_mem_moreEntries :
    ∀ (es : List (String × Value)) {c : Char}, c ∈ Value.moreEntries es → 0x20 ≤ c.toNat
  | [], c, h => by cases h
  | (k, v) :: es, c, h => by
    simp only [Value.moreEntries, List.mem_cons, List.mem_append] at h
    rcases h with rfl | h | rfl | h | h
    · decide
    · exact le_of_mem_quoted h
    · decide
    · exact Value.le_of_mem_chars v h
    · exact Value.le_of_mem_moreEntries es h

end

/-- The text of a value and its bytes are one. -/
theorem Value.bytes_text (v : Value) : Utf8.bytes v.text = v.bytes :=
  congrArg Utf8.encode String.toList_ofList

/-- Neither a NUL nor a line break, nor any other control character, stands in a text as bytes. -/
theorem Value.le_of_mem_bytes (v : Value) : ∀ b ∈ v.bytes, 0x20 ≤ b.toNat :=
  Utf8.le_of_mem_encode (by decide) fun _ hc => v.le_of_mem_chars hc

/-! ## The text of a value by its parts -/

theorem Value.bytes_string (s : String) : (Value.string s).bytes = Utf8.encode (quoted s) := by
  rw [Value.bytes, Value.chars]

theorem Value.bytes_array (v : Value) (vs : List Value) :
    (Value.array (v :: vs)).bytes =
      0x5B :: (v.bytes ++ (Utf8.encode (Value.moreItems vs) ++ [0x5D])) := by
  rw [Value.bytes, Value.chars, Utf8.encode_cons, Utf8.encode_append, Utf8.encode_append]
  rfl

theorem Value.encode_moreItems (v : Value) (vs : List Value) :
    Utf8.encode (Value.moreItems (v :: vs)) =
      0x2C :: (v.bytes ++ Utf8.encode (Value.moreItems vs)) := by
  rw [Value.moreItems, Utf8.encode_cons, Utf8.encode_append]
  rfl

theorem Value.bytes_object (k : String) (v : Value) (es : List (String × Value)) :
    (Value.object ((k, v) :: es)).bytes =
      0x7B :: (Utf8.encode (quoted k) ++
        0x3A :: (v.bytes ++ (Utf8.encode (Value.moreEntries es) ++ [0x7D]))) := by
  rw [Value.bytes, Value.chars, Utf8.encode_cons, Utf8.encode_append, Utf8.encode_cons,
    Utf8.encode_append, Utf8.encode_append]
  rfl

theorem Value.encode_moreEntries (k : String) (v : Value) (es : List (String × Value)) :
    Utf8.encode (Value.moreEntries ((k, v) :: es)) =
      0x2C :: (Utf8.encode (quoted k) ++
        0x3A :: (v.bytes ++ Utf8.encode (Value.moreEntries es))) := by
  rw [Value.moreEntries, Utf8.encode_cons, Utf8.encode_append, Utf8.encode_cons,
    Utf8.encode_append]
  rfl

end Json

end Switchboard
