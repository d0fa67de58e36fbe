import Switchboard.Json.Literal
import Switchboard.Proofs.Json.Printed

/-!
# Strings are read back

`readString_quoted`: what the printer puts between quotation marks, the reader gives back, whatever
follows the closing mark. One character of the string is one escape, or the bytes of the character
as they are (`readContent_escape`).
-/
namespace Switchboard.Json

/-- A byte that stands for itself inside quotation marks. -/
def IsPlain (b : UInt8) : Prop := b ≠ 0x22 ∧ b ≠ 0x5C ∧ ¬ b < 0x20

theorem readContent_plain {bs : List UInt8} (h : ∀ b ∈ bs, IsPlain b) (fuel : Nat)
    (read rest : List UInt8) :
    readContent (fuel + bs.length) read (bs ++ rest) =
      readContent fuel (bs.reverse ++ read) rest := by
  induction bs generalizing read with
  | nil => rfl
  | cons b bs ih =>
    obtain ⟨quote, backslash, control⟩ := h b List.mem_cons_self
    rw [List.length_cons, ← Nat.add_assoc, List.cons_append, readContent, if_neg quote,
      if_neg backslash, if_neg control, ih (fun x hx => h x (List.mem_cons_of_mem _ hx)),
      List.reverse_cons, List.append_assoc]
    rfl

theorem readContent_of_escape {text bs r : List UInt8} (h : readEscape text = .ok (bs, r))
    (fuel : Nat) (read : List UInt8) :
    readContent (fuel + 1) read (0x5C :: text) = readContent fuel (bs.reverse ++ read) r := by
  rw [readContent, if_neg (by decide), if_pos rfl, h, ← List.reverseAux_eq]

/-! ## One character -/

theorem readEscape_letter {c l : Char} (h : (c, l) ∈ letters) (r : List UInt8) :
    readEscape (Utf8.encode [l] ++ r) = .ok (Utf8.encode [c], r) := by
  simp only [letters, List.mem_cons, Prod.mk.injEq, List.not_mem_nil, or_false] at h
  rcases h with ⟨rfl, rfl⟩ | ⟨rfl, rfl⟩ | ⟨rfl, rfl⟩ | ⟨rfl, rfl⟩ | ⟨rfl, rfl⟩ | ⟨rfl, rfl⟩ |
    ⟨rfl, rfl⟩ <;> rfl

def hexByte (n : Nat) : UInt8 := UInt8.ofNat (hexDigit n).toNat

theorem hexValue?_hexByte : ∀ n < 16, hexValue? (hexByte n) = some n := by decide

theorem readHex4_control {n : Nat} (h : n < 0x20) (r : List UInt8) :
    readHex4 (0x30 :: 0x30 :: hexByte (n / 16) :: hexByte (n % 16) :: r) = .ok (n, r) := by
  have zero : hexValue? 0x30 = some 0 := rfl
  simp only [readHex4, zero, hexValue?_hexByte (n / 16) (by omega),
    hexValue?_hexByte (n % 16) (by omega)]
  rw [show ((0 * 16 + 0) * 16 + n / 16) * 16 + n % 16 = n by omega]

theorem encode_hexDigit : ∀ n < 16, String.utf8EncodeChar (hexDigit n) = [hexByte n] := by decide

theorem readEscape_control {c : Char} (h : c.toNat < 0x20) (r : List UInt8) :
    readEscape
        (Utf8.encode ['u', '0', '0', hexDigit (c.toNat / 16), hexDigit (c.toNat % 16)] ++ r) =
      .ok (Utf8.encode [c], r) := by
  have text : Utf8.encode ['u', '0', '0', hexDigit (c.toNat / 16), hexDigit (c.toNat % 16)] =
      [0x75, 0x30, 0x30, hexByte (c.toNat / 16), hexByte (c.toNat % 16)] := by
    simp only [Utf8.encode_cons, encode_hexDigit (c.toNat / 16) (by omega),
      encode_hexDigit (c.toNat % 16) (by omega)]
    rfl
  have point : readCodePoint (0x30 :: 0x30 :: hexByte (c.toNat / 16) :: hexByte (c.toNat % 16) ::
      r) = .ok (c, r) := by
    have low : (0xDC00 ≤ c.toNat && c.toNat ≤ 0xDFFF) = false := by
      rw [decide_eq_false (by omega), Bool.false_and]
    have high : (0xD800 ≤ c.toNat && c.toNat ≤ 0xDBFF) = false := by
      rw [decide_eq_false (by omega), Bool.false_and]
    simp only [readCodePoint, readHex4_control h, bind, Except.bind, low, high, Bool.false_eq_true,
      if_false, Char.ofNat_toNat]
    rfl
  rw [text]
  simp only [List.cons_append, List.nil_append, readEscape, point, bind, Except.bind]
  rfl

theorem isPlain_encodeChar {c : Char} (h : 0x20 ≤ c.toNat) (quote : c ≠ '\x22')
    (backslash : c ≠ '\\') : ∀ b ∈ Utf8.encode [c], IsPlain b := by
  have ascii_of_mem {d : Char} (hd : d.toNat < 0x80) (hm : UInt8.ofNat d.toNat ∈ Utf8.encode [c]) :
      c = d := (List.mem_singleton.mp ((Utf8.mem_encode_iff hd [c]).mp hm)).symm
  intro b hb
  refine ⟨?_, ?_, ?_⟩
  · rintro rfl
    exact quote (ascii_of_mem (by decide) hb)
  · rintro rfl
    exact backslash (ascii_of_mem (by decide) hb)
  · rw [UInt8.lt_iff_toNat_lt, Nat.not_lt]
    exact Utf8.le_of_mem_encode (by decide) (fun d hd => List.mem_singleton.mp hd ▸ h) b hb

/-- Each round of the reader takes one escape, or one byte of a character that stands for itself. -/
theorem readContent_escape (c : Char) {fuel : Nat} (read rest : List UInt8)
    (h : (Utf8.encode (escape c)).length ≤ fuel) :
    ∃ left, fuel ≤ left + (Utf8.encode (escape c)).length ∧
      readContent fuel read (Utf8.encode (escape c) ++ rest) =
        readContent left ((Utf8.encode [c]).reverse ++ read) rest := by
  -- an escape starts with a backslash, which is a byte of its own
  have escaped (cs : List Char) (e : escape c = '\\' :: cs)
      (hr : readEscape (Utf8.encode cs ++ rest) = .ok (Utf8.encode [c], rest)) :
      ∃ left, fuel ≤ left + (Utf8.encode (escape c)).length ∧
        readContent fuel read (Utf8.encode (escape c) ++ rest) =
          readContent left ((Utf8.encode [c]).reverse ++ read) rest := by
    have text : Utf8.encode (escape c) = 0x5C :: Utf8.encode cs := by rw [e]; rfl
    rw [text, List.length_cons] at h ⊢
    obtain ⟨left, rfl⟩ : ∃ left, fuel = left + 1 := ⟨fuel - 1, by omega⟩
    exact ⟨left, by omega, readContent_of_escape hr left read⟩
  rcases escape_cases c with ⟨l, hl, e⟩ | ⟨control, e⟩ | ⟨plain, quote, backslash, e⟩
  · exact escaped _ e (readEscape_letter hl rest)
  · exact escaped _ e (readEscape_control control rest)
  · rw [e] at h ⊢
    obtain ⟨left, rfl⟩ : ∃ left, fuel = left + (Utf8.encode [c]).length :=
      ⟨fuel - (Utf8.encode [c]).length, by omega⟩
    exact ⟨left, Nat.le_refl _,
      readContent_plain (isPlain_encodeChar plain quote backslash) left read rest⟩

/-! ## Whole strings -/

theorem readContent_chars (cs : List Char) {fuel : Nat} (read rest : List UInt8)
    (h : (Utf8.encode (cs.flatMap escape)).length < fuel) :
    readContent fuel read (Utf8.encode (cs.flatMap escape) ++ 0x22 :: rest) =
      .ok (read.reverse ++ Utf8.encode cs, rest) := by
  induction cs generalizing fuel read with
  | nil =>
    obtain ⟨left, rfl⟩ : ∃ left, fuel = left + 1 := ⟨fuel - 1, by omega⟩
    rw [Utf8.encode_nil, List.append_nil]
    rfl
  | cons c cs ih =>
    rw [List.flatMap_cons, Utf8.encode_append] at h ⊢
    rw [List.length_append] at h
    rw [List.append_assoc]
    obtain ⟨left, hleft, e⟩ := readContent_escape c read
      (Utf8.encode (cs.flatMap escape) ++ 0x22 :: rest)
      (show (Utf8.encode (escape c)).length ≤ fuel by omega)
    rw [e, ih _ (by omega), List.reverse_append, List.reverse_reverse, List.append_assoc,
      ← Utf8.encode_append, List.singleton_append]

/-- A string is read back from what stands behind its opening quotation mark. -/
theorem readString_quoted (s : String) {fuel : Nat} (rest : List UInt8)
    (h : (Utf8.encode (quoted s)).length ≤ fuel) :
    ∃ content, Utf8.encode (quoted s) = 0x22 :: content ∧
      readString fuel (content ++ rest) = .ok (s, rest) := by
  have text : Utf8.encode (quoted s) =
      0x22 :: (Utf8.encode (s.toList.flatMap escape) ++ [0x22]) := by
    unfold quoted
    rw [Utf8.encode_cons, Utf8.encode_append]
    rfl
  refine ⟨_, text, ?_⟩
  rw [text] at h
  simp only [List.length_cons, List.length_append] at h
  rw [List.append_assoc, List.singleton_append]
  unfold readString
  rw [readContent_chars s.toList [] rest (by omega)]
  simp only [List.reverse_nil, List.nil_append, bind, Except.bind]
  have read : Utf8.text? (Utf8.encode s.toList) = some s := Utf8.text?_bytes s
  simp only [read]
  rfl

end Switchboard.Json
