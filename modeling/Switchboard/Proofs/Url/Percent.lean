import Mathlib.Data.List.Basic
import Switchboard.Proofs.Text.Utf8
import Switchboard.Url.Percent

/-!
# Percent encoding is read back

A text that is encoded with a set that has the percent sign is read back as its UTF-8 bytes
(`decode_encode`), so no two texts are written alike (`encode_inj`). What is written is in ASCII
(`ascii_of_mem_encode`), has none of the characters of the set but those of a triple (`mem_encode`),
and a percent sign stands only at the start of a triple (`tripled_encode`). A byte that is part of
no triple is kept by reading (`mem_decode`).
-/
namespace Switchboard.Url.Percent

/-! ## Triples -/

theorem hexValue?_digit : ∀ n, n < 16 → Text.hexValue? (digit n) = some n := by decide

theorem digit_ascii : ∀ n, n < 16 → (digit n).toNat < 0x80 := by decide

/-- A triple is read as its byte. -/
theorem decode_triple (b : UInt8) (rest : List UInt8) :
    decode (Utf8.encode (triple b) ++ rest) = b :: decode rest := by
  have hb := b.toNat_lt
  have high := digit_ascii (b.toNat / 16) (by omega)
  have low := digit_ascii (b.toNat % 16) (by omega)
  have bytes : Utf8.encode (triple b) =
      [0x25, UInt8.ofNat (digit (b.toNat / 16)).toNat, UInt8.ofNat (digit (b.toNat % 16)).toNat] :=
    Utf8.encode_of_ascii (by simp [triple, high, low])
  have value : Text.hexBytes [digit (b.toNat / 16), digit (b.toNat % 16)] = [b] := by
    simp only [Text.hexBytes, hexValue?_digit _ (show b.toNat / 16 < 16 by omega),
      hexValue?_digit _ (show b.toNat % 16 < 16 by omega), List.cons.injEq, and_true]
    rw [Nat.div_add_mod, UInt8.ofNat_toNat]
  rw [bytes, List.cons_append, List.cons_append, List.cons_append, List.nil_append, decode]
  simp only [Utf8.toNat_ofNat_of_lt (show (digit (b.toNat / 16)).toNat < 256 by omega),
    Utf8.toNat_ofNat_of_lt (show (digit (b.toNat % 16)).toNat < 256 by omega), Char.ofNat_toNat,
    if_true, value]

theorem decode_triples (bs rest : List UInt8) :
    decode (Utf8.encode (bs.flatMap triple) ++ rest) = bs ++ decode rest := by
  induction bs with
  | nil => rfl
  | cons b bs ih =>
    rw [List.flatMap_cons, Utf8.encode_append, List.append_assoc, decode_triple, ih,
      List.cons_append]

/-- A byte other than that of the percent sign stands for itself. -/
theorem decode_cons {b : UInt8} (h : b ≠ 0x25) (rest : List UInt8) :
    decode (b :: rest) = b :: decode rest := by
  match rest with
  | [] => rfl
  | [_] => rfl
  | _ :: _ :: _ => rw [decode]; simp only [h, if_false]

/-! ## Texts -/

/-- What is written for one character is read as its bytes. -/
theorem decode_encodeChar {set : EncodeSet} (h : set '%' = true) (c : Char) (rest : List UInt8) :
    decode (Utf8.encode (encodeChar set c) ++ rest) = Utf8.encode [c] ++ decode rest := by
  unfold encodeChar
  split
  · exact decode_triples _ _
  · rename_i hc
    simp only [Bool.or_eq_true, decide_eq_true_eq, not_or] at hc
    have ascii : c.toNat < 0x80 := by omega
    have other : UInt8.ofNat c.toNat ≠ 0x25 := by
      intro e
      have code : c.toNat = 0x25 := by
        rw [← Utf8.toNat_ofNat_of_lt (show c.toNat < 256 by omega), e]; rfl
      rw [← h, ← Char.ofNat_toNat c, code] at hc
      exact hc.2 rfl
    have byte : Utf8.encode [c] = [UInt8.ofNat c.toNat] :=
      Utf8.encode_of_ascii (by simpa using ascii)
    rw [byte]
    exact decode_cons other rest

theorem encode_cons (set : EncodeSet) (c : Char) (cs : List Char) :
    encode set (c :: cs) = encodeChar set c ++ encode set cs := List.flatMap_cons

/-- A text is read back. -/
theorem decode_encode {set : EncodeSet} (h : set '%' = true) (cs : List Char) :
    decode (Utf8.encode (encode set cs)) = Utf8.encode cs := by
  induction cs with
  | nil => rfl
  | cons c cs ih =>
    rw [encode_cons, Utf8.encode_append, decode_encodeChar h, ih, ← Utf8.encode_append]
    rfl

theorem encode_inj {set : EncodeSet} (h : set '%' = true) {cs ds : List Char} :
    encode set cs = encode set ds ↔ cs = ds := by
  refine ⟨fun e => ?_, fun e => e ▸ rfl⟩
  rw [← Utf8.encode_inj, ← decode_encode h, e, decode_encode h]

/-- What needs no triples is written as it is. -/
theorem encode_of_plain {set : EncodeSet} {cs : List Char}
    (h : ∀ c ∈ cs, c.toNat < 0x80 ∧ set c = false) : encode set cs = cs := by
  induction cs with
  | nil => rfl
  | cons c cs ih =>
    obtain ⟨ascii, plain⟩ := h c List.mem_cons_self
    rw [encode_cons, encodeChar, if_neg (by simp [plain]; omega),
      ih fun d hd => h d (List.mem_cons_of_mem _ hd)]
    rfl

theorem decode_of_not_mem {bs : List UInt8} (h : 0x25 ∉ bs) : decode bs = bs := by
  induction bs with
  | nil => rfl
  | cons b bs ih =>
    rw [List.mem_cons, not_or] at h
    rw [decode_cons (Ne.symm h.1), ih h.2]

/-- A text that is written without a triple is written as it is. -/
theorem encode_of_not_mem {set : EncodeSet} (h : set '%' = true) {cs : List Char}
    (none : '%' ∉ encode set cs) : encode set cs = cs := by
  have bytes : 0x25 ∉ Utf8.encode (encode set cs) :=
    (Utf8.mem_encode_iff (c := '%') (by decide) _).not.mpr none
  rw [← Utf8.encode_inj, ← decode_of_not_mem bytes, decode_encode h]

/-! ## What is written -/

theorem mem_triple {b : UInt8} {c : Char} (h : c ∈ triple b) : c = '%' ∨ ∃ n < 16, c = digit n := by
  have hb := b.toNat_lt
  simp only [triple, List.mem_cons, List.not_mem_nil, or_false] at h
  rcases h with rfl | rfl | rfl
  · exact .inl rfl
  · exact .inr ⟨_, by omega, rfl⟩
  · exact .inr ⟨_, by omega, rfl⟩

/-- What is written are triples and the characters that need none. -/
theorem mem_encode {set : EncodeSet} {cs : List Char} {c : Char} (h : c ∈ encode set cs) :
    (c = '%' ∨ ∃ n < 16, c = digit n) ∨ (c ∈ cs ∧ c.toNat < 0x80 ∧ set c = false) := by
  obtain ⟨d, hd, hc⟩ := List.mem_flatMap.mp h
  unfold encodeChar at hc
  split at hc
  · obtain ⟨b, -, hb⟩ := List.mem_flatMap.mp hc
    exact .inl (mem_triple hb)
  · rename_i plain
    obtain rfl := List.mem_singleton.mp hc
    simp only [Bool.or_eq_true, decide_eq_true_eq, not_or, Bool.not_eq_true] at plain
    exact .inr ⟨hd, by omega, plain.2⟩

/-- A character that needs no triple and is part of none stands where it stood. -/
theorem mem_of_mem_encode {set : EncodeSet} {cs : List Char} {c : Char} (h : c ∈ encode set cs)
    (sign : c ≠ '%') (other : Text.hexValue? c = none) : c ∈ cs := by
  rcases mem_encode h with (rfl | ⟨n, hn, rfl⟩) | ⟨hc, -, -⟩
  · exact absurd rfl sign
  · rw [hexValue?_digit n hn] at other
    cases other
  · exact hc

theorem mem_encode_of_mem {set : EncodeSet} {cs : List Char} {c : Char} (h : c ∈ cs)
    (ascii : c.toNat < 0x80) (plain : set c = false) : c ∈ encode set cs := by
  refine List.mem_flatMap.mpr ⟨c, h, ?_⟩
  rw [encodeChar, if_neg (by simp [plain]; omega)]
  exact List.mem_singleton_self c

theorem ascii_of_mem_encode {set : EncodeSet} {cs : List Char} {c : Char}
    (h : c ∈ encode set cs) : c.toNat < 0x80 := by
  rcases mem_encode h with (rfl | ⟨n, hn, rfl⟩) | ⟨-, ascii, -⟩
  · decide
  · exact digit_ascii n hn
  · exact ascii

/-- Every percent sign of a text starts a triple. -/
def Tripled (w : List Char) : Prop :=
  ∀ front rest, w = front ++ '%' :: rest →
    ∃ high low rest', rest = high :: low :: rest' ∧ (Text.hexValue? high).isSome ∧
      (Text.hexValue? low).isSome

theorem tripled_nil : Tripled [] := by
  intro front rest h
  exact absurd h.symm (List.append_ne_nil_of_right_ne_nil _ (List.cons_ne_nil _ _))

theorem Tripled.cons {w : List Char} (h : Tripled w) {c : Char} (hc : c ≠ '%') :
    Tripled (c :: w) := by
  intro front rest e
  cases front with
  | nil => exact absurd (List.cons.inj e).1 hc
  | cons d front => exact h front rest (List.cons.inj e).2

theorem Tripled.triple {w : List Char} (h : Tripled w) (b : UInt8) : Tripled (triple b ++ w) := by
  have hb := b.toNat_lt
  have value (n : Nat) (hn : n < 16) : (Text.hexValue? (digit n)).isSome := by
    rw [hexValue?_digit n hn]; rfl
  have sign (n : Nat) (hn : n < 16) : digit n ≠ '%' := by
    revert n; decide
  intro front rest e
  cases front with
  | nil =>
    obtain ⟨-, rfl⟩ := List.cons.inj e
    exact ⟨_, _, w, rfl, value _ (by omega), value _ (by omega)⟩
  | cons d front =>
    have digits : Tripled ([digit (b.toNat / 16), digit (b.toNat % 16)] ++ w) :=
      (h.cons (sign _ (by omega))).cons (sign _ (by omega))
    exact digits front rest (List.cons.inj e).2

theorem tripled_encode {set : EncodeSet} (h : set '%' = true) (cs : List Char) :
    Tripled (encode set cs) := by
  induction cs with
  | nil => exact tripled_nil
  | cons c cs ih =>
    rw [encode_cons, encodeChar]
    split
    · induction Utf8.encode [c] with
      | nil => exact ih
      | cons b bs ihb =>
        rw [List.flatMap_cons, List.append_assoc]
        exact ihb.triple b
    · rename_i plain
      refine ih.cons ?_
      rintro rfl
      simp [h] at plain

/-! ## What reading keeps -/

/-- A byte that is part of no triple is kept. -/
theorem mem_decode {b : UInt8} (sign : b ≠ 0x25)
    (other : Text.hexValue? (Char.ofNat b.toNat) = none) {bs : List UInt8} (h : b ∈ bs) :
    b ∈ decode bs := by
  fun_induction decode bs with
  | case1 => exact h
  | case2 => exact h
  | case3 => exact h
  | case4 x high low rest byte read ih =>
    split at read
    · rename_i hx
      have digits : (Text.hexValue? (Char.ofNat high.toNat)).isSome ∧
          (Text.hexValue? (Char.ofNat low.toNat)).isSome := by
        unfold Text.hexBytes at read
        split at read
        · rename_i hh hl; rw [hh, hl]; exact ⟨rfl, rfl⟩
        · cases read
      simp only [List.mem_cons] at h
      rcases h with rfl | rfl | rfl | h
      · exact absurd hx sign
      · rw [other] at digits; cases digits.1
      · rw [other] at digits; cases digits.2
      · exact List.mem_cons_of_mem _ (ih h)
    · cases read
  | case5 x c d rest read ih =>
    rcases List.mem_cons.mp h with rfl | h
    · exact List.mem_cons_self
    · exact List.mem_cons_of_mem _ (ih h)

end Switchboard.Url.Percent
