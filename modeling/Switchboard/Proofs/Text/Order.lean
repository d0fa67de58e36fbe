import Switchboard.Proofs.Text.Utf8

/-!
# The order of texts is that of their bytes

Texts are compared by their code points. Of two characters the smaller one has the smaller bytes
(`encodeChar_lt`), and its bytes are not the first ones of the other (`eq_of_prefix_encodeChar`), so
what follows them does not matter. Hence texts are in the order of their UTF-8 bytes:
`bytes_lt_bytes_iff`.
-/
namespace Switchboard.Utf8

/-- Lists that differ at a place before the end of the smaller one stay in order, whatever is put
behind them. -/
theorem append_lt_append {as bs : List UInt8} (h : as < bs) (apart : ¬ as <+: bs)
    (xs ys : List UInt8) : as ++ xs < bs ++ ys := by
  induction as generalizing bs with
  | nil => exact absurd bs.nil_prefix apart
  | cons a as ih =>
    cases bs with
    | nil => exact absurd h (List.not_lt_nil _)
    | cons b bs =>
      rw [List.cons_append, List.cons_append, List.cons_lt_cons_iff]
      rcases List.cons_lt_cons_iff.mp h with lt | ⟨rfl, rest⟩
      · exact .inl lt
      · exact .inr ⟨rfl, ih rest fun front => apart ((List.prefix_cons_inj a).mpr front)⟩

theorem append_lt_append_left {xs ys : List UInt8} (h : xs < ys) (as : List UInt8) :
    as ++ xs < as ++ ys := by
  induction as with
  | nil => exact h
  | cons a as ih => exact List.cons_lt_cons_iff.mpr (.inr ⟨rfl, ih⟩)

/-- Numbers are in the order of their digits to the base 64. -/
theorem digits_lt {v w : Nat} (h : v < w) (bound : w < 0x110000) :
    v / 262144 % 8 < w / 262144 % 8 ∨ v / 262144 % 8 = w / 262144 % 8 ∧
      (v / 4096 % 64 < w / 4096 % 64 ∨ v / 4096 % 64 = w / 4096 % 64 ∧
        (v / 64 % 64 < w / 64 % 64 ∨ v / 64 % 64 = w / 64 % 64 ∧ v % 64 < w % 64)) := by
  have last (x y : Nat) (h : x < y) : x / 64 < y / 64 ∨ x / 64 = y / 64 ∧ x % 64 < y % 64 := by
    omega
  have first (n : Nat) (h : n < 0x110000) : n / 262144 % 8 = n / 262144 := by omega
  rw [first v (by omega), first w bound]
  rcases last v w h with lt | ⟨same, lt⟩
  · rcases last _ _ lt with lt | ⟨same, lt⟩
    · rcases last _ _ lt with lt | ⟨same, lt⟩ <;> simp only [Nat.div_div_eq_div_mul] at * <;> omega
    · simp only [Nat.div_div_eq_div_mul] at same
      omega
  · omega

/-- Of two characters the smaller one has fewer bytes and a smaller first byte, or as many bytes and
a smaller one at the first place at which they differ. -/
theorem encodeChar_lt {c d : Char} (h : c < d) :
    String.utf8EncodeChar c < String.utf8EncodeChar d := by
  have lt : c.val.toNat < d.val.toNat := h
  have valid : d.val.toNat < 0xD800 ∨ 0xDFFF < d.val.toNat ∧ d.val.toNat < 0x110000 := d.valid
  unfold String.utf8EncodeChar
  generalize c.val.toNat = v at lt
  generalize d.val.toNat = w at lt valid
  have order := digits_lt lt (by omega)
  simp only
  -- for each count of bytes of either one: the first bytes, then those behind them
  repeat' split
  all_goals
    simp (disch := omega) only [List.cons_lt_cons_iff, List.not_lt_nil, UInt8.lt_iff_toNat_lt,
      ← UInt8.toNat_inj, toNat_ofNat_of_lt, and_false, or_false]
    omega

/-- The bytes of a character are not the first ones of another. -/
theorem eq_of_prefix_encodeChar {c d : Char}
    (h : String.utf8EncodeChar c <+: String.utf8EncodeChar d) : c = d := by
  obtain ⟨r, hr⟩ := h
  have one : scanFrom none (String.utf8EncodeChar d) = [some d] := by
    have whole := scanFrom_encodeChar d []
    rwa [List.append_nil] at whole
  rw [← hr, scanFrom_encodeChar] at one
  exact Option.some_inj.mp (List.cons.inj one).1

theorem encode_lt {cs ds : List Char} (h : cs < ds) : encode cs < encode ds := by
  induction cs generalizing ds with
  | nil =>
    cases ds with
    | nil => exact absurd h (List.not_lt_nil _)
    | cons d ds =>
      rw [encode_nil, encode_cons]
      have nonempty : String.utf8EncodeChar d ≠ [] := String.utf8EncodeChar_ne_nil
      obtain ⟨b, r, hb⟩ := List.exists_cons_of_ne_nil nonempty
      rw [hb]
      exact List.nil_lt_cons _ _
  | cons c cs ih =>
    cases ds with
    | nil => exact absurd h (List.not_lt_nil _)
    | cons d ds =>
      rw [encode_cons, encode_cons]
      rcases List.cons_lt_cons_iff.mp h with lt | ⟨rfl, rest⟩
      · refine append_lt_append (encodeChar_lt lt) (fun front => ?_) _ _
        exact Char.lt_irrefl _ (eq_of_prefix_encodeChar front ▸ lt)
      · exact append_lt_append_left (ih rest) _

/-- Texts are in the order of their bytes. -/
theorem bytes_lt_bytes_iff {s t : String} : bytes s < bytes t ↔ s < t := by
  refine ⟨fun h => String.not_le.mp fun le => ?_, fun h => encode_lt (String.lt_iff.mp h)⟩
  by_cases same : s = t
  · exact List.lt_irrefl _ (same ▸ h)
  · have gt : t < s := String.not_le.mp fun ge => same (String.le_antisymm ge le)
    exact List.lt_asymm h (encode_lt (String.lt_iff.mp gt))

end Switchboard.Utf8
