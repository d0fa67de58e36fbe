import Switchboard.Text.Utf8

/-!
# Reading UTF-8 back

What `encode` writes, every reader gives back: `scan_encode` says so for the units, and from it
`text?_bytes` for the strict reader and `textLossy_bytes` for the one that replaces. The strict
reader accepts nothing else (`text?_eq_some_iff`). A character below U+0080 is a byte of its own
(`mem_encode_iff`), so a text has a NUL byte only where it has a NUL character.
-/
namespace Switchboard.Utf8

@[simp]
theorem encode_nil : encode [] = [] := rfl

theorem encode_cons (c : Char) (cs : List Char) :
    encode (c :: cs) = String.utf8EncodeChar c ++ encode cs := rfl

@[simp]
theorem encode_append (cs ds : List Char) : encode (cs ++ ds) = encode cs ++ encode ds :=
  List.flatMap_append

theorem toNat_ofNat_of_lt {n : Nat} (h : n < 256) : (UInt8.ofNat n).toNat = n := by
  rw [UInt8.toNat_ofNat', Nat.mod_eq_of_lt h]

/-! ## The first byte of a character -/

theorem lead_of_ascii {b : UInt8} (h : b.toNat < 0x80) : lead b = .char (Char.ofNat b.toNat) := by
  unfold lead
  rw [if_pos (UInt8.lt_iff_toNat_lt.mpr h)]

theorem lead_of_two {b : UInt8} (h : 0xC2 ≤ b.toNat) (h' : b.toNat < 0xE0) :
    lead b = .more ⟨b.toNat % 32, 0x80, 0xBF, 0⟩ := by
  simp only [lead, UInt8.lt_iff_toNat_lt, UInt8.reduceToNat]
  rw [if_neg (by omega), if_neg (by omega), if_pos (by omega)]

theorem lead_of_three {b : UInt8} (h : 0xE0 ≤ b.toNat) (h' : b.toNat < 0xF0) :
    lead b = .more ⟨b.toNat % 16, if b.toNat = 0xE0 then 0xA0 else 0x80,
      if b.toNat = 0xED then 0x9F else 0xBF, 1⟩ := by
  simp only [lead, UInt8.lt_iff_toNat_lt, ← UInt8.toNat_inj, UInt8.reduceToNat]
  rw [if_neg (by omega), if_neg (by omega), if_neg (by omega), if_pos (by omega)]

theorem lead_of_four {b : UInt8} (h : 0xF0 ≤ b.toNat) (h' : b.toNat < 0xF5) :
    lead b = .more ⟨b.toNat % 8, if b.toNat = 0xF0 then 0x90 else 0x80,
      if b.toNat = 0xF4 then 0x8F else 0xBF, 2⟩ := by
  simp only [lead, UInt8.lt_iff_toNat_lt, ← UInt8.toNat_inj, UInt8.reduceToNat]
  rw [if_neg (by omega), if_neg (by omega), if_neg (by omega), if_neg (by omega),
    if_pos (by omega)]

/-! ## The bytes after it -/

theorem scanFrom_more {b : UInt8} {p : Partial} (h : lead b = .more p) (r : List UInt8) :
    scanFrom none (b :: r) = scanFrom (some p) r := by
  simp only [scanFrom, h]

/-- A byte in the range that an open character expects continues it. -/
theorem scanFrom_next {bits n : Nat} {low high b : UInt8} (hl : low.toNat ≤ b.toNat)
    (hh : b.toNat ≤ high.toNat) (r : List UInt8) :
    scanFrom (some ⟨bits, low, high, n + 1⟩) (b :: r) =
      scanFrom (some ⟨bits * 64 + b.toNat % 64, 0x80, 0xBF, n⟩) r := by
  rw [scanFrom]
  simp only [UInt8.le_iff_toNat_le, hl, hh, decide_true, Bool.and_self, if_true]

/-- The last byte that an open character expects completes it. -/
theorem scanFrom_last {bits : Nat} {low high b : UInt8} (hl : low.toNat ≤ b.toNat)
    (hh : b.toNat ≤ high.toNat) (r : List UInt8) :
    scanFrom (some ⟨bits, low, high, 0⟩) (b :: r) =
      some (Char.ofNat (bits * 64 + b.toNat % 64)) :: scanFrom none r := by
  rw [scanFrom]
  simp only [UInt8.le_iff_toNat_le, hl, hh, decide_true, Bool.and_self, if_true]

/-- A byte after the first has six bits of its character. -/
theorem toNat_trail (n : Nat) : (UInt8.ofNat (n % 64 + 0x80)).toNat = n % 64 + 0x80 :=
  toNat_ofNat_of_lt (by omega)

theorem scanFrom_two {v : Nat} (h : 0x80 ≤ v) (h' : v < 0x800) (r : List UInt8) :
    scanFrom none (UInt8.ofNat (v / 64 % 32 + 0xC0) :: UInt8.ofNat (v % 64 + 0x80) :: r) =
      some (Char.ofNat v) :: scanFrom none r := by
  have first : (UInt8.ofNat (v / 64 % 32 + 0xC0)).toNat = v / 64 % 32 + 0xC0 :=
    toNat_ofNat_of_lt (by omega)
  have second := toNat_trail v
  rw [scanFrom_more (lead_of_two (by omega) (by omega)), scanFrom_last, first, second]
  · congr 3
    omega
  all_goals simp only [UInt8.reduceToNat]; omega

theorem scanFrom_three {v : Nat} (h : 0x800 ≤ v) (h' : v < 0xD800 ∨ 0xDFFF < v)
    (h'' : v < 0x10000) (r : List UInt8) :
    scanFrom none (UInt8.ofNat (v / 4096 % 16 + 0xE0) :: UInt8.ofNat (v / 64 % 64 + 0x80) ::
      UInt8.ofNat (v % 64 + 0x80) :: r) = some (Char.ofNat v) :: scanFrom none r := by
  have first : (UInt8.ofNat (v / 4096 % 16 + 0xE0)).toNat = v / 4096 % 16 + 0xE0 :=
    toNat_ofNat_of_lt (by omega)
  have second := toNat_trail (v / 64)
  have third := toNat_trail v
  rw [scanFrom_more (lead_of_three (by omega) (by omega)), scanFrom_next, scanFrom_last, first,
    second, third]
  · congr 3
    omega
  -- the ranges of the second byte leave out surrogates and what two bytes can hold
  all_goals (try split) <;> simp only [UInt8.reduceToNat] <;> omega

theorem scanFrom_four {v : Nat} (h : 0x10000 ≤ v) (h' : v < 0x110000) (r : List UInt8) :
    scanFrom none (UInt8.ofNat (v / 262144 % 8 + 0xF0) :: UInt8.ofNat (v / 4096 % 64 + 0x80) ::
      UInt8.ofNat (v / 64 % 64 + 0x80) :: UInt8.ofNat (v % 64 + 0x80) :: r) =
      some (Char.ofNat v) :: scanFrom none r := by
  have first : (UInt8.ofNat (v / 262144 % 8 + 0xF0)).toNat = v / 262144 % 8 + 0xF0 :=
    toNat_ofNat_of_lt (by omega)
  have second := toNat_trail (v / 4096)
  have third := toNat_trail (v / 64)
  have fourth := toNat_trail v
  rw [scanFrom_more (lead_of_four (by omega) (by omega)), scanFrom_next, scanFrom_next,
    scanFrom_last, first, second, third, fourth]
  · congr 3
    omega
  -- the ranges of the second byte leave out what three bytes can hold and what no character is
  all_goals (try split) <;> simp only [UInt8.reduceToNat] <;> omega

/-- One character is read back from its bytes, whatever follows them. -/
theorem scanFrom_encodeChar (c : Char) (r : List UInt8) :
    scanFrom none (String.utf8EncodeChar c ++ r) = some c :: scanFrom none r := by
  have valid : c.val.toNat < 0xD800 ∨ 0xDFFF < c.val.toNat ∧ c.val.toNat < 0x110000 := c.valid
  have hc : Char.ofNat c.val.toNat = c := Char.ofNat_toNat c
  unfold String.utf8EncodeChar
  generalize c.val.toNat = v at valid hc
  subst hc
  simp only
  split
  case isTrue h =>
    have hb : (UInt8.ofNat v).toNat = v := toNat_ofNat_of_lt (by omega)
    simp only [List.cons_append, List.nil_append, scanFrom,
      lead_of_ascii (b := UInt8.ofNat v) (by omega), hb]
  case isFalse h₁ =>
    split
    case isTrue h => exact scanFrom_two (by omega) (by omega) r
    case isFalse h₂ =>
      split
      case isTrue h => exact scanFrom_three (by omega) (by omega) (by omega) r
      case isFalse h₃ => exact scanFrom_four (by omega) (by omega) r

/-! ## Whole texts -/

theorem scan_encode (cs : List Char) : scan (encode cs) = cs.map some := by
  unfold scan
  induction cs with
  | nil => rfl
  | cons c cs ih => rw [encode_cons, scanFrom_encodeChar, ih, List.map_cons]

theorem decode?_encode (cs : List Char) : decode? (encode cs) = some cs := by
  unfold decode?
  rw [scan_encode]
  induction cs with
  | nil => rfl
  | cons c cs ih => rw [List.map_cons, List.mapM_cons, ih]; rfl

theorem encode_inj {cs ds : List Char} : encode cs = encode ds ↔ cs = ds := by
  refine ⟨fun h => ?_, fun h => h ▸ rfl⟩
  rw [← Option.some_inj, ← decode?_encode, ← decode?_encode, h]

theorem text?_bytes (s : String) : text? (bytes s) = some s := by
  unfold text? bytes
  rw [decode?_encode, Option.map_some, String.ofList_toList]

theorem textLossy_bytes (s : String) : textLossy (bytes s) = s := by
  unfold textLossy decodeLossy bytes
  rw [scan_encode, List.map_map]
  exact (congrArg String.ofList (List.map_id _)).trans String.ofList_toList

/-! ## Bytes below `0x80` -/

theorem encodeChar_of_ascii {c : Char} (h : c.toNat < 0x80) :
    String.utf8EncodeChar c = [UInt8.ofNat c.toNat] :=
  if_pos (Nat.le_of_lt_succ h)

theorem le_toNat_ofNat {n : Nat} (h : 0x80 ≤ n) (h' : n < 256) : 0x80 ≤ (UInt8.ofNat n).toNat := by
  rw [toNat_ofNat_of_lt h']
  exact h

theorem le_of_mem_encodeChar {c : Char} (h : 0x80 ≤ c.toNat) :
    ∀ b ∈ String.utf8EncodeChar c, 0x80 ≤ b.toNat := by
  unfold String.utf8EncodeChar
  change ∀ b ∈ (if c.toNat ≤ 0x7f then _ else if c.toNat ≤ 0x7ff then _ else
    if c.toNat ≤ 0xffff then _ else _), _
  have trail (n : Nat) : 0x80 ≤ (UInt8.ofNat (n % 64 + 0x80)).toNat :=
    le_toNat_ofNat (by omega) (by omega)
  rw [if_neg (by omega)]
  split
  · simp only [List.forall_mem_cons]
    exact ⟨le_toNat_ofNat (by omega) (by omega), trail _, List.forall_mem_nil _⟩
  · split
    · simp only [List.forall_mem_cons]
      exact ⟨le_toNat_ofNat (by omega) (by omega), trail _, trail _, List.forall_mem_nil _⟩
    · simp only [List.forall_mem_cons]
      exact ⟨le_toNat_ofNat (by omega) (by omega), trail _, trail _, trail _,
        List.forall_mem_nil _⟩

/-- The byte of a character below U+0080 is part of no other character. -/
theorem mem_encode_iff {c : Char} (h : c.toNat < 0x80) (cs : List Char) :
    UInt8.ofNat c.toNat ∈ encode cs ↔ c ∈ cs := by
  have hb : (UInt8.ofNat c.toNat).toNat = c.toNat := toNat_ofNat_of_lt (by omega)
  unfold encode
  rw [List.mem_flatMap]
  refine ⟨?_, fun hm => ⟨c, hm, ?_⟩⟩
  · rintro ⟨d, hd, hm⟩
    by_cases ascii : d.toNat < 0x80
    · rw [encodeChar_of_ascii ascii, List.mem_singleton, ← UInt8.toNat_inj, hb,
        toNat_ofNat_of_lt (by omega), Char.toNat_inj] at hm
      exact hm ▸ hd
    · exact absurd (le_of_mem_encodeChar (by omega) _ hm) (by omega)
  · rw [encodeChar_of_ascii h]
    exact List.mem_singleton_self _

/-- A bound on the characters of a text is one on its bytes too. -/
theorem le_of_mem_encode {k : Nat} (hk : k ≤ 0x80) {cs : List Char} (h : ∀ c ∈ cs, k ≤ c.toNat) :
    ∀ b ∈ encode cs, k ≤ b.toNat := by
  intro b hb
  obtain ⟨c, hc, hm⟩ := List.mem_flatMap.mp hb
  by_cases ascii : c.toNat < 0x80
  · rw [encodeChar_of_ascii ascii, List.mem_singleton] at hm
    rw [hm, toNat_ofNat_of_lt (by omega)]
    exact h c hc
  · exact Nat.le_trans hk (le_of_mem_encodeChar (by omega) b hm)

theorem encode_of_ascii {cs : List Char} (h : ∀ c ∈ cs, c.toNat < 0x80) :
    encode cs = cs.map fun c => UInt8.ofNat c.toNat := by
  induction cs with
  | nil => rfl
  | cons c cs ih =>
    rw [encode_cons, encodeChar_of_ascii (h c List.mem_cons_self),
      ih fun d hd => h d (List.mem_cons_of_mem _ hd)]
    rfl

/-! ## Well-formed bytes -/

theorem val_ofNat {v : Nat} (h : v.isValidChar) : (Char.ofNat v).val.toNat = v := by
  unfold Char.ofNat
  rw [dif_pos h]
  rfl

theorem ofNat_eq_of_toNat {n : Nat} {b : UInt8} (h : n = b.toNat) : UInt8.ofNat n = b := by
  rw [h, UInt8.ofNat_toNat]

/-- The character that a lead byte and a second byte make has just these bytes. -/
theorem encodeChar_two {b₁ b₂ : UInt8} (h₁ : 0xC2 ≤ b₁.toNat ∧ b₁.toNat < 0xE0)
    (h₂ : 0x80 ≤ b₂.toNat ∧ b₂.toNat ≤ 0xBF) :
    String.utf8EncodeChar (Char.ofNat (b₁.toNat % 32 * 64 + b₂.toNat % 64)) = [b₁, b₂] := by
  have hv := val_ofNat (v := b₁.toNat % 32 * 64 + b₂.toNat % 64) (.inl (by omega))
  simp only [String.utf8EncodeChar, hv]
  rw [if_neg (by omega), if_pos (by omega), ofNat_eq_of_toNat (b := b₁) (by omega),
    ofNat_eq_of_toNat (b := b₂) (by omega)]

theorem encodeChar_three {b₁ b₂ b₃ : UInt8} (h₁ : 0xE0 ≤ b₁.toNat ∧ b₁.toNat < 0xF0)
    (h₂ : 0x80 ≤ b₂.toNat ∧ b₂.toNat ≤ 0xBF) (low : b₁.toNat = 0xE0 → 0xA0 ≤ b₂.toNat)
    (high : b₁.toNat = 0xED → b₂.toNat ≤ 0x9F) (h₃ : 0x80 ≤ b₃.toNat ∧ b₃.toNat ≤ 0xBF) :
    String.utf8EncodeChar
      (Char.ofNat ((b₁.toNat % 16 * 64 + b₂.toNat % 64) * 64 + b₃.toNat % 64)) = [b₁, b₂, b₃] := by
  have valid : Nat.isValidChar ((b₁.toNat % 16 * 64 + b₂.toNat % 64) * 64 + b₃.toNat % 64) := by
    unfold Nat.isValidChar
    omega
  simp only [String.utf8EncodeChar, val_ofNat valid]
  rw [if_neg (by omega), if_neg (by omega), if_pos (by omega),
    ofNat_eq_of_toNat (b := b₁) (by omega), ofNat_eq_of_toNat (b := b₂) (by omega),
    ofNat_eq_of_toNat (b := b₃) (by omega)]

theorem encodeChar_four {b₁ b₂ b₃ b₄ : UInt8} (h₁ : 0xF0 ≤ b₁.toNat ∧ b₁.toNat < 0xF5)
    (h₂ : 0x80 ≤ b₂.toNat ∧ b₂.toNat ≤ 0xBF) (low : b₁.toNat = 0xF0 → 0x90 ≤ b₂.toNat)
    (high : b₁.toNat = 0xF4 → b₂.toNat ≤ 0x8F) (h₃ : 0x80 ≤ b₃.toNat ∧ b₃.toNat ≤ 0xBF)
    (h₄ : 0x80 ≤ b₄.toNat ∧ b₄.toNat ≤ 0xBF) :
    String.utf8EncodeChar
      (Char.ofNat (((b₁.toNat % 8 * 64 + b₂.toNat % 64) * 64 + b₃.toNat % 64) * 64 +
        b₄.toNat % 64)) = [b₁, b₂, b₃, b₄] := by
  have valid : Nat.isValidChar
      (((b₁.toNat % 8 * 64 + b₂.toNat % 64) * 64 + b₃.toNat % 64) * 64 + b₄.toNat % 64) := by
    unfold Nat.isValidChar
    omega
  simp only [String.utf8EncodeChar, val_ofNat valid]
  rw [if_neg (by omega), if_neg (by omega), if_neg (by omega),
    ofNat_eq_of_toNat (b := b₁) (by omega), ofNat_eq_of_toNat (b := b₂) (by omega),
    ofNat_eq_of_toNat (b := b₃) (by omega), ofNat_eq_of_toNat (b := b₄) (by omega)]

/-- Units without a malformed run. -/
theorem mapM_id_cons {u : Option Char} {us : List (Option Char)} {cs : List Char}
    (h : (u :: us).mapM id = some cs) :
    ∃ c ds, u = some c ∧ us.mapM id = some ds ∧ cs = c :: ds := by
  rw [List.mapM_cons] at h
  cases u with
  | none => cases h
  | some c =>
    cases hds : us.mapM id with
    | none => rw [hds] at h; cases h
    | some ds => rw [hds] at h; cases h; exact ⟨c, ds, rfl, rfl, rfl⟩

/-- An open character that is not malformed goes on with a byte in its range. -/
theorem scanFrom_some_inv {p : Partial} {bs : List UInt8} {cs : List Char}
    (h : (scanFrom (some p) bs).mapM id = some cs) :
    ∃ b r, bs = b :: r ∧ p.low.toNat ≤ b.toNat ∧ b.toNat ≤ p.high.toNat := by
  cases bs with
  | nil => cases h
  | cons b r =>
    refine ⟨b, r, rfl, ?_⟩
    rw [scanFrom] at h
    simp only at h
    split at h
    case isTrue range =>
      simpa only [Bool.and_eq_true, decide_eq_true_eq, UInt8.le_iff_toNat_le] using range
    case isFalse =>
      obtain ⟨c, -, hc, -⟩ := mapM_id_cons h
      cases hc

theorem lead_of_malformed {b : UInt8} (h : 0x80 ≤ b.toNat)
    (h' : b.toNat < 0xC2 ∨ 0xF5 ≤ b.toNat) : lead b = .malformed := by
  simp only [lead, UInt8.lt_iff_toNat_lt, UInt8.reduceToNat]
  rw [if_neg (by omega)]
  rcases h' with h' | h'
  · rw [if_pos h']
  · rw [if_neg (by omega), if_neg (by omega), if_neg (by omega), if_neg (by omega)]

/-- The first character of well-formed bytes, and the well-formed bytes behind its own. -/
theorem scanFrom_none_inv {b : UInt8} {r : List UInt8} {cs : List Char}
    (h : (scanFrom none (b :: r)).mapM id = some cs) :
    ∃ c r' ds, b :: r = String.utf8EncodeChar c ++ r' ∧ r'.length ≤ r.length ∧
      (scanFrom none r').mapM id = some ds ∧ cs = c :: ds := by
  rcases Nat.lt_or_ge b.toNat 0x80 with ascii | first
  · simp only [scanFrom, lead_of_ascii ascii] at h
    obtain ⟨c, ds, hc, hds, rfl⟩ := mapM_id_cons h
    cases hc
    have hv : (Char.ofNat b.toNat).val.toNat = b.toNat := val_ofNat (.inl (by omega))
    refine ⟨_, r, ds, ?_, Nat.le_refl _, hds, rfl⟩
    rw [String.utf8EncodeChar]
    simp only [hv]
    rw [if_pos (by omega), ofNat_eq_of_toNat rfl]
    rfl
  rcases Nat.lt_or_ge b.toNat 0xC2 with bad | two
  · simp only [scanFrom, lead_of_malformed first (.inl bad)] at h
    obtain ⟨c, -, hc, -⟩ := mapM_id_cons h
    cases hc
  rcases Nat.lt_or_ge b.toNat 0xE0 with lt | three
  · rw [scanFrom_more (lead_of_two two lt)] at h
    obtain ⟨b₂, r, rfl, low₂, high₂⟩ := scanFrom_some_inv h
    rw [scanFrom_last low₂ high₂] at h
    obtain ⟨c, ds, hc, hds, rfl⟩ := mapM_id_cons h
    cases hc
    refine ⟨_, r, ds, ?_, Nat.le_succ _, hds, rfl⟩
    rw [encodeChar_two ⟨two, lt⟩ ⟨low₂, high₂⟩]
    rfl
  rcases Nat.lt_or_ge b.toNat 0xF0 with lt | four
  · rw [scanFrom_more (lead_of_three three lt)] at h
    obtain ⟨b₂, r, rfl, low₂, high₂⟩ := scanFrom_some_inv h
    rw [scanFrom_next low₂ high₂] at h
    obtain ⟨b₃, r, rfl, low₃, high₃⟩ := scanFrom_some_inv h
    rw [scanFrom_last low₃ high₃] at h
    obtain ⟨c, ds, hc, hds, rfl⟩ := mapM_id_cons h
    cases hc
    refine ⟨_, r, ds, ?_, by simp only [List.length_cons]; omega, hds, rfl⟩
    simp only at low₂ high₂
    have range₂ : (0x80 ≤ b₂.toNat ∧ b₂.toNat ≤ 0xBF) ∧ (b.toNat = 0xE0 → 0xA0 ≤ b₂.toNat) ∧
        (b.toNat = 0xED → b₂.toNat ≤ 0x9F) := by
      split at low₂ <;> split at high₂ <;> simp only [UInt8.reduceToNat] at low₂ high₂ <;> omega
    rw [encodeChar_three ⟨three, lt⟩ range₂.1 range₂.2.1 range₂.2.2 ⟨low₃, high₃⟩]
    rfl
  rcases Nat.lt_or_ge b.toNat 0xF5 with lt | bad
  · rw [scanFrom_more (lead_of_four four lt)] at h
    obtain ⟨b₂, r, rfl, low₂, high₂⟩ := scanFrom_some_inv h
    rw [scanFrom_next low₂ high₂] at h
    obtain ⟨b₃, r, rfl, low₃, high₃⟩ := scanFrom_some_inv h
    rw [scanFrom_next low₃ high₃] at h
    obtain ⟨b₄, r, rfl, low₄, high₄⟩ := scanFrom_some_inv h
    rw [scanFrom_last low₄ high₄] at h
    obtain ⟨c, ds, hc, hds, rfl⟩ := mapM_id_cons h
    cases hc
    refine ⟨_, r, ds, ?_, by simp only [List.length_cons]; omega, hds, rfl⟩
    simp only at low₂ high₂
    have range₂ : (0x80 ≤ b₂.toNat ∧ b₂.toNat ≤ 0xBF) ∧ (b.toNat = 0xF0 → 0x90 ≤ b₂.toNat) ∧
        (b.toNat = 0xF4 → b₂.toNat ≤ 0x8F) := by
      split at low₂ <;> split at high₂ <;> simp only [UInt8.reduceToNat] at low₂ high₂ <;> omega
    rw [encodeChar_four ⟨four, lt⟩ range₂.1 range₂.2.1 range₂.2.2 ⟨low₃, high₃⟩ ⟨low₄, high₄⟩]
    rfl
  · simp only [scanFrom, lead_of_malformed first (.inr bad)] at h
    obtain ⟨c, -, hc, -⟩ := mapM_id_cons h
    cases hc

theorem encode_of_decode? {bs : List UInt8} {cs : List Char} (h : decode? bs = some cs) :
    encode cs = bs := by
  induction hn : bs.length using Nat.strongRecOn generalizing bs cs with
  | ind n ih =>
    cases bs with
    | nil => cases h; rfl
    | cons b r =>
      obtain ⟨c, r', ds, hbytes, hlen, hds, rfl⟩ := scanFrom_none_inv h
      rw [encode_cons, hbytes, ih r'.length (by simp only [List.length_cons] at hn; omega) hds rfl]

/-- Well-formed bytes are those of a text, and of no other. -/
theorem text?_eq_some_iff {bs : List UInt8} {s : String} : text? bs = some s ↔ bs = bytes s := by
  refine ⟨fun h => ?_, fun h => h ▸ text?_bytes s⟩
  obtain ⟨cs, hcs, rfl⟩ := Option.map_eq_some_iff.mp h
  rw [bytes, String.toList_ofList, encode_of_decode? hcs]

end Switchboard.Utf8
