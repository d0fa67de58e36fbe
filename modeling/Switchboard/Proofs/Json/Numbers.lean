import Switchboard.Json.Parser
import Switchboard.Proofs.Json.Printed

/-!
# Numbers are read back

A number reads the same before everything that does not go on with it (`readNumber_append`): a
digit, a point or an exponent would, a comma or a bracket does not (`Stops`). Each part of a numeral
has its own lemma of that form. Only the count of bytes behind an exponent changes with the text,
and no value depends on it (`Numeral.value?_before`).

A whole number of 64 bits is read back from its digits (`readNumber_wholeChars`).
-/
namespace Switchboard.Json

/-- What may follow a number: nothing that would go on with it. -/
def Stops (rest : List UInt8) : Prop :=
  ∀ b r, rest = b :: r → digit? b = none ∧ b ≠ 0x2E ∧ b ≠ 0x65 ∧ b ≠ 0x45

theorem Stops.nil : Stops [] := by
  intro b r h
  cases h

/-! ## A number does not look beyond its end -/

theorem takeDigits_append (text : List UInt8) :
    (takeDigits text).2 <:+ text ∧ ∀ tail, ((takeDigits text).2 = [] → Stops tail) →
      takeDigits (text ++ tail) = ((takeDigits text).1, (takeDigits text).2 ++ tail) := by
  induction text with
  | nil =>
    refine ⟨List.suffix_refl _, ?_⟩
    intro tail h
    cases tail with
    | nil => rfl
    | cons b r => simp only [List.nil_append, takeDigits, (h rfl b r rfl).1]
  | cons b r ih =>
    simp only [takeDigits, List.cons_append]
    cases digit? b with
    | none => exact ⟨List.suffix_refl _, fun tail _ => rfl⟩
    | some d =>
      refine ⟨ih.1.trans (List.suffix_cons b r), ?_⟩
      intro tail h
      simp only [ih.2 tail h]

theorem readWhole_append {atEnd : Cause} {text rest : List UInt8} {ds : List Nat}
    (h : readWhole atEnd text = .ok (ds, rest)) :
    rest <:+ text ∧ ∀ tail, (rest = [] → Stops tail) →
      readWhole atEnd (text ++ tail) = .ok (ds, rest ++ tail) := by
  cases text with
  | nil => cases h
  | cons b r =>
    obtain ⟨suffix, append⟩ := takeDigits_append r
    simp only [List.cons_append]
    rcases hb : digit? b with _ | _ | d
    · simp only [readWhole, hb] at h
      cases h
    · rcases hr : takeDigits r with ⟨_ | _, r'⟩
      · simp only [readWhole, hb, hr] at h
        cases h
        rw [hr] at suffix append
        refine ⟨suffix.trans (List.suffix_cons b _), ?_⟩
        intro tail hs
        simp only [readWhole, hb, append tail hs]
      · simp only [readWhole, hb, hr] at h
        cases h
    · simp only [readWhole, hb] at h
      cases h
      refine ⟨suffix.trans (List.suffix_cons b _), ?_⟩
      intro tail hs
      simp only [readWhole, hb, append tail hs]

theorem readFraction_append {atEnd : Cause} {text rest : List UInt8} {ds : Option (List Nat)}
    (h : readFraction atEnd text = .ok (ds, rest)) :
    rest <:+ text ∧ ∀ tail, (rest = [] → Stops tail) →
      readFraction atEnd (text ++ tail) = .ok (ds, rest ++ tail) := by
  cases text with
  | nil =>
    cases h
    refine ⟨List.suffix_refl _, ?_⟩
    intro tail hs
    cases tail with
    | nil => rfl
    | cons b r =>
      have hb := (hs rfl b r rfl).2.1
      simp only [List.nil_append]
      rw [readFraction]
      intro r' e
      cases e
      exact hb rfl
  | cons b r =>
    by_cases hb : b = 0x2E
    · subst hb
      obtain ⟨suffix, append⟩ := takeDigits_append r
      rcases hr : takeDigits r with ⟨_ | ⟨d, ds'⟩, r'⟩
      · cases r' <;> simp only [readFraction, hr] at h <;> cases h
      · simp only [readFraction, hr] at h
        cases h
        rw [hr] at suffix append
        refine ⟨suffix.trans (List.suffix_cons _ _), ?_⟩
        intro tail hs
        simp only [List.cons_append, readFraction, append tail hs]
    · have other (t : List UInt8) : readFraction atEnd (b :: t) = .ok (none, b :: t) := by
        rw [readFraction]
        intro r' e
        cases e
        exact hb rfl
      rw [other] at h
      cases h
      exact ⟨List.suffix_refl _, fun tail _ => other _⟩

/-- The numeral with another count of bytes after it. -/
def Numeral.before (n : Numeral) (left : Nat) : Numeral :=
  { n with exponent := n.exponent.map fun e => { e with left } }

theorem readExponentDigits_append {atEnd : Cause} {negative : Bool} {text rest : List UInt8}
    {e : Option Exponent} (h : readExponentDigits atEnd negative text = .ok (e, rest)) :
    rest <:+ text ∧ ∀ tail, (rest = [] → Stops tail) →
      readExponentDigits atEnd negative (text ++ tail) =
        .ok (e.map fun e => { e with left := (rest ++ tail).length }, rest ++ tail) := by
  cases text with
  | nil => cases h
  | cons b r =>
    obtain ⟨suffix, append⟩ := takeDigits_append r
    rcases hb : digit? b with _ | d
    · simp only [readExponentDigits, hb] at h
      cases h
    · simp only [readExponentDigits, hb] at h
      cases h
      refine ⟨suffix.trans (List.suffix_cons b _), ?_⟩
      intro tail hs
      simp only [List.cons_append, readExponentDigits, hb, append tail hs]
      rfl

theorem readExponent_append {atEnd : Cause} {text rest : List UInt8} {e : Option Exponent}
    (h : readExponent atEnd text = .ok (e, rest)) :
    rest <:+ text ∧ ∀ tail, (rest = [] → Stops tail) →
      readExponent atEnd (text ++ tail) =
        .ok (e.map fun e => { e with left := (rest ++ tail).length }, rest ++ tail) := by
  cases text with
  | nil =>
    cases h
    refine ⟨List.suffix_refl _, ?_⟩
    intro tail hs
    cases tail with
    | nil => rfl
    | cons b r =>
      obtain ⟨-, -, lower, upper⟩ := hs rfl b r rfl
      simp only [List.nil_append, readExponent, lower, upper, decide_false, Bool.or_self,
        Bool.false_eq_true, if_false]
      rfl
  | cons m r =>
    cases hm : m = 0x65 || m = 0x45 with
    | false =>
      simp only [readExponent, hm, Bool.false_eq_true, if_false, List.cons_append] at h ⊢
      cases h
      exact ⟨List.suffix_refl _, fun tail _ => rfl⟩
    | true =>
      -- behind the mark stands a sign, or else the first digit
      cases r with
      | nil => simp only [readExponent, hm, if_true] at h; cases h
      | cons b r =>
        by_cases plus : b = 0x2B
        · subst plus
          simp only [readExponent, hm, if_true, List.cons_append] at h ⊢
          obtain ⟨suffix, append⟩ := readExponentDigits_append h
          exact ⟨suffix.trans ((List.suffix_cons _ _).trans (List.suffix_cons _ _)), append⟩
        · by_cases minus : b = 0x2D
          · subst minus
            simp only [readExponent, hm, if_true, List.cons_append] at h ⊢
            obtain ⟨suffix, append⟩ := readExponentDigits_append h
            exact ⟨suffix.trans ((List.suffix_cons _ _).trans (List.suffix_cons _ _)), append⟩
          · have unsigned (t : List UInt8) :
                readExponent atEnd (m :: b :: t) = readExponentDigits atEnd false (b :: t) := by
              simp only [readExponent, hm, if_true]
              split
              · rename_i e; cases e; exact absurd rfl plus
              · rename_i e; cases e; exact absurd rfl minus
              · rfl
            rw [unsigned] at h
            obtain ⟨suffix, append⟩ := readExponentDigits_append h
            refine ⟨suffix.trans (List.suffix_cons _ _), ?_⟩
            intro tail hs
            exact (unsigned (r ++ tail)).trans (append tail hs)

/-- A number behind its sign. -/
def Numeral.readUnsigned (atEnd : Cause) (negative : Bool) (text : List UInt8) :
    Except Fault (Numeral × List UInt8) := do
  let (whole, r) ← readWhole atEnd text
  let (fraction, r) ← readFraction atEnd r
  let (exponent, r) ← readExponent atEnd r
  return ({ negative, whole, fraction, exponent }, r)

theorem Numeral.read_minus (atEnd : Cause) (r : List UInt8) :
    Numeral.read atEnd (0x2D :: r) = Numeral.readUnsigned atEnd true r := rfl

theorem Numeral.read_unsigned (atEnd : Cause) {text : List UInt8} (h : ∀ r, text ≠ 0x2D :: r) :
    Numeral.read atEnd text = Numeral.readUnsigned atEnd false text := by
  unfold Numeral.read
  split
  rename_i negative r hs
  split at hs
  · rename_i r'
    exact absurd rfl (h r')
  · cases hs
    rfl

theorem Numeral.readUnsigned_append {atEnd : Cause} {negative : Bool} {text rest : List UInt8}
    {n : Numeral} (h : Numeral.readUnsigned atEnd negative text = .ok (n, rest)) :
    rest <:+ text ∧ ∀ tail, (rest = [] → Stops tail) →
      Numeral.readUnsigned atEnd negative (text ++ tail) =
        .ok (n.before (rest ++ tail).length, rest ++ tail) := by
  unfold Numeral.readUnsigned at h ⊢
  rcases hw : readWhole atEnd text with _ | ⟨whole, r₁⟩
  · rw [hw] at h; cases h
  rw [hw] at h
  rcases hf : readFraction atEnd r₁ with _ | ⟨fraction, r₂⟩
  · simp only [bind, Except.bind, hf] at h; cases h
  rcases he : readExponent atEnd r₂ with _ | ⟨exponent, r₃⟩
  · simp only [bind, Except.bind, hf, he] at h; cases h
  simp only [bind, Except.bind, hf, he, pure, Except.pure] at h
  cases h
  obtain ⟨suffix₁, append₁⟩ := readWhole_append hw
  obtain ⟨suffix₂, append₂⟩ := readFraction_append hf
  obtain ⟨suffix₃, append₃⟩ := readExponent_append he
  refine ⟨suffix₃.trans (suffix₂.trans suffix₁), ?_⟩
  intro tail hs
  have ends₂ (e : r₂ = []) : rest = [] := List.suffix_nil.mp (e ▸ suffix₃)
  have ends₁ (e : r₁ = []) : rest = [] := ends₂ (List.suffix_nil.mp (e ▸ suffix₂))
  simp only [append₁ tail (fun e => hs (ends₁ e)), append₂ tail (fun e => hs (ends₂ e)),
    append₃ tail hs, bind, Except.bind]
  rfl

/-- What is taken for a number is the same before anything that does not go on with it. -/
theorem Numeral.read_append {atEnd : Cause} {text rest : List UInt8} {n : Numeral}
    (h : Numeral.read atEnd text = .ok (n, rest)) :
    rest <:+ text ∧ ∀ tail, (rest = [] → Stops tail) →
      Numeral.read atEnd (text ++ tail) = .ok (n.before (rest ++ tail).length, rest ++ tail) := by
  by_cases sign : ∃ r, text = 0x2D :: r
  · obtain ⟨r, rfl⟩ := sign
    rw [Numeral.read_minus] at h
    obtain ⟨suffix, append⟩ := Numeral.readUnsigned_append h
    exact ⟨suffix.trans (List.suffix_cons _ _), append⟩
  · have unsigned (r : List UInt8) : text ≠ 0x2D :: r := fun e => sign ⟨r, e⟩
    rw [Numeral.read_unsigned atEnd unsigned] at h
    obtain ⟨suffix, append⟩ := Numeral.readUnsigned_append h
    refine ⟨suffix, ?_⟩
    intro tail hs
    rw [Numeral.read_unsigned atEnd, append tail hs]
    intro r e
    cases text with
    | nil => simp only [Numeral.readUnsigned, readWhole] at h; cases h
    | cons b t => cases e; exact unsigned t rfl

/-- The value of a number does not depend on what follows it. -/
theorem Numeral.value?_before {n : Numeral} {left : Nat} {x : Number} (h : n.value? left = .ok x)
    (left₁ left₂ : Nat) : (n.before left₁).value? left₂ = .ok x := by
  obtain ⟨negative, whole, fraction, exponent⟩ := n
  rcases hw : absorb 0 whole with ⟨start, beyond⟩
  rcases hf : absorb start (fraction.getD []) with ⟨significand, ignored⟩
  cases exponent with
  | none =>
    simp only [Numeral.before, Numeral.value?, hw, hf, Option.map_none] at h ⊢
    by_cases plain : (beyond.isEmpty && fraction.isNone && (none : Option Exponent).isNone) = true
    · rw [if_pos plain] at h ⊢
      exact h
    · rw [if_neg plain] at h ⊢
      generalize scaled significand _ = result at h ⊢
      cases result with
      | some y => exact h
      | none => cases h
  | some e =>
    simp only [Numeral.before, Numeral.value?, hw, hf, Option.map_some, Option.isNone_some,
      Bool.and_false, Bool.false_eq_true, if_false] at h ⊢
    cases hk : exponentValue 0 e.digits with
    | ok k =>
      simp only [hk] at h ⊢
      generalize scaled significand _ = result at h ⊢
      cases result with
      | some y => exact h
      | none => cases h
    | error after =>
      simp only [hk] at h ⊢
      by_cases large : (decide (significand ≠ 0) && !e.negative) = true
      · rw [if_pos large] at h
        cases h
      · rw [if_neg large] at h ⊢
        exact h

theorem readNumber_append {text rest : List UInt8} {x : Number}
    (h : readNumber text = .ok (x, rest)) :
    rest <:+ text ∧ ∀ tail, (rest = [] → Stops tail) →
      readNumber (text ++ tail) = .ok (x, rest ++ tail) := by
  unfold readNumber at h ⊢
  rcases hn : Numeral.read .endInValue text with _ | ⟨n, r⟩
  · rw [hn] at h; cases h
  rcases hx : n.value? r.length with _ | y
  · simp only [hn, bind, Except.bind, hx] at h; cases h
  simp only [hn, bind, Except.bind, hx, pure, Except.pure] at h
  cases h
  obtain ⟨suffix, append⟩ := Numeral.read_append hn
  refine ⟨suffix, ?_⟩
  intro tail hs
  simp only [append tail hs, bind, Except.bind, Numeral.value?_before hx]
  rfl

/-! ## Whole numbers -/

def digitBytes (cs : List Char) : List UInt8 := cs.map fun c => UInt8.ofNat c.toNat

theorem bounds_of_isDigit {c : Char} (h : c.isDigit = true) : 0x30 ≤ c.toNat ∧ c.toNat ≤ 0x39 :=
  Char.isDigit_iff_toNat.mp h

theorem encode_toDigits (n : Nat) :
    Utf8.encode (Nat.toDigits 10 n) = digitBytes (Nat.toDigits 10 n) := by
  refine Utf8.encode_of_ascii fun c hc => ?_
  have := bounds_of_isDigit (Nat.isDigit_of_mem_toDigits (by decide) (by decide) hc)
  omega

theorem digit?_ofNat {c : Char} (h : c.isDigit = true) :
    digit? (UInt8.ofNat c.toNat) = some (c.toNat - 0x30) := by
  obtain ⟨low, high⟩ := bounds_of_isDigit h
  have hb : (UInt8.ofNat c.toNat).toNat = c.toNat := Utf8.toNat_ofNat_of_lt (by omega)
  unfold digit?
  rw [if_pos, hb]
  simp only [UInt8.le_iff_toNat_le, hb, UInt8.reduceToNat, low, high, decide_true, Bool.and_self]

theorem takeDigits_digitBytes {cs : List Char} (h : ∀ c ∈ cs, c.isDigit = true) :
    takeDigits (digitBytes cs) = (cs.map fun c => c.toNat - 0x30, []) := by
  induction cs with
  | nil => rfl
  | cons c cs ih =>
    have ih := ih fun d hd => h d (List.mem_cons_of_mem _ hd)
    simp only [digitBytes, List.map_cons, takeDigits, digit?_ofNat (h c List.mem_cons_self)] at ih ⊢
    rw [ih]

/-- Digits that 64 bits hold are all absorbed. -/
theorem absorb_of_lt (cs : List Char) (n : Nat)
    (h : Nat.ofDigitChars 10 cs n < 0x10000000000000000) :
    absorb n (cs.map fun c => c.toNat - 0x30) = (Nat.ofDigitChars 10 cs n, []) := by
  induction cs generalizing n with
  | nil => rfl
  | cons c cs ih =>
    rw [Nat.ofDigitChars_cons] at h ⊢
    have next : 10 * n + (c.toNat - '0'.toNat) = n * 10 + (c.toNat - 0x30) := by
      rw [Nat.mul_comm]; rfl
    rw [next] at h ⊢
    have fits : n * 10 + (c.toNat - 0x30) < 0x10000000000000000 := by
      rw [Nat.ofDigitChars_eq_ofDigitChars_zero] at h
      have grows := Nat.le_mul_of_pos_left (n * 10 + (c.toNat - 0x30))
        (Nat.pow_pos (n := cs.length) (show 0 < 10 by decide))
      omega
    simp only [List.map_cons, absorb, if_pos fits, ih _ h]

/-- A positive number does not start with a zero. -/
theorem toDigits_head {n : Nat} (h : 0 < n) : ∃ c cs, Nat.toDigits 10 n = c :: cs ∧ c ≠ '0' := by
  induction n using Nat.strongRecOn with
  | ind n ih =>
    rw [Nat.toDigits_eq_if (by decide)]
    split
    · exact ⟨_, [], rfl, fun e => by rw [Nat.digitChar_eq_zero] at e; omega⟩
    · obtain ⟨c, cs, e, hc⟩ := ih (n / 10) (by omega) (by omega)
      exact ⟨c, _, by rw [e, List.cons_append], hc⟩

theorem readWhole_toDigits (atEnd : Cause) (n : Nat) :
    readWhole atEnd (digitBytes (Nat.toDigits 10 n)) =
      .ok ((Nat.toDigits 10 n).map fun c => c.toNat - 0x30, []) := by
  have digits : ∀ c ∈ Nat.toDigits 10 n, c.isDigit = true :=
    fun c hc => Nat.isDigit_of_mem_toDigits (by decide) (by decide) hc
  rcases Nat.eq_zero_or_pos n with rfl | pos
  · rfl
  · obtain ⟨c, cs, e, hc⟩ := toDigits_head pos
    rw [e] at digits ⊢
    have first := digits c List.mem_cons_self
    have rest := takeDigits_digitBytes fun d hd => digits d (List.mem_cons_of_mem _ hd)
    obtain ⟨low, -⟩ := bounds_of_isDigit first
    have hne : c.toNat ≠ 0x30 := fun e => hc (Char.toNat_inj.mp e)
    obtain ⟨d, hd⟩ : ∃ d, c.toNat - 0x30 = d + 1 := ⟨c.toNat - 0x31, by omega⟩
    have hb : digit? (UInt8.ofNat c.toNat) = some (d + 1) := hd ▸ digit?_ofNat first
    rw [show digitBytes (c :: cs) = UInt8.ofNat c.toNat :: digitBytes cs from rfl]
    simp only [readWhole, hb, rest, List.map_cons, hd]

theorem readUnsigned_toDigits (atEnd : Cause) (negative : Bool) (n : Nat) :
    Numeral.readUnsigned atEnd negative (digitBytes (Nat.toDigits 10 n)) =
      .ok (⟨negative, (Nat.toDigits 10 n).map fun c => c.toNat - 0x30, none, none⟩, []) := by
  unfold Numeral.readUnsigned
  rw [readWhole_toDigits]
  rfl

theorem value?_toDigits (negative : Bool) {n : Nat} (h : n < 0x10000000000000000) (left : Nat) :
    Numeral.value? ⟨negative, (Nat.toDigits 10 n).map fun c => c.toNat - 0x30, none, none⟩ left =
      .ok (wholeNumber negative n) := by
  have value : Nat.ofDigitChars 10 (Nat.toDigits 10 n) 0 = n :=
    Nat.ofDigitChars_toDigits (by decide) (by decide)
  have all := absorb_of_lt (Nat.toDigits 10 n) 0 (by rw [value]; exact h)
  rw [value] at all
  simp only [Numeral.value?, all]
  rfl

theorem digitBytes_ne_minus (n : Nat) (r : List UInt8) :
    digitBytes (Nat.toDigits 10 n) ≠ 0x2D :: r := by
  intro e
  have hm : 0x2D ∈ digitBytes (Nat.toDigits 10 n) := e ▸ List.mem_cons_self
  obtain ⟨c, hc, hb⟩ := List.mem_map.mp hm
  obtain ⟨low, high⟩ :=
    bounds_of_isDigit (Nat.isDigit_of_mem_toDigits (by decide) (by decide) hc)
  have := congrArg UInt8.toNat hb
  rw [Utf8.toNat_ofNat_of_lt (by omega)] at this
  simp only [UInt8.reduceToNat] at this
  omega

theorem wholeNumber_natAbs (n : Whole) : wholeNumber (n.val < 0) n.val.natAbs = .whole n := by
  obtain ⟨n, lower, upper⟩ := n
  simp only [wholeNumber, decide_eq_true_eq]
  split
  case isTrue neg =>
    have e : -(n.natAbs : Int) = n := by omega
    rw [dif_pos (by omega)]
    simp only [e]
  case isFalse pos =>
    have e : (n.natAbs : Int) = n := by omega
    rw [dif_pos (by omega)]
    simp only [e]

/-- Every whole number of 64 bits is read back. -/
theorem readNumber_wholeChars (n : Whole) :
    readNumber (Utf8.encode (wholeChars n.val)) = .ok (.whole n, []) := by
  have bounds := n.lower
  have bounds' := n.upper
  have value := value?_toDigits (n.val < 0) (n := n.val.natAbs) (by omega) 0
  rw [wholeNumber_natAbs] at value
  have read : Numeral.read .endInValue (Utf8.encode (wholeChars n.val)) =
      Numeral.readUnsigned .endInValue (n.val < 0) (digitBytes (Nat.toDigits 10 n.val.natAbs)) := by
    unfold wholeChars
    split
    case isTrue neg =>
      rw [Utf8.encode_cons, encode_toDigits, decide_eq_true neg]
      rfl
    case isFalse pos =>
      rw [encode_toDigits, decide_eq_false pos]
      exact Numeral.read_unsigned _ (digitBytes_ne_minus _)
  unfold readNumber
  rw [read, readUnsigned_toDigits]
  simp only [bind, Except.bind, List.length_nil, value]
  rfl

end Switchboard.Json
