import Mathlib.Data.List.TakeDrop
import Mathlib.Data.List.TakeWhile
import Switchboard.Proofs.Text.Canonical
import Switchboard.Proofs.Url.Percent
import Switchboard.Url.Parser

/-!
# Credentials, hosts and ports

What stands before the path of an address ends with a port wherever the address is that of a server.

* `cutAtLastAt_cases`: where the credentials end;
* `readCredentials_eq_none`, `spelled_iff`: the texts that are no credentials, and those in which
  none stand;
* `cutHost_of_port`: a host and a port that are accepted are parted at the last colon;
* `readPort_toDigits`: a port is read back.
-/
namespace Switchboard.Url

/-! ## Cutting -/

theorem cut_eq {α : Type} (p : α → Bool) (as : List α) :
    Text.cut p as = (as.takeWhile fun a => !p a, as.dropWhile fun a => !p a) :=
  List.span_eq_takeWhile_dropWhile _ as

theorem cut_of_none {α : Type} {p : α → Bool} {as : List α} (h : ∀ a ∈ as, p a = false) :
    Text.cut p as = (as, []) := by
  have all : ∀ a ∈ as, (!p a) = true := fun a ha => by rw [h a ha]; rfl
  rw [cut_eq, List.takeWhile_eq_self_iff.mpr all, List.dropWhile_eq_nil_iff.mpr all]

theorem none_of_cut {α : Type} {p : α → Bool} {as : List α} (h : (Text.cut p as).2 = []) :
    ∀ a ∈ as, p a = false := by
  rw [cut_eq] at h
  intro a ha
  simpa using List.dropWhile_eq_nil_iff.mp h a ha

/-- What is cut off starts with an element that satisfies `p`. -/
theorem cut_cases {α : Type} (p : α → Bool) (as : List α) :
    (Text.cut p as).2 = [] ∨ ∃ a rest, (Text.cut p as).2 = a :: rest ∧ p a = true := by
  rw [cut_eq]
  cases e : as.dropWhile fun a => !p a with
  | nil => exact .inl rfl
  | cons a rest =>
    have head := List.head?_dropWhile_not (fun a => !p a) as
    rw [e] at head
    exact .inr ⟨a, rest, rfl, by simpa using head⟩

/-- From its end, a text is read up to the last place of a character. -/
theorem takeWhile_reverse {c : Char} (cs : List Char) {ds : List Char} (h : c ∉ ds) :
    (cs ++ c :: ds).reverse.takeWhile (· != c) = ds.reverse := by
  have all : ∀ d ∈ ds.reverse, (d != c) = true := fun d hd =>
    bne_iff_ne.mpr fun e => h (e ▸ List.mem_reverse.mp hd)
  rw [List.reverse_append, List.reverse_cons, List.append_assoc, List.takeWhile_append_of_pos all,
    List.singleton_append, List.takeWhile_cons_of_neg (by simp), List.append_nil]

/-! ## Credentials -/

theorem cutAtLastAt_of_not_mem {cs : List Char} (h : '@' ∉ cs) : cutAtLastAt cs = ([], cs) := by
  have all : ∀ c ∈ cs.reverse, (c != '@') = true := fun c hc =>
    bne_iff_ne.mpr fun e => h (e ▸ List.mem_reverse.mp hc)
  rw [cutAtLastAt, List.takeWhile_eq_self_iff.mpr all, List.reverse_reverse, Nat.sub_self]
  rfl

theorem cutAtLastAt_append (cs : List Char) {ds : List Char} (h : '@' ∉ ds) :
    cutAtLastAt (cs ++ '@' :: ds) = (cs, ds) := by
  rw [cutAtLastAt, takeWhile_reverse cs h, List.reverse_reverse, List.length_append,
    List.length_cons]
  refine Prod.ext ?_ rfl
  change (cs ++ '@' :: ds).take (cs.length + (ds.length + 1) - ds.length - 1) = cs
  rw [show cs.length + (ds.length + 1) - ds.length - 1 = cs.length by omega, List.take_left]

/-- A text without an at sign, or parted at its last one. -/
theorem at_cases (cs : List Char) : '@' ∉ cs ∨ ∃ as bs, cs = as ++ '@' :: bs ∧ '@' ∉ bs := by
  by_cases h : '@' ∈ cs
  · obtain ⟨bs, as, e, none⟩ := List.eq_append_cons_of_mem (List.mem_reverse.mpr h)
    refine .inr ⟨as.reverse, bs.reverse, ?_, fun hb => none (List.mem_reverse.mp hb)⟩
    rw [← List.reverse_reverse cs, e]
    simp
  · exact .inl h

theorem encode_cons_ne_nil (set : Percent.EncodeSet) (c : Char) (cs : List Char) :
    Percent.encode set (c :: cs) ≠ [] := by
  rw [Percent.encode_cons, Percent.encodeChar]
  split
  · cases e : Utf8.encode [c] with
    | nil => cases Utf8.encode_inj.mp (e.trans Utf8.encode_nil.symm)
    | cons b bs => exact List.cons_ne_nil _ _
  · exact List.cons_ne_nil _ _

/-- Nothing, or a lone colon, stands for no credentials. -/
theorem readCredentials_eq_none {cs : List Char} :
    readCredentials cs = ([], none) ↔ cs = [] ∨ cs = [':'] := by
  constructor
  · intro h
    cases cs with
    | nil => exact .inl rfl
    | cons c cs =>
      by_cases colon : c = ':'
      · cases cs with
        | nil => exact .inr (colon ▸ rfl)
        | cons d cs => subst colon; cases h
      · have name : (readCredentials (c :: cs)).1 =
            Percent.encode Percent.userinfo (Text.cut (· == ':') (c :: cs)).1 := by
          unfold readCredentials
          dsimp only
          split <;> rfl
        rw [h, cut_eq, List.takeWhile_cons_of_pos (by simpa using colon)] at name
        exact absurd name.symm (encode_cons_ne_nil _ _ _)
  · rintro (rfl | rfl) <;> rfl

theorem cutAtLastAt_cases (cs : List Char) :
    cutAtLastAt cs = ([], cs) ∧ '@' ∉ cs ∨
      ∃ as bs, cs = as ++ '@' :: bs ∧ cutAtLastAt cs = (as, bs) ∧ '@' ∉ bs := by
  rcases at_cases cs with none | ⟨as, bs, rfl, none⟩
  · exact .inl ⟨cutAtLastAt_of_not_mem none, none⟩
  · exact .inr ⟨as, bs, rfl, cutAtLastAt_append as none, none⟩

/-- What stands behind the last at sign is cut off with everything behind it. -/
theorem cutAtLastAt_behind (cs : List Char) {ds : List Char} (h : '@' ∉ ds) :
    cutAtLastAt (cs ++ ds) = ((cutAtLastAt cs).1, (cutAtLastAt cs).2 ++ ds) := by
  rcases cutAtLastAt_cases cs with ⟨e, none⟩ | ⟨as, bs, rfl, e, none⟩
  · rw [e]
    exact cutAtLastAt_of_not_mem fun hc => (List.mem_append.mp hc).elim none h
  · rw [e, List.append_assoc, List.cons_append]
    exact cutAtLastAt_append as fun hc => (List.mem_append.mp hc).elim none h

theorem at_not_mem_cutAtLastAt (cs : List Char) : '@' ∉ (cutAtLastAt cs).2 := by
  rcases cutAtLastAt_cases cs with ⟨e, none⟩ | ⟨as, bs, rfl, e, none⟩ <;> rwa [e]

theorem mem_of_mem_cutAtLastAt {cs : List Char} {c : Char} (h : c ∈ (cutAtLastAt cs).2) :
    c ∈ cs := by
  rcases cutAtLastAt_cases cs with ⟨e, none⟩ | ⟨as, bs, rfl, e, none⟩ <;> rw [e] at h
  · exact h
  · exact List.mem_append_right _ (List.mem_cons_of_mem _ h)

/-- The texts in which no credentials stand before a name. -/
theorem spelled_iff {cs name : List Char} (absent : '@' ∉ name) :
    cs ∈ [name, '@' :: name, ':' :: '@' :: name] ↔
      (cutAtLastAt cs).2 = name ∧ readCredentials (cutAtLastAt cs).1 = ([], none) := by
  simp only [List.mem_cons, List.not_mem_nil, or_false]
  constructor
  · rintro (rfl | rfl | rfl)
    · rw [cutAtLastAt_of_not_mem absent]
      exact ⟨rfl, rfl⟩
    · rw [← List.nil_append ('@' :: name), cutAtLastAt_append [] absent]
      exact ⟨rfl, rfl⟩
    · rw [← List.singleton_append, cutAtLastAt_append [':'] absent]
      exact ⟨rfl, rfl⟩
  · rintro ⟨e, given⟩
    rcases cutAtLastAt_cases cs with ⟨cut, -⟩ | ⟨as, bs, rfl, cut, -⟩ <;> rw [cut] at e given
    · exact .inl e
    · subst e
      rcases readCredentials_eq_none.mp given with rfl | rfl
      · exact .inr (.inl rfl)
      · exact .inr (.inr rfl)

/-! ## Hosts and ports -/

theorem cutHost_append (inBrackets : Bool) (cs : List Char) :
    (cutHost inBrackets cs).1 ++ (cutHost inBrackets cs).2 = cs := by
  fun_induction cutHost inBrackets cs with
  | case1 => rfl
  | case2 => rfl
  | case3 inBrackets c cs stop inside host rest e ih =>
    rw [e] at ih
    exact congrArg (c :: ·) ih

theorem cutHost_cases (inBrackets : Bool) (cs : List Char) :
    (cutHost inBrackets cs).2 = [] ∨ ∃ rest, (cutHost inBrackets cs).2 = ':' :: rest := by
  fun_induction cutHost inBrackets cs with
  | case1 => exact .inl rfl
  | case2 inBrackets c cs stop =>
    simp only [Bool.and_eq_true, decide_eq_true_eq] at stop
    exact .inr ⟨cs, by rw [stop.1]⟩
  | case3 inBrackets c cs stop inside host rest e ih =>
    rw [e] at ih
    exact ih

theorem mem_of_mapM {α β : Type} {f : α → Option β} {a : α} {b : β} {as : List α} {bs : List β}
    (h : as.mapM f = some bs) (mem : a ∈ as) (image : f a = some b) : b ∈ bs := by
  induction as generalizing bs with
  | nil => cases mem
  | cons x as ih =>
    rw [List.mapM_cons] at h
    obtain ⟨y, first, h⟩ := Option.bind_eq_some_iff.mp h
    obtain ⟨ys, rest, h⟩ := Option.bind_eq_some_iff.mp h
    cases h
    rcases List.mem_cons.mp mem with rfl | mem
    · exact Option.some.inj (image.symm.trans first) ▸ List.mem_cons_self
    · exact List.mem_cons_of_mem _ (ih rest mem)

/-- A character before `<` stands in the simplest form of a text if it stood in the text. -/
theorem Mapping.mem_of_simplest? {c : Char} {cs ds : List Char} (low : c.toNat < 0x3C)
    (simplest : simplest? cs = some ds) (mem : c ∈ cs) : c ∈ ds := by
  have small : c.toLower = c := by
    refine dif_neg fun capital => ?_
    have : 65 ≤ c.toNat := UInt32.le_iff_toNat_le.mp capital.1
    omega
  unfold simplest? at simplest
  split at simplest
  · cases simplest
    exact List.mem_map.mpr ⟨c, mem, small⟩
  · obtain ⟨parts, read, rfl⟩ := Option.map_eq_some_iff.mp simplest
    have own : ofChar? c = some [c] := by rw [ofChar?, if_pos (by omega), small]
    have part := mem_of_mapM read mem own
    exact Text.mem_compose low (List.mem_flatten.mpr ⟨[c], part, List.mem_singleton_self c⟩)

/-- A host in which a colon stands is in brackets. -/
theorem getLast_of_colon {cs : List Char} {host : Host} (h : Host.ofText cs = .ok host)
    (colon : ':' ∈ cs) : cs.getLast? = some ']' := by
  unfold Host.ofText at h
  split at h
  · cases h
  · rename_i cs
    split at h
    · rename_i last
      rw [List.getLast?_cons, last]
      rfl
    · cases h
  · -- A name would have the colon among its characters.
    have refused : Host.nameOf cs = .error .invalidName := by
      unfold Host.nameOf
      cases read : (Utf8.decode? (Percent.decode (Utf8.encode cs))).bind Mapping.simplest? with
      | none => rfl
      | some simplest =>
        obtain ⟨decoded, bytes, simplest⟩ := Option.bind_eq_some_iff.mp read
        have written : (0x3A : UInt8) ∈ Utf8.encode cs :=
          (Utf8.mem_encode_iff (c := ':') (by decide) cs).mpr colon
        have byte := Percent.mem_decode (by decide) (by decide) written
        rw [← Utf8.encode_of_decode? bytes] at byte
        have stays := (Utf8.mem_encode_iff (c := ':') (by decide) decoded).mp byte
        refine if_pos ?_
        rw [Bool.or_eq_true, List.any_eq_true]
        exact .inl ⟨':', Mapping.mem_of_simplest? (by decide) simplest stays, by decide⟩
    rw [refused] at h
    cases h

theorem ne_of_isDigit {c d : Char} (h : isDigit c = true) (other : isDigit d = false) : c ≠ d := by
  rintro rfl
  rw [h] at other
  cases other

/-- No mark of the grammar is a digit. -/
theorem marks_of_isDigit {c : Char} (h : isDigit c = true) :
    isIgnored c = false ∧ isSlash c = false ∧ endsPath c = false := by
  have differs (d : Char) (other : isDigit d = false) : (c == d) = false :=
    beq_eq_false_iff_ne.mpr (ne_of_isDigit h other)
  refine ⟨?_, ?_, ?_⟩
  · rw [isIgnored, differs _ rfl, differs _ rfl, differs _ rfl]; rfl
  · rw [isSlash, differs _ rfl, differs _ rfl]; rfl
  · rw [endsPath, differs _ rfl, differs _ rfl]; rfl

/-- A host and a port that are accepted are parted where the port was added. -/
theorem cutHost_of_port {name digits : List Char} {host : Host} {port : Option Nat}
    (all : ∀ c ∈ digits, isDigit c = true)
    (hostRead : Host.ofText (cutHost false (name ++ ':' :: digits)).1 = .ok host)
    (portRead : readPort (cutHost false (name ++ ':' :: digits)).2 = .ok port) :
    cutHost false (name ++ ':' :: digits) = (name, ':' :: digits) := by
  have whole := cutHost_append false (name ++ ':' :: digits)
  rcases cutHost_cases false (name ++ ':' :: digits) with none | ⟨rest, e⟩
  · -- Nothing is left for the port, so its colon is in the host, but no bracket at its end.
    rw [none, List.append_nil] at whole
    rw [whole] at hostRead
    have last := getLast_of_colon hostRead (List.mem_append_right _ List.mem_cons_self)
    rw [List.getLast?_append_of_ne_nil _ (List.cons_ne_nil _ _)] at last
    rcases List.mem_cons.mp (List.mem_of_getLast? last) with wrong | inside
    · exact absurd wrong (by decide)
    · exact absurd rfl (ne_of_isDigit (all _ inside) (by decide))
  · rw [e] at whole portRead
    have digitsRead : ∀ c ∈ rest, isDigit c = true := by
      by_contra other
      have refused : readPort (':' :: rest) = .error .invalidPort := by
        refine if_neg fun h => other ?_
        exact List.all_eq_true.mp (Bool.and_eq_true_iff.mp h).1
      rw [refused] at portRead
      cases portRead
    -- Both texts end with digits behind their last colon.
    have same := congrArg (fun l => l.reverse.takeWhile (· != ':')) whole
    have noColon {ds : List Char} (h : ∀ c ∈ ds, isDigit c = true) : ':' ∉ ds := fun hc =>
      ne_of_isDigit (h _ hc) (by decide) rfl
    simp only [takeWhile_reverse _ (noColon digitsRead), takeWhile_reverse _ (noColon all),
      List.reverse_inj] at same
    subst same
    exact Prod.ext (List.append_cancel_right whole) e

theorem isDigit_of_mem_toDigits {n : Nat} {c : Char} (h : c ∈ Nat.toDigits 10 n) :
    isDigit c = true :=
  Nat.isDigit_of_mem_toDigits (by decide) (by decide) h

theorem valueOf_toDigits (n : Nat) : valueOf 10 (Nat.toDigits 10 n) = n := by
  have value : Nat.ofDigitChars 10 (Nat.toDigits 10 n) 0 = n :=
    Nat.ofDigitChars_toDigits (by decide) (by decide)
  refine Eq.trans (List.foldl_ext _ _ _ fun m c hc => ?_) value
  have digit := isDigit_of_mem_toDigits hc
  simp only [isDigit, Bool.and_eq_true, decide_eq_true_eq] at digit
  rw [Text.hexValue?, if_pos digit, Option.getD_some, Nat.mul_comm]
  rfl

/-- A port that is written in digits is read as it is, and is left out if it is the standard one. -/
theorem readPort_toDigits {n : Nat} {port : Option Nat}
    (h : readPort (':' :: Nat.toDigits 10 n) = .ok port) :
    port = if n = 80 then none else some n := by
  have some_ : (Nat.toDigits 10 n).isEmpty = false :=
    List.isEmpty_eq_false_iff.mpr Nat.toDigits_ne_nil
  rw [readPort, valueOf_toDigits, some_] at h
  split at h
  · cases h
    simp only [Bool.false_or, decide_eq_true_eq]
  · cases h

end Switchboard.Url
