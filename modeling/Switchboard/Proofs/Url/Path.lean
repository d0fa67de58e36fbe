import Switchboard.Proofs.Url.Percent
import Switchboard.Url.Parser

/-!
# Segments of paths

A text that is written as a segment stands for a place only if it is `.` or `..` itself
(`isHere_encode`, `isAbove_encode`): a percent sign in it is encoded, so no other spelling of a
place comes up. A path that is read has at least one segment, and no segment has a slash
(`readPath_ne_nil`, `slashless_readPath`). It ends with its last piece, if a colon stands in that
(`getLast_resolve`), and then is not the root (`readPath_ne_root`).
-/
namespace Switchboard.Url

open Percent (segment encode encode_inj decode decode_encode)

/-! ## Segments that stand for a place -/

/-- A text that is written as one of several is a text of which one of them is read. -/
theorem eq_of_encode_mem {names : List String} {place cs : List Char}
    (read : ∀ s ∈ names, decode (Utf8.encode s.toList) = Utf8.encode place)
    (h : (names.any fun s => s.toList == encode segment cs) = true) : cs = place := by
  obtain ⟨s, hs, e⟩ := List.any_eq_true.mp h
  rw [← Utf8.encode_inj, ← read s hs, eq_of_beq e, decode_encode (by decide)]

theorem isAbove_encode {cs : List Char} : isAbove (encode segment cs) = true ↔ cs = ['.', '.'] := by
  refine ⟨eq_of_encode_mem (by decide), ?_⟩
  rintro rfl
  decide

theorem isHere_encode {cs : List Char} : isHere (encode segment cs) = true ↔ cs = ['.'] := by
  refine ⟨eq_of_encode_mem (by decide), ?_⟩
  rintro rfl
  decide

/-- A text that stands for no place becomes a segment. -/
theorem addPiece_of_plain (path : Path) {cs : List Char} (here : cs ≠ ['.'])
    (above : cs ≠ ['.', '.']) :
    addPiece path (encode segment cs) true = path ++ [encode segment cs] := by
  rw [addPiece, if_neg (isAbove_encode.not.mpr above), if_neg (isHere_encode.not.mpr here)]

theorem isDrive_eq_true {cs : List Char} (h : isDrive cs = true) :
    ∃ letter mark, cs = [letter, mark] ∧ letter.isAlpha = true ∧ (mark = ':' ∨ mark = '|') := by
  unfold isDrive at h
  split at h
  · rename_i letter mark
    simp only [Bool.and_eq_true, Bool.or_eq_true, beq_iff_eq] at h
    exact ⟨letter, mark, rfl, h⟩
  · cases h

theorem encodable_of_isAlpha {c : Char} (h : c.isAlpha = true) :
    c.toNat < 0x80 ∧ segment c = false := by
  have letters : ∀ n < 0x80, (Char.ofNat n).isAlpha = true → segment (Char.ofNat n) = false := by
    decide
  have ascii : c.toNat < 0x80 := by
    rcases Bool.or_eq_true_iff.mp h with upper | lower
    · have high : c.val ≤ 'Z'.val := (of_decide_eq_true upper).2
      exact Nat.lt_of_le_of_lt (UInt32.le_iff_toNat_le.mp high) (by decide)
    · have high : c.val ≤ 'z'.val := of_decide_eq_true (Bool.and_eq_true_iff.mp lower).2
      exact Nat.lt_of_le_of_lt (UInt32.le_iff_toNat_le.mp high) (by decide)
  exact ⟨ascii, by simpa using letters c.toNat ascii (by simpa using h)⟩

/-- Whether a segment names a drive can be seen before it is encoded. -/
theorem isDrive_encode (cs : List Char) : isDrive (encode segment cs) = isDrive cs := by
  rw [Bool.eq_iff_iff]
  constructor
  · intro h
    have none : '%' ∉ encode segment cs := by
      obtain ⟨letter, mark, e, alpha, hm⟩ := isDrive_eq_true h
      rw [e]
      simp only [List.mem_cons, List.not_mem_nil, or_false, not_or]
      refine ⟨?_, ?_⟩
      · rintro rfl; exact absurd alpha (by decide)
      · rcases hm with rfl | rfl <;> decide
    rwa [Percent.encode_of_not_mem (by decide) none] at h
  · intro h
    obtain ⟨letter, mark, rfl, alpha, hm⟩ := isDrive_eq_true h
    rwa [Percent.encode_of_plain]
    simp only [List.forall_mem_cons]
    refine ⟨encodable_of_isAlpha alpha, ?_, List.forall_mem_nil _⟩
    rcases hm with rfl | rfl <;> decide

/-! ## Paths that are read -/

/-- No segment has a slash. -/
def Slashless (path : Path) : Prop := ∀ piece ∈ path, '/' ∉ piece

theorem slash_not_mem_encode {cs : List Char} (set : Percent.EncodeSet) (h : '/' ∉ cs) :
    '/' ∉ encode set cs :=
  fun hc => h (Percent.mem_of_mem_encode hc (by decide) (by decide))

/-- The three things that a piece can do to a path. -/
theorem addPiece_cases (path : Path) (piece : List Char) (isLast : Bool) :
    (∃ entered, (∀ q ∈ entered, q = []) ∧ (isLast = true → entered ≠ []) ∧
      (addPiece path piece isLast = shorten path ++ entered ∨
        addPiece path piece isLast = path ++ entered)) ∨
      addPiece path piece isLast = path ++ [piece] := by
  have entered : ∃ entered : Path, (if isLast then [[]] else []) = entered ∧
      (∀ q ∈ entered, q = []) ∧ (isLast = true → entered ≠ []) := by
    cases isLast <;> exact ⟨_, rfl, by simp, by simp⟩
  obtain ⟨entered, e, blank, last⟩ := entered
  simp only [addPiece, e]
  by_cases above : isAbove piece = true
  · exact .inl ⟨entered, blank, last, .inl (if_pos above)⟩
  · rw [if_neg above]
    by_cases here : isHere piece = true
    · exact .inl ⟨entered, blank, last, .inr (if_pos here)⟩
    · exact .inr (if_neg here)

theorem slashless_append {path more : Path} (hp : Slashless path) (hm : Slashless more) :
    Slashless (path ++ more) :=
  fun q hq => (List.mem_append.mp hq).elim (hp q) (hm q)

theorem slashless_shorten {path : Path} (hp : Slashless path) : Slashless (shorten path) := by
  unfold shorten
  split
  · exact hp
  · exact fun q hq => hp q ((List.dropLast_sublist path).subset hq)

theorem slashless_addPiece {path : Path} {piece : List Char} (hp : Slashless path)
    (h : '/' ∉ piece) (isLast : Bool) : Slashless (addPiece path piece isLast) := by
  rcases addPiece_cases path piece isLast with ⟨entered, blank, -, e⟩ | e
  · have inner : Slashless entered := fun q hq => by rw [blank q hq]; exact List.not_mem_nil
    rcases e with e | e
    · rw [e]; exact slashless_append (slashless_shorten hp) inner
    · rw [e]; exact slashless_append hp inner
  · rw [e]; exact slashless_append hp fun q hq => List.mem_singleton.mp hq ▸ h

theorem slashless_resolve {path : Path} {pieces : List (List Char)} (hp : Slashless path)
    (h : ∀ piece ∈ pieces, '/' ∉ piece) : Slashless (resolve path pieces) := by
  fun_induction resolve path pieces with
  | case1 => exact hp
  | case2 path piece =>
    exact slashless_addPiece hp (slash_not_mem_encode _ (h piece List.mem_cons_self)) true
  | case3 path piece pieces _ ih =>
    refine ih ?_ fun q hq => h q (List.mem_cons_of_mem _ hq)
    exact slashless_addPiece hp (slash_not_mem_encode _ (h piece List.mem_cons_self)) false

theorem addPiece_ne_nil (path : Path) (piece : List Char) : addPiece path piece true ≠ [] := by
  rcases addPiece_cases path piece true with ⟨entered, -, last, e | e⟩ | e <;> rw [e] <;>
    apply List.append_ne_nil_of_right_ne_nil
  · exact last rfl
  · exact last rfl
  · exact List.cons_ne_nil _ _

theorem resolve_ne_nil {pieces : List (List Char)} (h : pieces ≠ []) (path : Path) :
    resolve path pieces ≠ [] := by
  fun_induction resolve path pieces with
  | case1 => exact absurd rfl h
  | case2 => exact addPiece_ne_nil _ _
  | case3 path piece pieces more ih => exact ih more

theorem readPath_ne_nil (cs : List Char) : readPath cs ≠ [] :=
  resolve_ne_nil (Text.split_ne_nil _ _) _

theorem slashless_readPath (cs : List Char) : Slashless (readPath cs) := by
  refine slashless_resolve (fun q hq => nomatch hq) fun piece hp hc => ?_
  exact absurd (Text.not_of_mem_split hp hc) (by decide)

/-- A piece with a colon stands for no place. -/
theorem no_place_of_colon {piece : List Char} (h : ':' ∈ piece) :
    isAbove piece = false ∧ isHere piece = false := by
  have spelled {names : List String} (none : ∀ s ∈ names, ':' ∉ s.toList) :
      (names.any fun s => s.toList == piece) = false := by
    refine List.any_eq_false.mpr fun s hs same => none s hs ?_
    rwa [eq_of_beq same]
  exact ⟨spelled (by decide), spelled (by decide)⟩

/-- The last piece of a path that is read is its last segment, if it stands for no place. -/
theorem getLast_resolve {piece : List Char} (h : ':' ∈ piece) (path : Path)
    (pieces : List (List Char)) :
    (resolve path (pieces ++ [piece])).getLast? = some (Percent.encode Percent.path piece) := by
  have colon : ':' ∈ Percent.encode Percent.path piece :=
    Percent.mem_encode_of_mem h (by decide) (by decide)
  induction pieces generalizing path with
  | nil =>
    obtain ⟨above, here⟩ := no_place_of_colon colon
    rw [List.nil_append, resolve, addPiece, above, here]
    exact List.getLast?_concat
  | cons p pieces ih =>
    rw [List.cons_append, resolve]
    · exact ih _
    · exact List.append_ne_nil_of_right_ne_nil _ (List.cons_ne_nil _ _)

/-- A path is not the root if a colon stands behind its last slash. -/
theorem readPath_ne_root {d : Char} (slash : isSlash d = true) (rest : List Char) {ds : List Char}
    (none : ∀ c ∈ ':' :: ds, isSlash c = false) : readPath (d :: (rest ++ ':' :: ds)) ≠ [[]] := by
  intro root
  rw [readPath] at root
  simp only [slash, if_true] at root
  obtain ⟨pieces, last, split⟩ := Text.split_append rest none
  have colon : ':' ∈ last ++ ':' :: ds := List.mem_append_right _ List.mem_cons_self
  have ended := getLast_resolve colon [] pieces
  rw [← split, root] at ended
  have inside : ':' ∈ Percent.encode Percent.path (last ++ ':' :: ds) :=
    Percent.mem_encode_of_mem colon (by decide) (by decide)
  rw [← Option.some.inj ended] at inside
  exact List.not_mem_nil inside

end Switchboard.Url
