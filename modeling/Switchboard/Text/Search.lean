/-!
# Occurrences

`occursIn p t` says whether `p` stands somewhere in `t`; `occursIn_iff` states it as a
decomposition of `t`, and `contains_iff` does so for texts.
-/
namespace Switchboard.Text

/-- Whether `p` is a contiguous part of a character list. -/
def occursIn (p : List Char) : List Char → Bool
  | [] => p.isEmpty
  | c :: cs => p.isPrefixOf (c :: cs) || occursIn p cs

/-- An occurrence is a decomposition into what stands before it, itself and what follows. -/
theorem occursIn_iff {p t : List Char} : occursIn p t = true ↔ ∃ x y, t = x ++ p ++ y := by
  induction t with
  | nil =>
    simp only [occursIn, List.isEmpty_iff]
    constructor
    · rintro rfl; exact ⟨[], [], rfl⟩
    · rintro ⟨x, y, h⟩
      have := congrArg List.length h
      simp only [List.length_nil, List.length_append] at this
      exact List.length_eq_zero_iff.1 (by omega)
  | cons c cs ih =>
    simp only [occursIn, Bool.or_eq_true, List.isPrefixOf_iff_prefix, ih]
    constructor
    · rintro (⟨y, h⟩ | ⟨x, y, h⟩)
      · exact ⟨[], y, by simp [h]⟩
      · exact ⟨c :: x, y, by simp [h]⟩
    · rintro ⟨x, y, h⟩
      cases x with
      | nil => exact .inl ⟨y, by simpa using h.symm⟩
      | cons d x =>
        simp only [List.cons_append, List.cons.injEq] at h
        exact .inr ⟨x, y, by simpa using h.2⟩

/-- Whether a pattern stands somewhere in a text. -/
def contains (text pattern : String) : Bool := occursIn pattern.toList text.toList

theorem contains_iff {text pattern : String} :
    contains text pattern = true ↔ ∃ x y, text = x ++ pattern ++ y := by
  simp only [contains, occursIn_iff, ← String.toList_inj, String.toList_append]
  constructor
  · rintro ⟨x, y, h⟩
    exact ⟨.ofList x, .ofList y, by simpa using h⟩
  · rintro ⟨x, y, h⟩
    exact ⟨x.toList, y.toList, h⟩

end Switchboard.Text
