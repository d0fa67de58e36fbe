/-!
# Cutting texts into pieces

`split p` cuts a list at every element that satisfies `p`. There is always one piece more than
there are cuts.
-/
namespace Switchboard.Text

variable {α : Type}

/-- The pieces of a list between the elements that satisfy `p`. -/
def split (p : α → Bool) : List α → List (List α)
  | [] => [[]]
  | a :: as =>
    if p a then [] :: split p as
    else
      match split p as with
      | [] => [[a]]
      | piece :: pieces => (a :: piece) :: pieces

theorem split_ne_nil (p : α → Bool) (as : List α) : split p as ≠ [] := by
  induction as with
  | nil => simp [split]
  | cons a as ih =>
    simp only [split]
    split
    · simp
    · split <;> simp

/-- No element of a piece is one at which the list is cut. -/
theorem not_of_mem_split {p : α → Bool} {as piece : List α} {a : α} (h : piece ∈ split p as)
    (ha : a ∈ piece) : p a = false := by
  induction as generalizing piece with
  | nil => rw [List.mem_singleton.mp h] at ha; cases ha
  | cons b as ih =>
    simp only [split] at h
    split at h
    · rcases List.mem_cons.mp h with rfl | h
      · cases ha
      · exact ih h ha
    · rename_i hb
      split at h
      · rw [List.mem_singleton.mp h, List.mem_singleton] at ha
        rw [ha]; exact eq_false_of_ne_true hb
      · rename_i first rest e
        rcases List.mem_cons.mp h with rfl | h
        · rcases List.mem_cons.mp ha with rfl | ha
          · exact eq_false_of_ne_true hb
          · exact ih (e ▸ List.mem_cons_self) ha
        · exact ih (e ▸ List.mem_cons_of_mem _ h) ha

/-- What stands behind the last cut ends the last piece. -/
theorem split_append {p : α → Bool} (as : List α) {bs : List α} (h : ∀ b ∈ bs, p b = false) :
    ∃ pieces last, split p (as ++ bs) = pieces ++ [last ++ bs] := by
  induction as with
  | nil =>
    refine ⟨[], [], ?_⟩
    induction bs with
    | nil => rfl
    | cons b bs ih =>
      have rest := ih fun c hc => h c (List.mem_cons_of_mem _ hc)
      simp only [List.nil_append] at rest ⊢
      simp [split, h b List.mem_cons_self, rest]
  | cons a as ih =>
    obtain ⟨pieces, last, e⟩ := ih
    rw [List.cons_append, split, e]
    by_cases ha : p a = true
    · exact ⟨[] :: pieces, last, by simp [ha]⟩
    · cases pieces with
      | nil => exact ⟨[], a :: last, by simp [ha]⟩
      | cons piece pieces => exact ⟨(a :: piece) :: pieces, last, by simp [ha]⟩

/-- The first piece goes up to the first cut. -/
theorem split_append_cut {p : α → Bool} {as : List α} (free : ∀ a ∈ as, p a = false) {c : α}
    (hc : p c = true) (rest : List α) : split p (as ++ c :: rest) = as :: split p rest := by
  induction as with
  | nil => simp [split, hc]
  | cons a as ih =>
    have rest := ih fun b hb => free b (List.mem_cons_of_mem _ hb)
    simp [split, free a List.mem_cons_self, rest]

/-- Behind pieces that are each ended by a cut stands an empty one. -/
theorem split_flatMap {p : α → Bool} {c : α} (hc : p c = true) {pieces : List (List α)}
    (free : ∀ piece ∈ pieces, ∀ a ∈ piece, p a = false) :
    split p (pieces.flatMap fun piece => piece ++ [c]) = pieces ++ [[]] := by
  induction pieces with
  | nil => rfl
  | cons piece pieces ih =>
    rw [List.flatMap_cons, List.append_assoc, List.singleton_append,
      split_append_cut (free piece List.mem_cons_self) hc,
      ih fun q hq => free q (List.mem_cons_of_mem _ hq), List.cons_append]

/-- The part of a list before the first element that satisfies `p`, and the part from there on. -/
def cut (p : α → Bool) (as : List α) : List α × List α := as.span (fun a => !p a)

end Switchboard.Text
