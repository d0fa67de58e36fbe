import Switchboard.Text.Canonical

/-!
# What composition leaves alone

The characters before `<` are part of no pair, so they stand in the composed text just as they stood
in the text (`mem_compose`): taking apart keeps them, sorting marks loses nothing, and no mark is put
on them.
-/
namespace Switchboard.Text

variable {c : Char}

theorem takeApart_of_lt (h : c.toNat < 0x3C) (levels : Nat) : takeApart levels c = [c] := by
  cases levels with
  | zero => rfl
  | succ n => rw [takeApart, pair?, if_pos (by omega)]

theorem place_perm (d : Char) (ds : List Char) : (place d ds).Perm (d :: ds) := by
  induction ds with
  | nil => exact .refl _
  | cons e ds ih =>
    rw [place]
    split
    · exact (ih.cons e).trans (.swap d e ds)
    · exact .refl _

theorem sortMarks_perm (cs : List Char) : (sortMarks cs).Perm cs := by
  have placed : ∀ (cs ds : List Char), (cs.foldl (fun ds c => place c ds) ds).Perm (cs ++ ds) := by
    intro cs
    induction cs with
    | nil => exact fun ds => .refl _
    | cons c cs ih =>
      intro ds
      have next : (cs ++ place c ds).Perm (cs ++ c :: ds) := (place_perm c ds).append_left cs
      exact (ih _).trans (next.trans List.perm_middle)
  have all := placed cs []
  rw [List.append_nil] at all
  exact (List.reverse_perm _).trans all

/-- Where two characters become one, neither is before `<`. -/
theorem not_lt_of_paired? {a b d : Char} (h : paired? a b = some d) :
    ¬ a.toNat < 0x3C ∧ ¬ b.toNat < 0x3C := by
  rw [paired?] at h
  split at h
  · cases h
  · rename_i high
    simp only [Bool.or_eq_true, decide_eq_true_eq, not_or] at high
    omega

theorem mem_putTogether (h : c.toNat < 0x3C) (starter : Char) (marks cs : List Char)
    (mem : c = starter ∨ c ∈ marks ∨ c ∈ cs) : c ∈ putTogether starter marks cs := by
  -- what was read so far is the starter and its marks, and either may grow by the next character
  induction cs generalizing starter marks with
  | nil =>
    rw [putTogether, List.mem_cons, List.mem_reverse]
    exact mem.imp_right fun m => m.resolve_right List.not_mem_nil
  | cons d cs ih =>
    rw [List.mem_cons] at mem
    rw [putTogether]
    split
    · rename_i e joined
      split at joined
      · obtain ⟨notStarter, notMark⟩ := not_lt_of_paired? joined
        rcases mem with rfl | kept | rfl | later
        · exact absurd h notStarter
        · exact ih e marks (.inr (.inl kept))
        · exact absurd h notMark
        · exact ih e marks (.inr (.inr later))
      · cases joined
    · split
      · rw [List.mem_cons, List.mem_append, List.mem_reverse]
        rcases mem with first | kept | next | later
        · exact .inl first
        · exact .inr (.inl kept)
        · exact .inr (.inr (ih d [] (.inl next)))
        · exact .inr (.inr (ih d [] (.inr (.inr later))))
      · refine ih starter (d :: marks) (mem.imp_right fun m => ?_)
        rw [List.mem_cons]
        rcases m with kept | next | later
        · exact .inl (.inr kept)
        · exact .inl (.inl next)
        · exact .inr later

/-- A character before `<` stands in the composed text if it stood in the text. -/
theorem mem_compose {cs : List Char} (h : c.toNat < 0x3C) (mem : c ∈ cs) : c ∈ compose cs := by
  have apart : c ∈ sortMarks (cs.flatMap (takeApart 3)) := by
    refine (sortMarks_perm _).mem_iff.mpr (List.mem_flatMap.mpr ⟨c, mem, ?_⟩)
    rw [takeApart_of_lt h]
    exact List.mem_singleton_self c
  rw [compose]
  split
  · rename_i none
    rw [none] at apart
    cases apart
  · rename_i d ds some
    rw [some, List.mem_cons] at apart
    exact mem_putTogether h d [] ds (apart.imp_right .inr)

end Switchboard.Text
