import Switchboard.Proofs.Json.RoundTrip

/-!
# What is read is well formed

Every value that `parse` reads has the keys of its objects in order, each once, and at most
`maxDepth` levels (`parse_within`). Both are what it takes to print a value and read it again.
-/
namespace Switchboard.Json

/-! ## What the loops keep -/

theorem readMoreItems_all {α : Type} {P : α → Prop} {item : Reader α}
    (h : ∀ {text x rest}, item text = .ok (x, rest) → P x) {fuel : Nat} {read xs : List α}
    {text rest : List UInt8} (hr : ∀ x ∈ read, P x)
    (e : readMoreItems item fuel read text = .ok (xs, rest)) : ∀ x ∈ xs, P x := by
  induction fuel generalizing read text with
  | zero => cases e
  | succ fuel ih =>
    rw [readMoreItems] at e
    split at e
    · cases e
    · cases e
      exact fun x hx => hr x (List.mem_reverse.mp hx)
    · split at e
      · cases e
      · cases e
      · split at e
        · rename_i x r hx
          exact ih (List.forall_mem_cons.mpr ⟨h hx, hr⟩) e
        · cases e
    · cases e

theorem readItems_all {α : Type} {P : α → Prop} {item : Reader α}
    (h : ∀ {text x rest}, item text = .ok (x, rest) → P x) {fuel : Nat} {xs : List α}
    {text rest : List UInt8} (e : readItems item fuel text = .ok (xs, rest)) : ∀ x ∈ xs, P x := by
  rw [readItems] at e
  split at e
  · cases e
  · cases e
    exact List.forall_mem_nil P
  · cases hx : item (skipBlank text) with
    | error f => rw [hx] at e; cases e
    | ok p =>
      rw [hx] at e
      exact readMoreItems_all h (List.forall_mem_singleton.mpr (h hx)) e

theorem readMoreFields_keeps {σ : Type} {I : σ → Prop} {field : σ → String → Reader σ}
    (h : ∀ {s key text s' rest}, I s → field s key text = .ok (s', rest) → I s') {fuel : Nat}
    {s s' : σ} {text rest : List UInt8} (hs : I s)
    (e : readMoreFields field fuel s text = .ok (s', rest)) : I s' := by
  induction fuel generalizing s text with
  | zero => cases e
  | succ fuel ih =>
    rw [readMoreFields] at e
    split at e
    · cases e
    · cases e
      exact hs
    · split at e
      · cases e
      · split at e
        · split at e
          · rename_i next r hf
            exact ih (h hs hf) e
          · cases e
        · cases e
      · cases e
      · cases e
    · cases e

theorem readFields_keeps {σ : Type} {I : σ → Prop} {field : σ → String → Reader σ}
    (h : ∀ {s key text s' rest}, I s → field s key text = .ok (s', rest) → I s') {fuel : Nat}
    {s s' : σ} {text rest : List UInt8} (hs : I s)
    (e : readFields field fuel s text = .ok (s', rest)) : I s' := by
  rw [readFields] at e
  split at e
  · cases e
  · cases e
    exact hs
  · rename_i first _
    cases hk : readString fuel first with
    | error f => rw [hk] at e; cases e
    | ok p =>
      rw [hk] at e
      cases hf : field s p.1 p.2 with
      | error f => simp only [bind, Except.bind, hf] at e; cases e
      | ok q =>
        simp only [bind, Except.bind, hf] at e
        exact readMoreFields_keeps h (h hs hf) e
  · cases e

/-! ## Values -/

/-- A value with the keys of its objects in order and at most `levels` levels. -/
structure Value.Within (levels : Nat) (v : Value) : Prop where
  ordered : v.Ordered
  depth : v.depth ≤ levels

theorem within_array {levels : Nat} {vs : List Value} (h : ∀ v ∈ vs, v.Within levels) :
    (Value.array vs).Within (levels + 1) := by
  have items : Value.OrderedItems vs ∧ Value.depthItems vs ≤ levels := by
    induction vs with
    | nil => exact ⟨trivial, Nat.zero_le _⟩
    | cons v vs ih =>
      obtain ⟨first, others⟩ := List.forall_mem_cons.mp h
      obtain ⟨ordered, depth⟩ := ih others
      exact ⟨⟨first.ordered, ordered⟩, Nat.max_le.mpr ⟨first.depth, depth⟩⟩
  exact ⟨items.1, Nat.succ_le_succ items.2⟩

theorem within_object {levels : Nat} {es : List (String × Value)} (sorted : Keyed.Sorted es)
    (h : ∀ e ∈ es, e.2.Within levels) : (Value.object es).Within (levels + 1) := by
  have entries : Value.OrderedEntries es ∧ Value.depthEntries es ≤ levels := by
    clear sorted
    induction es with
    | nil => exact ⟨trivial, Nat.zero_le _⟩
    | cons e es ih =>
      obtain ⟨first, others⟩ := List.forall_mem_cons.mp h
      obtain ⟨ordered, depth⟩ := ih others
      exact ⟨⟨first.ordered, ordered⟩, Nat.max_le.mpr ⟨first.depth, depth⟩⟩
  exact ⟨⟨sorted, entries.1⟩, Nat.succ_le_succ entries.2⟩

/-- An entry that is read keeps the order of the entries. -/
theorem readEntry_keeps {levels : Nat} {value : Reader Value}
    (h : ∀ {text v rest}, value text = .ok (v, rest) → v.Within levels)
    {es es' : List (String × Value)} {key : String} {text rest : List UInt8}
    (hs : Keyed.Sorted es ∧ ∀ e ∈ es, e.2.Within levels)
    (e : readEntry value es key text = .ok (es', rest)) :
    Keyed.Sorted es' ∧ ∀ e ∈ es', e.2.Within levels := by
  unfold readEntry at e
  cases hc : readColon text with
  | error f => rw [hc] at e; cases e
  | ok r =>
    cases hv : value r with
    | error f => simp only [bind, Except.bind, hc, hv] at e; cases e
    | ok p =>
      simp only [bind, Except.bind, hc, hv] at e
      cases e
      refine ⟨Keyed.sorted_insert _ _ hs.1, fun x hx => ?_⟩
      rcases Keyed.mem_insert hx with rfl | hx
      · exact h hv
      · exact hs.2 x hx

/-- One level: what stands inside an array or an object is read with a level less. -/
theorem readValue_step {fuel levels : Nat}
    (inner : ∀ n, levels = n + 1 →
      ∀ {text v rest}, readValue fuel n text = .ok (v, rest) → v.Within n)
    {text rest : List UInt8} {v : Value} (e : readValue fuel levels text = .ok (v, rest)) :
    v.Within levels := by
  rw [readValue] at e
  split at e
  · cases e
  · rename_i r _
    cases hr : readWord [0x75, 0x6C, 0x6C] r <;> rw [hr] at e <;> cases e
    exact ⟨trivial, Nat.zero_le _⟩
  · rename_i r _
    cases hr : readWord [0x72, 0x75, 0x65] r <;> rw [hr] at e <;> cases e
    exact ⟨trivial, Nat.zero_le _⟩
  · rename_i r _
    cases hr : readWord [0x61, 0x6C, 0x73, 0x65] r <;> rw [hr] at e <;> cases e
    exact ⟨trivial, Nat.zero_le _⟩
  · rename_i r _
    cases hr : readString fuel r <;> rw [hr] at e <;> cases e
    exact ⟨trivial, Nat.zero_le _⟩
  · rename_i r _
    cases levels with
    | zero => cases e
    | succ n =>
      simp only at e
      cases hr : readItems (readValue fuel n) fuel r <;> rw [hr] at e <;> cases e
      exact within_array (readItems_all (inner n rfl) hr)
  · rename_i r _
    cases levels with
    | zero => cases e
    | succ n =>
      simp only at e
      cases hr : readFields (readEntry (readValue fuel n)) fuel [] r <;> rw [hr] at e <;> cases e
      have entries := readFields_keeps (readEntry_keeps (inner n rfl))
        ⟨List.Pairwise.nil, List.forall_mem_nil _⟩ hr
      exact within_object entries.1 entries.2
  · rename_i b r _ _ _ _ _ _ _
    split at e
    · cases hr : readNumber (b :: r) <;> rw [hr] at e <;> cases e
      exact ⟨trivial, Nat.zero_le _⟩
    · cases e

theorem readValue_within {fuel : Nat} (levels : Nat) {text rest : List UInt8} {v : Value}
    (e : readValue fuel levels text = .ok (v, rest)) : v.Within levels := by
  induction levels generalizing text v rest with
  | zero =>
    refine readValue_step (fun n h => ?_) e
    cases h
  | succ levels ih =>
    refine readValue_step (fun n h => ?_) e
    cases h
    exact ih

/-- A value that is read from a text has its keys in order and not too many levels. -/
theorem parse_within {text : List UInt8} {v : Value} (h : parse text = .ok v) :
    v.Within maxDepth := by
  obtain ⟨rest, read, -⟩ := readAll_eq_ok.mp h
  exact readValue_within maxDepth read

end Switchboard.Json
