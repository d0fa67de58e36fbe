import Mathlib.Data.Finset.Card
import Mathlib.Data.List.Sort
import Switchboard.Keyed

/-!
# What a keyed list remembers of its history

A state that is changed again and again has the entries that its changes have set (`entries_foldl`).
Set one after the other they leave the last value of each key (`last?`), whatever else was set
before, between and behind: `get?_ofList`. The list is one way only to write that down:
`Sorted.eq_of_get?`, so histories with the same last values leave the same list (`ofList_congr`).
-/
namespace Switchboard.Keyed

variable {α : Type} {key : String} {es es' : List (String × α)}

/-- The value that a key has been given last. -/
def last? (key : String) (es : List (String × α)) : Option α :=
  ((es.filter fun e => e.1 = key).getLast?).map Prod.snd

theorem last?_concat (key : String) (es : List (String × α)) (e : String × α) :
    last? key (es ++ [e]) = if e.1 = key then some e.2 else last? key es := by
  rw [last?, List.filter_append]
  by_cases h : e.1 = key <;> simp [h, last?]

/-- Of values under their names the last one of a name is left. -/
theorem last?_map {β : Type} (name : β → String) (value : β → α) (xs : List β) :
    last? key (xs.map fun x => (name x, value x)) =
      ((xs.filter fun x => name x = key).getLast?).map value := by
  rw [last?, List.filter_map, List.getLast?_map, Option.map_map]
  rfl

theorem ofList_concat (es : List (String × α)) (e : String × α) :
    ofList (es ++ [e]) = insert e.1 e.2 (ofList es) := by
  rw [ofList, List.foldl_append]
  rfl

/-- The entries of a state are those that its changes set, if a change sets one entry of them or
leaves them alone. -/
theorem entries_foldl {σ χ : Type} (entries : σ → List (String × α)) (step : σ → χ → σ)
    (write? : χ → Option (String × α))
    (h : ∀ s c, entries (step s c) = (write? c).elim (entries s) fun e =>
      insert e.1 e.2 (entries s)) {s : σ} (empty : entries s = []) (cs : List χ) :
    entries (cs.foldl step s) = ofList (cs.filterMap write?) := by
  induction cs using List.reverseRecOn with
  | nil => exact empty
  | append_singleton cs c ih =>
    rw [List.foldl_append, List.filterMap_append]
    change entries (step (cs.foldl step s) c) = _
    rw [h, ih]
    cases set : write? c with
    | none => simp [set]
    | some e => simp [set, ofList_concat]

theorem get?_ofList (key : String) (es : List (String × α)) :
    get? key (ofList es) = last? key es := by
  -- from the end, since the last entry is the one that replaces the others
  induction es using List.reverseRecOn with
  | nil => rfl
  | append_singleton es e ih =>
    rw [ofList_concat, get?_insert, last?_concat, ih]
    simp only [eq_comm]

theorem sorted_ofList (es : List (String × α)) : Sorted (ofList es) := by
  induction es using List.reverseRecOn with
  | nil => exact List.Pairwise.nil
  | append_singleton es e ih =>
    rw [ofList_concat]
    exact sorted_insert _ _ ih

/-- What is left has been set. -/
theorem mem_of_mem_ofList {e : String × α} (h : e ∈ ofList es) : e ∈ es := by
  induction es using List.reverseRecOn with
  | nil => exact h
  | append_singleton es x ih =>
    rw [ofList_concat] at h
    rcases mem_insert h with rfl | h
    · exact List.mem_append_right _ (List.mem_singleton_self _)
    · exact List.mem_append_left _ (ih h)

theorem isSome_last? : (last? key es).isSome ↔ key ∈ es.map Prod.fst := by
  simp [last?]

/-- Each key that was set is there once. -/
theorem length_ofList (es : List (String × α)) :
    (ofList es).length = (es.map Prod.fst).toFinset.card := by
  have keys : ((ofList es).map Prod.fst).toFinset = (es.map Prod.fst).toFinset := by
    ext key
    rw [List.mem_toFinset, List.mem_toFinset, ← isSome_get?, get?_ofList, isSome_last?]
  calc (ofList es).length
      = ((ofList es).map Prod.fst).length := (List.length_map _).symm
    _ = ((ofList es).map Prod.fst).toFinset.card :=
        (List.toFinset_card_of_nodup (sorted_ofList es).nodup).symm
    _ = (es.map Prod.fst).toFinset.card := congrArg Finset.card keys

/-! ## Entries in order -/

theorem Sorted.not_mem_of_lt {k : String} {v : α} (h : Sorted ((k, v) :: es)) :
    ∀ e ∈ es, e.1 ≠ k := by
  intro e he same
  have lt := List.rel_of_pairwise_cons h he
  exact String.lt_irrefl k (same ▸ lt)

/-- A key has one entry, or none. -/
theorem Sorted.filter (h : Sorted es) (key : String) :
    es.filter (fun e => e.1 = key) = (get? key es).toList.map (key, ·) := by
  induction es with
  | nil => rfl
  | cons e rest ih =>
    obtain ⟨k, v⟩ := e
    by_cases here : key = k
    · subst here
      have others : rest.filter (fun e => e.1 = key) = [] :=
        List.filter_eq_nil_iff.mpr fun e he => by simpa using h.not_mem_of_lt e he
      simp [get?, others]
    · have first : ¬ k = key := fun same => here same.symm
      simp [get?, here, first, ih h.of_cons]

theorem Sorted.mem_iff_get? (h : Sorted es) {value : α} :
    (key, value) ∈ es ↔ get? key es = some value := by
  have listed := congrArg ((key, value) ∈ ·) (h.filter key)
  simpa using listed

/-- Entries in order are determined by what stands under each key. -/
theorem Sorted.eq_of_get? (h : Sorted es) (h' : Sorted es')
    (same : ∀ key, get? key es = get? key es') : es = es' := by
  have irrefl : Std.Irrefl fun a b : String × α => a.1 < b.1 := ⟨fun a => String.lt_irrefl a.1⟩
  have antisymm : Std.Antisymm fun a b : String × α => a.1 < b.1 :=
    ⟨fun a b lt gt => absurd gt (String.lt_asymm lt)⟩
  refine List.Pairwise.eq_of_mem_iff h h' fun e => ?_
  rw [h.mem_iff_get?, h'.mem_iff_get?, same]

theorem ofList_congr (same : ∀ key, last? key es = last? key es') : ofList es = ofList es' := by
  refine (sorted_ofList es).eq_of_get? (sorted_ofList es') fun key => ?_
  rw [get?_ofList, get?_ofList, same]

end Switchboard.Keyed
