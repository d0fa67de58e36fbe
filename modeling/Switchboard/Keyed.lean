/-!
# Lists with one entry for each key

A map from texts is the list of its entries in the order of their keys, each key once. Keys are
compared by code points, which is the order of their UTF-8 bytes. `insert` replaces the entry that
has the key already, so the last insertion under a key wins (`get?_insert`), and it keeps the order
(`sorted_insert`).
-/
namespace Switchboard.Keyed

variable {α : Type}

/-- The entries after `key` is set to `value`. -/
def insert (key : String) (value : α) : List (String × α) → List (String × α)
  | [] => [(key, value)]
  | (k, v) :: rest =>
    if key < k then (key, value) :: (k, v) :: rest
    else if key = k then (key, value) :: rest
    else (k, v) :: insert key value rest

def get? (key : String) : List (String × α) → Option α
  | [] => none
  | (k, v) :: rest => if key = k then some v else get? key rest

/-- The entries that result from setting those of a list one after the other. -/
def ofList (entries : List (String × α)) : List (String × α) :=
  entries.foldl (fun o e => insert e.1 e.2 o) []

/-- Keys in strictly increasing order. -/
def Sorted (entries : List (String × α)) : Prop := entries.Pairwise (·.1 < ·.1)

theorem get?_insert (key k : String) (value : α) (entries : List (String × α)) :
    get? k (insert key value entries) = if k = key then some value else get? k entries := by
  induction entries with
  | nil => simp [insert, get?]
  | cons e rest ih =>
    obtain ⟨l, v⟩ := e
    simp only [insert]
    split
    · simp [get?]
    · split
      · next h => subst h; simp only [get?]; split <;> rfl
      · simp only [get?, ih]; grind

theorem mem_of_get? {key : String} {value : α} {entries : List (String × α)}
    (h : get? key entries = some value) : (key, value) ∈ entries := by
  induction entries with
  | nil => cases h
  | cons e rest ih =>
    rw [get?] at h
    split at h
    · next same => cases h; exact same ▸ List.mem_cons_self
    · exact List.mem_cons_of_mem _ (ih h)

/-- A key is one of those there if something stands under it. -/
theorem isSome_get? {key : String} {entries : List (String × α)} :
    (get? key entries).isSome ↔ key ∈ entries.map Prod.fst := by
  induction entries with
  | nil => simp [get?]
  | cons e rest ih =>
    rw [get?, List.map_cons, List.mem_cons, ← ih]
    split
    · next same => simp [same]
    · next differ => simp [differ]

theorem get?_append (key : String) (front back : List (String × α)) :
    get? key (front ++ back) = (get? key front).or (get? key back) := by
  induction front with
  | nil => rfl
  | cons e rest ih =>
    rw [List.cons_append, get?, get?]
    split
    · rfl
    · exact ih

/-- What stands under a key does not depend on the order of the entries, if no key comes twice. -/
theorem get?_perm {es es' : List (String × α)} (same : es.Perm es')
    (distinct : (es.map Prod.fst).Nodup) (key : String) : get? key es = get? key es' := by
  induction same with
  | nil => rfl
  | cons e _ ih => rw [get?, get?, ih (List.nodup_cons.mp distinct).2]
  | swap e e' rest =>
    have differ : e'.1 ≠ e.1 := fun h =>
      (List.nodup_cons.mp distinct).1 (h ▸ List.mem_cons_self)
    simp only [get?]
    split
    · next first => rw [if_neg fun second => differ (first.symm.trans second)]
    · rfl
  | trans first _ ih ih' =>
    exact (ih distinct).trans (ih' ((first.map Prod.fst).nodup_iff.mp distinct))

theorem mem_insert {key : String} {value : α} {entries : List (String × α)} {e : String × α}
    (h : e ∈ insert key value entries) : e = (key, value) ∨ e ∈ entries := by
  induction entries with
  | nil => simpa [insert] using h
  | cons x rest ih => grind [insert]

/-- A new key is put somewhere among the others. -/
theorem insert_perm {key : String} (value : α) {entries : List (String × α)}
    (new : key ∉ entries.map Prod.fst) :
    (insert key value entries).Perm ((key, value) :: entries) := by
  induction entries with
  | nil => exact .refl _
  | cons e rest ih =>
    rw [List.map_cons, List.mem_cons, not_or] at new
    simp only [insert]
    split
    · exact .refl _
    · rw [if_neg new.1]
      exact ((ih new.2).cons e).trans (.swap _ _ _)

theorem sorted_insert (key : String) (value : α) {entries : List (String × α)}
    (h : Sorted entries) : Sorted (insert key value entries) := by
  induction entries with
  | nil => simp [Sorted, insert]
  | cons x rest ih =>
    obtain ⟨k, v⟩ := x
    obtain ⟨first, others⟩ := List.pairwise_cons.1 h
    simp only [insert]
    split
    · next lt =>
      refine List.pairwise_cons.2 ⟨fun e he => ?_, h⟩
      rcases List.mem_cons.1 he with rfl | he
      · exact lt
      · exact String.lt_trans lt (first e he)
    · split
      · next eq => exact List.pairwise_cons.2 ⟨fun e he => eq ▸ first e he, others⟩
      · next ge ne =>
        refine List.pairwise_cons.2 ⟨fun e he => ?_, ih others⟩
        rcases mem_insert he with rfl | he
        · exact String.not_le.1 fun le => ne (String.le_antisymm le (String.not_lt.1 ge))
        · exact first e he

/-- Keys in order are all different. -/
theorem Sorted.nodup {entries : List (String × α)} (h : Sorted entries) :
    (entries.map Prod.fst).Nodup := by
  refine List.pairwise_map.mpr (h.imp ?_)
  intro e e' lt same
  exact String.lt_irrefl e'.1 (same ▸ lt)

/-- An entry with a key above all others comes last. -/
theorem insert_of_forall_lt {key : String} (value : α) {entries : List (String × α)}
    (h : ∀ e ∈ entries, e.1 < key) : insert key value entries = entries ++ [(key, value)] := by
  induction entries with
  | nil => rfl
  | cons x rest ih =>
    have first := h x List.mem_cons_self
    simp only [insert]
    rw [if_neg (String.lt_asymm first), if_neg fun e => String.lt_irrefl _ (e ▸ first),
      ih fun e he => h e (List.mem_cons_of_mem _ he)]
    rfl

end Switchboard.Keyed
