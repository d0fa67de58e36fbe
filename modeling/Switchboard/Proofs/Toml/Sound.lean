import Switchboard.Proofs.Toml.Repeated

/-!
# What a document can hold

Every integer in a document that is read has 64 bits with a sign, and every table has its entries in
the order of their keys, each key once, whatever their order in the text.

* `Value.IsSound`, `Node.IsSound`: this of values, and of tables under construction;
* `SoundEntries.update`: a change at the end of a path keeps it if it does so of the table there;
* `givesSound_readValue`: a value that is read has it, by its levels;
* `isSound_of_parse`: so has a document.
-/
namespace Switchboard.Toml

inductive Value.IsSound : Value → Prop
  | string (cs : List Char) : IsSound (.string cs)
  | integer {n : Int} (low : -0x8000000000000000 ≤ n) (high : n < 0x8000000000000000) :
      IsSound (.integer n)
  | real (x : Real) : IsSound (.real x)
  | bool (b : Bool) : IsSound (.bool b)
  | moment : IsSound .moment
  | array {items : List Value} (all : ∀ v ∈ items, v.IsSound) : IsSound (.array items)
  | table {entries : List (String × Value)} (sorted : Keyed.Sorted entries)
      (all : ∀ e ∈ entries, e.2.IsSound) : IsSound (.table entries)

inductive Node.IsSound : Node → Prop
  | value {v : Value} (h : v.IsSound) : IsSound (.value v)
  | table {origin : Origin} {es : Entries} (sorted : Keyed.Sorted es)
      (all : ∀ e ∈ es, e.2.IsSound) : IsSound (.table origin es)
  | tables {earlier : List Value} {last : Entries} (before : ∀ v ∈ earlier, v.IsSound)
      (sorted : Keyed.Sorted last) (all : ∀ e ∈ last, e.2.IsSound) :
      IsSound (.tables earlier last)

/-- The entries of a table under construction. -/
structure SoundEntries (es : Entries) : Prop where
  sorted : Keyed.Sorted es
  all : ∀ e ∈ es, e.2.IsSound

/-! ## Tables under construction -/

theorem soundEntries_nil : SoundEntries [] := ⟨List.Pairwise.nil, List.forall_mem_nil _⟩

theorem SoundEntries.insert {es : Entries} (h : SoundEntries es) (key : String) {n : Node}
    (hn : n.IsSound) : SoundEntries (Keyed.insert key n es) := by
  refine ⟨Keyed.sorted_insert _ _ h.sorted, fun e he => ?_⟩
  rcases Keyed.mem_insert he with rfl | he
  · exact hn
  · exact h.all e he

theorem SoundEntries.get {es : Entries} (h : SoundEntries es) {key : String} {n : Node}
    (hn : Keyed.get? key es = some n) : n.IsSound :=
  h.all _ (Keyed.mem_of_get? hn)

theorem closeAll_eq_map (es : Entries) : closeAll es = es.map fun e => (e.1, e.2.close) := by
  induction es with
  | nil => rfl
  | cons e es ih => rw [closeAll, ih]; rfl

theorem isSound_closeAll {es : Entries} (sorted : Keyed.Sorted es)
    (all : ∀ e ∈ es, e.2.close.IsSound) : (Value.table (closeAll es)).IsSound := by
  rw [closeAll_eq_map]
  refine .table (List.pairwise_map.mpr sorted) fun e he => ?_
  obtain ⟨entry, inside, rfl⟩ := List.mem_map.mp he
  exact all entry inside

theorem Node.IsSound.close {n : Node} (h : n.IsSound) : n.close.IsSound := by
  induction h with
  | value h => exact h
  | table sorted _ ih => exact isSound_closeAll sorted ih
  | tables before sorted _ ih =>
    refine .array fun v hv => ?_
    rcases List.mem_append.mp hv with hv | hv
    · exact before v hv
    · rw [List.mem_singleton.mp hv]
      exact isSound_closeAll sorted ih

theorem SoundEntries.close {es : Entries} (h : SoundEntries es) :
    (Value.table (closeAll es)).IsSound :=
  isSound_closeAll h.sorted fun e he => (h.all e he).close

/-- What a change keeps at the end of a path is kept in the whole table. -/
theorem SoundEntries.update {dotted : Bool} {change : Origin → Entries → Option Entries}
    (keeps : ∀ {origin es es'}, SoundEntries es → change origin es = some es' → SoundEntries es')
    {path : List String} {origin : Origin} {es es' : Entries} (h : SoundEntries es)
    (e : update dotted change path origin es = some es') : SoundEntries es' := by
  induction path generalizing origin es es' with
  | nil => exact keeps h e
  | cons k ks ih =>
    rw [Toml.update] at e
    split at e
    · simp only [Option.bind_eq_bind, Option.bind_eq_some_iff, Option.pure_def,
        Option.some_inj] at e
      obtain ⟨sub, inner, rfl⟩ := e
      have sound := ih soundEntries_nil inner
      exact h.insert k (.table sound.sorted sound.all)
    · rename_i found
      split at e
      · cases e
      · simp only [Option.bind_eq_bind, Option.bind_eq_some_iff, Option.pure_def,
          Option.some_inj] at e
        obtain ⟨sub, inner, rfl⟩ := e
        cases h.get found with
        | table sorted all =>
          have sound := ih ⟨sorted, all⟩ inner
          exact h.insert k (.table sound.sorted sound.all)
    · rename_i found
      simp only [Option.bind_eq_bind, Option.bind_eq_some_iff, Option.pure_def,
        Option.some_inj] at e
      obtain ⟨last, inner, rfl⟩ := e
      cases h.get found with
      | tables before sorted all =>
        have sound := ih ⟨sorted, all⟩ inner
        exact h.insert k (.tables before sound.sorted sound.all)
    · cases e

theorem SoundEntries.addValue {path : List String} {name : String} {v : Value} {es es' : Entries}
    (h : SoundEntries es) (hv : v.IsSound) (e : addValue path name v es = some es') :
    SoundEntries es' := by
  refine h.update (fun {origin es es'} h e => ?_) e
  split at e
  · split at e
    · cases e
      exact h.insert name (.value hv)
    · cases e
  · cases e

theorem SoundEntries.addTable {path : List String} {name : String} {es es' : Entries}
    (h : SoundEntries es) (e : addTable path name es = some es') : SoundEntries es' := by
  refine h.update (fun {origin es es'} h e => ?_) e
  split at e
  · cases e
    exact h.insert name (.table List.Pairwise.nil (List.forall_mem_nil _))
  · rename_i found
    cases e
    cases h.get found with
    | table sorted all => exact h.insert name (.table sorted all)
  · cases e

theorem SoundEntries.addToTables {path : List String} {name : String} {es es' : Entries}
    (h : SoundEntries es) (e : addToTables path name es = some es') : SoundEntries es' := by
  refine h.update (fun {origin es es'} h e => ?_) e
  split at e
  · cases e
    exact h.insert name (.tables (List.forall_mem_nil _) List.Pairwise.nil (List.forall_mem_nil _))
  · rename_i found
    cases e
    cases h.get found with
    | tables before sorted all =>
      refine h.insert name (.tables (fun v hv => ?_) List.Pairwise.nil (List.forall_mem_nil _))
      rcases List.mem_append.mp hv with hv | hv
      · exact before v hv
      · rw [List.mem_singleton.mp hv]
        exact SoundEntries.close ⟨sorted, all⟩
  · cases e

/-! ## Values -/

theorem isSound_of_integer? {n : Int} {v : Value} (h : integer? n = some v) : v.IsSound := by
  unfold integer? at h
  split at h
  · rename_i range
    simp only [Bool.and_eq_true, decide_eq_true_eq] at range
    cases h
    exact .integer range.1 range.2
  · cases h

theorem isSound_of_readBased {base : Nat} {text rest : List Char} {v : Value}
    (h : readBased base text = some (v, rest)) : v.IsSound := by
  simp only [readBased, Option.bind_eq_bind, Option.bind_eq_some_iff, Option.pure_def,
    Option.some_inj] at h
  obtain ⟨⟨ds, r⟩, -, w, hw, e⟩ := h
  cases e
  exact isSound_of_integer? hw

theorem isSound_of_readDecimal {negative : Bool} {text rest : List Char} {v : Value}
    (h : readDecimal negative text = some (v, rest)) : v.IsSound := by
  simp only [readDecimal, Option.bind_eq_bind, Option.bind_eq_some_iff] at h
  obtain ⟨⟨whole, _⟩, -, ⟨fraction, _⟩, -, ⟨exponent, _⟩, -, h⟩ := h
  split at h
  · simp only [Option.bind_eq_some_iff, Option.pure_def, Option.some_inj] at h
    obtain ⟨w, hw, e⟩ := h
    cases e
    exact isSound_of_integer? hw
  · split at h
    · cases h
    · cases h
      exact .real _

theorem isSound_of_readNumber {text rest : List Char} {v : Value}
    (h : readNumber text = some (v, rest)) : v.IsSound := by
  unfold readNumber at h
  split at h
  · exact isSound_of_readBased h
  · exact isSound_of_readBased h
  · exact isSound_of_readBased h
  · dsimp only at h
    split at h
    · cases h
      exact .real _
    · cases h
      exact .real _
    · exact isSound_of_readDecimal h

theorem isSound_of_readDigital {text rest : List Char} {v : Value}
    (h : readDigital text = some (v, rest)) : v.IsSound := by
  unfold readDigital at h
  split at h
  · obtain ⟨r, -, e⟩ := Option.map_eq_some_iff.mp h
    cases e
    exact .moment
  · exact isSound_of_readNumber h

/-- A reader gives nothing but sound values. -/
def GivesSound (item : Reader Value) : Prop :=
  ∀ {text v rest}, item text = some (v, rest) → v.IsSound

theorem isSound_of_readItems {item : Reader Value} (sound : GivesSound item) {fuel : Nat}
    {text rest : List Char} {vs : List Value} (h : readItems item fuel text = some (vs, rest)) :
    ∀ v ∈ vs, v.IsSound := by
  induction fuel generalizing text vs rest with
  | zero => cases h
  | succ fuel ih =>
    rw [readItems] at h
    split at h
    · cases h
      exact List.forall_mem_nil _
    · simp only [Option.bind_eq_bind, Option.bind_eq_some_iff, Option.pure_def] at h
      obtain ⟨⟨v, r⟩, first, h⟩ := h
      split at h
      · simp only [Option.bind_eq_some_iff, Option.some_inj] at h
        obtain ⟨⟨more, _⟩, others, e⟩ := h
        cases e
        exact List.forall_mem_cons.mpr ⟨sound first, ih others⟩
      · cases h
        exact List.forall_mem_singleton.mpr (sound first)
      · cases h

theorem isSound_of_readPair {item : Reader Value} (sound : GivesSound item) {fuel : Nat}
    {text rest : List Char} {key : List String × String} {v : Value}
    (h : readPair item fuel text = some ((key, v), rest)) : v.IsSound := by
  simp only [readPair, Option.bind_eq_bind, Option.bind_eq_some_iff, Option.pure_def,
    Option.some_inj] at h
  obtain ⟨_, -, _, -, ⟨w, _⟩, read, e⟩ := h
  cases e
  exact sound read

theorem SoundEntries.readMorePairs {item : Reader Value} (sound : GivesSound item) {fuel : Nat}
    {es es' : Entries} {text rest : List Char} (hs : SoundEntries es)
    (h : readMorePairs item fuel es text = some (es', rest)) : SoundEntries es' := by
  induction fuel generalizing es text with
  | zero => cases h
  | succ fuel ih =>
    rw [Toml.readMorePairs] at h
    simp only [Option.bind_eq_bind, Option.bind_eq_some_iff, Option.pure_def] at h
    obtain ⟨⟨⟨⟨path, name⟩, v⟩, r⟩, read, next, added, h⟩ := h
    have more := hs.addValue (isSound_of_readPair sound read) added
    split at h
    · exact ih more h
    · cases h
      exact more
    · cases h

theorem soundEntries_of_readPairs {item : Reader Value} (sound : GivesSound item) {fuel : Nat}
    {es : Entries} {text rest : List Char} (h : readPairs item fuel text = some (es, rest)) :
    SoundEntries es := by
  unfold readPairs at h
  split at h
  · cases h
    exact soundEntries_nil
  · exact soundEntries_nil.readMorePairs sound h

/-- One level: what stands inside an array or a table is read with a level less. -/
theorem givesSound_step {fuel levels : Nat}
    (inner : ∀ n, levels = n + 1 → GivesSound (readValue fuel n)) :
    GivesSound (readValue fuel levels) := by
  intro text v rest h
  unfold readValue at h
  split at h
  · cases h
  · rename_i c r
    split at h
    · obtain ⟨⟨cs, _⟩, -, e⟩ := Option.map_eq_some_iff.mp h
      cases e
      exact .string _
    · split at h
      · obtain ⟨⟨cs, _⟩, -, e⟩ := Option.map_eq_some_iff.mp h
        cases e
        exact .string _
      · split at h
        · cases levels with
          | zero => cases h
          | succ n =>
            obtain ⟨⟨vs, _⟩, read, e⟩ := Option.map_eq_some_iff.mp h
            cases e
            exact .array (isSound_of_readItems (inner n rfl) read)
        · split at h
          · cases levels with
            | zero => cases h
            | succ n =>
              obtain ⟨⟨es, _⟩, read, e⟩ := Option.map_eq_some_iff.mp h
              cases e
              exact (soundEntries_of_readPairs (inner n rfl) read).close
          · split at h
            · split at h
              · cases h
                exact .bool _
              · cases h
            · split at h
              · split at h
                · cases h
                  exact .bool _
                · cases h
              · exact isSound_of_readDigital h

theorem givesSound_readValue (fuel levels : Nat) : GivesSound (readValue fuel levels) := by
  induction levels with
  | zero =>
    refine givesSound_step fun n h => ?_
    cases h
  | succ levels ih =>
    refine givesSound_step fun n h => ?_
    cases h
    exact ih

/-! ## Documents -/

theorem SoundEntries.readHeader {fuel : Nat} {d d' : Draft} {text rest : List Char}
    (hs : SoundEntries d.tables) (h : readHeader fuel d text = some (d', rest)) :
    SoundEntries d'.tables := by
  unfold Toml.readHeader at h
  split at h
  · simp only [Option.bind_eq_bind, Option.bind_eq_some_iff, Option.pure_def, Option.some_inj] at h
    obtain ⟨⟨⟨path, name⟩, _⟩, -, _, -, _, -, _, -, tables, added, e⟩ := h
    cases e
    exact hs.addToTables added
  · simp only [Option.bind_eq_bind, Option.bind_eq_some_iff, Option.pure_def, Option.some_inj] at h
    obtain ⟨⟨⟨path, name⟩, _⟩, -, _, -, _, -, tables, added, e⟩ := h
    cases e
    exact hs.addTable added

theorem SoundEntries.readSetting {fuel : Nat} {d d' : Draft} {text rest : List Char}
    (hs : SoundEntries d.tables) (h : readSetting fuel d text = some (d', rest)) :
    SoundEntries d'.tables := by
  simp only [Toml.readSetting, Option.bind_eq_bind, Option.bind_eq_some_iff, Option.pure_def,
    Option.some_inj] at h
  obtain ⟨⟨⟨⟨path, name⟩, v⟩, _⟩, read, _, -, tables, added, e⟩ := h
  cases e
  have sound := isSound_of_readPair (givesSound_readValue _ _) read
  exact hs.update (fun hs e => hs.addValue sound e) added

theorem SoundEntries.readLine {fuel : Nat} {d d' : Draft} {c : Char} {r rest : List Char}
    (hs : SoundEntries d.tables) (h : readLine fuel d c r = some (d', rest)) :
    SoundEntries d'.tables := by
  unfold Toml.readLine at h
  split at h
  · obtain ⟨_, -, e⟩ := Option.map_eq_some_iff.mp h
    cases e
    exact hs
  · split at h
    · exact hs.readHeader h
    · exact hs.readSetting h

theorem SoundEntries.readLines {fuel : Nat} {d : Draft} {text : List Char} {es : Entries}
    (hs : SoundEntries d.tables) (h : readLines fuel d text = some es) : SoundEntries es := by
  induction fuel generalizing d text with
  | zero => cases h
  | succ fuel ih =>
    cases start : skipBlank text with
    | nil =>
      rw [Toml.readLines] at h
      simp only [start] at h
      cases h
      exact hs
    | cons c r =>
      rw [readLines_succ start] at h
      obtain ⟨⟨d', rest⟩, line, h⟩ := Option.bind_eq_some_iff.mp h
      exact ih (hs.readLine line) h

theorem isSound_of_parse {document : String} {es : List (String × Value)}
    (h : parse document = some es) : (Value.table es).IsSound := by
  obtain ⟨tables, read, rfl⟩ := Option.map_eq_some_iff.mp h
  have start : SoundEntries ({} : Draft).tables := soundEntries_nil
  exact (start.readLines read).close

end Switchboard.Toml
