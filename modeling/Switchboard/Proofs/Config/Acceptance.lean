import Switchboard.Proofs.Config.Loading
import Switchboard.Proofs.Toml.Sound

/-!
# Which documents are accepted

Whether a document is accepted, and with which settings, depends on the values of the known keys
alone.

* `Setting.Admits`: the type and the range of the values of a setting;
* `Edit`: a change to a document that leaves the known keys as they are: unknown keys come, entries
  change places, and a section becomes an array of its values;
* `Agree`, `agree_of_edit`: the sections of both documents then fit alike and hold the same;
* `overrides?_eq_of_agree`: so both documents are accepted, with the same settings, or refused;
* `acceptance`: what a document has to satisfy.
-/
namespace Switchboard.Config

open Toml (Value)

/-- The entries of a document or of one of its tables. -/
abbrev Entries := List (String × Value)

/-! ## Values of a setting -/

/-- A value has the type of a setting and is in its range. -/
def Setting.Admits : Setting → Value → Prop
  | host, v | library, v | symbolPrefix, v | mode, v | service, v | function, v =>
    ∃ cs, v = .string cs
  | enabled, v | preferNative, v => ∃ b, v = .bool b
  | port, v => ∃ n, v = .integer n ∧ 0 ≤ n ∧ n ≤ 65535
  | iterations, v => ∃ n, v = .integer n ∧ 0 ≤ n ∧ n ≤ 4294967295
  | timeoutMs, v | maxInputBytes, v | payloadRepeat, v =>
    ∃ n, v = .integer n ∧ 0 ≤ n ∧ n ≤ 9223372036854775807

theorem isSome_text? {v : Value} : (text? v).isSome ↔ ∃ cs, v = .string cs := by
  cases v <;> simp [text?]

theorem isSome_flag? {v : Value} : (flag? v).isSome ↔ ∃ b, v = .bool b := by
  cases v <;> simp [flag?]

/-- An integer of a document is below a bound iff it is at most as large as the integers that may be
in a document below that bound are. -/
theorem isSome_natBelow? {bound : Nat} {top : Int} {v : Value} (sound : v.IsSound)
    (same : ∀ n : Int, n < 0x8000000000000000 → (n < bound ↔ n ≤ top)) :
    (natBelow? bound v).isSome ↔ ∃ n, v = .integer n ∧ 0 ≤ n ∧ n ≤ top := by
  cases sound with
  | @integer n low high =>
    have hn := same n high
    simp only [natBelow?, Value.integer.injEq, exists_eq_left', ← hn]
    split <;> simp_all
  | _ => simp [natBelow?]

theorem Setting.isSome_decode {s : Setting} {v : Value} (sound : v.IsSound) :
    (s.decode v).isSome ↔ s.Admits v := by
  cases s
  case host | library | symbolPrefix | mode | service | function => exact isSome_text?
  case enabled | preferNative => exact isSome_flag?
  case port => exact isSome_natBelow? sound fun n _ => by omega
  case iterations => exact isSome_natBelow? sound fun n _ => by omega
  case timeoutMs | maxInputBytes | payloadRepeat =>
    exact isSome_natBelow? sound fun n _ => by omega

/-- The values that stand for a setting are those of its type and in its range. -/
theorem Setting.admits_iff {s : Setting} {v : Value} (sound : v.IsSound) :
    s.Admits v ↔ ∃ x, s.Means v x := by
  rw [← isSome_decode sound, Option.isSome_iff_exists]
  exact ⟨fun ⟨_, h⟩ => ⟨_, means_use h⟩, fun ⟨_, h⟩ => decode_of_means h⟩

/-! ## Documents whose sections are tables -/

/-- The known sections of a document are tables. -/
def HasTables (document : Entries) : Prop :=
  ∀ (s : Section) v, Keyed.get? s.name document = some v → ∃ fields, v = .table fields

theorem isSound_of_given? {document : Entries} (sound : (Value.table document).IsSound)
    (tables : HasTables document) {s : Setting} {v : Value} (h : s.given? document = some v) :
    v.IsSound := by
  unfold Setting.given? at h
  cases sound with
  | table _ all =>
    split at h
    · rename_i fields home
      have inner := all _ (Keyed.mem_of_get? home)
      cases inner with
      | table _ all => exact all _ (Keyed.mem_of_get? h)
    · rename_i items home
      obtain ⟨fields, e⟩ := tables _ _ home
      cases e
    · cases h

theorem misfit_iff_of_hasTables {document : Entries} (sound : (Value.table document).IsSound)
    (tables : HasTables document) :
    Misfit document ↔ ∃ (s : Setting) (v : Value), s.given? document = some v ∧ ¬s.Admits v := by
  constructor
  · intro misfit
    cases misfit with
    | home given unfit =>
      obtain ⟨fields, rfl⟩ := tables _ _ given
      exact absurd trivial unfit
    | setting given unfit =>
      refine ⟨_, _, given, fun admits => ?_⟩
      obtain ⟨x, hx⟩ := (Setting.admits_iff (isSound_of_given? sound tables given)).mp admits
      exact unfit x hx
  · intro ⟨s, v, given, other⟩
    refine .setting given fun x hx => other ?_
    exact (Setting.admits_iff (isSound_of_given? sound tables given)).mpr ⟨x, hx⟩

/-! ## Changes that leave the known keys as they are -/

/-- A change to the entries of a table in which only some keys are known: an entry with an unknown
key is added, or the entries change places. -/
inductive Unread (known : List String) : Entries → Entries → Prop
  | add (front back : Entries) {key : String} (value : Value) (unknown : key ∉ known) :
      Unread known (front ++ back) (front ++ (key, value) :: back)
  | reorder {es es' : Entries} (distinct : (es.map Prod.fst).Nodup) (same : es.Perm es') :
      Unread known es es'

def sectionNames : List String := ["network", "native", "routing", "benchmark"]

/-- A change to a document: to its own entries, to those of a section, or of a section into an array
of its values, behind which more may stand. -/
inductive Edit : Entries → Entries → Prop
  | top {es es' : Entries} (h : Unread sectionNames es es') : Edit es es'
  | inside (s : Section) (front back : Entries) {fields fields' : Entries}
      (h : Unread s.keys fields fields') :
      Edit (front ++ (s.name, .table fields) :: back) (front ++ (s.name, .table fields') :: back)
  | toArray (s : Section) (front back : Entries) {values : List Value} (further : List Value)
      (all : values.length = s.keys.length) :
      Edit (front ++ (s.name, .table (s.keys.zip values)) :: back)
        (front ++ (s.name, .array (values ++ further)) :: back)

theorem get?_of_unread {known : List String} {es es' : Entries} (h : Unread known es es')
    {key : String} (hk : key ∈ known) : Keyed.get? key es = Keyed.get? key es' := by
  cases h with
  | @add front back other value unknown =>
    have differ : key ≠ other := fun e => unknown (e ▸ hk)
    rw [Keyed.get?_append, Keyed.get?_append, Keyed.get?, if_neg differ]
  | reorder distinct same => exact Keyed.get?_perm same distinct key

/-! ## Sections that are read alike -/

/-- What a section holds for one of its settings. -/
def Setting.inSection? (s : Setting) : Value → Option Value
  | .table fields => Keyed.get? s.key fields
  | .array items => items[s.position]?
  | _ => none

theorem given?_eq (s : Setting) (document : Entries) :
    s.given? document = (Keyed.get? s.home.name document).bind s.inSection? := by
  unfold Setting.given?
  split
  · rename_i h; rw [h]; rfl
  · rename_i h; rw [h]; rfl
  · rename_i other₁ other₂
    cases h : Keyed.get? s.home.name document with
    | none => rfl
    | some v =>
      cases v with
      | table fields => exact absurd h (other₁ fields)
      | array items => exact absurd h (other₂ items)
      | _ => rfl

/-- Two values are read as the same section. -/
structure SameSection (s : Section) (v v' : Value) : Prop where
  fits : s.Fits v ↔ s.Fits v'
  settings : ∀ x : Setting, x.home = s → x.inSection? v = x.inSection? v'

/-- Two documents have the same sections, and these are read alike. -/
def Agree (es es' : Entries) : Prop :=
  ∀ s : Section, Option.Rel (SameSection s) (Keyed.get? s.name es) (Keyed.get? s.name es')

theorem SameSection.symm {s : Section} {v v' : Value} (h : SameSection s v v') :
    SameSection s v' v :=
  ⟨h.fits.symm, fun x hx => (h.settings x hx).symm⟩

theorem SameSection.refl (s : Section) (v : Value) : SameSection s v v := ⟨Iff.rfl, fun _ _ => rfl⟩

theorem Agree.symm {es es' : Entries} (h : Agree es es') : Agree es' es := by
  intro s
  have same := h s
  generalize Keyed.get? s.name es = v, Keyed.get? s.name es' = v' at same
  cases same with
  | none => exact .none
  | some same => exact .some same.symm

theorem Agree.given? {es es' : Entries} (h : Agree es es') (s : Setting) :
    s.given? es = s.given? es' := by
  rw [given?_eq, given?_eq]
  have same := h s.home
  generalize Keyed.get? s.home.name es = v, Keyed.get? s.home.name es' = v' at same
  cases same with
  | none => rfl
  | some same => exact same.settings s rfl

theorem Agree.misfit {es es' : Entries} (h : Agree es es') (misfit : Misfit es) : Misfit es' := by
  cases misfit with
  | @home s v given unfit =>
    have same := h s
    rw [given] at same
    generalize given' : Keyed.get? s.name es' = v' at same
    cases same with
    | some same => exact .home given' fun fits => unfit (same.fits.mpr fits)
  | setting given unfit => exact .setting ((h.given? _).symm.trans given) unfit

theorem eq_of_raw {o o' : Overrides} (h : ∀ s : Setting, s.raw o = s.raw o') : o = o' := by
  obtain ⟨⟨_, _, _⟩, ⟨_, _, _, _⟩, ⟨_, _⟩, ⟨_, _, _, _⟩⟩ := o
  obtain ⟨⟨_, _, _⟩, ⟨_, _, _, _⟩, ⟨_, _⟩, ⟨_, _, _, _⟩⟩ := o'
  cases h .host; cases h .port; cases h .timeoutMs
  cases h .enabled; cases h .library; cases h .symbolPrefix; cases h .maxInputBytes
  cases h .mode; cases h .preferNative
  cases h .iterations; cases h .service; cases h .function; cases h .payloadRepeat
  rfl

/-- Documents that agree are both refused, or both accepted with the same settings. -/
theorem overrides?_eq_of_agree {es es' : Entries} (h : Agree es es') :
    overrides? es = overrides? es' := by
  cases given : overrides? es with
  | none => exact (overrides?_eq_none_iff.mpr (h.misfit (overrides?_eq_none_iff.mp given))).symm
  | some o =>
    cases given' : overrides? es' with
    | none =>
      have refused := overrides?_eq_none_iff.mpr (h.symm.misfit (overrides?_eq_none_iff.mp given'))
      rw [given] at refused
      cases refused
    | some o' =>
      refine congrArg some (eq_of_raw fun s => ?_)
      have read := raw_overrides? given s
      rw [h.given? s] at read
      exact read.eq (raw_overrides? given' s)

/-! ## Changes keep the settings -/

theorem Section.name_mem (s : Section) : s.name ∈ sectionNames := by cases s <;> decide

theorem agree_of_eq {es es' : Entries}
    (h : ∀ s : Section, Keyed.get? s.name es = Keyed.get? s.name es') : Agree es es' := by
  intro s
  rw [h s]
  cases Keyed.get? s.name es' with
  | none => exact .none
  | some v => exact .some (SameSection.refl s v)

/-- Only the section under the key that is changed may differ. -/
theorem agree_of_section {s : Section} {v v' : Value} (h : SameSection s v v')
    (front back : Entries) :
    Agree (front ++ (s.name, v) :: back) (front ++ (s.name, v') :: back) := by
  intro s'
  rw [Keyed.get?_append, Keyed.get?_append]
  cases Keyed.get? s'.name front with
  | some w => exact .some (SameSection.refl s' w)
  | none =>
    simp only [Option.none_or, Keyed.get?]
    split
    · rename_i same
      exact Section.name_inj same ▸ .some h
    · cases Keyed.get? s'.name back with
      | none => exact .none
      | some w => exact .some (SameSection.refl s' w)

theorem sameSection_of_unread {s : Section} {fields fields' : Entries}
    (h : Unread s.keys fields fields') : SameSection s (.table fields) (.table fields') := by
  refine ⟨Iff.rfl, fun x hx => ?_⟩
  subst hx
  exact get?_of_unread h (List.mem_of_getElem? x.key_at)

/-- An array that starts with the values of all settings is the section with these. -/
theorem sameSection_toArray {s : Section} {values : List Value} (further : List Value)
    (all : values.length = s.keys.length) :
    SameSection s (.table (s.keys.zip values)) (.array (values ++ further)) := by
  refine ⟨⟨fun _ => ?_, fun _ => trivial⟩, fun x hx => ?_⟩
  · rw [Section.Fits, List.length_append, all]
    exact Nat.le_add_right _ _
  · subst hx
    have inside : x.position < values.length := all ▸ (List.getElem?_eq_some_iff.mp x.key_at).1
    calc Keyed.get? x.key (x.home.keys.zip values)
        = values[x.position]? := get?_zip x.home.nodup_keys (Nat.le_of_eq all.symm) x.key_at
      _ = (values ++ further)[x.position]? := (List.getElem?_append_left inside).symm

theorem agree_of_edit {es es' : Entries} (h : Edit es es') : Agree es es' := by
  cases h with
  | top h => exact agree_of_eq fun s => get?_of_unread h s.name_mem
  | inside s front back h => exact agree_of_section (sameSection_of_unread h) front back
  | toArray s front back further all =>
    exact agree_of_section (sameSection_toArray further all) front back

/-- Two documents come from each other by any number of changes, back and forth. -/
abbrev SameSettings : Entries → Entries → Prop := Relation.EqvGen Edit

theorem overrides?_eq_of_sameSettings {es es' : Entries} (h : SameSettings es es') :
    overrides? es = overrides? es' := by
  induction h with
  | rel es es' edit => exact overrides?_eq_of_agree (agree_of_edit edit)
  | refl es => rfl
  | symm es es' _ ih => exact ih.symm
  | trans es es' es'' _ _ ih ih' => exact ih.trans ih'

/-! ## What a document has to satisfy -/

theorem accepted_iff {document : String} {es : Entries} (h : Toml.parse document = some es) :
    (∃ c, ofToml? document = some c) ↔ ¬Misfit es := by
  rw [← Option.isSome_iff_exists, Option.isSome_iff_ne_none, ne_eq, ofToml?_eq_none_iff, h]
  simp

/-- **What a document has to satisfy.** If its known sections are tables, it is accepted iff every
known key that it gives has a value of its type and in its range. Unknown keys, the order of the
entries, and whether a section is a table or an array with the same values, with more behind them or
not, change neither this nor any setting. An array with too few values is refused. -/
theorem acceptance :
    (∀ document es, Toml.parse document = some es → HasTables es →
      ((∃ c, ofToml? document = some c) ↔ ∀ s v, Setting.given? s es = some v → s.Admits v)) ∧
    (∀ es es', SameSettings es es' → overrides? es = overrides? es') ∧
    (∀ document document' es es', Toml.parse document = some es →
      Toml.parse document' = some es' → SameSettings es es' →
        ofToml? document = ofToml? document') ∧
    ∀ document es (s : Section) items, Toml.parse document = some es →
      Keyed.get? s.name es = some (.array items) → items.length < s.keys.length →
        ofToml? document = none := by
  refine ⟨fun document es h tables => ?_, fun es es' => overrides?_eq_of_sameSettings,
    fun document document' es es' h h' same => ?_, fun document es s items h given short => ?_⟩
  · rw [accepted_iff h, misfit_iff_of_hasTables (Toml.isSound_of_parse h) tables]
    simp only [not_exists, not_and, not_not]
  · rw [ofToml?, ofToml?, Overrides.ofToml?, Overrides.ofToml?, h, h', Option.bind_some,
      Option.bind_some, overrides?_eq_of_sameSettings same]
  · refine ofToml?_eq_none_iff.mpr (.inr ⟨es, h, .home given fun fits => ?_⟩)
    exact Nat.not_le_of_lt short fits

def largestPort : String := "network.port=65535"
def largerPort : String := "network.port=65536"

/-- A section with a key that is not known beside it, and an array with its values and one more. -/
def asTable : String := "x=0\n[network]\ntimeout_ms=1\nport=80\nhost='h'"
def asArray : String := "network=['h',80,1,2]"

/-- An array without the last value of its section. -/
def tooShort : String := "network=['h',80]"

theorem parse_largestPort :
    Toml.parse largestPort = some [("network", .table [("port", .integer 65535)])] := by
  unfold largestPort
  cbv

theorem parse_largerPort :
    Toml.parse largerPort = some [("network", .table [("port", .integer 65536)])] := by
  unfold largerPort
  cbv

theorem parse_asTable :
    Toml.parse asTable =
      some [("network", .table [("host", .string ['h']), ("port", .integer 80),
        ("timeout_ms", .integer 1)]), ("x", .integer 0)] := by
  unfold asTable
  cbv

theorem parse_asArray :
    Toml.parse asArray =
      some [("network", .array [.string ['h'], .integer 80, .integer 1, .integer 2])] := by
  unfold asArray
  cbv

theorem parse_tooShort :
    Toml.parse tooShort = some [("network", .array [.string ['h'], .integer 80])] := by
  unfold tooShort
  cbv

theorem sameSettings_asArray :
    SameSettings
      [("network", .array [.string ['h'], .integer 80, .integer 1, .integer 2])]
      [("network", .table [("host", .string ['h']), ("port", .integer 80),
        ("timeout_ms", .integer 1)]), ("x", .integer 0)] := by
  have table : Edit [("network", .table [("host", .string ['h']), ("port", .integer 80),
      ("timeout_ms", .integer 1)])]
      [("network", .array [.string ['h'], .integer 80, .integer 1, .integer 2])] :=
    @Edit.toArray .network [] [] [.string ['h'], .integer 80, .integer 1] [.integer 2] rfl
  have unknown : "x" ∉ sectionNames := by decide
  exact (Relation.EqvGen.rel _ _ table).symm.trans _ _ _
    (.rel _ _ (.top (.add [_] [] (.integer 0) unknown)))

/-- A document with nothing but a port has no section that is no table. -/
theorem hasTables_port (n : Int) : HasTables [("network", .table [("port", .integer n)])] := by
  intro s v given
  cases s <;> cases given
  exact ⟨_, rfl⟩

/-- The largest port is accepted and no larger one is. The array has the settings of the table, with
or without the value behind them and the key beside it, but is refused without its last value. -/
theorem acceptance_five :
    (∃ c, ofToml? largestPort = some c) ∧ (¬∃ c, ofToml? largerPort = some c) ∧
      ofToml? asArray = ofToml? asTable ∧ ofToml? tooShort = none := by
  obtain ⟨iff, -, same, short⟩ := acceptance
  refine ⟨(iff _ _ parse_largestPort (hasTables_port _)).mpr fun s v given => ?_,
    fun accepted => ?_, same _ _ _ _ parse_asArray parse_asTable sameSettings_asArray,
    short _ _ .network _ parse_tooShort rfl (by decide)⟩
  · cases s <;> cases given
    exact ⟨65535, rfl, by decide, by decide⟩
  · have admits := (iff _ _ parse_largerPort (hasTables_port _)).mp accepted .port _ rfl
    obtain ⟨n, e, -, high⟩ := admits
    cases e
    exact absurd high (by decide)

end Switchboard.Config
