import Mathlib
import Switchboard.Config.Basic

/-!
# Settings and their keys

A configuration has thirteen settings, and a document gives each of them under a key of its own.
`Setting` lists them; `Setting.given?` is what a document gives for one, and `Setting.Means` says
which value of the setting that stands for.

* `setting_eq_some_iff`, `get?_sectionEntries`: one setting of one section;
* `raw_overrides?`: the settings of a document that is accepted, each by its own key;
* `templateOverrides_eq`: what the template gives, which are the standard values;
* `of_config`: the user's value where there is one, else the standard one;
* `settings_by_key`: so each setting is a function of its key alone.
-/
namespace Switchboard.Config

inductive Setting where
  | host | port | timeoutMs
  | enabled | library | symbolPrefix | maxInputBytes
  | mode | preferNative
  | iterations | service | function | payloadRepeat
  deriving DecidableEq

inductive Section where
  | network | native | routing | benchmark
  deriving DecidableEq

namespace Section

def name : Section → String
  | network => "network"
  | native => "native"
  | routing => "routing"
  | benchmark => "benchmark"

def keys : Section → List String
  | network => ["host", "port", "timeout_ms"]
  | native => ["enabled", "library", "symbol_prefix", "max_input_bytes"]
  | routing => ["mode", "prefer_native"]
  | benchmark => ["iterations", "service", "function", "payload_repeat"]

end Section

namespace Setting

def home : Setting → Section
  | host | port | timeoutMs => .network
  | enabled | library | symbolPrefix | maxInputBytes => .native
  | mode | preferNative => .routing
  | iterations | service | function | payloadRepeat => .benchmark

def position : Setting → Nat
  | host | enabled | mode | iterations => 0
  | port | library | preferNative | service => 1
  | timeoutMs | symbolPrefix | function => 2
  | maxInputBytes | payloadRepeat => 3

def key : Setting → String
  | host => "host"
  | port => "port"
  | timeoutMs => "timeout_ms"
  | enabled => "enabled"
  | library => "library"
  | symbolPrefix => "symbol_prefix"
  | maxInputBytes => "max_input_bytes"
  | mode => "mode"
  | preferNative => "prefer_native"
  | iterations => "iterations"
  | service => "service"
  | function => "function"
  | payloadRepeat => "payload_repeat"

/-- What the entries of a document give for a setting. A section is a table, or an array of its
values in their order. -/
def given? (s : Setting) (document : List (String × Toml.Value)) : Option Toml.Value :=
  match Keyed.get? s.home.name document with
  | some (.table entries) => Keyed.get? s.key entries
  | some (.array items) => items[s.position]?
  | _ => none

abbrev Content : Setting → Type
  | host | symbolPrefix | service | function => String
  | port | timeoutMs | maxInputBytes | iterations | payloadRepeat => Nat
  | enabled | preferNative => Bool
  | library => Option String
  | mode => Dispatch.Mode

def of (c : Config) : (s : Setting) → s.Content
  | host => c.network.host
  | port => c.network.port
  | timeoutMs => c.network.timeoutMs
  | enabled => c.native.enabled
  | library => c.native.library
  | symbolPrefix => c.native.symbolPrefix
  | maxInputBytes => c.native.maxInputBytes
  | mode => c.routing.mode
  | preferNative => c.routing.preferNative
  | iterations => c.benchmark.iterations
  | service => c.benchmark.service
  | function => c.benchmark.function
  | payloadRepeat => c.benchmark.payloadRepeat

end Setting

/-! ## What a value of a document stands for -/

/-- The names by which a document may call a mode, in lower case. -/
def modeNames : Dispatch.Mode → List String
  | .both => ["both", "auto"]
  | .network => ["network", "http"]
  | .native => ["native", "ffi"]

/-- A path that has a character, and no white space at its ends. -/
structure IsPath (path : String) : Prop where
  nonempty : path.toList ≠ []
  head : ∀ c, path.toList.head? = some c → Text.isBlank c = false
  last : ∀ c, path.toList.getLast? = some c → Text.isBlank c = false

/-- The path in a text with white space around it, or none in a text of white space. -/
def IsPathIn (cs : List Char) : Option String → Prop
  | none => ∀ c ∈ cs, Text.isBlank c = true
  | some path => IsPath path ∧ ∃ front back, cs = front ++ path.toList ++ back ∧
      ∀ c ∈ front ++ back, Text.isBlank c = true

/-- The mode that a name in any case stands for. Any other text means both. -/
def IsModeNamed (name : String) (m : Dispatch.Mode) : Prop :=
  Text.lower name ∈ modeNames m ∨ m = .both ∧ ∀ m', Text.lower name ∉ modeNames m'

/-- A value of a document is of the type and in the range of a setting, which then is `x`. -/
def Setting.Means : (s : Setting) → Toml.Value → s.Content → Prop
  | host, v, x | symbolPrefix, v, x | service, v, x | function, v, x => v = .string x.toList
  | port, v, x => v = .integer x ∧ x ≤ 65535
  | timeoutMs, v, x | maxInputBytes, v, x | payloadRepeat, v, x =>
    v = .integer x ∧ x < 0x10000000000000000
  | enabled, v, x | preferNative, v, x => v = .bool x
  | library, v, x => ∃ cs, v = .string cs ∧ IsPathIn cs x
  | mode, v, x => ∃ cs, v = .string cs ∧ IsModeNamed (String.ofList cs) x
  | iterations, v, x => ∃ n : Nat, v = .integer n ∧ n < 0x100000000 ∧ x = max n 1

namespace Setting

/-- The type in which a document gives a setting. -/
abbrev Raw : Setting → Type
  | host | library | symbolPrefix | mode | service | function => String
  | port | timeoutMs | maxInputBytes | iterations | payloadRepeat => Nat
  | enabled | preferNative => Bool

/-- Reads a value of a document as one of the type and the range of a setting. -/
def decode : (s : Setting) → Toml.Value → Option s.Raw
  | host | library | symbolPrefix | mode | service | function => text?
  | port => natBelow? 0x10000
  | timeoutMs | maxInputBytes | payloadRepeat => natBelow? 0x10000000000000000
  | iterations => natBelow? 0x100000000
  | enabled | preferNative => flag?

/-- The setting that is given, as it is written. -/
def raw (o : Overrides) : (s : Setting) → Option s.Raw
  | host => o.network.host
  | port => o.network.port
  | timeoutMs => o.network.timeoutMs
  | enabled => o.native.enabled
  | library => o.native.library
  | symbolPrefix => o.native.symbolPrefix
  | maxInputBytes => o.native.maxInputBytes
  | mode => o.routing.mode
  | preferNative => o.routing.preferNative
  | iterations => o.benchmark.iterations
  | service => o.benchmark.service
  | function => o.benchmark.function
  | payloadRepeat => o.benchmark.payloadRepeat

/-- The value of a setting that is given. -/
def use : (s : Setting) → s.Raw → s.Content
  | library, path => pathOf? path
  | mode, name => (Dispatch.Mode.ofName? name).getD .both
  | iterations, n => max 1 n
  | host, x | symbolPrefix, x | service, x | function, x => x
  | port, x | timeoutMs, x | maxInputBytes, x | payloadRepeat, x => x
  | enabled, x | preferNative, x => x

def standard (s : Setting) : s.Content := s.of {}

end Setting

/-! ## Reading one value -/

theorem text?_eq_some {v : Toml.Value} {x : String} (h : text? v = some x) :
    v = .string x.toList := by
  unfold text? at h
  split at h
  · cases h; rw [String.toList_ofList]
  · cases h

theorem flag?_eq_some {v : Toml.Value} {x : Bool} (h : flag? v = some x) : v = .bool x := by
  unfold flag? at h
  split at h
  · cases h; rfl
  · cases h

theorem natBelow?_eq_some {bound : Nat} {v : Toml.Value} {x : Nat}
    (h : natBelow? bound v = some x) : v = .integer x ∧ x < bound := by
  unfold natBelow? at h
  split at h
  · rename_i n
    split at h
    · rename_i hn
      simp only [Bool.and_eq_true, decide_eq_true_eq] at hn
      cases h
      have hx : (n.toNat : Int) = n := Int.toNat_of_nonneg hn.1
      exact ⟨by rw [hx], by omega⟩
    · cases h
  · cases h

/-! ## Normal forms -/

/-- Trimming takes white space off both ends of a text, as far as it goes. -/
theorem toList_trim (s : String) :
    (∃ front back, s.toList = front ++ (Text.trim s).toList ++ back ∧
      ∀ c ∈ front ++ back, Text.isBlank c = true) ∧
    (∀ c, (Text.trim s).toList.head? = some c → Text.isBlank c = false) ∧
    ∀ c, (Text.trim s).toList.getLast? = some c → Text.isBlank c = false := by
  have core : (Text.trim s).toList = (s.toList.dropWhile Text.isBlank).rdropWhile Text.isBlank := by
    rw [Text.trim, String.toList_ofList]; rfl
  rw [core]
  generalize hmid : s.toList.dropWhile Text.isBlank = mid
  refine ⟨⟨s.toList.takeWhile Text.isBlank, mid.rtakeWhile Text.isBlank, ?_, ?_⟩, ?_, ?_⟩
  · rw [List.append_assoc, List.rdropWhile_append_rtakeWhile, ← hmid,
      List.takeWhile_append_dropWhile]
  · intro c hc
    rcases List.mem_append.mp hc with hc | hc
    · exact List.mem_takeWhile_imp hc
    · exact List.mem_rtakeWhile_imp hc
  · intro c hc
    have first : mid.head? = some c := by
      obtain ⟨rest, hrest⟩ := List.rdropWhile_prefix Text.isBlank (l := mid)
      rw [← hrest, List.head?_append, hc]; rfl
    have := List.head?_dropWhile_not Text.isBlank s.toList
    rw [hmid, first] at this
    exact this
  · intro c hc
    have hne : mid.rdropWhile Text.isBlank ≠ [] := by
      intro e; rw [e] at hc; cases hc
    rw [List.getLast?_eq_some_getLast hne, Option.some_inj] at hc
    rw [← hc]
    exact eq_false_of_ne_true (List.rdropWhile_last_not Text.isBlank mid hne)

theorem isPathIn_pathOf? (s : String) : IsPathIn s.toList (pathOf? s) := by
  obtain ⟨⟨front, back, hs, hblank⟩, hhead, hlast⟩ := toList_trim s
  simp only [pathOf?]
  split
  case isTrue h =>
    have empty : (Text.trim s).toList = [] := String.toList_eq_nil_iff.mpr h
    rw [empty, List.append_nil] at hs
    rw [hs]
    exact hblank
  case isFalse h =>
    exact ⟨⟨fun e => h (String.toList_eq_nil_iff.mp e), hhead, hlast⟩, front, back, hs, hblank⟩

theorem isModeNamed_ofName? (s : String) :
    IsModeNamed s ((Dispatch.Mode.ofName? s).getD .both) := by
  unfold Dispatch.Mode.ofName? IsModeNamed
  simp only [Bool.or_eq_true, decide_eq_true_eq]
  generalize Text.lower s = name
  split
  case isTrue h => exact .inl (by simpa [modeNames] using h)
  case isFalse h₁ =>
    split
    case isTrue h => exact .inl (by simpa [modeNames] using h)
    case isFalse h₂ =>
      split
      case isTrue h => exact .inl (by simpa [modeNames] using h)
      case isFalse h₃ =>
        refine .inr ⟨rfl, fun m => ?_⟩
        cases m with
        | both => simpa [modeNames] using h₁
        | network => simpa [modeNames] using h₂
        | native => simpa [modeNames] using h₃

theorem Setting.means_use {s : Setting} {v : Toml.Value} {x : s.Raw} (h : s.decode v = some x) :
    s.Means v (s.use x) := by
  cases s
  case host | symbolPrefix | service | function => exact text?_eq_some h
  case port =>
    obtain ⟨hv, hx⟩ := natBelow?_eq_some h
    exact ⟨hv, Nat.le_of_lt_succ hx⟩
  case timeoutMs | maxInputBytes | payloadRepeat => exact natBelow?_eq_some h
  case enabled | preferNative => exact flag?_eq_some h
  case library => exact ⟨_, text?_eq_some h, isPathIn_pathOf? x⟩
  case mode =>
    refine ⟨_, text?_eq_some h, ?_⟩
    rw [String.ofList_toList]
    exact isModeNamed_ofName? x
  case iterations =>
    obtain ⟨hv, hx⟩ := natBelow?_eq_some h
    exact ⟨x, hv, hx, Nat.max_comm _ _⟩

/-! ## Reading a document -/

/-- A setting that is read is what stands under its key, if anything does. -/
theorem setting_eq_some_iff {α : Type} {decode : Toml.Value → Option α} {name : String}
    {entries : List (String × Toml.Value)} {o : Option α} :
    setting decode name entries = some o ↔
      (Keyed.get? name entries = none → o = none) ∧
        ∀ v, Keyed.get? name entries = some v → ∃ x, decode v = some x ∧ o = some x := by
  unfold setting
  cases Keyed.get? name entries with
  | none => simp [eq_comm]
  | some v => cases decode v <;> simp [eq_comm]

/-- An array of at least as many values as there are names has each value under its name. -/
theorem get?_zip {names : List String} (distinct : names.Nodup) {items : List Toml.Value}
    (h : names.length ≤ items.length) {i : Nat} {name : String} (hi : names[i]? = some name) :
    Keyed.get? name (names.zip items) = items[i]? := by
  induction names generalizing items i with
  | nil => cases hi
  | cons n names ih =>
    obtain ⟨hn, distinct⟩ := List.nodup_cons.mp distinct
    cases items with
    | nil => exact absurd h (Nat.not_succ_le_zero _)
    | cons v items =>
      cases i with
      | zero =>
        cases hi
        rw [List.zip_cons_cons, Keyed.get?, if_pos rfl]; rfl
      | succ i =>
        have hne : name ≠ n := fun e => hn (e ▸ List.mem_of_getElem? hi)
        rw [List.zip_cons_cons, Keyed.get?, if_neg hne]
        exact ih distinct (Nat.le_of_succ_le_succ h) hi

theorem Section.name_inj {s t : Section} (h : s.name = t.name) : s = t := by
  cases s <;> cases t <;> first | rfl | exact absurd h (by decide)

theorem Section.nodup_keys (s : Section) : s.keys.Nodup := by cases s <;> decide

theorem Setting.key_at (s : Setting) : s.home.keys[s.position]? = some s.key := by cases s <;> rfl

/-- The entries of a section have under each key what the document gives for it. -/
theorem get?_sectionEntries (s : Setting) {document es : List (String × Toml.Value)}
    (h : sectionEntries s.home.keys (Keyed.get? s.home.name document) = some es) :
    Keyed.get? s.key es = s.given? document := by
  unfold Setting.given?
  generalize Keyed.get? s.home.name document = v at h
  unfold sectionEntries at h
  split at h
  · cases h; rfl
  · cases h; rfl
  · split at h
    · rename_i items hlen
      cases h
      exact get?_zip s.home.nodup_keys hlen s.key_at
    · cases h
  · cases h; rfl
  · cases h

/-- What a setting is by the value that is given for it. -/
structure Setting.IsRead (s : Setting) (given : Option Toml.Value) (raw : Option s.Raw) : Prop where
  absent : given = none → raw = none
  present : ∀ v, given = some v → ∃ x, s.decode v = some x ∧ raw = some x

theorem Setting.IsRead.eq {s : Setting} {given : Option Toml.Value} {raw raw' : Option s.Raw}
    (h : s.IsRead given raw) (h' : s.IsRead given raw') : raw = raw' := by
  cases hv : given with
  | none => rw [h.absent hv, h'.absent hv]
  | some v =>
    obtain ⟨x, hx, e⟩ := h.present v hv
    obtain ⟨x', hx', e'⟩ := h'.present v hv
    rw [hx] at hx'
    rw [e, e', hx']

theorem Setting.isRead_of_setting {s : Setting} {document es : List (String × Toml.Value)}
    {o : Option s.Raw}
    (h : sectionEntries s.home.keys (Keyed.get? s.home.name document) = some es)
    (hs : setting s.decode s.key es = some o) : s.IsRead (s.given? document) o := by
  rw [setting_eq_some_iff, get?_sectionEntries s h] at hs
  exact ⟨hs.1, hs.2⟩

/-- Every setting of a document that is accepted is read from its own key. -/
theorem raw_overrides? {document : List (String × Toml.Value)} {o : Overrides}
    (h : overrides? document = some o) (s : Setting) : s.IsRead (s.given? document) (s.raw o) := by
  simp only [overrides?, networkOverrides?, nativeOverrides?, routingOverrides?,
    benchmarkOverrides?, Option.bind_eq_bind, Option.bind_eq_some_iff, Option.pure_def,
    Option.some_inj] at h
  obtain ⟨_, ⟨network, hnetwork, host, hhost, port, hport, timeout, htimeout, rfl⟩,
    _, ⟨native, hnative, enabled, henabled, library, hlibrary, symbols, hsymbols, bytes, hbytes,
      rfl⟩,
    _, ⟨routing, hrouting, mode, hmode, prefer, hprefer, rfl⟩,
    _, ⟨bench, hbench, iterations, hiterations, service, hservice, function, hfunction, repeats,
      hrepeats, rfl⟩, rfl⟩ := h
  cases s with
  | host => exact Setting.isRead_of_setting hnetwork hhost
  | port => exact Setting.isRead_of_setting hnetwork hport
  | timeoutMs => exact Setting.isRead_of_setting hnetwork htimeout
  | enabled => exact Setting.isRead_of_setting hnative henabled
  | library => exact Setting.isRead_of_setting hnative hlibrary
  | symbolPrefix => exact Setting.isRead_of_setting hnative hsymbols
  | maxInputBytes => exact Setting.isRead_of_setting hnative hbytes
  | mode => exact Setting.isRead_of_setting hrouting hmode
  | preferNative => exact Setting.isRead_of_setting hrouting hprefer
  | iterations => exact Setting.isRead_of_setting hbench hiterations
  | service => exact Setting.isRead_of_setting hbench hservice
  | function => exact Setting.isRead_of_setting hbench hfunction
  | payloadRepeat => exact Setting.isRead_of_setting hbench hrepeats

/-! ## The template -/

deriving instance DecidableEq for NetworkOverrides, NativeOverrides, RoutingOverrides,
  BenchmarkOverrides, Overrides

theorem toList_template :
    template.toList = templateLines.flatMap fun line => line.toList ++ ['\n'] := by
  rw [template, String.toList_join, List.flatMap_map]
  simp

/-- The template gives every setting its standard value. The library that it names is none. -/
theorem templateOverrides_eq :
    templateOverrides =
      { network := { host := some "localhost", port := some 3000, timeoutMs := some 30000 }
        native :=
          { enabled := some true, library := some "", symbolPrefix := some "svcbridge_"
            maxInputBytes := some 10000000 }
        routing := { mode := some "both", preferNative := some true }
        benchmark :=
          { iterations := some 10000, service := some "CryptoService"
            function := some "hash_data", payloadRepeat := some 1000 } } := by
  unfold templateOverrides Overrides.ofToml? Toml.parse
  rw [toList_template]
  decide +kernel

theorem pathOf?_empty : pathOf? "" = none := by decide +kernel

theorem ofName?_both : Dispatch.Mode.ofName? "both" = some .both := by decide +kernel

/-- Each setting is the user's, or else has its standard value. -/
theorem of_config (user : Overrides) (s : Setting) :
    s.of (user.over templateOverrides).config = ((s.raw user).map s.use).getD s.standard := by
  rw [templateOverrides_eq]
  obtain ⟨⟨host, port, timeoutMs⟩, ⟨enabled, library, symbolPrefix, maxInputBytes⟩,
    ⟨mode, preferNative⟩, ⟨iterations, service, function, payloadRepeat⟩⟩ := user
  cases s
  case host => cases host <;> rfl
  case port => cases port <;> rfl
  case timeoutMs => cases timeoutMs <;> rfl
  case enabled => cases enabled <;> rfl
  case library =>
    cases library with
    | none => exact pathOf?_empty
    | some path => rfl
  case symbolPrefix => cases symbolPrefix <;> rfl
  case maxInputBytes => cases maxInputBytes <;> rfl
  case mode =>
    cases mode with
    | none => exact congrArg (·.getD .both) ofName?_both
    | some name => rfl
  case preferNative => cases preferNative <;> rfl
  case iterations => cases iterations <;> rfl
  case service => cases service <;> rfl
  case function => cases function <;> rfl
  case payloadRepeat => cases payloadRepeat <;> rfl

/-- A configuration is no more than its settings. -/
theorem eq_of_settings {c c' : Config} (h : ∀ s : Setting, s.of c = s.of c') : c = c' := by
  obtain ⟨⟨_, _, _⟩, ⟨_, _, _, _⟩, ⟨_, _⟩, ⟨_, _, _, _⟩⟩ := c
  obtain ⟨⟨_, _, _⟩, ⟨_, _, _, _⟩, ⟨_, _⟩, ⟨_, _, _, _⟩⟩ := c'
  cases h .host; cases h .port; cases h .timeoutMs
  cases h .enabled; cases h .library; cases h .symbolPrefix; cases h .maxInputBytes
  cases h .mode; cases h .preferNative
  cases h .iterations; cases h .service; cases h .function; cases h .payloadRepeat
  rfl

/-- The network settings are the user's where there are any. -/
theorem network_over_template (user : Overrides) :
    (user.over templateOverrides).config.network = user.network.settings := by
  rw [templateOverrides_eq]
  obtain ⟨⟨host, port, timeoutMs⟩, _, _, _⟩ := user
  cases host <;> cases port <;> cases timeoutMs <;> rfl

theorem mode_over_template {user : Overrides} {name : String} (h : user.routing.mode = some name) :
    (user.over templateOverrides).config.routing.mode =
      (Dispatch.Mode.ofName? name).getD .both := by
  have mode := of_config user .mode
  rw [Setting.raw, h] at mode
  exact mode

theorem function_over_template {user : Overrides} {name : String}
    (h : user.benchmark.function = some name) :
    (user.over templateOverrides).config.benchmark.function = name := by
  have function := of_config user .function
  rw [Setting.raw, h] at function
  exact function

/-- A user who gives nothing has the standard settings. -/
theorem config_over_template : (({} : Overrides).over templateOverrides).config = {} := by
  refine eq_of_settings fun s => ?_
  rw [of_config]
  cases s <;> rfl

theorem empty_over (base : Overrides) : ({} : Overrides).over base = base := rfl

theorem embedded_eq : embedded = {} := by
  rw [← config_over_template, empty_over, embedded]

theorem ofToml?_empty : ofToml? "" = some {} := by
  have given : Overrides.ofToml? "" = some {} := by decide +kernel
  rw [ofToml?, given, Option.map_some, config_over_template]

/-! ## The settings of a document -/

/-- The settings of a document, each by its own key: the standard value where the key is not given,
else what the value stands for. -/
structure ByKey (document : List (String × Toml.Value)) (c : Config) : Prop where
  absent : ∀ s : Setting, s.given? document = none → s.of c = s.standard
  present : ∀ (s : Setting) (v : Toml.Value), s.given? document = some v → s.Means v (s.of c)

theorem ofToml?_eq_some {document : String} {c : Config} (h : ofToml? document = some c) :
    ∃ es user, Toml.parse document = some es ∧ overrides? es = some user ∧
      c = (user.over templateOverrides).config := by
  simp only [ofToml?, Overrides.ofToml?, Option.map_eq_some_iff, Option.bind_eq_some_iff] at h
  obtain ⟨user, ⟨es, hes, huser⟩, rfl⟩ := h
  exact ⟨es, user, hes, huser, rfl⟩

theorem byKey_overrides? {es : List (String × Toml.Value)} {user : Overrides}
    (h : overrides? es = some user) : ByKey es (user.over templateOverrides).config := by
  refine ⟨fun s hs => ?_, fun s v hv => ?_⟩
  · rw [of_config, (raw_overrides? h s).absent hs]; rfl
  · obtain ⟨x, hx, hraw⟩ := (raw_overrides? h s).present v hv
    rw [of_config, hraw]
    exact Setting.means_use hx

theorem ofToml?_of_overrides? {document : String} {es : List (String × Toml.Value)}
    {user : Overrides} (hes : Toml.parse document = some es) (huser : overrides? es = some user) :
    ofToml? document = some (user.over templateOverrides).config := by
  rw [ofToml?, Overrides.ofToml?, hes, Option.bind_some, huser, Option.map_some]

/-- What a setting is depends on nothing but what is given for it. -/
theorem of_config_congr {es es' : List (String × Toml.Value)} {user user' : Overrides}
    (h : overrides? es = some user) (h' : overrides? es' = some user') {s : Setting}
    (same : s.given? es = s.given? es') :
    s.of (user.over templateOverrides).config = s.of (user'.over templateOverrides).config := by
  have read := raw_overrides? h s
  rw [same] at read
  rw [of_config, of_config, read.eq (raw_overrides? h' s)]

theorem isPath_of_pathOf? {s path : String} (h : pathOf? s = some path) : IsPath path := by
  have := isPathIn_pathOf? s
  rw [h] at this
  exact this.1

/-- **Settings by their keys.** Every setting of a document that is accepted is a function of its
own key: it is what the value under the key stands for, and the standard value where there is none.
So documents that agree on a key agree on the setting. Neither the template nor an empty document
changes a standard value. There is always at least one iteration, and a library always has a path
without white space at its ends. -/
theorem settings_by_key :
    (∀ document c, ofToml? document = some c →
      (∃ es, Toml.parse document = some es ∧ ByKey es c) ∧ c.benchmark.iterations ≠ 0 ∧
        ∀ path, c.native.library = some path → IsPath path) ∧
    (∀ document document' es es' c c', Toml.parse document = some es →
      Toml.parse document' = some es' → ofToml? document = some c → ofToml? document' = some c' →
      ∀ s : Setting, s.given? es = s.given? es' → s.of c = s.of c') ∧
    embedded = {} ∧ ofToml? "" = some {} := by
  refine ⟨fun document c h => ?_, ?_, embedded_eq, ofToml?_empty⟩
  · obtain ⟨es, user, hes, huser, rfl⟩ := ofToml?_eq_some h
    refine ⟨⟨es, hes, byKey_overrides? huser⟩, ?_, fun path hpath => ?_⟩
    · exact Nat.ne_of_gt (Nat.le_max_left 1 _)
    · obtain ⟨s, -, hs⟩ := Option.bind_eq_some_iff.mp hpath
      exact isPath_of_pathOf? hs
  · intro document document' es es' c c' hes hes' h h' s same
    obtain ⟨es₁, user, hes₁, huser, rfl⟩ := ofToml?_eq_some h
    obtain ⟨es₂, user', hes₂, huser', rfl⟩ := ofToml?_eq_some h'
    rw [hes] at hes₁
    rw [hes'] at hes₂
    cases hes₁
    cases hes₂
    exact of_config_congr huser huser' same

def fourSettings : String :=
  "network.port=80\nnative.library=' /ext.so'\nrouting.mode='HTTP'\nbenchmark.iterations=0"

set_option maxRecDepth 3000 in
theorem parse_fourSettings :
    Toml.parse fourSettings =
      some [("benchmark", .table [("iterations", .integer 0)]),
        ("native", .table [("library", .string " /ext.so".toList)]),
        ("network", .table [("port", .integer 80)]),
        ("routing", .table [("mode", .string "HTTP".toList)])] := by
  unfold fourSettings
  cbv

theorem ofToml?_fourSettings : ∃ c, ofToml? fourSettings = some c := by
  have accepted : (Overrides.ofToml? fourSettings).isSome = true := by decide +kernel
  obtain ⟨user, given⟩ := Option.isSome_iff_exists.mp accepted
  exact ⟨_, by rw [ofToml?, given, Option.map_some]⟩

/-- The host keeps its standard value where it is not given, and the settings that are given are put
in their normal forms. -/
theorem settings_by_key_four :
    ∃ c, ofToml? fourSettings = some c ∧ c.network.host = "localhost" ∧ c.network.port = 80 ∧
      (∃ path, c.native.library = some path ∧ IsPath path) ∧ c.routing.mode = .network ∧
      c.benchmark.iterations = 1 := by
  obtain ⟨c, hc⟩ := ofToml?_fourSettings
  obtain ⟨⟨es, hes, absent, present⟩, -, hpath⟩ := settings_by_key.1 _ c hc
  rw [parse_fourSettings] at hes
  cases hes
  refine ⟨c, hc, absent .host rfl, ?_, ?_, ?_, ?_⟩
  · obtain ⟨hv, -⟩ := present .port _ rfl
    exact (Int.ofNat_inj.mp (Toml.Value.integer.inj hv)).symm
  · obtain ⟨cs, hv, hcs⟩ := present .library _ rfl
    cases hv
    cases hl : c.native.library with
    | none =>
      have blank : ∀ x ∈ " /ext.so".toList, Text.isBlank x = true := by
        rw [Setting.of, hl] at hcs
        exact hcs
      exact absurd (blank '/' (by decide)) (by decide)
    | some path => exact ⟨path, rfl, hpath path hl⟩
  · obtain ⟨cs, hv, hnamed⟩ := present .mode _ rfl
    cases hv
    have lower : Text.lower (String.ofList "HTTP".toList) = "http" := by decide
    rw [IsModeNamed, lower] at hnamed
    change "http" ∈ modeNames c.routing.mode ∨ _ at hnamed
    cases hm : c.routing.mode with
    | network => rfl
    | both | native =>
      rw [hm] at hnamed
      rcases hnamed with hname | ⟨-, hother⟩
      · exact absurd hname (by decide)
      · exact absurd (hother .network) (by decide)
  · obtain ⟨n, hv, -, hn⟩ := present .iterations _ rfl
    have zero : n = 0 := (Int.ofNat_inj.mp (Toml.Value.integer.inj hv)).symm
    rw [zero] at hn
    exact hn

end Switchboard.Config
