import Switchboard.Proofs.Config.Settings
import Switchboard.Proofs.Text.Utf8
import Switchboard.Proofs.Toml.Repeated

/-!
# Documents that are loaded and files that are not

A file gives the configuration of its document, or the embedded one and nothing of its own.

* `Section.Fits`, `Setting.Means`: what may stand under the key of a section and of a setting;
* `overrides?_eq_none_iff`: entries are refused for a value that may not (`Misfit`);
* `Defect`: all that can be wrong with a file, and `defect_iff`: no other file is refused;
* `loads_whole_or_embedded`: what is loaded from every file.
-/
namespace Switchboard.Config

/-! ## Documents that are refused -/

/-- A value may stand under the key of a section. -/
def Section.Fits (s : Section) : Toml.Value → Prop
  | .table _ | .moment => True
  | .array items => s.keys.length ≤ items.length
  | _ => False

/-- A known key has a value that it may not have. -/
inductive Misfit (document : List (String × Toml.Value)) : Prop
  | home {s : Section} {v : Toml.Value} (given : Keyed.get? s.name document = some v)
      (unfit : ¬ s.Fits v)
  | setting {s : Setting} {v : Toml.Value} (given : s.given? document = some v)
      (unfit : ∀ x, ¬ s.Means v x)

theorem fits_of_sectionEntries {s : Section} {v : Toml.Value} {es : List (String × Toml.Value)}
    (h : sectionEntries s.keys (some v) = some es) : s.Fits v := by
  cases v with
  | table | moment => trivial
  | array items =>
    rw [sectionEntries] at h
    split at h
    · assumption
    · cases h
  | string | integer | real | bool => cases h

theorem sectionEntries_of_fits {s : Section} {v : Toml.Value} (h : s.Fits v) :
    ∃ es, sectionEntries s.keys (some v) = some es := by
  cases v with
  | table es => exact ⟨es, rfl⟩
  | moment => exact ⟨[], rfl⟩
  | array items => exact ⟨s.keys.zip items, if_pos h⟩
  | string | integer | real | bool => exact h.elim

theorem natBelow?_of_lt {bound n : Nat} (h : n < bound) :
    natBelow? bound (.integer n) = some n := by
  have range : (0 ≤ (n : Int) && (n : Int) < bound) = true := by
    simp only [Bool.and_eq_true, decide_eq_true_eq]
    omega
  rw [natBelow?, if_pos range, Int.toNat_natCast]

/-- A value that stands for a setting is read. -/
theorem Setting.decode_of_means {s : Setting} {v : Toml.Value} {x : s.Content} (h : s.Means v x) :
    ∃ y, s.decode v = some y := by
  cases s
  case host | symbolPrefix | service | function => cases h; exact ⟨_, rfl⟩
  case port =>
    obtain ⟨rfl, hx⟩ := h
    simp only [decode]
    exact ⟨x, natBelow?_of_lt (Nat.lt_succ_of_le hx)⟩
  case timeoutMs | maxInputBytes | payloadRepeat =>
    obtain ⟨rfl, hx⟩ := h
    simp only [decode]
    exact ⟨x, natBelow?_of_lt hx⟩
  case enabled | preferNative => cases h; exact ⟨_, rfl⟩
  case library | mode =>
    obtain ⟨cs, rfl, -⟩ := h
    exact ⟨_, rfl⟩
  case iterations =>
    obtain ⟨n, rfl, hn, -⟩ := h
    simp only [decode]
    exact ⟨n, natBelow?_of_lt hn⟩

theorem section_of_not_misfit {document : List (String × Toml.Value)} (h : ¬ Misfit document)
    (s : Section) : ∃ es, sectionEntries s.keys (Keyed.get? s.name document) = some es := by
  cases given : Keyed.get? s.name document with
  | none => exact ⟨[], rfl⟩
  | some v =>
    by_cases fits : s.Fits v
    · exact sectionEntries_of_fits fits
    · exact absurd (.home given fits) h

theorem setting_of_not_misfit {document es : List (String × Toml.Value)} (h : ¬ Misfit document)
    (s : Setting) (hs : sectionEntries s.home.keys (Keyed.get? s.home.name document) = some es) :
    ∃ o, setting s.decode s.key es = some o := by
  rw [setting, get?_sectionEntries s hs]
  cases given : s.given? document with
  | none => exact ⟨none, rfl⟩
  | some v =>
    by_cases means : ∃ x, s.Means v x
    · obtain ⟨x, hx⟩ := means
      obtain ⟨y, hy⟩ := Setting.decode_of_means hx
      exact ⟨some y, by simp only [hy, Option.map_some]⟩
    · exact absurd (.setting given fun x hx => means ⟨x, hx⟩) h

/-- Entries are accepted if every known key has a value that it may have. -/
theorem overrides?_of_not_misfit {document : List (String × Toml.Value)} (h : ¬ Misfit document) :
    ∃ o, overrides? document = some o := by
  have reads (s : Setting) {es : List (String × Toml.Value)}
      (hs : sectionEntries s.home.keys (Keyed.get? s.home.name document) = some es) :
      ∃ o, setting s.decode s.key es = some o := setting_of_not_misfit h s hs
  obtain ⟨network, hnetwork⟩ := section_of_not_misfit h .network
  obtain ⟨host, hhost⟩ := reads .host hnetwork
  obtain ⟨port, hport⟩ := reads .port hnetwork
  obtain ⟨timeout, htimeout⟩ := reads .timeoutMs hnetwork
  obtain ⟨native, hnative⟩ := section_of_not_misfit h .native
  obtain ⟨enabled, henabled⟩ := reads .enabled hnative
  obtain ⟨library, hlibrary⟩ := reads .library hnative
  obtain ⟨symbols, hsymbols⟩ := reads .symbolPrefix hnative
  obtain ⟨bytes, hbytes⟩ := reads .maxInputBytes hnative
  obtain ⟨routing, hrouting⟩ := section_of_not_misfit h .routing
  obtain ⟨mode, hmode⟩ := reads .mode hrouting
  obtain ⟨prefer, hprefer⟩ := reads .preferNative hrouting
  obtain ⟨bench, hbench⟩ := section_of_not_misfit h .benchmark
  obtain ⟨iterations, hiterations⟩ := reads .iterations hbench
  obtain ⟨service, hservice⟩ := reads .service hbench
  obtain ⟨function, hfunction⟩ := reads .function hbench
  obtain ⟨repeats, hrepeats⟩ := reads .payloadRepeat hbench
  simp only [overrides?, networkOverrides?, nativeOverrides?, routingOverrides?,
    benchmarkOverrides?, Option.bind_eq_bind, Option.bind_eq_some_iff, Option.pure_def,
    Option.some_inj]
  exact ⟨_, _, ⟨network, hnetwork, host, hhost, port, hport, timeout, htimeout, rfl⟩,
    _, ⟨native, hnative, enabled, henabled, library, hlibrary, symbols, hsymbols, bytes, hbytes,
      rfl⟩,
    _, ⟨routing, hrouting, mode, hmode, prefer, hprefer, rfl⟩,
    _, ⟨bench, hbench, iterations, hiterations, service, hservice, function, hfunction, repeats,
      hrepeats, rfl⟩, rfl⟩

/-- The section of an accepted document, whichever it is. -/
theorem section_of_overrides? {document : List (String × Toml.Value)} {o : Overrides}
    (h : overrides? document = some o) (s : Section) :
    ∃ es, sectionEntries s.keys (Keyed.get? s.name document) = some es := by
  simp only [overrides?, networkOverrides?, nativeOverrides?, routingOverrides?,
    benchmarkOverrides?, Option.bind_eq_bind, Option.bind_eq_some_iff, Option.pure_def,
    Option.some_inj] at h
  obtain ⟨_, ⟨network, hnetwork, -⟩, _, ⟨native, hnative, -⟩, _, ⟨routing, hrouting, -⟩,
    _, ⟨bench, hbench, -⟩, -⟩ := h
  cases s with
  | network => exact ⟨network, hnetwork⟩
  | native => exact ⟨native, hnative⟩
  | routing => exact ⟨routing, hrouting⟩
  | benchmark => exact ⟨bench, hbench⟩

/-- Entries are refused for a known key with a value that it may not have, and for nothing else. -/
theorem overrides?_eq_none_iff {document : List (String × Toml.Value)} :
    overrides? document = none ↔ Misfit document := by
  constructor
  · intro refused
    by_cases h : Misfit document
    · exact h
    · obtain ⟨o, ho⟩ := overrides?_of_not_misfit h
      rw [refused] at ho
      cases ho
  · intro h
    rw [Option.eq_none_iff_forall_ne_some]
    intro o accepted
    cases h with
    | @home s v given unfit =>
      obtain ⟨es, hes⟩ := section_of_overrides? accepted s
      rw [given] at hes
      exact unfit (fits_of_sectionEntries hes)
    | @setting s v given unfit =>
      obtain ⟨x, hx, -⟩ := (raw_overrides? accepted s).present v given
      exact unfit _ (Setting.means_use hx)

theorem ofToml?_eq_none_iff {document : String} :
    ofToml? document = none ↔
      Toml.parse document = none ∨ ∃ es, Toml.parse document = some es ∧ Misfit es := by
  rw [ofToml?, Option.map_eq_none_iff, Overrides.ofToml?]
  cases Toml.parse document with
  | none => simp
  | some es => simp [overrides?_eq_none_iff]

/-! ## Files -/

/-- What is wrong with a file. -/
inductive Defect : File → Prop
  | missing : Defect .missing
  | unreadable : Defect .unreadable
  /-- The bytes are no text in UTF-8. -/
  | encoding {bytes : List UInt8} (other : ∀ document, bytes ≠ Utf8.bytes document) :
      Defect (.content bytes)
  /-- The text is no document. -/
  | malformed {document : String} (refused : Toml.parse document = none) :
      Defect (.content (Utf8.bytes document))
  /-- A key is given twice. -/
  | repeated {document : String} (twice : Toml.Repeats document) :
      Defect (.content (Utf8.bytes document))
  /-- A known key has a value of another type, or one that is out of range. -/
  | misfit {document : String} {es : List (String × Toml.Value)}
      (read : Toml.parse document = some es) (unfit : Misfit es) :
      Defect (.content (Utf8.bytes document))

/-- A file holds the bytes of a document with a configuration. -/
def Gives (file : File) (c : Config) : Prop :=
  ∃ document, file = .content (Utf8.bytes document) ∧ ofToml? document = some c

theorem loadFrom_bytes (document : String) :
    (loadFrom (.content (Utf8.bytes document))).1 = (ofToml? document).getD embedded := by
  unfold loadFrom
  generalize embedded = standard
  simp only [Utf8.text?_bytes]
  cases ofToml? document <;> rfl

theorem loadFrom_of_gives {file : File} {c : Config} (h : Gives file c) :
    (loadFrom file).1 = c := by
  obtain ⟨document, rfl, accepted⟩ := h
  rw [loadFrom_bytes, accepted, Option.getD_some]

/-- Nothing of a document that is refused is used. -/
theorem loadFrom_of_not_gives {file : File} (h : ∀ c, ¬ Gives file c) :
    (loadFrom file).1 = embedded := by
  cases file with
  | missing | unreadable =>
    unfold loadFrom
    generalize embedded = standard
    rfl
  | content bytes =>
    cases text : Utf8.text? bytes with
    | none =>
      unfold loadFrom
      generalize embedded = standard
      simp only [text]
    | some document =>
      obtain rfl := Utf8.text?_eq_some_iff.mp text
      cases accepted : ofToml? document with
      | none => rw [loadFrom_bytes, accepted, Option.getD_none]
      | some c => exact absurd ⟨document, rfl, accepted⟩ (h c)

/-- The configuration of a user is the one of the file. -/
theorem load_eq_loadFrom (file : File) : (load file).1 = (loadFrom file).1 := by
  cases file <;> rfl

/-- Whatever is loaded has at least one iteration. -/
theorem iterations_load_ne_zero (file : File) : (load file).1.benchmark.iterations ≠ 0 := by
  have settings (o : Overrides) : o.config.benchmark.iterations ≠ 0 :=
    Nat.ne_of_gt (Nat.le_max_left 1 _)
  rw [load_eq_loadFrom]
  by_cases h : ∃ c, Gives file c
  · obtain ⟨c, hc⟩ := h
    rw [loadFrom_of_gives hc]
    obtain ⟨document, -, accepted⟩ := hc
    obtain ⟨es, user, -, -, rfl⟩ := ofToml?_eq_some accepted
    exact settings _
  · rw [loadFrom_of_not_gives fun c hc => h ⟨c, hc⟩]
    exact settings _

/-- The files with a defect are those that give no configuration. -/
theorem defect_iff {file : File} : Defect file ↔ ∀ c, ¬ Gives file c := by
  constructor
  · rintro defect c ⟨document, rfl, accepted⟩
    have refused : ofToml? document = none := by
      generalize hfile : File.content (Utf8.bytes document) = file at defect
      have same {document' : String} (h : File.content (Utf8.bytes document) =
          .content (Utf8.bytes document')) : document = document' := by
        have := congrArg Utf8.text? (File.content.inj h)
        rwa [Utf8.text?_bytes, Utf8.text?_bytes, Option.some_inj] at this
      cases defect with
      | missing | unreadable => cases hfile
      | encoding other => exact absurd (File.content.inj hfile).symm (other document)
      | malformed refused => obtain rfl := same hfile; exact ofToml?_eq_none_iff.mpr (.inl refused)
      | repeated twice =>
        obtain rfl := same hfile
        exact ofToml?_eq_none_iff.mpr (.inl twice.parse_eq_none)
      | misfit read unfit =>
        obtain rfl := same hfile
        exact ofToml?_eq_none_iff.mpr (.inr ⟨_, read, unfit⟩)
    rw [refused] at accepted
    cases accepted
  · intro nothing
    cases file with
    | missing => exact .missing
    | unreadable => exact .unreadable
    | content bytes =>
      cases text : Utf8.text? bytes with
      | none =>
        refine .encoding fun document hbytes => ?_
        rw [Utf8.text?_eq_some_iff.mpr hbytes] at text
        cases text
      | some document =>
        obtain rfl := Utf8.text?_eq_some_iff.mp text
        have refused : ofToml? document = none :=
          Option.eq_none_iff_forall_ne_some.mpr fun c accepted =>
            nothing c ⟨document, rfl, accepted⟩
        rcases ofToml?_eq_none_iff.mp refused with refused | ⟨es, read, unfit⟩
        · exact .malformed refused
        · exact .misfit read unfit

/-- **All or nothing.** A file that holds the bytes of a document with a configuration gives this
configuration. Every other file has a defect and gives the embedded configuration, wherever the
defect is and whatever else the document holds. -/
theorem loads_whole_or_embedded (file : File) :
    (∀ c, Gives file c → (loadFrom file).1 = c ∧ (load file).1 = c) ∧
    (Defect file → (loadFrom file).1 = embedded ∧ (load file).1 = embedded) ∧
    (Defect file ↔ ∀ c, ¬ Gives file c) := by
  rw [load_eq_loadFrom]
  refine ⟨fun c gives => ?_, fun defect => ?_, defect_iff⟩
  · exact ⟨loadFrom_of_gives gives, loadFrom_of_gives gives⟩
  · have refused := loadFrom_of_not_gives (defect_iff.mp defect)
    exact ⟨refused, refused⟩

def portTwice : String := "network.port=80\nnetwork.port=81"

theorem repeats_portTwice : Toml.Repeats portTwice := by
  have first : Toml.LineStep (Toml.start portTwice)
      ⟨31, ⟨[("network", .table .dottedKey [("port", .value (.integer 80))])], []⟩,
        "network.port=81".toList⟩ := by
    unfold portTwice
    exact ⟨'n', "etwork.port=80\nnetwork.port=81".toList, by cbv, by cbv, by cbv⟩
  have again : Toml.readPair (Toml.readValue 31 (Toml.maxDepth - 1)) 31 "network.port=81".toList =
      some (((["network"], "port"), .integer 81), []) := by cbv
  exact ⟨_, .single first, .setting ⟨rfl, by decide, by decide⟩ again rfl⟩

def modeNumber : String := "network.port=80\nrouting.mode=1"

theorem parse_modeNumber :
    Toml.parse modeNumber =
      some [("network", .table [("port", .integer 80)]),
        ("routing", .table [("mode", .integer 1)])] := by
  unfold modeNumber
  cbv

/-- The port is taken from a document without a defect, and from none with a second port or with a
mode that is a number. -/
theorem loads_whole_or_embedded_three :
    (∃ c, Gives (.content (Utf8.bytes fourSettings)) c ∧ c.network.port = 80 ∧
      (load (.content (Utf8.bytes fourSettings))).1 = c) ∧
    (Defect (.content (Utf8.bytes portTwice)) ∧
      (load (.content (Utf8.bytes portTwice))).1 = embedded) ∧
    Defect (.content (Utf8.bytes modeNumber)) ∧
      (load (.content (Utf8.bytes modeNumber))).1 = embedded := by
  obtain ⟨c, hc⟩ := ofToml?_fourSettings
  have gives : Gives (.content (Utf8.bytes fourSettings)) c := ⟨_, rfl, hc⟩
  have twice : Defect (.content (Utf8.bytes portTwice)) := .repeated repeats_portTwice
  have number : Defect (.content (Utf8.bytes modeNumber)) := by
    refine .misfit parse_modeNumber (.setting (s := .mode) (v := .integer 1) rfl ?_)
    rintro x ⟨cs, hv, -⟩
    cases hv
  refine ⟨⟨c, gives, ?_, ((loads_whole_or_embedded _).1 c gives).2⟩,
    ⟨twice, ((loads_whole_or_embedded _).2.1 twice).2⟩,
    number, ((loads_whole_or_embedded _).2.1 number).2⟩
  obtain ⟨es, user, hes, huser, rfl⟩ := ofToml?_eq_some hc
  rw [parse_fourSettings] at hes
  cases hes
  obtain ⟨hv, -⟩ := (byKey_overrides? huser).present .port _ rfl
  exact (Int.ofNat_inj.mp (Toml.Value.integer.inj hv)).symm

end Switchboard.Config
