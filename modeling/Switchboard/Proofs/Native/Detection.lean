import Switchboard.Native.Strategy
import Switchboard.Proofs.Native.Limits

/-!
# A detection names the first obstacle

On the way to an extension nine things have to be right: the strategy is enabled, a library is
configured, its file is there and can be loaded, four symbols resolve, and the runtime is not null.

* `Ready`: all nine are right;
* `Blocked`: one is not and all before it are, with what is tried up to there;
* `Obstacle.Worded`: what is said about the one that is not.

One of the two is the case (`ready_or_blocked`), and each settles what a detection finds and what it
tries (`detect_of_ready`, `detect_of_blocked`). So what is found tells which of them is the case, and
which obstacle is the first (`found_eq_available_iff`, `found_eq_unavailable_iff`). `detect_exact`
puts this together with what is tried.
-/
namespace Switchboard.Native

variable {ρ : Type}

/-! ## Symbols -/

/-- A library has a symbol, and the symbol has no NUL inside, so that it can be looked up. -/
def Library.Resolves (l : Library ρ) (symbol : String) : Prop :=
  '\x00' ∉ symbol.toList ∧ l.exports symbol = true

instance (l : Library ρ) (symbol : String) : Decidable (l.Resolves symbol) :=
  inferInstanceAs (Decidable (_ ∧ _))

/-- The symbols of an extension's functions in the order in which they are looked up. -/
def Settings.symbols (s : Settings) : List String :=
  [s.symbolPrefix ++ "runtime_new", s.symbolPrefix ++ "runtime_free",
    s.symbolPrefix ++ "call_function", s.symbolPrefix ++ "string_free"]

theorem Settings.symbols_eq (s : Settings) :
    s.symbols = functionNames.map (s.symbolPrefix ++ ·) := rfl

def Settings.creator (s : Settings) : String := s.symbolPrefix ++ "runtime_new"

section

variable {l : Library ρ} {symbol : String} {symbols before after : List String}

theorem resolve_cons (h : l.Resolves symbol) :
    l.resolve (symbol :: symbols) =
      ((l.resolve symbols).1, .findSymbol symbol :: (l.resolve symbols).2) := by
  obtain ⟨plain, exported⟩ := h
  rw [Library.resolve, hasNul_eq_false.mpr plain, exported]
  rfl

theorem resolve_of_missing (h : ¬ l.Resolves symbol) :
    l.resolve (symbol :: symbols) = (some symbol, [.findSymbol symbol]) := by
  have stuck : (hasNul symbol || !l.exports symbol) = true := by
    rw [Library.Resolves, ← hasNul_eq_false] at h
    cases nul : hasNul symbol with
    | true => rfl
    | false => simpa [nul] using h
  rw [Library.resolve, if_pos stuck]

theorem resolve_of_all (h : ∀ x ∈ symbols, l.Resolves x) :
    l.resolve symbols = (none, symbols.map .findSymbol) := by
  induction symbols with
  | nil => rfl
  | cons symbol symbols ih =>
    obtain ⟨first, others⟩ := List.forall_mem_cons.mp h
    rw [resolve_cons first, ih others]
    rfl

theorem resolve_of_first (h : ∀ x ∈ before, l.Resolves x) (missing : ¬ l.Resolves symbol) :
    l.resolve (before ++ symbol :: after) =
      (some symbol, (before ++ [symbol]).map .findSymbol) := by
  induction before with
  | nil => exact resolve_of_missing missing
  | cons x before ih =>
    obtain ⟨first, others⟩ := List.forall_mem_cons.mp h
    rw [List.cons_append, resolve_cons first, ih others]
    rfl

/-- Either all symbols resolve, or one is the first that does not. -/
theorem resolves_or_first (l : Library ρ) (symbols : List String) :
    (∀ x ∈ symbols, l.Resolves x) ∨ ∃ before symbol after, symbols = before ++ symbol :: after ∧
      (∀ x ∈ before, l.Resolves x) ∧ ¬ l.Resolves symbol := by
  cases found : symbols.find? fun x => ¬ l.Resolves x with
  | none => exact .inl fun x hx => by simpa using List.find?_eq_none.mp found x hx
  | some symbol =>
    obtain ⟨missing, before, after, order, resolved⟩ := List.find?_eq_some_iff_append.mp found
    exact .inr ⟨before, symbol, after, order, fun x hx => by simpa using resolved x hx,
      by simpa using missing⟩

end

/-! ## An opened library -/

section

variable {l : Library ρ} {s : Settings}

theorem start_of_first {path symbol : String} {before after : List String}
    (order : s.symbols = before ++ symbol :: after) (h : ∀ x ∈ before, l.Resolves x)
    (missing : ¬ l.Resolves symbol) :
    l.start path s.symbolPrefix =
      { result := .error (.noSymbol path symbol), probes := (before ++ [symbol]).map .findSymbol } := by
  have names : l.resolve s.symbols = _ := order ▸ resolve_of_first h missing
  rw [Settings.symbols_eq] at names
  simp only [Library.start, names]

theorem start_of_null (path : String) (h : ∀ x ∈ s.symbols, l.Resolves x)
    (null : l.newRuntime s.creator = none) :
    l.start path s.symbolPrefix =
      { result := .error (.nullRuntime s.creator)
        probes := s.symbols.map .findSymbol ++ [.createRuntime s.creator] } := by
  have names := resolve_of_all h
  rw [Settings.symbols_eq] at names ⊢
  simp only [Library.start, names]
  split
  · rfl
  · next runtime created => cases created.symm.trans null

theorem start_of_created (path : String) {runtime : ρ} (h : ∀ x ∈ s.symbols, l.Resolves x)
    (created : l.newRuntime s.creator = some runtime) :
    l.start path s.symbolPrefix =
      { result := .ok { module := l.module (s.symbolPrefix ++ "call_function"), runtime }
        probes := s.symbols.map .findSymbol ++ [.createRuntime s.creator] } := by
  have names := resolve_of_all h
  rw [Settings.symbols_eq] at names ⊢
  simp only [Library.start, names]
  split
  · next null => cases null.symm.trans created
  · next runtime' created' => cases created'.symm.trans created; rfl

end

/-! ## The way to an extension -/

/-- The settings lead to a library: they ask for one, and its file is there and can be loaded. -/
structure Opens (disk : Disk ρ) (s : Settings) (path : String) (l : Library ρ) : Prop where
  enabled : s.enabled = true
  configured : s.library = some path
  loaded : disk path = .library l

/-- Everything is right: the library has all four symbols and creates a runtime. -/
structure Ready (disk : Disk ρ) (s : Settings) (path : String) (l : Library ρ) (runtime : ρ) : Prop
    extends Opens disk s path l where
  resolved : ∀ symbol ∈ s.symbols, l.Resolves symbol
  created : l.newRuntime s.creator = some runtime

/-- What is tried until symbols of an opened library have been looked up. -/
def lookups (path : String) (symbols : List String) : List Probe :=
  .findFile path :: .openLibrary path :: symbols.map .findSymbol

/-- The first obstacle, with what is tried until it is met. What comes before it is in order. -/
inductive Blocked (disk : Disk ρ) (s : Settings) : Obstacle → List Probe → Prop
  | disabled (off : s.enabled = false) : Blocked disk s .disabled []
  | notConfigured (on : s.enabled = true) (missing : s.library = none) :
      Blocked disk s .notConfigured []
  | notFound {path : String} (on : s.enabled = true) (configured : s.library = some path)
      (absent : disk path = .absent) : Blocked disk s (.notFound path) [.findFile path]
  | notLoaded {path why : String} (on : s.enabled = true) (configured : s.library = some path)
      (unloadable : disk path = .unloadable why) :
      Blocked disk s (.notLoaded path why) [.findFile path, .openLibrary path]
  | noSymbol {path : String} {l : Library ρ} {before after : List String} {symbol : String}
      (opens : Opens disk s path l) (order : s.symbols = before ++ symbol :: after)
      (resolved : ∀ x ∈ before, l.Resolves x) (missing : ¬ l.Resolves symbol) :
      Blocked disk s (.noSymbol path symbol) (lookups path (before ++ [symbol]))
  | nullRuntime {path : String} {l : Library ρ} (opens : Opens disk s path l)
      (resolved : ∀ x ∈ s.symbols, l.Resolves x)
      (null : l.newRuntime s.creator = none) :
      Blocked disk s (.nullRuntime s.creator)
        (lookups path s.symbols ++ [.createRuntime s.creator])

/-- An obstacle in words. It makes a difference whether a symbol can be looked up at all. -/
inductive Obstacle.Worded : Obstacle → String → Prop
  | disabled : Worded .disabled "native strategy disabled in config"
  | notConfigured : Worded .notConfigured "no native library configured"
  | notFound (path : String) : Worded (.notFound path) ("native library not found: " ++ path)
  | notLoaded (path why : String) : Worded (.notLoaded path why)
      ("failed to load " ++ path ++ ": " ++ path ++ ": " ++ why)
  | undefined (path symbol : String) (plain : '\x00' ∉ symbol.toList) :
      Worded (.noSymbol path symbol)
        ("missing symbol " ++ symbol ++ ": " ++ (path ++ ": undefined symbol: " ++ symbol))
  | spoilt (path symbol : String) (nul : '\x00' ∈ symbol.toList) :
      Worded (.noSymbol path symbol)
        ("missing symbol " ++ symbol ++ ": " ++ "could not create a C string from bytes")
  | nullRuntime (symbol : String) : Worded (.nullRuntime symbol) (symbol ++ " returned null")

theorem Obstacle.message_of_plain (path : String) {symbol : String}
    (plain : '\x00' ∉ symbol.toList) :
    (noSymbol path symbol).message =
      "missing symbol " ++ symbol ++ ": " ++ (path ++ ": undefined symbol: " ++ symbol) :=
  congrArg ("missing symbol " ++ symbol ++ ": " ++ ·)
    (if_neg (Bool.eq_false_iff.mp (hasNul_eq_false.mpr plain)))

theorem Obstacle.message_of_nul (path : String) {symbol : String}
    (nul : '\x00' ∈ symbol.toList) :
    (noSymbol path symbol).message =
      "missing symbol " ++ symbol ++ ": " ++ "could not create a C string from bytes" :=
  congrArg ("missing symbol " ++ symbol ++ ": " ++ ·) (if_pos (List.contains_iff_mem.mpr nul))

theorem Obstacle.worded_iff {o : Obstacle} {reason : String} :
    o.Worded reason ↔ reason = o.message := by
  constructor
  · intro h
    cases h with
    | undefined path symbol plain => exact (message_of_plain path plain).symm
    | spoilt path symbol nul => exact (message_of_nul path nul).symm
    | _ => rfl
  · rintro rfl
    cases o with
    | noSymbol path symbol =>
      by_cases nul : '\x00' ∈ symbol.toList
      · exact message_of_nul path nul ▸ .spoilt path symbol nul
      · exact message_of_plain path nul ▸ .undefined path symbol nul
    | _ => constructor

section

variable {disk : Disk ρ} {s : Settings}

theorem ready_or_blocked (disk : Disk ρ) (s : Settings) :
    (∃ path l runtime, Ready disk s path l runtime) ∨ ∃ o tried, Blocked disk s o tried := by
  -- each case is split only where all before it are in order, so what fails there is the first
  cases on : s.enabled with
  | false => exact .inr ⟨_, _, .disabled on⟩
  | true =>
    cases configured : s.library with
    | none => exact .inr ⟨_, _, .notConfigured on configured⟩
    | some path =>
      cases image : disk path with
      | absent => exact .inr ⟨_, _, .notFound on configured image⟩
      | unloadable why => exact .inr ⟨_, _, .notLoaded on configured image⟩
      | library l =>
        have opens : Opens disk s path l := ⟨on, configured, image⟩
        rcases resolves_or_first l s.symbols with resolved | ⟨before, symbol, after, order, h, h'⟩
        · cases created : l.newRuntime s.creator with
          | none => exact .inr ⟨_, _, .nullRuntime opens resolved created⟩
          | some runtime => exact .inl ⟨path, l, runtime, opens, resolved, created⟩
        · exact .inr ⟨_, _, .noSymbol opens order h h'⟩

/-- A detection that opens a library looks up its functions and creates a runtime. -/
theorem Opens.detect {path : String} {l : Library ρ} (h : Opens disk s path l) :
    ((detect disk s).found = match (l.start path s.symbolPrefix).result with
      | .ok x => .available { module := x.module, runtime := x.runtime, limits := s.limits }
      | .error o => .unavailable o.message) ∧
    (detect disk s).probes =
      .findFile path :: .openLibrary path :: (l.start path s.symbolPrefix).probes := by
  unfold Native.detect load
  rw [h.enabled, h.configured]
  simp only [h.loaded]
  cases (l.start path s.symbolPrefix).result <;> exact ⟨rfl, rfl⟩

theorem detect_of_ready {path : String} {l : Library ρ} {runtime : ρ}
    (h : Ready disk s path l runtime) :
    (detect disk s).found = .available
        { module := l.module (s.symbolPrefix ++ "call_function"), runtime
          limits := { maxInputBytes := s.maxInputBytes } } ∧
      (detect disk s).probes = lookups path s.symbols ++ [.createRuntime s.creator] := by
  rw [h.toOpens.detect.1, h.toOpens.detect.2, start_of_created path h.resolved h.created]
  exact ⟨rfl, rfl⟩

theorem detect_of_blocked {o : Obstacle} {tried : List Probe} (h : Blocked disk s o tried) :
    (detect disk s).found = .unavailable o.message ∧ (detect disk s).probes = tried := by
  cases h with
  | disabled off => simp [detect, off, Detection.none]
  | notConfigured on missing => simp [detect, on, missing, Detection.none]
  | notFound on configured absent => simp [detect, on, configured, load, absent]
  | notLoaded on configured unloadable => simp [detect, on, configured, load, unloadable]
  | noSymbol opens order resolved missing =>
    rw [opens.detect.1, opens.detect.2, start_of_first order resolved missing]
    exact ⟨rfl, rfl⟩
  | nullRuntime opens resolved null =>
    rw [opens.detect.1, opens.detect.2, start_of_null _ resolved null]
    exact ⟨rfl, rfl⟩

theorem found_eq_available_iff {e : Extension ρ} :
    (detect disk s).found = .available e ↔
      ∃ path l runtime, Ready disk s path l runtime ∧
        e = { module := l.module (s.symbolPrefix ++ "call_function"), runtime
              limits := { maxInputBytes := s.maxInputBytes } } := by
  constructor
  · intro found
    rcases ready_or_blocked disk s with ⟨path, l, runtime, ready⟩ | ⟨o, tried, blocked⟩
    · have ours := found.symm.trans (detect_of_ready ready).1
      exact ⟨path, l, runtime, ready, Availability.available.inj ours⟩
    · cases found.symm.trans (detect_of_blocked blocked).1
  · rintro ⟨path, l, runtime, ready, rfl⟩
    exact (detect_of_ready ready).1

theorem found_eq_unavailable_iff {reason : String} :
    (detect disk s).found = .unavailable reason ↔
      ∃ o tried, Blocked disk s o tried ∧ o.Worded reason := by
  simp only [Obstacle.worded_iff]
  constructor
  · intro found
    rcases ready_or_blocked disk s with ⟨path, l, runtime, ready⟩ | ⟨o, tried, blocked⟩
    · cases found.symm.trans (detect_of_ready ready).1
    · have ours := found.symm.trans (detect_of_blocked blocked).1
      exact ⟨o, tried, blocked, Availability.unavailable.inj ours⟩
  · rintro ⟨o, tried, blocked, rfl⟩
    exact (detect_of_blocked blocked).1

/-- Looking for a library and its symbols creates nothing. -/
theorem createRuntime_not_mem_lookups (symbol path : String) (symbols : List String) :
    .createRuntime symbol ∉ lookups path symbols := by
  simp [lookups]

theorem createRuntime_mem_probes (disk : Disk ρ) (s : Settings) (symbol : String) :
    .createRuntime symbol ∈ (detect disk s).probes ↔
      symbol = s.creator ∧ ∃ path l, Opens disk s path l ∧ ∀ x ∈ s.symbols, l.Resolves x := by
  constructor
  · intro h
    rcases ready_or_blocked disk s with ⟨path, l, runtime, ready⟩ | ⟨o, tried, blocked⟩
    · rw [(detect_of_ready ready).2] at h
      simp only [List.mem_append, createRuntime_not_mem_lookups, List.mem_singleton, false_or,
        Probe.createRuntime.injEq] at h
      exact ⟨h, path, l, ready.toOpens, ready.resolved⟩
    · rw [(detect_of_blocked blocked).2] at h
      cases blocked with
      | disabled | notConfigured | notFound | notLoaded => simp at h
      | noSymbol => exact absurd h (createRuntime_not_mem_lookups _ _ _)
      | nullRuntime opens resolved =>
        simp only [List.mem_append, createRuntime_not_mem_lookups, List.mem_singleton, false_or,
          Probe.createRuntime.injEq] at h
        exact ⟨h, _, _, opens, resolved⟩
  · rintro ⟨rfl, path, l, opens, resolved⟩
    cases created : l.newRuntime s.creator with
    | none =>
      rw [(detect_of_blocked (.nullRuntime opens resolved created)).2]
      exact List.mem_append_right _ (List.mem_singleton_self _)
    | some runtime =>
      rw [(detect_of_ready ⟨opens, resolved, created⟩).2]
      exact List.mem_append_right _ (List.mem_singleton_self _)

end

/-- **A detection reports the first obstacle.** Whatever the settings, the files and the libraries
are, an extension is found if everything is right, with the configured bytes as its limit. Otherwise
none is found, for the reason that is the first obstacle's in words, and nothing is tried behind
that. A runtime is created only where all four symbols resolve. -/
theorem detect_exact (disk : Disk ρ) (s : Settings) :
    (∀ e, (detect disk s).found = .available e ↔
      ∃ path l runtime, Ready disk s path l runtime ∧
        e = { module := l.module (s.symbolPrefix ++ "call_function"), runtime
              limits := { maxInputBytes := s.maxInputBytes } }) ∧
    (∀ reason, (detect disk s).found = .unavailable reason ↔
      ∃ o tried, Blocked disk s o tried ∧ o.Worded reason) ∧
    (∀ o tried, Blocked disk s o tried → (detect disk s).probes = tried) ∧
    ∀ symbol, .createRuntime symbol ∈ (detect disk s).probes ↔
      symbol = s.creator ∧ ∃ path l, Opens disk s path l ∧ ∀ x ∈ s.symbols, l.Resolves x := by
  refine ⟨fun e => found_eq_available_iff, fun reason => found_eq_unavailable_iff, ?_,
    createRuntime_mem_probes disk s⟩
  intro o tried blocked
  exact (detect_of_blocked blocked).2

/-- A library in which the last two functions are missing, and whose runtime is null. -/
def halfLibrary : Library Unit where
  exports symbol := ["runtime_new", "runtime_free"].contains symbol
  newRuntime _ := none
  call _ runtime _ _ _ := (⟨0, none⟩, runtime)

def wholeLibrary : Library Unit where
  exports _ := true
  newRuntime _ := some ()
  call _ runtime _ _ _ := (⟨0, none⟩, runtime)

/-- Of three obstacles the third symbol is the first, and nothing behind it is tried. The whole
library is found, unless a NUL stands in front of its symbols. -/
theorem detect_exact_half :
    let s : Settings := { library := some "/ext.so", symbolPrefix := "", maxInputBytes := 7 }
    let spoilt : Settings := { s with symbolPrefix := "\x00" }
    let half : Disk Unit := fun _ => .library halfLibrary
    let whole : Disk Unit := fun _ => .library wholeLibrary
    Blocked half s (.noSymbol "/ext.so" "call_function")
        (lookups "/ext.so" ["runtime_new", "runtime_free", "call_function"]) ∧
      (detect half s).found =
        .unavailable "missing symbol call_function: /ext.so: undefined symbol: call_function" ∧
      (detect half s).probes =
        lookups "/ext.so" ["runtime_new", "runtime_free", "call_function"] ∧
      (detect whole spoilt).found = .unavailable
        "missing symbol \x00runtime_new: could not create a C string from bytes" ∧
      (detect whole s).found = .available
        { module := wholeLibrary.module "call_function", runtime := ()
          limits := { maxInputBytes := 7 } } := by
  intro s spoilt half whole
  have opened : Opens half s "/ext.so" halfLibrary := ⟨rfl, rfl, rfl⟩
  have order : s.symbols =
    ["runtime_new", "runtime_free"] ++ "call_function" :: ["string_free"] := rfl
  have third : Blocked half s (.noSymbol "/ext.so" "call_function")
      (lookups "/ext.so" ["runtime_new", "runtime_free", "call_function"]) :=
    .noSymbol opened order (by decide) (by decide)
  have openedToo : Opens whole spoilt "/ext.so" wholeLibrary := ⟨rfl, rfl, rfl⟩
  have nul : Blocked whole spoilt (.noSymbol "/ext.so" "\x00runtime_new")
      (lookups "/ext.so" ([] ++ ["\x00runtime_new"])) :=
    .noSymbol openedToo rfl (by decide) (by decide)
  have ready : Ready whole s "/ext.so" wholeLibrary () :=
    { enabled := rfl, configured := rfl, loaded := rfl, resolved := by decide, created := rfl }
  refine ⟨third, ?_, (detect_exact half s).2.2.1 _ _ third, ?_, ?_⟩
  · exact ((detect_exact half s).2.1 _).mpr ⟨_, _, third, .undefined _ _ (by decide)⟩
  · exact ((detect_exact whole spoilt).2.1 _).mpr ⟨_, _, nul, .spoilt _ _ (by decide)⟩
  · exact ((detect_exact whole s).1 _).mpr ⟨_, _, (), ready, rfl⟩

end Switchboard.Native
