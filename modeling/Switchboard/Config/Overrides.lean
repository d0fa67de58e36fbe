import Switchboard.Toml.Parser

/-!
# The settings of a document

A document may give any of the settings, in the four sections of the specification, E5. A section is
a table, or an array with all its settings in their order. A setting that is given has to be of its
type and in its range; whatever else a document holds does not matter.
-/
namespace Switchboard.Config

structure NetworkOverrides where
  host : Option String := none
  port : Option Nat := none
  timeoutMs : Option Nat := none

structure NativeOverrides where
  enabled : Option Bool := none
  library : Option String := none
  symbolPrefix : Option String := none
  maxInputBytes : Option Nat := none

structure RoutingOverrides where
  mode : Option String := none
  preferNative : Option Bool := none

structure BenchmarkOverrides where
  iterations : Option Nat := none
  service : Option String := none
  function : Option String := none
  payloadRepeat : Option Nat := none

structure Overrides where
  network : NetworkOverrides := {}
  native : NativeOverrides := {}
  routing : RoutingOverrides := {}
  benchmark : BenchmarkOverrides := {}

def text? : Toml.Value → Option String
  | .string cs => some (String.ofList cs)
  | _ => none

def flag? : Toml.Value → Option Bool
  | .bool b => some b
  | _ => none

def natBelow? (bound : Nat) : Toml.Value → Option Nat
  | .integer n => if 0 ≤ n && n < bound then some n.toNat else none
  | _ => none

/-- The entries of a section with the given settings. A date stands for a section without any. -/
def sectionEntries (names : List String) : Option Toml.Value → Option (List (String × Toml.Value))
  | none => some []
  | some (.table entries) => some entries
  | some (.array items) => if names.length ≤ items.length then some (names.zip items) else none
  | some .moment => some []
  | some _ => none

/-- A setting, if it is given, or nothing where it is not as it has to be. -/
def setting {α : Type} (decode : Toml.Value → Option α) (name : String)
    (entries : List (String × Toml.Value)) : Option (Option α) :=
  match Keyed.get? name entries with
  | none => some none
  | some v => (decode v).map some

def networkOverrides? (v : Option Toml.Value) : Option NetworkOverrides := do
  let es ← sectionEntries ["host", "port", "timeout_ms"] v
  return {
    host := ← setting text? "host" es
    port := ← setting (natBelow? 0x10000) "port" es
    timeoutMs := ← setting (natBelow? 0x10000000000000000) "timeout_ms" es }

def nativeOverrides? (v : Option Toml.Value) : Option NativeOverrides := do
  let es ← sectionEntries ["enabled", "library", "symbol_prefix", "max_input_bytes"] v
  return {
    enabled := ← setting flag? "enabled" es
    library := ← setting text? "library" es
    symbolPrefix := ← setting text? "symbol_prefix" es
    maxInputBytes := ← setting (natBelow? 0x10000000000000000) "max_input_bytes" es }

def routingOverrides? (v : Option Toml.Value) : Option RoutingOverrides := do
  let es ← sectionEntries ["mode", "prefer_native"] v
  return {
    mode := ← setting text? "mode" es
    preferNative := ← setting flag? "prefer_native" es }

def benchmarkOverrides? (v : Option Toml.Value) : Option BenchmarkOverrides := do
  let es ← sectionEntries ["iterations", "service", "function", "payload_repeat"] v
  return {
    iterations := ← setting (natBelow? 0x100000000) "iterations" es
    service := ← setting text? "service" es
    function := ← setting text? "function" es
    payloadRepeat := ← setting (natBelow? 0x10000000000000000) "payload_repeat" es }

/-- The settings that the entries of a document give. -/
def overrides? (entries : List (String × Toml.Value)) : Option Overrides := do
  return {
    network := ← networkOverrides? (Keyed.get? "network" entries)
    native := ← nativeOverrides? (Keyed.get? "native" entries)
    routing := ← routingOverrides? (Keyed.get? "routing" entries)
    benchmark := ← benchmarkOverrides? (Keyed.get? "benchmark" entries) }

def Overrides.ofToml? (document : String) : Option Overrides :=
  (Toml.parse document).bind overrides?

/-- The settings of `user`, and those of `base` where `user` gives none. -/
def Overrides.over (user base : Overrides) : Overrides where
  network :=
    { host := user.network.host <|> base.network.host
      port := user.network.port <|> base.network.port
      timeoutMs := user.network.timeoutMs <|> base.network.timeoutMs }
  native :=
    { enabled := user.native.enabled <|> base.native.enabled
      library := user.native.library <|> base.native.library
      symbolPrefix := user.native.symbolPrefix <|> base.native.symbolPrefix
      maxInputBytes := user.native.maxInputBytes <|> base.native.maxInputBytes }
  routing :=
    { mode := user.routing.mode <|> base.routing.mode
      preferNative := user.routing.preferNative <|> base.routing.preferNative }
  benchmark :=
    { iterations := user.benchmark.iterations <|> base.benchmark.iterations
      service := user.benchmark.service <|> base.benchmark.service
      function := user.benchmark.function <|> base.benchmark.function
      payloadRepeat := user.benchmark.payloadRepeat <|> base.benchmark.payloadRepeat }

end Switchboard.Config
