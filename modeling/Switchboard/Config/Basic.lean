import Switchboard.Bench.Harness
import Switchboard.Config.Overrides
import Switchboard.Dispatch.Dispatcher
import Switchboard.Native.Strategy
import Switchboard.Network.Endpoint
import Switchboard.Text.Blank
import Switchboard.Text.Fold

/-!
# Configurations

A configuration has settings for each part of the program. They come from a document, and where that
gives none from the `template`, which users copy (specification, E5). A library path is trimmed and
is none when nothing is left; a mode is known by its name or alias in any case, and any other text
means both; there is at least one iteration.

`Config.load` takes a document or leaves it: one that cannot be read counts for nothing (E3).
-/
namespace Switchboard

structure Config where
  network : Network.Settings := {}
  native : Native.Settings := {}
  routing : Dispatch.Routing := {}
  benchmark : Bench.Settings := {}
  deriving DecidableEq

/-- The mode with a name or an alias. -/
def Dispatch.Mode.ofName? (s : String) : Option Dispatch.Mode :=
  let name := Text.lower s
  if name = "both" || name = "auto" then some .both
  else if name = "network" || name = "http" then some .network
  else if name = "native" || name = "ffi" then some .native
  else none

namespace Config

/-- A path without the white space around it, unless nothing is left. -/
def pathOf? (s : String) : Option String :=
  let path := Text.trim s
  if path = "" then none else some path

def NetworkOverrides.settings (o : NetworkOverrides) : Network.Settings :=
  let standard : Network.Settings := {}
  { host := o.host.getD standard.host
    port := o.port.getD standard.port
    timeoutMs := o.timeoutMs.getD standard.timeoutMs }

def NativeOverrides.settings (o : NativeOverrides) : Native.Settings :=
  let standard : Native.Settings := {}
  { enabled := o.enabled.getD standard.enabled
    library := o.library.bind pathOf?
    symbolPrefix := o.symbolPrefix.getD standard.symbolPrefix
    maxInputBytes := o.maxInputBytes.getD standard.maxInputBytes }

def RoutingOverrides.settings (o : RoutingOverrides) : Dispatch.Routing :=
  let standard : Dispatch.Routing := {}
  { mode := (o.mode.bind Dispatch.Mode.ofName?).getD standard.mode
    preferNative := o.preferNative.getD standard.preferNative }

def BenchmarkOverrides.settings (o : BenchmarkOverrides) : Bench.Settings :=
  let standard : Bench.Settings := {}
  { iterations := max 1 (o.iterations.getD standard.iterations)
    service := o.service.getD standard.service
    function := o.function.getD standard.function
    payloadRepeat := o.payloadRepeat.getD standard.payloadRepeat }

def Overrides.config (o : Overrides) : Config where
  network := o.network.settings
  native := o.native.settings
  routing := o.routing.settings
  benchmark := o.benchmark.settings

def templateLines : List String :=
  ["# Default svcbridge configuration.",
    "# Copy to <config dir>/svcbridge/config.toml and override any key.",
    "",
    "[network]",
    "host = \x22localhost\x22",
    "port = 3000",
    "timeout_ms = 30000",
    "",
    "[native]",
    "enabled = true",
    "# Path to the native extension library. Empty means not installed.",
    "library = \x22\x22",
    "symbol_prefix = \x22svcbridge_\x22",
    "max_input_bytes = 10000000",
    "",
    "[routing]",
    "# \x22both\x22, \x22network\x22 or \x22native\x22",
    "mode = \x22both\x22",
    "prefer_native = true",
    "",
    "[benchmark]",
    "iterations = 10000",
    "service = \x22CryptoService\x22",
    "function = \x22hash_data\x22",
    "# payload is \x22test_data\x22 repeated this many times",
    "payload_repeat = 1000"]

def template : String := String.join (templateLines.map (· ++ "\n"))

def templateOverrides : Overrides := (Overrides.ofToml? template).getD {}

def embedded : Config := templateOverrides.config

def ofToml? (document : String) : Option Config :=
  (Overrides.ofToml? document).map fun user => (user.over templateOverrides).config

/-- What is found where the document should be. -/
inductive File where
  | missing
  /-- Something that is no file of bytes. -/
  | unreadable
  | content (bytes : List UInt8)

/-- The configuration of a file, whatever is in it. -/
def loadFrom : File → Config × List Event
  | .content bytes =>
    match Utf8.text? bytes with
    | none => (embedded, [.unreadableConfig])
    | some document =>
      match ofToml? document with
      | some config => (config, [])
      | none => (embedded, [.malformedConfig])
  | _ => (embedded, [.unreadableConfig])

/-- The configuration of a user, who may have no file (E5). -/
def load : File → Config × List Event
  | .missing => (embedded, [])
  | file => loadFrom file

end Config

end Switchboard
