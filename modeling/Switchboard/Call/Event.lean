import Switchboard.Call.Kind
import Switchboard.Decimal.Fixed
import Switchboard.Network.Status

/-!
# What is logged

Every record that a part of the library writes is an `Event`; its level (specification, E4) and its
words are functions of it. Logging never changes what a part does: each returns its records beside
its result.
-/
namespace Switchboard

inductive Level where
  | debug
  | info
  | warn
  | error
  deriving DecidableEq, Repr

def Level.name : Level → String
  | debug => "DEBUG"
  | info => "INFO"
  | warn => "WARN"
  | error => "ERROR"

/-- Something worth a record. -/
inductive Event where
  /-- A network strategy has been built. -/
  | targeting (baseUrl : String)
  /-- A request is about to be sent. -/
  | posting (url : String)
  /-- A server answered with a status that is not a success. -/
  | refusedByServer (service function : String) (status : Nat)
  /-- The selector has chosen a strategy. -/
  | routed (service function : String) (strategy : Kind)
  /-- The native strategy could not be used and the network takes its place. -/
  | fallingBack (service function reason : String)
  /-- No extension library is configured. -/
  | noLibrary
  /-- An extension library has been loaded. -/
  | libraryLoaded (path : String)
  /-- An extension library cannot be used. -/
  | libraryUnusable (reason : String)
  /-- The configuration file is not a valid document. -/
  | malformedConfig
  /-- The configuration file cannot be read as text. -/
  | unreadableConfig
  /-- The native strategy is left out of a benchmark. -/
  | nativeSkipped (reason : String)
  /-- A strategy has made all calls of a benchmark. -/
  | measured (strategy : Kind) (calls : Nat) (seconds : Float)
  /-- A strategy has failed a call of a benchmark. -/
  | measurementFailed (message : String)
  /-- The program has started, with records from this level on. -/
  | started (level : Level)
  /-- The network strategy cannot be built. -/
  | networkNotBuilt (reason : String)

namespace Event

def level : Event → Level
  | targeting _ | posting _ | routed .. => .debug
  | noLibrary | libraryLoaded _ | libraryUnusable _ | nativeSkipped _ | measured .. | started _ =>
    .info
  | refusedByServer .. | fallingBack .. | malformedConfig | unreadableConfig => .warn
  | measurementFailed _ | networkNotBuilt _ => .error

/-- The level as the first record of the program words it. -/
def levelWord : Level → String
  | .debug => "Debug"
  | .info => "Info"
  | .warn => "Warn"
  | .error => "Error"

def message : Event → String
  | targeting url => "Network strategy targeting " ++ url
  | posting url => "POST " ++ url
  | refusedByServer service function status =>
    service ++ "::" ++ function ++ " returned HTTP " ++ Network.statusLine status
  | routed service function strategy =>
    "auto route " ++ service ++ "::" ++ function ++ " -> " ++ strategy.name
  | fallingBack service function reason =>
    "native unavailable for " ++ service ++ "::" ++ function ++ " (" ++ reason ++
      "), falling back to network"
  | noLibrary => "No native library configured; native strategy unavailable"
  | libraryLoaded path => "Loaded native extension from " ++ path
  | libraryUnusable reason => "Native strategy unavailable: " ++ reason
  | malformedConfig => "ignoring malformed config"
  | unreadableConfig => "could not read config"
  | nativeSkipped reason => "Skipping native benchmark: " ++ reason
  | measured strategy calls seconds =>
    strategy.name ++ ": " ++ calls.repr ++ " calls in " ++ Decimal.fixed 4 seconds ++ "s"
  | measurementFailed message => message
  | started level => "svcbridge starting (log level: " ++ levelWord level ++ ")"
  | networkNotBuilt reason => "could not build network strategy: " ++ reason

end Event

end Switchboard
