import Switchboard.Call.Availability
import Switchboard.Call.Strategy
import Switchboard.Native.Library

/-!
# The native strategy

Arguments within the limits go to an extension; others are refused before it is entered. Whatever
goes wrong is a failure of the call, so the strategy never answers that it cannot be used.

`detect` looks once for the extension that the settings describe (specification, §9). A library or a
symbol that is missing and a null runtime mean that there is none (E6.4).
-/
namespace Switchboard.Native

/-- A runtime of an extension with the limits on what it is given. -/
structure Extension (ρ : Type) where
  module : Module ρ
  runtime : ρ
  limits : Limits

/-- What a native call comes to, and the runtime after it. -/
def call {ρ : Type} (m : Module ρ) (limits : Limits) (runtime : ρ) (r : Request) :
    Except Failure Json.Value × ρ :=
  match limits.check r.args with
  | .error violation => (.error (.invalidArguments violation.message), runtime)
  | .ok () => m.call runtime r.service r.function r.args

/-- The strategy that calls an extension through its module. -/
def strategy {ρ : Type} (m : Module ρ) (limits : Limits) : Strategy ρ where
  kind := .native
  invoke runtime r :=
    let (result, next) := call m limits runtime r
    { outcome := result.mapError (.execution .native), log := [], state := next }

def Extension.running {ρ : Type} (e : Extension ρ) : Running ρ where
  strategy := strategy e.module e.limits
  state := e.runtime

/-- Where the extension is and how much it is given. -/
structure Settings where
  enabled : Bool := true
  /-- The path of the library, if one is configured. -/
  library : Option String := none
  /-- What the symbols of its functions start with. -/
  symbolPrefix : String := "svcbridge_"
  maxInputBytes : Nat := 10000000
  deriving DecidableEq

def Settings.limits (s : Settings) : Limits := { maxInputBytes := s.maxInputBytes }

structure Detection (ρ : Type) where
  found : Availability (Extension ρ)
  log : List Event
  probes : List Probe

/-- A detection that ends without a look at any file. -/
def Detection.none {ρ : Type} (reason : String) (log : List Event) : Detection ρ :=
  { found := .unavailable reason, log, probes := [] }

/-- Looks for the extension that the settings describe. What it lacks first is the reason (E6.4). -/
def detect {ρ : Type} (disk : Disk ρ) (s : Settings) : Detection ρ :=
  if !s.enabled then .none Obstacle.disabled.message []
  else
    match s.library with
    | none => .none Obstacle.notConfigured.message [.noLibrary]
    | some path =>
      let loading := load disk path s.symbolPrefix
      match loading.result with
      | .ok { module, runtime } =>
        { found := .available { module, runtime, limits := s.limits },
          log := [.libraryLoaded path], probes := loading.probes }
      | .error obstacle =>
        { found := .unavailable obstacle.message,
          log := [.libraryUnusable obstacle.message], probes := loading.probes }

end Switchboard.Native
