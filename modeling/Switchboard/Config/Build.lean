import Switchboard.Config.Basic
import Switchboard.Network.Strategy

/-!
# Putting a configuration to use

The network strategy comes first: without a base address there is nothing to build. The library is
looked for once, and not at all if the mode rules the native strategy out (specification, E6.1).
-/
namespace Switchboard

/-- Looks for the extension of a configuration. -/
def Native.detectFor {ρ : Type} (disk : Native.Disk ρ) (c : Config) : Native.Detection ρ :=
  if c.routing.mode = .network then .none "interface mode is network" []
  else Native.detect disk c.native

/-- Something that was built, with the records and the steps on the way. -/
structure Built (α : Type) where
  value : α
  log : List Event
  probes : List Native.Probe

variable {ρ μ : Type}

def Native.Detection.strategy (d : Native.Detection ρ) : Availability (Running ρ) :=
  d.found.map Native.Extension.running

def Dispatch.Dispatcher.ofConfig (disk : Native.Disk ρ) (link : Network.Link μ) (web : μ)
    (c : Config) : Except Url.Fault (Built (Dispatch.Dispatcher ρ μ)) := do
  let (network, log) ← Network.connect link web c.network
  let detection := Native.detectFor disk c
  return {
    value :=
      { native := detection.strategy, network
        mode := c.routing.mode, preferNative := c.routing.preferNative }
    log := log ++ detection.log
    probes := detection.probes }

def Bench.Harness.ofConfig (disk : Native.Disk ρ) (link : Network.Link μ) (web : μ) (c : Config) :
    Except Url.Fault (Built (Bench.Harness ρ μ)) := do
  let (network, log) ← Network.connect link web c.network
  let detection := Native.detectFor disk c
  return {
    value :=
      { native := detection.strategy, network
        service := c.benchmark.service, function := c.benchmark.function }
    log := log ++ detection.log
    probes := detection.probes }

end Switchboard
