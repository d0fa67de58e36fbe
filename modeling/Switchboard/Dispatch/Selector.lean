import Switchboard.Call.Request
import Switchboard.Dispatch.Hint

/-!
# Choosing a strategy for a call

A `Selector` holds what is known about services. It chooses for a call without a preference of its
own: by the function's name, then by the profile of the service, then by the size of the arguments
and the service's name (specification, E6.2). Where there is no extension the network is the only
choice.
-/
namespace Switchboard.Dispatch

inductive Frequency where
  | low
  | medium
  | high
  deriving DecidableEq, Repr

structure Profile where
  name : String
  network : Bool
  compute : Bool
  frequency : Frequency
  deriving DecidableEq

/-- The strategy that suits every call of a service. A mixed service has none. -/
def Profile.preferred (p : Profile) : Option Kind :=
  if p.frequency = .high then some .native
  else
    match p.network, p.compute with
    | true, false => some .network
    | false, true => some .native
    | _, _ => none

/-- Arguments below this many bytes are small (E6.2). -/
def smallPayload : Nat := 1024

/-- The profiles of the services that are known, under their names. -/
structure Selector where
  profiles : List (String × Profile) := []

namespace Selector

/-- A selector that also knows a service. A later profile of a service replaces an earlier one. -/
def register (s : Selector) (p : Profile) : Selector :=
  { s with profiles := Keyed.insert p.name p s.profiles }

def profile? (s : Selector) (service : String) : Option Profile := Keyed.get? service s.profiles

def hasService (s : Selector) (service : String) : Bool := (s.profile? service).isSome

def serviceCount (s : Selector) : Nat := s.profiles.length

/-- The choice by size: small arguments are cheap for the extension, large ones go to the network
if the service's name has a pattern of the network. E6.2 has the patterns for functions only. -/
def bySize (r : Request) : Kind :=
  if r.estimatedBytes < smallPayload then .native
  else if hasPattern networkPatterns r.service then .network
  else .native

/-- The strategy for a call. The function's name decides before anything else. -/
def select (s : Selector) (r : Request) (nativeAvailable : Bool) : Kind :=
  if nativeAvailable then
    match functionHint r.function with
    | some k => k
    | none => ((s.profile? r.service).bind Profile.preferred).getD (bySize r)
  else .network

def prefersNative (s : Selector) (r : Request) (nativeAvailable : Bool) : Bool :=
  s.select r nativeAvailable = .native

end Selector

end Switchboard.Dispatch
