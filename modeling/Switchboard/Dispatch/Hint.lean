import Switchboard.Call.Kind
import Switchboard.Text.Search

/-!
# What a name says about a call

A name that has one of the patterns of network work, and none of computing work, points to the
network; the other way round it points to the extension. A name with patterns of both, or of
neither, says nothing. The patterns are those of the specification, E6.2.
-/
namespace Switchboard.Dispatch

/-- Patterns in the names of work that reaches for the network. -/
def networkPatterns : List String :=
  ["chain::", "database::", "network_", "remote_", "fetch", "request", "api_", "http_", "web_"]

/-- Patterns in the names of work that computes. -/
def computePatterns : List String :=
  ["hash", "sign", "verify", "encrypt", "decrypt", "compute", "calculate", "process", "transform",
    "batch_", "parallel_", "fast_", "crypto::"]

def hasPattern (patterns : List String) (name : String) : Bool :=
  patterns.any fun pattern => Text.contains name pattern

/-- The strategy to which a function's name points. -/
def functionHint (name : String) : Option Kind :=
  match hasPattern networkPatterns name, hasPattern computePatterns name with
  | true, false => some .network
  | false, true => some .native
  | _, _ => none

end Switchboard.Dispatch
