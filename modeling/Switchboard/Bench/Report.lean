import Switchboard.Bench.Sample
import Switchboard.Call.Kind
import Switchboard.Keyed

/-!
# Reports

A report has one sample for each name, in the order of the names, and the strategies that were left
out, with reasons. The last sample of a name and the last reason of a strategy count.

`Report.lines` words a report (specification, E7): its samples, why there is none of the native
strategy, and how much faster that one is. Both throughputs have to be finite and positive for the
last (E2).
-/
namespace Switchboard.Bench

structure Report where
  samples : List (String × Sample) := []
  skipped : List (String × String) := []

namespace Report

def insert (r : Report) (s : Sample) : Report :=
  { r with samples := Keyed.insert s.name s r.samples }

def skip (r : Report) (k : Kind) (reason : String) : Report :=
  { r with skipped := Keyed.insert k.name reason r.skipped }

def size (r : Report) : Nat := r.samples.length

def sample? (r : Report) (k : Kind) : Option Sample := Keyed.get? k.name r.samples

def skipped? (r : Report) (k : Kind) : Option String := Keyed.get? k.name r.skipped

/-- Whether a throughput can be compared. -/
def isUsable (throughput : Float) : Bool := throughput.isFinite && 0 < throughput

/-- How many times faster the native strategy is, if both throughputs can be compared (E2). -/
def speedup? (r : Report) : Option Float :=
  match r.sample? .native, r.sample? .network with
  | some native, some network =>
    if isUsable native.throughput && isUsable network.throughput then
      some (native.throughput / network.throughput)
    else none
  | _, _ => none

def sampleLine (s : Sample) : String :=
  s.name ++ ": " ++ Decimal.fixed 4 s.elapsed ++ "s (" ++ Decimal.fixed 0 s.throughput ++
    " ops/sec)"

def skipLine (reason : String) : String := "native: not available (" ++ reason ++ ")"

def speedupLine (ratio : Float) : String :=
  "Speedup: " ++ Decimal.fixed 2 ratio ++ "x faster with native"

def lines (r : Report) : List String :=
  r.samples.map (fun e => sampleLine e.2) ++ ((r.skipped? .native).map skipLine).toList ++
    (r.speedup?.map speedupLine).toList

def render (r : Report) : String := String.join (r.lines.map (· ++ "\n"))

end Report

end Switchboard.Bench
