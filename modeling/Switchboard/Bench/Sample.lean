import Switchboard.Decimal.Fixed

/-!
# Samples

A sample says how many calls were made, in how many seconds, and how many that is for each second
(specification, §3). Calls in no time at all are infinitely many (E2).
-/
namespace Switchboard.Bench

structure Sample where
  name : String
  count : Nat
  elapsed : Float
  throughput : Float

/-- A whole number below 2^64 as a double. -/
def floatOf (n : Nat) : Float := n.toUInt64.toFloat

def infinity : Float := Float.ofBits 0x7FF0000000000000

/-- Calls for each second, with the sentinel of E2 where no time has passed. -/
def throughput (count : Nat) (elapsed : Float) : Float :=
  if elapsed > 0 then floatOf count / elapsed else infinity

/-- A time of whole seconds and nanoseconds, in seconds. Nanoseconds carry into the seconds. -/
def seconds (secs nanos : Nat) : Float :=
  floatOf (secs + nanos / 1000000000) + floatOf (nanos % 1000000000) / 1000000000

def Sample.of (name : String) (count : Nat) (elapsed : Float) : Sample :=
  { name, count, elapsed, throughput := Bench.throughput count elapsed }

end Switchboard.Bench
