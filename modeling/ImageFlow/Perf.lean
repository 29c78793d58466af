/-!
# Performance counters

Statistics over the durations of a series of runs, in nanoseconds. Durations and their sum are
64-bit words that stop at the largest word.
-/

namespace ImageFlow

/-- A duration: whole seconds, and nanoseconds below one second. -/
structure Duration where
  seconds : Nat
  nanoseconds : Nat
  deriving DecidableEq, Repr

namespace Duration

/-- A duration of some seconds and any number of nanoseconds, which may make up further seconds. The
seconds must fit into a 64-bit word. -/
def ofParts? (seconds nanoseconds : Nat) : Option Duration :=
  let total := seconds + nanoseconds / 1000000000
  if total < Nat.pow 2 64 then some ⟨total, nanoseconds % 1000000000⟩ else none

/-- A duration in nanoseconds, at most the largest 64-bit word. -/
def toNanoseconds (d : Duration) : Nat :=
  min (d.seconds * 1000000000 + d.nanoseconds) (Nat.pow 2 64 - 1)

def ofNanoseconds (n : Nat) : Duration := ⟨n / 1000000000, n % 1000000000⟩

end Duration

/-- Statistics over the runs recorded so far. -/
structure Perf where
  /-- Number of runs. -/
  num : Nat
  /-- Duration of the latest run. -/
  last : Nat
  min : Nat
  max : Nat
  /-- Total duration, at most the largest word. -/
  sum : Nat
  /-- The total divided by the number of runs, rounded down. -/
  avg : Nat
  deriving DecidableEq, Repr

namespace Perf

def empty : Perf := { num := 0, last := 0, min := 0, max := 0, sum := 0, avg := 0 }

/-- Adds a run of a duration in nanoseconds. -/
def record (perf : Perf) (ns : Nat) : Perf :=
  let sum := Nat.min (perf.sum + ns) (Nat.pow 2 64 - 1)
  { num := perf.num + 1
    last := ns
    min := if perf.num = 0 then ns else Nat.min perf.min ns
    max := Nat.max perf.max ns
    sum
    avg := sum / (perf.num + 1) }

end Perf

end ImageFlow
