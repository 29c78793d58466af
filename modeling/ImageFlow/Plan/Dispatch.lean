import ImageFlow.Plan.Basic
import ImageFlow.Text.Structure

/-!
# Dispatch

How the nodes of a plan are run. One at a time, a run ends with the first node that fails. By
levels, every node of a level runs even if another one of the level fails, the next level starts
only if none failed, and of several failures the one that stands first in the level is reported. The
nodes of a level are independent of each other, so here they run in the order in which the level
lists them.

A run of one node is a function on a state that either succeeds or fails; the state is kept in both
cases.
-/

namespace ImageFlow

/-- Options for the runs of a graph. -/
structure RunOptions where
  /-- Whether the nodes of a level may run side by side. -/
  parallel : Bool
  /-- Number of worker threads, zero for the shared ones. -/
  maxThreads : Nat
  /-- Whether runs are counted. -/
  collectPerf : Bool
  deriving DecidableEq, Repr

/-- One node at a time, with counters. -/
def RunOptions.standard : RunOptions :=
  { parallel := false, maxThreads := 0, collectPerf := true }

def RunOptions.describe (options : RunOptions) : String :=
  Text.recordText "ExecutionOptions"
    [("parallel", Text.boolText options.parallel), ("max_threads", options.maxThreads.repr),
      ("collect_perf", Text.boolText options.collectPerf)]

namespace Dispatch

variable {σ ε : Type}

/-- Runs nodes one after the other and stops at the first failure. -/
def inOrder (step : NodeId → σ → Except ε Unit × σ) : List NodeId → σ → Except ε Unit × σ
  | [], s => (.ok (), s)
  | id :: rest, s =>
    match step id s with
    | (.ok (), s) => inOrder step rest s
    | (.error e, s) => (.error e, s)

/-- Runs every node of a level, then reports the first failure. -/
def level (step : NodeId → σ → Except ε Unit × σ) : List NodeId → σ → Except ε Unit × σ
  | [], s => (.ok (), s)
  | id :: rest, s =>
    let (first, s) := step id s
    let (others, s) := level step rest s
    match first with
    | .ok () => (others, s)
    | .error e => (.error e, s)

/-- Runs levels one after the other and stops after the first that fails. -/
def byLevel (step : NodeId → σ → Except ε Unit × σ) : List (List NodeId) → σ → Except ε Unit × σ
  | [], s => (.ok (), s)
  | nodes :: rest, s =>
    match level step nodes s with
    | (.ok (), s) => byLevel step rest s
    | (.error e, s) => (.error e, s)

/-- Runs a plan under the given options. -/
def run (options : RunOptions) (plan : Plan) (step : NodeId → σ → Except ε Unit × σ) (s : σ) :
    Except ε Unit × σ :=
  if options.parallel then byLevel step plan.levels s else inOrder step plan.order s

end Dispatch

end ImageFlow
