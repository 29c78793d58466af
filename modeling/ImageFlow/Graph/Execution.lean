import ImageFlow.Graph.Basic
import ImageFlow.Plan.Dispatch

/-!
# Execution

A run of a graph executes the nodes of its plan. Each node's kernel is shown the payloads of its
slots, and what it wrote into slots that it may write goes back into the objects, also if it fails.
After a node has completed, its callback may end the run.

The library has no clock. The durations that the counters record are given with the run.
-/

namespace ImageFlow

/-- How long the parts of a run take, in nanoseconds. -/
structure Stopwatch where
  node : NodeId → Nat
  graph : Nat

def Stopwatch.still : Stopwatch := { node := fun _ ↦ 0, graph := 0 }

/-- Numbers of a run that has completed. -/
structure RunStats where
  /-- Number of nodes executed. -/
  nodes : Nat
  /-- Number of levels in the plan. -/
  levels : Nat
  parallel : Bool
  deriving DecidableEq, Repr

/-- A run under way. -/
structure RunState where
  graph : Graph
  /-- The calls of kernels and callbacks so far. -/
  events : List Event
  /-- Number of nodes that have completed. -/
  completed : Nat

/-- A run that has ended. -/
structure RunResult where
  result : Except (Stop ProcessError) RunStats
  graph : Graph
  events : List Event

namespace RunState

def emit (run : RunState) (event : Event) : RunState :=
  { run with events := run.events ++ [event] }

def modifyGraph (run : RunState) (f : Graph → Graph) : RunState :=
  { run with graph := f run.graph }

end RunState

namespace Graph

/-! ## One node -/

/-- The slots of a node with the payloads of their objects. -/
def accessSlots (graph : Graph) : List Binding → Except DataError (List Slot)
  | [] => .ok []
  | binding :: rest => do
    let object ← graph.arena.get binding.ref
    let others ← accessSlots graph rest
    return { writable := binding.direction.writes, payload := object.payload } :: others

/-- Puts the payload of one slot back into its object, if the kernel may write the slot and the
object had memory. -/
def putBack (arena : Arena) (binding : Binding) (before after : Slot) : Arena :=
  match before.payload, after.payload with
  | some _, some payload =>
    if binding.direction.writes then arena.setPayload binding.ref.id (some payload) else arena
  | _, _ => arena

/-- Puts the payloads of all slots back. -/
def putBackAll (arena : Arena) : List Binding → List Slot → List Slot → Arena
  | binding :: bindings, before :: befores, after :: afters =>
    putBackAll (putBack arena binding before after) bindings befores afters
  | _, _, _ => arena

/-- Asks the callback of a node, if it has one; whether the run goes on. -/
def askCallback (node : Node) (run : RunState) : NodeAction × RunState :=
  match node.callback with
  | none => (.proceed, run)
  | some callback =>
    (callback.answer callback.calls,
      (run.emit (.callback node.id)).modifyGraph fun graph ↦
        graph.modifyNode node.id
          ({ · with callback := some { callback with calls := callback.calls + 1 } }))

/-- Counts a run of a node. -/
def recordNode (options : RunOptions) (watch : Stopwatch) (id : NodeId) (graph : Graph) : Graph :=
  if options.collectPerf then
    graph.modifyNode id fun node ↦ { node with perf := node.perf.record (watch.node id) }
  else
    graph

def executeNode (options : RunOptions) (watch : Stopwatch) (id : NodeId) (run : RunState) :
    Except (Stop ProcessError) Unit × RunState :=
  match run.graph.node? id with
  | none => (.error (.failed (.graphNotVerified run.graph.state)), run)
  | some node =>
    match run.graph.accessSlots node.bindings with
    | .error e => (.error (.failed (.binding id e)), run)
    | .ok slots =>
      let access : Access := { node := id, slots }
      let run := run.emit (node.kernel.kernel.event id (.execute access))
      let (result, after) := node.kernel.kernel.execute access
      let run := run.modifyGraph fun graph ↦
        { graph with arena := putBackAll graph.arena node.bindings slots after.slots }
      match result with
      | .error .crash => (.error .crash, run)
      | .error (.failed e) =>
        (.error (.failed (.kernel id node.kernelName e.code e.message)), run)
      | .ok () =>
        let (action, run) := askCallback node (run.modifyGraph (recordNode options watch id))
        match action with
        | .abandon => (.error (.failed (.abandoned id)), run)
        | .proceed => (.ok (), { run with completed := run.completed + 1 })

/-! ## All nodes -/

/-- Executes the plan of a graph under given options. The state of the graph stays as it is. -/
def execute (graph : Graph) (options : RunOptions) (watch : Stopwatch) : RunResult :=
  match graph.plan with
  | none =>
    { result := .error (.failed (.graphNotVerified graph.state)), graph, events := [] }
  | some plan =>
    let start : RunState := { graph, events := [], completed := 0 }
    match Dispatch.run options plan (executeNode options watch) start with
    | (.error e, run) => { result := .error e, graph := run.graph, events := run.events }
    | (.ok (), run) =>
      { result := .ok
          { nodes := run.completed, levels := plan.levels.length, parallel := options.parallel }
        graph := if options.collectPerf then
            { run.graph with perf := run.graph.perf.record watch.graph }
          else run.graph
        events := run.events }

/-- Runs a graph that has a plan under its own options. -/
def process (graph : Graph) (watch : Stopwatch) : RunResult :=
  if graph.plan.isSome && graph.state.hasPlan then
    let run := { graph with state := .running }.execute graph.runOptions watch
    let state := match run.result with
      | .ok _ => GraphState.completed
      | .error _ => .failed
    { run with graph := { run.graph with state } }
  else
    { result := .error (.failed (.graphNotVerified graph.state)), graph, events := [] }

end Graph

end ImageFlow
