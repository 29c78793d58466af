import ImageFlow.Data.Arena
import ImageFlow.Error.Any
import ImageFlow.Graph.Node
import ImageFlow.Plan.Basic
import ImageFlow.Platform.Context

/-!
# Graphs

A graph owns data objects and the nodes that are bound to them. It also keeps, for every object, the
nodes that write it. A successful verification leaves a plan, which stays until the structure of the
graph is edited; access to payloads, callbacks and options leave it in place.
-/

namespace ImageFlow

/-- Nodes over data objects. -/
structure Graph where
  id : GraphId
  context : Context
  arena : Arena
  /-- The nodes in the order in which they were added. -/
  nodes : List Node
  /-- The number of the next node. -/
  nextNode : Nat
  /-- The nodes that write each object, by object; objects that nothing writes are left out. -/
  producers : List (DataId × List NodeId)
  state : GraphState
  plan : Option Plan
  /-- Options of this graph in place of those of the context. -/
  options : Option RunOptions
  perf : Perf

namespace Graph

def empty (id : GraphId) (context : Context) : Graph :=
  { id, context
    arena := .empty id
    nodes := []
    nextNode := 0
    producers := []
    state := .unverified
    plan := none
    options := none
    perf := .empty }

def invalidate (graph : Graph) : Graph := { graph with state := .unverified, plan := none }

/-! ## Looking things up -/

def runOptions (graph : Graph) : RunOptions := graph.options.getD graph.context.options

def setOptions (graph : Graph) (options : RunOptions) : Graph :=
  { graph with options := some options }

def node? (graph : Graph) (id : NodeId) : Option Node := graph.nodes.find? (·.id == id)

def node (graph : Graph) (id : NodeId) : Except NodeError Node :=
  match graph.node? id with
  | some node => .ok node
  | none => .error (.nodeNotFound id)

def nodeIds (graph : Graph) : List NodeId := graph.nodes.map Node.id

def writers (graph : Graph) (data : DataId) : List NodeId :=
  (Ordered.find? data graph.producers).getD []

/-- The shape of an object, if the object is live and its shape known. -/
def descriptorOf? (graph : Graph) (ref : DataRef) : Option Descriptor :=
  match graph.arena.get ref with
  | .ok object => object.descriptor?
  | .error _ => none

def modifyNode (graph : Graph) (id : NodeId) (f : Node → Node) : Graph :=
  { graph with nodes := graph.nodes.map fun node ↦ if node.id = id then f node else node }

/-- A graph in diagnostics. Its identity is given by the caller. -/
def describe (graph : Graph) (identity : String) : String :=
  Text.recordText "Graph"
    [("id", identity), ("state", graph.state.constructorName),
      ("nodes", Text.listText (graph.nodes.map Node.describe)),
      ("data", graph.arena.size.repr), ("verified", Text.boolText graph.plan.isSome)]

end Graph

end ImageFlow
