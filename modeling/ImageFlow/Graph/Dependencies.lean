import ImageFlow.Graph.Basic
import ImageFlow.Precedence

/-!
# Dependencies of a graph

A node depends on every other node that writes an object it reads.
-/

namespace ImageFlow.Graph

/-- The edges that end at a node. -/
def edgesInto (graph : Graph) (node : Node) : List Edge :=
  node.reads.flatMap fun data ↦
    ((graph.writers data).filter (· != node.id)).map fun writer ↦ ⟨writer, node.id⟩

/-- All edges, in order and each of them once. -/
def edges (graph : Graph) : List Edge := Ordered.ofList (graph.nodes.flatMap graph.edgesInto)

/-- The object with the smallest number that has more than one writer. -/
def checkSingleWriter (graph : Graph) : Except VerifyError Unit :=
  match graph.producers.find? fun entry ↦ 1 < entry.2.length with
  | some (data, writers) => .error (.multipleWriters data writers)
  | none => .ok ()

/-- The order of execution. Of the nodes that could come next, the oldest does. -/
def topologicalOrder (graph : Graph) : Except VerifyError (List NodeId) :=
  match Precedence.order? graph.nodeIds graph.edges with
  | some order => .ok order
  | none => .error (.cyclicGraph (Precedence.cycleMembers graph.nodeIds graph.edges))

/-- Whether nodes depend on each other in a circle. -/
def hasCycle (graph : Graph) : Bool :=
  match graph.topologicalOrder with
  | .ok _ => false
  | .error _ => true

def levels (graph : Graph) (order : List NodeId) : List (List NodeId) :=
  Precedence.levels graph.edges order

end ImageFlow.Graph
