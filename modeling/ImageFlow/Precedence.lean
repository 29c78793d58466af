import ImageFlow.Ident
import ImageFlow.Ordered

/-!
# Precedence

Which node has to run before which, apart from what the nodes do. The data are the nodes and the
edges between them; an edge leads from a node that writes an object to a node that reads it. From
these follow the order of execution, the levels of nodes that may run side by side, and the nodes
that lie on a cycle.

For the order, each node that is not placed carries the number of edges into it from nodes that are
not placed either. A node whose number is zero is ready, the ready node of the smallest number goes
next, and placing it lowers the number of each of its successors by one.
-/

namespace ImageFlow

/-- One node has to run before another. -/
structure Edge where
  source : NodeId
  target : NodeId
  deriving DecidableEq, Repr

instance : Ord Edge where
  compare a b := (compare a.source b.source).then (compare a.target b.target)

namespace Precedence

/-- The nodes that have to wait for a node. -/
def successors (edges : List Edge) (node : NodeId) : List NodeId :=
  (edges.filter (·.source == node)).map Edge.target

/-- The nodes that a node has to wait for. -/
def predecessors (edges : List Edge) (node : NodeId) : List NodeId :=
  (edges.filter (·.target == node)).map Edge.source

/-! ## Order of execution -/

/-- Nodes that are not placed, each with the number of edges into it from such nodes. -/
abbrev Waiting := List (NodeId × Nat)

/-- All nodes with all edges into them. -/
def waitingOf (nodes : List NodeId) (edges : List Edge) : Waiting :=
  nodes.map fun node ↦ (node, (predecessors edges node).length)

/-- The smaller of a node and another one, if there is another one. -/
def leastOf (node : NodeId) : Option NodeId → NodeId
  | some other => if other < node then other else node
  | none => node

/-- The smallest node that waits for nothing. -/
def leastReady? : Waiting → Option NodeId
  | [] => none
  | (node, count) :: rest =>
    if count = 0 then some (leastOf node (leastReady? rest)) else leastReady? rest

/-- What is left to wait for once a node is placed. -/
def place (edges : List Edge) (node : NodeId) (waiting : Waiting) : Waiting :=
  let next := successors edges node
  (waiting.filter (·.1 != node)).map fun (other, count) ↦
    (other, if next.contains other then count - 1 else count)

/-- Places ready nodes, the smallest first, until none is ready or `steps` nodes are placed. -/
def placeReady (edges : List Edge) : Nat → Waiting → List NodeId
  | 0, _ => []
  | steps + 1, waiting =>
    match leastReady? waiting with
    | none => []
    | some node => node :: placeReady edges steps (place edges node waiting)

/-- The order of execution; none if some nodes never become ready. -/
def order? (nodes : List NodeId) (edges : List Edge) : Option (List NodeId) :=
  let order := placeReady edges nodes.length (waitingOf nodes edges)
  if order.length = nodes.length then some order else none

/-! ## Levels -/

/-- Depth of a node, one more than the deepest of the nodes it waits for as far as their depths are
known. -/
def depthOf (edges : List Edge) (known : List (NodeId × Nat)) (node : NodeId) : Nat :=
  ((predecessors edges node).filterMap fun before ↦ known.lookup before).foldl
    (fun depth deeper ↦ max depth (deeper + 1)) 0

/-- The depth of each node of an order. The depths of earlier nodes are in `known`, the latest
first. -/
def depths (edges : List Edge) (known : List (NodeId × Nat)) : List NodeId → List (NodeId × Nat)
  | [] => []
  | node :: rest =>
    let depth := depthOf edges known node
    (node, depth) :: depths edges ((node, depth) :: known) rest

/-- The nodes of an order by depth; within a level they keep their order. -/
def levels (edges : List Edge) (order : List NodeId) : List (List NodeId) :=
  let placed := depths edges [] order
  let height := placed.foldl (fun height entry ↦ max height (entry.2 + 1)) 0
  (List.range height).map fun depth ↦ (placed.filter (·.2 == depth)).map Prod.fst

/-! ## Cycles -/

/-- Adds the targets of all edges whose source is among the nodes. -/
def spread (edges : List Edge) (nodes : List NodeId) : List NodeId :=
  edges.foldl (fun seen edge ↦
    if seen.contains edge.source && !seen.contains edge.target then edge.target :: seen else seen)
    nodes

/-- Spreads until nothing is added, at most `steps` times. -/
def closure (edges : List Edge) : Nat → List NodeId → List NodeId
  | 0, nodes => nodes
  | steps + 1, nodes =>
    let wider := spread edges nodes
    if wider.length = nodes.length then nodes else closure edges steps wider

/-- The nodes that can be reached from a node, which is one of them. -/
def reachable (edges : List Edge) (node : NodeId) : List NodeId :=
  closure edges (edges.length + 1) [node]

/-- The nodes that can be reached from a node and from which it can be reached. -/
def component (nodes : List NodeId) (edges : List Edge) (node : NodeId) : List NodeId :=
  nodes.filter fun other ↦
    (reachable edges node).contains other && (reachable edges other).contains node

/-- The strongly connected components, each of them where its first node stands. -/
def components (nodes : List NodeId) (edges : List Edge) : List (List NodeId) :=
  (nodes.filter fun node ↦ (component nodes edges node).head? == some node).map
    (component nodes edges)

/-- The nodes of all components that have more than one node, in order. -/
def entangled (components : List (List NodeId)) : List NodeId :=
  (components.filter (1 < ·.length)).flatten.mergeSort

/-- The nodes that lie on a cycle, in order. An edge never leads from a node to itself, so they are
the nodes of the larger components. -/
def cycleMembers (nodes : List NodeId) (edges : List Edge) : List NodeId :=
  entangled (components nodes edges)

end Precedence

end ImageFlow
