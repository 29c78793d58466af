import ImageFlow.Kernels.Copy
import ImageFlow.Proofs.Precedence.Components
import ImageFlow.Proofs.Precedence.Depth
import ImageFlow.Proofs.Session.Lifecycle
import ImageFlow.Proofs.Verification.PlanValidity

/-!
# Orders, cycles and levels of every graph

Whatever has happened to a graph, its nodes and the edges between them form a simple graph: the
books of the graph hold every node once, an edge is listed once, and no node has an edge to itself.
So what is true of the order, of the cycles and of the levels of simple graphs is true of it.
-/

namespace ImageFlow

namespace Graph

variable {graph : Graph} {order : List NodeId}

/-- The order of execution: every node once, the start of every edge before its end, at every
position the smallest node that is ready there, and so the least of all orders along the edges. -/
structure LeastOrder (graph : Graph) (order : List NodeId) : Prop where
  perm : order.Perm graph.nodeIds
  nodup : order.Nodup
  along : Precedence.Along graph.edges order
  greedy : Precedence.Greedy graph.nodeIds graph.edges order
  least : ∀ other : List NodeId, other.Perm graph.nodeIds →
    Precedence.Along graph.edges other → order = other ∨ order < other

theorem topologicalOrder_eq_ok_iff :
    graph.topologicalOrder = .ok order ↔
      Precedence.order? graph.nodeIds graph.edges = some order := by
  constructor
  · exact of_topologicalOrder
  · intro h
    simp [topologicalOrder, h]

theorem isOk_topologicalOrder_iff (hbalanced : graph.ledger.Balanced) :
    graph.topologicalOrder.isOk = true ↔ ¬Precedence.Cyclic graph.edges := by
  rw [← Precedence.isSome_order?_iff (simple hbalanced), topologicalOrder]
  cases Precedence.order? graph.nodeIds graph.edges <;> simp [Except.isOk, Except.toBool]

theorem hasCycle_eq (graph : Graph) : graph.hasCycle = !graph.topologicalOrder.isOk := by
  unfold hasCycle
  cases graph.topologicalOrder <;> rfl

theorem hasCycle_iff (hbalanced : graph.ledger.Balanced) :
    graph.hasCycle = true ↔ Precedence.Cyclic graph.edges := by
  rw [hasCycle_eq, Bool.not_eq_true', Bool.eq_false_iff, Ne, isOk_topologicalOrder_iff hbalanced,
    not_not]

theorem topologicalOrder_of_cyclic (hbalanced : graph.ledger.Balanced)
    (hcyclic : Precedence.Cyclic graph.edges) : graph.topologicalOrder =
      .error (.cyclicGraph (Precedence.cycleMembers graph.nodeIds graph.edges)) := by
  rw [topologicalOrder, (Precedence.order?_eq_none_iff (simple hbalanced)).2 hcyclic]

theorem leastOrder_of_topologicalOrder (hbalanced : graph.ledger.Balanced)
    (h : graph.topologicalOrder = .ok order) : graph.LeastOrder order := by
  have hsimple := simple hbalanced
  have horder := topologicalOrder_eq_ok_iff.1 h
  obtain ⟨hperm, hrespects⟩ := order_spec horder
  have hgreedy := Precedence.greedy_of_order? hsimple horder
  exact
    { perm := hperm
      nodup := hperm.nodup_iff.2 hsimple.nodes_nodup
      along := hrespects.along hsimple hperm
      greedy := hgreedy
      least := fun _ hother halong ↦ hgreedy.eq_or_lt hsimple hperm hother halong }

end Graph

namespace Call

/-- The order of execution of every graph. There is one unless there is a cycle, and it is the least
order; it is the same however nodes and edges are listed; and when a node is placed, no successor
counts fewer edges than are taken off its count. -/
theorem topologicalOrder_applyAll (id : GraphId) (context : Context) (calls : List Call) :
    let graph := applyAll (.empty id context) calls
    (graph.topologicalOrder.isOk = true ↔ ¬Precedence.Cyclic graph.edges) ∧
    (graph.hasCycle = true ↔ Precedence.Cyclic graph.edges) ∧
    (∀ order, graph.topologicalOrder = .ok order → graph.LeastOrder order) ∧
    (∀ nodes edges, nodes.Perm graph.nodeIds → edges.Perm graph.edges →
      Precedence.order? nodes edges = Precedence.order? graph.nodeIds graph.edges) ∧
    ∀ steps, let waiting := Precedence.waitingOf graph.nodeIds graph.edges
      let turns := Precedence.placements graph.edges steps waiting
      turns.map Prod.fst = Precedence.placeReady graph.edges steps waiting ∧
        ∀ turn ∈ turns, Precedence.Covered graph.edges turn.1 turn.2 := by
  have hbalanced := balanced_applyAll id context calls
  intro graph
  have hsimple := Graph.simple hbalanced
  refine ⟨Graph.isOk_topologicalOrder_iff hbalanced, Graph.hasCycle_iff hbalanced, ?_, ?_, ?_⟩
  · exact fun order ↦ Graph.leastOrder_of_topologicalOrder hbalanced
  · exact fun nodes edges hnodes hedges ↦ Precedence.order?_congr hsimple hnodes hedges
  · intro steps waiting turns
    refine ⟨Precedence.map_fst_placements graph.edges steps waiting, fun turn hturn ↦ ?_⟩
    have hstart : waiting = Precedence.waitingAfter graph.edges graph.nodeIds [] :=
      Precedence.waitingOf_eq graph.nodeIds graph.edges
    have hnone : ∀ later ∈ ([] : List NodeId), ∀ before, ⟨before, later⟩ ∈ graph.edges →
        before ∈ ([] : List NodeId) := by simp
    exact Precedence.covered_of_mem_placements hsimple steps hnone (hstart ▸ hturn)

/-- The second node goes first, since the first one copies what it writes. -/
theorem leastOrder_copies :
    let graph := applyAll (.empty ⟨0⟩ Operation.plainContext) (Operation.copies.map .operation)
    graph.topologicalOrder = .ok [⟨1⟩, ⟨0⟩, ⟨2⟩] ∧ graph.LeastOrder [⟨1⟩, ⟨0⟩, ⟨2⟩] := by
  intro graph
  have horder : graph.topologicalOrder = .ok [⟨1⟩, ⟨0⟩, ⟨2⟩] := by
    rw [Graph.topologicalOrder_eq_ok_iff]
    decide +kernel
  refine ⟨horder, ?_⟩
  exact (topologicalOrder_applyAll ⟨0⟩ Operation.plainContext
    (Operation.copies.map .operation)).2.2.1 _ horder

/-- Where there is no order of execution, the error names exactly the nodes on cycles, in order and
whichever way the strongly connected components have been found. -/
theorem cyclicGraph_applyAll (id : GraphId) (context : Context) (calls : List Call)
    (hfailed : (applyAll (.empty id context) calls).topologicalOrder.isOk = false) :
    let graph := applyAll (.empty id context) calls
    ∃ members, graph.topologicalOrder = .error (.cyclicGraph members) ∧ members ≠ [] ∧
      members.Pairwise (· < ·) ∧
      (∀ node, node ∈ members ↔
        Relation.TransGen (Precedence.Leads graph.edges) node node) ∧
      ∀ parts, Precedence.Components graph.nodeIds graph.edges parts →
        Precedence.entangled parts = members := by
  have hbalanced := balanced_applyAll id context calls
  intro graph
  have hsimple := Graph.simple hbalanced
  have hparts := Precedence.components_spec hsimple.nodes_nodup graph.edges
  have hcyclic : Precedence.Cyclic graph.edges := by
    rw [← Graph.hasCycle_iff hbalanced, Graph.hasCycle_eq]
    simpa using hfailed
  obtain ⟨node, hcycle⟩ := hcyclic
  have hnode := (Precedence.mem_cycleMembers_iff hsimple).2 hcycle
  exact ⟨Precedence.cycleMembers graph.nodeIds graph.edges,
    Graph.topologicalOrder_of_cyclic hbalanced ⟨node, hcycle⟩, List.ne_nil_of_mem hnode,
    Precedence.increasing_entangled (hparts.perm.nodup_iff.2 hsimple.nodes_nodup),
    fun _ ↦ Precedence.mem_cycleMembers_iff hsimple,
    fun _ hothers ↦ hothers.entangled_eq hparts hsimple⟩

/-- Two nodes that each copy the other's image, and a third that copies one of the images. -/
def circle : List Call :=
  let ref (data : Nat) : DataRef := { graph := ⟨0⟩, id := ⟨data⟩ }
  let copy (source target : Nat) : Operation :=
    .addNodeWithKernel { id := ⟨0⟩, kernel := Kernels.copyImage } [ref source, ref target]
  [.operation (.create (.image 2 2 .u8)), .operation (.create (.image 2 2 .u8)),
    .operation (.create (.image 2 2 .u8)), .operation (copy 1 0), .operation (copy 0 1),
    .operation (copy 0 2)]

theorem cyclicGraph_circle :
    let graph := applyAll (.empty ⟨0⟩ Operation.plainContext) circle
    graph.topologicalOrder.isOk = false ∧
    ∃ members, graph.topologicalOrder = .error (.cyclicGraph members) ∧ members ≠ [] ∧
      members.Pairwise (· < ·) ∧
      (∀ node, node ∈ members ↔
        Relation.TransGen (Precedence.Leads graph.edges) node node) ∧
      ∀ parts, Precedence.Components graph.nodeIds graph.edges parts →
        Precedence.entangled parts = members := by
  have hfailed : (applyAll (.empty ⟨0⟩ Operation.plainContext) circle).topologicalOrder.isOk =
      false := by
    decide +kernel
  exact ⟨hfailed, cyclicGraph_applyAll ⟨0⟩ Operation.plainContext circle hfailed⟩

/-- Every graph without a cycle has an order of execution, and levels that hold its nodes by the
length of the longest path to each of them. -/
theorem layered_applyAll (id : GraphId) (context : Context) (calls : List Call)
    (hacyclic : ¬Precedence.Cyclic (applyAll (.empty id context) calls).edges) :
    let graph := applyAll (.empty id context) calls
    ∃ order, graph.topologicalOrder = .ok order ∧ order.Perm graph.nodeIds ∧
      Precedence.Layered graph.edges order (graph.levels order) := by
  have hbalanced := balanced_applyAll id context calls
  intro graph
  have hsimple := Graph.simple hbalanced
  obtain ⟨order, horder⟩ :=
    Option.isSome_iff_exists.1 ((Precedence.isSome_order?_iff hsimple).2 hacyclic)
  obtain ⟨hperm, hrespects⟩ := Graph.order_spec horder
  exact ⟨order, Graph.topologicalOrder_eq_ok_iff.2 horder, hperm,
    Precedence.layered_levels hsimple hperm hrespects⟩

theorem layered_copies :
    let graph := applyAll (.empty ⟨0⟩ Operation.plainContext) (Operation.copies.map .operation)
    ¬Precedence.Cyclic graph.edges ∧
    ∃ order, graph.topologicalOrder = .ok order ∧ order.Perm graph.nodeIds ∧
      Precedence.Layered graph.edges order (graph.levels order) := by
  have hacyclic : ¬Precedence.Cyclic
      (applyAll (.empty ⟨0⟩ Operation.plainContext) (Operation.copies.map .operation)).edges := by
    rw [← Graph.isOk_topologicalOrder_iff (balanced_applyAll _ _ _)]
    decide +kernel
  exact ⟨hacyclic,
    layered_applyAll ⟨0⟩ Operation.plainContext (Operation.copies.map .operation) hacyclic⟩

end Call

end ImageFlow
