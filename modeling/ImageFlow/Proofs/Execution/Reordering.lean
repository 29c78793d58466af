import ImageFlow.Proofs.Execution.Scheduling
import ImageFlow.Proofs.Verification.Reordering

/-!
# Runs of graphs whose nodes were added in another order

Two graphs that are the same up to the numbers of their nodes have the same levels. For the depth of
a node is the least that lies below the depths of all nodes that it waits for, and these have their
counterparts in the other graph. An order in which one graph can be run is one for the other once
its nodes are exchanged for their counterparts, and what a node does to the memory does not depend
on its number. So both runs succeed or both fail, and they leave the same memory.
-/

namespace ImageFlow

/-! ## What a node does, whatever its number -/

namespace Node

/-- The memory after the node has run, if the run goes on. -/
def passOn (memory : Memory) (node : Node) : Option Memory :=
  if node.completes memory then some (node.leave memory) else none

variable {node : Node}

theorem completes_bare (hplain : node.Plain) (memory : Memory) :
    node.bare.completes memory = node.completes memory := by
  have hresult := (hplain.oblivious.execute (node.access memory) ⟨0⟩).1
  rw [completes, completes, hplain.callback_eq, ← hresult]
  rfl

theorem leave_bare (hplain : node.Plain) (memory : Memory) :
    node.bare.leave memory = node.leave memory := by
  have hslots := (hplain.oblivious.execute (node.access memory) ⟨0⟩).2
  rw [leave, leave, ← hslots]
  rfl

theorem passOn_bare (hplain : node.Plain) (memory : Memory) :
    node.bare.passOn memory = node.passOn memory := by
  rw [passOn, passOn, completes_bare hplain, leave_bare hplain]

end Node

/-- Nodes can be run in a row by their bare kernels and objects. -/
theorem foldlM_passOn_bare {order : List Node} (hplain : ∀ node ∈ order, node.Plain)
    (memory : Memory) :
    (order.map Node.bare).foldlM Node.passOn memory = order.foldlM Node.passOn memory := by
  induction order generalizing memory with
  | nil => rfl
  | cons node rest ih =>
    obtain ⟨hnode, hrest⟩ := List.forall_mem_cons.1 hplain
    rw [List.map_cons, List.foldlM_cons, List.foldlM_cons, Node.passOn_bare hnode]
    congr 1
    funext memory
    exact ih hrest memory

namespace Graph

variable {graph a b : Graph} {plan plan' : Plan} {node other writer writer' : Node}

theorem foldlM_advance_map (hbalanced : graph.ledger.Balanced) {order : List Node}
    (horder : order ⊆ graph.nodes) (memory : Memory) :
    (order.map Node.id).foldlM graph.advance memory = order.foldlM Node.passOn memory := by
  induction order generalizing memory with
  | nil => rfl
  | cons node rest ih =>
    obtain ⟨hnode, hrest⟩ := List.cons_subset.1 horder
    have hfound := (node?_eq_some_iff (nodup_nodeIds hbalanced)).2 ⟨hnode, rfl⟩
    rw [List.map_cons, List.foldlM_cons, List.foldlM_cons, advance_eq hfound, Node.passOn]
    congr 1
    funext memory
    exact ih hrest memory

/-! ## Levels -/

/-- The level of a node in the plan. -/
def level? (graph : Graph) (id : NodeId) : Option Nat :=
  graph.plan.bind fun plan ↦ plan.levels.findIdx? (·.contains id)

namespace Planned

variable (h : graph.Planned plan)
include h

theorem exists_depth (hnode : node ∈ graph.nodes) :
    ∃ depth, (node.id, depth) ∈ Precedence.depths graph.edges [] plan.order := by
  have hmem : node.id ∈ (Precedence.depths graph.edges [] plan.order).map Prod.fst := by
    rw [Precedence.keys_depths]
    exact (order_spec h.order_eq).1.mem_iff.2 (List.mem_map_of_mem hnode)
  obtain ⟨⟨id, depth⟩, hentry, rfl⟩ := List.mem_map.1 hmem
  exact ⟨depth, hentry⟩

theorem exists_node {id : NodeId} {depth : Nat}
    (hdepth : (id, depth) ∈ Precedence.depths graph.edges [] plan.order) :
    ∃ node ∈ graph.nodes, node.id = id := by
  have hmem : id ∈ plan.order := by
    rw [← @Precedence.keys_depths graph.edges [] plan.order]
    exact List.mem_map_of_mem hdepth
  exact List.mem_map.1 ((order_spec h.order_eq).1.mem_iff.1 hmem)

variable (hbalanced : graph.ledger.Balanced)
include hbalanced

theorem level?_eq (hplan : graph.plan = some plan) {id : NodeId} {depth : Nat}
    (hdepth : (id, depth) ∈ Precedence.depths graph.edges [] plan.order) :
    graph.level? id = some depth := by
  rw [level?, hplan, Option.bind_some, h.levels_eq]
  exact Precedence.findIdx?_levels
    ((order_spec h.order_eq).1.nodup_iff.2 (nodup_nodeIds hbalanced)) hdepth

theorem depth_le_iff {id : NodeId} {depth most : Nat}
    (hdepth : (id, depth) ∈ Precedence.depths graph.edges [] plan.order) :
    depth ≤ most ↔ ∀ before depth', ⟨before, id⟩ ∈ graph.edges →
      (before, depth') ∈ Precedence.depths graph.edges [] plan.order → depth' < most := by
  obtain ⟨hperm, hrespects⟩ := order_spec h.order_eq
  exact Precedence.depth_le_iff (simple hbalanced).not_mem_self [] plan.order
    (hperm.nodup_iff.2 (nodup_nodeIds hbalanced)) hrespects hdepth

end Planned

/-- What a node waits for, its counterpart waits for in the other graph. -/
theorem mem_edges_of_bare (ha : a.ledger.Balanced) (hb : b.ledger.Balanced)
    (hsingle : a.SingleWriter) (hwriter : writer ∈ a.nodes) (hnode : node ∈ a.nodes)
    (hwriter' : writer' ∈ b.nodes) (hother : other ∈ b.nodes)
    (hwriters : writer.bare = writer'.bare) (hbare : node.bare = other.bare)
    (hedge : ⟨writer.id, node.id⟩ ∈ a.edges) : ⟨writer'.id, other.id⟩ ∈ b.edges := by
  obtain ⟨hne, data, hwrites, hreads⟩ := (mem_edges_iff ha hwriter hnode).1 hedge
  refine (mem_edges_iff hb hwriter' hother).2
    ⟨fun hsame ↦ hne ?_, data, Node.writes_of_bare hwriters ▸ hwrites,
      Node.reads_of_bare hbare ▸ hreads⟩
  -- If the counterparts were one node, both nodes would write the object.
  obtain rfl : writer' = other :=
    List.inj_on_of_nodup_map (nodup_nodeIds hb) hwriter' hother hsame
  refine hsingle.id_eq hwriter hnode hwrites ?_
  rw [Node.writes_of_bare hbare, ← Node.writes_of_bare hwriters]
  exact hwrites

namespace Reordered

variable (h : a.Reordered b) (ha : a.Healthy) (hb : b.Healthy)
include h ha hb

/-- A node lies no deeper than its counterpart, for what it waits for has counterparts that lie less
deep. -/
theorem depth_le (hplanned : a.Planned plan) (hplanned' : b.Planned plan') {depth depth' : Nat}
    (hnode : node ∈ a.nodes) (hother : other ∈ b.nodes) (hbare : node.bare = other.bare)
    (hdepth : (node.id, depth) ∈ Precedence.depths a.edges [] plan.order)
    (hdepth' : (other.id, depth') ∈ Precedence.depths b.edges [] plan'.order) :
    depth' ≤ depth := by
  induction depth using Nat.strongRecOn generalizing node other depth' with
  | ind depth ih =>
    rw [hplanned'.depth_le_iff hb.balanced hdepth']
    intro before shallow hedge hshallow
    obtain ⟨writer', hwriter', rfl⟩ := hplanned'.exists_node hshallow
    obtain ⟨writer, hwriter, hwriters⟩ := h.exists_node hwriter'
    obtain ⟨level, hlevel⟩ := hplanned.exists_depth hwriter
    have hedge' : ⟨writer.id, node.id⟩ ∈ a.edges :=
      mem_edges_of_bare hb.balanced ha.balanced (singleWriter_of_producers hb.balanced
        hplanned'.single) hwriter' hother hwriter hnode hwriters.symm hbare.symm hedge
    have hlt : level < depth :=
      (hplanned.depth_le_iff ha.balanced hdepth).1 (Nat.le_refl depth) writer.id level hedge' hlevel
    exact Nat.lt_of_le_of_lt (ih level hlt hwriter hwriter' hwriters hlevel hshallow) hlt

/-- Nodes that correspond lie in the same level. -/
theorem exists_level (hplan : a.plan = some plan) (hplan' : b.plan = some plan')
    (hnode : node ∈ a.nodes) (hother : other ∈ b.nodes) (hbare : node.bare = other.bare) :
    ∃ level, a.level? node.id = some level ∧ b.level? other.id = some level := by
  obtain ⟨-, hplanned⟩ := ha.planned plan hplan
  obtain ⟨-, hplanned'⟩ := hb.planned plan' hplan'
  obtain ⟨depth, hdepth⟩ := hplanned.exists_depth hnode
  obtain ⟨depth', hdepth'⟩ := hplanned'.exists_depth hother
  obtain rfl : depth = depth' := Nat.le_antisymm
    (h.symm.depth_le hb ha hplanned' hplanned hother hnode hbare.symm hdepth' hdepth)
    (h.depth_le ha hb hplanned hplanned' hnode hother hbare hdepth hdepth')
  exact ⟨depth, hplanned.level?_eq ha.balanced hplan hdepth,
    hplanned'.level?_eq hb.balanced hplan' hdepth'⟩

end Reordered

/-! ## Runs -/

namespace Reordered

theorem memory_eq (h : a.Reordered b) : a.arena.memory = b.arena.memory :=
  funext fun data ↦ (h.arena.bind_byId? (fun _ _ hrel ↦ hrel.payload_eq) data).symm

variable (h : a.Reordered b) (ha : a.Healthy) (hb : b.Healthy)
  (hplan : a.plan = some plan) (hplan' : b.plan = some plan')
include h ha hb hplan hplan'

/-- The orders of both plans come to the same. -/
theorem foldlM_order (memory : Memory) :
    plan.order.foldlM a.advance memory = plan'.order.foldlM b.advance memory := by
  obtain ⟨-, hplanned⟩ := ha.planned plan hplan
  obtain ⟨-, hplanned'⟩ := hb.planned plan' hplan'
  obtain ⟨hperm, hrespects⟩ := order_spec hplanned.order_eq
  obtain ⟨hperm', hrespects'⟩ := order_spec hplanned'.order_eq
  obtain ⟨order, horder, hids⟩ := exists_perm_of_perm_map hperm
  obtain ⟨order', horder', hbare⟩ := h.exists_order horder
  have hnever : NeverBack order := (respects_iff ha.balanced horder).1 (hids ▸ hrespects)
  have hvalid := hplanned'.planValid hb.balanced
  have hnodup : (order'.map Node.id).Nodup :=
    (horder'.map Node.id).nodup_iff.2 (nodup_nodeIds hb.balanced)
  calc plan.order.foldlM a.advance memory
      = order.foldlM Node.passOn memory := by
        rw [← hids, foldlM_advance_map ha.balanced horder.subset]
    _ = (order.map Node.bare).foldlM Node.passOn memory :=
        (foldlM_passOn_bare (fun node hnode ↦ h.plain node (horder.subset hnode)) memory).symm
    _ = order'.foldlM Node.passOn memory := by
        rw [← hbare, foldlM_passOn_bare fun node hnode ↦ h.plain' node (horder'.subset hnode)]
    _ = (order'.map Node.id).foldlM b.advance memory :=
        (foldlM_advance_map hb.balanced horder'.subset memory).symm
    _ = plan'.order.foldlM b.advance memory := by
        apply Precedence.foldlM_eq_of_perm ?_ hnodup
          ((respects_iff hb.balanced horder').2 (neverBack_of_bare hbare hnever)) hrespects'
          ((horder'.map Node.id).trans hperm'.symm)
        intro id hid other hother
        exact commute_of_no_edge hvalid hb.balanced ((horder'.map Node.id).subset hid)
          ((horder'.map Node.id).subset hother)

/-- Both runs succeed or both fail, and if they succeed they leave the same memory. -/
theorem process_eq (watch watch' : Stopwatch) :
    ((a.process watch).result.isOk = true ↔ (b.process watch').result.isOk = true) ∧
      ((a.process watch).result.isOk = true →
        (a.process watch).graph.arena.memory = (b.process watch').graph.arena.memory) := by
  have hrun := ha.foldlM_order hplan (List.forall₂_same.2 fun ids _ ↦ List.Perm.refl ids) watch
  have hrun' := hb.foldlM_order hplan' (List.forall₂_same.2 fun ids _ ↦ List.Perm.refl ids) watch'
  rw [rescheduled_levels hplan] at hrun
  rw [rescheduled_levels hplan'] at hrun'
  have hsame := h.foldlM_order ha hb hplan hplan' a.arena.memory
  rw [hrun, h.memory_eq, hrun'] at hsame
  by_cases hok : (a.process watch).result.isOk = true
  · rw [if_pos hok] at hsame
    split at hsame
    · next hok' => exact ⟨iff_of_true hok hok', fun _ ↦ Option.some.inj hsame⟩
    · cases hsame
  · rw [if_neg hok] at hsame
    split at hsame
    · cases hsame
    · next hok' => exact ⟨iff_of_false hok hok', fun hok'' ↦ absurd hok'' hok⟩

end Reordered

end Graph

end ImageFlow
