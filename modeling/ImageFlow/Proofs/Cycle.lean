import ImageFlow.Proofs.Precedence
import Mathlib.Data.List.Sort
import Mathlib.Logic.Relation
import Mathlib.Order.Extension.Linear

/-!
# Without an order there is a cycle

If no node can be reached from itself, reachability along edges is a partial order. It extends to a
linear one, and the nodes sorted by that respect the edges. So only a cycle keeps the nodes from
being put into an order.
-/

namespace ImageFlow.Precedence

variable {edges : List Edge} {nodes : List NodeId}

/-- One edge leads from a node to another. -/
def Leads (edges : List Edge) (node other : NodeId) : Prop := ⟨node, other⟩ ∈ edges

/-- Some node can be reached from itself along at least one edge. -/
def Cyclic (edges : List Edge) : Prop := ∃ node, Relation.TransGen (Leads edges) node node

theorem isPartialOrder_of_not_cyclic (hacyclic : ¬Cyclic edges) :
    IsPartialOrder NodeId (Relation.ReflTransGen (Leads edges)) where
  refl _ := .refl
  trans _ _ _ h h' := h.trans h'
  antisymm node other h h' := by
    rcases Relation.reflTransGen_iff_eq_or_transGen.1 h with heq | hforth
    · exact heq.symm
    · exact absurd ⟨node, hforth.trans_left h'⟩ hacyclic

/-- The nodes can be put into an order that respects the edges if there is no cycle. -/
theorem exists_respects_of_not_cyclic (hacyclic : ¬Cyclic edges) (nodes : List NodeId) :
    ∃ order : List NodeId, order.Perm nodes ∧ Respects edges order := by
  classical
  have hpartial := isPartialOrder_of_not_cyclic hacyclic
  obtain ⟨before, hlinear, hextends⟩ :=
    extend_partialOrder (Relation.ReflTransGen (Leads edges))
  refine ⟨nodes.insertionSort before, List.perm_insertionSort before nodes, ?_⟩
  refine (List.pairwise_insertionSort before nodes).imp fun {earlier later} hbefore hedge ↦ ?_
  -- An edge back would make the two nodes the same, and the edge a cycle.
  have hleads : Leads edges later earlier := hedge
  have hsame : earlier = later :=
    hlinear.antisymm _ _ hbefore (hextends _ _ (.single hleads))
  exact hacyclic ⟨later, .single (hsame ▸ hleads)⟩

end ImageFlow.Precedence
