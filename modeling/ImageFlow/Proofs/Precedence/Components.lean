import ImageFlow.Proofs.Precedence.LeastOrder
import Mathlib.Data.List.Flatten
import Mathlib.Data.List.Sort

/-!
# The nodes on cycles

A node lies on a cycle exactly if there is another node in its strongly connected component: the
cycle leads through that node, since no edge leads from a node to itself. So the nodes of the larger
components are those on cycles, whichever way the components have been found and in whatever
sequence they are listed. The nodes that only lead to a cycle, or that can only be reached from
one, are components by themselves.
-/

namespace ImageFlow.Precedence

variable {nodes seen all part : List NodeId} {edges : List Edge} {node other third : NodeId}
  {parts parts' : List (List NodeId)}

/-- A node can be reached from another one along edges, or is the same. -/
def Reaches (edges : List Edge) : NodeId → NodeId → Prop := Relation.ReflTransGen (Leads edges)

/-- Each of two nodes can be reached from the other. -/
def Linked (edges : List Edge) (node other : NodeId) : Prop :=
  Reaches edges node other ∧ Reaches edges other node

/-- The strongly connected components of a graph: every node is in one of them, once, together with
the nodes that it is linked to. -/
structure Components (nodes : List NodeId) (edges : List Edge) (parts : List (List NodeId)) :
    Prop where
  perm : parts.flatten.Perm nodes
  linked : ∀ part ∈ parts, ∀ node ∈ part, ∀ other,
    other ∈ part ↔ other ∈ nodes ∧ Linked edges node other

theorem Linked.refl (edges : List Edge) (node : NodeId) : Linked edges node node :=
  ⟨.refl, .refl⟩

theorem Linked.symm (h : Linked edges node other) : Linked edges other node :=
  ⟨h.2, h.1⟩

theorem Linked.trans (h : Linked edges node other) (h' : Linked edges other third) :
    Linked edges node third :=
  ⟨Relation.ReflTransGen.trans h.1 h'.1, Relation.ReflTransGen.trans h'.2 h.2⟩

/-! ## Reachability -/

section Spreading

variable {P : List NodeId → Prop}

/-- What holds of some nodes still holds after spreading, if adding the end of an edge that begins
among them keeps it. -/
theorem spread_induction (h : P nodes) (hstep : ∀ seen, P seen → ∀ edge ∈ edges,
      edge.source ∈ seen → edge.target ∉ seen → P (edge.target :: seen)) :
    P (spread edges nodes) := by
  unfold spread
  induction edges generalizing nodes with
  | nil => exact h
  | cons edge rest ih =>
    rw [List.foldl_cons]
    apply ih
    · split
      · next hnew =>
        have hends : edge.source ∈ nodes ∧ edge.target ∉ nodes := by simpa using hnew
        exact hstep nodes h edge List.mem_cons_self hends.1 hends.2
      · exact h
    · intro seen hseen other hother
      exact hstep seen hseen other (List.mem_cons_of_mem _ hother)

theorem closure_induction (steps : Nat) (h : P nodes) (hstep : ∀ seen, P seen → ∀ edge ∈ edges,
      edge.source ∈ seen → edge.target ∉ seen → P (edge.target :: seen)) :
    P (closure edges steps nodes) := by
  induction steps generalizing nodes with
  | zero => exact h
  | succ steps ih =>
    simp only [closure]
    split
    · exact h
    · exact ih (spread_induction h hstep)

end Spreading

theorem length_le_spread (edges : List Edge) (nodes : List NodeId) :
    nodes.length ≤ (spread edges nodes).length := by
  apply spread_induction (P := fun seen ↦ nodes.length ≤ seen.length) (Nat.le_refl _)
  intro seen hseen _ _ _ _
  exact Nat.le_succ_of_le hseen

/-- Spreading adds nothing only if there is nothing to add. -/
theorem target_mem_of_length_spread (h : (spread edges nodes).length = nodes.length) :
    ∀ edge ∈ edges, edge.source ∈ nodes → edge.target ∈ nodes := by
  induction edges generalizing nodes with
  | nil => simp
  | cons edge rest ih =>
    by_cases hnew : edge.source ∈ nodes ∧ edge.target ∉ nodes
    · have hspread : spread (edge :: rest) nodes = spread rest (edge.target :: nodes) := by
        simp [spread, hnew]
      have hle := length_le_spread rest (edge.target :: nodes)
      rw [← hspread, h, List.length_cons] at hle
      omega
    · have hspread : spread (edge :: rest) nodes = spread rest nodes := by
        simp only [spread, List.foldl_cons]
        rw [if_neg (by simpa using hnew)]
      have hrest := ih (hspread ▸ h)
      simp only [List.forall_mem_cons]
      exact ⟨fun hsource ↦ by_contra fun htarget ↦ hnew ⟨hsource, htarget⟩, hrest⟩

/-- Every step that is not the last adds a node, so enough steps reach all that can be reached. -/
theorem target_mem_closure (htargets : ∀ edge ∈ edges, edge.target ∈ all) (steps : Nat)
    (hnodup : seen.Nodup) (hsub : seen ⊆ all)
    (hsteps : all.length < seen.length + steps) :
    ∀ edge ∈ edges, edge.source ∈ closure edges steps seen →
      edge.target ∈ closure edges steps seen := by
  induction steps generalizing seen with
  | zero =>
    have hle := (hnodup.subperm hsub).length_le
    omega
  | succ steps ih =>
    simp only [closure]
    split
    · next hlength => exact target_mem_of_length_spread hlength
    · next hlength =>
      have hle := length_le_spread edges seen
      have hwider : (spread edges seen).Nodup ∧ spread edges seen ⊆ all := by
        apply spread_induction (P := fun wider ↦ wider.Nodup ∧ wider ⊆ all) ⟨hnodup, hsub⟩
        intro wider hwider edge hedge _ hnew
        exact ⟨List.nodup_cons.2 ⟨hnew, hwider.1⟩,
          List.cons_subset.2 ⟨htargets edge hedge, hwider.2⟩⟩
      exact ih hwider.1 hwider.2 (by omega)

/-- The nodes that are found are those that can be reached. -/
theorem mem_reachable_iff : other ∈ reachable edges node ↔ Reaches edges node other := by
  constructor
  · have hsound : ∀ found ∈ reachable edges node, Reaches edges node found := by
      apply closure_induction (P := fun seen ↦ ∀ found ∈ seen, Reaches edges node found)
      · exact List.forall_mem_singleton.2 Relation.ReflTransGen.refl
      · intro seen hseen edge hedge hsource _
        exact List.forall_mem_cons.2 ⟨(hseen edge.source hsource).tail hedge, hseen⟩
    exact hsound other
  · intro hpath
    induction hpath with
    | refl =>
      apply closure_induction (P := fun seen ↦ node ∈ seen) _ List.mem_cons_self
      intro seen hseen _ _ _ _
      exact List.mem_cons_of_mem _ hseen
    | tail _ hedge ih =>
      have htargets : ∀ edge ∈ edges, edge.target ∈ node :: edges.map Edge.target :=
        fun edge hedge ↦ List.mem_cons_of_mem _ (List.mem_map_of_mem hedge)
      exact target_mem_closure htargets (edges.length + 1) (List.nodup_singleton node) (by simp)
        (by simp) _ hedge ih

/-! ## Components -/

theorem mem_component_iff :
    other ∈ component nodes edges node ↔ other ∈ nodes ∧ Linked edges node other := by
  simp [component, Linked, mem_reachable_iff]

theorem component_congr (h : Linked edges node other) :
    component nodes edges node = component nodes edges other := by
  apply List.filter_congr
  intro third _
  rw [Bool.eq_iff_iff]
  simp only [Bool.and_eq_true, List.contains_iff_mem, mem_reachable_iff]
  exact ⟨h.symm.trans, h.trans⟩

/-- The components that are found are the strongly connected ones. -/
theorem components_spec (hnodes : nodes.Nodup) (edges : List Edge) :
    Components nodes edges (components nodes edges) where
  linked := by
    intro part hpart node hnode other
    obtain ⟨first, -, rfl⟩ := List.mem_map.1 hpart
    rw [component_congr (mem_component_iff.1 hnode).2]
    exact mem_component_iff
  perm := by
    have hparts : (components nodes edges).flatten.Nodup := by
      refine List.nodup_flatten.2 ⟨?_, ?_⟩
      · simp only [components, List.forall_mem_map]
        exact fun node _ ↦ hnodes.filter _
      · -- Components that meet are equal, and only one node stands first in them.
        refine List.pairwise_map.2 ((hnodes.filter _).pairwise_of_forall_ne ?_)
        intro first hfirst second hsecond hne member hmember hmember'
        have hlinked := (mem_component_iff.1 hmember).2.trans (mem_component_iff.1 hmember').2.symm
        have hhead := beq_iff_eq.1 (List.mem_filter.1 hfirst).2
        have hhead' := beq_iff_eq.1 (List.mem_filter.1 hsecond).2
        rw [component_congr hlinked, hhead'] at hhead
        exact hne (Option.some.inj hhead).symm
    refine (List.perm_ext_iff_of_nodup hparts hnodes).2 fun node ↦ ?_
    simp only [components, List.mem_flatten, List.mem_map, exists_exists_and_eq_and]
    constructor
    · rintro ⟨first, -, hnode⟩
      exact (mem_component_iff.1 hnode).1
    · intro hnode
      have hself : node ∈ component nodes edges node := mem_component_iff.2 ⟨hnode, .refl _ _⟩
      obtain ⟨first, hfirst⟩ : ∃ first, (component nodes edges node).head? = some first :=
        ⟨_, List.head?_eq_some_head (List.ne_nil_of_mem hself)⟩
      obtain ⟨hmem, hlinked⟩ := mem_component_iff.1 (List.mem_of_head? hfirst)
      refine ⟨first, List.mem_filter.2 ⟨hmem, ?_⟩, ?_⟩
      · rw [← component_congr hlinked, hfirst, beq_self_eq_true]
      · rwa [← component_congr hlinked]

/-! ## Nodes on cycles -/

theorem transGen_of_linked (h : Linked edges node other) (hne : node ≠ other) :
    Relation.TransGen (Leads edges) node node := by
  have hforth : Relation.TransGen (Leads edges) node other :=
    (Relation.reflTransGen_iff_eq_or_transGen.1 h.1).resolve_left hne.symm
  exact hforth.trans_left h.2

/-- A cycle leads through a second node. -/
theorem Simple.exists_linked (h : Simple nodes edges)
    (hcycle : Relation.TransGen (Leads edges) node node) :
    node ∈ nodes ∧ ∃ next ∈ nodes, Linked edges node next ∧ node ≠ next := by
  obtain ⟨next, hedge, hback⟩ := Relation.TransGen.head'_iff.1 hcycle
  exact ⟨h.source_mem _ hedge, next, h.target_mem _ hedge, ⟨.single hedge, hback⟩,
    h.loopless _ hedge⟩

theorem one_lt_length_iff (hnodup : part.Nodup) (hnode : node ∈ part) :
    1 < part.length ↔ ∃ other ∈ part, node ≠ other :=
  calc 1 < part.length ↔ 0 < (part.erase node).length := by
        rw [List.length_erase_of_mem hnode, Nat.sub_pos_iff_lt]
    _ ↔ ∃ other, other ∈ part.erase node := List.length_pos_iff_exists_mem
    _ ↔ ∃ other ∈ part, node ≠ other := by
        simp only [hnodup.mem_erase_iff, and_comm, ne_comm]

/-- The nodes of the larger components are those on cycles. -/
theorem Components.mem_entangled_iff (hparts : Components nodes edges parts)
    (h : Simple nodes edges) :
    node ∈ entangled parts ↔ Relation.TransGen (Leads edges) node node := by
  have hnodup := (List.nodup_flatten.1 (hparts.perm.nodup_iff.2 h.nodes_nodup)).1
  simp only [entangled, List.mem_mergeSort, List.mem_flatten, List.mem_filter, decide_eq_true_eq]
  constructor
  · rintro ⟨part, ⟨hpart, hsize⟩, hnode⟩
    obtain ⟨other, hother, hne⟩ := (one_lt_length_iff (hnodup part hpart) hnode).1 hsize
    exact transGen_of_linked ((hparts.linked part hpart node hnode other).1 hother).2 hne
  · intro hcycle
    obtain ⟨hnode, next, hnext, hlinked, hne⟩ := h.exists_linked hcycle
    obtain ⟨part, hpart, hmem⟩ := List.mem_flatten.1 (hparts.perm.mem_iff.2 hnode)
    have hnext' := (hparts.linked part hpart node hmem next).2 ⟨hnext, hlinked⟩
    have hsize := (one_lt_length_iff (hnodup part hpart) hmem).2 ⟨next, hnext', hne⟩
    exact ⟨part, ⟨hpart, hsize⟩, hmem⟩

/-- The nodes that are found are those on cycles. -/
theorem mem_cycleMembers_iff (h : Simple nodes edges) :
    node ∈ cycleMembers nodes edges ↔ Relation.TransGen (Leads edges) node node :=
  (components_spec h.nodes_nodup edges).mem_entangled_iff h

theorem increasing_entangled (hnodup : parts.flatten.Nodup) :
    (entangled parts).Pairwise (· < ·) := by
  have hdistinct : (entangled parts).Nodup := by
    rw [entangled, (List.mergeSort_perm _ _).nodup_iff]
    exact hnodup.sublist List.filter_sublist.flatten
  have hsorted : (entangled parts).Pairwise fun a b ↦ decide (a ≤ b) = true := by
    apply List.pairwise_mergeSort
    · intro a b c hle hle'
      exact decide_eq_true (Nat.le_trans (of_decide_eq_true hle) (of_decide_eq_true hle'))
    · intro a b
      simp only [Bool.or_eq_true, decide_eq_true_eq]
      exact Nat.le_total a.index b.index
  exact (hsorted.and hdistinct).imp fun h ↦ NodeId.lt_of_le_of_ne (of_decide_eq_true h.1) h.2

/-- The nodes on cycles do not depend on how the components are found. -/
theorem Components.entangled_eq (hparts : Components nodes edges parts)
    (hparts' : Components nodes edges parts') (h : Simple nodes edges) :
    entangled parts = entangled parts' := by
  have hincreasing := increasing_entangled (hparts.perm.nodup_iff.2 h.nodes_nodup)
  have hincreasing' := increasing_entangled (hparts'.perm.nodup_iff.2 h.nodes_nodup)
  have hperm : (entangled parts).Perm (entangled parts') := by
    have hne {a b : NodeId} (hlt : a < b) : a ≠ b := fun heq ↦ Nat.lt_irrefl b.index (heq ▸ hlt)
    refine (List.perm_ext_iff_of_nodup (hincreasing.imp hne) (hincreasing'.imp hne)).2 fun node ↦ ?_
    rw [hparts.mem_entangled_iff h, hparts'.mem_entangled_iff h]
  refine hperm.eq_of_pairwise ?_ hincreasing hincreasing'
  intro a b _ _ hlt hlt'
  exact absurd hlt' (Nat.lt_asymm hlt)

end ImageFlow.Precedence
