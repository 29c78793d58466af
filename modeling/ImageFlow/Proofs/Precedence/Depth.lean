import ImageFlow.Proofs.Precedence.LeastOrder

/-!
# Levels are depths

A node lies at the depth that is the length of the longest path to it. The depths are computed
while an order is gone through, so a predecessor counts only if it comes earlier; in an order that
respects the edges all of them do. A node that is not at depth zero then has a predecessor exactly
one level higher up, and following such predecessors gives a path as long as the node is deep. No
path is longer, since depths grow along edges.
-/

namespace ImageFlow.Precedence

variable {nodes order : List NodeId} {edges : List Edge} {node deep before : NodeId}
  {depth most length : Nat}

/-- A path of some length ends at a node. -/
inductive PathTo (edges : List Edge) : Nat → NodeId → Prop
  | start (node : NodeId) : PathTo edges 0 node
  | step {length : Nat} {before node : NodeId} (path : PathTo edges length before)
      (edge : ⟨before, node⟩ ∈ edges) : PathTo edges (length + 1) node

/-- A node stands in the level of some index. -/
def InLevel (levels : List (List NodeId)) (depth : Nat) (node : NodeId) : Prop :=
  ∃ level, levels[depth]? = some level ∧ node ∈ level

/-- Levels that hold the nodes of an order by the length of the longest path to each of them. -/
structure Layered (edges : List Edge) (order : List NodeId) (levels : List (List NodeId)) :
    Prop where
  perm : levels.flatten.Perm order
  nodup : levels.flatten.Nodup
  longest : ∀ depth node, InLevel levels depth node →
    IsGreatest {length | PathTo edges length node} depth
  nonempty : ∀ level ∈ levels, level ≠ []
  upward : ∀ edge ∈ edges, ∃ low high, low < high ∧ InLevel levels low edge.source ∧
    InLevel levels high edge.target
  supported : ∀ depth node, InLevel levels (depth + 1) node →
    ∃ before, InLevel levels depth before ∧ ⟨before, node⟩ ∈ edges
  sublist : ∀ level ∈ levels, level.Sublist order

/-! ## Depths and levels -/

theorem length_levels_le_iff :
    (levels edges order).length ≤ most ↔ ∀ entry ∈ depths edges [] order, entry.2 < most := by
  have hfold : (levels edges order).length =
      ((depths edges [] order).map Prod.snd).foldl
        (fun depth deeper ↦ max depth (deeper + 1)) 0 := by
    simp [levels, List.foldl_map]
  simp only [hfold, foldl_max_le_iff, Nat.zero_le, true_and, List.forall_mem_map]

theorem inLevel_levels_iff :
    InLevel (levels edges order) depth node ↔ (node, depth) ∈ depths edges [] order := by
  constructor
  · rintro ⟨level, hlevel, hnode⟩
    obtain ⟨hlt, rfl⟩ := List.getElem?_eq_some_iff.1 hlevel
    exact (mem_getElem_levels hlt).1 hnode
  · intro hentry
    have hlt : depth < (levels edges order).length :=
      length_levels_le_iff.1 (Nat.le_refl _) _ hentry
    exact ⟨_, List.getElem?_eq_getElem hlt, (mem_getElem_levels hlt).2 hentry⟩

theorem exists_inLevel (hnode : node ∈ order) :
    ∃ depth, InLevel (levels edges order) depth node := by
  rw [← @keys_depths edges [] order] at hnode
  obtain ⟨⟨_, depth⟩, hentry, rfl⟩ := List.mem_map.1 hnode
  exact ⟨depth, inLevel_levels_iff.2 hentry⟩

/-! ## The longest path -/

section Respecting

variable (h : Simple nodes edges) (hperm : order.Perm nodes) (hrespects : Respects edges order)
include h hperm hrespects

theorem lt_of_inLevel (hedge : ⟨before, node⟩ ∈ edges)
    (hbefore : InLevel (levels edges order) depth before)
    (hnode : InLevel (levels edges order) most node) : depth < most :=
  depth_lt_of_edge (hperm.nodup_iff.2 h.nodes_nodup) hrespects (inLevel_levels_iff.1 hbefore)
    (inLevel_levels_iff.1 hnode) (h.loopless _ hedge) hedge

/-- A node that is not at depth zero has a predecessor one level higher up. -/
theorem exists_support (hnode : InLevel (levels edges order) (depth + 1) node) :
    ∃ before, InLevel (levels edges order) depth before ∧ ⟨before, node⟩ ∈ edges := by
  have hnodup : order.Nodup := hperm.nodup_iff.2 h.nodes_nodup
  have hdepth (most : Nat) : depth + 1 ≤ most ↔ ∀ before depth', ⟨before, node⟩ ∈ edges →
      (before, depth') ∈ depths edges [] order → depth' < most :=
    depth_le_iff h.not_mem_self [] order hnodup hrespects (inLevel_levels_iff.1 hnode)
  -- Not all predecessors lie above that level, and none lies below it.
  have hnot : ¬∀ before depth', ⟨before, node⟩ ∈ edges →
      (before, depth') ∈ depths edges [] order → depth' < depth := by
    rw [← hdepth depth]
    omega
  push Not at hnot
  obtain ⟨before, depth', hedge, hentry, hle⟩ := hnot
  have hlt : depth' < depth + 1 := (hdepth (depth + 1)).1 (Nat.le_refl _) before depth' hedge hentry
  obtain rfl : depth' = depth := by omega
  exact ⟨before, inLevel_levels_iff.2 hentry, hedge⟩

theorem pathTo_of_inLevel (hnode : InLevel (levels edges order) depth node) :
    PathTo edges depth node := by
  induction depth generalizing node with
  | zero => exact .start node
  | succ depth ih =>
    obtain ⟨before, hbefore, hedge⟩ := exists_support h hperm hrespects hnode
    exact .step (ih hbefore) hedge

theorem le_of_pathTo (hpath : PathTo edges length node)
    (hnode : InLevel (levels edges order) depth node) : length ≤ depth := by
  induction hpath generalizing depth with
  | start => exact Nat.zero_le depth
  | step _ hedge ih =>
    obtain ⟨depth', hbefore⟩ := exists_inLevel (hperm.mem_iff.2 (h.source_mem _ hedge))
    calc _ ≤ depth' + 1 := Nat.succ_le_succ (ih hbefore)
      _ ≤ depth := lt_of_inLevel h hperm hrespects hedge hbefore hnode

/-- There are nodes at every depth down to the deepest one. -/
theorem exists_inLevel_of_le (hdeep : InLevel (levels edges order) most deep)
    (hle : depth ≤ most) : ∃ node, InLevel (levels edges order) depth node := by
  induction most generalizing deep with
  | zero => exact ⟨deep, Nat.le_zero.1 hle ▸ hdeep⟩
  | succ most ih =>
    rcases Nat.le_succ_iff.1 hle with hle | rfl
    · obtain ⟨before, hbefore, -⟩ := exists_support h hperm hrespects hdeep
      exact ih hbefore hle
    · exact ⟨deep, hdeep⟩

theorem ne_nil_of_mem_levels : ∀ level ∈ levels edges order, level ≠ [] := by
  intro level hlevel
  obtain ⟨depth, hlt, rfl⟩ := List.getElem_of_mem hlevel
  obtain ⟨⟨deep, most⟩, hentry, hle⟩ : ∃ entry ∈ depths edges [] order, depth ≤ entry.2 := by
    by_contra hnone
    push Not at hnone
    exact Nat.not_le_of_lt hlt (length_levels_le_iff.2 hnone)
  obtain ⟨node, hnode⟩ :=
    exists_inLevel_of_le h hperm hrespects (inLevel_levels_iff.2 hentry) hle
  exact List.ne_nil_of_mem ((mem_getElem_levels hlt).2 (inLevel_levels_iff.1 hnode))

/-- The levels of an order that respects the edges. -/
theorem layered_levels : Layered edges order (levels edges order) where
  perm := flatten_levels_perm edges order
  nodup := ((flatten_levels_perm edges order).trans hperm).nodup_iff.2 h.nodes_nodup
  longest _ _ hnode := ⟨pathTo_of_inLevel h hperm hrespects hnode,
    fun _ hpath ↦ le_of_pathTo h hperm hrespects hpath hnode⟩
  nonempty := ne_nil_of_mem_levels h hperm hrespects
  upward edge hedge := by
    obtain ⟨low, hlow⟩ := exists_inLevel (hperm.mem_iff.2 (h.source_mem edge hedge))
    obtain ⟨high, hhigh⟩ := exists_inLevel (hperm.mem_iff.2 (h.target_mem edge hedge))
    exact ⟨low, high, lt_of_inLevel h hperm hrespects hedge hlow hhigh, hlow, hhigh⟩
  supported _ _ hnode := exists_support h hperm hrespects hnode
  sublist _ := sublist_of_mem_levels

end Respecting

end ImageFlow.Precedence
