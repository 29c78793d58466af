import ImageFlow.Proofs.Cycle
import Mathlib.Order.Bounds.Defs

/-!
# The order that is found is the least one

At every position of the order stands the smallest node that is ready there. Where another order
that respects the edges first departs from it, that order has a node which is ready as well, hence a
larger one. So the order is the least of all, it is the only one of its kind, and it does not depend
on how nodes and edges are listed. An order is found unless there is a cycle.

The number that a waiting node carries never falls short of what is taken off it: when a node is
placed, each of its successors is still waiting and counts the edge between the two.
-/

namespace ImageFlow

namespace NodeId

variable {a b : NodeId}

theorem eq_of_le_of_le (h : a ≤ b) (h' : b ≤ a) : a = b := by
  have hindex : a.index = b.index := Nat.le_antisymm h h'
  cases a
  cases b
  exact congrArg NodeId.mk hindex

theorem lt_of_le_of_ne (h : a ≤ b) (hne : a ≠ b) : a < b :=
  Nat.lt_of_not_le fun h' ↦ hne (eq_of_le_of_le h h')

end NodeId

namespace Precedence

variable {nodes order other placed : List NodeId} {edges : List Edge} {node next : NodeId}

/-- Nodes and the edges between them, in which nothing is listed twice and no edge leads from a node
to itself. -/
structure Simple (nodes : List NodeId) (edges : List Edge) : Prop where
  nodes_nodup : nodes.Nodup
  edges_nodup : edges.Nodup
  source_mem : ∀ edge ∈ edges, edge.source ∈ nodes
  target_mem : ∀ edge ∈ edges, edge.target ∈ nodes
  loopless : ∀ edge ∈ edges, edge.source ≠ edge.target

theorem Simple.not_mem_self (h : Simple nodes edges) (node : NodeId) : ⟨node, node⟩ ∉ edges :=
  fun hedge ↦ h.loopless _ hedge rfl

/-- The nodes that are not placed although all of their predecessors are. -/
def ready (nodes : List NodeId) (edges : List Edge) (placed : List NodeId) : Set NodeId :=
  {node | node ∈ nodes ∧ node ∉ placed ∧ ∀ before, ⟨before, node⟩ ∈ edges → before ∈ placed}

/-- At every position stands the smallest node that is ready there. -/
def Greedy (nodes : List NodeId) (edges : List Edge) (order : List NodeId) : Prop :=
  ∀ before node after, order = before ++ node :: after → IsLeast (ready nodes edges before) node

/-- Every edge leads from an earlier node of an order to a later one. -/
def Along (edges : List Edge) (order : List NodeId) : Prop :=
  ∀ edge ∈ edges, order.idxOf edge.source < order.idxOf edge.target

/-! ## What is placed is ready -/

theorem ready_congr {placed' : List NodeId} (hplaced : ∀ node, node ∈ placed ↔ node ∈ placed') :
    ready nodes edges placed = ready nodes edges placed' := by
  simp only [ready, hplaced]

theorem mem_ready_iff :
    node ∈ ready nodes edges placed ↔ (node, 0) ∈ waitingAfter edges nodes placed := by
  simp [ready, waitingAfter, missing, mem_predecessors_iff, and_assoc]

/-- The ready node that is chosen is the smallest. -/
theorem le_of_leastReady? {waiting : Waiting} (h : leastReady? waiting = some node)
    (hother : (next, 0) ∈ waiting) : node ≤ next := by
  induction waiting generalizing node with
  | nil => cases hother
  | cons entry rest ih =>
    obtain ⟨first, count⟩ := entry
    rw [leastReady?] at h
    have hcases : (first = next ∧ count = 0) ∨ (next, 0) ∈ rest := by
      simpa [eq_comm] using hother
    cases hrest : leastReady? rest with
    | none =>
      have hnone : (next, 0) ∉ rest := fun hmem ↦ by simpa [hrest] using isSome_leastReady? hmem
      obtain ⟨rfl, rfl⟩ := hcases.resolve_right hnone
      simp only [if_pos, hrest, leastOf, Option.some.injEq] at h
      exact Nat.le_of_eq (congrArg NodeId.index h.symm)
    | some least =>
      rw [hrest] at h
      split at h
      · -- The first node is ready as well, and the smaller of the two is chosen.
        have hle : node ≤ first ∧ node ≤ least := by
          simp only [leastOf, Option.some.injEq] at h
          split at h <;> subst h
          · next hlt => exact ⟨Nat.le_of_lt hlt, Nat.le_refl _⟩
          · next hnot => exact ⟨Nat.le_refl _, Nat.le_of_not_lt hnot⟩
        rcases hcases with ⟨rfl, -⟩ | hmem
        · exact hle.1
        · exact Nat.le_trans hle.2 (ih hrest hmem)
      · next hcount => exact ih (hrest.trans h) (hcases.resolve_left fun hfirst ↦ hcount hfirst.2)

theorem isLeast_ready (h : leastReady? (waitingAfter edges nodes placed) = some node) :
    IsLeast (ready nodes edges placed) node :=
  ⟨mem_ready_iff.2 (mem_of_leastReady? h),
    fun _ hnext ↦ le_of_leastReady? h (mem_ready_iff.1 hnext)⟩

/-- Whatever has been placed before, every further node is the smallest one that is ready. -/
theorem isLeast_of_placeReady (hedges : edges.Nodup) (steps : Nat)
    {placed before after : List NodeId}
    (h : placeReady edges steps (waitingAfter edges nodes placed) = before ++ node :: after) :
    IsLeast (ready nodes edges (placed ++ before)) node := by
  induction steps generalizing placed before with
  | zero => simp [placeReady] at h
  | succ steps ih =>
    rw [placeReady] at h
    cases hready : leastReady? (waitingAfter edges nodes placed) with
    | none => simp [hready] at h
    | some first =>
      have hleast := isLeast_ready hready
      rw [hready] at h
      dsimp only at h
      rw [place_waitingAfter hedges hleast.1.2.1] at h
      cases before with
      | nil =>
        obtain ⟨rfl, -⟩ := List.cons.inj h
        simpa using hleast
      | cons _ before =>
        obtain ⟨rfl, hrest⟩ := List.cons.inj h
        have hmoved : ready nodes edges (first :: placed ++ before) =
            ready nodes edges (placed ++ first :: before) :=
          ready_congr fun node ↦ by simp [or_left_comm]
        rw [← hmoved]
        exact ih hrest

/-! ## Where an order stands among the others -/

theorem Respects.along (h : Simple nodes edges) (hperm : order.Perm nodes)
    (hrespects : Respects edges order) : Along edges order := by
  intro edge hedge
  obtain ⟨first, second, hfirst, hsecond, hlt⟩ := hrespects.exists_lt
    (hperm.nodup_iff.2 h.nodes_nodup) (hperm.mem_iff.2 (h.source_mem edge hedge))
    (hperm.mem_iff.2 (h.target_mem edge hedge)) (h.loopless edge hedge) hedge
  have hsource := (List.findIdx?_eq_some_iff_findIdx_eq.1 hfirst).2
  have htarget := (List.findIdx?_eq_some_iff_findIdx_eq.1 hsecond).2
  calc order.idxOf edge.source = first := hsource
    _ < second := hlt
    _ = order.idxOf edge.target := htarget.symm

/-- An order that respects the edges takes only nodes that are ready. -/
theorem Along.mem_ready (halong : Along edges order) (h : Simple nodes edges)
    (hperm : order.Perm nodes) {before after : List NodeId}
    (hsplit : order = before ++ node :: after) : node ∈ ready nodes edges before := by
  have hnodup : order.Nodup := hperm.nodup_iff.2 h.nodes_nodup
  have hnew : node ∉ before := by
    rw [hsplit] at hnodup
    exact fun hmem ↦ (List.nodup_append.1 hnodup).2.2 node hmem node List.mem_cons_self rfl
  refine ⟨hperm.subset (by simp [hsplit]), hnew, fun earlier hedge ↦ ?_⟩
  have hlt : order.idxOf earlier < before.length := by
    have hposition : order.idxOf node = before.length := by
      simp [hsplit, List.idxOf_append, hnew]
    simpa [hposition] using halong _ hedge
  by_contra habsent
  rw [hsplit, List.idxOf_append, if_neg habsent] at hlt
  omega

/-- Two lists of the same length that differ do so at some position for the first time. -/
theorem exists_first_difference {first second : List NodeId}
    (hlength : first.length = second.length) (hne : first ≠ second) :
    ∃ shared a b rest rest', first = shared ++ a :: rest ∧ second = shared ++ b :: rest' ∧
      a ≠ b := by
  induction first generalizing second with
  | nil => exact absurd (List.length_eq_zero_iff.1 hlength.symm).symm hne
  | cons a first ih =>
    cases second with
    | nil => cases hlength
    | cons b second =>
      by_cases hsame : a = b
      · subst hsame
        obtain ⟨shared, c, d, rest, rest', rfl, rfl, hdiffer⟩ :=
          ih (Nat.succ.inj hlength) fun heq ↦ hne (congrArg (a :: ·) heq)
        exact ⟨a :: shared, c, d, rest, rest', rfl, rfl, hdiffer⟩
      · exact ⟨[], a, b, first, second, rfl, rfl, hsame⟩

/-- Where another order first departs, it takes a larger node. -/
theorem Greedy.eq_or_lt (hgreedy : Greedy nodes edges order) (h : Simple nodes edges)
    (hperm : order.Perm nodes) (hother : other.Perm nodes) (halong : Along edges other) :
    order = other ∨ order < other := by
  by_cases hsame : order = other
  · exact .inl hsame
  · obtain ⟨shared, a, b, rest, rest', horder, hrest, hne⟩ :=
      exists_first_difference (hperm.trans hother.symm).length_eq hsame
    have hle : a ≤ b := (hgreedy shared a rest horder).2 (halong.mem_ready h hother hrest)
    rw [horder, hrest]
    exact .inr (List.append_left_lt
      (List.cons_lt_cons_iff.2 (.inl (NodeId.lt_of_le_of_ne hle hne))))

theorem Greedy.unique (hgreedy : Greedy nodes edges order) (hgreedy' : Greedy nodes edges other)
    (hlength : order.length = other.length) : order = other := by
  by_contra hdiffer
  obtain ⟨shared, a, b, rest, rest', horder, hother, hne⟩ :=
    exists_first_difference hlength hdiffer
  have hleast := hgreedy shared a rest horder
  have hleast' := hgreedy' shared b rest' hother
  exact hne (NodeId.eq_of_le_of_le (hleast.2 hleast'.1) (hleast'.2 hleast.1))

/-! ## Finding the order -/

/-- Positions grow along every path, so no path leads back to its start. -/
theorem Along.not_cyclic (halong : Along edges order) : ¬Cyclic edges := by
  rintro ⟨node, hcycle⟩
  have hgrows {later : NodeId} (hpath : Relation.TransGen (Leads edges) node later) :
      order.idxOf node < order.idxOf later := by
    induction hpath with
    | single hedge => exact halong _ hedge
    | tail _ hedge ih => exact Nat.lt_trans ih (halong _ hedge)
  exact Nat.lt_irrefl _ (hgrows hcycle)

theorem greedy_of_order? (h : Simple nodes edges) (horder : order? nodes edges = some order) :
    Greedy nodes edges order := by
  intro before node after hsplit
  simp only [order?] at horder
  split at horder
  · have hplaced := Option.some.inj horder
    rw [waitingOf_eq, hsplit] at hplaced
    simpa using isLeast_of_placeReady h.edges_nodup nodes.length hplaced
  · cases horder

/-- An order is found unless there is a cycle. -/
theorem isSome_order?_iff (h : Simple nodes edges) :
    (order? nodes edges).isSome = true ↔ ¬Cyclic edges := by
  constructor
  · intro hsome
    obtain ⟨order, horder⟩ := Option.isSome_iff_exists.1 hsome
    obtain ⟨hperm, hrespects⟩ := order?_spec h.edges_nodup horder
    exact (hrespects.along h hperm).not_cyclic
  · intro hacyclic
    obtain ⟨order, hperm, hrespects⟩ := exists_respects_of_not_cyclic hacyclic nodes
    exact isSome_order? h.edges_nodup h.nodes_nodup hperm hrespects h.source_mem h.not_mem_self

theorem order?_eq_none_iff (h : Simple nodes edges) : order? nodes edges = none ↔ Cyclic edges := by
  rw [← Option.not_isSome_iff_eq_none, isSome_order?_iff h, not_not]

/-! ### Listing nodes and edges otherwise -/

section Listing

variable {nodes' : List NodeId} {edges' : List Edge}

theorem Simple.congr (h : Simple nodes edges) (hnodes : nodes'.Perm nodes)
    (hedges : edges'.Perm edges) : Simple nodes' edges' where
  nodes_nodup := hnodes.nodup_iff.2 h.nodes_nodup
  edges_nodup := hedges.nodup_iff.2 h.edges_nodup
  source_mem edge hedge := hnodes.mem_iff.2 (h.source_mem edge (hedges.mem_iff.1 hedge))
  target_mem edge hedge := hnodes.mem_iff.2 (h.target_mem edge (hedges.mem_iff.1 hedge))
  loopless edge hedge := h.loopless edge (hedges.mem_iff.1 hedge)

theorem Greedy.congr (hgreedy : Greedy nodes edges order) (hnodes : nodes'.Perm nodes)
    (hedges : edges'.Perm edges) : Greedy nodes' edges' order := by
  intro before node after hsplit
  have hready : ready nodes' edges' before = ready nodes edges before := by
    simp only [ready, hnodes.mem_iff, hedges.mem_iff]
  rw [hready]
  exact hgreedy before node after hsplit

/-- The order does not depend on how the nodes and the edges are listed. -/
theorem order?_congr (h : Simple nodes edges) (hnodes : nodes'.Perm nodes)
    (hedges : edges'.Perm edges) : order? nodes' edges' = order? nodes edges := by
  have h' := h.congr hnodes hedges
  have hsome : (order? nodes' edges').isSome = (order? nodes edges).isSome := by
    have hleads : Leads edges' = Leads edges := by
      ext before later
      exact hedges.mem_iff
    rw [Bool.eq_iff_iff, isSome_order?_iff h, isSome_order?_iff h', Cyclic, Cyclic, hleads]
  cases horder : order? nodes edges with
  | none => simpa [horder] using hsome
  | some order =>
    obtain ⟨other, hother⟩ := Option.isSome_iff_exists.1 (by simpa [horder] using hsome)
    have hlength : other.length = order.length :=
      calc other.length = nodes'.length := (order?_spec h'.edges_nodup hother).1.length_eq
        _ = nodes.length := hnodes.length_eq
        _ = order.length := (order?_spec h.edges_nodup horder).1.length_eq.symm
    have hgreedy := (greedy_of_order? h horder).congr hnodes hedges
    rw [hother, (greedy_of_order? h' hother).unique hgreedy hlength]

end Listing

/-! ### What waiting nodes count -/

/-- The nodes that are placed one after the other, each with what was waiting when its turn came. -/
def placements (edges : List Edge) : Nat → Waiting → List (NodeId × Waiting)
  | 0, _ => []
  | steps + 1, waiting =>
    match leastReady? waiting with
    | none => []
    | some node => (node, waiting) :: placements edges steps (place edges node waiting)

/-- The successors of a node are all waiting, and each of them counts no fewer edges than are taken
off it when the node is placed. -/
def Covered (edges : List Edge) (node : NodeId) (waiting : Waiting) : Prop :=
  ∀ next ∈ successors edges node, ∃ count, waiting.lookup next = some count ∧
    (successors edges node).count next ≤ count

theorem map_fst_placements (edges : List Edge) (steps : Nat) (waiting : Waiting) :
    (placements edges steps waiting).map Prod.fst = placeReady edges steps waiting := by
  induction steps generalizing waiting with
  | zero => rfl
  | succ steps ih =>
    rw [placements, placeReady]
    cases leastReady? waiting <;> simp [ih]

theorem nodup_successors (h : edges.Nodup) (node : NodeId) : (successors edges node).Nodup := by
  refine (h.filter _).map_on fun a ha b hb htarget ↦ ?_
  have hsource : a.source = b.source := by
    simp only [List.mem_filter, beq_iff_eq] at ha hb
    rw [ha.2, hb.2]
  cases a
  cases b
  simp_all

theorem covered_of_ready (h : Simple nodes edges)
    (hclosed : ∀ later ∈ placed, ∀ before, ⟨before, later⟩ ∈ edges → before ∈ placed)
    (hready : node ∈ ready nodes edges placed) :
    Covered edges node (waitingAfter edges nodes placed) := by
  intro next hnext
  have hedge : ⟨node, next⟩ ∈ edges := mem_successors_iff.1 hnext
  -- A successor that was placed would have had to wait for the node.
  have hnew : next ∉ placed := fun hplaced ↦ hready.2.1 (hclosed next hplaced node hedge)
  have hmissing : node ∈ missing edges placed next := by
    simp [missing, mem_predecessors_iff, hedge, hready.2.1]
  have hkeys : ((waitingAfter edges nodes placed).map Prod.fst).Nodup := by
    have hnodup := h.nodes_nodup.filter fun node ↦ !placed.contains node
    simpa [waitingAfter, Function.comp_def] using hnodup
  refine ⟨_, lookup_of_mem hkeys (List.mem_map.2 ⟨next, ?_, rfl⟩), ?_⟩
  · simpa [hnew] using h.target_mem _ hedge
  · calc (successors edges node).count next ≤ 1 :=
        List.nodup_iff_count_le_one.1 (nodup_successors h.edges_nodup node) next
      _ ≤ (missing edges placed next).length := List.length_pos_of_mem hmissing

/-- No count falls below zero, however far the placing goes. -/
theorem covered_of_mem_placements (h : Simple nodes edges) (steps : Nat) {placed : List NodeId}
    (hclosed : ∀ later ∈ placed, ∀ before, ⟨before, later⟩ ∈ edges → before ∈ placed)
    {entry : NodeId × Waiting}
    (hentry : entry ∈ placements edges steps (waitingAfter edges nodes placed)) :
    Covered edges entry.1 entry.2 := by
  induction steps generalizing placed with
  | zero => cases hentry
  | succ steps ih =>
    rw [placements] at hentry
    cases hready : leastReady? (waitingAfter edges nodes placed) with
    | none => simp [hready] at hentry
    | some node =>
      have hmem := (isLeast_ready hready).1
      rw [hready] at hentry
      rcases List.mem_cons.1 hentry with rfl | hrest
      · exact covered_of_ready h hclosed hmem
      · rw [place_waitingAfter h.edges_nodup hmem.2.1] at hrest
        refine ih (List.forall_mem_cons.2 ⟨?_, fun later hlater before hedge ↦ ?_⟩) hrest
        · exact fun before hedge ↦ List.mem_cons_of_mem _ (hmem.2.2 before hedge)
        · exact List.mem_cons_of_mem _ (hclosed later hlater before hedge)

end Precedence

end ImageFlow
