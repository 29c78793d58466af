import ImageFlow.Precedence
import Mathlib.Data.List.Forall2
import Mathlib.Data.List.Nodup
import Mathlib.Data.List.Perm.Subperm

/-!
# Orders and levels respect the edges

The number that a waiting node carries is the number of its predecessors that are not placed yet. So
a node is placed only after all of its predecessors, and a later node of an order has no edge to an
earlier one. Depths grow along edges, so levels have the same property, in whatever order the nodes
of one level are taken.
-/

namespace ImageFlow.Precedence

variable {edges : List Edge} {nodes order placed : List NodeId} {node other : NodeId}

/-- No node of a list has an edge to a node before it. -/
def Respects (edges : List Edge) (order : List NodeId) : Prop :=
  order.Pairwise fun earlier later ↦ ⟨later, earlier⟩ ∉ edges

theorem mem_predecessors_iff : other ∈ predecessors edges node ↔ ⟨other, node⟩ ∈ edges := by
  simp only [predecessors, List.mem_map, List.mem_filter, beq_iff_eq]
  constructor
  · rintro ⟨edge, ⟨hedge, rfl⟩, rfl⟩
    exact hedge
  · intro hedge
    exact ⟨⟨other, node⟩, ⟨hedge, rfl⟩, rfl⟩

theorem mem_successors_iff : other ∈ successors edges node ↔ ⟨node, other⟩ ∈ edges := by
  simp only [successors, List.mem_map, List.mem_filter, beq_iff_eq]
  constructor
  · rintro ⟨edge, ⟨hedge, rfl⟩, rfl⟩
    exact hedge
  · intro hedge
    exact ⟨⟨node, other⟩, ⟨hedge, rfl⟩, rfl⟩

theorem nodup_predecessors (h : edges.Nodup) (node : NodeId) : (predecessors edges node).Nodup := by
  apply (h.filter _).map_on
  intro a ha b hb hsource
  have hatarget : a.target = node := beq_iff_eq.1 (List.mem_filter.1 ha).2
  have hbtarget : b.target = node := beq_iff_eq.1 (List.mem_filter.1 hb).2
  obtain ⟨source, target⟩ := a
  obtain ⟨source', target'⟩ := b
  rw [Edge.mk.injEq]
  exact ⟨hsource, hatarget.trans hbtarget.symm⟩

/-! ## The order -/

/-- The predecessors of a node that are not placed. -/
def missing (edges : List Edge) (placed : List NodeId) (node : NodeId) : List NodeId :=
  (predecessors edges node).filter fun before ↦ !placed.contains before

/-- What waits once some nodes are placed. -/
def waitingAfter (edges : List Edge) (nodes placed : List NodeId) : Waiting :=
  (nodes.filter fun node ↦ !placed.contains node).map fun node ↦
    (node, (missing edges placed node).length)

theorem waitingOf_eq (nodes : List NodeId) (edges : List Edge) :
    waitingOf nodes edges = waitingAfter edges nodes [] := by
  simp [waitingOf, waitingAfter, missing]

theorem filter_not_contains_cons (xs : List NodeId) :
    (xs.filter fun x ↦ !(node :: placed).contains x) =
      (xs.filter fun x ↦ !placed.contains x).filter (· != node) := by
  rw [List.filter_filter]
  apply List.filter_congr
  intro x _
  rw [List.contains_cons, Bool.not_or]
  rfl

/-- Placing a node takes one predecessor away from each of its successors. -/
theorem length_missing_cons (hedges : edges.Nodup) (hnode : node ∉ placed) (other : NodeId) :
    (missing edges (node :: placed) other).length =
      if (successors edges node).contains other then (missing edges placed other).length - 1
      else (missing edges placed other).length := by
  have hfilter : missing edges (node :: placed) other =
      (missing edges placed other).filter (· != node) := filter_not_contains_cons _
  have hnodup : (missing edges placed other).Nodup := (nodup_predecessors hedges other).filter _
  have hmem :
      node ∈ missing edges placed other ↔ (successors edges node).contains other = true := by
    simp [missing, hnode, mem_predecessors_iff, mem_successors_iff]
  rw [hfilter, ← hnodup.erase_eq_filter]
  by_cases hsuccessor : (successors edges node).contains other = true
  · rw [if_pos hsuccessor]
    exact List.length_erase_of_mem (hmem.2 hsuccessor)
  · rw [if_neg hsuccessor, List.erase_of_not_mem fun hin ↦ hsuccessor (hmem.1 hin)]

theorem place_waitingAfter (hedges : edges.Nodup) (hnode : node ∉ placed) :
    place edges node (waitingAfter edges nodes placed) =
      waitingAfter edges nodes (node :: placed) := by
  simp only [place, waitingAfter, filter_not_contains_cons, List.filter_map, List.map_map]
  apply List.map_congr_left
  intro other _
  simp only [Function.comp_apply, length_missing_cons hedges hnode]

theorem mem_of_leastReady? {waiting : Waiting} (h : leastReady? waiting = some node) :
    (node, 0) ∈ waiting := by
  induction waiting generalizing node with
  | nil => cases h
  | cons entry rest ih =>
    obtain ⟨first, count⟩ := entry
    rw [leastReady?] at h
    split at h
    · next hready =>
      cases hrest : leastReady? rest with
      | none =>
        rw [hrest] at h
        cases h
        exact hready ▸ List.mem_cons_self
      | some other =>
        rw [hrest, leastOf] at h
        split at h
        · cases h
          exact List.mem_cons_of_mem _ (ih hrest)
        · cases h
          exact hready ▸ List.mem_cons_self
    · exact List.mem_cons_of_mem _ (ih h)

/-- What is placed after some nodes: nodes of the graph, each of them once, and none before one of
its predecessors. -/
theorem placeReady_spec (hedges : edges.Nodup) (steps : Nat) (placed : List NodeId) :
    let later := placeReady edges steps (waitingAfter edges nodes placed)
    later.Nodup ∧ (∀ node ∈ later, node ∈ nodes ∧ node ∉ placed) ∧ Respects edges later := by
  induction steps generalizing placed with
  | zero => exact ⟨List.nodup_nil, by simp [placeReady], List.Pairwise.nil⟩
  | succ steps ih =>
    rw [placeReady]
    cases hready : leastReady? (waitingAfter edges nodes placed) with
    | none => exact ⟨List.nodup_nil, by simp, List.Pairwise.nil⟩
    | some node =>
      obtain ⟨candidate, hcandidate, hentry⟩ := List.mem_map.1 (mem_of_leastReady? hready)
      obtain ⟨rfl, hcount⟩ := Prod.mk.inj hentry
      obtain ⟨hmem, hnew⟩ := List.mem_filter.1 hcandidate
      have hnode : candidate ∉ placed := by simpa using hnew
      dsimp only
      rw [place_waitingAfter hedges hnode]
      obtain ⟨hnodup, hrest, hrespects⟩ := ih (candidate :: placed)
      have hfresh {later : NodeId} (hlater : later ∈ placeReady edges steps
          (waitingAfter edges nodes (candidate :: placed))) :
          later ≠ candidate ∧ later ∉ placed := by
        simpa using (hrest later hlater).2
      refine ⟨List.nodup_cons.2 ⟨fun hin ↦ (hfresh hin).1 rfl, hnodup⟩, ?_, ?_⟩
      · refine List.forall_mem_cons.2 ⟨⟨hmem, hnode⟩, fun later hlater ↦ ?_⟩
        exact ⟨(hrest later hlater).1, (hfresh hlater).2⟩
      · -- Nothing is missing for the node, so none of its predecessors is still to come.
        refine List.pairwise_cons.2 ⟨fun later hlater hedge ↦ ?_, hrespects⟩
        have hmissing : later ∈ missing edges placed candidate := by
          simpa [missing, mem_predecessors_iff, hedge] using (hfresh hlater).2
        rw [List.length_eq_zero_iff.1 hcount] at hmissing
        cases hmissing

theorem findIdx?_eq_some_iff (hnodup : order.Nodup) {position : Nat} :
    order.findIdx? (· == node) = some position ↔ order[position]? = some node := by
  rw [List.findIdx?_eq_some_iff_getElem, List.getElem?_eq_some_iff]
  constructor
  · rintro ⟨hlt, hsame, -⟩
    exact ⟨hlt, beq_iff_eq.1 hsame⟩
  · rintro ⟨hlt, rfl⟩
    refine ⟨hlt, BEq.rfl, fun earlier hearlier hsame ↦ ?_⟩
    have hposition := hnodup.getElem_inj_iff.1 (beq_iff_eq.1 hsame)
    exact absurd hposition (Nat.ne_of_lt hearlier)

/-- The start of an edge stands before its end. -/
theorem Respects.exists_lt (h : Respects edges order) (hnodup : order.Nodup) (hnode : node ∈ order)
    (hother : other ∈ order) (hne : node ≠ other) (hedge : ⟨node, other⟩ ∈ edges) :
    ∃ first second, order.findIdx? (· == node) = some first ∧
      order.findIdx? (· == other) = some second ∧ first < second := by
  obtain ⟨first, hfirst⟩ := List.getElem?_of_mem hnode
  obtain ⟨second, hsecond⟩ := List.getElem?_of_mem hother
  refine ⟨first, second, (findIdx?_eq_some_iff hnodup).2 hfirst,
    (findIdx?_eq_some_iff hnodup).2 hsecond, ?_⟩
  obtain ⟨hltFirst, rfl⟩ := List.getElem?_eq_some_iff.1 hfirst
  obtain ⟨hltSecond, rfl⟩ := List.getElem?_eq_some_iff.1 hsecond
  by_contra hle
  rcases Nat.lt_or_eq_of_le (Nat.le_of_not_lt hle) with hlt | heq
  · exact List.pairwise_iff_getElem.1 h second first hltSecond hltFirst hlt hedge
  · subst heq
    exact hne rfl

/-- An order that is found has every node once, and no node before one of its predecessors. -/
theorem order?_spec (hedges : edges.Nodup) (h : order? nodes edges = some order) :
    order.Perm nodes ∧ Respects edges order := by
  obtain ⟨hnodup, hmem, hrespects⟩ := @placeReady_spec edges nodes hedges nodes.length []
  rw [← waitingOf_eq] at hnodup hmem hrespects
  simp only [order?] at h
  split at h
  · next hlength =>
    cases h
    refine ⟨?_, hrespects⟩
    have hsub : List.Subperm (placeReady edges nodes.length (waitingOf nodes edges)) nodes :=
      hnodup.subperm fun node hnode ↦ (hmem node hnode).1
    exact hsub.perm_of_length_le (Nat.le_of_eq hlength.symm)
  · cases h

theorem isSome_leastReady? {waiting : Waiting} (h : (node, 0) ∈ waiting) :
    (leastReady? waiting).isSome = true := by
  induction waiting with
  | nil => cases h
  | cons entry rest ih =>
    obtain ⟨first, count⟩ := entry
    rw [leastReady?]
    split
    · rfl
    · next hcount =>
      rcases List.mem_cons.1 h with heq | hrest
      · exact absurd (Prod.mk.inj heq).2.symm hcount
      · exact ih hrest

/-- If the nodes can be put into some order, then as long as not all of them are placed, nothing is
missing for one of the others. -/
theorem exists_ready (hperm : order.Perm nodes) (hrespects : Respects edges order)
    (hends : ∀ edge ∈ edges, edge.source ∈ nodes) (hself : ∀ node, ⟨node, node⟩ ∉ edges)
    (hleft : ∃ node ∈ nodes, node ∉ placed) :
    ∃ node ∈ nodes, node ∉ placed ∧ missing edges placed node = [] := by
  obtain ⟨unplaced, hunplaced, hnot⟩ := hleft
  -- The first node of the order that is not placed comes before all others that are not.
  obtain ⟨node, hfind⟩ := Option.isSome_iff_exists.1
    (List.find?_isSome.2 ⟨unplaced, hperm.mem_iff.2 hunplaced, by simpa using hnot⟩ :
      (order.find? fun node ↦ !placed.contains node).isSome = true)
  obtain ⟨hnode, before, after, rfl, hbefore⟩ := List.find?_eq_some_iff_append.1 hfind
  have hnew : node ∉ placed := by simpa using hnode
  refine ⟨node, hperm.subset (by simp), hnew, ?_⟩
  refine List.eq_nil_iff_forall_not_mem.2 fun other hother ↦ ?_
  obtain ⟨hpredecessor, hmissing⟩ := List.mem_filter.1 hother
  have hedge := mem_predecessors_iff.1 hpredecessor
  have hmem : other ∈ before ++ node :: after := hperm.mem_iff.2 (hends _ hedge)
  rcases List.mem_append.1 hmem with hearlier | hlater
  · have hplaced := hbefore other hearlier
    rw [hmissing] at hplaced
    cases hplaced
  · rcases List.mem_cons.1 hlater with rfl | hlater
    · exact hself _ hedge
    · exact (List.pairwise_cons.1 (List.pairwise_append.1 hrespects).2.1).1 other hlater hedge

theorem length_placeReady (hedges : edges.Nodup) (hnodes : nodes.Nodup) (hperm : order.Perm nodes)
    (hrespects : Respects edges order) (hends : ∀ edge ∈ edges, edge.source ∈ nodes)
    (hself : ∀ node, ⟨node, node⟩ ∉ edges) (steps : Nat) (placed : List NodeId)
    (hsteps : (nodes.filter fun node ↦ !placed.contains node).length = steps) :
    (placeReady edges steps (waitingAfter edges nodes placed)).length = steps := by
  induction steps generalizing placed with
  | zero => rfl
  | succ steps ih =>
    have hleft : ∃ node ∈ nodes, node ∉ placed := by
      obtain ⟨node, hnode⟩ := List.exists_mem_of_length_pos (by omega :
        0 < (nodes.filter fun node ↦ !placed.contains node).length)
      obtain ⟨hnode, hnew⟩ := List.mem_filter.1 hnode
      exact ⟨node, hnode, by simpa using hnew⟩
    obtain ⟨ready, hready, hnew, hmissing⟩ := exists_ready hperm hrespects hends hself hleft
    have hentry : (ready, 0) ∈ waitingAfter edges nodes placed :=
      List.mem_map.2 ⟨ready, List.mem_filter.2 ⟨hready, by simpa using hnew⟩, by rw [hmissing]; rfl⟩
    obtain ⟨node, hnode⟩ := Option.isSome_iff_exists.1 (isSome_leastReady? hentry)
    obtain ⟨candidate, hcandidate, hsame⟩ := List.mem_map.1 (mem_of_leastReady? hnode)
    obtain rfl : candidate = node := (Prod.mk.inj hsame).1
    have hcandidate' : candidate ∉ placed := by simpa using (List.mem_filter.1 hcandidate).2
    have hfewer : (nodes.filter fun other ↦ !(candidate :: placed).contains other).length =
        steps := by
      rw [filter_not_contains_cons, ← (hnodes.filter _).erase_eq_filter,
        List.length_erase_of_mem hcandidate, hsteps, Nat.add_sub_cancel]
    rw [placeReady, hnode]
    dsimp only
    rw [place_waitingAfter hedges hcandidate', List.length_cons, ih _ hfewer]

/-- An order is found if there is one. -/
theorem isSome_order? (hedges : edges.Nodup) (hnodes : nodes.Nodup) (hperm : order.Perm nodes)
    (hrespects : Respects edges order) (hends : ∀ edge ∈ edges, edge.source ∈ nodes)
    (hself : ∀ node, ⟨node, node⟩ ∉ edges) : (order? nodes edges).isSome = true := by
  have hlength := length_placeReady hedges hnodes hperm hrespects hends hself nodes.length []
    (by simp)
  rw [← waitingOf_eq] at hlength
  simp only [order?]
  rw [if_pos hlength]
  rfl

/-! ## Levels -/

theorem foldl_max_spec {α : Type} (value : α → Nat) (xs : List α) (start : Nat) :
    start ≤ xs.foldl (fun most x ↦ max most (value x + 1)) start ∧
      ∀ x ∈ xs, value x < xs.foldl (fun most x ↦ max most (value x + 1)) start := by
  induction xs generalizing start with
  | nil => exact ⟨Nat.le_refl _, by simp⟩
  | cons x rest ih =>
    obtain ⟨hstart, hrest⟩ := ih (max start (value x + 1))
    rw [List.foldl_cons]
    refine ⟨by omega, List.forall_mem_cons.2 ⟨by omega, hrest⟩⟩

theorem foldl_max_le_iff {xs : List Nat} {start most : Nat} :
    xs.foldl (fun depth deeper ↦ max depth (deeper + 1)) start ≤ most ↔
      start ≤ most ∧ ∀ x ∈ xs, x < most := by
  induction xs generalizing start with
  | nil => simp
  | cons x rest ih =>
    rw [List.foldl_cons, ih, List.forall_mem_cons, Nat.max_le, Nat.succ_le_iff, and_assoc]

theorem keys_depths (known : List (NodeId × Nat)) (order : List NodeId) :
    (depths edges known order).map Prod.fst = order := by
  induction order generalizing known with
  | nil => rfl
  | cons node rest ih => rw [depths, List.map_cons, ih]

theorem lookup_of_mem {ν : Type} {known : List (NodeId × ν)} (hnodup : (known.map Prod.fst).Nodup)
    {value : ν} (h : (node, value) ∈ known) : known.lookup node = some value := by
  induction known with
  | nil => cases h
  | cons entry rest ih =>
    obtain ⟨hentry, hrest⟩ := List.nodup_cons.1 hnodup
    rw [List.lookup_cons]
    rcases List.mem_cons.1 h with rfl | hmem
    · simp
    · have hne : (node == entry.1) = false := beq_eq_false_iff_ne.2 fun heq ↦
        hentry (heq ▸ List.mem_map_of_mem hmem)
      rw [hne]
      exact ih hrest hmem

/-- A node lies deeper than its predecessors of known depth. -/
theorem lt_depthOf {known : List (NodeId × Nat)} (hnodup : (known.map Prod.fst).Nodup)
    {depth : Nat} (hknown : (other, depth) ∈ known) (hedge : ⟨other, node⟩ ∈ edges) :
    depth < depthOf edges known node := by
  apply (foldl_max_spec (fun deeper ↦ deeper) _ 0).2 depth
  exact List.mem_filterMap.2
    ⟨other, mem_predecessors_iff.2 hedge, lookup_of_mem hnodup hknown⟩

theorem mem_of_lookup {ν : Type} {known : List (NodeId × ν)} {value : ν}
    (h : known.lookup node = some value) : (node, value) ∈ known := by
  induction known with
  | nil => cases h
  | cons entry rest ih =>
    rw [List.lookup_cons] at h
    split at h
    · next heq =>
      cases h
      rw [beq_iff_eq.1 heq]
      exact List.mem_cons_self
    · exact List.mem_cons_of_mem _ (ih h)

theorem depthOf_le_iff {known : List (NodeId × Nat)} (hnodup : (known.map Prod.fst).Nodup)
    {most : Nat} : depthOf edges known node ≤ most ↔
      ∀ before depth, ⟨before, node⟩ ∈ edges → (before, depth) ∈ known → depth < most := by
  rw [depthOf, foldl_max_le_iff]
  constructor
  · rintro ⟨-, h⟩ before depth hedge hknown
    exact h depth (List.mem_filterMap.2
      ⟨before, mem_predecessors_iff.2 hedge, lookup_of_mem hnodup hknown⟩)
  · intro h
    refine ⟨Nat.zero_le _, fun depth hdepth ↦ ?_⟩
    obtain ⟨before, hbefore, hlookup⟩ := List.mem_filterMap.1 hdepth
    exact h before depth (mem_predecessors_iff.1 hbefore) (mem_of_lookup hlookup)

/-- The depth of a node is the least that lies below those of all its predecessors, whatever the
order. -/
theorem depth_le_iff (hself : ∀ node, ⟨node, node⟩ ∉ edges) (known : List (NodeId × Nat))
    (order : List NodeId) (hnodup : (known.map Prod.fst ++ order).Nodup)
    (hrespects : Respects edges order) {depth most : Nat}
    (hnode : (node, depth) ∈ depths edges known order) :
    depth ≤ most ↔ ∀ before depth', ⟨before, node⟩ ∈ edges →
      (before, depth') ∈ known ++ depths edges known order → depth' < most := by
  induction order generalizing known with
  | nil => cases hnode
  | cons first rest ih =>
    obtain ⟨hlater, hrespects⟩ := List.pairwise_cons.1 hrespects
    have hmoved : ((((first, depthOf edges known first) :: known).map Prod.fst) ++ rest).Nodup :=
      (List.perm_middle.nodup_iff).1 hnodup
    rw [depths] at hnode ⊢
    rcases List.mem_cons.1 hnode with heq | hrest
    · obtain ⟨rfl, rfl⟩ := Prod.mk.inj heq
      rw [depthOf_le_iff hnodup.of_append_left]
      refine ⟨fun h before depth' hedge hmem ↦ ?_, fun h before depth' hedge hmem ↦
        h before depth' hedge (List.mem_append_left _ hmem)⟩
      -- Neither the node itself nor a later one is a predecessor.
      rcases List.mem_append.1 hmem with hknown | hmem
      · exact h before depth' hedge hknown
      · rcases List.mem_cons.1 hmem with heq | hmem
        · obtain ⟨rfl, -⟩ := Prod.mk.inj heq
          exact absurd hedge (hself _)
        · have hkey : before ∈ rest := by
            rw [← keys_depths ((node, depthOf edges known node) :: known) rest]
            exact List.mem_map_of_mem hmem
          exact absurd hedge (hlater before hkey)
    · rw [ih _ hmoved hrespects hrest]
      have hmem (entry : NodeId × Nat) :=
        (@List.perm_middle _ (first, depthOf edges known first) known
          (depths edges ((first, depthOf edges known first) :: known) rest)).mem_iff (a := entry)
      simp only [hmem, List.cons_append]

/-- Depths grow along the edges of an order. -/
theorem depths_lt (known : List (NodeId × Nat)) (order : List NodeId)
    (hnodup : (known.map Prod.fst ++ order).Nodup) :
    (∀ before ∈ known, ∀ entry ∈ depths edges known order,
        ⟨before.1, entry.1⟩ ∈ edges → before.2 < entry.2) ∧
      (depths edges known order).Pairwise fun before entry ↦
        ⟨before.1, entry.1⟩ ∈ edges → before.2 < entry.2 := by
  induction order generalizing known with
  | nil => exact ⟨by simp [depths], List.Pairwise.nil⟩
  | cons node rest ih =>
    have hmoved : ((((node, depthOf edges known node) :: known).map Prod.fst) ++ rest).Nodup :=
      (List.perm_middle.nodup_iff).1 hnodup
    obtain ⟨hearlier, hpairwise⟩ := ih ((node, depthOf edges known node) :: known) hmoved
    rw [depths]
    refine ⟨?_, List.pairwise_cons.2 ⟨hearlier _ List.mem_cons_self, hpairwise⟩⟩
    intro before hbefore entry hentry hedge
    rcases List.mem_cons.1 hentry with rfl | hentry
    · exact lt_depthOf hnodup.of_append_left hbefore hedge
    · exact hearlier before (List.mem_cons_of_mem _ hbefore) entry hentry hedge

theorem flatten_filter_perm (placed : List (NodeId × Nat)) (height : Nat) :
    ((List.range height).map fun depth ↦ placed.filter (·.2 == depth)).flatten.Perm
      (placed.filter (·.2 < height)) := by
  induction height with
  | zero => simp
  | succ height ih =>
    rw [List.range_succ, List.map_append, List.flatten_append]
    have hbelow : (placed.filter (·.2 < height + 1)).filter (·.2 < height) =
        placed.filter (·.2 < height) := by
      rw [List.filter_filter]
      apply List.filter_congr
      intro entry _
      simp
      omega
    have hlast :
        (placed.filter (·.2 < height + 1)).filter (fun entry ↦ !decide (entry.2 < height)) =
        placed.filter (·.2 == height) := by
      rw [List.filter_filter]
      apply List.filter_congr
      intro entry _
      rw [Bool.eq_iff_iff]
      simp
      omega
    have hsplit := List.filter_append_perm (·.2 < height) (placed.filter (·.2 < height + 1))
    rw [hbelow, hlast] at hsplit
    simpa using (ih.append_right _).trans hsplit

theorem flatten_levels_perm (edges : List Edge) (order : List NodeId) :
    (levels edges order).flatten.Perm order := by
  unfold levels
  generalize hplaced : depths edges [] order = placed
  dsimp only
  generalize hheight : placed.foldl (fun height entry ↦ max height (entry.2 + 1)) 0 = height
  have hbelow : placed.filter (·.2 < height) = placed := by
    refine List.filter_eq_self.2 fun entry hentry ↦ decide_eq_true ?_
    rw [← hheight]
    exact (foldl_max_spec Prod.snd placed 0).2 entry hentry
  have hkeys : placed.map Prod.fst = order := by
    rw [← hplaced]
    exact keys_depths [] order
  have hperm := (flatten_filter_perm placed height).map Prod.fst
  rw [hbelow, hkeys, List.map_flatten, List.map_map] at hperm
  exact hperm

theorem mem_getElem_levels {depth : Nat} (h : depth < (levels edges order).length) :
    node ∈ (levels edges order)[depth] ↔ (node, depth) ∈ depths edges [] order := by
  simp [levels]

/-- Within a level the nodes keep their order. -/
theorem sublist_of_mem_levels {level : List NodeId} (h : level ∈ levels edges order) :
    level.Sublist order := by
  obtain ⟨depth, -, rfl⟩ := List.mem_map.1 h
  calc (((depths edges [] order).filter (·.2 == depth)).map Prod.fst).Sublist
        ((depths edges [] order).map Prod.fst) := List.filter_sublist.map Prod.fst
    _ = order := keys_depths [] order

/-- A node stands in the level of its depth. -/
theorem findIdx?_levels (hnodup : order.Nodup) {depth : Nat}
    (hnode : (node, depth) ∈ depths edges [] order) :
    (levels edges order).findIdx? (·.contains node) = some depth := by
  have hlength : (levels edges order).length =
      (depths edges [] order).foldl (fun height entry ↦ max height (entry.2 + 1)) 0 := by
    simp [levels]
  have hlt : depth < (levels edges order).length := by
    rw [hlength]
    exact (foldl_max_spec Prod.snd (depths edges [] order) 0).2 _ hnode
  refine List.findIdx?_eq_some_iff_getElem.2 ⟨hlt, ?_, ?_⟩
  · exact List.contains_iff_mem.2 ((mem_getElem_levels hlt).2 hnode)
  · intro earlier hearlier hmem
    have hnode' := (mem_getElem_levels (Nat.lt_trans hearlier hlt)).1 (List.contains_iff_mem.1 hmem)
    have hkeys : ((depths edges [] order).map Prod.fst).Nodup := by
      rw [keys_depths]
      exact hnodup
    have hsame := Option.some.inj ((lookup_of_mem hkeys hnode').symm.trans
      (lookup_of_mem hkeys hnode))
    omega

/-- A successor lies deeper than its predecessors. -/
theorem depth_lt_of_edge (hnodup : order.Nodup) (hrespects : Respects edges order)
    {depth depth' : Nat} (hnode : (node, depth) ∈ depths edges [] order)
    (hother : (other, depth') ∈ depths edges [] order) (hne : node ≠ other)
    (hedge : ⟨node, other⟩ ∈ edges) : depth < depth' := by
  have hgrow : (depths edges [] order).Pairwise fun before entry ↦
      before.1 ≠ entry.1 → ⟨before.1, entry.1⟩ ∈ edges → before.2 < entry.2 := by
    apply (depths_lt [] order (by simpa using hnodup)).2.imp
    intro before entry h _
    exact h
  have hnone : (depths edges [] order).Pairwise fun before entry ↦
      ⟨entry.1, before.1⟩ ∉ edges := by
    rw [← List.pairwise_map (R := fun earlier later ↦ ⟨later, earlier⟩ ∉ edges) (f := Prod.fst),
      keys_depths]
    exact hrespects
  have hback : (depths edges [] order).Pairwise fun before entry ↦
      entry.1 ≠ before.1 → ⟨entry.1, before.1⟩ ∈ edges → entry.2 < before.2 :=
    hnone.imp fun h _ hedge ↦ absurd hedge h
  exact hgrow.forall_of_forall_of_flip (fun _ _ hsame ↦ absurd rfl hsame) hback hnode hother hne
    hedge

/-- The nodes of each level may be taken in any order. -/
theorem respects_flatten {schedule : List (List NodeId)} (hself : ∀ node, ⟨node, node⟩ ∉ edges)
    (hnodup : order.Nodup) (hrespects : Respects edges order)
    (hschedule : List.Forall₂ List.Perm schedule (levels edges order)) :
    Respects edges schedule.flatten := by
  obtain ⟨hlength, hperm⟩ := List.forall₂_iff_get.1 hschedule
  -- Where a node stands in the schedule tells its depth.
  have hdepth {depth : Nat} (hlt : depth < schedule.length) {node : NodeId}
      (hnode : node ∈ schedule[depth]) : (node, depth) ∈ depths edges [] order := by
    have hlt' : depth < (levels edges order).length := hlength ▸ hlt
    exact (mem_getElem_levels hlt').1 ((hperm depth hlt hlt').mem_iff.1 hnode)
  have hnone {first second : Nat} (hle : first ≤ second) (hlt : second < schedule.length)
      {earlier later : NodeId} (hearlier : earlier ∈ schedule[first])
      (hlater : later ∈ schedule[second]) : ⟨later, earlier⟩ ∉ edges := by
    intro hedge
    have hne : later ≠ earlier := fun heq ↦ hself earlier (heq ▸ hedge)
    have hdeeper := depth_lt_of_edge hnodup hrespects (hdepth hlt hlater)
      (hdepth (Nat.lt_of_le_of_lt hle hlt) hearlier) hne hedge
    omega
  refine List.pairwise_flatten.2 ⟨?_, ?_⟩
  · intro level hlevel
    obtain ⟨depth, hlt, rfl⟩ := List.getElem_of_mem hlevel
    exact List.pairwise_of_forall_mem_list fun _ hearlier _ hlater ↦
      hnone (Nat.le_refl depth) hlt hearlier hlater
  · rw [List.pairwise_iff_getElem]
    intro first second _ hlt hfirst earlier hearlier later hlater
    exact hnone (Nat.le_of_lt hfirst) hlt hearlier hlater

/-! ## Steps that commute -/

section Steps

variable {σ : Type} {step : σ → NodeId → Option σ} {first second : List NodeId}

/-- Two nodes whose steps can be taken in either order. -/
def Commute (step : σ → NodeId → Option σ) (node other : NodeId) : Prop :=
  ∀ s, (step s node).bind (step · other) = (step s other).bind (step · node)

/-- A node that commutes with all nodes before it can be taken first. -/
theorem foldlM_middle (h : ∀ other ∈ first, Commute step other node) (s : σ) :
    (first ++ node :: second).foldlM step s = (node :: (first ++ second)).foldlM step s := by
  induction first generalizing s with
  | nil => rfl
  | cons other rest ih =>
    obtain ⟨hother, hrest⟩ := List.forall_mem_cons.1 h
    calc (other :: rest ++ node :: second).foldlM step s
        = (step s other).bind fun s' ↦ (rest ++ node :: second).foldlM step s' := List.foldlM_cons
      _ = (step s other).bind fun s' ↦ (step s' node).bind ((rest ++ second).foldlM step) := by
        simp only [ih hrest, List.foldlM_cons]
        rfl
      _ = (step s node).bind fun s' ↦ (step s' other).bind ((rest ++ second).foldlM step) := by
        rw [← Option.bind_assoc, hother s, Option.bind_assoc]
      _ = (node :: (other :: rest ++ second)).foldlM step s := by
        simp only [List.cons_append, List.foldlM_cons]
        rfl

/-- If nodes without an edge between them commute, all orders that respect the edges come to the
same. -/
theorem foldlM_eq_of_perm (hcommute : ∀ node ∈ first, ∀ other ∈ first, node ≠ other →
      ⟨node, other⟩ ∉ edges → ⟨other, node⟩ ∉ edges → Commute step node other)
    (hnodup : first.Nodup) (hfirst : Respects edges first) (hsecond : Respects edges second)
    (hperm : first.Perm second) (s : σ) : first.foldlM step s = second.foldlM step s := by
  induction first generalizing second s with
  | nil => rw [hperm.nil_eq]
  | cons node rest ih =>
    obtain ⟨hnode, hnodup⟩ := List.nodup_cons.1 hnodup
    obtain ⟨hlater, hfirst⟩ := List.pairwise_cons.1 hfirst
    obtain ⟨before, after, rfl⟩ := List.append_of_mem (hperm.subset List.mem_cons_self)
    have hrest : rest.Perm (before ++ after) :=
      List.Perm.cons_inv (hperm.trans List.perm_middle)
    obtain ⟨hbefore, hafter, hcross⟩ := List.pairwise_append.1 hsecond
    obtain ⟨-, hafter⟩ := List.pairwise_cons.1 hafter
    have hdropped : Respects edges (before ++ after) :=
      List.pairwise_append.2 ⟨hbefore, hafter, fun earlier hearlier later hmem ↦
        hcross earlier hearlier later (List.mem_cons_of_mem _ hmem)⟩
    -- What stands before the node in one order and after it in the other has no edge to it.
    have hmoved : ∀ other ∈ before, Commute step other node := by
      intro other hother
      have hmem : other ∈ rest := hrest.mem_iff.2 (List.mem_append_left _ hother)
      apply hcommute other (List.mem_cons_of_mem _ hmem) node List.mem_cons_self
      · rintro rfl
        exact hnode hmem
      · exact hlater other hmem
      · exact hcross other hother node List.mem_cons_self
    have hfewer : ∀ node ∈ rest, ∀ other ∈ rest, node ≠ other → ⟨node, other⟩ ∉ edges →
        ⟨other, node⟩ ∉ edges → Commute step node other := fun a ha b hb ↦
      hcommute a (List.mem_cons_of_mem _ ha) b (List.mem_cons_of_mem _ hb)
    rw [foldlM_middle hmoved, List.foldlM_cons, List.foldlM_cons]
    congr 1
    funext s'
    exact ih hfewer hnodup hfirst hdropped hrest s'

end Steps

end ImageFlow.Precedence
