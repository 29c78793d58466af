import ImageFlow.Proofs.Execution.Settled

/-!
# The turns of the nodes in a run

A run comes to some of the nodes of a graph, each of them once and none before one that it waits
for. What a node finds when its turn comes is what its objects held before the run, unless other
nodes write them. No node that has its turn later writes what the node is bound to, so in the end
these objects hold what the node has left in them.
-/

namespace ImageFlow

namespace Graph

/-- No node but one given node writes an object. -/
def SparedByOthers (graph : Graph) (id : NodeId) (data : DataId) : Prop :=
  ∀ other ∈ graph.nodes, other.id ≠ id → data ∉ other.writes

instance (graph : Graph) (id : NodeId) (data : DataId) : Decidable (graph.SparedByOthers id data) :=
  inferInstanceAs (Decidable (∀ other ∈ graph.nodes, other.id ≠ id → data ∉ other.writes))

variable {graph start : Graph} {plan : Plan} {node : Node} {run : RunState}

/-! ## One node among others -/

theorem Underway.attempt {first rest : List NodeId} (h : start.Underway (first ++ rest) run)
    (hbalanced : start.ledger.Balanced) (hids : first ⊆ start.nodeIds)
    (hnodup : (first ++ rest).Nodup) (options : RunOptions) (watch : Stopwatch) :
    start.Underway rest (Dispatch.attempt (executeNode options watch) first run).2 := by
  induction first generalizing run with
  | nil => exact h
  | cons id first ih =>
    obtain ⟨hnew, hnodup⟩ := List.nodup_cons.1 hnodup
    obtain ⟨hid, hids⟩ := List.cons_subset.1 hids
    obtain ⟨_, -, -, hnext⟩ := h.step hbalanced hid hnew options watch
    exact ih hnext hids hnodup

/-- What a node finds in its turn, between the memory before a run and the memory after it. -/
structure Turn (graph : Graph) (node : Node) (first found last : Memory) : Prop where
  spared : ∀ data, graph.SparedByOthers node.id data → found data = first data
  left : ∀ binding ∈ node.bindings, last binding.ref.id = node.leave found binding.ref.id

/-- If objects have one writer at most, no other node writes what a node writes. -/
theorem SingleWriter.spared (h : graph.SingleWriter) (hnode : node ∈ graph.nodes) {data : DataId}
    (hwrites : data ∈ node.writes) : graph.SparedByOthers node.id data :=
  fun _ hother hne hdata ↦ hne (h.id_eq hother hnode hdata hwrites)

/-- What a node only reads stays as the node has found it. -/
theorem Turn.input_eq {first found last : Memory} (h : graph.Turn node first found last)
    (hbalanced : graph.ledger.Balanced) (hnode : node ∈ graph.nodes) {binding : Binding}
    (hbinding : binding ∈ node.bindings) (hinput : binding.direction = .input) :
    last binding.ref.id = found binding.ref.id :=
  (h.left binding hbinding).trans
    (Node.leave_of_not_mem_writes (not_mem_writes_of_input hbalanced hnode hbinding hinput))

/-- What a kernel that keeps what it only reads leaves of its slots is what the node would be shown
in the end. -/
theorem Turn.access_eq {first found last : Memory} (h : graph.Turn node first found last)
    (hbalanced : graph.ledger.Balanced) (hnode : node ∈ graph.nodes)
    (hkept : (node.access found).Kept (node.kernel.kernel.execute (node.access found)).2) :
    node.access last = (node.kernel.kernel.execute (node.access found)).2 := by
  rw [Node.access_congr h.left, Node.access_leave (apart_bindings hbalanced hnode) hkept]

/-- Every node that is attempted has its turn. -/
theorem Underway.exists_turn {pending : List NodeId} (h : start.Underway pending run)
    (hvalid : start.PlanValid plan) (hbalanced : start.ledger.Balanced)
    (hids : pending ⊆ start.nodeIds) (hnodup : pending.Nodup)
    (hrespects : Precedence.Respects start.edges pending) (options : RunOptions)
    (watch : Stopwatch) (hnode : node ∈ start.nodes) (hmem : node.id ∈ pending) :
    let last := (Dispatch.attempt (executeNode options watch) pending run).2
    ∃ found, (node.id, node.access found) ∈ executionsOf last.events ∧
      start.Turn node run.graph.arena.memory found last.graph.arena.memory := by
  intro last
  -- The attempt is one at the nodes before this one, then at the node, then at those after it.
  obtain ⟨before, after, rfl⟩ := List.append_of_mem hmem
  obtain ⟨hbefore, hrest⟩ := List.append_subset.1 hids
  obtain ⟨hid, hafter⟩ := List.cons_subset.1 hrest
  obtain ⟨hdistinct, hdistinctRest, hdisjoint⟩ := List.nodup_append.1 hnodup
  obtain ⟨hnew, hdistinctAfter⟩ := List.nodup_cons.1 hdistinctRest
  have hlater := (List.pairwise_cons.1 (List.pairwise_append.1 hrespects).2.1).1
  have hearlier : start.Underway before run :=
    ⟨h.ledger_eq, fun id hid ↦ h.nodes id (List.mem_append_left _ hid)⟩
  have hfirst := hearlier.attempted hbalanced hbefore hdistinct options watch
  have hturn := h.attempt hbalanced hbefore hnodup options watch
  have hlast : last = (Dispatch.attempt (executeNode options watch) after
      (executeNode options watch node.id
        (Dispatch.attempt (executeNode options watch) before run).2).2).2 := by
    dsimp only [last]
    rw [Dispatch.attempt_append]
    rfl
  generalize (Dispatch.attempt (executeNode options watch) before run).2 = middle
    at hfirst hturn hlast
  obtain ⟨other, hother, hexecuted, hnext⟩ := hturn.step hbalanced hid hnew options watch
  obtain rfl : node = other :=
    Option.some.inj (((node?_eq_some_iff hvalid.ids_nodup).2 ⟨hnode, rfl⟩).symm.trans hother)
  obtain ⟨found, hfound, hlive⟩ := exists_node hbalanced hturn.ledger_eq hid
  obtain rfl : found = node :=
    Option.some.inj (hfound.symm.trans ((hturn.nodes _ List.mem_cons_self).trans hother))
  have hevents := (tried_executeNode options watch hfound hlive).executions_eq
  have hsecond := hnext.attempted hbalanced hafter hdistinctAfter options watch
  rw [← hlast] at hsecond
  refine ⟨middle.graph.arena.memory, ?_, fun data hspared ↦ ?_, fun binding hbinding ↦ ?_⟩
  · obtain ⟨executions, hexecutions, -⟩ := hsecond.executed
    rw [hexecutions, hevents]
    simp
  · refine hfirst.unwritten data fun id hid other hother ↦ ?_
    obtain ⟨hmem, rfl⟩ := (node?_eq_some_iff hvalid.ids_nodup).1 hother
    exact hspared other hmem (hdisjoint _ hid _ List.mem_cons_self)
  · rw [hsecond.unwritten _ (not_mem_writes_of_later hvalid hbalanced hnode hnew hlater hbinding),
      hexecuted.memory_eq]

/-! ## Runs of a plan -/

variable {schedule : List (List NodeId)} {watch : Stopwatch} {ran : RunResult}

theorem map_fst_outcomes (graph : Graph) (executions : List (NodeId × Access)) :
    (graph.outcomes executions).map Prod.fst = executions.map Prod.fst := by
  rw [outcomes, List.map_map]
  rfl

/-- A run that ends well has come to all nodes. -/
theorem RunsPlan.perm_of_isOk (h : graph.RunsPlan plan watch ran) (hvalid : graph.PlanValid plan)
    (hok : ran.result.isOk = true) :
    ((executionsOf ran.events).map Prod.fst).Perm graph.nodeIds := by
  obtain ⟨report, hreport⟩ := exists_of_isOk hok
  rw [← graph.map_fst_outcomes]
  refine .trans ?_ hvalid.order_perm
  cases hparallel : graph.runOptions.parallel with
  | false =>
    have hrow := h.inRow hparallel
    rw [hreport] at hrow
    rw [show graph.outcomes _ = _ from hrow, Dispatch.map_fst_passed]
  | true =>
    have hlevels := h.byLevel hparallel
    rw [hreport] at hlevels
    obtain ⟨all, hall, hresults⟩ := hlevels
    rw [hresults, Dispatch.map_fst_passed]
    exact hall.trans hvalid.levels_perm

/-- A run of a plan is an attempt at the first nodes of an order in which no node stands before one
that it waits for. -/
theorem Healthy.exists_order (h : graph.Healthy) (hplan : graph.plan = some plan)
    (hschedule : List.Forall₂ List.Perm schedule plan.levels) (watch : Stopwatch) :
    ∃ ids rest, (ids ++ rest).Perm graph.nodeIds ∧ Precedence.Respects graph.edges (ids ++ rest) ∧
      let ran := graph.processIn schedule watch
      let last := (Dispatch.attempt (executeNode graph.runOptions watch) ids graph.begin).2
      ran.events = last.events ∧ ran.graph.arena = last.graph.arena ∧
        (executionsOf last.events).map Prod.fst = ids := by
  rw [processIn_eq hplan (h.planned plan hplan).1]
  cases hran : Dispatch.runIn schedule graph.runOptions plan (executeNode graph.runOptions watch)
    graph.begin with
  | mk result last =>
    obtain ⟨ids, rest, results, hattempt, hperm, hrespects, -⟩ :=
      h.exists_attempt_of_append hplan hschedule hran
    have hnodup : ids.Nodup :=
      ((hperm.nodup_iff.2 (nodup_nodeIds h.balanced)).sublist (List.sublist_append_left ids rest))
    have hids : ids ⊆ graph.nodeIds := fun id hid ↦ hperm.subset (List.mem_append_left _ hid)
    obtain ⟨executions, hexecutions, hkeys, -⟩ := ((graph.underway_begin_self ids).attempted
      h.balanced hids hnodup graph.runOptions watch).executed
    refine ⟨ids, rest, hperm, hrespects, ?_⟩
    rw [hattempt] at hexecutions ⊢
    exact ⟨rfl, rfl, (congrArg (List.map Prod.fst) hexecutions).trans hkeys⟩

/-- A run comes to no node before one that it waits for. -/
theorem Healthy.sublist_of_edge (h : graph.Healthy) (hplan : graph.plan = some plan)
    (hschedule : List.Forall₂ List.Perm schedule plan.levels) (watch : Stopwatch)
    {first second : NodeId} (hedge : ⟨first, second⟩ ∈ graph.edges) :
    let executed := (executionsOf (graph.processIn schedule watch).events).map Prod.fst
    second ∈ executed → [first, second].Sublist executed := by
  intro executed hsecond
  obtain ⟨ids, rest, hperm, hrespects, hevents, -, hkeys⟩ := h.exists_order hplan hschedule watch
  have hexecuted : executed = ids := by rw [← hkeys, ← hevents]
  rw [hexecuted] at hsecond ⊢
  obtain ⟨before, after, rfl⟩ := List.append_of_mem hsecond
  have hsimple := simple h.balanced
  rw [List.append_assoc, List.cons_append] at hperm hrespects
  obtain ⟨hlater, -⟩ := List.pairwise_cons.1 (List.pairwise_append.1 hrespects).2.1
  have hfirst : first ∈ before := by
    rcases List.mem_append.1 (hperm.mem_iff.2 (hsimple.source_mem _ hedge)) with hbefore | hrest
    · exact hbefore
    · rcases List.mem_cons.1 hrest with heq | hafter
      · exact absurd heq (hsimple.loopless _ hedge)
      · exact absurd hedge (hlater first hafter)
  exact (List.singleton_sublist.2 hfirst).append
    (List.singleton_sublist.2 (List.mem_cons_self (l := after)))

/-- Every node that a run of a plan has come to had its turn. -/
theorem Healthy.exists_turn (h : graph.Healthy) (hplan : graph.plan = some plan)
    (hschedule : List.Forall₂ List.Perm schedule plan.levels) (watch : Stopwatch)
    (hnode : node ∈ graph.nodes) {shown : Access} :
    let ran := graph.processIn schedule watch
    (node.id, shown) ∈ executionsOf ran.events → ∃ found, shown = node.access found ∧
      graph.Turn node graph.arena.memory found ran.graph.arena.memory := by
  intro ran hshown
  obtain ⟨ids, rest, hperm, hrespects, hevents, harena, hkeys⟩ :=
    h.exists_order hplan hschedule watch
  dsimp only [ran] at hshown ⊢
  rw [hevents] at hshown
  rw [harena]
  have hnodup := hperm.nodup_iff.2 (nodup_nodeIds h.balanced)
  have hsublist : ids.Sublist (ids ++ rest) := List.sublist_append_left ids rest
  have hmem : node.id ∈ ids := hkeys ▸ List.mem_map_of_mem (f := Prod.fst) hshown
  obtain ⟨found, hfound, hturn⟩ := (graph.underway_begin_self ids).exists_turn
    ((h.planned plan hplan).2.planValid h.balanced) h.balanced
    (fun id hid ↦ hperm.subset (hsublist.subset hid)) (hnodup.sublist hsublist)
    (hrespects.sublist hsublist) graph.runOptions watch hnode hmem
  refine ⟨found, ?_, hturn⟩
  -- There is one execution of the node only.
  have hdistinct := hnodup.sublist hsublist
  rw [← hkeys] at hdistinct
  exact congrArg Prod.snd (List.inj_on_of_nodup_map hdistinct hshown hfound rfl)

end Graph

end ImageFlow
