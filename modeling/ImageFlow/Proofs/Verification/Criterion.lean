import ImageFlow.Proofs.Verification.Resolution

/-!
# When a verification passes

The standard stages pass exactly if the graph can be verified: no object has two writers, there is a
solution for the shapes, every slot takes its shape and every kernel its parameters, the nodes can
be put into an order, every node has a target, there is memory for what the nodes hold, and every
kernel can prepare itself. None of this depends on the order in which the nodes were added, nor on
their numbers as far as kernels do not look at them. What becomes of the objects follows from the
shapes.
-/

namespace ImageFlow

open Stateful Verification

/-! ## Orders of nodes -/

/-- A list that is in another order what a function gives for a list. -/
theorem exists_perm_of_perm_map {α β : Type} {f : α → β} {xs : List β} {ys : List α}
    (h : xs.Perm (ys.map f)) : ∃ zs : List α, zs.Perm ys ∧ zs.map f = xs := by
  induction xs generalizing ys with
  | nil =>
    have hnil : ys = [] := List.map_eq_nil_iff.1 h.nil_eq.symm
    exact ⟨[], by rw [hnil], rfl⟩
  | cons x xs ih =>
    obtain ⟨y, hy, rfl⟩ := List.mem_map.1 (h.subset List.mem_cons_self)
    obtain ⟨before, after, rfl⟩ := List.append_of_mem hy
    rw [List.map_append, List.map_cons] at h
    have hrest := List.Perm.cons_inv (h.trans List.perm_middle)
    rw [← List.map_append] at hrest
    obtain ⟨zs, hzs, rfl⟩ := ih hrest
    exact ⟨y :: zs, (hzs.cons y).trans List.perm_middle.symm, rfl⟩

namespace Graph

variable {graph now last : Graph} {node : Node} {data : DataId}
  {shapes other : DataId → Option Descriptor} {order : List Node}

/-- An order in which no node writes what a node before it reads. -/
def NeverBack (order : List Node) : Prop :=
  order.Pairwise fun earlier later ↦ ∀ data ∈ later.writes, data ∉ earlier.reads

/-- The numbers of nodes in an order respect the edges if the order does. -/
theorem respects_iff (hbalanced : graph.ledger.Balanced) (horder : order.Perm graph.nodes) :
    Precedence.Respects graph.edges (order.map Node.id) ↔ NeverBack order := by
  have hnodup : order.Pairwise fun earlier later ↦ earlier.id ≠ later.id :=
    List.pairwise_map.1 ((horder.map Node.id).nodup_iff.2 (nodup_nodeIds hbalanced))
  have hmem {node : Node} (hnode : node ∈ order) : node ∈ graph.nodes := horder.mem_iff.1 hnode
  rw [Precedence.Respects, List.pairwise_map, NeverBack]
  constructor
  · intro h
    refine (hnodup.and h).imp_of_mem fun hearlier hlater ⟨hne, hedge⟩ data hwrites hreads ↦ ?_
    exact hedge ((mem_edges_iff hbalanced (hmem hlater) (hmem hearlier)).2
      ⟨hne.symm, data, hwrites, hreads⟩)
  · intro h
    refine h.imp_of_mem fun hearlier hlater hclear hedge ↦ ?_
    obtain ⟨-, data, hwrites, hreads⟩ :=
      (mem_edges_iff hbalanced (hmem hlater) (hmem hearlier)).1 hedge
    exact hclear data hwrites hreads

/-- The order of execution is found if the nodes can be put into an order at all. -/
theorem topologicalOrder_iff (hbalanced : graph.ledger.Balanced) :
    (∃ ids, graph.topologicalOrder = .ok ids) ↔
      ∃ order : List Node, order.Perm graph.nodes ∧ NeverBack order := by
  constructor
  · rintro ⟨ids, hids⟩
    obtain ⟨hperm, hrespects⟩ := order_spec (of_topologicalOrder hids)
    obtain ⟨order, horder, rfl⟩ := exists_perm_of_perm_map hperm
    exact ⟨order, horder, (respects_iff hbalanced horder).1 hrespects⟩
  · rintro ⟨order, horder, hordered⟩
    have hsimple := simple hbalanced
    obtain ⟨ids, hids⟩ := Option.isSome_iff_exists.1 (Precedence.isSome_order? hsimple.edges_nodup
      hsimple.nodes_nodup (horder.map Node.id) ((respects_iff hbalanced horder).2 hordered)
      hsimple.source_mem hsimple.not_mem_self)
    refine ⟨ids, ?_⟩
    rw [topologicalOrder, show Precedence.order? graph.nodeIds graph.edges = _ from hids]

/-! ## The stages after the first -/

/-- Whether some node holds an object. -/
def holds (graph : Graph) (data : DataId) : Bool :=
  graph.nodes.any fun node ↦ node.refs.any (·.id == data)

/-- What the stages after the first ask of a graph. -/
structure Passes (graph : Graph) : Prop where
  checked : ∀ node ∈ graph.nodes,
    checkSlots graph node (node.bindings.zip node.signature.parameters) = .ok () ∧
      node.kernel.kernel.validate (inspect graph node) = .ok ()
  single : graph.SingleWriter
  ordered : ∃ order : List Node, order.Perm graph.nodes ∧ NeverBack order
  targets : ∀ node ∈ graph.nodes,
    (node.affinity <|> graph.context.assign node.kernelName).isSome = true
  memory : ∀ data, graph.holds data = true → ∀ object, graph.arena.byId? data = some object →
    object.allocate.isOk = true
  prepared : ∀ node ∈ graph.nodes, node.kernel.kernel.prepare (inspect graph node) = .ok ()

theorem forall_node?_iff (hbalanced : graph.ledger.Balanced) {ids : List NodeId}
    (hids : ids.Perm graph.nodeIds) {P : Node → Prop} :
    (∀ id ∈ ids, ∀ node, graph.node? id = some node → P node) ↔ ∀ node ∈ graph.nodes, P node := by
  have hnodup := nodup_nodeIds hbalanced
  constructor
  · intro h node hnode
    exact h node.id (hids.mem_iff.2 (List.mem_map_of_mem hnode)) node
      ((node?_eq_some_iff hnodup).2 ⟨hnode, rfl⟩)
  · intro h id _ node hnode
    exact h node ((node?_eq_some_iff hnodup).1 hnode).1

theorem mem_lifetimes_iff_holds (hbalanced : graph.ledger.Balanced) {ids : List NodeId}
    (hids : ids.Perm graph.nodeIds) :
    data ∈ (lifetimes graph ids).map Prod.fst ↔ graph.holds data = true := by
  have hnodup := nodup_nodeIds hbalanced
  simp only [mem_lifetimes_iff, holds, List.any_eq_true, beq_iff_eq]
  constructor
  · rintro ⟨id, -, node, hnode, ref, href, hdata⟩
    exact ⟨node, ((node?_eq_some_iff hnodup).1 hnode).1, ref, href, hdata⟩
  · rintro ⟨node, hnode, ref, href, hdata⟩
    exact ⟨node.id, hids.mem_iff.2 (List.mem_map_of_mem hnode), node,
      (node?_eq_some_iff hnodup).2 ⟨hnode, rfl⟩, ref, href, hdata⟩

/-- Memory makes no difference to what kernels are shown. -/
theorem inspect_allocated (hsound : graph.SoundObjects)
    (h : graph.Revised DataObject.Allocated now) : inspect now node = inspect graph node := by
  have hvalues : node.bindings.map (knownValue? now) = node.bindings.map (knownValue? graph) :=
    List.map_congr_left fun binding _ ↦
      knownValue?_redrafted hsound (h.mono DataObject.Allocated.redrafted) binding
  have hdescriptors : (node.bindings.map fun binding ↦ now.descriptorOf? binding.ref) =
      node.bindings.map fun binding ↦ graph.descriptorOf? binding.ref :=
    List.map_congr_left fun binding _ ↦ descriptorOf?_allocated h binding.ref
  rw [inspect, hvalues, hdescriptors, inspect]

/-- Once memory has been planned, nodes are prepared as they would have been before. -/
theorem isOk_prepareNodes_allocated_iff (hbalanced : graph.ledger.Balanced)
    (hsound : graph.SoundObjects) {ids : List NodeId} (hids : ids.Perm graph.nodeIds)
    {planned : Draft} (hplanned : graph.Revised DataObject.Allocated planned.graph) :
    ((prepareNodes ids).run planned).1.isOk = true ↔
      ∀ node ∈ graph.nodes, node.kernel.kernel.prepare (inspect graph node) = .ok () := by
  have hnode? (id : NodeId) : planned.graph.node? id = graph.node? id := by
    obtain ⟨arena, -, hgraph⟩ := hplanned
    rw [hgraph]
    rfl
  simp only [isOk_prepareNodes_iff, hnode?, inspect_allocated hsound hplanned]
  exact forall_node?_iff hbalanced hids

theorem isOk_makePlan_iff {draft : Draft} (hbalanced : draft.graph.ledger.Balanced)
    (hsound : draft.graph.SoundObjects) (horder : draft.plan.order.Perm draft.graph.nodeIds) :
    (makePlan.run draft).1.isOk = true ↔
      (∀ node ∈ draft.graph.nodes,
        (node.affinity <|> draft.graph.context.assign node.kernelName).isSome = true) ∧
      (∀ data, draft.graph.holds data = true → ∀ object,
        draft.graph.arena.byId? data = some object → object.allocate.isOk = true) ∧
      ∀ node ∈ draft.graph.nodes,
        node.kernel.kernel.prepare (inspect draft.graph node) = .ok () := by
  have hprepared {planned : Draft} :=
    @isOk_prepareNodes_allocated_iff _ hbalanced hsound _ horder planned
  have hassigned {assigned : Draft}
      (h : (assignTargets draft.plan.order).run draft = (.ok (), assigned)) :
      assigned.graph = draft.graph ∧ assigned.plan.order = draft.plan.order := by
    have hgraph := graph_assignTargets draft.plan.order draft
    have hsame := order_assignTargets draft.plan.order draft
    rw [h] at hgraph hsame
    exact ⟨hgraph, hsame⟩
  have hallotted {assigned planned : Draft} (hgraph : assigned.graph = draft.graph)
      (h : planMemory.run assigned = (.ok (), planned)) :
      draft.graph.Revised DataObject.Allocated planned.graph := by
    have hallocated := allocated_planMemory assigned
    rw [h, Draft.Allocated, hgraph] at hallocated
    exact hallocated
  rw [← forall_node?_iff hbalanced horder, ← isOk_assignTargets_iff, makePlan, run_bind, run_get]
  constructor
  · intro h
    obtain ⟨_, assigned, hassign, h⟩ := isOk_bind_iff.1 h
    obtain ⟨_, planned, hplan, h⟩ := isOk_bind_iff.1 h
    obtain ⟨_, prepared, hprepare, -⟩ := isOk_bind_iff.1 h
    obtain ⟨hgraph, hsame⟩ := hassigned hassign
    refine ⟨isOk_iff.2 ⟨_, _, hassign⟩, fun data hdata ↦ ?_,
      (hprepared (hallotted hgraph hplan)).1 (isOk_iff.2 ⟨_, _, hprepare⟩)⟩
    have hmemory := isOk_planMemory_iff.1 (isOk_iff.2 ⟨_, _, hplan⟩)
    rw [hgraph, hsame] at hmemory
    exact hmemory data ((mem_lifetimes_iff_holds hbalanced horder).2 hdata)
  · rintro ⟨htargets, hmemory, hprepare⟩
    obtain ⟨_, assigned, hassign⟩ := isOk_iff.1 htargets
    obtain ⟨hgraph, hsame⟩ := hassigned hassign
    obtain ⟨_, planned, hplan⟩ := isOk_iff.1 (isOk_planMemory_iff.2 (by
      rw [hgraph, hsame]
      exact fun data hdata ↦ hmemory data ((mem_lifetimes_iff_holds hbalanced horder).1 hdata)))
    obtain ⟨_, prepared, hprepare⟩ := isOk_iff.1 ((hprepared (hallotted hgraph hplan)).2 hprepare)
    exact isOk_bind_iff.2 ⟨_, assigned, hassign, isOk_bind_iff.2 ⟨_, planned, hplan,
      isOk_bind_iff.2 ⟨_, prepared, hprepare, rfl⟩⟩⟩

/-- What the verification leaves of each object, once the shapes are known. -/
theorem byId?_makePlan {draft last : Draft} (hbalanced : draft.graph.ledger.Balanced)
    (horder : draft.plan.order.Perm draft.graph.nodeIds) {warnings : List VerifyWarning}
    (h : makePlan.run draft = (.ok warnings, last)) :
    last.graph.arena.byId? data = if draft.graph.holds data then
        (draft.graph.arena.byId? data).map DataObject.backed
      else draft.graph.arena.byId? data := by
  rw [makePlan, run_bind, run_get] at h
  obtain ⟨_, assigned, hassign, h⟩ := bind_ok_iff.1 h
  obtain ⟨_, planned, hplan, h⟩ := bind_ok_iff.1 h
  obtain ⟨_, prepared, hprepare, h⟩ := bind_ok_iff.1 h
  obtain rfl : prepared = last := (Prod.mk.inj h).2
  have hgraph := graph_assignTargets draft.plan.order draft
  have hsame := order_assignTargets draft.plan.order draft
  rw [hassign] at hgraph hsame
  have hkept := (kept_prepareNodes draft.plan.order planned).graph_eq
  rw [show (prepareNodes draft.plan.order).run planned = _ from hprepare] at hkept
  rw [hkept, byId?_planMemory hplan, hgraph, hsame]
  simp only [mem_lifetimes_iff_holds hbalanced horder]

section Rest

variable {draft : Draft} (hbalanced : draft.graph.ledger.Balanced)
  (hsound : draft.graph.SoundObjects)
include hbalanced hsound

/-- The stages after the first have passed. -/
theorem passes_of_runAll {report report' : VerifyReport} {last : Draft}
    (h : (Stage.runAll report [.parameters, .topology, .planning]).run draft =
      (.ok report', last)) :
    draft.graph.Passes ∧ ∀ data, last.graph.arena.byId? data =
      if draft.graph.holds data then (draft.graph.arena.byId? data).map DataObject.backed
      else draft.graph.arena.byId? data := by
  simp only [Stage.runAll] at h
  obtain ⟨_, checked, hchecked, h⟩ := bind_ok_iff.1 h
  obtain ⟨_, ordered, hordered, h⟩ := bind_ok_iff.1 h
  obtain ⟨_, planned, hplanned, h⟩ := bind_ok_iff.1 h
  obtain rfl : planned = last := (Prod.mk.inj h).2
  have hkept := (kept_checkParameters draft).graph_eq
  rw [show checkParameters.run draft = _ from hchecked] at hkept
  dsimp only at hkept
  obtain ⟨hsingle, order, horder, hordered⟩ := of_checkTopology hordered
  rw [hkept] at hsingle horder
  have hgraph : ordered.graph = draft.graph := by
    rw [hordered]
    exact hkept
  have hperm : ordered.plan.order.Perm draft.graph.nodeIds := by
    rw [hordered]
    exact (order_spec (of_topologicalOrder horder)).1
  rw [← hgraph] at hbalanced hsound hperm
  obtain ⟨htargets, hmemory, hprepared⟩ :=
    (isOk_makePlan_iff hbalanced hsound hperm).1 (isOk_iff.2 ⟨_, _, hplanned⟩)
  have hobjects (data : DataId) := @byId?_makePlan data ordered _ hbalanced hperm _ hplanned
  rw [hgraph] at hbalanced htargets hmemory hprepared
  simp only [hgraph] at hobjects
  exact ⟨⟨isOk_checkParameters_iff.1 (isOk_iff.2 ⟨_, _, hchecked⟩),
    (checkSingleWriter_iff hbalanced).1 hsingle,
    (topologicalOrder_iff hbalanced).1 ⟨order, horder⟩, htargets, hmemory, hprepared⟩, hobjects⟩

theorem Passes.exists_runAll (h : draft.graph.Passes) (report : VerifyReport) :
    ∃ report' last, (Stage.runAll report [.parameters, .topology, .planning]).run draft =
      (.ok report', last) := by
  obtain ⟨warnings, checked, hchecked⟩ := isOk_iff.1 (isOk_checkParameters_iff.2 h.checked)
  have hkept := (kept_checkParameters draft).graph_eq
  rw [hchecked] at hkept
  dsimp only at hkept
  obtain ⟨warnings', ordered, hordered⟩ := isOk_iff.1 (isOk_checkTopology_iff.2
    ⟨hkept.symm ▸ (checkSingleWriter_iff hbalanced).2 h.single,
      hkept.symm ▸ (topologicalOrder_iff hbalanced).2 h.ordered⟩)
  obtain ⟨-, order, horder, hafter⟩ := of_checkTopology hordered
  rw [hkept] at horder
  have hgraph : ordered.graph = draft.graph := by
    rw [hafter]
    exact hkept
  have hperm : ordered.plan.order.Perm ordered.graph.nodeIds := by
    rw [hgraph, hafter]
    exact (order_spec (of_topologicalOrder horder)).1
  obtain ⟨warnings'', planned, hplanned⟩ :=
    isOk_iff.1 ((isOk_makePlan_iff (hgraph ▸ hbalanced) (hgraph ▸ hsound) hperm).2 (by
      rw [hgraph]
      exact ⟨h.targets, h.memory, h.prepared⟩))
  exact ⟨_, planned, bind_ok_iff.2 ⟨warnings, checked, hchecked,
    bind_ok_iff.2 ⟨warnings', ordered, hordered,
      bind_ok_iff.2 ⟨warnings'', planned, hplanned, rfl⟩⟩⟩⟩

end Rest

/-! ## All stages -/

/-- Objects that have grown from the same one and have the same shape are the same. -/
theorem eq_of_grown {object first second : DataObject} (h : object.Grown first)
    (h' : object.Grown second) (hshape : first.descriptor? = second.descriptor?) :
    first = second := by
  have hpendingShape (hpending : object.state = .pending) : object.descriptor? = none := by
    rw [DataObject.descriptor?, hpending]
  rcases h with rfl | ⟨hpending, descriptor, -, rfl⟩
  · rcases h' with rfl | ⟨hpending', descriptor', -, rfl⟩
    · rfl
    · rw [hpendingShape hpending'] at hshape
      cases hshape
  · rcases h' with rfl | ⟨-, descriptor', -, rfl⟩
    · rw [hpendingShape hpending] at hshape
      cases hshape
    · cases hshape
      rfl

/-- The shapes determine the graph. -/
theorem eq_of_shape?_eq {start first second : Graph} (h : start.Revised DataObject.Grown first)
    (h' : start.Revised DataObject.Grown second) (hshape : first.shape? = second.shape?) :
    first = second := by
  obtain ⟨arena, harena, rfl⟩ := h
  obtain ⟨arena', harena', rfl⟩ := h'
  have hsame : arena = arena' := by
    apply Arena.eq_of_byId?_eq (harena.graph_eq.trans harena'.graph_eq.symm)
      (harena.length_eq.trans harena'.length_eq.symm)
    intro data
    have hrel := harena.objects data
    have hrel' := harena'.objects data
    have hdescriptor : (arena.byId? data).bind DataObject.descriptor? =
      (arena'.byId? data).bind DataObject.descriptor? := congrFun hshape data
    generalize start.arena.byId? data = object at hrel hrel'
    generalize arena.byId? data = first at hrel hdescriptor ⊢
    generalize arena'.byId? data = second at hrel' hdescriptor ⊢
    cases hrel with
    | none =>
      cases hrel'
      rfl
    | some hgrown =>
      cases hrel' with
      | some hgrown' => rw [eq_of_grown hgrown hgrown' hdescriptor]
  rw [hsame]

/-- A graph that can be verified, beside the graph in which the shapes of its objects are known. -/
structure Verifiable (graph shaped : Graph) : Prop where
  grown : graph.reset.Revised DataObject.Grown shaped
  solved : graph.reset.Solved shaped.shape?
  passes : shaped.Passes

theorem Verifiable.nodes_eq {shaped : Graph} (h : graph.Verifiable shaped) :
    shaped.nodes = graph.nodes := h.grown.nodes_eq

theorem Verifiable.singleWriter {shaped : Graph} (h : graph.Verifiable shaped) :
    graph.SingleWriter := h.passes.single.of_nodes_eq h.nodes_eq.symm

theorem runStages_of_run {stages : List Stage} {report : VerifyReport} {last : Draft}
    (h : (Stage.runAll .empty stages).run { graph, plan := .empty, events := [] } =
      (.ok report, last)) :
    graph.runStages stages = { result := .ok report, graph := last.graph.installPlan last.plan,
                               events := last.events } := by
  rw [runStages, h]

theorem isOk_runStages_iff {stages : List Stage} :
    (graph.runStages stages).result.isOk = true ↔ ∃ report last,
      (Stage.runAll .empty stages).run { graph, plan := .empty, events := [] } =
        (.ok report, last) := by
  constructor
  · intro h
    rw [runStages] at h
    generalize (Stage.runAll .empty stages).run { graph, plan := .empty, events := [] } = outcome
      at h
    obtain ⟨result, last⟩ := outcome
    cases result with
    | error e => cases h
    | ok report => exact ⟨report, last, rfl⟩
  · rintro ⟨report, last, h⟩
    rw [runStages_of_run h]
    rfl

section All

variable (hbalanced : graph.ledger.Balanced) (hsound : graph.SoundObjects)
include hbalanced hsound

/-- If there is a solution, there is a graph in which its shapes are known. -/
theorem exists_shaped (hsingle : graph.SingleWriter) (hsolved : graph.reset.Solved shapes) :
    ∃ shaped, graph.reset.Revised DataObject.Grown shaped ∧ shaped.shape? = shapes := by
  obtain ⟨warnings, resolved, hrun⟩ :=
    @exists_resolveVirtuals shapes { graph, plan := .empty, events := [] } hbalanced hsound hsingle
      hsolved
  obtain ⟨hfound, hgrown⟩ := solved_of_resolveVirtuals hbalanced hsound hsingle hrun
  exact ⟨resolved.graph, hgrown, hfound.unique hsolved (graph.ledger_reset ▸ hbalanced)⟩

/-- What has passed the standard stages can be verified. -/
theorem exists_verifiable (h : (graph.runStages Stage.standard).result.isOk = true) :
    ∃ shaped, graph.Verifiable shaped := by
  obtain ⟨report, last, h⟩ := isOk_runStages_iff.1 h
  obtain ⟨warnings, resolved, hresolved, hrest⟩ := bind_ok_iff.1 h
  have hredrafted :=
    (redrafted_resolveVirtuals { graph, plan := .empty, events := [] }).graph
  rw [show resolveVirtuals.run _ = _ from hresolved] at hredrafted
  have hbalanced' : resolved.graph.ledger.Balanced :=
    ledger_eq_of_redrafted hredrafted ▸ hbalanced
  obtain ⟨hpasses, -⟩ :=
    passes_of_runAll hbalanced' (hsound.of_redrafted hredrafted) hrest
  have hsingle : graph.SingleWriter := hpasses.single.of_nodes_eq hredrafted.nodes_eq.symm
  obtain ⟨hsolved, hgrown⟩ := solved_of_resolveVirtuals hbalanced hsound hsingle hresolved
  exact ⟨resolved.graph, hgrown, hsolved, hpasses⟩

/-- What can be verified passes the standard stages, which give memory to what the nodes hold. -/
theorem Verifiable.verified {shaped : Graph} (h : graph.Verifiable shaped) :
    (graph.runStages Stage.standard).result.isOk = true ∧ ∀ data,
      (graph.runStages Stage.standard).graph.arena.byId? data =
        if graph.holds data then (shaped.arena.byId? data).map DataObject.backed
        else shaped.arena.byId? data := by
  have hbalanced' : graph.reset.ledger.Balanced := graph.ledger_reset ▸ hbalanced
  obtain ⟨warnings, resolved, hresolved⟩ :=
    @exists_resolveVirtuals _ { graph, plan := .empty, events := [] } hbalanced hsound
      h.singleWriter h.solved
  obtain ⟨hsolved, hgrown⟩ :=
    solved_of_resolveVirtuals hbalanced hsound h.singleWriter hresolved
  obtain rfl : resolved.graph = shaped :=
    eq_of_shape?_eq hgrown h.grown (hsolved.unique h.solved hbalanced')
  have hredrafted := hgrown.mono DataObject.Grown.redrafted
  have hshapedBalanced : resolved.graph.ledger.Balanced :=
    ledger_eq_of_redrafted hredrafted ▸ hbalanced'
  have hshapedSound : resolved.graph.SoundObjects :=
    (hsound.of_redrafted graph.redrafted_reset).of_redrafted hredrafted
  obtain ⟨report, last, hrest⟩ := h.passes.exists_runAll hshapedBalanced hshapedSound _
  have hrun : (Stage.runAll .empty Stage.standard).run { graph, plan := .empty, events := [] } =
      (.ok report, last) := bind_ok_iff.2 ⟨warnings, resolved, hresolved, hrest⟩
  obtain ⟨-, hobjects⟩ := passes_of_runAll hshapedBalanced hshapedSound hrest
  refine ⟨isOk_runStages_iff.2 ⟨report, last, hrun⟩, fun data ↦ ?_⟩
  rw [runStages_of_run hrun]
  have hholds : resolved.graph.holds data = graph.holds data := by
    rw [holds, holds, h.nodes_eq]
  rw [← hholds]
  exact hobjects data

end All

end Graph

end ImageFlow
