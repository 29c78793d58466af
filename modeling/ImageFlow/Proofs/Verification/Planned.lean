import ImageFlow.Proofs.Books.Bookkeeping
import ImageFlow.Proofs.Execution.Dispatch
import ImageFlow.Proofs.Precedence.LeastOrder
import ImageFlow.Proofs.Verification.Stages

/-!
# What a plan relies on

When the standard stages install a plan they have made sure that the order follows from the nodes
and the producers, that every object has one producer at most, and that a node can be bound to all
of its objects. All of it is about the structure of the graph and the objects that its nodes hold.
-/

namespace ImageFlow

/-! ## Dependencies in terms of the books -/

namespace Ledger

/-- The nodes that write an object, by the map of producers. -/
def writers (ledger : Ledger) (data : DataId) : List NodeId :=
  (Ordered.find? data ledger.producers).getD []

/-- All edges. -/
def edges (ledger : Ledger) : List Edge :=
  Ordered.ofList (ledger.wirings.flatMap fun wiring ↦ wiring.reads.flatMap fun data ↦
    ((ledger.writers data).filter (· != wiring.id)).map fun writer ↦ ⟨writer, wiring.id⟩)

variable {ledger : Ledger}

theorem Balanced.mem_writers_iff (h : ledger.Balanced) {data : DataId} {id : NodeId} :
    id ∈ ledger.writers data ↔
      ∃ wiring ∈ ledger.wirings, wiring.writes data = true ∧ wiring.id = id := by
  have hwriters : ledger.writers data = ledger.writersOf data := by
    rw [writers, h.produced data]
    split
    · next hnone =>
      rw [hnone]
      rfl
    · rfl
  simp [hwriters, writersOf, and_assoc]

/-- A node has an edge to every other node that reads what it writes. -/
theorem Balanced.mem_edges_iff (h : ledger.Balanced) {source target : NodeId} :
    ⟨source, target⟩ ∈ ledger.edges ↔
      source ≠ target ∧ ∃ writer ∈ ledger.wirings, ∃ reader ∈ ledger.wirings,
        writer.id = source ∧ reader.id = target ∧
          ∃ data ∈ reader.reads, writer.writes data = true := by
  simp only [edges, Ordered.mem_ofList, List.mem_flatMap, List.mem_map, List.mem_filter,
    h.mem_writers_iff, Edge.mk.injEq, bne_iff_ne]
  constructor
  · rintro ⟨reader, hreader, data, hreads, _, ⟨⟨writer, hwriter, hwrites, rfl⟩, hne⟩, rfl, rfl⟩
    exact ⟨hne, writer, hwriter, reader, hreader, rfl, rfl, data, hreads, hwrites⟩
  · rintro ⟨hne, writer, hwriter, reader, hreader, rfl, rfl, data, hreads, hwrites⟩
    exact ⟨reader, hreader, data, hreads, _, ⟨⟨writer, hwriter, hwrites, rfl⟩, hne⟩, rfl, rfl⟩

theorem nodup_edges (ledger : Ledger) : ledger.edges.Nodup := (Ordered.sorted_ofList _).nodup

end Ledger

theorem DataObject.Sound.agreesWith {object : DataObject} (h : object.Sound)
    {descriptor : Descriptor} (hdescriptor : object.descriptor? = some descriptor)
    {hint : ImageHint} (hhint : object.hint = some hint) : hint.agreesWith descriptor = true := by
  cases hstate : object.state with
  | concrete shape =>
    have hconcrete : object.isVirtual = false := by rw [DataObject.isVirtual, hstate]
    rw [(h.concrete hconcrete).2] at hhint
    cases hhint
  | pending =>
    rw [DataObject.descriptor?, hstate] at hdescriptor
    cases hdescriptor
  | resolved shape =>
    rw [DataObject.descriptor?, hstate] at hdescriptor
    cases hdescriptor
    exact h.agrees descriptor hstate hint hhint

/-- A plan of which the nodes of each level are taken in another order. -/
def Plan.scheduled (plan : Plan) (schedule : List (List NodeId)) : Plan :=
  { plan with levels := schedule }

namespace Graph

variable {graph before after : Graph} {plan : Plan}

theorem edges_eq (graph : Graph) : graph.edges = graph.ledger.edges := by
  have hinto (node : Node) : graph.edgesInto node = node.wiring.reads.flatMap fun data ↦
      ((graph.ledger.writers data).filter (· != node.wiring.id)).map fun writer ↦
        ⟨writer, node.wiring.id⟩ := by
    rw [edgesInto, node.reads_eq]
    rfl
  calc graph.edges
      = Ordered.ofList (graph.nodes.flatMap graph.edgesInto) := rfl
    _ = Ordered.ofList (graph.nodes.flatMap fun node ↦ node.wiring.reads.flatMap fun data ↦
          ((graph.ledger.writers data).filter (· != node.wiring.id)).map fun writer ↦
            ⟨writer, node.wiring.id⟩) := by
      rw [funext hinto]
    _ = graph.ledger.edges := by
      rw [Ledger.edges, ledger, List.flatMap_map]

theorem node?_eq_some_iff (hnodup : graph.nodeIds.Nodup) {id : NodeId} {node : Node} :
    graph.node? id = some node ↔ node ∈ graph.nodes ∧ node.id = id := by
  have hpick {found : Node} (hfound : graph.node? id = some found) :
      found ∈ graph.nodes ∧ found.id = id :=
    ⟨List.mem_of_find?_eq_some hfound, id_of_node? hfound⟩
  refine ⟨hpick, fun ⟨hnode, hid⟩ ↦ ?_⟩
  cases hfind : graph.node? id with
  | none => exact absurd (beq_iff_eq.2 hid) (List.find?_eq_none.1 hfind node hnode)
  | some found =>
    obtain ⟨hmem, hfound⟩ := hpick hfind
    rw [List.inj_on_of_nodup_map hnodup hmem hnode (hfound.trans hid.symm)]

theorem isSome_node? (hnodup : graph.nodeIds.Nodup) {id : NodeId} (hid : id ∈ graph.nodeIds) :
    (graph.node? id).isSome = true := by
  obtain ⟨node, hnode, hnodeId⟩ := List.mem_map.1 hid
  rw [(node?_eq_some_iff hnodup).2 ⟨hnode, hnodeId⟩]
  rfl

/-! ## What a plan relies on -/

/-- An object of the graph that has memory, and a shape which a constraint accepts and which agrees
with the hint of the object. -/
def Usable (graph : Graph) (ref : DataRef) (constraint : Constraint) : Prop :=
  ∃ object, graph.arena.get ref = .ok object ∧ object.payload.isSome = true ∧
    ∃ descriptor, object.descriptor? = some descriptor ∧ constraint.accepts descriptor = true ∧
      ∀ hint, object.hint = some hint → hint.agreesWith descriptor = true

/-- What the standard stages have made sure of. -/
structure Planned (graph : Graph) (plan : Plan) : Prop where
  single : ∀ entry ∈ graph.producers, entry.2.length ≤ 1
  order_eq : Precedence.order? graph.nodeIds graph.edges = some plan.order
  levels_eq : plan.levels = graph.levels plan.order
  targets_eq : plan.targets.map Prod.fst = plan.order
  bandwidth_eq : plan.bandwidth.map Prod.fst = graph.nodeIds
  usable : ∀ wiring ∈ graph.ledger.wirings, ∀ slot ∈ wiring.slots,
    graph.Usable slot.1 slot.2.constraint

/-- A plan relies on the structure of a graph, and on the objects that its nodes hold. -/
theorem Planned.transfer (h : before.Planned plan)
    (hwirings : after.ledger.wirings = before.ledger.wirings)
    (hproducers : after.producers = before.producers)
    (husable : ∀ wiring ∈ before.ledger.wirings, ∀ slot ∈ wiring.slots,
      before.Usable slot.1 slot.2.constraint → after.Usable slot.1 slot.2.constraint) :
    after.Planned plan := by
  have hids : after.nodeIds = before.nodeIds := by
    rw [← nodeIds_eq, ← nodeIds_eq, hwirings]
  have hedges : after.edges = before.edges := by
    have hproducers' : after.ledger.producers = before.ledger.producers := hproducers
    simp only [edges_eq, Ledger.edges, Ledger.writers, hwirings, hproducers']
  exact
    { single := by
        rw [hproducers]
        exact h.single
      order_eq := by
        rw [hids, hedges]
        exact h.order_eq
      levels_eq := by
        rw [levels, hedges]
        exact h.levels_eq
      targets_eq := h.targets_eq
      bandwidth_eq := by
        rw [hids]
        exact h.bandwidth_eq
      usable := by
        intro wiring hwiring slot hslot
        rw [hwirings] at hwiring
        exact husable wiring hwiring slot hslot (h.usable wiring hwiring slot hslot) }

/-- The order that is found has every node once, and no node before one it depends on. -/
theorem order_spec {order : List NodeId}
    (h : Precedence.order? graph.nodeIds graph.edges = some order) :
    order.Perm graph.nodeIds ∧ Precedence.Respects graph.edges order := by
  apply Precedence.order?_spec ?_ h
  rw [edges_eq]
  exact Ledger.nodup_edges graph.ledger

theorem nodup_nodeIds (hbalanced : graph.ledger.Balanced) : graph.nodeIds.Nodup := by
  rw [← nodeIds_eq]
  exact hbalanced.nodup

theorem simple (hbalanced : graph.ledger.Balanced) :
    Precedence.Simple graph.nodeIds graph.edges where
  nodes_nodup := nodup_nodeIds hbalanced
  edges_nodup := by
    rw [edges_eq]
    exact Ledger.nodup_edges graph.ledger
  source_mem := by
    rintro ⟨source, target⟩ hedge
    rw [edges_eq, hbalanced.mem_edges_iff] at hedge
    obtain ⟨-, writer, hwriter, -, -, rfl, -⟩ := hedge
    rw [← nodeIds_eq]
    exact List.mem_map_of_mem hwriter
  target_mem := by
    rintro ⟨source, target⟩ hedge
    rw [edges_eq, hbalanced.mem_edges_iff] at hedge
    obtain ⟨-, -, -, reader, hreader, -, rfl, -⟩ := hedge
    rw [← nodeIds_eq]
    exact List.mem_map_of_mem hreader
  loopless := by
    rintro ⟨source, target⟩ hedge
    rw [edges_eq, hbalanced.mem_edges_iff] at hedge
    exact hedge.1

/-- What a run goes through, in whatever order it takes the nodes of each level: every node once,
and no node before one it depends on. -/
theorem Planned.sequence_spec (h : graph.Planned plan) (hbalanced : graph.ledger.Balanced)
    {schedule : List (List NodeId)} (hschedule : List.Forall₂ List.Perm schedule plan.levels)
    (options : RunOptions) :
    (Dispatch.sequence options (plan.scheduled schedule)).Perm graph.nodeIds ∧
      Precedence.Respects graph.edges (Dispatch.sequence options (plan.scheduled schedule)) := by
  obtain ⟨hperm, hrespects⟩ := order_spec h.order_eq
  have hnodup : plan.order.Nodup := hperm.nodup_iff.2 (nodup_nodeIds hbalanced)
  unfold Dispatch.sequence
  split
  · rw [h.levels_eq] at hschedule
    constructor
    · calc schedule.flatten.Perm (graph.levels plan.order).flatten :=
          List.Perm.flatten_congr hschedule
        List.Perm _ plan.order := Precedence.flatten_levels_perm graph.edges plan.order
        List.Perm _ graph.nodeIds := hperm
    · exact Precedence.respects_flatten (simple hbalanced).not_mem_self hnodup hrespects hschedule
  · exact ⟨hperm, hrespects⟩

theorem mem_edges_of_writes (hbalanced : graph.ledger.Balanced) {writer reader : Node}
    (hwriter : writer ∈ graph.nodes) (hreader : reader ∈ graph.nodes) (hne : writer.id ≠ reader.id)
    {data : DataId} (hwrites : data ∈ writer.writes) (hreads : data ∈ reader.reads) :
    ⟨writer.id, reader.id⟩ ∈ graph.edges := by
  rw [edges_eq, hbalanced.mem_edges_iff]
  refine ⟨hne, writer.wiring, List.mem_map_of_mem hwriter, reader.wiring,
    List.mem_map_of_mem hreader, rfl, rfl, data, ?_, Node.mem_writes_iff.1 hwrites⟩
  rw [← Node.reads_eq]
  exact hreads

theorem mem_edges_iff (hbalanced : graph.ledger.Balanced) {writer reader : Node}
    (hwriter : writer ∈ graph.nodes) (hreader : reader ∈ graph.nodes) :
    ⟨writer.id, reader.id⟩ ∈ graph.edges ↔
      writer.id ≠ reader.id ∧ ∃ data ∈ writer.writes, data ∈ reader.reads := by
  constructor
  · intro hedge
    rw [edges_eq, hbalanced.mem_edges_iff] at hedge
    obtain ⟨hne, first, hfirst, second, hsecond, hid, hid', data, hreads, hwrites⟩ := hedge
    obtain ⟨first, hmem, rfl⟩ := List.mem_map.1 hfirst
    obtain ⟨second, hmem', rfl⟩ := List.mem_map.1 hsecond
    have hnodup := nodup_nodeIds hbalanced
    obtain rfl : first = writer := List.inj_on_of_nodup_map hnodup hmem hwriter hid
    obtain rfl : second = reader := List.inj_on_of_nodup_map hnodup hmem' hreader hid'
    exact ⟨hne, data, Node.mem_writes_iff.2 hwrites, second.reads_eq ▸ hreads⟩
  · rintro ⟨hne, data, hwrites, hreads⟩
    exact mem_edges_of_writes hbalanced hwriter hreader hne hwrites hreads

/-- If an object has one writer at most, its writer has an edge to every other node that is bound to
it. -/
theorem mem_edges_of_bound (hbalanced : graph.ledger.Balanced) (hsingle : graph.SingleWriter)
    {writer other : Node} (hwriter : writer ∈ graph.nodes) (hother : other ∈ graph.nodes)
    (hne : writer.id ≠ other.id) {binding : Binding} (hbinding : binding ∈ other.bindings)
    (hwrites : binding.ref.id ∈ writer.writes) : ⟨writer.id, other.id⟩ ∈ graph.edges := by
  by_cases hreads : binding.direction.reads = true
  · exact mem_edges_of_writes hbalanced hwriter hother hne hwrites
      (List.mem_map.2 ⟨binding, List.mem_filter.2 ⟨hbinding, hreads⟩, rfl⟩)
  · -- A slot that is not read is written, and there is one writer at most.
    have hwritten : binding.ref.id ∈ other.writes := by
      refine List.mem_map.2 ⟨binding, List.mem_filter.2 ⟨hbinding, ?_⟩, rfl⟩
      rw [Direction.eq_output_of_not_reads hreads]
      rfl
    exact absurd (hsingle.id_eq hwriter hother hwrites hwritten) hne

/-! ## Verification -/

theorem of_checkSingleWriter (h : graph.checkSingleWriter = .ok ()) :
    ∀ entry ∈ graph.producers, entry.2.length ≤ 1 := by
  unfold checkSingleWriter at h
  split at h
  · cases h
  · next hnone =>
    intro entry hentry
    have hfew := List.find?_eq_none.1 hnone entry hentry
    simpa using hfew

/-- The map of producers lists the writers of every object that has one. -/
theorem mem_producers_iff (hbalanced : graph.ledger.Balanced) {data : DataId}
    {writers : List NodeId} :
    (data, writers) ∈ graph.producers ↔ writers = graph.writingNodes data ∧ writers ≠ [] := by
  have hproduced : Ordered.find? data graph.producers = _ := hbalanced.produced data
  rw [← writingNodes_eq] at hproduced
  have hfound : Ordered.find? data graph.producers = some writers ↔ _ :=
    Ordered.find?_eq_some_iff hbalanced.sorted
  rw [← hfound, hproduced]
  split
  · next hnone =>
    rw [hnone]
    exact ⟨fun h ↦ (nomatch h), fun ⟨heq, hne⟩ ↦ absurd heq hne⟩
  · next hsome =>
    constructor
    · intro h
      cases h
      exact ⟨rfl, hsome⟩
    · rintro ⟨rfl, -⟩
      rfl

/-- The map of producers tells whether some object has two writers. -/
theorem singleWriter_of_producers (hbalanced : graph.ledger.Balanced)
    (h : ∀ entry ∈ graph.producers, entry.2.length ≤ 1) : graph.SingleWriter := by
  intro data
  by_cases hnone : graph.writingNodes data = []
  · simp [hnone]
  · exact h _ ((mem_producers_iff hbalanced).2 ⟨rfl, hnone⟩)

theorem checkSingleWriter_iff (hbalanced : graph.ledger.Balanced) :
    graph.checkSingleWriter = .ok () ↔ graph.SingleWriter := by
  constructor
  · exact fun h ↦ singleWriter_of_producers hbalanced (of_checkSingleWriter h)
  · intro h
    unfold checkSingleWriter
    split
    · next data writers hfound =>
      obtain ⟨rfl, -⟩ := (mem_producers_iff hbalanced).1 (List.mem_of_find?_eq_some hfound)
      have hmany := List.find?_some hfound
      exact absurd (h data) (Nat.not_le.2 (of_decide_eq_true hmany))
    · rfl

theorem of_topologicalOrder {order : List NodeId} (h : graph.topologicalOrder = .ok order) :
    Precedence.order? graph.nodeIds graph.edges = some order := by
  unfold topologicalOrder at h
  split at h
  · next found hfound =>
    cases h
    exact hfound
  · cases h

theorem descriptorOf?_eq (graph : Graph) (ref : DataRef) : graph.descriptorOf? ref =
    if ref.graph = graph.arena.graph then
      (graph.arena.byId? ref.id).bind DataObject.descriptor?
    else none := by
  unfold descriptorOf? Arena.get
  by_cases hscope : ref.graph = graph.arena.graph
  · rw [if_pos hscope, if_pos hscope]
    cases graph.arena.byId? ref.id <;> rfl
  · rw [if_neg hscope, if_neg hscope]

/-- Memory makes no difference to shapes. -/
theorem descriptorOf?_allocated (h : before.Revised DataObject.Allocated after) (ref : DataRef) :
    after.descriptorOf? ref = before.descriptorOf? ref := by
  obtain ⟨arena, harena, rfl⟩ := h
  rw [descriptorOf?_eq, descriptorOf?_eq, harena.graph_eq,
    harena.bind_byId? DataObject.Allocated.descriptor?_eq]

theorem exists_of_descriptorOf? {ref : DataRef} {descriptor : Descriptor}
    (h : graph.descriptorOf? ref = some descriptor) :
    ∃ object, graph.arena.get ref = .ok object ∧ object.descriptor? = some descriptor := by
  unfold descriptorOf? at h
  split at h
  · next object hobject => exact ⟨object, hobject, h⟩
  · cases h

/-- All live objects are sound. -/
def SoundObjects (graph : Graph) : Prop :=
  ∀ data object, graph.arena.byId? data = some object → object.Sound

theorem SoundObjects.of_redrafted (h : before.SoundObjects)
    (hredrafted : before.Revised DataObject.Redrafted after) : after.SoundObjects := by
  obtain ⟨arena, harena, rfl⟩ := hredrafted
  intro data object hobject
  obtain ⟨origin, horigin, hrel⟩ := harena.of_some hobject
  exact hrel.sound (h data origin horigin)

/-- What the standard stages have found out about a graph: how it looked once all shapes were known,
how it looks in the end, and the plan. -/
structure Passed (graph shaped last : Graph) (plan : Plan) : Prop where
  shapes : graph.Revised DataObject.Redrafted shaped
  slots : ∀ node ∈ shaped.nodes,
    Verification.checkSlots shaped node (node.bindings.zip node.signature.parameters) = .ok ()
  accepted : ∀ node ∈ shaped.nodes,
    node.kernel.kernel.validate (Verification.inspect shaped node) = .ok ()
  single : shaped.checkSingleWriter = .ok ()
  order_eq : shaped.topologicalOrder = .ok plan.order
  levels_eq : plan.levels = shaped.levels plan.order
  targets_eq : plan.targets.map Prod.fst = plan.order
  bandwidth_eq : plan.bandwidth.map Prod.fst = shaped.nodeIds
  memory : shaped.Revised DataObject.Allocated last
  payloads : ∀ id ∈ plan.order, ∀ node, shaped.node? id = some node → ∀ ref ∈ node.refs,
    ∀ object, last.arena.byId? ref.id = some object → object.payload.isSome = true

/-- How a graph passes the standard stages. Only the first gives shapes and only the last gives
memory; between them the graph stays, and the order and its levels enter the plan. -/
structure Staged (graph : Graph) (order : List NodeId) (resolved ordered last : Draft) : Prop where
  resolves : ∃ warnings, Verification.resolveVirtuals.run { graph, plan := .empty, events := [] } =
    (.ok warnings, resolved)
  checks : (Verification.checkParameters.run resolved).1.isOk = true
  single : resolved.graph.checkSingleWriter = .ok ()
  order_eq : resolved.graph.topologicalOrder = .ok order
  graph_eq : ordered.graph = resolved.graph
  plan_eq : ordered.plan = { Plan.empty with order, levels := resolved.graph.levels order }
  completes : ∃ warnings, Verification.makePlan.run ordered = (.ok warnings, last)

theorem exists_staged_of_standard {report : VerifyReport} {draft : Draft}
    (h : (Stage.runAll .empty Stage.standard).run { graph, plan := .empty, events := [] } =
      (.ok report, draft)) :
    ∃ order resolved ordered, graph.Staged order resolved ordered draft := by
  simp only [Stage.standard, Stage.runAll] at h
  obtain ⟨_, resolved, hresolved, h⟩ := Stateful.bind_ok_iff.1 h
  obtain ⟨_, checked, hchecked, h⟩ := Stateful.bind_ok_iff.1 h
  obtain ⟨_, ordered, hordered, h⟩ := Stateful.bind_ok_iff.1 h
  obtain ⟨_, planned, hplanned, h⟩ := Stateful.bind_ok_iff.1 h
  obtain rfl : planned = draft := (Prod.mk.inj h).2
  have hfirst := Verification.redrafted_resolveVirtuals { graph, plan := .empty, events := [] }
  rw [show Verification.resolveVirtuals.run _ = _ from hresolved] at hfirst
  have hkept := Verification.kept_checkParameters resolved
  rw [show Verification.checkParameters.run resolved = _ from hchecked] at hkept
  obtain ⟨hsingle, order, horder, hafter⟩ := Verification.of_checkTopology hordered
  rw [hkept.graph_eq] at hsingle horder
  refine ⟨order, resolved, ordered, ?_⟩
  exact
    { resolves := ⟨_, hresolved⟩
      checks := Stateful.isOk_iff.2 ⟨_, _, hchecked⟩
      single := hsingle
      order_eq := horder
      graph_eq := by
        rw [hafter]
        exact hkept.graph_eq
      plan_eq := by
        rw [hafter]
        dsimp only
        rw [hkept.plan_eq, hfirst.plan_eq, hkept.graph_eq]
      completes := ⟨_, hplanned⟩ }

namespace Staged

variable {order : List NodeId} {resolved ordered last : Draft}
  (h : graph.Staged order resolved ordered last)
include h

theorem redrafted : graph.Revised DataObject.Redrafted resolved.graph := by
  have hredrafted := Verification.redrafted_resolveVirtuals { graph, plan := .empty, events := [] }
  obtain ⟨_, hresolved⟩ := h.resolves
  rw [hresolved] at hredrafted
  exact hredrafted.graph

theorem allocated : resolved.graph.Revised DataObject.Allocated last.graph := by
  have hallocated := Verification.allocated_makePlan ordered
  obtain ⟨_, hplanned⟩ := h.completes
  rw [hplanned, Draft.Allocated, h.graph_eq] at hallocated
  exact hallocated

theorem balanced (hbalanced : graph.ledger.Balanced) : resolved.graph.ledger.Balanced :=
  ledger_eq_of_redrafted h.redrafted ▸ hbalanced

theorem perm : order.Perm resolved.graph.nodeIds := (order_spec (of_topologicalOrder h.order_eq)).1

theorem nodup (hbalanced : graph.ledger.Balanced) : ordered.plan.order.Nodup := by
  rw [h.plan_eq]
  exact h.perm.nodup_iff.2 (nodup_nodeIds (h.balanced hbalanced))

theorem isSome_node? (hbalanced : graph.ledger.Balanced) :
    ∀ id ∈ ordered.plan.order, (ordered.graph.node? id).isSome = true := by
  rw [h.plan_eq, h.graph_eq]
  exact fun id hid ↦ Graph.isSome_node? (nodup_nodeIds (h.balanced hbalanced)) (h.perm.subset hid)

theorem passed (hbalanced : graph.ledger.Balanced) :
    graph.Passed resolved.graph last.graph last.plan := by
  obtain ⟨_, hplanned⟩ := h.completes
  have hparameters := Verification.isOk_checkParameters_iff.1 h.checks
  have hnodup : ordered.graph.nodeIds.Nodup := by
    rw [h.graph_eq]
    exact nodup_nodeIds (h.balanced hbalanced)
  obtain ⟨hpayloads, htargets, hbandwidth, horder, hlevels⟩ := Verification.of_makePlan hplanned
    hnodup (h.nodup hbalanced) (h.isSome_node? hbalanced) (by rw [h.plan_eq]; rfl)
    (by rw [h.plan_eq]; rfl)
  rw [h.graph_eq, h.plan_eq] at hpayloads
  rw [h.plan_eq] at htargets horder hlevels
  rw [h.graph_eq] at hbandwidth
  exact
    { shapes := h.redrafted
      slots := fun node hnode ↦ (hparameters node hnode).1
      accepted := fun node hnode ↦ (hparameters node hnode).2
      single := h.single
      order_eq := by
        rw [horder]
        exact h.order_eq
      levels_eq := by rw [horder, hlevels]
      targets_eq := by rw [horder, htargets]
      bandwidth_eq := hbandwidth
      memory := h.allocated
      payloads := by
        rw [horder]
        exact hpayloads }

end Staged

theorem exists_passed_of_standard {report : VerifyReport} {draft : Draft}
    (h : (Stage.runAll .empty Stage.standard).run { graph, plan := .empty, events := [] } =
      (.ok report, draft))
    (hbalanced : graph.ledger.Balanced) :
    ∃ shaped, graph.Passed shaped draft.graph draft.plan := by
  obtain ⟨_, resolved, _, hstaged⟩ := exists_staged_of_standard h
  exact ⟨resolved.graph, hstaged.passed hbalanced⟩

/-- What has been found out about a slot makes its object usable. -/
theorem Passed.usable {shaped last : Graph} (h : graph.Passed shaped last plan)
    (hbalanced : shaped.ledger.Balanced) (hsound : graph.SoundObjects)
    (hledger : last.ledger = shaped.ledger) {node : Node} (hnode : node ∈ shaped.nodes)
    {slot : DataRef × Parameter} (hslot : slot ∈ node.wiring.slots) :
    last.Usable slot.1 slot.2.constraint := by
  obtain ⟨binding, hbinding, href⟩ := Node.exists_mem_zip_bindings hslot
  obtain ⟨descriptor, hdescriptor, haccepts⟩ :=
    Verification.checkSlots_eq_ok_iff.1 (h.slots node hnode) _ hbinding
  rw [href] at hdescriptor
  obtain ⟨object, hobject, hshape⟩ := exists_of_descriptorOf? hdescriptor
  obtain ⟨hscope, hlive⟩ := Arena.get_eq_ok_iff.1 hobject
  have hobjectSound := hsound.of_redrafted h.shapes slot.1.id object hlive
  obtain ⟨hperm, -⟩ := order_spec (of_topologicalOrder h.order_eq)
  have hid : node.id ∈ plan.order := hperm.mem_iff.2 (List.mem_map_of_mem hnode)
  have hfound : shaped.node? node.id = some node :=
    (node?_eq_some_iff (nodup_nodeIds hbalanced)).2 ⟨hnode, rfl⟩
  have hpayload := h.payloads node.id hid node hfound slot.1 (List.of_mem_zip hslot).1
  obtain ⟨arena, harena, hlast⟩ := h.memory
  obtain ⟨allocated, hallocated, hrel⟩ := harena.some_of_some hlive
  have hlive' : last.arena.byId? slot.1.id = some allocated := by
    rw [hlast]
    exact hallocated
  have hget : last.arena.get slot.1 = .ok allocated := by
    refine Arena.get_eq_ok_iff.2 ⟨?_, hlive'⟩
    rw [hscope]
    exact (congrArg Ledger.scope hledger).symm
  have hshape' : allocated.descriptor? = object.descriptor? ∧ allocated.hint = object.hint := by
    rcases hrel with rfl | ⟨-, shape, -, rfl⟩ <;> exact ⟨rfl, rfl⟩
  refine ⟨allocated, hget, hpayload allocated hlive', descriptor, ?_, haccepts, ?_⟩
  · rw [hshape'.1]
    exact hshape
  · intro hint hhint
    rw [hshape'.2] at hhint
    exact hobjectSound.agreesWith hshape hhint

/-- A graph that has passed the standard stages relies on what they made sure of. -/
theorem Passed.planned {shaped last : Graph} (h : graph.Passed shaped last plan)
    (hbalanced : graph.ledger.Balanced) (hsound : graph.SoundObjects) :
    (last.installPlan plan).Planned plan := by
  have hbalanced' : shaped.ledger.Balanced := by
    rw [ledger_eq_of_redrafted h.shapes]
    exact hbalanced
  have hsame : last.ledger = shaped.ledger :=
    ledger_eq_of_redrafted (h.memory.mono DataObject.Allocated.redrafted)
  obtain ⟨arena, -, hlast⟩ := h.memory
  have hnodes : last.nodes = shaped.nodes := by rw [hlast]
  have hproducers : last.producers = shaped.producers := by rw [hlast]
  have hids : (last.installPlan plan).nodeIds = shaped.nodeIds := congrArg (List.map Node.id) hnodes
  have hedges : (last.installPlan plan).edges = shaped.edges := by
    rw [edges_eq, edges_eq]
    exact congrArg Ledger.edges hsame
  exact
    { single := by
        rw [show (last.installPlan plan).producers = _ from hproducers]
        exact of_checkSingleWriter h.single
      order_eq := by
        rw [hids, hedges]
        exact of_topologicalOrder h.order_eq
      levels_eq := by
        rw [levels, hedges]
        exact h.levels_eq
      targets_eq := h.targets_eq
      bandwidth_eq := by
        rw [hids]
        exact h.bandwidth_eq
      usable := by
        intro wiring hwiring slot hslot
        rw [show (last.installPlan plan).ledger = _ from hsame] at hwiring
        obtain ⟨node, hnode, rfl⟩ := List.mem_map.1 hwiring
        exact h.usable hbalanced' hsound hsame hnode hslot }

end Graph

end ImageFlow
