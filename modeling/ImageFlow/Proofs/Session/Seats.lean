import ImageFlow.Proofs.Platform.Hosting
import ImageFlow.Proofs.Session.Suited

/-!
# What the choice of targets looks at

Where a node can run depends on the name of its kernel and on the target that it was assigned to. A
node is assigned only to a target that hosts its kernel, and neither the name of its kernel nor the
context of its graph ever changes, so an assigned node can always run where it is. A node that was
added by the name of its kernel has a kernel that the context knows. Numbers of nodes are not given
out twice, so what was said of a node once is not said of another one later.
-/

namespace ImageFlow

/-! ## Nodes that are added by name -/

/-- The node that an operation adds by the name of its kernel, if it adds one. -/
def Operation.named? (graph : Graph) : Operation → Option NodeId
  | addNode kernel refs => (graph.addNode kernel refs).toOption.map Prod.fst
  | _ => none

/-- The node that a move adds by the name of its kernel, if it adds one. -/
def Move.named? (graph : Graph) : Move → Option NodeId
  | .operation call => call.named? graph
  | _ => none

/-- The nodes that a list of moves adds by the names of their kernels. -/
def Move.named (graph : Graph) : List Move → List NodeId
  | [] => []
  | move :: rest => (move.named? graph).toList ++ named (move.apply graph) rest

/-! ## Seats -/

/-- What the choice of a target for a node looks at. -/
structure Seat where
  node : NodeId
  kernel : String
  target : Option Nat

/-- The seat of a node. -/
def Node.seat (node : Node) : Seat :=
  { node := node.id, kernel := node.kernelName, target := node.affinity }

namespace Graph

variable {graph before after changed : Graph} {context : Context} {named : List NodeId}

/-- The seats of all nodes. -/
def seats (graph : Graph) : List Seat := graph.nodes.map Node.seat

/-- Nodes may have gone, but nothing else has changed that the choice of targets looks at. -/
structure KeepsSeats (before after : Graph) : Prop where
  context_eq : after.context = before.context
  nextNode_eq : after.nextNode = before.nextNode
  seats : after.seats ⊆ before.seats

theorem KeepsSeats.refl (graph : Graph) : graph.KeepsSeats graph :=
  ⟨rfl, rfl, List.Subset.refl _⟩

theorem keepsSeats_settle {ε : Type} {result : Except ε Graph}
    (h : ∀ changed, result = .ok changed → graph.KeepsSeats changed) :
    graph.KeepsSeats (graph.settle result) :=
  settle_of_ok (.refl graph) h

theorem keepsSeats_settle_snd {ε α : Type} {result : Except ε (α × Graph)}
    (h : ∀ a changed, result = .ok (a, changed) → graph.KeepsSeats changed) :
    graph.KeepsSeats (graph.settle (result.map Prod.snd)) :=
  settle_map_snd (.refl graph) h

theorem keepsSeats_modifyNode (id : NodeId) {f : Node → Node}
    (hf : ∀ node, (f node).seat = node.seat) : graph.KeepsSeats (graph.modifyNode id f) where
  context_eq := rfl
  nextNode_eq := rfl
  seats := by
    have hseats : (graph.modifyNode id f).seats = graph.seats := by
      rw [Graph.seats, modifyNode, List.map_map]
      apply List.map_congr_left
      intro node _
      rw [Function.comp_apply]
      split
      · exact hf node
      · rfl
    rw [hseats]
    exact List.Subset.refl _

theorem keepsSeats_setPayload (graph : Graph) (ref : DataRef) (payload : Payload) :
    graph.KeepsSeats (graph.setPayload ref payload) :=
  ⟨rfl, rfl, List.Subset.refl _⟩

theorem Revised.keepsSeats {R : DataObject → DataObject → Prop} (h : before.Revised R after) :
    before.KeepsSeats after := by
  obtain ⟨arena, -, rfl⟩ := h
  exact ⟨rfl, rfl, List.Subset.refl _⟩

/-- A run changes counters and callbacks of nodes only. -/
theorem Ran.keepsSeats (h : before.Ran after) : before.KeepsSeats after where
  context_eq := by rw [h.frame]
  nextNode_eq := by rw [h.frame]
  seats := by
    have hseat : Node.seat = Node.seat ∘ Node.fixed := rfl
    rw [seats, seats, hseat, ← List.map_map, ← List.map_map, h.nodes]
    exact List.Subset.refl _

theorem keepsSeats_process (graph : Graph) (watch : Stopwatch) :
    graph.KeepsSeats (graph.process watch).graph := by
  unfold process
  split
  · have hrun := (ran_execute { graph with state := .running } graph.runOptions watch).keepsSeats
    exact ⟨hrun.context_eq, hrun.nextNode_eq, hrun.seats⟩
  · exact .refl graph

theorem keepsSeats_runStages (graph : Graph) :
    graph.KeepsSeats (graph.runStages Stage.standard).graph := by
  have hrevised := (redrafted_runStages (fun _ ↦ Stage.redrafts_of_mem_standard) graph).keepsSeats
  exact ⟨hrevised.context_eq, hrevised.nextNode_eq, hrevised.seats⟩

theorem keepsSeats_removeNode {id : NodeId} (h : graph.removeNode id = .ok changed) :
    graph.KeepsSeats changed := by
  obtain ⟨node, -, h⟩ := exists_of_bind_eq_ok h
  cases h
  exact ⟨rfl, rfl, List.map_subset _ (List.filter_subset_self _)⟩

/-- A new node has the next number and no target. -/
theorem seats_of_addNodeWithKernel {kernel : RegisteredKernel} {refs : List DataRef} {id : NodeId}
    (h : graph.addNodeWithKernel kernel refs = .ok (id, changed)) :
    id = ⟨graph.nextNode⟩ ∧ changed.context = graph.context ∧
      changed.nextNode = graph.nextNode + 1 ∧
      changed.seats = graph.seats ++ [{ node := id, kernel := kernel.name, target := none }] := by
  have hentered := entered_of_addNodeWithKernel h
  refine ⟨hentered.number, hentered.context_eq, hentered.nextNode_eq, ?_⟩
  rw [seats, hentered.nodes_eq, List.map_append]
  rfl

theorem exists_of_lookup {kernel : String} {refs : List DataRef} {id : NodeId}
    (h : graph.addNode kernel refs = .ok (id, changed)) :
    ∃ entry, graph.context.lookup kernel = .ok entry ∧
      graph.addNodeWithKernel entry refs = .ok (id, changed) := by
  unfold addNode at h
  split at h
  · cases h
  · next entry hentry => exact ⟨entry, hentry, h⟩

/-- A node is assigned to a target that hosts its kernel. -/
theorem hostsAt_of_assignTarget {id : NodeId} {target : String}
    (h : graph.assignTarget id target = .ok changed) :
    ∃ node index, graph.node? id = some node ∧
      Target.HostsAt graph.context.targets node.kernelName index ∧
      changed = (graph.modifyNode id ({ · with affinity := some index })).invalidate := by
  unfold assignTarget at h
  split at h
  · cases h
  · next index _ =>
    obtain ⟨node, hnode, h⟩ := exists_of_bind_eq_ok h
    split at h
    · next hsupports =>
      cases h
      unfold Graph.node at hnode
      split at hnode
      · next found hfound =>
        cases hnode
        exact ⟨node, index, hfound, Target.hostsAt_iff_any.2 hsupports, rfl⟩
      · cases hnode
    · cases h

/-! ## Nodes can run where they are -/

/-- Nodes sit where their kernels are hosted, and those of a list have kernels that the context
knows. -/
structure Seated (context : Context) (named : List NodeId) (graph : Graph) : Prop where
  context_eq : graph.context = context
  below : ∀ id ∈ named, id.index < graph.nextNode
  registered : ∀ seat ∈ graph.seats, seat.node ∈ named →
    context.registry.contains seat.kernel = true
  hosted : ∀ seat ∈ graph.seats, ∀ index, seat.target = some index →
    Target.HostsAt context.targets seat.kernel index

theorem seated_empty (id : GraphId) (context : Context) : (empty id context).Seated context [] where
  context_eq := rfl
  below _ hid := nomatch hid
  registered _ hseat := nomatch hseat
  hosted _ hseat := nomatch hseat

theorem Seated.kept (h : before.Seated context named) (hkept : before.KeepsSeats after) :
    after.Seated context named where
  context_eq := hkept.context_eq.trans h.context_eq
  below := by
    rw [hkept.nextNode_eq]
    exact h.below
  registered seat hseat := h.registered seat (hkept.seats hseat)
  hosted seat hseat := h.hosted seat (hkept.seats hseat)

/-- Nothing has been added by name. -/
theorem Seated.append_nil (h : graph.Seated context named) :
    graph.Seated context (named ++ []) := by
  rw [List.append_nil]
  exact h

/-- A node is added, and may be put on the list if the context knows its kernel. -/
theorem Seated.added (h : before.Seated context named) (hbalanced : before.ledger.Balanced)
    {kernel : RegisteredKernel} {refs : List DataRef} {id : NodeId}
    (hadd : before.addNodeWithKernel kernel refs = .ok (id, after)) {fresh : List NodeId}
    (hfresh : ∀ node ∈ fresh, node = id ∧ context.registry.contains kernel.name = true) :
    after.Seated context (named ++ fresh) := by
  obtain ⟨hid, hcontext, hnext, hseats⟩ := seats_of_addNodeWithKernel hadd
  have hold (seat : Seat) (hseat : seat ∈ before.seats) : seat.node ≠ id := by
    obtain ⟨node, hnode, rfl⟩ := List.mem_map.1 hseat
    have hbelow : node.id.index < before.nextNode :=
      hbalanced.below node.wiring (List.mem_map_of_mem hnode)
    rintro (rfl : node.id = id)
    rw [hid] at hbelow
    exact Nat.lt_irrefl _ hbelow
  have hnew : id ∉ named := fun hmem ↦ by
    have hbelow := h.below id hmem
    rw [hid] at hbelow
    exact Nat.lt_irrefl _ hbelow
  constructor
  · exact hcontext.trans h.context_eq
  · rw [hnext]
    refine List.forall_mem_append.2 ⟨fun node hnode ↦ Nat.lt_succ_of_lt (h.below node hnode), ?_⟩
    intro node hnode
    rw [(hfresh node hnode).1, hid]
    exact Nat.lt_succ_self _
  · rw [hseats]
    refine List.forall_mem_append.2 ⟨fun seat hseat hmem ↦ ?_, ?_⟩
    · refine h.registered seat hseat ((List.mem_append.1 hmem).resolve_right fun hlast ↦ ?_)
      exact hold seat hseat (hfresh _ hlast).1
    · refine List.forall_mem_singleton.2 fun hmem ↦ ?_
      exact (hfresh id ((List.mem_append.1 hmem).resolve_left hnew)).2
  · rw [hseats]
    refine List.forall_mem_append.2 ⟨h.hosted, List.forall_mem_singleton.2 fun index hindex ↦ ?_⟩
    cases hindex

/-- A node changes its target, to one that hosts its kernel or to none. -/
theorem Seated.retargeted (h : before.Seated context named) (id : NodeId) (affinity : Option Nat)
    (hhosts : ∀ node ∈ before.nodes, node.id = id → ∀ index, affinity = some index →
      Target.HostsAt context.targets node.kernelName index) :
    ((before.modifyNode id ({ · with affinity })).invalidate).Seated context named := by
  have hseats (seat : Seat) (hseat : seat ∈ (before.modifyNode id ({ · with affinity })).seats) :
      ∃ node ∈ before.nodes, seat.node = node.id ∧ seat.kernel = node.kernelName ∧
        (seat.target = node.affinity ∨ node.id = id ∧ seat.target = affinity) := by
    obtain ⟨_, hmem, rfl⟩ := List.mem_map.1 hseat
    obtain ⟨node, hnode, rfl⟩ := List.mem_map.1 hmem
    refine ⟨node, hnode, ?_⟩
    split
    · next hid => exact ⟨rfl, rfl, .inr ⟨hid, rfl⟩⟩
    · exact ⟨rfl, rfl, .inl rfl⟩
  refine ⟨h.context_eq, h.below, fun seat hseat hnamed ↦ ?_, fun seat hseat index hindex ↦ ?_⟩
  · obtain ⟨node, hnode, hid, hkernel, -⟩ := hseats seat hseat
    rw [hkernel]
    rw [hid] at hnamed
    exact h.registered node.seat (List.mem_map_of_mem hnode) hnamed
  · obtain ⟨node, hnode, -, hkernel, hsame | ⟨hid, hmoved⟩⟩ := hseats seat hseat
    · rw [hkernel]
      exact h.hosted node.seat (List.mem_map_of_mem hnode) index (hsame.symm.trans hindex)
    · rw [hkernel]
      exact hhosts node hnode hid index (hmoved.symm.trans hindex)

end Graph

/-! ## Whatever happens to a graph -/

theorem Operation.seated {graph : Graph} {context : Context} {named : List NodeId}
    (h : graph.Seated context named) (hbalanced : graph.ledger.Balanced)
    (hhosted : context.registry.HostedOn context.targets) (operation : Operation) :
    (operation.apply graph).Seated context (named ++ (operation.named? graph).toList) := by
  have hkept {after : Graph} (hafter : graph.KeepsSeats after) :
      after.Seated context (named ++ []) := (h.kept hafter).append_nil
  have hsame : graph.KeepsSeats graph := .refl graph
  cases operation with
  | create descriptor =>
    refine hkept (Graph.keepsSeats_settle_snd fun ref changed hmade ↦ ?_)
    obtain ⟨object, -, rfl⟩ := Graph.exists_of_create hmade
    exact ⟨rfl, rfl, hsame.seats⟩
  | createScalar value => exact hkept ⟨rfl, rfl, hsame.seats⟩
  | createVirtual => exact hkept ⟨rfl, rfl, hsame.seats⟩
  | createVirtualImage hint =>
    refine hkept (Graph.keepsSeats_settle_snd fun ref changed hmade ↦ ?_)
    obtain ⟨object, -, rfl⟩ := Graph.exists_of_createVirtualImage hmade
    exact ⟨rfl, rfl, hsame.seats⟩
  | retain ref =>
    refine hkept (Graph.keepsSeats_settle_snd fun count changed hretain ↦ ?_)
    obtain ⟨object, -, rfl⟩ := Graph.exists_of_retain hretain
    exact ⟨rfl, rfl, hsame.seats⟩
  | release ref =>
    refine hkept (Graph.keepsSeats_settle_snd fun count changed hrelease ↦ ?_)
    obtain ⟨object, left, -, -, rfl⟩ := Graph.exists_of_release hrelease
    exact ⟨rfl, rfl, hsame.seats⟩
  | look => exact hkept hsame
  | writeImage ref bytes =>
    refine hkept (Graph.keepsSeats_settle fun changed hwrite ↦ ?_)
    obtain ⟨image, -, -, rfl⟩ := Graph.exists_of_writeImage hwrite
    exact Graph.keepsSeats_setPayload graph ref _
  | writeScalar ref value =>
    refine hkept (Graph.keepsSeats_settle fun changed hwrite ↦ ?_)
    obtain ⟨current, -, -, rfl⟩ := Graph.exists_of_writeScalar hwrite
    exact Graph.keepsSeats_setPayload graph ref _
  | writeArray ref items =>
    refine hkept (Graph.keepsSeats_settle fun changed hwrite ↦ ?_)
    obtain ⟨array, filled, -, -, rfl⟩ := Graph.exists_of_writeArray hwrite
    exact Graph.keepsSeats_setPayload graph ref _
  | addNode kernel refs =>
    rw [apply, named?]
    cases hadd : graph.addNode kernel refs with
    | error e => exact hkept hsame
    | ok made =>
      obtain ⟨entry, hentry, hmade⟩ := Graph.exists_of_lookup hadd
      rw [h.context_eq] at hentry
      have hname : context.registry.contains entry.name = true := by
        rw [hhosted.name_of_lookup hentry]
        exact Registry.contains_of_lookup hentry
      refine h.added hbalanced hmade fun node hnode ↦ ?_
      exact ⟨List.mem_singleton.1 hnode, hname⟩
  | addNodeWithKernel kernel refs =>
    rw [apply]
    cases hadd : graph.addNodeWithKernel kernel refs with
    | error e => exact hkept hsame
    | ok made =>
      have hadded := h.added hbalanced hadd (List.forall_mem_nil _)
      exact hadded
  | removeNode node =>
    exact hkept (Graph.keepsSeats_settle fun changed ↦ Graph.keepsSeats_removeNode)
  | assignTarget id target =>
    refine (Graph.settle_of_ok h fun changed hassign ↦ ?_).append_nil
    obtain ⟨node, index, hnode, hhosts, rfl⟩ := Graph.hostsAt_of_assignTarget hassign
    refine h.retargeted id (some index) fun other hother hid place hplace ↦ ?_
    have hfound := (Graph.node?_eq_some_iff (Graph.nodup_nodeIds hbalanced)).2 ⟨hother, hid⟩
    obtain rfl : node = other := Option.some.inj (hnode.symm.trans hfound)
    rw [← h.context_eq, ← Option.some.inj hplace]
    exact hhosts
  | clearTarget id =>
    refine (Graph.settle_of_ok h fun changed hclear ↦ ?_).append_nil
    rw [Graph.eq_of_clearTarget hclear]
    exact h.retargeted id none fun _ _ _ index hindex ↦
      absurd hindex.symm (Option.some_ne_none index)
  | setCallback node answer =>
    refine hkept (Graph.keepsSeats_settle fun changed hset ↦ ?_)
    rw [Graph.eq_of_setCallback hset]
    exact Graph.keepsSeats_modifyNode node fun _ ↦ rfl
  | clearCallback node =>
    refine hkept (Graph.keepsSeats_settle fun changed hclear ↦ ?_)
    rw [Graph.eq_of_clearCallback hclear]
    exact Graph.keepsSeats_modifyNode node fun _ ↦ rfl
  | setOptions options => exact hkept ⟨rfl, rfl, hsame.seats⟩
  | verify =>
    rw [apply, Graph.verify]
    split
    · exact hkept hsame
    · exact hkept (Graph.keepsSeats_runStages graph)
  | verifyAgain =>
    have hstages := Graph.keepsSeats_runStages graph.invalidate
    exact hkept ⟨hstages.context_eq, hstages.nextNode_eq, hstages.seats⟩
  | process watch => exact hkept (Graph.keepsSeats_process graph watch)
  | execute options watch => exact hkept (Graph.ran_execute graph options watch).keepsSeats
  | exchange node kernel =>
    refine hkept (Graph.keepsSeats_modifyNode node fun node ↦ ?_)
    split
    · next hsignature =>
      exact congrArg (fun signature : Signature ↦ Seat.mk node.id signature.name node.affinity)
        hsignature
    · rfl

namespace Move

variable {graph : Graph} {context : Context} {named : List NodeId}

/-- Nodes stay where they can run, and what has been added by name goes on the list. -/
theorem seated_apply (h : graph.Seated context named) (hbalanced : graph.ledger.Balanced)
    (hhosted : context.registry.HostedOn context.targets) (move : Move) :
    (move.apply graph).Seated context (named ++ (move.named? graph).toList) := by
  have hkept {after : Graph} (hafter : graph.KeepsSeats after) :
      after.Seated context (named ++ []) := (h.kept hafter).append_nil
  cases move with
  | operation call => exact call.seated h hbalanced hhosted
  | begin => exact hkept ⟨rfl, rfl, List.Subset.refl _⟩
  | stage part hstandard plan events =>
    have hredrafted := Stage.redrafts_of_mem_standard hstandard { graph, plan, events }
    exact hkept hredrafted.keepsSeats
  | install plan => exact hkept ⟨rfl, rfl, List.Subset.refl _⟩
  | abort => exact hkept ⟨rfl, rfl, List.Subset.refl _⟩

theorem seated_applyAll {retains releases : DataId → Nat} (h : graph.Seated context named)
    (haccurate : graph.Accurate retains releases)
    (hhosted : context.registry.HostedOn context.targets) (moves : List Move) :
    (applyAll graph moves).Seated context (named ++ Move.named graph moves) := by
  induction moves generalizing graph named retains releases with
  | nil => exact h.append_nil
  | cons move rest ih =>
    rw [Move.named, ← List.append_assoc]
    exact ih (seated_apply h haccurate.balanced hhosted move) (haccurate.move move)

end Move

end ImageFlow
