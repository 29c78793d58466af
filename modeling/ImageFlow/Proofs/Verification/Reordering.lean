import ImageFlow.Proofs.Kernels.Oblivious
import ImageFlow.Proofs.Verification.Criterion
import ImageFlow.Proofs.Verification.PlanValidity

/-!
# Graphs whose nodes were added in another order

Two graphs over the same objects may have the same nodes up to their numbers. If no kernel looks at
the number of its node, and no node is assigned to a target, then all that decides about a
verification is the same for both graphs: the shapes that fit together, what kernels are shown, the
orders in which no node writes what a node before it reads, and the objects that need memory. So
both pass the standard stages or both fail, and what passes is again the same up to the numbers.
-/

namespace ImageFlow

open Stateful Verification

/-! ## Nodes up to their numbers -/

namespace Node

/-- A node of which nothing depends on its number. It has neither a target of its own nor a
callback. -/
structure Plain (node : Node) : Prop where
  oblivious : node.kernel.kernel.Oblivious
  affinity_eq : node.affinity = none
  callback_eq : node.callback = none

/-- A node reduced to its kernel and its objects. -/
def bare (node : Node) : Node := .fresh ⟨0⟩ node.kernel node.refs

variable {node other : Node} {data : DataId} {shape : Binding → Option Descriptor}

section Bare

variable (h : node.bare = other.bare)
include h

theorem kernel_of_bare : node.kernel = other.kernel := (Node.mk.inj h).2.1

theorem refs_of_bare : node.refs = other.refs := (Node.mk.inj h).2.2.1

theorem signature_of_bare : node.signature = other.signature := by
  rw [signature, signature, kernel_of_bare h]

theorem kernelName_of_bare : node.kernelName = other.kernelName := by
  rw [kernelName, kernelName, kernel_of_bare h]

theorem bindings_of_bare : node.bindings = other.bindings := by
  rw [bindings, bindings, refs_of_bare h, signature_of_bare h]

theorem reads_of_bare : node.reads = other.reads := by rw [reads, reads, bindings_of_bare h]

theorem writes_of_bare : node.writes = other.writes := by rw [writes, writes, bindings_of_bare h]

theorem outputs_of_bare : node.outputs = other.outputs := by
  rw [outputs, outputs, bindings_of_bare h]

end Bare

end Node

/-! ## Objects up to references -/

namespace DataObject.Rebound

variable {before after : DataObject}

theorem symm (a b : DataObject) (h : a.Rebound b) : b.Rebound a :=
  ⟨h.state_eq.symm, h.hint_eq.symm, h.payload_eq.symm⟩

theorem trans (a b c : DataObject) (h : a.Rebound b) (h' : b.Rebound c) : a.Rebound c :=
  ⟨h'.state_eq.trans h.state_eq, h'.hint_eq.trans h.hint_eq, h'.payload_eq.trans h.payload_eq⟩

theorem isVirtual_eq (h : before.Rebound after) : after.isVirtual = before.isVirtual := by
  rw [isVirtual.eq_def, isVirtual.eq_def, h.state_eq]

theorem descriptor?_eq (h : before.Rebound after) : after.descriptor? = before.descriptor? := by
  rw [descriptor?, descriptor?, h.state_eq]

theorem isOk_allocate (h : before.Rebound after) (hok : before.allocate.isOk = true) :
    after.allocate.isOk = true := by
  rw [isOk_allocate_iff] at hok ⊢
  rw [h.descriptor?_eq, h.payload_eq]
  exact hok

theorem reset (h : before.Rebound after) : before.reset.Rebound after.reset := by
  rw [DataObject.reset, DataObject.reset, h.isVirtual_eq]
  split
  · exact ⟨rfl, h.hint_eq, rfl⟩
  · exact h

theorem backed (h : before.Rebound after) : before.backed.Rebound after.backed where
  state_eq := h.state_eq
  hint_eq := h.hint_eq
  payload_eq := by rw [DataObject.backed, DataObject.backed, h.payload_eq, h.descriptor?_eq]

theorem grown {grown grown' : DataObject} (h : before.Rebound after) (hgrown : before.Grown grown)
    (hgrown' : after.Grown grown') (hshape : grown.descriptor? = grown'.descriptor?) :
    grown.Rebound grown' := by
  have hpendingShape {object : DataObject} (hpending : object.state = .pending) :
      object.descriptor? = none := by
    rw [descriptor?, hpending]
  rcases hgrown with rfl | ⟨hpending, descriptor, -, rfl⟩
  · rcases hgrown' with rfl | ⟨hpending', descriptor', -, rfl⟩
    · exact h
    · rw [← h.descriptor?_eq, hpendingShape hpending'] at hshape
      cases hshape
  · rcases hgrown' with rfl | ⟨-, descriptor', -, rfl⟩
    · rw [h.descriptor?_eq, hpendingShape hpending] at hshape
      cases hshape
    · cases hshape
      exact ⟨rfl, h.hint_eq, h.payload_eq⟩

end DataObject.Rebound

namespace Graph

theorem neverBack_of_bare {order order' : List Node}
    (hbare : order'.map Node.bare = order.map Node.bare) (h : NeverBack order) :
    NeverBack order' := by
  have hiff (order : List Node) : NeverBack (order.map Node.bare) ↔ NeverBack order :=
    List.pairwise_map
  rw [← hiff, hbare, hiff]
  exact h

/-- The same nodes up to their numbers, none of which depends on its number, over objects that
differ in references and constraints only. -/
structure Reordered (a b : Graph) : Prop where
  context_eq : a.context = b.context
  arena : a.arena.Revised DataObject.Rebound b.arena
  nodes : (a.nodes.map Node.bare).Perm (b.nodes.map Node.bare)
  plain : ∀ node ∈ a.nodes, node.Plain
  plain' : ∀ node ∈ b.nodes, node.Plain

namespace Reordered

variable {a b : Graph} {node other : Node} {data : DataId}
  {shapes : DataId → Option Descriptor}

theorem symm (h : a.Reordered b) : b.Reordered a where
  context_eq := h.context_eq.symm
  arena := h.arena.symm DataObject.Rebound.symm
  nodes := h.nodes.symm
  plain := h.plain'
  plain' := h.plain

theorem exists_node (h : a.Reordered b) (hother : other ∈ b.nodes) :
    ∃ node ∈ a.nodes, node.bare = other.bare := by
  obtain ⟨node, hnode, hbare⟩ := List.mem_map.1 (h.nodes.mem_iff.2 (List.mem_map_of_mem hother))
  exact ⟨node, hnode, hbare⟩

/-! ### What kernels are shown -/

theorem shape?_eq (h : a.Reordered b) : a.shape? = b.shape? :=
  funext fun data ↦ (h.arena.bind_byId? (fun _ _ hrel ↦ hrel.descriptor?_eq) data).symm

theorem descriptorOf?_eq (h : a.Reordered b) (ref : DataRef) :
    a.descriptorOf? ref = b.descriptorOf? ref := by
  by_cases hscope : ref.graph = a.arena.graph
  · rw [descriptorOf?_of_scope hscope, descriptorOf?_of_scope (hscope.trans h.arena.graph_eq.symm),
      h.shape?_eq]
  · rw [Graph.descriptorOf?_eq, Graph.descriptorOf?_eq, if_neg hscope,
      if_neg (h.arena.graph_eq ▸ hscope)]

theorem knownValue?_eq (h : a.Reordered b) (binding : Binding) :
    knownValue? a binding = knownValue? b binding := by
  have hobject := h.arena.objects binding.ref.id
  unfold knownValue? Arena.get
  rw [h.arena.graph_eq]
  generalize a.arena.byId? binding.ref.id = object at hobject ⊢
  generalize b.arena.byId? binding.ref.id = object' at hobject ⊢
  cases hobject with
  | none => rfl
  | some hrel =>
    by_cases hscope : binding.ref.graph = a.arena.graph
    · simp only [if_pos hscope, hrel.isVirtual_eq, hrel.payload_eq]
    · rw [if_neg hscope, if_neg hscope]

theorem viewed_eq (h : a.Reordered b) (hbare : node.bare = other.bare)
    (shape : Binding → Option Descriptor) :
    other.viewed b shape = { node.viewed a shape with node := other.id } := by
  have hvalues : node.bindings.map (knownValue? a) = node.bindings.map (knownValue? b) :=
    List.map_congr_left fun binding _ ↦ h.knownValue?_eq binding
  rw [Node.viewed, Node.viewed, hvalues, Node.bindings_of_bare hbare, Node.signature_of_bare hbare]

theorem inspect_eq (h : a.Reordered b) (hbare : node.bare = other.bare) :
    inspect b other = { inspect a node with node := other.id } := by
  have hshapes : (fun binding : Binding ↦ a.descriptorOf? binding.ref) =
      fun binding ↦ b.descriptorOf? binding.ref :=
    funext fun binding ↦ h.descriptorOf?_eq binding.ref
  change other.viewed b (fun binding ↦ b.descriptorOf? binding.ref) =
    { node.viewed a (fun binding ↦ a.descriptorOf? binding.ref) with node := other.id }
  rw [h.viewed_eq hbare, hshapes]

/-! ### Shapes that fit together -/

theorem shaped (h : a.Reordered b) (hbare : node.bare = other.bare) (hplain : node.Plain)
    (hshaped : node.Shaped a shapes) : other.Shaped b shapes where
  reads := by
    rw [← Node.reads_of_bare hbare]
    exact hshaped.reads
  outputs := by
    rw [← Node.bindings_of_bare hbare]
    intro binding hbinding object hlacks
    obtain ⟨origin, horigin, hrel⟩ := h.arena.of_some hlacks.live
    have hlacks' : a.Lacks binding origin :=
      ⟨hlacks.output, horigin, hrel.state_eq.symm.trans hlacks.pending⟩
    obtain ⟨descriptor, hdescriptor, hinfers, htakes⟩ :=
      hshaped.outputs binding hbinding origin hlacks'
    have hseen : a.seen shapes = b.seen shapes := by
      funext binding
      rw [seen, seen, h.shape?_eq]
    refine ⟨descriptor, hdescriptor, ?_, htakes.possible, hrel.hint_eq ▸ htakes.agrees⟩
    rw [← hinfers, hseen, h.viewed_eq hbare, Node.infers?, Node.infers?,
      ← Node.kernel_of_bare hbare, hplain.oblivious.infer, hrel.hint_eq]

theorem derivable (h : a.Reordered b) (hderivable : a.Derivable (fun _ ↦ True) data) :
    b.Derivable (fun _ ↦ True) data := by
  induction hderivable with
  | known hknown => exact .known (h.shape?_eq ▸ hknown)
  | made hnode _ hdata _ ih =>
    obtain ⟨other, hother, hbare⟩ := h.symm.exists_node hnode
    refine .made hother trivial ?_ ?_
    · rw [Node.outputs_of_bare hbare]
      exact hdata
    · rw [Node.reads_of_bare hbare]
      exact ih

theorem solved (h : a.Reordered b) (hsolved : a.Solved shapes) : b.Solved shapes where
  known := h.shape?_eq ▸ hsolved.known
  shaped other hother := by
    obtain ⟨node, hnode, hbare⟩ := h.exists_node hother
    exact h.shaped hbare (h.plain node hnode) (hsolved.shaped node hnode)
  derived data hdata := h.derivable (hsolved.derived data hdata)

/-! ### The other stages -/

theorem holds_eq (h : a.Reordered b) : a.holds = b.holds := by
  have hholds {first second : Graph} (h : first.Reordered second) (data : DataId)
      (hdata : first.holds data = true) : second.holds data = true := by
    obtain ⟨node, hnode, href⟩ := List.any_eq_true.1 hdata
    obtain ⟨other, hother, hbare⟩ := h.symm.exists_node hnode
    exact List.any_eq_true.2 ⟨other, hother, Node.refs_of_bare hbare ▸ href⟩
  funext data
  exact Bool.eq_iff_iff.2 ⟨hholds h data, hholds h.symm data⟩

theorem singleWriter (h : a.Reordered b) (hsingle : a.SingleWriter) : b.SingleWriter := by
  intro data
  have hcount (graph : Graph) : (graph.writingNodes data).length =
      (graph.nodes.map Node.bare).countP (·.writes.contains data) := by
    rw [writingNodes, List.length_map, ← List.countP_eq_length_filter, List.countP_map]
    rfl
  rw [hcount, ← h.nodes.countP_eq, ← hcount]
  exact hsingle data

theorem exists_order (h : a.Reordered b) {order : List Node} (horder : order.Perm a.nodes) :
    ∃ order' : List Node, order'.Perm b.nodes ∧ order'.map Node.bare = order.map Node.bare :=
  exists_perm_of_perm_map ((horder.map Node.bare).trans h.nodes)

theorem ordered (h : a.Reordered b)
    (hordered : ∃ order : List Node, order.Perm a.nodes ∧ NeverBack order) :
    ∃ order : List Node, order.Perm b.nodes ∧ NeverBack order := by
  obtain ⟨order, horder, hnever⟩ := hordered
  obtain ⟨order', horder', hbare⟩ := h.exists_order horder
  exact ⟨order', horder', neverBack_of_bare hbare hnever⟩

theorem passes (h : a.Reordered b) (hpasses : a.Passes) : b.Passes where
  checked other hother := by
    obtain ⟨node, hnode, hbare⟩ := h.exists_node hother
    obtain ⟨hslots, hvalidate⟩ := hpasses.checked node hnode
    constructor
    · rw [checkSlots_eq_ok_iff] at hslots ⊢
      rw [← Node.bindings_of_bare hbare, ← Node.signature_of_bare hbare]
      intro entry hentry
      rw [← h.descriptorOf?_eq]
      exact hslots entry hentry
    · rw [← Node.kernel_of_bare hbare, h.inspect_eq hbare, (h.plain node hnode).oblivious.validate]
      exact hvalidate
  single := h.singleWriter hpasses.single
  ordered := h.ordered hpasses.ordered
  targets other hother := by
    obtain ⟨node, hnode, hbare⟩ := h.exists_node hother
    have htarget := hpasses.targets node hnode
    rw [(h.plain node hnode).affinity_eq] at htarget
    rw [(h.plain' other hother).affinity_eq, ← h.context_eq]
    rwa [Node.kernelName_of_bare hbare] at htarget
  memory data hdata object hobject := by
    obtain ⟨origin, horigin, hrel⟩ := h.arena.of_some hobject
    exact hrel.isOk_allocate (hpasses.memory data (h.holds_eq ▸ hdata) origin horigin)
  prepared other hother := by
    obtain ⟨node, hnode, hbare⟩ := h.exists_node hother
    rw [← Node.kernel_of_bare hbare, h.inspect_eq hbare, (h.plain node hnode).oblivious.prepare]
    exact hpasses.prepared node hnode

/-! ### Verification -/

theorem of_revised {R S : DataObject → DataObject → Prop} {a' b' : Graph} (h : a.Reordered b)
    (ha : a.Revised R a') (hb : b.Revised S b')
    (hobjects : ∀ data, Option.Rel DataObject.Rebound (a'.arena.byId? data) (b'.arena.byId? data)) :
    a'.Reordered b' := by
  obtain ⟨arena, harena, rfl⟩ := ha
  obtain ⟨arena', harena', rfl⟩ := hb
  exact { h with
    arena :=
      { graph_eq := harena'.graph_eq.trans (h.arena.graph_eq.trans harena.graph_eq.symm)
        length_eq := harena'.length_eq.trans (h.arena.length_eq.trans harena.length_eq.symm)
        objects := hobjects } }

theorem reset (h : a.Reordered b) : a.reset.Reordered b.reset := by
  refine h.of_revised a.redrafted_reset b.redrafted_reset fun data ↦ ?_
  have hobject := h.arena.objects data
  rw [Graph.byId?_reset, Graph.byId?_reset]
  generalize a.arena.byId? data = object at hobject ⊢
  generalize b.arena.byId? data = object' at hobject ⊢
  cases hobject with
  | none => exact .none
  | some hrel => exact .some hrel.reset

theorem grown {a' b' : Graph} (h : a.Reordered b) (ha : a.Revised DataObject.Grown a')
    (hb : b.Revised DataObject.Grown b') (hshapes : a'.shape? = b'.shape?) : a'.Reordered b' := by
  refine h.of_revised ha hb fun data ↦ ?_
  obtain ⟨arena, harena, rfl⟩ := ha
  obtain ⟨arena', harena', rfl⟩ := hb
  have hobject := h.arena.objects data
  have hgrown := harena.objects data
  have hgrown' := harena'.objects data
  have hshape : (arena.byId? data).bind DataObject.descriptor? =
    (arena'.byId? data).bind DataObject.descriptor? := congrFun hshapes data
  generalize a.arena.byId? data = object at hobject hgrown
  generalize b.arena.byId? data = object' at hobject hgrown'
  dsimp only
  generalize arena.byId? data = shaped at hgrown hshape ⊢
  generalize arena'.byId? data = shaped' at hgrown' hshape ⊢
  cases hobject with
  | none =>
    cases hgrown
    cases hgrown'
    exact .none
  | some hrel =>
    cases hgrown with
    | some hgrown =>
      cases hgrown' with
      | some hgrown' => exact .some (hrel.grown hgrown hgrown' hshape)

/-- A verification passes for both graphs or for none, and what passes is again the same up to the
numbers. -/
theorem verified (h : a.Reordered b) (ha : a.Healthy) (hb : b.Healthy)
    (hok : (a.runStages Stage.standard).result.isOk = true) :
    (b.runStages Stage.standard).result.isOk = true ∧
      (a.runStages Stage.standard).graph.Reordered (b.runStages Stage.standard).graph := by
  obtain ⟨shaped, hverifiable⟩ := exists_verifiable ha.balanced ha.sound hok
  have hsolved := h.reset.solved hverifiable.solved
  obtain ⟨shaped', hgrown', hshape'⟩ :=
    exists_shaped hb.balanced hb.sound (h.singleWriter hverifiable.singleWriter) hsolved
  have hshaped := h.reset.grown hverifiable.grown hgrown' hshape'.symm
  have hverifiable' : b.Verifiable shaped' :=
    ⟨hgrown', hshape' ▸ hsolved, hshaped.passes hverifiable.passes⟩
  obtain ⟨-, hobjects⟩ := hverifiable.verified ha.balanced ha.sound
  obtain ⟨hok', hobjects'⟩ := hverifiable'.verified hb.balanced hb.sound
  refine ⟨hok', ?_⟩
  obtain ⟨report, last, hrun⟩ := isOk_runStages_iff.1 hok
  obtain ⟨report', last', hrun'⟩ := isOk_runStages_iff.1 hok'
  have hredrafted := Stage.redrafted_runAll (fun _ ↦ Stage.redrafts_of_mem_standard) .empty
    { graph := a, plan := .empty, events := [] }
  have hredrafted' := Stage.redrafted_runAll (fun _ ↦ Stage.redrafts_of_mem_standard) .empty
    { graph := b, plan := .empty, events := [] }
  rw [hrun] at hredrafted
  rw [hrun'] at hredrafted'
  rw [runStages_of_run hrun] at hobjects ⊢
  rw [runStages_of_run hrun'] at hobjects' ⊢
  have hlast : last.graph.Reordered last'.graph := by
    refine h.of_revised hredrafted hredrafted' fun data ↦ ?_
    have hobject := hshaped.arena.objects data
    rw [show last.graph.arena.byId? data = _ from hobjects data,
      show last'.graph.arena.byId? data = _ from hobjects' data, h.holds_eq]
    generalize shaped.arena.byId? data = object at hobject ⊢
    generalize shaped'.arena.byId? data = object' at hobject ⊢
    cases hobject with
    | none => split <;> exact .none
    | some hrel =>
      split
      · exact .some hrel.backed
      · exact .some hrel
  exact { hlast with }

end Reordered

end Graph

end ImageFlow
