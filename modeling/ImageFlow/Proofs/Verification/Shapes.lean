import ImageFlow.Proofs.Session.Soundness
import ImageFlow.Proofs.Verification.Visits

/-!
# The shapes of virtual objects

The first stage of a verification passes over the nodes, in the order in which they were added,
until a pass visits none. If no object has two writers, neither this order nor the number of passes
shows in the result. For what a visit infers is a function of what its node reads, so all shapes are
determined, one after the other, by those that are known from the start. Shapes that fit together in
this way are a solution. There is one at most, the stage passes exactly if there is one, and then
it is what the stage finds.
-/

namespace ImageFlow

open Stateful Verification

/-! ## Solutions -/

namespace Graph

/-- The shape of a live object, if it is known. -/
def shape? (graph : Graph) (data : DataId) : Option Descriptor :=
  (graph.arena.byId? data).bind DataObject.descriptor?

/-- The shapes that a kernel sees when it infers: those of what it reads, and of what it only writes
those that were known from the start. -/
def seen (start : Graph) (shapes : DataId → Option Descriptor) (binding : Binding) :
    Option Descriptor :=
  if binding.direction.reads then shapes binding.ref.id else start.shape? binding.ref.id

end Graph

/-- A node as its kernel sees it if the objects of its slots have given shapes. -/
def Node.viewed (node : Node) (graph : Graph) (shape : Binding → Option Descriptor) : Inspection :=
  { node := node.id
    signature := node.signature
    descriptors := node.bindings.map shape
    values := node.bindings.map (knownValue? graph) }

/-- Everything that the node reads has a shape, and what it only writes has the shape that is
inferred from these. -/
structure Node.Shaped (start : Graph) (shapes : DataId → Option Descriptor) (node : Node) :
    Prop where
  reads : ∀ data ∈ node.reads, (shapes data).isSome = true
  outputs : ∀ binding ∈ node.bindings, ∀ object, start.Lacks binding object →
    ∃ descriptor, shapes binding.ref.id = some descriptor ∧
      node.infers? (node.viewed start (start.seen shapes)) binding.slot object = some descriptor ∧
      object.Takes descriptor

namespace Graph

/-- Objects whose shape is known from the start, or once some nodes have been visited that read only
such objects. -/
inductive Derivable (start : Graph) (visited : NodeId → Prop) : DataId → Prop
  | known {data : DataId} (h : (start.shape? data).isSome = true) : Derivable start visited data
  | made {node : Node} {data : DataId} (hnode : node ∈ start.nodes) (hvisited : visited node.id)
    (hdata : data ∈ node.outputs) (hreads : ∀ read ∈ node.reads, Derivable start visited read) :
    Derivable start visited data

/-- Shapes that fit together: those known from the start stay, every node is shaped, and no shape
comes from nowhere. -/
structure Solved (start : Graph) (shapes : DataId → Option Descriptor) : Prop where
  known : ∀ data descriptor, start.shape? data = some descriptor → shapes data = some descriptor
  shaped : ∀ node ∈ start.nodes, node.Shaped start shapes
  derived : ∀ data, (shapes data).isSome = true → start.Derivable (fun _ ↦ True) data

variable {start now after : Graph} {node : Node} {data : DataId}
  {shapes other : DataId → Option Descriptor} {visited visited' : NodeId → Prop}

theorem Derivable.mono (hvisited : ∀ id, visited id → visited' id)
    (h : start.Derivable visited data) : start.Derivable visited' data := by
  induction h with
  | known h => exact .known h
  | made hnode hnew hdata _ ih => exact .made hnode (hvisited _ hnew) hdata ih

theorem descriptorOf?_of_scope {ref : DataRef} (h : ref.graph = start.arena.graph) :
    start.descriptorOf? ref = start.shape? ref.id := by
  rw [descriptorOf?_eq, if_pos h]
  rfl

theorem scope_of_mem_bindings (hbalanced : start.ledger.Balanced) (hnode : node ∈ start.nodes)
    {binding : Binding} (hbinding : binding ∈ node.bindings) :
    binding.ref.graph = start.arena.graph :=
  hbalanced.own node.wiring (List.mem_map_of_mem hnode) binding.ref
    (Node.ref_mem_of_mem_bindings hbinding)

theorem exists_byId? (hbalanced : start.ledger.Balanced) (hnode : node ∈ start.nodes)
    {binding : Binding} (hbinding : binding ∈ node.bindings) :
    ∃ object, start.arena.byId? binding.ref.id = some object := by
  obtain ⟨object, hobject⟩ := exists_get hbalanced hnode (Node.ref_mem_of_mem_bindings hbinding)
  exact ⟨object, (Arena.get_eq_ok_iff.1 hobject).2⟩

/-- What a node only writes lacks a shape unless it has one from the start. -/
theorem known_or_lacks (hbalanced : start.ledger.Balanced) (hnode : node ∈ start.nodes)
    {binding : Binding} (hbinding : binding ∈ node.bindings)
    (houtput : binding.direction = .output) :
    (start.shape? binding.ref.id).isSome = true ∨ ∃ object, start.Lacks binding object := by
  obtain ⟨object, hobject⟩ := exists_byId? hbalanced hnode hbinding
  cases hstate : object.state with
  | pending => exact .inr ⟨object, houtput, hobject, hstate⟩
  | concrete descriptor =>
    left
    rw [shape?, hobject, Option.bind_some, DataObject.descriptor?, hstate]
    rfl
  | resolved descriptor =>
    left
    rw [shape?, hobject, Option.bind_some, DataObject.descriptor?, hstate]
    rfl

theorem viewed_seen_congr (h : ∀ data ∈ node.reads, shapes data = other data) :
    node.viewed start (start.seen shapes) = node.viewed start (start.seen other) := by
  have hdescriptors : node.bindings.map (start.seen shapes) =
      node.bindings.map (start.seen other) := by
    apply List.map_congr_left
    intro binding hbinding
    rw [seen, seen]
    split
    · next hreads =>
      exact h _ (List.mem_map.2 ⟨binding, List.mem_filter.2 ⟨hbinding, hreads⟩, rfl⟩)
    · rfl
  rw [Node.viewed, hdescriptors, Node.viewed]

/-- Two assignments under which the visited nodes are shaped agree on all that can be derived. -/
theorem Derivable.unique (h : start.Derivable visited data) (hbalanced : start.ledger.Balanced)
    (hshapes : ∀ data descriptor, start.shape? data = some descriptor →
      shapes data = some descriptor)
    (hother : ∀ data descriptor, start.shape? data = some descriptor →
      other data = some descriptor)
    (hshaped : ∀ node ∈ start.nodes, visited node.id →
      node.Shaped start shapes ∧ node.Shaped start other) :
    shapes data = other data := by
  have hknown {data : DataId} (h : (start.shape? data).isSome = true) :
      shapes data = other data := by
    obtain ⟨descriptor, hdescriptor⟩ := Option.isSome_iff_exists.1 h
    rw [hshapes data descriptor hdescriptor, hother data descriptor hdescriptor]
  induction h with
  | known h => exact hknown h
  | @made node data hnode hvisited hdata _ ih =>
    obtain ⟨binding, hbinding, houtput, rfl⟩ := Node.mem_outputs_iff.1 hdata
    rcases known_or_lacks hbalanced hnode hbinding houtput with hsome | ⟨object, hlacks⟩
    · exact hknown hsome
    · obtain ⟨hfirst, hsecond⟩ := hshaped node hnode hvisited
      obtain ⟨descriptor, hdescriptor, hinfers, -⟩ := hfirst.outputs binding hbinding object hlacks
      obtain ⟨descriptor', hdescriptor', hinfers', -⟩ :=
        hsecond.outputs binding hbinding object hlacks
      rw [viewed_seen_congr ih] at hinfers
      rw [hdescriptor, hdescriptor', ← hinfers, hinfers']

theorem Solved.unique (h : start.Solved shapes) (h' : start.Solved other)
    (hbalanced : start.ledger.Balanced) : shapes = other := by
  have hagree {data : DataId} (hderivable : start.Derivable (fun _ ↦ True) data) :
      shapes data = other data :=
    hderivable.unique hbalanced h.known h'.known fun node hnode _ ↦
      ⟨h.shaped node hnode, h'.shaped node hnode⟩
  funext data
  cases hshape : shapes data with
  | some descriptor => rw [← hshape, hagree (h.derived data (by rw [hshape]; rfl))]
  | none =>
    cases hshape' : other data with
    | none => rfl
    | some descriptor =>
      have hsame := hagree (h'.derived data (by rw [hshape']; rfl))
      rw [hshape, hshape'] at hsame
      exact hsame

/-- In a solution every object that a node is bound to has a shape. -/
theorem Solved.isSome (h : start.Solved shapes) (hbalanced : start.ledger.Balanced)
    (hnode : node ∈ start.nodes) {binding : Binding} (hbinding : binding ∈ node.bindings) :
    (shapes binding.ref.id).isSome = true := by
  have hshaped := h.shaped node hnode
  by_cases hreads : binding.direction.reads = true
  · exact hshaped.reads _ (List.mem_map.2 ⟨binding, List.mem_filter.2 ⟨hbinding, hreads⟩, rfl⟩)
  · rcases known_or_lacks hbalanced hnode hbinding (Direction.eq_output_of_not_reads hreads) with
      hsome | ⟨object, hlacks⟩
    · obtain ⟨descriptor, hdescriptor⟩ := Option.isSome_iff_exists.1 hsome
      rw [h.known _ descriptor hdescriptor]
      rfl
    · obtain ⟨descriptor, hdescriptor, -⟩ := hshaped.outputs binding hbinding object hlacks
      rw [hdescriptor]
      rfl

/-! ## What kernels see on the way -/

theorem shape?_grown (h : start.Revised DataObject.Grown now) {descriptor : Descriptor}
    (hknown : start.shape? data = some descriptor) : now.shape? data = some descriptor := by
  obtain ⟨arena, harena, rfl⟩ := h
  obtain ⟨object, hobject, hdescriptor⟩ := Option.bind_eq_some_iff.1 hknown
  obtain ⟨grown, hgrown, hrel⟩ := harena.some_of_some hobject
  exact Option.bind_eq_some_iff.2 ⟨grown, hgrown, hrel.descriptor?_eq hdescriptor⟩

theorem isSome_shape?_grown (h : start.Revised DataObject.Grown now)
    (hknown : (start.shape? data).isSome = true) : (now.shape? data).isSome = true := by
  obtain ⟨descriptor, hdescriptor⟩ := Option.isSome_iff_exists.1 hknown
  rw [shape?_grown h hdescriptor]
  rfl

theorem shape?_eq_of_grown (h : start.Revised DataObject.Grown now)
    (hknown : (start.shape? data).isSome = true) : start.shape? data = now.shape? data := by
  obtain ⟨descriptor, hdescriptor⟩ := Option.isSome_iff_exists.1 hknown
  rw [shape?_grown h hdescriptor, hdescriptor]

/-- Verification changes no value that is known before a run. -/
theorem knownValue?_redrafted (hsound : start.SoundObjects)
    (h : start.Revised DataObject.Redrafted now) (binding : Binding) :
    knownValue? now binding = knownValue? start binding := by
  obtain ⟨arena, harena, rfl⟩ := h
  have hobject := harena.objects binding.ref.id
  unfold knownValue? Arena.get
  dsimp only
  rw [harena.graph_eq]
  by_cases hscope : binding.ref.graph = start.arena.graph
  · rw [if_pos hscope, if_pos hscope]
    generalize hstart : start.arena.byId? binding.ref.id = origin at hobject ⊢
    generalize arena.byId? binding.ref.id = found at hobject ⊢
    cases hobject with
    | none => rfl
    | @some object revised hrel =>
      dsimp only
      cases hvirtual : object.isVirtual with
      | true => simp [hrel.isVirtual_eq, hvirtual]
      | false =>
        obtain ⟨hpayload, -⟩ := (hsound _ object hstart).concrete hvirtual
        rw [hrel.concrete hvirtual hpayload, hvirtual]
  · rw [if_neg hscope, if_neg hscope]

theorem inspect_redrafted (hsound : start.SoundObjects)
    (h : start.Revised DataObject.Redrafted now)
    (hscope : ∀ binding ∈ node.bindings, binding.ref.graph = start.arena.graph) :
    inspect now node = node.viewed start fun binding ↦ now.shape? binding.ref.id := by
  have hvalues : node.bindings.map (knownValue? now) = node.bindings.map (knownValue? start) :=
    List.map_congr_left fun binding _ ↦ knownValue?_redrafted hsound h binding
  have hdescriptors : (node.bindings.map fun binding ↦ now.descriptorOf? binding.ref) =
      node.bindings.map fun binding ↦ now.shape? binding.ref.id := by
    apply List.map_congr_left
    intro binding hbinding
    apply descriptorOf?_of_scope
    obtain ⟨arena, harena, rfl⟩ := h
    rw [hscope binding hbinding]
    exact harena.graph_eq.symm
  rw [inspect, hvalues, hdescriptors, Node.viewed]

theorem isReady_iff (hscope : ∀ binding ∈ node.bindings, binding.ref.graph = now.arena.graph) :
    isReady now node = true ↔ ∀ data ∈ node.reads, (now.shape? data).isSome = true := by
  simp only [isReady, List.all_eq_true, List.mem_filter, Node.reads, List.mem_map]
  constructor
  · rintro h _ ⟨binding, hbinding, rfl⟩
    rw [← descriptorOf?_of_scope (hscope binding hbinding.1)]
    exact h binding hbinding
  · intro h binding hbinding
    rw [descriptorOf?_of_scope (hscope binding hbinding.1)]
    exact h _ ⟨binding, hbinding, rfl⟩

end Graph

/-- A node that is shaped stays so when more shapes become known. -/
theorem Node.Shaped.grown {start now after : Graph} {node : Node} (h : node.Shaped start now.shape?)
    (hgrown : now.Revised DataObject.Grown after) : node.Shaped start after.shape? where
  reads data hdata := Graph.isSome_shape?_grown hgrown (h.reads data hdata)
  outputs binding hbinding object hlacks := by
    obtain ⟨descriptor, hdescriptor, hinfers, htakes⟩ := h.outputs binding hbinding object hlacks
    refine ⟨descriptor, Graph.shape?_grown hgrown hdescriptor, ?_, htakes⟩
    rw [← Graph.viewed_seen_congr fun data hdata ↦
      Graph.shape?_eq_of_grown hgrown (h.reads data hdata)]
    exact hinfers

end ImageFlow
