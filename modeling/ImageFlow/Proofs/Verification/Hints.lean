import ImageFlow.Proofs.Verification.Progress

/-!
# Images that are fixed when they are made

A client may fix the pixel format, the width and the height of a virtual image when it is made. If
one node alone writes the image, through a slot that it only writes, and all its other slots hold
concrete objects, then the search visits the node and gives the image a shape: the one that the
kernel infers, or else the one that was fixed. No verification says that the image cannot be
resolved.

What was fixed is looked at for pure outputs only. An image that its one writer updates in place is
never given a shape, whatever was fixed of it: the node waits for the shape of its own image.
-/

namespace ImageFlow

open Stateful Verification

namespace Graph

/-- A virtual image of which everything was fixed, and the slot of the only node that writes it; all
other slots of the node hold concrete objects. -/
structure Fixed (graph : Graph) (data : DataId) (object : DataObject) (fixed : Descriptor)
    (writer : Node) (binding : Binding) : Prop where
  live : graph.arena.byId? data = some object
  isVirtual : object.isVirtual = true
  complete : object.hint.bind ImageHint.complete? = some fixed
  mem_nodes : writer ∈ graph.nodes
  writers_eq : graph.writingNodes data = [writer.id]
  mem_bindings : binding ∈ writer.bindings
  ref_eq : binding.ref.id = data
  writes : binding.direction.writes = true
  concrete : ∀ other ∈ writer.bindings, other ≠ binding →
    ∃ source, graph.arena.byId? other.ref.id = some source ∧ source.isVirtual = false

variable {graph start now : Graph} {data : DataId} {object : DataObject} {fixed : Descriptor}
  {writer : Node} {binding : Binding} {draft last : Draft} {warnings : List VerifyWarning}

namespace Fixed

theorem reset (h : graph.Fixed data object fixed writer binding) :
    graph.reset.Fixed data { object with state := .pending, payload := none } fixed writer
      binding where
  live := by rw [byId?_reset, h.live, Option.map_some, DataObject.reset, if_pos h.isVirtual]
  isVirtual := rfl
  complete := h.complete
  mem_nodes := h.mem_nodes
  writers_eq := h.writers_eq
  mem_bindings := h.mem_bindings
  ref_eq := h.ref_eq
  writes := h.writes
  concrete other hother hne := by
    obtain ⟨source, hsource, hconcrete⟩ := h.concrete other hother hne
    refine ⟨source, ?_, hconcrete⟩
    rw [byId?_reset, hsource, Option.map_some, DataObject.reset, hconcrete,
      if_neg Bool.false_ne_true]

/-- No other node writes the image. -/
theorem node_eq (h : graph.Fixed data object fixed writer binding)
    (hbalanced : graph.ledger.Balanced) {node : Node} (hnode : node ∈ graph.nodes)
    (hwrites : data ∈ node.writes) : node = writer := by
  have hmem : node.id ∈ graph.writingNodes data :=
    List.mem_map_of_mem (List.mem_filter.2 ⟨hnode, List.contains_iff_mem.2 hwrites⟩)
  rw [h.writers_eq, List.mem_singleton] at hmem
  exact List.inj_on_of_nodup_map (nodup_nodeIds hbalanced) hnode h.mem_nodes hmem

/-- No other slot of the node holds the image. -/
theorem binding_eq (h : graph.Fixed data object fixed writer binding) {other : Binding}
    (hother : other ∈ writer.bindings) (hid : other.ref.id = data) : other = binding := by
  by_contra hne
  obtain ⟨source, hsource, hconcrete⟩ := h.concrete other hother hne
  rw [hid, h.live] at hsource
  cases hsource
  rw [h.isVirtual] at hconcrete
  cases hconcrete

theorem isSome_shape? (h : graph.Fixed data object fixed writer binding) {other : Binding}
    (hother : other ∈ writer.bindings) (hne : other ≠ binding) :
    (graph.shape? other.ref.id).isSome = true := by
  obtain ⟨source, hsource, hconcrete⟩ := h.concrete other hother hne
  rw [shape?, hsource, Option.bind_some]
  exact DataObject.isSome_descriptor?_of_concrete hconcrete

/-! ## The visit of the node -/

/-- The node is ready from the start. -/
theorem isReady (h : start.Fixed data object fixed writer binding)
    (hbalanced : start.ledger.Balanced) (houtput : binding.direction = .output)
    (hgrown : start.Revised DataObject.Grown now) : Verification.isReady now writer = true := by
  refine (isReady_iff fun other hother ↦ ?_).2 fun read hread ↦ ?_
  · obtain ⟨arena, harena, rfl⟩ := hgrown
    exact (scope_of_mem_bindings hbalanced h.mem_nodes hother).trans harena.graph_eq.symm
  · obtain ⟨other, hother, rfl⟩ := List.mem_map.1 hread
    obtain ⟨hother, hreads⟩ := List.mem_filter.1 hother
    refine isSome_shape?_grown hgrown (h.isSome_shape? hother fun hsame ↦ ?_)
    rw [hsame, houtput] at hreads
    cases hreads

/-- As long as the image lacks a shape, the kernel is shown the same. -/
theorem inspect_eq (h : start.Fixed data object fixed writer binding)
    (hbalanced : start.ledger.Balanced) (hsound : start.SoundObjects)
    (hgrown : start.Revised DataObject.Grown now) (hlacks : now.arena.byId? data = some object) :
    inspect now writer = inspect start writer := by
  have hscope : ∀ other ∈ writer.bindings, other.ref.graph = start.arena.graph :=
    fun _ ↦ scope_of_mem_bindings hbalanced h.mem_nodes
  rw [inspect_redrafted hsound (hgrown.mono DataObject.Grown.redrafted) hscope,
    inspect_redrafted hsound (.refl .refl start) hscope, Node.viewed, Node.viewed]
  congr 1
  refine List.map_congr_left fun other hother ↦ ?_
  by_cases hsame : other = binding
  · rw [hsame, h.ref_eq, shape?, shape?, hlacks, h.live]
  · exact (shape?_eq_of_grown hgrown (h.isSome_shape? hother hsame)).symm

/-- The shape that the kernel infers for the image, or else the one that was fixed. -/
theorem infers?_eq (h : graph.Fixed data object fixed writer binding) (view : Inspection) :
    writer.infers? view binding.slot object =
      some ((writer.kernel.kernel.infer binding.slot view).getD fixed) := by
  rw [Node.infers?, h.complete]
  cases writer.kernel.kernel.infer binding.slot view <;> rfl

/-- The image has no shape, or the one that follows from what the node reads. -/
theorem keptByVisits (h : start.Fixed data object fixed writer binding)
    (hbalanced : start.ledger.Balanced) (hsound : start.SoundObjects)
    (hpending : object.state = .pending) :
    KeptByVisits fun now waiting ↦ start.Reached now waiting ∧
      (now.arena.byId? data = some object ∨ now.arena.byId? data = some
        { object with
          state := .resolved
            ((writer.kernel.kernel.infer binding.slot (inspect start writer)).getD fixed) }) where
  perm now waiting waiting' hperm hnow :=
    ⟨(keptByVisits_reached hbalanced).perm now waiting waiting' hperm hnow.1, hnow.2⟩
  visit draft mid after node waiting shapes hnow hnode hready hinfer hresolve := by
    obtain ⟨hreached, hdata⟩ := hnow
    refine ⟨(keptByVisits_reached hbalanced).visit draft mid after node waiting shapes hreached
      hnode hready hinfer hresolve, ?_⟩
    rw [hreached.grown.nodes_eq] at hnode
    have hvisited := visited_of_run
      (Node.nodup_outputs (hbalanced.unaliased _ (List.mem_map_of_mem hnode))) hinfer hresolve
    by_cases houtput : data ∈ node.outputs
    · obtain rfl := h.node_eq hbalanced hnode (Node.mem_writes_of_mem_outputs houtput)
      obtain ⟨other, hother, hdirection, hid⟩ := Node.mem_outputs_iff.1 houtput
      obtain rfl := h.binding_eq hother hid
      rcases hdata with hlacks | hshaped
      · obtain ⟨descriptor, hinfers, -, hafter⟩ := hvisited.outputs other hother object
          ⟨hdirection, hid ▸ hlacks, hpending⟩
        rw [h.inspect_eq hbalanced hsound hreached.grown hlacks, h.infers?_eq] at hinfers
        cases hinfers
        exact .inr (hid ▸ hafter)
      · obtain ⟨arena, harena, hgraph⟩ := hvisited.grown
        obtain ⟨kept, hkept, hgrown⟩ := harena.some_of_some hshaped
        rcases hgrown with rfl | ⟨hlacks, -⟩
        · exact .inr (hgraph ▸ hkept)
        · cases hlacks
    · rw [hvisited.others data houtput]
      exact hdata

/-- No visit finds the image without a shape that could be given to it. -/
theorem ne_of_faults (h : start.Fixed data object fixed writer binding)
    (hbalanced : start.ledger.Balanced) {waiting : List NodeId}
    (hreached : start.Reached now waiting) {node : Node} (hnode : node ∈ start.nodes)
    {e : VerifyError} (hfaults : node.Faults now e) (reason : String) :
    e ≠ .unresolvableVirtual data reason := by
  intro hreason
  cases hfaults with
  | @unknown other lacking hother hlacks hinfers =>
    have hid : other.ref.id = data := (VerifyError.unresolvableVirtual.inj hreason).1
    obtain rfl := h.node_eq hbalanced hnode (Node.mem_writes_of_mem_outputs
      (Node.mem_outputs_iff.2 ⟨other, hother, hlacks.output, hid⟩))
    obtain ⟨arena, harena, rfl⟩ := hreached.grown
    obtain ⟨origin, horigin, hgrown⟩ := harena.of_some (hid ▸ hlacks.live)
    cases h.live.symm.trans horigin
    have hhint := (DataObject.Grown.redrafted _ _ hgrown).hint_eq
    rw [Node.infers?, hhint, h.complete, Option.orElse_eq_none] at hinfers
    cases hinfers.2
  | refused _ hlacks _ hrefused =>
    rcases DataObject.resolve_eq_error hlacks.pending hrefused with
      ⟨_, -, rfl⟩ | ⟨_, -, -, rfl⟩ <;> cases hreason

/-! ## What the search finds -/

section Search

variable (h : draft.graph.Fixed data object fixed writer binding)
  (hbalanced : draft.graph.ledger.Balanced)
include h hbalanced

/-- The search passes only if the node does not read the image. -/
theorem output_of_resolveVirtuals (hrun : resolveVirtuals.run draft = (.ok warnings, last)) :
    binding.direction = .output := by
  obtain ⟨maker, hmaker, houtput⟩ := virtualsMade_of_resolveVirtuals hbalanced hrun data
    ⟨⟨object, h.live, h.isVirtual⟩, writer, h.mem_nodes, binding, h.mem_bindings, h.ref_eq⟩
  obtain rfl := h.node_eq hbalanced hmaker (Node.mem_writes_of_mem_outputs houtput)
  obtain ⟨other, hother, hdirection, hid⟩ := Node.mem_outputs_iff.1 houtput
  rwa [h.binding_eq hother hid] at hdirection

theorem byId?_of_resolveVirtuals (hsound : draft.graph.SoundObjects)
    (hrun : resolveVirtuals.run draft = (.ok warnings, last)) :
    let shape := (writer.kernel.kernel.infer binding.slot
      (inspect draft.graph.reset writer)).getD fixed
    object.Takes shape ∧ last.graph.arena.byId? data =
      some { object with state := .resolved shape, payload := none } := by
  have hbalanced' : draft.graph.reset.ledger.Balanced := draft.graph.ledger_reset ▸ hbalanced
  have hsound' := hsound.of_redrafted draft.graph.redrafted_reset
  obtain ⟨still, -, ⟨-, hfound⟩, -⟩ := (h.reset.keptByVisits hbalanced' hsound' rfl).resolvePasses
    ⟨reached_start _, .inl h.reset.live⟩ (resolveVirtuals_eq_ok_iff.1 hrun).1
  obtain ⟨descriptor, htakes, hlast⟩ := shaped_of_resolveVirtuals hbalanced hrun
    ⟨⟨object, h.live, h.isVirtual⟩, writer, h.mem_nodes, binding, h.mem_bindings, h.ref_eq⟩ h.live
  rw [hlast] at hfound
  rcases hfound with hlacks | hshaped
  · cases hlacks
  · cases hshaped
    exact ⟨htakes, hlast⟩

/-- The search does not end because the image cannot be resolved. -/
theorem blames_resolveVirtuals (houtput : binding.direction = .output) :
    Blames (fun e ↦ ∀ reason, e ≠ .unresolvableVirtual data reason) resolveVirtuals draft := by
  have hbalanced' : draft.graph.reset.ledger.Balanced := draft.graph.ledger_reset ▸ hbalanced
  refine Verification.blames_resolveVirtuals (keptByVisits_reached hbalanced')
    (fun now node waiting hreached hnode _ ↦ ⟨hreached.balanced hbalanced', fun e hfaults ↦
      h.reset.ne_of_faults hbalanced' hreached (hreached.grown.nodes_eq ▸ hnode) hfaults⟩)
    (reached_start _) fun mid hpasses stuck hstuck _ reason hreason ↦ ?_
  obtain ⟨still, hreached, hidle⟩ := reached_of_resolvePasses hbalanced hpasses
  obtain ⟨-, -, hnone⟩ := of_mem_unresolved (hreached.balanced hbalanced') hstuck
  have hid : stuck.id = data := by
    unfold stuckError at hreason
    split at hreason
    · exact (VerifyError.unresolvableVirtual.inj hreason).1
    · split at hreason
      · cases hreason
      · exact (VerifyError.unresolvableVirtual.inj hreason).1
  -- The node was ready, so it has been visited, and the image is not among those that are left.
  have hvisited := hreached.visited_of_ready hidle hbalanced' h.mem_nodes
    (h.reset.isReady hbalanced' houtput hreached.grown)
  have hsome := hreached.made writer h.mem_nodes hvisited data
    (Node.mem_outputs_iff.2 ⟨binding, h.mem_bindings, houtput, h.ref_eq⟩)
  rw [← hid, hnone] at hsome
  cases hsome

end Search

end Fixed

/-! ## The stages after the search -/

/-- Once the search has passed, no stage says of any object that it cannot be resolved. -/
theorem blames_rest_of_resolveVirtuals (hbalanced : draft.graph.ledger.Balanced)
    (hrun : resolveVirtuals.run draft = (.ok warnings, last)) (report : VerifyReport) :
    Blames (fun e ↦ ∀ data reason, e ≠ .unresolvableVirtual data reason)
      (Stage.runAll report [.parameters, .topology, .planning]) last := by
  have hredrafted := (redrafted_resolveVirtuals draft).graph
  rw [hrun] at hredrafted
  have hbalanced' : last.graph.ledger.Balanced := ledger_eq_of_redrafted hredrafted ▸ hbalanced
  have hknown : ∀ node ∈ last.graph.nodes, ∀ binding ∈ node.bindings,
      (last.graph.shape? binding.ref.id).isSome = true := fun node hnode binding ↦
    isSome_shape?_of_resolveVirtuals hbalanced hrun (hredrafted.nodes_eq ▸ hnode)
  apply blames_rest
  · intro node hnode e hchecked data reason hreason
    obtain ⟨_, -, _, -, -, rfl⟩ :=
      exists_refusal_of_checkSlots hbalanced' hnode (hknown node hnode) hchecked
    cases hreason
  · exact fun _ _ _ _ _ _ hreason ↦ nomatch hreason
  · intro e hcontested data reason hreason
    unfold checkSingleWriter at hcontested
    split at hcontested
    · cases hcontested
      cases hreason
    · cases hcontested
  · intro e hcyclic data reason hreason
    unfold topologicalOrder at hcyclic
    split at hcyclic
    · cases hcyclic
    · cases hcyclic
      cases hreason
  · intro ordered hordered
    refine blames_makePlan (fun _ _ _ _ _ _ hreason ↦ nomatch hreason)
      (fun data hdata object hobject ↦ ?_) fun _ _ _ _ _ _ _ _ _ hreason ↦ nomatch hreason
    rw [hordered] at hdata hobject
    exact descriptor?_ne_none_of_mem_lifetimes hbalanced' hknown hdata hobject

namespace Fixed

variable (h : graph.Fixed data object fixed writer binding) (hbalanced : graph.ledger.Balanced)
include h hbalanced

theorem ne_of_runStages (houtput : binding.direction = .output) {e : VerifyError}
    (hfailed : (graph.runStages Stage.standard).result = .error (.failed e)) (reason : String) :
    e ≠ .unresolvableVirtual data reason := by
  refine @of_runStages_failed (fun e ↦ ∀ reason, e ≠ .unresolvableVirtual data reason) _ _ _ ?_
    hfailed reason
  rw [Stage.standard, Stage.runAll]
  refine blames_bind (h.blames_resolveVirtuals hbalanced houtput) fun _ resolved hrun ↦ ?_
  exact fun e ended hended ↦ blames_rest_of_resolveVirtuals hbalanced hrun _ e ended hended data

/-- An image that the node reads as well keeps the graph from being verified. -/
theorem isOk_runStages_of_ne_output (hdirection : binding.direction ≠ .output) :
    (graph.runStages Stage.standard).result.isOk = false := by
  refine Bool.eq_false_iff.2 fun hok ↦ hdirection ?_
  obtain ⟨report, last, hrun⟩ := isOk_runStages_iff.1 hok
  rw [Stage.standard, Stage.runAll] at hrun
  obtain ⟨warnings, resolved, hresolve, -⟩ := bind_ok_iff.1 hrun
  exact h.output_of_resolveVirtuals hbalanced hresolve

end Fixed

end Graph

/-! ## Every graph -/

namespace Call

/-- What was fixed of an image is enough, whatever has happened to the graph before and whatever its
kernels answer, if the one node that writes the image does not read it. If it does, the graph cannot
be verified. -/
theorem fixed_applyAll (id : GraphId) (context : Context) (calls : List Call)
    {verification : Graph → VerificationResult}
    (hverification : verification = Graph.verify ∨
      verification = (Graph.verifyWith · Stage.standard))
    {data : DataId} {object : DataObject} {fixed : Descriptor} {writer : Node} {binding : Binding}
    (h : (applyAll (.empty id context) calls).Fixed data object fixed writer binding) :
    let graph := applyAll (.empty id context) calls
    (binding.direction = .output →
      (∀ reason, (verification graph).result ≠
        .error (.failed (.unresolvableVirtual data reason))) ∧
      ∀ draft warnings last, draft.graph = graph ∨ draft.graph = graph.invalidate →
        resolveVirtuals.run draft = (.ok warnings, last) →
        let shape := (writer.kernel.kernel.infer binding.slot
          (inspect graph.reset writer)).getD fixed
        object.Takes shape ∧ last.graph.arena.byId? data =
          some { object with state := .resolved shape, payload := none }) ∧
      (binding.direction = .bidirectional →
        (graph.verifyWith Stage.standard).result.isOk = false) := by
  have hsound := soundObjects_applyAll id context calls
  have hsettled := settled_applyAll (settled_empty id context) calls
  have hbalanced := balanced_applyAll id context calls
  generalize applyAll (.empty id context) calls = graph at *
  have h' : graph.invalidate.Fixed data object fixed writer binding := { h with }
  refine ⟨fun houtput ↦ ⟨fun reason hfailed ↦ ?_, ?_⟩, fun hdirection ↦ ?_⟩
  · have hstages : (graph.verifyWith Stage.standard).result =
        .error (.failed (.unresolvableVirtual data reason)) := by
      rcases hverification with rfl | rfl
      · rw [hsettled.verify_eq_of_failed hfailed] at hfailed
        exact hfailed
      · exact hfailed
    exact h'.ne_of_runStages hbalanced houtput hstages reason rfl
  · rintro ⟨start, plan, events⟩ warnings last (rfl | rfl) hrun
    · exact h.byId?_of_resolveVirtuals hbalanced hsound hrun
    · exact h'.byId?_of_resolveVirtuals hbalanced hsound hrun
  · refine h'.isOk_runStages_of_ne_output hbalanced ?_
    rw [hdirection]
    decide

/-- Calls that let a kernel which infers nothing fill an image that was fixed. -/
def filling : List Call :=
  let ref (data : Nat) : DataRef := { graph := ⟨0⟩, id := ⟨data⟩ }
  [.operation (.createScalar (.u32 7)),
    .operation (.createVirtualImage { format := some .u8, width := some 2, height := some 1 }),
    .operation (.addNodeWithKernel { id := ⟨0⟩, kernel := Kernels.fill } [ref 0, ref 1])]

/-- A virtual image that was fixed, held by one slot of the first node. -/
def fixedImage (id : DataId) : DataObject :=
  { DataObject.virtual id (some { format := some .u8, width := some 2, height := some 1 }) with
    constraints := [(⟨0⟩, .anyImage)]
    slotRefs := 1 }

theorem fixed_filling :
    (applyAll (.empty ⟨0⟩ Operation.plainContext) filling).Fixed ⟨1⟩ (fixedImage ⟨1⟩)
      (.image 2 1 .u8)
      (.fresh ⟨0⟩ { id := ⟨0⟩, kernel := Kernels.fill }
        [{ graph := ⟨0⟩, id := ⟨0⟩ }, { graph := ⟨0⟩, id := ⟨1⟩ }])
      { slot := 1, ref := { graph := ⟨0⟩, id := ⟨1⟩ }, direction := .output } where
  live := rfl
  isVirtual := rfl
  complete := rfl
  mem_nodes := List.mem_singleton.2 rfl
  writers_eq := rfl
  mem_bindings := by decide
  ref_eq := rfl
  writes := rfl
  concrete := by decide

theorem resolved_filling :
    let graph := applyAll (.empty ⟨0⟩ Operation.plainContext) filling
    graph.verify.result.isOk = true ∧
      (∀ reason, graph.verify.result ≠ .error (.failed (.unresolvableVirtual ⟨1⟩ reason))) ∧
      ∀ warnings last,
        resolveVirtuals.run { graph, plan := .empty, events := [] } = (.ok warnings, last) →
          last.graph.arena.byId? ⟨1⟩ =
            some { fixedImage ⟨1⟩ with state := .resolved (.image 2 1 .u8) } := by
  obtain ⟨hnever, hfound⟩ :=
    (fixed_applyAll ⟨0⟩ Operation.plainContext filling (.inl rfl) fixed_filling).1 rfl
  exact ⟨by decide +kernel, hnever, fun warnings last hrun ↦
    (hfound _ warnings last (.inl rfl) hrun).2⟩

/-- A kernel that updates an image in place. -/
def updater : Kernel :=
  Kernel.ofExecute
    { name := "updater"
      description := ""
      parameters :=
        [{ name := "io"
           direction := .bidirectional
           constraint := .anyImage
           description := none }]
      tags := [] }
    (pure ())

/-- Calls that let a kernel update a virtual image that was fixed. -/
def updating : List Call :=
  [.operation (.createVirtualImage { format := some .u8, width := some 2, height := some 1 }),
    .operation (.addNodeWithKernel { id := ⟨0⟩, kernel := updater }
      [{ graph := ⟨0⟩, id := ⟨0⟩ }])]

/-- The image was fixed and has one writer, which needs nothing else; it is not resolved. -/
theorem unresolved_updating :
    let graph := applyAll (.empty ⟨0⟩ Operation.plainContext) updating
    graph.Fixed ⟨0⟩ (fixedImage ⟨0⟩) (.image 2 1 .u8)
        (.fresh ⟨0⟩ { id := ⟨0⟩, kernel := updater } [{ graph := ⟨0⟩, id := ⟨0⟩ }])
        { slot := 0, ref := { graph := ⟨0⟩, id := ⟨0⟩ }, direction := .bidirectional } ∧
      graph.verify.result =
        .error (.failed (.unresolvableVirtual ⟨0⟩ "its producer never receives all inputs")) := by
  refine ⟨?_, by decide +kernel⟩
  exact
    { live := rfl
      isVirtual := rfl
      complete := rfl
      mem_nodes := List.mem_singleton.2 rfl
      writers_eq := rfl
      mem_bindings := by decide
      ref_eq := rfl
      writes := rfl
      concrete := by decide }

end Call

end ImageFlow
