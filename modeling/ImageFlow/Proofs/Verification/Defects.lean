import ImageFlow.Proofs.Cycle
import ImageFlow.Proofs.Session.Suited
import ImageFlow.Proofs.Verification.Blame
import ImageFlow.Proofs.Verification.Criterion
import ImageFlow.Proofs.Verification.PlanValidity

/-!
# Errors of a verification name defects of the graph

What the standard stages report is there: the object with two writers and no older one, the cycle,
the slot that refuses what was found for its virtual object, the virtual object that cannot be
resolved, the hint that an inferred shape disagrees with, the node that its kernel or every target
turns down. Some errors cannot occur at all, since what nodes hold is live, a shape is given only
where there was none, and a concrete object was checked when its node was added.
-/

namespace ImageFlow

open Stateful Verification

/-! ## Defects -/

namespace Graph

/-- The graph as a verification finds it once virtual objects have been given their shapes. -/
def shaped (graph : Graph) : Graph :=
  (resolveVirtuals.run { graph := graph.invalidate, plan := .empty, events := [] }).2.graph

/-- A live virtual object that some node is bound to. -/
def BoundVirtual (graph : Graph) (data : DataId) : Prop :=
  (∃ object, graph.arena.byId? data = some object ∧ object.isVirtual = true) ∧
    ∃ node ∈ graph.nodes, ∃ binding ∈ node.bindings, binding.ref.id = data

/-- The writers of an object, if there are two at least, and no older object has two. -/
structure FirstContested (graph : Graph) (data : DataId) (writers : List NodeId) : Prop where
  writers_eq : writers = graph.writingNodes data
  contested : 2 ≤ writers.length
  first : ∀ older : DataId, older.index < data.index → (graph.writingNodes older).length < 2

/-- A slot with a constraint that is bound to a virtual object, and that does not accept the shape
which was found for the object. -/
def Mismatches (graph : Graph) (id : NodeId) (slot : Nat) (expected : Constraint)
    (got : Descriptor) : Prop :=
  ∃ node ref parameter object found, graph.node? id = some node ∧ node.refs[slot]? = some ref ∧
    node.signature.parameters[slot]? = some parameter ∧ parameter.constraint = expected ∧
    graph.arena.byId? ref.id = some object ∧ object.isVirtual = true ∧
    graph.shaped.arena.byId? ref.id = some found ∧ found.state = .resolved got ∧
    expected.accepts got = false

end Graph

/-- What an error of a verification says about the graph. -/
def VerifyError.Names (graph : Graph) : VerifyError → Prop
  | unresolvableVirtual data reason =>
    graph.BoundVirtual data ∧ reason ≠ "unresolved when parameters were checked"
  | invalidReference _ => False
  | invalidData data reason =>
    graph.BoundVirtual data ∧ ∃ descriptor fault, Descriptor.fault? descriptor = some fault ∧
      reason = fault.message
  | invalidDescriptor _ => False
  | typeConflict data existing requested =>
    graph.BoundVirtual data ∧ ∃ object hint, graph.arena.byId? data = some object ∧
      object.hint = some hint ∧ existing = hint.shown ∧ hint.agreesWith requested = false
  | parameterTypeMismatch node slot expected got => graph.Mismatches node slot expected got
  | invalidParameters id kernel message =>
    ∃ node e, graph.node? id = some node ∧ node.kernelName = kernel ∧
      node.kernel.kernel.validate (inspect graph.shaped node) = .error e ∧ message = e.message
  | multipleWriters data writers => graph.FirstContested data writers
  | cyclicGraph _ => Precedence.Cyclic graph.edges
  | noTarget id kernel =>
    ∃ node, graph.node? id = some node ∧ node.kernelName = kernel ∧ node.affinity = none ∧
      graph.context.assign kernel = none
  | preparationFailed id kernel message =>
    ∃ node e, graph.node? id = some node ∧ node.kernelName = kernel ∧
      node.kernel.kernel.prepare (inspect graph.shaped node) = .error e ∧ message = e.message

theorem DataObject.isSome_descriptor?_of_concrete {object : DataObject}
    (hconcrete : object.isVirtual = false) : object.descriptor?.isSome = true := by
  revert hconcrete
  unfold isVirtual descriptor?
  cases object.state <;> simp

theorem DataObject.concrete_of_descriptor? {object : DataObject} {descriptor : Descriptor}
    (hconcrete : object.isVirtual = false) (h : object.descriptor? = some descriptor) :
    object.state = .concrete descriptor := by
  revert hconcrete h
  unfold isVirtual descriptor?
  cases object.state <;> simp

theorem DataObject.resolved_of_descriptor? {object : DataObject} {descriptor : Descriptor}
    (hvirtual : object.isVirtual = true) (h : object.descriptor? = some descriptor) :
    object.state = .resolved descriptor := by
  revert hvirtual h
  unfold isVirtual descriptor?
  cases object.state <;> simp

namespace Graph

variable {graph now : Graph} {node : Node} {data : DataId} {object : DataObject} {e : VerifyError}

/-! ## Structure -/

theorem firstContested_of_checkSingleWriter (hbalanced : graph.ledger.Balanced)
    (h : graph.checkSingleWriter = .error e) : e.Names graph := by
  unfold checkSingleWriter at h
  split at h
  · next data writers hfound =>
    cases h
    obtain ⟨hmany, before, after, hproducers, hbefore⟩ := List.find?_eq_some_iff_append.1 hfound
    obtain ⟨hwriters, -⟩ := (mem_producers_iff hbalanced).1 (List.mem_of_find?_eq_some hfound)
    refine ⟨hwriters, of_decide_eq_true hmany, fun older holder ↦ ?_⟩
    by_contra hcontested
    have hne : graph.writingNodes older ≠ [] := fun hnil ↦ by simp [hnil] at hcontested
    have hentry := (mem_producers_iff hbalanced).2 ⟨rfl, hne⟩
    have hsorted : Ordered.Sorted (graph.producers.map Prod.fst) := hbalanced.sorted
    rw [hproducers] at hentry hsorted
    -- Producers are sorted by object, so the entry of an older one stands before.
    rcases List.mem_append.1 hentry with hin | hin
    · have hfew := hbefore _ hin
      simp only [Bool.not_eq_true', decide_eq_false_iff_not] at hfew
      omega
    · rw [List.map_append, List.map_cons] at hsorted
      have hlater := (List.pairwise_cons.1 (List.pairwise_append.1 hsorted).2.1).1
      rcases List.mem_cons.1 hin with heq | hin
      · cases heq
        exact absurd holder (Nat.lt_irrefl _)
      · have hlt : compare data.index older.index = .lt :=
          hlater older (List.mem_map_of_mem (f := Prod.fst) hin)
        have := Nat.compare_eq_lt.1 hlt
        omega
  · cases h

theorem names_of_topologicalOrder (hbalanced : graph.ledger.Balanced)
    (h : graph.topologicalOrder = .error e) : e.Names graph := by
  unfold topologicalOrder at h
  split at h
  · cases h
  · next hnone =>
    cases h
    exact (Precedence.order?_eq_none_iff (simple hbalanced)).1 hnone

/-- What the third stage looks at does not depend on the objects. -/
theorem structure_of_revised {R : DataObject → DataObject → Prop} (h : graph.Revised R now) :
    now.checkSingleWriter = graph.checkSingleWriter ∧
      now.topologicalOrder = graph.topologicalOrder := by
  obtain ⟨arena, -, rfl⟩ := h
  exact ⟨rfl, rfl⟩

/-! ## Shapes -/

theorem boundVirtual_of_redrafted (h : graph.Revised DataObject.Redrafted now)
    (hnode : node ∈ graph.nodes) {binding : Binding} (hbinding : binding ∈ node.bindings)
    (hobject : now.arena.byId? binding.ref.id = some object) (hvirtual : object.isVirtual = true) :
    graph.BoundVirtual binding.ref.id := by
  obtain ⟨arena, harena, rfl⟩ := h
  obtain ⟨origin, horigin, hrel⟩ := harena.of_some hobject
  exact ⟨⟨origin, horigin, hrel.isVirtual_eq.symm.trans hvirtual⟩, node, hnode, binding,
    hbinding, rfl⟩

/-- The text has a letter that the texts of all other reasons lack. -/
theorem mem_toList_of_cannotInfer (node : Node) (binding : Binding) {reason : String}
    (h : cannotInfer node binding = .unresolvableVirtual data reason) : 'f' ∈ reason.toList := by
  cases h
  simp

theorem names_of_faults (hbalanced : graph.ledger.Balanced)
    (hnow : graph.Revised DataObject.Redrafted now) (hnode : node ∈ graph.nodes)
    (h : node.Faults now e) : e.Names graph := by
  have hbound {binding : Binding} (hbinding : binding ∈ node.bindings) {object : DataObject}
      (hlacks : now.Lacks binding object) : graph.BoundVirtual binding.ref.id :=
    boundVirtual_of_redrafted hnow hnode hbinding hlacks.live (by
      rw [DataObject.isVirtual, hlacks.pending])
  cases h with
  | @unknown binding _ hbinding hlacks =>
    refine ⟨hbound hbinding hlacks, fun hreason ↦ ?_⟩
    have hletter := mem_toList_of_cannotInfer node binding rfl
    rw [hreason] at hletter
    exact absurd hletter (by decide)
  | @refused binding object descriptor _ hbinding hlacks _ hrefused =>
    have hvirtual := hbound hbinding hlacks
    rcases DataObject.resolve_eq_error hlacks.pending hrefused with
      ⟨fault, hfault, rfl⟩ | ⟨hint, hhint, hdisagrees, rfl⟩
    · exact ⟨hvirtual, descriptor, fault, hfault, rfl⟩
    · have hplaced : object.id = binding.ref.id := by
        have hledger := ledger_eq_of_redrafted hnow
        exact hbalanced.placed _ object.account (hledger ▸ account_of_byId? hlacks.live)
      obtain ⟨arena, harena, rfl⟩ := hnow
      obtain ⟨origin, horigin, hrel⟩ := harena.of_some hlacks.live
      rw [← hplaced] at hvirtual horigin
      exact ⟨hvirtual, origin, hint, horigin, hrel.hint_eq.symm.trans hhint, rfl, hdisagrees⟩

theorem names_stuckError (hbalanced : graph.ledger.Balanced)
    (h : graph.Revised DataObject.Redrafted now) (hobject : object ∈ unresolved now)
    (hbound : object.constraints ≠ []) : (stuckError now object.id).Names graph := by
  have hbalanced' : now.ledger.Balanced := ledger_eq_of_redrafted h ▸ hbalanced
  obtain ⟨hlive, hvirtual, -⟩ := of_mem_unresolved hbalanced' hobject
  have hvirtual' : graph.BoundVirtual object.id := by
    obtain ⟨node, hnode, binding, hbinding, hid⟩ :=
      (constraints_ne_nil_iff hbalanced' hlive hvirtual).1 hbound
    rw [← hid] at hlive ⊢
    exact boundVirtual_of_redrafted h (h.nodes_eq ▸ hnode) hbinding hlive hvirtual
  unfold stuckError
  split
  · exact ⟨hvirtual', by decide⟩
  · split
    · next nodes hcyclic =>
      rw [(structure_of_revised h).2] at hcyclic
      exact names_of_topologicalOrder hbalanced hcyclic
    · exact ⟨hvirtual', by decide⟩

/-! ## Slots -/

theorem slot_of_mem_zip {entry : Binding × Parameter}
    (h : entry ∈ node.bindings.zip node.signature.parameters) :
    node.refs[entry.1.slot]? = some entry.1.ref ∧
      node.signature.parameters[entry.1.slot]? = some entry.2 := by
  obtain ⟨index, hindex⟩ := List.getElem?_of_mem h
  obtain ⟨hbinding, hparameter⟩ := List.getElem?_zip_eq_some.1 hindex
  rw [Node.getElem?_bindings] at hbinding
  obtain ⟨slot, hslot, hentry⟩ := Option.map_eq_some_iff.1 hbinding
  obtain ⟨href, -⟩ := List.getElem?_zip_eq_some.1 hslot
  rw [← hentry]
  exact ⟨href, hparameter⟩

theorem exists_binding_of_mem_refs (hbalanced : graph.ledger.Balanced) (hnode : node ∈ graph.nodes)
    {ref : DataRef} (href : ref ∈ node.refs) : ∃ binding ∈ node.bindings, binding.ref = ref := by
  have hcomplete : node.refs.length = node.signature.parameters.length :=
    hbalanced.complete _ (List.mem_map_of_mem hnode)
  have hslots : node.wiring.slots.map Prod.fst = node.refs :=
    List.map_fst_zip (Nat.le_of_eq hcomplete)
  rw [← hslots] at href
  obtain ⟨entry, hentry, rfl⟩ := List.mem_map.1 href
  obtain ⟨binding, hbinding, hsame⟩ := Node.exists_mem_zip_bindings hentry
  exact ⟨binding, (List.of_mem_zip hbinding).1, hsame⟩

theorem holds_iff (hbalanced : graph.ledger.Balanced) : graph.holds data = true ↔
    ∃ node ∈ graph.nodes, ∃ binding ∈ node.bindings, binding.ref.id = data := by
  simp only [holds, List.any_eq_true, beq_iff_eq]
  constructor
  · rintro ⟨node, hnode, ref, href, rfl⟩
    obtain ⟨binding, hbinding, rfl⟩ := exists_binding_of_mem_refs hbalanced hnode href
    exact ⟨node, hnode, binding, hbinding, rfl⟩
  · rintro ⟨node, hnode, binding, hbinding, rfl⟩
    exact ⟨node, hnode, binding.ref, Node.ref_mem_of_mem_bindings hbinding, rfl⟩

/-- Once all objects of a node have a shape, the check of its slots can only fail at a slot that
refuses a shape. -/
theorem exists_refusal_of_checkSlots (hbalanced : graph.ledger.Balanced)
    (hnode : node ∈ graph.nodes)
    (hknown : ∀ binding ∈ node.bindings, (graph.shape? binding.ref.id).isSome = true)
    (h : checkSlots graph node (node.bindings.zip node.signature.parameters) = .error e) :
    ∃ entry ∈ node.bindings.zip node.signature.parameters, ∃ descriptor,
      graph.shape? entry.1.ref.id = some descriptor ∧
        entry.2.constraint.accepts descriptor = false ∧
        e = .parameterTypeMismatch node.id entry.1.slot entry.2.constraint descriptor := by
  obtain ⟨entry, hentry, hcause⟩ := checkSlots_eq_error h
  have hbinding := (List.of_mem_zip hentry).1
  rw [descriptorOf?_of_scope (scope_of_mem_bindings hbalanced hnode hbinding)] at hcause
  rcases hcause with hnone | hrefusal
  · have hsome := hknown entry.1 hbinding
    rw [hnone] at hsome
    cases hsome
  · exact ⟨entry, hentry, hrefusal⟩

/-- A slot that refuses the shape of its object refuses a shape that was found for the object, since
a concrete object suited the slot from the start. -/
theorem mismatches_of_checkSlots (hbalanced : graph.ledger.Balanced) (hsound : graph.SoundObjects)
    (hsuited : graph.Suited) (hshaped : graph.Revised DataObject.Redrafted graph.shaped)
    (hknown : ∀ binding ∈ node.bindings, (graph.shaped.shape? binding.ref.id).isSome = true)
    (hnode : node ∈ graph.nodes)
    (h : checkSlots graph.shaped node (node.bindings.zip node.signature.parameters) = .error e) :
    e.Names graph := by
  obtain ⟨⟨binding, parameter⟩, hentry, descriptor, hdescriptor, hrefuses, rfl⟩ :=
    exists_refusal_of_checkSlots (ledger_eq_of_redrafted hshaped ▸ hbalanced)
      (hshaped.nodes_eq.symm ▸ hnode) hknown h
  obtain ⟨href, hparameter⟩ := slot_of_mem_zip hentry
  obtain ⟨found, hfound, hshape⟩ := Option.bind_eq_some_iff.1 hdescriptor
  obtain ⟨object, hobject, hrel⟩ : ∃ object, graph.arena.byId? binding.ref.id = some object ∧
      object.Redrafted found := by
    obtain ⟨arena, harena, hgraph⟩ := hshaped
    rw [hgraph] at hfound
    exact harena.of_some hfound
  have hresolved : object.isVirtual = true ∧ found.state = .resolved descriptor := by
    cases hvirtual : object.isVirtual with
    | true =>
      exact ⟨rfl, DataObject.resolved_of_descriptor? (hrel.isVirtual_eq.trans hvirtual) hshape⟩
    | false =>
      obtain rfl : found = object :=
        hrel.concrete hvirtual ((hsound _ object hobject).concrete hvirtual).1
      have hslot : (binding.ref, parameter) ∈ node.wiring.slots :=
        List.mem_of_getElem? (List.getElem?_zip_eq_some.2 ⟨href, hparameter⟩)
      have haccepts := hsuited node.wiring (List.mem_map_of_mem hnode) _ hslot found descriptor
        hobject (DataObject.concrete_of_descriptor? hvirtual hshape)
      rw [hrefuses] at haccepts
      cases haccepts
  exact ⟨node, binding.ref, parameter, object, found,
    (node?_eq_some_iff (nodup_nodeIds hbalanced)).2 ⟨hnode, rfl⟩, href, hparameter, rfl, hobject,
    hresolved.1, hfound, hresolved.2, hrefuses⟩

/-! ## Stages -/

theorem node?_of_revised {R : DataObject → DataObject → Prop} (h : graph.Revised R now)
    (id : NodeId) : now.node? id = graph.node? id := by
  rw [node?, h.nodes_eq, node?]

/-- What an order uses has a shape once all objects of all nodes have one. -/
theorem descriptor?_ne_none_of_mem_lifetimes (hbalanced : graph.ledger.Balanced)
    (hknown : ∀ node ∈ graph.nodes, ∀ binding ∈ node.bindings,
      (graph.shape? binding.ref.id).isSome = true)
    {order : List NodeId} (hdata : data ∈ (lifetimes graph order).map Prod.fst)
    (hobject : graph.arena.byId? data = some object) : object.descriptor? ≠ none := by
  intro hnone
  obtain ⟨id, -, node, hnode, ref, href, rfl⟩ := mem_lifetimes_iff.1 hdata
  have hmem : node ∈ graph.nodes := List.mem_of_find?_eq_some hnode
  obtain ⟨binding, hbinding, rfl⟩ := exists_binding_of_mem_refs hbalanced hmem href
  have hsome := hknown node hmem binding hbinding
  rw [shape?, hobject, Option.bind_some, hnone] at hsome
  cases hsome

theorem blames_planning {draft : Draft} (hbalanced : graph.ledger.Balanced)
    (hsound : graph.SoundObjects) (hshaped : graph.Revised DataObject.Redrafted graph.shaped)
    (hknown : ∀ node ∈ graph.nodes, ∀ binding ∈ node.bindings,
      (graph.shaped.shape? binding.ref.id).isSome = true)
    (hdraft : draft.graph = graph.shaped) : Blames (·.Names graph) makePlan draft := by
  have hnode? (id : NodeId) : graph.shaped.node? id = graph.node? id := node?_of_revised hshaped id
  have hcontext : graph.shaped.context = graph.context := by
    obtain ⟨arena, -, hgraph⟩ := hshaped
    rw [hgraph]
  apply blames_makePlan <;> rw [hdraft]
  · intro id node hnode hnone
    rw [hnode?] at hnode
    rw [hcontext] at hnone
    obtain ⟨haffinity, hassign⟩ := (Option.orElse_eq_none _ _).1 hnone
    exact ⟨node, hnode, rfl, haffinity, hassign⟩
  · exact fun data hdata object ↦ descriptor?_ne_none_of_mem_lifetimes
      (ledger_eq_of_redrafted hshaped ▸ hbalanced) (hshaped.nodes_eq.symm ▸ hknown) hdata
  · intro last hlast id node hnode e he
    rw [node?_of_revised hlast, hnode?] at hnode
    rw [inspect_allocated (hsound.of_redrafted hshaped) hlast] at he
    exact ⟨node, e, hnode, rfl, he, rfl⟩

/-- Whatever the standard stages end with names a defect. -/
theorem blames_standard (hbalanced : graph.ledger.Balanced) (hsound : graph.SoundObjects)
    (hsuited : graph.Suited) (hfresh : graph.invalidate = graph) (report : VerifyReport) :
    Blames (·.Names graph) (Stage.runAll report Stage.standard)
      { graph, plan := .empty, events := [] } := by
  have hnode? {id : NodeId} {node : Node} (hnode : node ∈ graph.nodes) (hid : node.id = id) :
      graph.node? id = some node := (node?_eq_some_iff (nodup_nodeIds hbalanced)).2 ⟨hnode, hid⟩
  rw [Stage.standard, Stage.runAll]
  refine blames_bind (blames_resolveVirtuals (keptByVisits_redrafted graph)
    (fun now node _ hnow hnode _ ↦ ⟨ledger_eq_of_redrafted hnow ▸ hbalanced, fun e ↦
      names_of_faults hbalanced hnow (hnow.nodes_eq ▸ hnode)⟩) graph.redrafted_reset
    fun mid hrun object ↦ names_stuckError hbalanced ?_) fun _ resolved hresolve ↦ ?_
  · have hpasses := (redrafted_resolvePasses (graph.nodeIds.length + 1) graph.nodeIds
      { graph := graph.reset, plan := .empty, events := [] }).graph
    rw [hrun] at hpasses
    exact graph.redrafted_reset.trans DataObject.Redrafted.trans hpasses
  have hshaped : resolved.graph = graph.shaped := by
    rw [shaped, hfresh, show resolveVirtuals.run _ = _ from hresolve]
  have hredrafted : graph.Revised DataObject.Redrafted graph.shaped := by
    have hdraft := (redrafted_resolveVirtuals { graph, plan := .empty, events := [] }).graph
    rwa [show resolveVirtuals.run _ = _ from hresolve, hshaped] at hdraft
  have hknown {node : Node} (hnode : node ∈ graph.nodes) :
      ∀ binding ∈ node.bindings, (graph.shaped.shape? binding.ref.id).isSome = true := by
    intro binding hbinding
    rw [← hshaped]
    exact @isSome_shape?_of_resolveVirtuals node { graph, plan := .empty, events := [] } resolved _
      hbalanced hresolve hnode binding hbinding
  obtain ⟨hwriters, horders⟩ := structure_of_revised hredrafted
  apply blames_rest
  · rw [hshaped, hredrafted.nodes_eq]
    exact fun node hnode e ↦
      mismatches_of_checkSlots hbalanced hsound hsuited hredrafted (hknown hnode) hnode
  · rw [hshaped, hredrafted.nodes_eq]
    exact fun node hnode e he ↦ ⟨node, e, hnode? hnode rfl, rfl, he, rfl⟩
  · rw [hshaped, hwriters]
    exact fun e ↦ firstContested_of_checkSingleWriter hbalanced
  · rw [hshaped, horders]
    exact fun e ↦ names_of_topologicalOrder hbalanced
  · exact fun ordered hordered ↦
      blames_planning hbalanced hsound hredrafted (fun _ ↦ hknown) (hordered.trans hshaped)

theorem names_of_runStages (hbalanced : graph.ledger.Balanced) (hsound : graph.SoundObjects)
    (hsuited : graph.Suited) (hfresh : graph.invalidate = graph)
    (hfailed : (graph.runStages Stage.standard).result = .error (.failed e)) : e.Names graph :=
  of_runStages_failed (blames_standard hbalanced hsound hsuited hfresh .empty) hfailed

end Graph

theorem VerifyError.names_invalidate {graph : Graph} {e : VerifyError}
    (h : e.Names graph.invalidate) : e.Names graph := by
  cases e with
  | multipleWriters data writers => exact ⟨h.writers_eq, h.contested, h.first⟩
  | _ => exact h

/-- When a verification of a settled graph by the standard stages fails, the error names a defect of
the graph. -/
theorem Graph.Settled.names_of_verification {graph : Graph} (hsettled : graph.Settled)
    (hbalanced : graph.ledger.Balanced) (hsound : graph.SoundObjects) (hsuited : graph.Suited)
    {verification : Graph → VerificationResult}
    (hverification : verification = Graph.verify ∨
      verification = (Graph.verifyWith · Stage.standard))
    {e : VerifyError} (hfailed : (verification graph).result = .error (.failed e)) :
    e.Names graph := by
  have hstages : (graph.verifyWith Stage.standard).result = .error (.failed e) := by
    rcases hverification with rfl | rfl
    · rw [hsettled.verify_eq_of_failed hfailed] at hfailed
      exact hfailed
    · exact hfailed
  exact VerifyError.names_invalidate
    (@Graph.names_of_runStages graph.invalidate e hbalanced hsound hsuited rfl hstages)

/-! ## Every graph -/

namespace Call

/-- When a verification by the standard stages fails, whatever has happened to the graph before and
whatever its kernels answer, the error names a defect of the graph. -/
theorem names_of_failed (id : GraphId) (context : Context) (calls : List Call)
    {verification : Graph → VerificationResult}
    (hverification : verification = Graph.verify ∨
      verification = (Graph.verifyWith · Stage.standard))
    {e : VerifyError}
    (hfailed : (verification (applyAll (.empty id context) calls)).result = .error (.failed e)) :
    e.Names (applyAll (.empty id context) calls) := by
  have hsettled := settled_applyAll (settled_empty id context) calls
  exact hsettled.names_of_verification (balanced_applyAll id context calls)
    (soundObjects_applyAll id context calls) (suited_applyAll id context calls) hverification
    hfailed

/-- Calls that copy a sixteen-bit image into a virtual image, and let a kernel read that which takes
eight-bit images only. -/
def narrowing : List Call :=
  let ref (data : Nat) : DataRef := { graph := ⟨0⟩, id := ⟨data⟩ }
  [.operation (.create (.image 1 1 .s16)), .operation .createVirtual, .operation .createVirtual,
    .operation (.addNodeWithKernel { id := ⟨0⟩, kernel := Kernels.copyImage } [ref 0, ref 1]),
    .operation (.addNodeWithKernel { id := ⟨1⟩, kernel := Kernels.bitNot } [ref 1, ref 2])]

theorem failed_narrowing :
    (Graph.verify (applyAll (.empty ⟨0⟩ Operation.plainContext) narrowing)).result =
      .error (.failed (.parameterTypeMismatch ⟨1⟩ 0 (.image .u8) (.image 1 1 .s16))) := by
  decide +kernel

theorem mismatches_narrowing :
    (applyAll (.empty ⟨0⟩ Operation.plainContext) narrowing).Mismatches ⟨1⟩ 0 (.image .u8)
      (.image 1 1 .s16) :=
  names_of_failed ⟨0⟩ Operation.plainContext narrowing (.inl rfl) failed_narrowing

end Call

end ImageFlow
