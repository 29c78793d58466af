import ImageFlow.Proofs.Kernels.Inference
import ImageFlow.Proofs.Session.InsertionOrder
import ImageFlow.Proofs.Verification.Defects
import ImageFlow.Proofs.Verification.Repetition
import ImageFlow.Proofs.Verification.Views

/-!
# Inferred shapes pass the check

The first stage of a verification asks a kernel for the shape of a slot when it visits the node, and
gives what the kernel answers to the object of the slot before it goes on. Later visits give shapes
to objects that have none. So when the stage has passed, the object of a slot still has the shape
that the kernel inferred for it, and the check of the slots compares that shape with the constraint
of the slot. If the kernel infers by the general rule, or is a standard one, the slot accepts it.

Every question to a kernel is an event, and what the kernel answered is a function of what the event
says that it was shown. The statements are about these questions, since an object does not remember
where its shape comes from.
-/

namespace ImageFlow

open Stateful Verification

/-! ## Answers that are kept -/

/-- The node whose kernel is asked for a shape in an event, the slot, and what the kernel is shown.
-/
def Event.inference? : Event → Option (NodeId × Nat × Inspection)
  | .kernel node (.infer slot view) _ => some (node, slot, view)
  | _ => none

/-- The shapes that kernels are asked for in a list of events. -/
def inferencesOf (events : List Event) : List (NodeId × Nat × Inspection) :=
  events.filterMap Event.inference?

theorem mem_inferencesOf_append {first second : List Event} {asked : NodeId × Nat × Inspection} :
    asked ∈ inferencesOf (first ++ second) ↔
      asked ∈ inferencesOf first ∨ asked ∈ inferencesOf second := by
  rw [inferencesOf, List.filterMap_append, List.mem_append]
  rfl

/-- If the kernel has an answer to a question for a shape, then the object of the slot has that
shape in the graph. -/
def Graph.Honours (graph : Graph) (asked : NodeId × Nat × Inspection) : Prop :=
  ∃ node ∈ graph.nodes, node.id = asked.1 ∧ asked.2.2.signature = node.signature ∧
    ∃ ref, node.refs[asked.2.1]? = some ref ∧ ∀ descriptor,
      node.kernel.kernel.infer asked.2.1 asked.2.2 = some descriptor →
        graph.shape? ref.id = some descriptor

/-- All answers that kernels have given so far are kept in a graph. -/
def Draft.HonouredBy (graph : Graph) (draft : Draft) : Prop :=
  ∀ asked ∈ inferencesOf draft.events, graph.Honours asked

theorem Graph.Honours.grown {before after : Graph} {asked : NodeId × Nat × Inspection}
    (h : before.Honours asked) (hgrown : before.Revised DataObject.Grown after) :
    after.Honours asked := by
  obtain ⟨node, hnode, hid, hsignature, ref, href, hshape⟩ := h
  have hnode' : node ∈ after.nodes := hgrown.nodes_eq ▸ hnode
  exact ⟨node, hnode', hid, hsignature, ref, href, fun descriptor hinfers ↦
    shape?_grown hgrown (hshape descriptor hinfers)⟩

theorem Node.refs_of_mem_bindings {node : Node} {binding : Binding} (h : binding ∈ node.bindings) :
    node.refs[binding.slot]? = some binding.ref := by
  obtain ⟨place, hplace⟩ := List.getElem?_of_mem h
  rw [getElem?_bindings] at hplace
  obtain ⟨slot, hslot, rfl⟩ := Option.map_eq_some_iff.1 hplace
  exact (List.getElem?_zip_eq_some.1 hslot).1

namespace Draft.HonouredBy

variable {graph : Graph} {draft after : Draft}

theorem of_events_eq (h : draft.HonouredBy graph) (hevents : after.events = draft.events) :
    after.HonouredBy graph := by
  rw [HonouredBy, hevents]
  exact h

/-- Another event, which asks for no shape. -/
theorem emit (h : draft.HonouredBy graph) {event : Event} (hother : event.inference? = none) :
    { draft with events := draft.events ++ [event] }.HonouredBy graph := by
  intro asked hasked
  rcases mem_inferencesOf_append.1 hasked with hold | hnew
  · exact h asked hold
  · simp [inferencesOf, hother] at hnew

end Draft.HonouredBy

namespace Verification

variable {draft mid after last : Draft} {node : Node} {view : Inspection} {binding : Binding}
  {bindings : List Binding} {asked : NodeId × Nat × Inspection}

/-! ## Visits -/

/-- The kernel is asked only for the shape of an object that lacks one. -/
theorem mem_inferencesOf_inferSlot {found : Option (DataRef × Descriptor)}
    (hrun : (inferSlot node view binding).run draft = (.ok found, after))
    (hasked : asked ∈ inferencesOf after.events) :
    asked ∈ inferencesOf draft.events ∨ ∃ object, draft.graph.Lacks binding object ∧
      asked = (node.id, binding.slot, view) := by
  rw [inferSlot] at hrun
  split at hrun
  · cases hrun
    exact .inl hasked
  · next hdirection =>
    rw [run_bind, run_graph] at hrun
    dsimp only at hrun
    split at hrun
    · cases hrun
    · next object hobject =>
      split at hrun
      · cases hrun
        exact .inl hasked
      · next hshapeless =>
        have hlacks : draft.graph.Lacks binding object :=
          ⟨not_not.1 hdirection, (Arena.get_eq_ok_iff.1 hobject).2,
            DataObject.pending_iff.2 (Bool.eq_false_iff.2 hshapeless)⟩
        rw [run_bind, run_emit] at hrun
        dsimp only at hrun
        split at hrun
        · cases hrun
          refine (mem_inferencesOf_append.1 hasked).imp_right fun hnew ↦ ⟨object, hlacks, ?_⟩
          simpa [inferencesOf, Kernel.event, Event.inference?] using hnew
        · cases hrun

theorem mem_inferencesOf_inferSlots {shapes : List (DataRef × Descriptor)}
    (hrun : (inferSlots node view bindings).run draft = (.ok shapes, after))
    (hasked : asked ∈ inferencesOf after.events) :
    asked ∈ inferencesOf draft.events ∨ ∃ binding ∈ bindings, ∃ object,
      draft.graph.Lacks binding object ∧ asked = (node.id, binding.slot, view) := by
  induction bindings generalizing draft shapes after with
  | nil =>
    cases hrun
    exact .inl hasked
  | cons binding rest ih =>
    rw [inferSlots] at hrun
    obtain ⟨found, next, hfound, hrun⟩ := bind_ok_iff.1 hrun
    obtain ⟨others, ended, hothers, hrun⟩ := bind_ok_iff.1 hrun
    cases hrun
    have hgraph : next.graph = draft.graph := by
      have hkept := (kept_inferSlot node view binding draft).graph_eq
      rwa [hfound] at hkept
    rcases ih hothers hasked with hnext | ⟨other, hother, hlater⟩
    · refine (mem_inferencesOf_inferSlot hfound hnext).imp_right fun hfirst ↦ ?_
      exact ⟨binding, List.mem_cons_self, hfirst⟩
    · rw [hgraph] at hlater
      exact .inr ⟨other, List.mem_cons_of_mem _ hother, hlater⟩

/-- A visit honours what it asks, and what was honoured before. -/
theorem honouredBy_visit {shapes : List (DataRef × Descriptor)}
    (h : draft.graph.ledger.Balanced ∧ draft.HonouredBy draft.graph)
    (hnode : node ∈ draft.graph.nodes)
    (hinfer : (inferSlots node (inspect draft.graph node) node.bindings).run draft =
      (.ok shapes, mid))
    (hresolve : (resolveAll shapes).run mid = (.ok (), after)) :
    after.graph.ledger.Balanced ∧ after.HonouredBy after.graph := by
  obtain ⟨hbalanced, hhonoured⟩ := h
  have hvisited : node.Visited draft.graph after.graph :=
    visited_of_run (Node.nodup_outputs (hbalanced.unaliased _ (List.mem_map_of_mem hnode))) hinfer
      hresolve
  have hevents : after.events = mid.events := by
    have hsilent := events_resolveAll shapes mid
    rwa [hresolve] at hsilent
  have hredrafted := hvisited.grown.mono DataObject.Grown.redrafted
  refine ⟨Graph.ledger_eq_of_redrafted hredrafted ▸ hbalanced, fun asked hasked ↦ ?_⟩
  rw [hevents] at hasked
  rcases mem_inferencesOf_inferSlots hinfer hasked with
    hold | ⟨binding, hbinding, object, hlacks, rfl⟩
  · exact (hhonoured asked hold).grown hvisited.grown
  · obtain ⟨found, hfound, -, hafter⟩ := hvisited.outputs binding hbinding object hlacks
    refine ⟨node, hvisited.grown.nodes_eq ▸ hnode, rfl, rfl, binding.ref,
      Node.refs_of_mem_bindings hbinding, fun descriptor hinfers ↦ ?_⟩
    -- The kernel has an answer, so the hint of the object is not asked.
    rw [Node.infers?, hinfers] at hfound
    obtain rfl := Option.some.inj hfound
    rw [Graph.shape?, hafter]
    rfl

/-! ## Passes -/

section Passes

variable {P : Draft → Prop}
  (hvisit : ∀ draft mid after node shapes, P draft → node ∈ draft.graph.nodes →
    (inferSlots node (inspect draft.graph node) node.bindings).run draft = (.ok shapes, mid) →
    (resolveAll shapes).run mid = (.ok (), after) → P after)
include hvisit

/-- What single visits make of a draft holds after a pass. -/
theorem holds_resolvePass {ids still : List NodeId} (h : P draft)
    (hrun : (resolvePass ids).run draft = (.ok still, last)) : P last := by
  induction ids generalizing draft still with
  | nil =>
    cases hrun
    exact h
  | cons id rest ih =>
    rw [resolvePass, run_bind, run_graph] at hrun
    dsimp only at hrun
    split at hrun
    · obtain ⟨others, _, hothers, hpure⟩ := bind_ok_iff.1 hrun
      cases hpure
      exact ih h hothers
    · next node hfound =>
      split at hrun
      · obtain ⟨shapes, mid, hinfer, hrun⟩ := bind_ok_iff.1 hrun
        obtain ⟨_, visited, hresolve, hrun⟩ := bind_ok_iff.1 hrun
        exact ih (hvisit draft mid visited node shapes h (List.mem_of_find?_eq_some hfound) hinfer
          hresolve) hrun
      · obtain ⟨others, _, hothers, hpure⟩ := bind_ok_iff.1 hrun
        cases hpure
        exact ih h hothers

theorem holds_resolvePasses {passes : Nat} {left : List NodeId} (h : P draft)
    (hrun : (resolvePasses passes left).run draft = (.ok (), last)) : P last := by
  induction passes generalizing left draft with
  | zero =>
    cases hrun
    exact h
  | succ passes ih =>
    rw [resolvePasses] at hrun
    obtain ⟨still, mid, hpass, hrun⟩ := bind_ok_iff.1 hrun
    have hmid : P mid := holds_resolvePass hvisit h hpass
    split at hrun
    · exact ih hmid hrun
    · cases hrun
      exact hmid

end Passes

/-- Once the first stage has passed, every answer of a kernel is honoured. -/
theorem honouredBy_resolveVirtuals {warnings : List VerifyWarning}
    (hbalanced : draft.graph.ledger.Balanced) (hbegun : draft.events = [])
    (hrun : resolveVirtuals.run draft = (.ok warnings, last)) : last.HonouredBy last.graph := by
  have hreset : draft.graph.reset.ledger.Balanced := draft.graph.ledger_reset ▸ hbalanced
  have hnone :
      ({ draft with graph := draft.graph.reset } : Draft).HonouredBy draft.graph.reset := by
    simp [Draft.HonouredBy, inferencesOf, hbegun]
  have hlast := holds_resolvePasses (fun _ _ _ _ _ ↦ honouredBy_visit) ⟨hreset, hnone⟩
    (Graph.resolveVirtuals_eq_ok_iff.1 hrun).1
  exact hlast.2

/-- The first stage does not compare shapes with constraints. -/
theorem ne_mismatch_of_resolveVirtuals (hbalanced : draft.graph.ledger.Balanced) :
    Blames (fun e ↦ ∀ id slot expected got, e ≠ .parameterTypeMismatch id slot expected got)
      resolveVirtuals draft := by
  refine blames_resolveVirtuals (keptByVisits_redrafted draft.graph) ?_
    draft.graph.redrafted_reset ?_
  · intro now node _ hnow _ _
    refine ⟨Graph.ledger_eq_of_redrafted hnow ▸ hbalanced, fun e hfaults id slot expected got ↦ ?_⟩
    cases hfaults with
    | unknown _ _ _ => exact nofun
    | refused _ hlacks _ hrefused =>
      rcases DataObject.resolve_eq_error hlacks.pending hrefused with
        ⟨fault, -, rfl⟩ | ⟨hint, -, -, rfl⟩ <;> exact nofun
  · intro mid _ object _ _ id slot expected got
    unfold stuckError
    split
    · exact nofun
    · split <;> exact nofun

/-! ## The stages after the first -/

section Rest

variable {graph : Graph} (h : draft.HonouredBy graph)
include h

theorem honouredBy_checkNodes (nodes : List Node) :
    ((checkNodes nodes).run draft).2.HonouredBy graph := by
  induction nodes generalizing draft with
  | nil => exact h
  | cons node rest ih =>
    rw [checkNodes, run_bind, run_graph]
    refine holds_bind h fun _ checked _ hchecked ↦ ?_
    refine holds_bind (hchecked.emit rfl) fun _ noted _ hnoted ↦ ?_
    split
    · exact hnoted
    · exact ih hnoted

theorem honouredBy_checkParameters : (checkParameters.run draft).2.HonouredBy graph := by
  rw [checkParameters, run_bind, run_graph]
  exact holds_bind (honouredBy_checkNodes h _) fun _ last _ hlast ↦ hlast

theorem honouredBy_prepareNodes (ids : List NodeId) :
    ((prepareNodes ids).run draft).2.HonouredBy graph := by
  induction ids generalizing draft with
  | nil => exact h
  | cons id rest ih =>
    rw [prepareNodes, run_bind, run_graph]
    dsimp only
    split
    · exact ih h
    · refine holds_bind (h.emit rfl) fun _ noted _ hnoted ↦ ?_
      split
      · exact hnoted
      · exact ih hnoted

theorem honouredBy_makePlan : (makePlan.run draft).2.HonouredBy graph := by
  rw [makePlan, run_bind, run_get]
  refine holds_bind (h.of_events_eq (events_assignTargets _ draft)) fun _ assigned _ hassigned ↦ ?_
  refine holds_bind (hassigned.of_events_eq (events_planMemory assigned))
    fun _ planned _ hplanned ↦ ?_
  exact holds_bind (honouredBy_prepareNodes hplanned _) fun _ last _ hlast ↦ hlast

/-- The stages after the first ask no kernel for a shape. -/
theorem honouredBy_rest (report : VerifyReport) :
    ((Stage.runAll report [.parameters, .topology, .planning]).run draft).2.HonouredBy graph := by
  simp only [Stage.runAll]
  refine holds_bind (honouredBy_checkParameters h) fun _ checked _ hchecked ↦ ?_
  refine holds_bind (hchecked.of_events_eq (events_checkTopology checked))
    fun _ ordered _ hordered ↦ ?_
  exact holds_bind (honouredBy_makePlan hordered) fun _ last _ hlast ↦ hlast

end Rest

end Verification

/-! ## Whole verifications -/

namespace Graph

variable {graph : Graph} {node : Node} {slot : Nat} {view : Inspection}
  {descriptor got : Descriptor} {expected : Constraint}

theorem events_runStages (graph : Graph) (stages : List Stage) : (graph.runStages stages).events =
    ((Stage.runAll .empty stages).run { graph, plan := .empty, events := [] }).2.events := by
  rw [runStages]
  split
  split <;> simp [*]

/-- A verification that finds a wrong shape in a slot has got past its first stage. -/
theorem exists_resolved_of_mismatch (hbalanced : graph.ledger.Balanced) {id : NodeId}
    (hfailed : (graph.runStages Stage.standard).result =
      .error (.failed (.parameterTypeMismatch id slot expected got))) :
    ∃ warnings resolved, resolveVirtuals.run { graph, plan := .empty, events := [] } =
      (.ok warnings, resolved) := by
  refine @of_runStages_failed (fun e ↦ e = .parameterTypeMismatch id slot expected got →
    ∃ warnings resolved, resolveVirtuals.run { graph, plan := .empty, events := [] } =
      (.ok warnings, resolved)) graph _ _ ?_ hfailed rfl
  rw [Stage.standard, Stage.runAll]
  refine blames_bind (fun e last hresolve hmismatch ↦ ?_) fun warnings resolved hresolve ↦ ?_
  · exact absurd hmismatch
      (ne_mismatch_of_resolveVirtuals hbalanced e last hresolve id slot expected got)
  · exact fun _ _ _ _ ↦ ⟨warnings, resolved, hresolve⟩

/-- Every shape that a kernel has inferred is among those that the first stage has found. -/
theorem honours_of_runStages (hbalanced : graph.ledger.Balanced)
    (hfresh : graph.invalidate = graph) {warnings : List VerifyWarning} {resolved : Draft}
    (hresolve : resolveVirtuals.run { graph, plan := .empty, events := [] } =
      (.ok warnings, resolved))
    {asked : NodeId × Nat × Inspection}
    (hasked : asked ∈ inferencesOf (graph.runStages Stage.standard).events) :
    graph.shaped.Honours asked := by
  have hshaped : resolved.graph = graph.shaped := by
    rw [shaped, hfresh, hresolve]
  have hresolved : resolved.HonouredBy graph.shaped :=
    hshaped ▸ honouredBy_resolveVirtuals hbalanced rfl hresolve
  rw [events_runStages, Stage.standard, Stage.runAll, run_bind,
    show Stage.resolve.run.run _ = _ from hresolve] at hasked
  exact honouredBy_rest hresolved _ asked hasked

/-- A verification does not fail for a shape that the kernel inferred and that the slot accepts. -/
theorem ne_mismatch_of_accepts (hbalanced : graph.ledger.Balanced) (hsound : graph.SoundObjects)
    (hsuited : graph.Suited) (hfresh : graph.invalidate = graph) (hnode : node ∈ graph.nodes)
    (hasked : (node.id, slot, view) ∈ inferencesOf (graph.runStages Stage.standard).events)
    (hinfers : node.kernel.kernel.infer slot view = some descriptor)
    (haccepts : view.signature = node.signature → ∀ parameter,
      node.signature.parameters[slot]? = some parameter →
        parameter.constraint.accepts descriptor = true) :
    (graph.runStages Stage.standard).result ≠
      .error (.failed (.parameterTypeMismatch node.id slot expected got)) := by
  intro hfailed
  have hids := nodup_nodeIds hbalanced
  obtain ⟨warnings, resolved, hresolve⟩ := exists_resolved_of_mismatch hbalanced hfailed
  obtain ⟨other, hother, hid, hsignature, ref, href, hshape⟩ :=
    honours_of_runStages hbalanced hfresh hresolve hasked
  obtain ⟨found, ref', parameter, object, shaped, hfound, href', hparameter, rfl, -, -, hshaped,
    hstate, hrefuses⟩ := names_of_runStages hbalanced hsound hsuited hfresh hfailed
  have hnodes : graph.shaped.nodes = graph.nodes := by
    have hredrafted := (redrafted_resolveVirtuals
      { graph := graph.invalidate, plan := .empty, events := [] }).graph
    exact hredrafted.nodes_eq
  obtain rfl : other = node := List.inj_on_of_nodup_map hids (hnodes ▸ hother) hnode hid
  obtain ⟨hmem, hsame⟩ := (node?_eq_some_iff hids).1 hfound
  obtain rfl : found = other := List.inj_on_of_nodup_map hids hmem hnode hsame
  obtain rfl : ref' = ref := Option.some.inj (href'.symm.trans href)
  have hgot : got = descriptor := by
    have hinferred := hshape descriptor hinfers
    rw [shape?, hshaped, Option.bind_some, DataObject.descriptor?, hstate] at hinferred
    exact Option.some.inj hinferred
  rw [hgot, haccepts hsignature parameter hparameter] at hrefuses
  cases hrefuses

end Graph

/-! ## Every graph -/

namespace Call

/-- What a kernel infers by the general rule is accepted by the slot that it is for, and so is what
a standard kernel infers, over whatever box filter. So a verification by the standard stages never
finds a wrong shape in the slot for which it was inferred, whatever has happened to the graph
before. -/
theorem inferred_fits (filter : BoxFilter) (id : GraphId) (context : Context) (calls : List Call)
    {verified : VerificationResult}
    (hverified : (applyAll (.empty id context) calls).StandardVerification verified) :
    (∀ (view : Inspection) slot descriptor, view.defaultOutput? slot = some descriptor →
      ∃ parameter, view.parameter? slot = some parameter ∧
        parameter.constraint.accepts descriptor = true) ∧
    (∀ kernel ∈ Kernels.standard filter, kernel.InfersFitting) ∧
    ∀ node ∈ verified.graph.nodes, ∀ slot view descriptor,
      (node.id, slot, view) ∈ inferencesOf verified.events →
      node.kernel.kernel.infer slot view = some descriptor →
      (node.kernel.kernel ∈ Kernels.standard filter ∨
        node.kernel.kernel.infer slot view = view.defaultOutput? slot) →
      ∀ expected got, verified.result ≠
        .error (.failed (.parameterTypeMismatch node.id slot expected got)) := by
  refine ⟨fun _ _ _ ↦ Inspection.accepts_of_defaultOutput?,
    fun _ ↦ Kernels.infersFitting_of_mem_standard, ?_⟩
  intro node hnode slot view descriptor hasked hinfers hkernel expected got
  have hbalanced := balanced_applyAll id context calls
  have hsound := soundObjects_applyAll id context calls
  have hsuited := suited_applyAll id context calls
  have hverified := hverified.eq (settled_applyAll (settled_empty id context) calls)
  generalize applyAll (.empty id context) calls = graph at *
  have hstages : verified = graph.invalidate.runStages Stage.standard := hverified
  rw [hstages] at hnode hasked ⊢
  have hnodes : (graph.invalidate.runStages Stage.standard).graph.nodes = graph.nodes :=
    Graph.nodes_runStages (fun _ ↦ Stage.redrafts_of_mem_standard) graph.invalidate
  have hfits (hsignature : view.signature = node.signature) : ∃ parameter,
      node.signature.parameters[slot]? = some parameter ∧
        parameter.constraint.accepts descriptor = true := by
    rcases hkernel with hstandard | hdefault
    · exact Kernels.infersFitting_of_mem_standard hstandard view slot descriptor hsignature hinfers
    · rw [← hsignature]
      exact Inspection.accepts_of_defaultOutput? (hdefault.symm.trans hinfers)
  refine @Graph.ne_mismatch_of_accepts graph.invalidate node slot view descriptor got expected
    hbalanced hsound hsuited rfl (hnodes ▸ hnode) hasked hinfers fun hsignature parameter hslot ↦ ?_
  obtain ⟨own, hown, haccepts⟩ := hfits hsignature
  obtain rfl : own = parameter := Option.some.inj (hown.symm.trans hslot)
  exact haccepts

/-- A copy of a sixteen-bit image does not fail the check, although a reader of it does. -/
theorem inferred_fits_narrowing :
    let start := applyAll (.empty ⟨0⟩ Operation.plainContext) narrowing
    let view : Inspection :=
      { node := ⟨0⟩
        signature := Kernels.copyImage.signature
        descriptors := [some (.image 1 1 .s16), none]
        values := [none, none] }
    (⟨0⟩, 1, view) ∈ inferencesOf start.verify.events ∧
      start.verify.result =
        .error (.failed (.parameterTypeMismatch ⟨1⟩ 0 (.image .u8) (.image 1 1 .s16))) ∧
      ∀ expected got,
        start.verify.result ≠ .error (.failed (.parameterTypeMismatch ⟨0⟩ 1 expected got)) := by
  intro start view
  have hasked : (⟨0⟩, 1, view) ∈ inferencesOf start.verify.events := by decide +kernel
  refine ⟨hasked, failed_narrowing, ?_⟩
  have hverified : start.StandardVerification start.verify := .inr ⟨rfl, rfl⟩
  have hnode : Node.fresh ⟨0⟩ { id := ⟨0⟩, kernel := Kernels.copyImage }
      [{ graph := ⟨0⟩, id := ⟨0⟩ }, { graph := ⟨0⟩, id := ⟨1⟩ }] ∈ start.verify.graph.nodes := by
    rw [show start.verify.graph.nodes = start.nodes from Graph.nodes_verify start]
    exact .head _
  exact (inferred_fits .means ⟨0⟩ Operation.plainContext narrowing hverified).2.2 _ hnode 1 view
    (.image 1 1 .s16) hasked (by decide) (.inl (.head _))

end Call

end ImageFlow
