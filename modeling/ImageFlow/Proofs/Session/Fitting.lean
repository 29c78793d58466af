import ImageFlow.Proofs.Execution.StandardRuns
import Mathlib.Tactic.IntervalCases

/-!
# Memory keeps fitting

As long as all nodes have standard kernels, the memory of every object has the shape of the object.
Clients overwrite payloads only by payloads of the same shape, verification gives zeroed memory of
the shape that it has found, and standard kernels leave memory that fits, whatever their box filter
is. When a graph has a plan, the kernels have accepted the shapes of their objects, so every run of
the graph ends well if the box filter keeps the size of images.
-/

namespace ImageFlow

namespace Graph

variable {graph before after changed : Graph} {ref : DataRef} {filter : BoxFilter}

/-! ## Clients -/

theorem fits_of_rebound (a b : DataObject) (h : a.Rebound b) (hfits : a.Fits) : b.Fits :=
  hfits.congr h.state_eq h.payload_eq

theorem exists_of_payload {payload : Payload} (h : graph.payload ref = .ok payload) :
    ∃ object, graph.arena.get ref = .ok object ∧ object.payload = some payload := by
  obtain ⟨object, hobject, h⟩ := exists_of_bind_eq_ok h
  split at h
  · next held hheld =>
    cases h
    exact ⟨object, hobject, hheld⟩
  · cases h

theorem payload_of_readImage {image : ImageBuffer} (h : graph.readImage ref = .ok image) :
    graph.payload ref = .ok (.image image) := by
  obtain ⟨payload, hpayload, h⟩ := exists_of_bind_eq_ok h
  cases payload <;> cases h
  exact hpayload

theorem payload_of_readScalar {value : ScalarValue} (h : graph.readScalar ref = .ok value) :
    graph.payload ref = .ok (.scalar value) := by
  obtain ⟨payload, hpayload, h⟩ := exists_of_bind_eq_ok h
  cases payload <;> cases h
  exact hpayload

theorem payload_of_readArrayBuffer {array : ArrayBuffer}
    (h : graph.readArrayBuffer ref = .ok array) : graph.payload ref = .ok (.array array) := by
  obtain ⟨payload, hpayload, h⟩ := exists_of_bind_eq_ok h
  cases payload <;> cases h
  exact hpayload

/-- Replacing a payload by one that has every shape that the old one has. -/
theorem fits_setPayload (h : graph.EveryObject DataObject.Fits) {old payload : Payload}
    (hold : graph.payload ref = .ok old)
    (hmatches : ∀ descriptor, old.Matches descriptor → payload.Matches descriptor) :
    (graph.setPayload ref payload).EveryObject DataObject.Fits := by
  obtain ⟨held, hheld, hpayload⟩ := exists_of_payload hold
  have hlive := (Arena.get_eq_ok_iff.1 hheld).2
  obtain ⟨descriptor, hdescriptor, hfit⟩ := (h _ held hlive).exists_matches hpayload
  intro data object hobject
  have hmodified := (Arena.byId?_modify ..).symm.trans hobject
  split at hmodified
  · next hdata =>
    rw [hdata, hlive] at hmodified
    cases hmodified
    exact (h _ held hlive).withPayload hdescriptor (hmatches descriptor hfit)
  · exact h data object hmodified

theorem fits_writeImage (h : graph.EveryObject DataObject.Fits) {bytes : Bytes}
    (hwrite : graph.writeImage ref bytes = .ok changed) : changed.EveryObject DataObject.Fits := by
  obtain ⟨image, himage, hsize, rfl⟩ := exists_of_writeImage hwrite
  refine fits_setPayload h (payload_of_readImage himage) fun descriptor hmatches ↦ ?_
  cases descriptor with
  | image width height format =>
    obtain ⟨hwidth, hheight, hformat, hbytes⟩ := hmatches
    exact ⟨hwidth, hheight, hformat, hsize.symm.trans hbytes⟩
  | scalar type => cases hmatches
  | array item capacity => cases hmatches

theorem fits_writeScalar (h : graph.EveryObject DataObject.Fits) {value : ScalarValue}
    (hwrite : graph.writeScalar ref value = .ok changed) :
    changed.EveryObject DataObject.Fits := by
  obtain ⟨current, hcurrent, htype, rfl⟩ := exists_of_writeScalar hwrite
  refine fits_setPayload h (payload_of_readScalar hcurrent) fun descriptor hmatches ↦ ?_
  cases descriptor with
  | image width height format => cases hmatches
  | scalar type => exact htype.symm.trans hmatches
  | array item capacity => cases hmatches

theorem fits_writeArray (h : graph.EveryObject DataObject.Fits) {items : List ScalarValue}
    (hwrite : graph.writeArray ref items = .ok changed) : changed.EveryObject DataObject.Fits := by
  obtain ⟨array, filled, harray, hfilled, rfl⟩ := exists_of_writeArray hwrite
  exact fits_setPayload h (payload_of_readArrayBuffer harray) fun descriptor hmatches ↦
    Payload.matches_of_setItems hfilled hmatches

/-! ## Verification -/

/-- What a graph has passed includes that its kernels have accepted the shapes. -/
theorem Passed.exists_view {shaped last : Graph} {plan : Plan}
    (h : before.Passed shaped last plan) (hbalanced : before.ledger.Balanced) {node : Node}
    (hnode : node ∈ last.nodes) :
    ∃ view : Inspection,
      view.descriptors = node.wiring.refs.map (last.installPlan plan).descriptorOf? ∧
        node.kernel.kernel.validate view = .ok () := by
  have hshaped : shaped.ledger.Balanced := by
    rw [ledger_eq_of_redrafted h.shapes]
    exact hbalanced
  have hnodes : last.nodes = shaped.nodes := by
    obtain ⟨arena, -, hlast⟩ := h.memory
    rw [hlast]
  rw [hnodes] at hnode
  refine ⟨_, ?_, h.accepted node hnode⟩
  have hrefs : node.bindings.map (·.ref) = node.wiring.refs := by
    have hcomplete := hshaped.complete _ (List.mem_map_of_mem hnode)
    calc node.bindings.map (·.ref)
        = (node.wiring.slots.zipIdx.map Prod.fst).map Prod.fst := by
          rw [Node.bindings, List.map_map, List.map_map]
          rfl
      _ = node.wiring.slots.map Prod.fst := by rw [List.zipIdx_map_fst]
      _ = node.wiring.refs := List.map_fst_zip (Nat.le_of_eq hcomplete)
  calc node.bindings.map (fun binding ↦ shaped.descriptorOf? binding.ref)
      = (node.bindings.map (·.ref)).map shaped.descriptorOf? := by
        rw [List.map_map]
        rfl
    _ = node.wiring.refs.map (last.installPlan plan).descriptorOf? := by
        rw [hrefs]
        exact List.map_congr_left fun ref _ ↦ (descriptorOf?_allocated h.memory ref).symm

theorem Passed.accepted_installPlan {shaped last : Graph} {plan : Plan}
    (h : before.Passed shaped last plan) (hbalanced : before.ledger.Balanced)
    (hstandard : before.Standard filter) : (last.installPlan plan).Accepted filter := by
  have hnodes : last.nodes = before.nodes := by
    obtain ⟨arena, -, hlast⟩ := h.memory
    obtain ⟨shapes, -, rfl⟩ := h.shapes
    rw [hlast]
  intro wiring hwiring kernel hkernel hsignature
  obtain ⟨node, hnode, rfl⟩ := List.mem_map.1 hwiring
  have hsame : kernel = node.kernel.kernel :=
    Kernels.eq_of_signature_eq hkernel (hstandard node (hnodes ▸ hnode)) hsignature
  rw [hsame]
  exact h.exists_view hbalanced hnode

/-- The kernels of a verified graph have accepted the shapes of its slots, whatever they do. -/
theorem exists_shaped_of_runStages {report : VerifyReport} (hbalanced : before.ledger.Balanced)
    (hsound : before.SoundObjects)
    (hresult : (before.runStages Stage.standard).result = .ok report) {node : Node}
    (hnode : node ∈ (before.runStages Stage.standard).graph.nodes) :
    ∃ shape, (before.runStages Stage.standard).graph.Shaped node shape ∧
      node.kernel.kernel.Accepts shape := by
  unfold runStages at hresult hnode ⊢
  cases hrun : (Stage.runAll .empty Stage.standard).run
    { graph := before, plan := .empty, events := [] } with
  | mk result draft =>
    rw [hrun] at hresult hnode
    cases result with
    | error e => cases hresult
    | ok report =>
      obtain ⟨shaped, hpassed⟩ := exists_passed_of_standard hrun hbalanced
      have hplanned := hpassed.planned hbalanced hsound
      have hledger : (draft.graph.installPlan draft.plan).ledger = before.ledger :=
        (ledger_eq_of_redrafted (hpassed.memory.mono DataObject.Allocated.redrafted)).trans
          (ledger_eq_of_redrafted hpassed.shapes)
      exact exists_shaped_of_usable (hledger ▸ hbalanced) hnode
        (hplanned.usable _ (List.mem_map_of_mem hnode)) (hpassed.exists_view hbalanced hnode)

theorem accepted_runStages {plan : Plan} (hbalanced : before.ledger.Balanced)
    (hstandard : before.Standard filter)
    (hplan : (before.runStages Stage.standard).graph.plan = some plan) :
    (before.runStages Stage.standard).graph.Accepted filter := by
  unfold runStages at hplan ⊢
  cases hrun : (Stage.runAll .empty Stage.standard).run
    { graph := before, plan := .empty, events := [] } with
  | mk result draft =>
    rw [hrun] at hplan
    cases result with
    | error e => cases hplan
    | ok report =>
      obtain ⟨shaped, hpassed⟩ := exists_passed_of_standard hrun hbalanced
      exact hpassed.accepted_installPlan hbalanced hstandard

theorem Standard.runStages (h : before.Standard filter) {stages : List Stage}
    (hstages : ∀ stage ∈ stages, stage.Redrafts) :
    (before.runStages stages).graph.Standard filter := by
  intro node hnode
  rw [nodes_runStages hstages] at hnode
  exact h node hnode

theorem Standard.verify (h : before.Standard filter) : before.verify.graph.Standard filter := by
  unfold Graph.verify
  split
  · exact h
  · exact h.runStages fun _ ↦ Stage.redrafts_of_mem_standard

/-! ## Sessions -/

/-- What holds of a graph as long as all nodes have standard kernels. -/
structure Sturdy (graph : Graph) (filter : BoxFilter) : Prop where
  healthy : graph.Healthy
  fitting : graph.EveryObject DataObject.Fits
  accepted : ∀ plan, graph.plan = some plan → graph.Accepted filter

theorem Sturdy.prepared (h : graph.Sturdy filter) (hstandard : graph.Standard filter) {plan : Plan}
    (hplan : graph.plan = some plan) : graph.Prepared filter where
  balanced := h.healthy.balanced
  fitting := h.fitting
  standard := hstandard
  usable := (h.healthy.planned plan hplan).2.usable
  accepted := h.accepted plan hplan

theorem sturdy_empty (id : GraphId) (context : Context) : (empty id context).Sturdy filter where
  healthy := healthy_empty id context
  fitting := everyObject_empty id context
  accepted _ hplan := nomatch hplan

theorem Prepared.withState (h : graph.Prepared filter) (state : GraphState) :
    Prepared { graph with state } filter :=
  ⟨h.balanced, h.fitting, h.standard, h.usable, h.accepted⟩

theorem fitting_execute (h : graph.EveryObject DataObject.Fits)
    (hplanned : ∀ plan, graph.plan = some plan → graph.Prepared filter ∧ graph.Planned plan)
    (options : RunOptions) (watch : Stopwatch) :
    (graph.execute options watch).graph.EveryObject DataObject.Fits := by
  cases hplan : graph.plan with
  | none =>
    have hnone : (graph.execute options watch).graph = graph := by rw [execute, hplan]
    rw [hnone]
    exact h
  | some plan =>
    obtain ⟨hprepared, hplanned⟩ := hplanned plan hplan
    obtain ⟨hkept, -⟩ := hprepared.keptPrepared hplanned options watch
    obtain ⟨-, harena, -⟩ := execute_spec hplan options watch
    rw [EveryObject, harena]
    exact hkept.prepared.fitting

/-- A run of a graph that has a plan. -/
theorem Sturdy.keptPrepared (h : graph.Sturdy filter) (hstandard : graph.Standard filter)
    {plan : Plan} (hplan : graph.plan = some plan) (watch : Stopwatch) :
    KeptPrepared { graph with state := .running } filter (graph.runNodes plan watch).2 ∧
      ∀ stop, (graph.runNodes plan watch).1 = .error stop → filter.KeepsSize →
        StandardStop stop := by
  have hplanned : Planned { graph with state := .running } plan :=
    (h.healthy.planned plan hplan).2.transfer rfl rfl fun _ _ _ _ husable ↦ husable
  exact ((h.prepared hstandard hplan).withState .running).keptPrepared hplanned graph.runOptions
    watch

theorem Sturdy.fitting_process (h : graph.Sturdy filter) (hstandard : graph.Standard filter)
    (watch : Stopwatch) : (graph.process watch).graph.EveryObject DataObject.Fits := by
  cases hplan : graph.plan with
  | none =>
    have hnone : (graph.process watch).graph = graph := by simp [process, hplan]
    rw [hnone]
    exact h.fitting
  | some plan =>
    obtain ⟨hkept, -⟩ := h.keptPrepared hstandard hplan watch
    obtain ⟨-, harena, -⟩ := process_spec hplan (h.healthy.planned plan hplan).1 watch
    rw [EveryObject, harena]
    exact hkept.prepared.fitting

end Graph

namespace Operation

variable {graph : Graph} {filter : BoxFilter}

theorem fitting_apply (h : graph.Sturdy filter) (hstandard : graph.Standard filter)
    (operation : Operation) : (operation.apply graph).EveryObject DataObject.Fits := by
  have hbalanced := h.healthy.balanced
  have hfitting := h.fitting
  have hredrafts (start : Graph) (hstart : start.EveryObject DataObject.Fits) :
      (start.runStages Stage.standard).graph.EveryObject DataObject.Fits :=
    hstart.runStages (fun _ _ hrel ↦ hrel.fits) fun _ ↦ Stage.redrafts_of_mem_standard
  cases operation with
  | create descriptor =>
    refine Graph.settle_map_snd hfitting fun ref changed hcreate ↦ ?_
    obtain ⟨object, hfresh, rfl⟩ := Graph.exists_of_create hcreate
    exact hfitting.made hfresh.fits
  | createScalar value => exact hfitting.made (Graph.fresh_scalar graph.arena.nextId value).fits
  | createVirtual => exact hfitting.made (Graph.fresh_virtual graph.arena.nextId none).fits
  | createVirtualImage hint =>
    refine Graph.settle_map_snd hfitting fun ref changed hcreate ↦ ?_
    obtain ⟨object, hfresh, rfl⟩ := Graph.exists_of_createVirtualImage hcreate
    exact hfitting.made hfresh.fits
  | retain ref =>
    refine Graph.settle_map_snd hfitting fun count changed hretain ↦ ?_
    obtain ⟨object, hobject, rfl⟩ := Graph.exists_of_retain hretain
    exact hfitting.rebound Graph.fits_of_rebound (Graph.rebound_retained hobject)
  | release ref =>
    refine Graph.settle_map_snd hfitting fun count changed hrelease ↦ ?_
    obtain ⟨object, left, hobject, hleft, rfl⟩ := Graph.exists_of_release hrelease
    exact hfitting.rebound Graph.fits_of_rebound (Graph.rebound_released hbalanced hobject hleft)
  | look => exact hfitting
  | writeImage ref bytes =>
    exact Graph.settle_of_ok hfitting fun changed ↦ Graph.fits_writeImage hfitting
  | writeScalar ref value =>
    exact Graph.settle_of_ok hfitting fun changed ↦ Graph.fits_writeScalar hfitting
  | writeArray ref items =>
    exact Graph.settle_of_ok hfitting fun changed ↦ Graph.fits_writeArray hfitting
  | addNode kernel refs =>
    refine Graph.settle_map_snd hfitting fun id changed hadd ↦ ?_
    obtain ⟨entry, hentry⟩ := Graph.exists_of_addNode hadd
    exact hfitting.rebound Graph.fits_of_rebound (Graph.rebound_added hentry)
  | addNodeWithKernel kernel refs =>
    refine Graph.settle_map_snd hfitting fun id changed hadd ↦ ?_
    exact hfitting.rebound Graph.fits_of_rebound (Graph.rebound_added hadd)
  | removeNode node =>
    refine Graph.settle_of_ok hfitting fun changed hremove ↦ ?_
    exact hfitting.rebound Graph.fits_of_rebound (Graph.rebound_removed hbalanced hremove)
  | assignTarget node target =>
    refine Graph.settle_of_ok hfitting fun changed hassign ↦ ?_
    obtain ⟨index, rfl⟩ := Graph.exists_of_assignTarget hassign
    exact hfitting
  | clearTarget node =>
    refine Graph.settle_of_ok hfitting fun changed hclear ↦ ?_
    rw [Graph.eq_of_clearTarget hclear]
    exact hfitting
  | setCallback node answer =>
    refine Graph.settle_of_ok hfitting fun changed hset ↦ ?_
    rw [Graph.eq_of_setCallback hset]
    exact hfitting
  | clearCallback node =>
    refine Graph.settle_of_ok hfitting fun changed hclear ↦ ?_
    rw [Graph.eq_of_clearCallback hclear]
    exact hfitting
  | setOptions options => exact hfitting
  | verify =>
    change graph.verify.graph.EveryObject DataObject.Fits
    unfold Graph.verify
    split
    · exact hfitting
    · exact hredrafts graph hfitting
  | verifyAgain => exact hredrafts graph.invalidate hfitting
  | process watch => exact h.fitting_process hstandard watch
  | execute options watch =>
    exact Graph.fitting_execute hfitting (fun plan hplan ↦
      ⟨h.prepared hstandard hplan, (h.healthy.planned plan hplan).2⟩) options watch
  | exchange node kernel => exact hfitting

theorem sturdy_apply (h : graph.Sturdy filter) (hstandard : graph.Standard filter)
    (operation : Operation) : (operation.apply graph).Sturdy filter where
  healthy := h.healthy.change (operation.change graph)
  fitting := fitting_apply h hstandard operation
  accepted plan hplan := by
    have hbalanced := h.healthy.balanced
    rcases (operation.change graph).plan_cases hbalanced with hupheld | hnone | ⟨start, hstart, heq⟩
    · rw [hupheld.plan] at hplan
      exact (h.accepted plan hplan).upheld hbalanced hupheld
    · rw [hnone] at hplan
      cases hplan
    · rw [heq] at hplan ⊢
      rcases hstart with rfl | rfl
      · exact Graph.accepted_runStages hbalanced hstandard hplan
      · exact @Graph.accepted_runStages graph.invalidate filter plan hbalanced hstandard hplan

theorem sturdy_applyAll (h : graph.Sturdy filter) {operations : List Operation}
    (hstandard : ∀ done, done <+: operations → (applyAll graph done).Standard filter) :
    (applyAll graph operations).Sturdy filter := by
  induction operations generalizing graph with
  | nil => exact h
  | cons operation rest ih =>
    refine ih (sturdy_apply h (hstandard [] (List.nil_prefix)) operation) fun done hdone ↦ ?_
    exact hstandard (operation :: done) (List.prefix_cons_iff.2 (.inr ⟨done, rfl, hdone⟩))

/-- As long as all nodes of a graph have standard kernels, over whatever box filter, an object
without a shape has no memory, and memory has the shape of its object. If the filter keeps the size
of images, every kernel that a run executes comes to its end or to its verdict, and if the graph has
a plan, nothing but such a verdict or a callback ends the run. -/
theorem standard_session (filter : BoxFilter) (id : GraphId) (context : Context)
    (operations : List Operation)
    (hstandard : ∀ done, done <+: operations → (session id context done).Standard filter) :
    let graph := session id context operations
    (∀ data object, graph.arena.byId? data = some object →
        (object.descriptor? = none → object.payload = none) ∧
        ∀ payload, object.payload = some payload →
          ∃ descriptor, object.descriptor? = some descriptor ∧ payload.Matches descriptor) ∧
      (filter.KeepsSize → ∀ watch, graph.EndedWell (graph.process watch).events ∧
        (graph.plan.isSome = true → ∀ stop, (graph.process watch).result = .error stop →
          StandardStop stop)) := by
  intro graph
  have hsturdy : graph.Sturdy filter := sturdy_applyAll (Graph.sturdy_empty id context) hstandard
  have hlast : graph.Standard filter := hstandard operations List.prefix_rfl
  refine ⟨fun data object hobject ↦ ?_, fun hfilter watch ↦ ?_⟩
  · have hfits := hsturdy.fitting data object hobject
    exact ⟨hfits.shapeless, fun payload hpayload ↦ hfits.exists_matches hpayload⟩
  · cases hplan : graph.plan with
    | none =>
      have hevents : (graph.process watch).events = [] := by simp [Graph.process, hplan]
      rw [hevents]
      exact ⟨fun _ _ _ hevent ↦ (by cases hevent), fun hsome ↦ (by cases hsome)⟩
    | some plan =>
      obtain ⟨hkept, hstops⟩ := hsturdy.keptPrepared hlast hplan watch
      obtain ⟨hresult, -, hevents⟩ :=
        Graph.process_spec hplan (hsturdy.healthy.planned plan hplan).1 watch
      rw [hevents, hresult]
      refine ⟨hkept.events hfilter, fun _ stop hstop ↦ hstops stop ?_ hfilter⟩
      cases hran : (graph.runNodes plan watch).1 with
      | ok _ =>
        rw [hran] at hstop
        cases hstop
      | error other =>
        rw [hran] at hstop
        cases hstop
        rfl

/-- A verification at the end leaves nodes the kernels that they had all along. -/
theorem standard_append_verify {id : GraphId} {context : Context} {edits : List Operation}
    (h : ∀ done, done <+: edits → (session id context done).Standard filter)
    (done : List Operation) (hdone : done <+: edits ++ [.verify]) :
    (session id context done).Standard filter := by
  rcases List.prefix_concat_iff.1 hdone with rfl | hbefore
  · rw [session, applyAll, List.foldl_append]
    exact (h edits List.prefix_rfl).verify
  · exact h done hbefore

/-- An image that is smoothed, and smoothed once more. -/
def smoothing : List Operation :=
  let ref (data : Nat) : DataRef := { graph := ⟨0⟩, id := ⟨data⟩ }
  let kernel : RegisteredKernel := { id := ⟨0⟩, kernel := Kernels.box3x3 .means }
  [.create (.image 2 2 .u8), .createVirtual, .createVirtual,
    .addNodeWithKernel kernel [ref 0, ref 1], .addNodeWithKernel kernel [ref 1, ref 2]]

theorem standard_smoothing (done : List Operation) (hdone : done <+: smoothing) :
    (session ⟨0⟩ plainContext done).Standard .means := by
  rw [List.prefix_iff_eq_take.1 hdone]
  have hlength : done.length ≤ 5 := hdone.length_le
  generalize done.length = count at hlength
  have hkernels : (session ⟨0⟩ plainContext (smoothing.take count)).nodes.map (·.kernel.kernel) =
      List.replicate (count - 3) (Kernels.box3x3 .means) := by
    interval_cases count <;> rfl
  refine Graph.standard_of_kernels hkernels fun kernel hkernel ↦ ?_
  rw [List.eq_of_mem_replicate hkernel]
  simp [Kernels.standard]

theorem standard_session_smoothing :
    let graph := session ⟨0⟩ plainContext (smoothing ++ [.verify])
    graph.plan.isSome = true ∧
      (∀ data object, graph.arena.byId? data = some object →
        (object.descriptor? = none → object.payload = none) ∧
        ∀ payload, object.payload = some payload →
          ∃ descriptor, object.descriptor? = some descriptor ∧ payload.Matches descriptor) ∧
      ∀ watch, graph.EndedWell (graph.process watch).events ∧
        ∀ stop, (graph.process watch).result = .error stop → StandardStop stop := by
  intro graph
  have hplanned : graph.plan.isSome = true := by decide +kernel
  obtain ⟨hmemory, hruns⟩ := standard_session .means ⟨0⟩ plainContext (smoothing ++ [.verify])
    (standard_append_verify standard_smoothing)
  refine ⟨hplanned, hmemory, fun watch ↦ ?_⟩
  obtain ⟨hended, hstops⟩ := hruns BoxFilter.keepsSize_means watch
  exact ⟨hended, hstops hplanned⟩

end Operation

end ImageFlow
