import ImageFlow.Proofs.Books.Ledger
import ImageFlow.Proofs.Counters
import ImageFlow.Proofs.Data.Revision
import ImageFlow.Proofs.Execution.Dispatch
import ImageFlow.Proofs.Session.Operation
import ImageFlow.Proofs.Stateful

/-!
# What one operation can do

Every operation changes a graph in one of few ways. Most of them, failed ones included, overwrite
payloads at most and leave everything alone that structure and plan depend on. What is known of an
operation is said here once; whatever holds through a session is proved from the ways of change.
-/

namespace ImageFlow

/-! ## Overwriting -/

/-- Payloads may have been overwritten, runs counted, and callbacks, options and what kernels
compute may have changed. Structure and plan are as they were. -/
structure Graph.Worked (before after : Graph) : Prop where
  arena : before.arena.Revised DataObject.Overwritten after.arena
  wirings : after.nodes.map Node.wiring = before.nodes.map Node.wiring
  nextNode : after.nextNode = before.nextNode
  producers : after.producers = before.producers
  plan : after.plan = before.plan
  hasPlan : after.state.hasPlan = before.state.hasPlan
  sumsUp : before.SumsUp → after.SumsUp

/-- A node without what its runs change. -/
def Node.fixed (node : Node) : Node := { node with callback := none, perf := .empty }

/-- What a run of nodes may change: payloads, counters and callbacks. -/
structure Graph.Ran (before after : Graph) : Prop where
  frame : after =
    { before with arena := after.arena, nodes := after.nodes, perf := after.perf }
  arena : before.arena.Revised DataObject.Overwritten after.arena
  nodes : after.nodes.map Node.fixed = before.nodes.map Node.fixed
  sumsUp : before.SumsUp → after.SumsUp

namespace Graph

variable {graph changed : Graph}

theorem Worked.refl (graph : Graph) : graph.Worked graph :=
  ⟨.refl .refl _, rfl, rfl, rfl, rfl, rfl, fun h ↦ h⟩

theorem worked_of_arena {arena : Arena}
    (h : graph.arena.Revised DataObject.Overwritten arena) : graph.Worked { graph with arena } :=
  ⟨h, rfl, rfl, rfl, rfl, rfl, fun hsums ↦ ⟨hsums.total, hsums.nodes⟩⟩

theorem overwritten_setPayload (arena : Arena) (data : DataId) (payload : Payload) :
    arena.Revised DataObject.Overwritten (arena.setPayload data (some payload)) :=
  Arena.revised_modify _ .refl fun _ _ ↦ .inr ⟨payload, rfl⟩

theorem worked_setPayload (graph : Graph) (ref : DataRef) (payload : Payload) :
    graph.Worked (graph.setPayload ref payload) :=
  worked_of_arena (overwritten_setPayload graph.arena ref.id payload)

theorem wirings_modifyNode (id : NodeId) {f : Node → Node}
    (hf : ∀ node, (f node).wiring = node.wiring) :
    (graph.modifyNode id f).nodes.map Node.wiring = graph.nodes.map Node.wiring := by
  rw [modifyNode, List.map_map]
  apply List.map_congr_left
  intro node _
  rw [Function.comp_apply]
  split
  · exact hf node
  · rfl

theorem worked_modifyNode (id : NodeId) {f : Node → Node}
    (hf : ∀ node, (f node).wiring = node.wiring) (hperf : ∀ node, (f node).perf = node.perf) :
    graph.Worked (graph.modifyNode id f) where
  arena := .refl .refl _
  wirings := wirings_modifyNode id hf
  nextNode := rfl
  producers := rfl
  plan := rfl
  hasPlan := rfl
  sumsUp hsums := hsums.modifyNode id fun node durations hdurations ↦
    ⟨durations, (hperf node).symm ▸ hdurations⟩

theorem worked_exchangeKernel (graph : Graph) (id : NodeId) (kernel : Kernel) :
    graph.Worked (graph.exchangeKernel id kernel) := by
  apply worked_modifyNode id
  · intro node
    split
    · next hsignature =>
      rw [Node.wiring, Node.wiring, Node.signature, RegisteredKernel.signature, hsignature]
    · rfl
  · intro node
    split <;> rfl

/-! ### Clients -/

theorem exists_of_writeImage {ref : DataRef} {bytes : Bytes}
    (h : graph.writeImage ref bytes = .ok changed) :
    ∃ image, graph.readImage ref = .ok image ∧ image.data.size = bytes.size ∧
      changed = graph.setPayload ref (.image { image with data := bytes }) := by
  obtain ⟨image, himage, h⟩ := exists_of_bind_eq_ok h
  split at h
  · next hsize =>
    cases h
    exact ⟨image, himage, hsize, rfl⟩
  · cases h

theorem exists_of_writeScalar {ref : DataRef} {value : ScalarValue}
    (h : graph.writeScalar ref value = .ok changed) :
    ∃ current, graph.readScalar ref = .ok current ∧ current.type = value.type ∧
      changed = graph.setPayload ref (.scalar value) := by
  obtain ⟨current, hcurrent, h⟩ := exists_of_bind_eq_ok h
  split at h
  · next htype =>
    cases h
    exact ⟨current, hcurrent, htype, rfl⟩
  · cases h

theorem exists_of_writeArray {ref : DataRef} {items : List ScalarValue}
    (h : graph.writeArray ref items = .ok changed) :
    ∃ array filled, graph.readArrayBuffer ref = .ok array ∧ array.setItems items = .ok filled ∧
      changed = graph.setPayload ref (.array filled) := by
  obtain ⟨array, harray, h⟩ := exists_of_bind_eq_ok h
  split at h
  · next filled hfilled =>
    cases h
    exact ⟨array, filled, harray, hfilled, rfl⟩
  · cases h

theorem eq_of_setCallback {id : NodeId} {answer : Nat → NodeAction}
    (h : graph.setCallback id answer = .ok changed) :
    changed = graph.modifyNode id ({ · with callback := some { answer, calls := 0 } }) := by
  obtain ⟨node, -, h⟩ := exists_of_bind_eq_ok h
  cases h
  rfl

theorem eq_of_clearCallback {id : NodeId} (h : graph.clearCallback id = .ok changed) :
    changed = graph.modifyNode id ({ · with callback := none }) := by
  obtain ⟨node, -, h⟩ := exists_of_bind_eq_ok h
  cases h
  rfl

theorem worked_writeImage {ref : DataRef} {bytes : Bytes}
    (h : graph.writeImage ref bytes = .ok changed) : graph.Worked changed := by
  obtain ⟨image, -, -, rfl⟩ := exists_of_writeImage h
  exact worked_setPayload graph ref _

theorem worked_writeScalar {ref : DataRef} {value : ScalarValue}
    (h : graph.writeScalar ref value = .ok changed) : graph.Worked changed := by
  obtain ⟨current, -, -, rfl⟩ := exists_of_writeScalar h
  exact worked_setPayload graph ref _

theorem worked_writeArray {ref : DataRef} {items : List ScalarValue}
    (h : graph.writeArray ref items = .ok changed) : graph.Worked changed := by
  obtain ⟨array, filled, -, -, rfl⟩ := exists_of_writeArray h
  exact worked_setPayload graph ref _

theorem worked_setCallback {id : NodeId} {answer : Nat → NodeAction}
    (h : graph.setCallback id answer = .ok changed) : graph.Worked changed := by
  rw [eq_of_setCallback h]
  exact worked_modifyNode id (fun _ ↦ rfl) fun _ ↦ rfl

theorem worked_clearCallback {id : NodeId} (h : graph.clearCallback id = .ok changed) :
    graph.Worked changed := by
  rw [eq_of_clearCallback h]
  exact worked_modifyNode id (fun _ ↦ rfl) fun _ ↦ rfl

/-! ### Runs -/

theorem overwritten_putBack (arena : Arena) (binding : Binding) (before after : Slot) :
    arena.Revised DataObject.Overwritten (putBack arena binding before after) := by
  unfold putBack
  split
  · split
    · exact overwritten_setPayload arena _ _
    · exact .refl .refl arena
  · exact .refl .refl arena

theorem overwritten_putBackAll (arena : Arena) (bindings : List Binding)
    (befores afters : List Slot) :
    arena.Revised DataObject.Overwritten (putBackAll arena bindings befores afters) := by
  fun_induction putBackAll arena bindings befores afters with
  | case1 arena binding bindings before befores after afters ih =>
    exact (overwritten_putBack arena binding before after).trans DataObject.Overwritten.trans ih
  | case2 => exact .refl .refl _

theorem Ran.refl (graph : Graph) : graph.Ran graph := ⟨rfl, .refl .refl _, rfl, fun h ↦ h⟩

theorem Ran.trans {a b c : Graph} (h : a.Ran b) (h' : b.Ran c) : a.Ran c where
  frame := h'.frame.trans (by rw [h.frame])
  arena := h.arena.trans DataObject.Overwritten.trans h'.arena
  nodes := h'.nodes.trans h.nodes
  sumsUp hsums := h'.sumsUp (h.sumsUp hsums)

theorem Ran.worked {before after : Graph} (h : before.Ran after) : before.Worked after where
  arena := h.arena
  wirings := by
    have hfixed : Node.wiring = Node.wiring ∘ Node.fixed := rfl
    rw [hfixed, ← List.map_map, ← List.map_map, h.nodes]
  nextNode := by rw [h.frame]
  producers := by rw [h.frame]
  plan := by rw [h.frame]
  hasPlan := by rw [h.frame]
  sumsUp := h.sumsUp

/-- A node is the same after a run, but for what its runs change. -/
theorem Ran.map_fixed_node? {before after : Graph} (h : before.Ran after) (id : NodeId) :
    (after.node? id).map Node.fixed = (before.node? id).map Node.fixed := by
  have hfixed (graph : Graph) : (graph.nodes.map Node.fixed).find? (·.id == id) =
      (graph.node? id).map Node.fixed := List.find?_map ..
  rw [← hfixed, ← hfixed, h.nodes]

theorem ran_modifyNode (id : NodeId) {f : Node → Node} (hf : ∀ node, (f node).fixed = node.fixed)
    (hsums : graph.SumsUp → (graph.modifyNode id f).SumsUp) :
    graph.Ran (graph.modifyNode id f) where
  frame := rfl
  arena := .refl .refl _
  nodes := by
    rw [modifyNode, List.map_map]
    apply List.map_congr_left
    intro node _
    rw [Function.comp_apply]
    split
    · exact hf node
    · rfl
  sumsUp := hsums

theorem ran_askCallback (node : Node) (run : RunState) :
    run.graph.Ran (askCallback node run).2.graph := by
  unfold askCallback
  split
  · exact .refl _
  · exact ran_modifyNode node.id (fun _ ↦ rfl) fun hsums ↦
      hsums.modifyNode node.id fun _ durations hdurations ↦ ⟨durations, hdurations⟩

theorem ran_recordNode (options : RunOptions) (watch : Stopwatch) (id : NodeId) (graph : Graph) :
    graph.Ran (recordNode options watch id graph) := by
  have hsums (h : graph.SumsUp) := h.recordNode options watch id
  unfold recordNode at hsums ⊢
  split
  · next hcollect =>
    rw [if_pos hcollect] at hsums
    exact ran_modifyNode id (fun _ ↦ rfl) hsums
  · exact .refl _

theorem ran_executeNode (options : RunOptions) (watch : Stopwatch) (id : NodeId)
    (run : RunState) : run.graph.Ran (executeNode options watch id run).2.graph := by
  unfold executeNode
  split
  · exact .refl _
  · next node _ =>
    split
    · exact .refl _
    · next slots _ =>
      dsimp only
      -- Payloads go back before the result is looked at.
      generalize node.kernel.kernel.execute { node := id, slots } = outcome
      obtain ⟨result, after⟩ := outcome
      have hput : run.graph.Ran { run.graph with
          arena := putBackAll run.graph.arena node.bindings slots after.slots } :=
        ⟨rfl, overwritten_putBackAll _ _ _ _, rfl, fun h ↦ ⟨h.total, h.nodes⟩⟩
      cases result with
      | error stop => cases stop <;> exact hput
      | ok _ =>
        dsimp only
        generalize hrecorded : RunState.modifyGraph _ (recordNode options watch id) = recorded
        have hrecord : run.graph.Ran recorded.graph := by
          rw [← hrecorded]
          exact hput.trans (ran_recordNode options watch id _)
        have hask := hrecord.trans (ran_askCallback node recorded)
        generalize askCallback node recorded = asked at hask ⊢
        obtain ⟨action, finished⟩ := asked
        cases action <;> exact hask

theorem ran_execute (graph : Graph) (options : RunOptions) (watch : Stopwatch) :
    graph.Ran (graph.execute options watch).graph := by
  unfold execute
  split
  · exact .refl graph
  · next plan _ =>
    dsimp only
    have hsteps (id : NodeId) : Dispatch.Keeps (fun run : RunState ↦ graph.Ran run.graph)
        (fun _ ↦ True) (executeNode options watch id) := by
      intro run hrun
      exact ⟨hrun.trans (ran_executeNode options watch id run), fun _ _ ↦ trivial⟩
    obtain ⟨hrun, -⟩ := @Dispatch.keeps_run _ _ _ _ _ options plan (fun id _ ↦ hsteps id)
      { graph, events := [], completed := 0 } (.refl graph)
    generalize Dispatch.run options plan _ _ = ended at hrun ⊢
    obtain ⟨result, run⟩ := ended
    cases result with
    | error e => exact hrun
    | ok _ =>
      dsimp only
      split
      · exact hrun.trans ⟨rfl, .refl .refl _, rfl, fun h ↦ h.record watch.graph⟩
      · exact hrun

theorem worked_process (graph : Graph) (watch : Stopwatch) :
    graph.Worked (graph.process watch).graph := by
  unfold process
  split
  · next hplan =>
    have hrun := (ran_execute { graph with state := .running } graph.runOptions watch).worked
    refine ⟨hrun.arena, hrun.wirings, hrun.nextNode, hrun.producers, hrun.plan, ?_, ?_⟩
    · rw [(Bool.and_eq_true_iff.1 hplan).2]
      dsimp only
      split <;> rfl
    · intro hsums
      have hended := hrun.sumsUp ⟨hsums.total, hsums.nodes⟩
      exact ⟨hended.total, hended.nodes⟩
  · exact .refl graph

end Graph

/-! ## Ways of change -/

/-- An object as a client makes it. -/
structure DataObject.Fresh (id : DataId) (object : DataObject) : Prop where
  id_eq : object.id = id
  constraints_eq : object.constraints = []
  clientRefs_eq : object.clientRefs = 1
  slotRefs_eq : object.slotRefs = 0
  sound : object.Sound
  fits : object.Fits

/-- What one operation does to a graph, with the objects that it retains and releases for clients.
-/
inductive Graph.Change (before : Graph) : (DataId → Bool) → (DataId → Bool) → Graph → Prop
  | worked {after : Graph} (h : before.Worked after) :
    Change before (fun _ ↦ false) (fun _ ↦ false) after
  | made (object : DataObject) (h : object.Fresh before.arena.nextId) :
    Change before (fun _ ↦ false) (fun _ ↦ false)
      (before.withNew (before.arena.push object)).2
  | retained (ref : DataRef) (object : DataObject) (h : before.arena.get ref = .ok object) :
    Change before (ref.id == ·) (fun _ ↦ false)
      { before with arena := before.arena.set ref.id (some object.retain) }
  | released (ref : DataRef) (object left : DataObject) (h : before.arena.get ref = .ok object)
    (hleft : object.release = .ok left) :
    Change before (fun _ ↦ false) (ref.id == ·) { before with arena := before.arena.store left }
  | added {after : Graph} (kernel : RegisteredKernel) (refs : List DataRef) (id : NodeId)
    (h : before.addNodeWithKernel kernel refs = .ok (id, after)) :
    Change before (fun _ ↦ false) (fun _ ↦ false) after
  | removed {after : Graph} (id : NodeId) (h : before.removeNode id = .ok after) :
    Change before (fun _ ↦ false) (fun _ ↦ false) after
  | retargeted (id : NodeId) (affinity : Option Nat) :
    Change before (fun _ ↦ false) (fun _ ↦ false)
      (before.modifyNode id ({ · with affinity })).invalidate
  | verified (start : Graph) (h : start = before ∨ start = before.invalidate) :
    Change before (fun _ ↦ false) (fun _ ↦ false) (start.runStages Stage.standard).graph

namespace Graph

variable {graph changed : Graph} {ref : DataRef} {count : Nat}

theorem fresh_concrete {descriptor : Descriptor} {payload : Payload} (id : DataId)
    (hfault : descriptor.fault? = none) (hmatches : payload.Matches descriptor) :
    (DataObject.concrete id descriptor payload).Fresh id :=
  ⟨rfl, rfl, rfl, rfl, ⟨fun _ hstate ↦ (nomatch hstate), fun _ ↦ ⟨rfl, rfl⟩⟩,
    DataObject.fits_concrete hfault hmatches⟩

theorem fresh_virtual (id : DataId) (hint : Option ImageHint) :
    (DataObject.virtual id hint).Fresh id :=
  ⟨rfl, rfl, rfl, rfl, ⟨fun _ hstate ↦ (nomatch hstate), fun hconcrete ↦ (nomatch hconcrete)⟩,
    DataObject.fits_of_pending rfl rfl⟩

theorem exists_of_create {descriptor : Descriptor}
    (h : graph.create descriptor = .ok (ref, changed)) :
    ∃ object, object.Fresh graph.arena.nextId ∧
      changed = (graph.withNew (graph.arena.push object)).2 := by
  obtain ⟨made, hmade, hchanged⟩ := exists_of_map_eq_ok h
  unfold Arena.create at hmade
  split at hmade
  · cases hmade
  · next hfault =>
    obtain ⟨payload, hpayload, hpush⟩ := exists_of_bind_eq_ok hmade
    cases hpush
    cases hchanged
    have hmatches : payload.Matches descriptor := by
      rw [Payload.eq_blank_of_need hpayload]
      exact Payload.blank_matches hfault
    exact ⟨_, fresh_concrete _ hfault hmatches, rfl⟩

theorem fresh_scalar (id : DataId) (value : ScalarValue) :
    (DataObject.concrete id (.scalar value.type) (.scalar value)).Fresh id :=
  fresh_concrete id rfl rfl

theorem exists_of_createVirtualImage {hint : ImageHint}
    (h : graph.createVirtualImage hint = .ok (ref, changed)) :
    ∃ object, object.Fresh graph.arena.nextId ∧
      changed = (graph.withNew (graph.arena.push object)).2 := by
  obtain ⟨made, hmade, hchanged⟩ := exists_of_map_eq_ok h
  unfold Arena.createVirtualImage at hmade
  split at hmade
  · cases hmade
  · cases hmade
    cases hchanged
    exact ⟨_, fresh_virtual _ _, rfl⟩

theorem exists_of_retain (h : graph.retain ref = .ok (count, changed)) :
    ∃ object, graph.arena.get ref = .ok object ∧
      changed = { graph with arena := graph.arena.set ref.id (some object.retain) } := by
  obtain ⟨retained, hretained, hchanged⟩ := exists_of_map_eq_ok h
  obtain ⟨object, hobject, hset⟩ := exists_of_bind_eq_ok hretained
  cases hset
  cases hchanged
  exact ⟨object, hobject, rfl⟩

theorem exists_of_release (h : graph.release ref = .ok (count, changed)) :
    ∃ object left, graph.arena.get ref = .ok object ∧ object.release = .ok left ∧
      changed = { graph with arena := graph.arena.store left } := by
  obtain ⟨released, hreleased, hchanged⟩ := exists_of_map_eq_ok h
  obtain ⟨object, hobject, hrelease⟩ := exists_of_bind_eq_ok hreleased
  obtain ⟨left, hleft, hstore⟩ := exists_of_bind_eq_ok hrelease
  cases hstore
  cases hchanged
  exact ⟨object, left, hobject, hleft, rfl⟩

theorem exists_of_addNode {kernel : String} {refs : List DataRef} {id : NodeId}
    (h : graph.addNode kernel refs = .ok (id, changed)) :
    ∃ entry, graph.addNodeWithKernel entry refs = .ok (id, changed) := by
  unfold addNode at h
  split at h
  · cases h
  · next entry _ => exact ⟨entry, h⟩

theorem exists_of_assignTarget {id : NodeId} {target : String}
    (h : graph.assignTarget id target = .ok changed) :
    ∃ index, changed = (graph.modifyNode id ({ · with affinity := some index })).invalidate := by
  unfold assignTarget at h
  split at h
  · cases h
  · next index _ =>
    obtain ⟨node, -, h⟩ := exists_of_bind_eq_ok h
    split at h
    · cases h
      exact ⟨index, rfl⟩
    · cases h

theorem eq_of_clearTarget {id : NodeId} (h : graph.clearTarget id = .ok changed) :
    changed = (graph.modifyNode id ({ · with affinity := none })).invalidate := by
  obtain ⟨node, -, h⟩ := exists_of_bind_eq_ok h
  cases h
  rfl

/-- A retain that succeeds counts once, for its object, and one that fails counts for none. -/
theorem change_retain (graph : Graph) (ref : DataRef) :
    graph.Change (fun data ↦ ref.id == data && (graph.retain ref).isOk) (fun _ ↦ false)
      (graph.settle ((graph.retain ref).map Prod.snd)) := by
  cases h : graph.retain ref with
  | error e =>
    have hnone : (fun data ↦ ref.id == data && false) = fun _ ↦ false := by
      funext data
      exact Bool.and_false _
    change graph.Change (fun data ↦ ref.id == data && false) (fun _ ↦ false) graph
    rw [hnone]
    exact .worked (.refl graph)
  | ok made =>
    have hone : (fun data ↦ ref.id == data && true) = (ref.id == ·) := by
      funext data
      exact Bool.and_true _
    obtain ⟨object, hobject, hchanged⟩ := exists_of_retain h
    change graph.Change (fun data ↦ ref.id == data && true) (fun _ ↦ false) made.2
    rw [hone, hchanged]
    exact .retained ref object hobject

theorem change_release (graph : Graph) (ref : DataRef) :
    graph.Change (fun _ ↦ false) (fun data ↦ ref.id == data && (graph.release ref).isOk)
      (graph.settle ((graph.release ref).map Prod.snd)) := by
  cases h : graph.release ref with
  | error e =>
    have hnone : (fun data ↦ ref.id == data && false) = fun _ ↦ false := by
      funext data
      exact Bool.and_false _
    change graph.Change (fun _ ↦ false) (fun data ↦ ref.id == data && false) graph
    rw [hnone]
    exact .worked (.refl graph)
  | ok made =>
    have hone : (fun data ↦ ref.id == data && true) = (ref.id == ·) := by
      funext data
      exact Bool.and_true _
    obtain ⟨object, left, hobject, hleft, hchanged⟩ := exists_of_release h
    change graph.Change (fun _ ↦ false) (fun data ↦ ref.id == data && true) made.2
    rw [hone, hchanged]
    exact .released ref object left hobject hleft

/-- A call leaves a graph as it was or as the call changed it. -/
theorem settle_map_snd {ε α : Type} {P : Graph → Prop} {result : Except ε (α × Graph)}
    (hsame : P graph) (hchanged : ∀ a changed, result = .ok (a, changed) → P changed) :
    P (graph.settle (result.map Prod.snd)) := by
  cases result with
  | error e => exact hsame
  | ok made => exact hchanged made.1 made.2 rfl

theorem settle_of_ok {ε : Type} {P : Graph → Prop} {result : Except ε Graph}
    (hsame : P graph) (hchanged : ∀ changed, result = .ok changed → P changed) :
    P (graph.settle result) := by
  cases result with
  | error e => exact hsame
  | ok changed => exact hchanged changed rfl

end Graph

/-- Every operation is one of the ways of change. -/
theorem Operation.change (graph : Graph) (operation : Operation) :
    graph.Change (fun data ↦ operation.retains graph data)
      (fun data ↦ operation.releases graph data)
      (operation.apply graph) := by
  have hsame : graph.Change (fun _ ↦ false) (fun _ ↦ false) graph := .worked (.refl graph)
  cases operation with
  | create descriptor =>
    apply Graph.settle_map_snd hsame
    intro ref changed h
    obtain ⟨object, hfresh, rfl⟩ := Graph.exists_of_create h
    exact .made object hfresh
  | createScalar value => exact .made _ (Graph.fresh_scalar _ value)
  | createVirtual => exact .made _ (Graph.fresh_virtual _ _)
  | createVirtualImage hint =>
    apply Graph.settle_map_snd hsame
    intro ref changed h
    obtain ⟨object, hfresh, rfl⟩ := Graph.exists_of_createVirtualImage h
    exact .made object hfresh
  | retain ref => exact graph.change_retain ref
  | release ref => exact graph.change_release ref
  | look => exact hsame
  | writeImage ref bytes =>
    exact Graph.settle_of_ok hsame fun changed h ↦ .worked (Graph.worked_writeImage h)
  | writeScalar ref value =>
    exact Graph.settle_of_ok hsame fun changed h ↦ .worked (Graph.worked_writeScalar h)
  | writeArray ref items =>
    exact Graph.settle_of_ok hsame fun changed h ↦ .worked (Graph.worked_writeArray h)
  | addNode kernel refs =>
    apply Graph.settle_map_snd hsame
    intro id changed h
    obtain ⟨entry, hentry⟩ := Graph.exists_of_addNode h
    exact .added entry refs id hentry
  | addNodeWithKernel kernel refs =>
    exact Graph.settle_map_snd hsame fun id changed h ↦ .added kernel refs id h
  | removeNode node => exact Graph.settle_of_ok hsame fun changed h ↦ .removed node h
  | assignTarget node target =>
    apply Graph.settle_of_ok hsame
    intro changed h
    obtain ⟨index, rfl⟩ := Graph.exists_of_assignTarget h
    exact .retargeted node (some index)
  | clearTarget node =>
    apply Graph.settle_of_ok hsame
    intro changed h
    rw [Graph.eq_of_clearTarget h]
    exact .retargeted node none
  | setCallback node answer =>
    exact Graph.settle_of_ok hsame fun changed h ↦ .worked (Graph.worked_setCallback h)
  | clearCallback node =>
    exact Graph.settle_of_ok hsame fun changed h ↦ .worked (Graph.worked_clearCallback h)
  | setOptions options =>
    exact .worked ⟨.refl .refl _, rfl, rfl, rfl, rfl, rfl, fun h ↦ ⟨h.total, h.nodes⟩⟩
  | verify =>
    change graph.Change _ _ graph.verify.graph
    unfold Graph.verify
    split
    · exact hsame
    · exact .verified graph (.inl rfl)
  | verifyAgain => exact .verified graph.invalidate (.inr rfl)
  | process watch => exact .worked (Graph.worked_process graph watch)
  | execute options watch => exact .worked (Graph.ran_execute graph options watch).worked
  | exchange node kernel => exact .worked (Graph.worked_exchangeKernel graph node kernel)

end ImageFlow
