import ImageFlow.Proofs.Ordered
import ImageFlow.Proofs.Verification.Frame

/-!
# What the standard stages make sure of

For each part of the standard stages there is one lemma on what holds after it has passed: the slots
of all nodes take their objects, the order and its levels follow from the graph, every node has a
target and a bandwidth, and every object that a node holds has memory.
-/

namespace ImageFlow

open Stateful

namespace Verification

variable {draft after : Draft}

/-! ## Checking slots -/

theorem checkSlots_eq_ok_iff {graph : Graph} {node : Node} {entries : List (Binding × Parameter)} :
    checkSlots graph node entries = .ok () ↔ ∀ entry ∈ entries, ∃ descriptor,
      graph.descriptorOf? entry.1.ref = some descriptor ∧
        entry.2.constraint.accepts descriptor = true := by
  induction entries with
  | nil => exact ⟨fun _ _ hentry ↦ (nomatch hentry), fun _ ↦ rfl⟩
  | cons first rest ih =>
    rw [checkSlots, List.forall_mem_cons]
    cases graph.descriptorOf? first.1.ref with
    | none => exact ⟨fun h ↦ (nomatch h), fun ⟨⟨_, h, _⟩, _⟩ ↦ (nomatch h)⟩
    | some descriptor =>
      dsimp only
      split
      · next haccepts => exact ih.trans ⟨fun h ↦ ⟨⟨descriptor, rfl, haccepts⟩, h⟩, fun h ↦ h.2⟩
      · next hrefuses =>
        refine ⟨fun h ↦ (nomatch h), fun ⟨⟨other, hother, haccepts⟩, _⟩ ↦ ?_⟩
        cases hother
        exact absurd haccepts hrefuses

/-- The slots of the nodes are checked, and each kernel accepts its parameters. -/
theorem isOk_checkNodes_iff {nodes : List Node} :
    ((checkNodes nodes).run draft).1.isOk = true ↔ ∀ node ∈ nodes,
      checkSlots draft.graph node (node.bindings.zip node.signature.parameters) = .ok () ∧
        node.kernel.kernel.validate (inspect draft.graph node) = .ok () := by
  induction nodes generalizing draft with
  | nil => exact ⟨fun _ _ hnode ↦ (by cases hnode), fun _ ↦ rfl⟩
  | cons node rest ih =>
    rw [checkNodes, run_bind, run_graph, List.forall_mem_cons]
    dsimp only
    rw [run_bind, run_require]
    cases checkSlots draft.graph node (node.bindings.zip node.signature.parameters) with
    | error e => exact ⟨fun h ↦ (by cases h), fun h ↦ (by cases h.1.1)⟩
    | ok _ =>
      dsimp only [Stop.ofResult]
      rw [run_bind, run_emit]
      dsimp only
      cases node.kernel.kernel.validate (inspect draft.graph node) with
      | error e => exact ⟨fun h ↦ (by cases h), fun h ↦ (by cases h.1.2)⟩
      | ok _ => exact ih.trans ⟨fun h ↦ ⟨⟨rfl, rfl⟩, h⟩, fun h ↦ h.2⟩

theorem isOk_checkParameters_iff :
    (checkParameters.run draft).1.isOk = true ↔ ∀ node ∈ draft.graph.nodes,
      checkSlots draft.graph node (node.bindings.zip node.signature.parameters) = .ok () ∧
        node.kernel.kernel.validate (inspect draft.graph node) = .ok () := by
  rw [← isOk_checkNodes_iff, checkParameters, run_bind, run_graph]
  refine isOk_bind_iff.trans ⟨?_, fun h ↦ ?_⟩
  · rintro ⟨_, mid, hmid, -⟩
    rw [hmid]
    rfl
  · obtain ⟨_, mid, hmid⟩ := isOk_iff.1 h
    exact ⟨_, mid, hmid, rfl⟩

/-! ## Finding the order -/

theorem isOk_checkTopology_iff :
    (checkTopology.run draft).1.isOk = true ↔ draft.graph.checkSingleWriter = .ok () ∧
      ∃ order, draft.graph.topologicalOrder = .ok order := by
  rw [checkTopology, run_bind, run_graph]
  dsimp only
  rw [run_bind, run_require]
  cases draft.graph.checkSingleWriter with
  | error e => exact ⟨fun h ↦ (by cases h), fun h ↦ (by cases h.1)⟩
  | ok _ =>
    dsimp only [Stop.ofResult]
    cases draft.graph.topologicalOrder with
    | error e => exact ⟨fun h ↦ (by cases h), fun h ↦ (by cases h.2.choose_spec)⟩
    | ok order =>
      refine ⟨fun _ ↦ ⟨rfl, order, rfl⟩, fun _ ↦ ?_⟩
      dsimp only
      rw [run_bind, run_modifyPlan]
      dsimp only
      split <;> rfl

theorem of_checkTopology {warnings : List VerifyWarning}
    (h : checkTopology.run draft = (.ok warnings, after)) :
    draft.graph.checkSingleWriter = .ok () ∧
      ∃ order, draft.graph.topologicalOrder = .ok order ∧
        after = { draft with
          plan := { draft.plan with order, levels := draft.graph.levels order } } := by
  rw [checkTopology, run_bind, run_graph] at h
  dsimp only at h
  obtain ⟨_, checked, hchecked, h⟩ := bind_ok_iff.1 h
  rw [run_require, Prod.mk.injEq] at hchecked
  obtain ⟨hwriters, rfl⟩ := hchecked
  have hsingle : draft.graph.checkSingleWriter = .ok () := by
    revert hwriters
    cases draft.graph.checkSingleWriter <;> simp [Stop.ofResult]
  refine ⟨hsingle, ?_⟩
  split at h
  · cases h
  · next order horder =>
    obtain ⟨_, entered, hentered, h⟩ := bind_ok_iff.1 h
    rw [run_modifyPlan, Prod.mk.injEq] at hentered
    refine ⟨order, horder, ?_⟩
    rw [hentered.2]
    split at h <;> exact (Prod.mk.inj h).2.symm

/-! ## Planning -/

theorem setEntry_of_not_mem {κ ν : Type} [DecidableEq κ] {key : κ} {value : ν}
    {entries : List (κ × ν)} (hnew : key ∉ entries.map Prod.fst) :
    setEntry key value entries = entries ++ [(key, value)] := by
  induction entries with
  | nil => rfl
  | cons entry rest ih =>
    rw [List.map_cons, List.mem_cons, not_or] at hnew
    obtain ⟨hne, hrest⟩ := hnew
    rw [setEntry, if_neg (Ne.symm hne), ih hrest]
    rfl

theorem of_assignTargets {ids : List NodeId} (h : (assignTargets ids).run draft = (.ok (), after))
    (hnodup : (draft.plan.targets.map Prod.fst ++ ids).Nodup)
    (hnodes : ∀ id ∈ ids, (draft.graph.node? id).isSome = true) :
    after.plan.targets.map Prod.fst = draft.plan.targets.map Prod.fst ++ ids ∧
      after = { draft with plan := { draft.plan with targets := after.plan.targets } } := by
  induction ids generalizing draft with
  | nil =>
    cases h
    simp
  | cons id rest ih =>
    obtain ⟨hid, hrest⟩ := List.forall_mem_cons.1 hnodes
    rw [assignTargets, run_bind, run_graph] at h
    dsimp only at h
    split at h
    · next hnone =>
      rw [hnone] at hid
      cases hid
    · split at h
      · cases h
      · next target _ =>
        obtain ⟨_, entered, hentered, h⟩ := bind_ok_iff.1 h
        rw [run_modifyPlan, Prod.mk.injEq] at hentered
        obtain ⟨-, rfl⟩ := hentered
        have hnew : id ∉ draft.plan.targets.map Prod.fst := fun hmem ↦
          (List.nodup_append.1 hnodup).2.2 id hmem id List.mem_cons_self rfl
        have hkeys : (setEntry id target draft.plan.targets).map Prod.fst =
            draft.plan.targets.map Prod.fst ++ [id] := by
          rw [setEntry_of_not_mem hnew, List.map_append]
          rfl
        obtain ⟨htargets, hsame⟩ := ih h (by
          dsimp only
          rw [hkeys, List.append_assoc]
          exact hnodup) hrest
        refine ⟨?_, hsame⟩
        rw [htargets]
        dsimp only
        rw [hkeys, List.append_assoc]
        rfl

/-- Every node has a target. -/
theorem isOk_assignTargets_iff {ids : List NodeId} :
    ((assignTargets ids).run draft).1.isOk = true ↔
      ∀ id ∈ ids, ∀ node, draft.graph.node? id = some node →
        (node.affinity <|> draft.graph.context.assign node.kernelName).isSome = true := by
  induction ids generalizing draft with
  | nil => exact ⟨fun _ _ hid ↦ (by cases hid), fun _ ↦ rfl⟩
  | cons id rest ih =>
    rw [assignTargets, run_bind, run_graph, List.forall_mem_cons]
    dsimp only
    cases draft.graph.node? id with
    | none => exact ih.trans ⟨fun h ↦ ⟨fun _ hnone ↦ (by cases hnone), h⟩, fun h ↦ h.2⟩
    | some node =>
      dsimp only
      cases htarget : node.affinity <|> draft.graph.context.assign node.kernelName with
      | none =>
        refine ⟨fun h ↦ (by cases h), fun h ↦ ?_⟩
        have hsome := h.1 node rfl
        rw [htarget] at hsome
        cases hsome
      | some target =>
        dsimp only
        rw [run_bind, run_modifyPlan]
        refine ih.trans ⟨fun h ↦ ⟨fun other hother ↦ ?_, h⟩, fun h ↦ h.2⟩
        cases hother
        rw [htarget]
        rfl

/-- An object that has memory keeps it, and nothing else about it changes. -/
theorem byId?_of_allocated {data : DataId} {object : DataObject}
    (h : draft.Allocated after) (hobject : draft.graph.arena.byId? data = some object)
    (hpayload : object.payload.isSome = true) : after.graph.arena.byId? data = some object := by
  obtain ⟨arena, harena, hgraph⟩ := h
  obtain ⟨allocated, hallocated, hrel⟩ := harena.some_of_some hobject
  rw [hgraph]
  rcases hrel with rfl | ⟨hnone, -⟩
  · exact hallocated
  · rw [hnone] at hpayload
    cases hpayload

theorem of_planObjects {spans : List (DataId × Nat × Nat)}
    (h : (planObjects spans).run draft = (.ok (), after)) :
    (∀ span ∈ spans, ∀ object, after.graph.arena.byId? span.1 = some object →
        object.payload.isSome = true) ∧
      after.plan = { draft.plan with memory := after.plan.memory } := by
  induction spans generalizing draft with
  | nil =>
    cases h
    simp
  | cons span rest ih =>
    have hallocated := allocated_planObjects rest
    rw [planObjects, run_bind, run_graph] at h
    dsimp only at h
    split at h
    · next hnone =>
      obtain ⟨hpayloads, hplan⟩ := ih h
      refine ⟨List.forall_mem_cons.2 ⟨fun object hobject ↦ ?_, hpayloads⟩, hplan⟩
      -- What is not live now is not live afterwards.
      obtain ⟨arena, harena, hgraph⟩ := hallocated draft
      rw [h] at hgraph
      rw [hgraph] at hobject
      obtain ⟨origin, horigin, -⟩ := harena.of_some hobject
      rw [hnone] at horigin
      cases horigin
    · next object hobject =>
      split at h
      · cases h
      · cases h
      · next allocated fresh hallocate =>
        obtain ⟨_, stored, hstored, h⟩ := bind_ok_iff.1 h
        obtain ⟨_, entered, hentered, h⟩ := bind_ok_iff.1 h
        rw [run_setArena, Prod.mk.injEq] at hstored
        rw [run_modifyPlan, Prod.mk.injEq] at hentered
        have harena : entered.graph.arena = draft.graph.arena.set span.1 (some allocated) := by
          rw [← hentered.2, ← hstored.2]
        have hmemory : entered.plan = { draft.plan with memory := entered.plan.memory } := by
          rw [← hentered.2, ← hstored.2]
        obtain ⟨hpayloads, hplan⟩ := ih h
        refine ⟨List.forall_mem_cons.2 ⟨fun last hlast ↦ ?_, hpayloads⟩, ?_⟩
        · have hpayload := (DataObject.allocated_of_allocate hallocate).2
          have hset : entered.graph.arena.byId? span.1 = some allocated := by
            rw [harena, Arena.byId?_set (Arena.index_lt_of_byId? hobject), if_pos rfl]
          have hkept := byId?_of_allocated (hallocated entered) hset hpayload
          rw [h, hlast] at hkept
          cases hkept
          exact hpayload
        · rw [hmemory] at hplan
          exact hplan

/-- Memory can be had for every object of the list. -/
theorem isOk_planObjects_iff {spans : List (DataId × Nat × Nat)} :
    ((planObjects spans).run draft).1.isOk = true ↔ ∀ span ∈ spans, ∀ object,
      draft.graph.arena.byId? span.1 = some object → object.allocate.isOk = true := by
  induction spans generalizing draft with
  | nil => exact ⟨fun _ _ hspan ↦ (by cases hspan), fun _ ↦ rfl⟩
  | cons span rest ih =>
    rw [planObjects, run_bind, run_graph, List.forall_mem_cons]
    dsimp only
    cases hobject : draft.graph.arena.byId? span.1 with
    | none => exact ih.trans ⟨fun h ↦ ⟨fun _ hnone ↦ (by cases hnone), h⟩, fun h ↦ h.2⟩
    | some object =>
      dsimp only
      cases hallocate : object.allocate with
      | error stop =>
        have hno : ¬(object.allocate.isOk = true) := by
          rw [hallocate]
          exact fun h ↦ by cases h
        cases stop with
        | crash => exact ⟨fun h ↦ (by cases h), fun h ↦ absurd (h.1 object rfl) hno⟩
        | failed e => exact ⟨fun h ↦ (by cases h), fun h ↦ absurd (h.1 object rfl) hno⟩
      | ok made =>
        obtain ⟨allocated, fresh⟩ := made
        have hyes : object.allocate.isOk = true := by
          rw [hallocate]
          rfl
        have hset (data : DataId) : (draft.graph.arena.set span.1 (some allocated)).byId? data =
            if data = span.1 then some allocated else draft.graph.arena.byId? data :=
          Arena.byId?_set (Arena.index_lt_of_byId? hobject) _
        dsimp only
        rw [run_bind, run_setArena]
        dsimp only
        rw [run_bind, run_modifyPlan]
        refine ih.trans ?_
        dsimp only
        simp only [hset]
        constructor
        · intro h
          refine ⟨fun other hother ↦ Option.some.inj hother ▸ hyes, fun later hlater other ↦ ?_⟩
          by_cases hsame : later.1 = span.1
          · rw [hsame, hobject]
            exact fun hother ↦ Option.some.inj hother ▸ hyes
          · have hkept := h later hlater other
            rwa [if_neg hsame] at hkept
        · rintro ⟨-, h⟩ later hlater other hother
          split at hother
          · cases hother
            rw [DataObject.eq_backed_of_allocate hallocate]
            exact DataObject.isOk_allocate_backed hyes
          · exact h later hlater other hother

/-- The objects of the list have memory afterwards, the others are as they were. -/
theorem byId?_planObjects {spans : List (DataId × Nat × Nat)}
    (h : (planObjects spans).run draft = (.ok (), after)) (data : DataId) :
    after.graph.arena.byId? data =
      if data ∈ spans.map Prod.fst then (draft.graph.arena.byId? data).map DataObject.backed
      else draft.graph.arena.byId? data := by
  induction spans generalizing draft with
  | nil =>
    cases h
    rfl
  | cons span rest ih =>
    rw [planObjects, run_bind, run_graph] at h
    dsimp only at h
    simp only [List.map_cons, List.mem_cons]
    split at h
    · next hnone =>
      rw [ih h]
      by_cases hdata : data = span.1
      · simp [hdata, hnone]
      · simp only [hdata, false_or]
    · next object hobject =>
      split at h
      · cases h
      · cases h
      · next allocated fresh hallocate =>
        rw [run_bind, run_setArena] at h
        dsimp only at h
        rw [run_bind, run_modifyPlan] at h
        have hset : (draft.graph.arena.set span.1 (some allocated)).byId? data =
            if data = span.1 then some allocated else draft.graph.arena.byId? data :=
          Arena.byId?_set (Arena.index_lt_of_byId? hobject) _
        rw [ih h]
        dsimp only
        rw [hset, DataObject.eq_backed_of_allocate hallocate]
        by_cases hdata : data = span.1
        · simp [hdata, hobject, DataObject.backed_backed]
        · simp only [hdata, false_or, if_false]

/-- The objects that have a lifetime are those that a node of the order holds. -/
theorem mem_lifetimes_iff {graph : Graph} {order : List NodeId} {data : DataId} :
    data ∈ (lifetimes graph order).map Prod.fst ↔
      ∃ id ∈ order, ∃ node, graph.node? id = some node ∧ ∃ ref ∈ node.refs, ref.id = data := by
  have hkeys (uses : List (DataId × Nat)) (spans : List (DataId × Nat × Nat)) (data : DataId) :
      data ∈ (uses.foldl (fun spans use ↦
        Ordered.alter use.1 (fun span ↦ ((span.map Prod.fst).getD use.2, use.2)) spans)
          spans).map Prod.fst ↔ data ∈ uses.map Prod.fst ∨ data ∈ spans.map Prod.fst := by
    induction uses generalizing spans with
    | nil => simp
    | cons use rest ih =>
      rw [List.foldl_cons, ih, Ordered.mem_keys_alter, List.map_cons, List.mem_cons]
      tauto
  rw [lifetimes]
  refine (hkeys _ [] data).trans ?_
  rw [List.map_nil, or_iff_left List.not_mem_nil, List.map_flatMap, List.mem_flatMap]
  constructor
  · rintro ⟨⟨id, position⟩, hid, hdata⟩
    obtain ⟨use, huse, rfl⟩ := List.mem_map.1 hdata
    dsimp only at huse
    split at huse
    · next node hnode =>
      obtain ⟨ref, href, rfl⟩ := List.mem_map.1 huse
      exact ⟨id, List.fst_mem_of_mem_zipIdx hid, node, hnode, ref, href, rfl⟩
    · cases huse
  · rintro ⟨id, hid, node, hnode, ref, href, rfl⟩
    obtain ⟨position, hposition⟩ := List.getElem?_of_mem hid
    refine ⟨(id, position), List.mk_mem_zipIdx_iff_getElem?.2 hposition, ?_⟩
    dsimp only
    rw [hnode]
    exact List.mem_map.2 ⟨(ref.id, position), List.mem_map.2 ⟨ref, href, rfl⟩, rfl⟩

theorem foldl_setEntry (value : Node → Nat) (nodes : List Node) (entries : List (NodeId × Nat))
    (hnodup : (entries.map Prod.fst ++ nodes.map Node.id).Nodup) :
    nodes.foldl (fun entries node ↦ setEntry node.id (value node) entries) entries =
      entries ++ nodes.map fun node ↦ (node.id, value node) := by
  induction nodes generalizing entries with
  | nil => simp
  | cons node rest ih =>
    have hnew : node.id ∉ entries.map Prod.fst := fun hmem ↦
      (List.nodup_append.1 hnodup).2.2 node.id hmem node.id List.mem_cons_self rfl
    rw [List.foldl_cons, setEntry_of_not_mem hnew, ih, List.append_assoc]
    · rfl
    · rw [List.map_append, List.append_assoc]
      exact hnodup

/-- The sizes of the objects of a list that are live. -/
def sizes (graph : Graph) (spans : List (DataId × Nat × Nat)) : List (DataId × Nat) :=
  spans.filterMap fun (data, _) ↦ (graph.arena.byId? data).map fun object ↦
    (data, (object.descriptor?.map Descriptor.byteSize).getD 0)

/-- Once the memory of the objects has been planned, only the bandwidths are entered. -/
theorem exists_of_planMemory (h : planMemory.run draft = (.ok (), after)) :
    ∃ planned, (planObjects (lifetimes draft.graph draft.plan.order)).run draft =
        (.ok (), planned) ∧
      after = { planned with plan := { planned.plan with
        bandwidth := draft.graph.nodes.foldl
          (fun entries node ↦ setEntry node.id
            (bandwidthOf (sizes draft.graph (lifetimes draft.graph draft.plan.order)) node) entries)
          planned.plan.bandwidth } } := by
  rw [planMemory, run_bind, run_graph] at h
  dsimp only at h
  rw [run_bind, run_get] at h
  obtain ⟨_, planned, hplanned, h⟩ := bind_ok_iff.1 h
  rw [run_modifyPlan, Prod.mk.injEq] at h
  exact ⟨planned, hplanned, h.2.symm⟩

theorem of_planMemory (h : planMemory.run draft = (.ok (), after)) :
    (∀ id ∈ draft.plan.order, ∀ node, draft.graph.node? id = some node → ∀ ref ∈ node.refs,
        ∀ object, after.graph.arena.byId? ref.id = some object → object.payload.isSome = true) ∧
      (∃ value : Node → Nat, after.plan.bandwidth = draft.graph.nodes.foldl
        (fun entries node ↦ setEntry node.id (value node) entries) draft.plan.bandwidth) ∧
      after.plan.order = draft.plan.order ∧ after.plan.levels = draft.plan.levels ∧
      after.plan.targets = draft.plan.targets := by
  obtain ⟨planned, hplanned, rfl⟩ := exists_of_planMemory h
  obtain ⟨hpayloads, hplan⟩ := of_planObjects hplanned
  dsimp only
  rw [hplan]
  refine ⟨fun id hid node hnode ref href object hobject ↦ ?_, ⟨_, rfl⟩, rfl, rfl, rfl⟩
  obtain ⟨span, hspan, hkey⟩ :=
    List.mem_map.1 (mem_lifetimes_iff.2 ⟨id, hid, node, hnode, ref, href, rfl⟩)
  exact hpayloads span hspan object (hkey ▸ hobject)

theorem isOk_planMemory_iff : (planMemory.run draft).1.isOk = true ↔
    ∀ data ∈ (lifetimes draft.graph draft.plan.order).map Prod.fst, ∀ object,
      draft.graph.arena.byId? data = some object → object.allocate.isOk = true := by
  rw [List.forall_mem_map, ← isOk_planObjects_iff, planMemory, run_bind, run_graph]
  dsimp only
  rw [run_bind, run_get]
  refine isOk_bind_iff.trans ⟨?_, fun h ↦ ?_⟩
  · rintro ⟨_, mid, hmid, -⟩
    rw [hmid]
    rfl
  · obtain ⟨_, mid, hmid⟩ := isOk_iff.1 h
    exact ⟨_, mid, hmid, rfl⟩

theorem byId?_planMemory (h : planMemory.run draft = (.ok (), after)) (data : DataId) :
    after.graph.arena.byId? data =
      if data ∈ (lifetimes draft.graph draft.plan.order).map Prod.fst then
        (draft.graph.arena.byId? data).map DataObject.backed
      else draft.graph.arena.byId? data := by
  obtain ⟨planned, hplanned, rfl⟩ := exists_of_planMemory h
  exact byId?_planObjects hplanned data

/-- Every kernel can prepare itself. -/
theorem isOk_prepareNodes_iff {ids : List NodeId} :
    ((prepareNodes ids).run draft).1.isOk = true ↔
      ∀ id ∈ ids, ∀ node, draft.graph.node? id = some node →
        node.kernel.kernel.prepare (inspect draft.graph node) = .ok () := by
  induction ids generalizing draft with
  | nil => exact ⟨fun _ _ hid ↦ (by cases hid), fun _ ↦ rfl⟩
  | cons id rest ih =>
    rw [prepareNodes, run_bind, run_graph, List.forall_mem_cons]
    dsimp only
    cases draft.graph.node? id with
    | none => exact ih.trans ⟨fun h ↦ ⟨fun _ hnone ↦ (by cases hnone), h⟩, fun h ↦ h.2⟩
    | some node =>
      dsimp only
      rw [run_bind, run_emit]
      dsimp only
      cases hprepare : node.kernel.kernel.prepare (inspect draft.graph node) with
      | error e =>
        refine ⟨fun h ↦ (by cases h), fun h ↦ ?_⟩
        cases hprepare.symm.trans (h.1 node rfl)
      | ok _ =>
        refine ih.trans ⟨fun h ↦ ⟨fun other hother ↦ ?_, h⟩, fun h ↦ h.2⟩
        cases hother
        exact hprepare

theorem exists_parts_of_makePlan {warnings : List VerifyWarning}
    (h : makePlan.run draft = (.ok warnings, after)) :
    ∃ assigned planned, (assignTargets draft.plan.order).run draft = (.ok (), assigned) ∧
      planMemory.run assigned = (.ok (), planned) ∧ after.graph = planned.graph ∧
        after.plan = planned.plan := by
  rw [makePlan, run_bind, run_get] at h
  dsimp only at h
  obtain ⟨_, assigned, hassigned, h⟩ := bind_ok_iff.1 h
  obtain ⟨_, planned, hplanned, h⟩ := bind_ok_iff.1 h
  obtain ⟨_, prepared, hprepared, h⟩ := bind_ok_iff.1 h
  obtain rfl : prepared = after := (Prod.mk.inj h).2
  have hkept := kept_prepareNodes draft.plan.order planned
  rw [hprepared] at hkept
  exact ⟨assigned, planned, hassigned, hplanned, hkept.graph_eq, hkept.plan_eq⟩

/-- A plan is complete once the targets have been assigned and the memory has been planned. -/
theorem exists_of_makePlan {warnings : List VerifyWarning}
    (h : makePlan.run draft = (.ok warnings, after)) (horder : draft.plan.order.Nodup)
    (hnodes : ∀ id ∈ draft.plan.order, (draft.graph.node? id).isSome = true)
    (htargets : draft.plan.targets = []) :
    ∃ targets planned, targets.map Prod.fst = draft.plan.order ∧
      planMemory.run { draft with plan := { draft.plan with targets } } = (.ok (), planned) ∧
      after.graph = planned.graph ∧ after.plan = planned.plan := by
  obtain ⟨assigned, planned, hassigned, hplanned, hgraph, hplan⟩ := exists_parts_of_makePlan h
  obtain ⟨hkeys, hsame⟩ := of_assignTargets hassigned (by simpa [htargets] using horder) hnodes
  rw [htargets, List.map_nil, List.nil_append] at hkeys
  rw [hsame] at hplanned
  exact ⟨_, planned, hkeys, hplanned, hgraph, hplan⟩

theorem of_makePlan {warnings : List VerifyWarning} (h : makePlan.run draft = (.ok warnings, after))
    (hnodup : draft.graph.nodeIds.Nodup) (horder : draft.plan.order.Nodup)
    (hnodes : ∀ id ∈ draft.plan.order, (draft.graph.node? id).isSome = true)
    (htargets : draft.plan.targets = []) (hbandwidth : draft.plan.bandwidth = []) :
    (∀ id ∈ draft.plan.order, ∀ node, draft.graph.node? id = some node → ∀ ref ∈ node.refs,
        ∀ object, after.graph.arena.byId? ref.id = some object → object.payload.isSome = true) ∧
      after.plan.targets.map Prod.fst = draft.plan.order ∧
      after.plan.bandwidth.map Prod.fst = draft.graph.nodeIds ∧
      after.plan.order = draft.plan.order ∧ after.plan.levels = draft.plan.levels := by
  obtain ⟨targets, planned, hkeys, hplanned, hgraph, hplan⟩ :=
    exists_of_makePlan h horder hnodes htargets
  obtain ⟨hpayloads, ⟨value, hvalues⟩, horder', hlevels, htargets'⟩ := of_planMemory hplanned
  rw [hgraph, hplan, htargets', hkeys, hvalues, horder', hlevels]
  refine ⟨hpayloads, rfl, ?_, rfl, rfl⟩
  dsimp only
  rw [hbandwidth, foldl_setEntry value draft.graph.nodes [] hnodup, List.nil_append, List.map_map]
  rfl

end Verification

end ImageFlow
