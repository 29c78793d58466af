import ImageFlow.Proofs.Verification.Lifetimes
import ImageFlow.Proofs.Verification.PlanValidity
import ImageFlow.Proofs.Verification.Progress
import Mathlib.Algebra.GroupWithZero.Nat

/-!
# Memory plans are exact

The last stage goes through the lifetimes and gives memory to every object, so there is one entry
for each object that some node holds. The first stage has taken the memory of all virtual objects
away, and concrete ones have had theirs all along: what is allocated on the way are the virtual
ones. The one node that writes an object comes before all others that hold it, so the object is used
first where it is written.
-/

namespace ImageFlow

open Stateful Verification

namespace Graph

/-- The size of an object, if its shape is known. -/
def bytesOf (graph : Graph) (data : DataId) : Nat :=
  ((graph.shape? data).map Descriptor.byteSize).getD 0

/-- Whether an object is live and was made without a full shape. -/
def isVirtual (graph : Graph) (data : DataId) : Bool :=
  (graph.arena.byId? data).any DataObject.isVirtual

/-- What the memory of a plan should tell of a graph. -/
structure ExactMemory (graph : Graph) (plan : Plan) : Prop where
  increasing : plan.memory.entries.Pairwise fun first second ↦ first.data.index < second.data.index
  held : ∀ data, (∃ entry ∈ plan.memory.entries, entry.data = data) ↔ graph.holds data = true
  size : ∀ entry ∈ plan.memory.entries, ∃ descriptor,
    graph.shape? entry.data = some descriptor ∧ entry.bytes = descriptor.byteSize
  first : ∀ entry ∈ plan.memory.entries,
    IsLeast {position | graph.UsedAt plan.order entry.data position} entry.firstUse
  last : ∀ entry ∈ plan.memory.entries,
    IsGreatest {position | graph.UsedAt plan.order entry.data position} entry.lastUse
  writer : ∀ entry ∈ plan.memory.entries, ∀ node ∈ graph.nodes, entry.data ∈ node.writes →
    plan.position? node.id = some entry.firstUse
  total : plan.memory.totalBytes = (plan.memory.entries.map MemoryEntry.bytes).sum
  allocated : plan.memory.allocatedBytes =
    ((plan.memory.entries.filter fun entry ↦ graph.isVirtual entry.data).map MemoryEntry.bytes).sum
  bandwidth : plan.bandwidth = graph.nodes.map fun node ↦
    (node.id, (node.refs.map fun ref ↦ graph.bytesOf ref.id).sum)

end Graph

/-! ## What the stage enters -/

theorem DataObject.of_allocate {object allocated : DataObject} {fresh : Nat}
    (h : object.allocate = .ok (allocated, fresh)) :
    allocated.descriptor? = object.descriptor? ∧
      fresh = if object.payload.isNone then
        (object.descriptor?.map Descriptor.byteSize).getD 0 else 0 := by
  refine ⟨(allocated_of_allocate h).1.descriptor?_eq, ?_⟩
  unfold allocate at h
  split at h
  · cases h
  · next descriptor hdescriptor =>
    rw [hdescriptor]
    split at h
    · next payload hpayload =>
      cases h
      rw [hpayload]
      rfl
    · next hnone =>
      obtain ⟨payload, -, h⟩ := exists_of_bind_eq_ok h
      cases h
      rw [hnone]
      rfl

/-- More entries, of which some objects had to be allocated. -/
def MemoryPlan.extend (memory : MemoryPlan) (lacks : DataId → Bool) (entries : List MemoryEntry) :
    MemoryPlan :=
  { entries := memory.entries ++ entries
    totalBytes := memory.totalBytes + (entries.map MemoryEntry.bytes).sum
    allocatedBytes := memory.allocatedBytes +
      ((entries.filter fun entry ↦ lacks entry.data).map MemoryEntry.bytes).sum }

theorem MemoryPlan.extend_cons (memory : MemoryPlan) (lacks : DataId → Bool) (entry : MemoryEntry)
    (rest : List MemoryEntry) :
    memory.extend lacks (entry :: rest) = (memory.extend lacks [entry]).extend lacks rest := by
  unfold extend
  cases hlacks : lacks entry.data <;> simp [hlacks, Nat.add_assoc]

namespace Graph

/-- Whether an object is live and has no memory. -/
def lacksMemory (graph : Graph) (data : DataId) : Bool :=
  (graph.arena.byId? data).any fun object ↦ object.payload.isNone

/-- What is entered for an object that has a lifetime. -/
def entryOf (graph : Graph) (span : DataId × Nat × Nat) : MemoryEntry :=
  { data := span.1, bytes := graph.bytesOf span.1, firstUse := span.2.1, lastUse := span.2.2 }

/-- What is entered for objects depends on these objects only. -/
theorem extend_congr {before after : Graph} {spans : List (DataId × Nat × Nat)}
    (h : ∀ span ∈ spans, after.arena.byId? span.1 = before.arena.byId? span.1)
    (memory : MemoryPlan) : memory.extend after.lacksMemory (spans.map after.entryOf) =
      memory.extend before.lacksMemory (spans.map before.entryOf) := by
  have hentries : spans.map after.entryOf = spans.map before.entryOf :=
    List.map_congr_left fun span hspan ↦ by
      simp only [entryOf, bytesOf, shape?, h span hspan]
  have hlacks : ∀ entry ∈ spans.map before.entryOf,
      after.lacksMemory entry.data = before.lacksMemory entry.data :=
    List.forall_mem_map.2 fun span hspan ↦ by simp only [entryOf, lacksMemory, h span hspan]
  rw [hentries, MemoryPlan.extend, MemoryPlan.extend, List.filter_congr hlacks]

end Graph

namespace Verification

variable {draft after : Draft} {spans : List (DataId × Nat × Nat)}

/-- All objects are entered in turn, each with what it was before. -/
theorem memory_of_planObjects (h : (planObjects spans).run draft = (.ok (), after))
    (hnodup : (spans.map Prod.fst).Nodup)
    (hlive : ∀ span ∈ spans, (draft.graph.arena.byId? span.1).isSome = true) :
    after.plan.memory =
      draft.plan.memory.extend draft.graph.lacksMemory (spans.map draft.graph.entryOf) := by
  induction spans generalizing draft with
  | nil =>
    cases h
    simp [MemoryPlan.extend]
  | cons span rest ih =>
    obtain ⟨hnew, hrest⟩ := List.nodup_cons.1 hnodup
    obtain ⟨hspan, hlater⟩ := List.forall_mem_cons.1 hlive
    obtain ⟨object, hobject⟩ := Option.isSome_iff_exists.1 hspan
    rw [planObjects, run_bind, run_graph] at h
    dsimp only at h
    rw [hobject] at h
    dsimp only at h
    split at h
    · cases h
    · cases h
    · next allocated fresh hallocate =>
      rw [run_bind, run_setArena] at h
      dsimp only at h
      rw [run_bind, run_modifyPlan] at h
      dsimp only at h
      obtain ⟨hshape, rfl⟩ := DataObject.of_allocate hallocate
      have hothers : ∀ later ∈ rest, (draft.graph.arena.set span.1 (some allocated)).byId? later.1 =
          draft.graph.arena.byId? later.1 := by
        intro later hlater
        have hne : later.1 ≠ span.1 := fun hsame ↦ hnew (hsame ▸ List.mem_map_of_mem hlater)
        rw [Arena.byId?_set (Arena.index_lt_of_byId? hobject), if_neg hne]
      rw [ih h hrest fun later hmem ↦ by rw [hothers later hmem]; exact hlater later hmem,
        Graph.extend_congr hothers, List.map_cons, MemoryPlan.extend_cons]
      congr 1
      cases hpayload : object.payload <;>
        simp [MemoryPlan.extend, Graph.entryOf, Graph.bytesOf, Graph.shape?, Graph.lacksMemory,
          hobject, hshape, hpayload]

theorem sizes_eq {graph : Graph}
    (hlive : ∀ span ∈ spans, (graph.arena.byId? span.1).isSome = true) :
    sizes graph spans = spans.map fun span ↦ (span.1, graph.bytesOf span.1) := by
  rw [← List.filterMap_eq_map, sizes]
  refine List.filterMap_congr fun span hspan ↦ ?_
  obtain ⟨object, hobject⟩ := Option.isSome_iff_exists.1 (hlive span hspan)
  simp [Graph.bytesOf, Graph.shape?, hobject]

theorem bandwidthOf_eq {graph : Graph} {node : Node}
    (hsorted : Ordered.Sorted (spans.map Prod.fst))
    (hlive : ∀ span ∈ spans, (graph.arena.byId? span.1).isSome = true)
    (hrefs : ∀ ref ∈ node.refs, ref.id ∈ spans.map Prod.fst) :
    bandwidthOf (sizes graph spans) node =
      (node.refs.map fun ref ↦ graph.bytesOf ref.id).sum := by
  have hkeys : (sizes graph spans).map Prod.fst = spans.map Prod.fst := by
    rw [sizes_eq hlive, List.map_map]
    rfl
  have hfound : ∀ ref ∈ node.refs,
      Ordered.find? ref.id (sizes graph spans) = some (graph.bytesOf ref.id) := by
    intro ref href
    obtain ⟨span, hspan, hkey⟩ := List.mem_map.1 (hrefs ref href)
    rw [Ordered.find?_eq_some_iff (hkeys ▸ hsorted), sizes_eq hlive, ← hkey]
    exact List.mem_map_of_mem hspan
  rw [bandwidthOf, List.filterMap_congr hfound, List.filterMap_eq_map']
  rfl

theorem isSome_byId?_of_mem_lifetimes {graph : Graph} {order : List NodeId} {data : DataId}
    (hbalanced : graph.ledger.Balanced) (horder : order.Perm graph.nodeIds)
    (hdata : data ∈ (lifetimes graph order).map Prod.fst) :
    (graph.arena.byId? data).isSome = true := by
  obtain ⟨node, hnode, binding, hbinding, rfl⟩ :=
    (Graph.holds_iff hbalanced).1 ((Graph.mem_lifetimes_iff_holds hbalanced horder).1 hdata)
  obtain ⟨object, hobject⟩ := Graph.exists_byId? hbalanced hnode hbinding
  rw [hobject]
  rfl

/-- The plan once the memory has been planned. -/
theorem plan_of_planMemory (h : planMemory.run draft = (.ok (), after))
    (hbalanced : draft.graph.ledger.Balanced) (horder : draft.plan.order.Perm draft.graph.nodeIds)
    (hbandwidth : draft.plan.bandwidth = []) :
    after.plan = { draft.plan with
      memory := draft.plan.memory.extend draft.graph.lacksMemory
        ((lifetimes draft.graph draft.plan.order).map draft.graph.entryOf)
      bandwidth := draft.graph.nodes.map fun node ↦
        (node.id, (node.refs.map fun ref ↦ draft.graph.bytesOf ref.id).sum) } := by
  obtain ⟨planned, hplanned, rfl⟩ := exists_of_planMemory h
  have hsorted : Ordered.Sorted ((lifetimes draft.graph draft.plan.order).map Prod.fst) :=
    sorted_spans _
  have hlive : ∀ span ∈ lifetimes draft.graph draft.plan.order,
      (draft.graph.arena.byId? span.1).isSome = true := fun span hspan ↦
    isSome_byId?_of_mem_lifetimes hbalanced horder (List.mem_map_of_mem hspan)
  have hnodes : draft.graph.nodes.map (fun node ↦
      (node.id, bandwidthOf (sizes draft.graph (lifetimes draft.graph draft.plan.order)) node)) =
      draft.graph.nodes.map fun node ↦
        (node.id, (node.refs.map fun ref ↦ draft.graph.bytesOf ref.id).sum) := by
    refine List.map_congr_left fun node hnode ↦ ?_
    rw [bandwidthOf_eq hsorted hlive fun ref href ↦ ?_]
    exact (Graph.mem_lifetimes_iff_holds hbalanced horder).2
      (List.any_eq_true.2 ⟨node, hnode, List.any_eq_true.2 ⟨ref, href, BEq.rfl⟩⟩)
  obtain ⟨-, hplan⟩ := of_planObjects hplanned
  rw [hplan, memory_of_planObjects hplanned hsorted.nodup hlive]
  dsimp only
  rw [hbandwidth, foldl_setEntry _ draft.graph.nodes [] (Graph.nodup_nodeIds hbalanced),
    List.nil_append, hnodes]

end Verification

namespace Graph

/-! ## The first use -/

variable {graph before after : Graph} {plan : Plan} {order : List NodeId} {data : DataId}
  {position : Nat} {writer : Node}

/-- An object that has one writer is used first where it is written. -/
theorem isLeast_usedAt (hbalanced : graph.ledger.Balanced) (hsingle : graph.SingleWriter)
    (horder : Precedence.order? graph.nodeIds graph.edges = some order)
    (hwriter : writer ∈ graph.nodes) (hwrites : data ∈ writer.writes)
    (hposition : order.findIdx? (· == writer.id) = some position) :
    IsLeast {position | graph.UsedAt order data position} position := by
  obtain ⟨hperm, hrespects⟩ := order_spec horder
  have hnodup : order.Nodup := hperm.nodup_iff.2 (nodup_nodeIds hbalanced)
  constructor
  · obtain ⟨binding, hbinding, rfl⟩ := List.mem_map.1 hwrites
    exact ⟨writer, hwriter, (Precedence.findIdx?_eq_some_iff hnodup).1 hposition, binding.ref,
      Node.ref_mem_of_mem_bindings (List.mem_filter.1 hbinding).1, rfl⟩
  · rintro place ⟨node, hnode, hplace, ref, href, rfl⟩
    have hplace := (Precedence.findIdx?_eq_some_iff hnodup).2 hplace
    by_cases hsame : writer.id = node.id
    · rw [← hsame, hposition] at hplace
      exact Nat.le_of_eq (Option.some.inj hplace)
    · obtain ⟨binding, hbinding, rfl⟩ := exists_binding_of_mem_refs hbalanced hnode href
      have hedge := mem_edges_of_bound hbalanced hsingle hwriter hnode hsame hbinding hwrites
      obtain ⟨first, second, hfirst, hsecond, hlt⟩ := hrespects.exists_lt hnodup
        (hperm.mem_iff.2 (List.mem_map_of_mem hwriter))
        (hperm.mem_iff.2 (List.mem_map_of_mem hnode)) hsame hedge
      cases hposition.symm.trans hfirst
      cases hplace.symm.trans hsecond
      exact Nat.le_of_lt hlt

/-! ## Once the memory has been planned -/

theorem exactMemory_of_planMemory {draft planned : Draft}
    (h : planMemory.run draft = (.ok (), planned)) (hbalanced : draft.graph.ledger.Balanced)
    (hsingle : draft.graph.SingleWriter)
    (horder : Precedence.order? draft.graph.nodeIds draft.graph.edges = some draft.plan.order)
    (hmemory : draft.plan.memory = Plan.empty.memory) (hbandwidth : draft.plan.bandwidth = [])
    (hshaped : ∀ data, draft.graph.holds data = true → (draft.graph.shape? data).isSome = true)
    (hlacks : ∀ data, draft.graph.holds data = true →
      draft.graph.lacksMemory data = draft.graph.isVirtual data) :
    draft.graph.ExactMemory planned.plan := by
  have hperm := (order_spec horder).1
  have hnodup := nodup_nodeIds hbalanced
  have hheld (data : DataId) :
      data ∈ (lifetimes draft.graph draft.plan.order).map Prod.fst ↔
        draft.graph.holds data = true := mem_lifetimes_iff_holds hbalanced hperm
  have hspans : ∀ span ∈ lifetimes draft.graph draft.plan.order,
      draft.graph.holds span.1 = true := fun span hspan ↦
    (hheld span.1).1 (List.mem_map_of_mem hspan)
  rw [plan_of_planMemory h hbalanced hperm hbandwidth, hmemory]
  constructor
  · exact List.pairwise_map.2 ((List.pairwise_map.1 (sorted_spans _)).imp fun hlt ↦
      Nat.compare_eq_lt.1 hlt)
  · intro data
    rw [← hheld data]
    simp [MemoryPlan.extend, Plan.empty, Graph.entryOf]
  · refine List.forall_mem_map.2 fun span hspan ↦ ?_
    obtain ⟨descriptor, hdescriptor⟩ :=
      Option.isSome_iff_exists.1 (hshaped span.1 (hspans span hspan))
    refine ⟨descriptor, hdescriptor, ?_⟩
    rw [entryOf, bytesOf, hdescriptor]
    rfl
  · exact List.forall_mem_map.2 fun span hspan ↦ (bounds_of_mem_lifetimes hnodup hspan).1
  · exact List.forall_mem_map.2 fun span hspan ↦ (bounds_of_mem_lifetimes hnodup hspan).2
  · refine List.forall_mem_map.2 fun span hspan writer hwriter hwrites ↦ ?_
    obtain ⟨position, hplace⟩ :=
      List.getElem?_of_mem (hperm.mem_iff.2 (List.mem_map_of_mem hwriter))
    have hposition := (Precedence.findIdx?_eq_some_iff (hperm.nodup_iff.2 hnodup)).2 hplace
    have hleast := isLeast_usedAt hbalanced hsingle horder hwriter hwrites hposition
    rw [Plan.position?, hposition, hleast.unique (bounds_of_mem_lifetimes hnodup hspan).1]
    rfl
  · exact Nat.zero_add _
  · have hsame : ∀ entry ∈ (lifetimes draft.graph draft.plan.order).map draft.graph.entryOf,
        draft.graph.lacksMemory entry.data = draft.graph.isVirtual entry.data :=
      List.forall_mem_map.2 fun span hspan ↦ hlacks span.1 (hspans span hspan)
    rw [MemoryPlan.extend]
    dsimp only [Plan.empty]
    rw [List.filter_congr hsame]
    exact Nat.zero_add _
  · rfl

/-! ## As long as the plan is there -/

theorem holds_eq_any (graph : Graph) (data : DataId) : graph.holds data =
    graph.ledger.wirings.any fun wiring ↦ wiring.refs.any (·.id == data) := by
  rw [holds, ledger, List.any_map]
  rfl

theorem usedAt_iff {graph : Graph} : graph.UsedAt order data position ↔
    ∃ wiring ∈ graph.ledger.wirings, order[position]? = some wiring.id ∧
      ∃ ref ∈ wiring.refs, ref.id = data := by
  simp [UsedAt, ledger, Node.wiring]

/-- The memory of a plan depends on the nodes and on the shapes of the objects that they hold. -/
theorem ExactMemory.transfer (h : before.ExactMemory plan)
    (hwirings : after.ledger.wirings = before.ledger.wirings)
    (hstates : ∀ data, before.holds data = true → ∀ object,
      before.arena.byId? data = some object →
        ∃ kept, after.arena.byId? data = some kept ∧ kept.state = object.state) :
    after.ExactMemory plan := by
  have hholds : after.holds = before.holds := by
    funext data
    rw [holds_eq_any, holds_eq_any, hwirings]
  have hused : after.UsedAt = before.UsedAt := by
    funext order data position
    rw [eq_iff_iff, usedAt_iff, usedAt_iff, hwirings]
  have hsame (data : DataId) (hdata : before.holds data = true) :
      after.shape? data = before.shape? data ∧ after.isVirtual data = before.isVirtual data := by
    obtain ⟨entry, hentry, rfl⟩ := (h.held data).2 hdata
    obtain ⟨_, hshape, -⟩ := h.size entry hentry
    obtain ⟨object, hobject, -⟩ := Option.bind_eq_some_iff.1 hshape
    obtain ⟨kept, hkept, hstate⟩ := hstates entry.data hdata object hobject
    simp [shape?, isVirtual, hobject, hkept, DataObject.descriptor?, DataObject.isVirtual, hstate]
  have hentries : ∀ entry ∈ plan.memory.entries, before.holds entry.data = true :=
    fun entry hentry ↦ (h.held entry.data).1 ⟨entry, hentry, rfl⟩
  exact
    { increasing := h.increasing
      held := by
        rw [hholds]
        exact h.held
      size := by
        intro entry hentry
        rw [(hsame entry.data (hentries entry hentry)).1]
        exact h.size entry hentry
      first := by
        rw [hused]
        exact h.first
      last := by
        rw [hused]
        exact h.last
      writer := by
        intro entry hentry node hnode hwrites
        have hmem : node.wiring ∈ before.ledger.wirings := hwirings ▸ List.mem_map_of_mem hnode
        obtain ⟨origin, horigin, hwiring⟩ := List.mem_map.1 hmem
        rw [← show origin.id = node.id from congrArg Wiring.id hwiring]
        refine h.writer entry hentry origin horigin (Node.mem_writes_iff.2 ?_)
        rw [hwiring]
        exact Node.mem_writes_iff.1 hwrites
      total := h.total
      allocated := by
        rw [List.filter_congr fun entry hentry ↦ (hsame entry.data (hentries entry hentry)).2]
        exact h.allocated
      bandwidth := by
        have hbytes (wiring : Wiring) (hwiring : wiring ∈ before.ledger.wirings) :
            (wiring.refs.map fun ref ↦ before.bytesOf ref.id) =
              wiring.refs.map fun ref ↦ after.bytesOf ref.id := by
          refine List.map_congr_left fun ref href ↦ ?_
          have hheld : before.holds ref.id = true := by
            rw [holds_eq_any]
            exact List.any_eq_true.2 ⟨wiring, hwiring, List.any_eq_true.2 ⟨ref, href, BEq.rfl⟩⟩
          rw [bytesOf, bytesOf, (hsame ref.id hheld).1]
        calc plan.bandwidth
            = before.ledger.wirings.map fun wiring ↦
                (wiring.id, (wiring.refs.map fun ref ↦ before.bytesOf ref.id).sum) := by
              rw [h.bandwidth, ledger, List.map_map]
              rfl
          _ = after.ledger.wirings.map fun wiring ↦
                (wiring.id, (wiring.refs.map fun ref ↦ after.bytesOf ref.id).sum) := by
              rw [hwirings]
              exact List.map_congr_left fun wiring hwiring ↦ by rw [hbytes wiring hwiring]
          _ = after.nodes.map fun node ↦
                (node.id, (node.refs.map fun ref ↦ after.bytesOf ref.id).sum) := List.map_map }

theorem ExactMemory.upheld (h : before.ExactMemory plan) (hbalanced : before.ledger.Balanced)
    (hupheld : before.Upheld after) : after.ExactMemory plan := by
  refine h.transfer hupheld.wirings fun data hdata object hobject ↦ ?_
  rw [holds_eq_any] at hdata
  obtain ⟨wiring, hwiring, hany⟩ := List.any_eq_true.1 hdata
  obtain ⟨ref, href, hid⟩ := List.any_eq_true.1 hany
  obtain rfl : ref.id = data := beq_iff_eq.1 hid
  have hget : before.arena.get ref = .ok object :=
    Arena.get_eq_ok_iff.2 ⟨hbalanced.own wiring hwiring ref href, hobject⟩
  obtain ⟨kept, hkept, hsteady⟩ := hupheld.objects wiring hwiring ref href object hget
  exact ⟨kept, (Arena.get_eq_ok_iff.1 hkept).2, hsteady.state_eq⟩

/-! ## Verification -/

/-- Once the shapes are known, the objects without memory are the virtual ones. -/
theorem lacksMemory_of_resolveVirtuals {draft last : Draft} {warnings : List VerifyWarning}
    (hbalanced : draft.graph.ledger.Balanced) (hsound : draft.graph.SoundObjects)
    (hrun : resolveVirtuals.run draft = (.ok warnings, last))
    (hdata : draft.graph.holds data = true) :
    last.graph.lacksMemory data = last.graph.isVirtual data := by
  have hredrafted := (redrafted_resolveVirtuals draft).graph
  rw [hrun] at hredrafted
  have hlast := hsound.of_redrafted hredrafted
  obtain ⟨node, hnode, binding, hbinding, rfl⟩ := (holds_iff hbalanced).1 hdata
  obtain ⟨origin, horigin⟩ := exists_byId? hbalanced hnode hbinding
  obtain ⟨arena, harena, hgraph⟩ := hredrafted
  obtain ⟨object, hobject, hrel⟩ := harena.some_of_some horigin
  have hobject : last.graph.arena.byId? binding.ref.id = some object := by rwa [hgraph]
  rw [lacksMemory, isVirtual, hobject, Option.any_some, Option.any_some]
  cases hvirtual : object.isVirtual with
  | false =>
    rw [Option.isNone_eq_false_iff]
    exact ((hlast _ object hobject).concrete hvirtual).1
  | true =>
    have hbound : draft.graph.BoundVirtual binding.ref.id :=
      ⟨⟨origin, horigin, hrel.isVirtual_eq.symm.trans hvirtual⟩, node, hnode, binding, hbinding,
        rfl⟩
    obtain ⟨descriptor, -, hshaped⟩ := shaped_of_resolveVirtuals hbalanced hrun hbound horigin
    cases hobject.symm.trans hshaped
    rfl

theorem Staged.exactMemory {resolved ordered last : Draft}
    (h : graph.Staged order resolved ordered last) (hbalanced : graph.ledger.Balanced)
    (hsound : graph.SoundObjects) : last.graph.ExactMemory last.plan := by
  obtain ⟨_, hresolved⟩ := h.resolves
  obtain ⟨_, hcompleted⟩ := h.completes
  obtain ⟨targets, planned, -, hplanned, hgraph, hplan⟩ := Verification.exists_of_makePlan
    hcompleted (h.nodup hbalanced) (h.isSome_node? hbalanced) (by rw [h.plan_eq]; rfl)
  have hnodes : resolved.graph.nodes = graph.nodes := h.redrafted.nodes_eq
  have hholds : resolved.graph.holds = graph.holds := by
    funext data
    rw [holds, hnodes, holds]
  have hexact : ordered.graph.ExactMemory planned.plan := by
    apply exactMemory_of_planMemory hplanned
    · rw [h.graph_eq]
      exact h.balanced hbalanced
    · rw [h.graph_eq]
      exact (checkSingleWriter_iff (h.balanced hbalanced)).1 h.single
    · rw [h.graph_eq, h.plan_eq]
      exact of_topologicalOrder h.order_eq
    · rw [h.plan_eq]
    · rw [h.plan_eq]
      rfl
    · rw [h.graph_eq, hholds]
      intro data hdata
      obtain ⟨node, hnode, binding, hbinding, rfl⟩ := (holds_iff hbalanced).1 hdata
      exact isSome_shape?_of_resolveVirtuals hbalanced hresolved hnode hbinding
    · rw [h.graph_eq, hholds]
      exact fun data hdata ↦ lacksMemory_of_resolveVirtuals hbalanced hsound hresolved hdata
  rw [hplan]
  rw [h.graph_eq] at hexact
  obtain ⟨arena, harena, hlast⟩ := h.allocated
  refine hexact.transfer (by rw [hlast]; rfl) fun data _ object hobject ↦ ?_
  obtain ⟨kept, hkept, hrel⟩ := harena.some_of_some hobject
  refine ⟨kept, by rwa [hlast], ?_⟩
  rcases hrel with rfl | ⟨-, _, -, rfl⟩ <;> rfl

theorem exactMemory_runStages (hbalanced : graph.ledger.Balanced) (hsound : graph.SoundObjects)
    (hplan : (graph.runStages Stage.standard).graph.plan = some plan) :
    (graph.runStages Stage.standard).graph.ExactMemory plan := by
  unfold runStages at hplan ⊢
  cases hrun : (Stage.runAll .empty Stage.standard).run { graph, plan := .empty, events := [] } with
  | mk result draft =>
    rw [hrun] at hplan
    cases result with
    | error e => cases hplan
    | ok report =>
      obtain ⟨_, _, _, hstaged⟩ := exists_staged_of_standard hrun
      cases hplan
      exact (hstaged.exactMemory hbalanced hsound).transfer rfl fun _ _ object hobject ↦
        ⟨object, hobject, rfl⟩

/-! ## Every graph -/

/-- What holds of a graph from a verification by the standard stages on. -/
structure Metered (graph : Graph) : Prop where
  accurate : ∃ retains releases, graph.Accurate retains releases
  sound : graph.SoundObjects
  exactMemory : ∀ plan, graph.plan = some plan → graph.ExactMemory plan

theorem Metered.runStages (haccurate : ∃ retains releases, graph.Accurate retains releases)
    (hsound : graph.SoundObjects) : (graph.runStages Stage.standard).graph.Metered where
  accurate := by
    obtain ⟨_, _, haccurate⟩ := haccurate
    exact ⟨_, _, haccurate.change (.verified graph (.inl rfl))⟩
  sound := hsound.runStages fun _ ↦ Stage.redrafts_of_mem_standard
  exactMemory plan hplan := by
    obtain ⟨_, _, haccurate⟩ := haccurate
    exact exactMemory_runStages haccurate.balanced hsound hplan

theorem Metered.change (h : before.Metered) {retained released : DataId → Bool}
    (hchange : before.Change retained released after) : after.Metered := by
  obtain ⟨_, _, haccurate⟩ := h.accurate
  have hbalanced := haccurate.balanced
  constructor
  · exact ⟨_, _, haccurate.change hchange⟩
  · exact h.sound.change hbalanced hchange
  · intro plan hplan
    rcases hchange.plan_cases hbalanced with hupheld | hnone | ⟨start, rfl | rfl, rfl⟩
    · rw [hupheld.plan] at hplan
      exact (h.exactMemory plan hplan).upheld hbalanced hupheld
    · rw [hnone] at hplan
      cases hplan
    · exact exactMemory_runStages hbalanced h.sound hplan
    · exact @exactMemory_runStages before.invalidate plan hbalanced h.sound hplan

end Graph

theorem Operation.metered_applyAll {graph : Graph} (h : graph.Metered)
    (operations : List Operation) : (applyAll graph operations).Metered := by
  induction operations generalizing graph with
  | nil => exact h
  | cons operation rest ih => exact ih (h.change (operation.change graph))

namespace Call

/-- Whatever has happened to a graph before, a verification by the standard stages that passes
leaves a plan the memory of which is exact, and it stays exact as long as there is a plan. -/
theorem exactMemory_applyAll (id : GraphId) (context : Context) (calls : List Call)
    {ended : VerificationResult} {report : VerifyReport}
    (hended : ended = (applyAll (.empty id context) calls).verifyWith Stage.standard ∨
      (applyAll (.empty id context) calls).plan = none ∧
        ended = (applyAll (.empty id context) calls).verify)
    (hpassed : ended.result = .ok report) :
    ended.graph.plan.isSome = true ∧ ∀ operations plan,
      (Operation.applyAll ended.graph operations).plan = some plan →
        (Operation.applyAll ended.graph operations).ExactMemory plan := by
  have haccurate := exists_accurate_applyAll id context calls
  have hsound := soundObjects_applyAll id context calls
  generalize applyAll (.empty id context) calls = graph at *
  obtain ⟨start, hstart, rfl⟩ : ∃ start, (start = graph ∨ start = graph.invalidate) ∧
      ended = start.runStages Stage.standard := by
    rcases hended with rfl | ⟨hnone, rfl⟩
    · exact ⟨graph.invalidate, .inr rfl, rfl⟩
    · exact ⟨graph, .inl rfl, Graph.verify_of_no_plan hnone⟩
  refine ⟨(Graph.runStages_of_ok hpassed).1, fun operations plan hplan ↦ ?_⟩
  have hmetered : (start.runStages Stage.standard).graph.Metered := by
    rcases hstart with rfl | rfl
    · exact .runStages haccurate hsound
    · obtain ⟨_, _, haccurate⟩ := haccurate
      exact .runStages ⟨_, _, haccurate.quiet rfl⟩ hsound
  exact (Operation.metered_applyAll hmetered operations).exactMemory plan hplan

theorem exactMemory_copies :
    let graph := applyAll (.empty ⟨0⟩ Operation.plainContext) (Operation.copies.map .operation)
    ∃ plan, (graph.verifyWith Stage.standard).graph.plan = some plan ∧
      (graph.verifyWith Stage.standard).graph.ExactMemory plan ∧
      plan.memory.totalBytes = 4 ∧ plan.memory.allocatedBytes = 3 := by
  intro graph
  have hok : (graph.verifyWith Stage.standard).result.isOk = true := by decide +kernel
  have hbytes : ((graph.verifyWith Stage.standard).graph.plan.map fun plan ↦
      (plan.memory.totalBytes, plan.memory.allocatedBytes)) = some (4, 3) := by decide +kernel
  generalize hended : graph.verifyWith Stage.standard = ended at *
  cases hresult : ended.result with
  | error stop =>
    rw [hresult] at hok
    cases hok
  | ok report =>
    obtain ⟨-, hexact⟩ := exactMemory_applyAll ⟨0⟩ Operation.plainContext
      (Operation.copies.map .operation) (.inl hended.symm) hresult
    obtain ⟨plan, hplan, hsame⟩ := Option.map_eq_some_iff.1 hbytes
    exact ⟨plan, hplan, hexact [] plan hplan, congrArg Prod.fst hsame, congrArg Prod.snd hsame⟩

end Call

end ImageFlow
