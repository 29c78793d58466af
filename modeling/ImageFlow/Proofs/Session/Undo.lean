import ImageFlow.Proofs.Session.Lifecycle
import ImageFlow.Proofs.Verification.PlanValidity

/-!
# Removing a node undoes adding it

What a new node enters into the records of a graph is what its removal strikes out again: as many
references as it has slots, the constraints and the entries in the map of producers that carry its
number. No other record carries that number, and no object is freed, since every live object was
held before the node came. Only the number itself is used up.
-/

namespace ImageFlow

/-! ## What the removal leaves -/

/-- Giving back the slots of a node that had nothing recorded before restores an object. -/
theorem DataObject.ifHeld_unbound_bound {object : DataObject} {node : NodeId}
    {slots : List Parameter} (hheld : 0 < object.clientRefs + object.slotRefs)
    (hfresh : ∀ entry ∈ object.constraints, entry.1 ≠ node) :
    ((object.bound node slots).unbound node slots.length).ifHeld = some object := by
  have hold : object.constraints.filter (·.1 != node) = object.constraints :=
    List.filter_eq_self.2 fun entry hentry ↦ bne_iff_ne.2 (hfresh entry hentry)
  have hnew : (if object.isVirtual then slots.map fun slot ↦ (node, slot.constraint)
      else []).filter (·.1 != node) = [] := by
    split
    · rw [List.filter_map, List.map_eq_nil_iff, List.filter_eq_nil_iff]
      intro slot _
      simp
    · rfl
  have hrestored : (object.bound node slots).unbound node slots.length = object := by
    simp only [unbound, bound, List.filter_append, hold, hnew, List.append_nil,
      Nat.add_sub_cancel]
  rw [hrestored, ifHeld, refCount, if_neg (Nat.ne_of_gt hheld)]

namespace Graph

variable {graph added : Graph} {kernel : RegisteredKernel} {refs : List DataRef} {id : NodeId}

/-- A map of producers in which a node does not appear, and in which every entry names a writer. -/
theorem removeProducers_addProducers {node : NodeId} {producers : List (DataId × List NodeId)}
    {slots : List (DataRef × Parameter)} (hslots : Unaliased slots)
    (hsorted : Ordered.Sorted (producers.map Prod.fst))
    (hwriters : ∀ entry ∈ producers, entry.2 ≠ [] ∧ node ∉ entry.2) :
    removeProducers node (addProducers node producers slots) = producers := by
  have hadded := @sorted_addProducers node producers slots hsorted
  refine Ordered.eq_of_find?_eq (sorted_removeProducers hadded) hsorted fun data ↦ ?_
  rw [find?_removeProducers hadded, find?_addProducers slots hslots hsorted]
  cases hfound : Ordered.find? data producers with
  | none =>
    rw [Option.getD_none, List.nil_append]
    split <;> simp
  | some writers =>
    obtain ⟨hne, habsent⟩ := hwriters _ (Ordered.mem_of_find?_eq_some hfound)
    have hkept : writers.filter (· != node) = writers :=
      List.filter_eq_self.2 fun writer hwriter ↦ bne_iff_ne.2 fun heq ↦ habsent (heq ▸ hwriter)
    have hdropped : (writers ++ [node]).filter (· != node) = writers := by
      simp [List.filter_append, hkept]
    split
    · rw [Option.getD_some, Option.bind_some, hdropped, if_neg hne]
    · rw [Option.bind_some, hkept, if_neg hne]

/-- No record of a graph carries the number of the next node. -/
theorem ne_nextNode_of_mem_wirings (hbalanced : graph.ledger.Balanced) {wiring : Wiring}
    (hwiring : wiring ∈ graph.ledger.wirings) : wiring.id ≠ ⟨graph.nextNode⟩ := by
  intro heq
  have hlt : wiring.id.index < graph.nextNode := hbalanced.below wiring hwiring
  rw [heq] at hlt
  exact Nat.lt_irrefl _ hlt

theorem ne_nextNode_of_mem_constraints (hbalanced : graph.ledger.Balanced) {data : DataId}
    {object : DataObject} (hobject : graph.arena.byId? data = some object)
    {entry : NodeId × Constraint} (hentry : entry ∈ object.constraints) :
    entry.1 ≠ ⟨graph.nextNode⟩ := by
  have hrecorded : object.constraints = if object.isVirtual then _ else [] :=
    hbalanced.recorded data _ (account_of_byId? hobject)
  rw [hrecorded] at hentry
  split at hentry
  · obtain ⟨slot, hslot, rfl⟩ := List.mem_map.1 hentry
    obtain ⟨wiring, hwiring, hslot⟩ := List.mem_flatMap.1 hslot
    rw [Ledger.fst_of_mem_slotsOn hslot]
    exact ne_nextNode_of_mem_wirings hbalanced hwiring
  · cases hentry

theorem nextNode_not_mem_producers (hbalanced : graph.ledger.Balanced)
    {entry : DataId × List NodeId} (hentry : entry ∈ graph.producers) :
    ⟨graph.nextNode⟩ ∉ entry.2 := by
  have hfound := (Ordered.find?_eq_some_iff hbalanced.sorted).2 hentry
  rw [hbalanced.produced] at hfound
  split at hfound
  · cases hfound
  · rw [← Option.some.inj hfound]
    intro hwriter
    obtain ⟨wiring, hwiring, hid⟩ := List.mem_map.1 hwriter
    exact ne_nextNode_of_mem_wirings hbalanced (List.mem_filter.1 hwiring).1 hid

/-- The node that was added can be found. -/
theorem node_of_added (hbalanced : graph.ledger.Balanced)
    (h : graph.addNodeWithKernel kernel refs = .ok (id, added)) :
    added.node id = .ok (.fresh id kernel refs) := by
  have hentered := entered_of_addNodeWithKernel h
  cases hentered.number
  have habsent : graph.nodes.find? (·.id == ⟨graph.nextNode⟩) = none := by
    refine List.find?_eq_none.2 fun node hnode heq ↦ ?_
    exact ne_nextNode_of_mem_wirings hbalanced (List.mem_map_of_mem hnode) (beq_iff_eq.1 heq)
  have hfound : (graph.nodes ++ [Node.fresh ⟨graph.nextNode⟩ kernel refs]).find?
      (·.id == ⟨graph.nextNode⟩) = some (.fresh ⟨graph.nextNode⟩ kernel refs) := by
    rw [List.find?_append, habsent]
    simp [Node.fresh]
  simp only [node, node?, hentered.nodes_eq, hfound]

/-- Giving back the slots of a new node restores all objects. -/
theorem unbindSlots_bindSlots (hbalanced : graph.ledger.Balanced)
    (hcheck : graph.checkNode kernel.signature refs = .ok ()) :
    unbindSlots ⟨graph.nextNode⟩
      (bindSlots ⟨graph.nextNode⟩ graph.arena (refs.zip kernel.signature.parameters)) refs =
        graph.arena := by
  obtain ⟨hlength, hlive, -⟩ := of_checkNode hcheck
  have hcount (data : DataId) :
      (slotsOn data (refs.zip kernel.signature.parameters)).length = holdsOf data refs := by
    have hwiring : ((graph.newWiring kernel refs).slotsOn data).length = holdsOf data refs :=
      Ledger.length_slotsOn_wiring hlength
    rw [Wiring.slotsOn, List.length_map] at hwiring
    exact hwiring
  refine Arena.eq_of_byId?_eq ((unbindSlots_frame refs).1.trans (graph_bindSlots _))
    ((unbindSlots_frame refs).2.trans (length_slots_bindSlots _)) fun data ↦ ?_
  rw [byId?_unbindSlots refs]
  · rw [byId?_bindSlots]
    cases hobject : graph.arena.byId? data with
    | none => simp
    | some object =>
      have hheld : 0 < object.clientRefs + object.slotRefs :=
        hbalanced.held data _ (account_of_byId? hobject)
      rw [Option.map_some, Option.bind_some]
      split
      · next hnone =>
        rw [List.eq_nil_of_length_eq_zero ((hcount data).trans hnone), DataObject.bound_nil]
      · rw [← hcount]
        exact DataObject.ifHeld_unbound_bound hheld fun entry hentry ↦
          ne_nextNode_of_mem_constraints hbalanced hobject hentry
  · intro data bound hbound
    rw [byId?_bindSlots] at hbound
    obtain ⟨object, hobject, rfl⟩ := Option.map_eq_some_iff.1 hbound
    exact hbalanced.placed data _ (account_of_byId? hobject)
  · intro ref href
    obtain ⟨object, hobject⟩ := hlive ref href
    exact (Arena.get_eq_ok_iff.1 hobject).1.trans (graph_bindSlots _).symm
  · intro data bound hbound
    rw [byId?_bindSlots] at hbound
    obtain ⟨object, -, rfl⟩ := Option.map_eq_some_iff.1 hbound
    rw [← hcount]
    exact Nat.le_add_left _ _

/-- A node that has just been added can be removed, which restores everything but the number of
the next node. A plan is lost, for adding the node has dropped it. -/
theorem removeNode_of_added (hbalanced : graph.ledger.Balanced)
    (h : graph.addNodeWithKernel kernel refs = .ok (id, added)) :
    added.removeNode id = .ok { graph with nextNode := graph.nextNode + 1 }.invalidate := by
  have hnode := node_of_added hbalanced h
  obtain ⟨⟨⟩, hcheck, h⟩ := exists_of_bind_eq_ok h
  cases h
  have hunaliased := (of_checkNode hcheck).2.2
  have hnodes : (graph.nodes ++ [Node.fresh ⟨graph.nextNode⟩ kernel refs]).filter
      (·.id != ⟨graph.nextNode⟩) = graph.nodes := by
    have hold : graph.nodes.filter (·.id != ⟨graph.nextNode⟩) = graph.nodes :=
      List.filter_eq_self.2 fun node hnode ↦
        bne_iff_ne.2 (ne_nextNode_of_mem_wirings hbalanced (List.mem_map_of_mem hnode))
    rw [List.filter_append, hold]
    simp [Node.fresh]
  have hproducers : removeProducers ⟨graph.nextNode⟩ (addProducers ⟨graph.nextNode⟩
      graph.producers (refs.zip kernel.signature.parameters)) = graph.producers :=
    removeProducers_addProducers hunaliased hbalanced.sorted fun entry hentry ↦
      ⟨hbalanced.ne_nil_of_mem_producers hentry, nextNode_not_mem_producers hbalanced hentry⟩
  have harena := unbindSlots_bindSlots hbalanced hcheck
  simp only [removeNode, hnode, bind, Except.bind, pure, Except.pure]
  rw [Except.ok.injEq]
  simp only [invalidate, hnodes, hproducers]
  rw [Node.fresh, harena]

end Graph

namespace Call

/-- Whatever has been done to a graph, removing a node right after it was added succeeds. Objects,
nodes and the map of producers are then what they were before; one number of a node is used up, and
there is no plan. -/
theorem removeNode_applyAll (id : GraphId) (context : Context) (calls : List Call)
    {kernel : RegisteredKernel} {refs : List DataRef} {node : NodeId} {added : Graph}
    (hadd : (applyAll (.empty id context) calls).addNodeWithKernel kernel refs =
      .ok (node, added)) :
    let graph := applyAll (.empty id context) calls
    added.removeNode node = .ok
      { graph with
        nextNode := graph.nextNode + 1
        state := .unverified
        plan := none } :=
  Graph.removeNode_of_added (balanced_applyAll id context calls) hadd

/-- Calls that leave a plan, and a virtual image which only the node that writes it holds. -/
def filled : List Call :=
  let ref (data : Nat) : DataRef := { graph := ⟨0⟩, id := ⟨data⟩ }
  let hint : ImageHint := { format := some .u8, width := some 2, height := some 1 }
  [.operation (.createScalar (.u32 7)), .operation (.createVirtualImage hint),
    .operation .createVirtual,
    .operation (.addNodeWithKernel { id := ⟨0⟩, kernel := Kernels.fill } [ref 0, ref 1]),
    .operation (.release (ref 1)), .operation .verify]

/-- A node that reads that image through two slots comes and goes. -/
theorem removeNode_filled :
    let ref (data : Nat) : DataRef := { graph := ⟨0⟩, id := ⟨data⟩ }
    let graph := applyAll (.empty ⟨0⟩ Operation.plainContext) filled
    graph.plan.isSome = true ∧
      ∃ added, graph.addNodeWithKernel { id := ⟨0⟩, kernel := Kernels.absDiff }
          [ref 1, ref 1, ref 2] = .ok (⟨1⟩, added) ∧
        added.removeNode ⟨1⟩ = .ok
          { graph with nextNode := 2, state := .unverified, plan := none } := by
  intro ref graph
  have hok : ∃ added, graph.addNodeWithKernel { id := ⟨0⟩, kernel := Kernels.absDiff }
      [ref 1, ref 1, ref 2] = .ok (⟨1⟩, added) := ⟨_, rfl⟩
  obtain ⟨added, hadd⟩ := hok
  exact ⟨by decide +kernel, added, hadd, removeNode_applyAll ⟨0⟩ Operation.plainContext filled hadd⟩

end Call

end ImageFlow
