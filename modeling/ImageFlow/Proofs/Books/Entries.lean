import ImageFlow.Proofs.Books.Bindings
import ImageFlow.Proofs.Books.Edit
import ImageFlow.Proofs.Session.Change
import ImageFlow.Proofs.Verification.Frame

/-!
# What is entered into the books

Runs, payloads and verification leave the books of a graph alone. Adding a node enters it and
removing a node strikes it out; that the objects go along is what the checks before an edit are for.
-/

namespace ImageFlow

/-! ## What leaves the books alone -/

namespace Graph

variable {before after : Graph}

theorem account_eq_of_revised {R : DataObject → DataObject → Prop} {arena revised : Arena}
    (hR : ∀ a b, R a b → b.account = a.account) (h : arena.Revised R revised) (data : DataId) :
    (revised.byId? data).map DataObject.account = (arena.byId? data).map DataObject.account := by
  have hobject := h.objects data
  generalize arena.byId? data = a at hobject ⊢
  generalize revised.byId? data = b at hobject ⊢
  cases hobject with
  | none => rfl
  | some hab => exact congrArg some (hR _ _ hab)

theorem ledger_eq_of_redrafted (h : before.Revised DataObject.Redrafted after) :
    after.ledger = before.ledger := by
  obtain ⟨arena, harena, rfl⟩ := h
  have haccount (a b : DataObject) (hab : a.Redrafted b) : b.account = a.account := by
    rw [DataObject.account, DataObject.account, hab.id_eq, hab.isVirtual_eq, hab.hint_eq,
      hab.constraints_eq, hab.clientRefs_eq, hab.slotRefs_eq]
  rw [ledger, ledger, harena.graph_eq, harena.length_eq]
  congr 1
  funext data
  exact account_eq_of_revised haccount harena data

theorem Worked.ledger_eq (h : before.Worked after) : after.ledger = before.ledger := by
  have haccount (a b : DataObject) (hab : a.Overwritten b) : b.account = a.account := by
    rcases hab with rfl | ⟨payload, rfl⟩ <;> rfl
  rw [ledger, ledger, h.arena.graph_eq, h.arena.length_eq, h.wirings, h.nextNode, h.producers]
  congr 1
  funext data
  exact account_eq_of_revised haccount h.arena data

end Graph

/-- Running stages that redraft objects at most one after the other redrafts objects at most. -/
theorem Stage.redrafted_runAll {stages : List Stage} (h : ∀ stage ∈ stages, stage.Redrafts)
    (report : VerifyReport) (draft : Draft) :
    draft.graph.Revised DataObject.Redrafted ((Stage.runAll report stages).run draft).2.graph := by
  induction stages generalizing report draft with
  | nil => exact .refl .refl _
  | cons stage rest ih =>
    obtain ⟨hstage, hrest⟩ := List.forall_mem_cons.1 h
    rw [Stage.runAll]
    exact Stateful.rel_bind
      (R := fun a b : Draft ↦ a.graph.Revised DataObject.Redrafted b.graph)
      (fun _ _ _ ↦ .trans DataObject.Redrafted.trans)
      (hstage draft) fun _ mid _ ↦ ih hrest _ mid

theorem Graph.redrafted_abortVerification (graph : Graph) :
    graph.invalidate.Revised DataObject.Redrafted graph.abortVerification :=
  ⟨_, Arena.revised_map _ DataObject.redrafted_reset, rfl⟩

theorem Graph.ledger_abortVerification (graph : Graph) :
    graph.abortVerification.ledger = graph.ledger := by
  have hreset := ledger_eq_of_redrafted (redrafted_abortVerification graph)
  exact hreset

/-- Whether it passes or not, a verification by such stages redrafts objects at most, apart from
what it says of plan and state. -/
theorem Graph.redrafted_runStages {stages : List Stage} (h : ∀ stage ∈ stages, stage.Redrafts)
    (graph : Graph) :
    graph.invalidate.Revised DataObject.Redrafted (graph.runStages stages).graph.invalidate := by
  obtain ⟨arena, harena, hgraph⟩ :=
    Stage.redrafted_runAll h .empty { graph, plan := .empty, events := [] }
  unfold runStages
  generalize (Stage.runAll .empty stages).run { graph, plan := .empty, events := [] } = ended
    at hgraph ⊢
  obtain ⟨result, draft⟩ := ended
  have hlast : graph.invalidate.Revised DataObject.Redrafted draft.graph.invalidate :=
    ⟨arena, harena, congrArg invalidate hgraph⟩
  cases result with
  | ok report => exact hlast
  | error e =>
    exact hlast.trans DataObject.Redrafted.trans (redrafted_abortVerification draft.graph)

theorem Graph.ledger_runStages {stages : List Stage} (h : ∀ stage ∈ stages, stage.Redrafts)
    (graph : Graph) :
    (graph.runStages stages).graph.ledger = graph.ledger := by
  have hledger := ledger_eq_of_redrafted (redrafted_runStages h graph)
  exact hledger

theorem Graph.nodes_runStages {stages : List Stage} (h : ∀ stage ∈ stages, stage.Redrafts)
    (graph : Graph) : (graph.runStages stages).graph.nodes = graph.nodes :=
  (redrafted_runStages h graph).nodes_eq

/-! ## What enters the books -/

namespace Graph

variable {graph changed : Graph} {kernel : RegisteredKernel} {refs : List DataRef} {id : NodeId}

/-- What a check of a node has made sure of. -/
theorem of_checkNode {signature : Signature} (h : graph.checkNode signature refs = .ok ()) :
    refs.length = signature.parameters.length ∧
      (∀ ref ∈ refs, ∃ object, graph.arena.get ref = .ok object) ∧
      Unaliased (refs.zip signature.parameters) := by
  have hlegal := checkNode_eq_ok_iff.1 h
  refine ⟨hlegal.count, fun ref href ↦ ?_, unaliased_iff.2 hlegal.unaliased⟩
  have hlive := hlegal.live ref href
  cases hget : graph.arena.get ref with
  | error e =>
    rw [hget] at hlive
    cases hlive
  | ok object => exact ⟨object, rfl⟩

/-- The entry of a new node in the books. -/
def newWiring (graph : Graph) (kernel : RegisteredKernel) (refs : List DataRef) : Wiring :=
  { id := ⟨graph.nextNode⟩, refs, signature := kernel.signature }

theorem ledger_of_addNodeWithKernel (h : graph.addNodeWithKernel kernel refs = .ok (id, changed)) :
    graph.checkNode kernel.signature refs = .ok () ∧
      changed.ledger = graph.ledger.add (graph.newWiring kernel refs) := by
  obtain ⟨⟨⟩, hcheck, h⟩ := exists_of_bind_eq_ok h
  cases h
  refine ⟨hcheck, ?_⟩
  simp only [ledger, invalidate, Ledger.add, graph_bindSlots, length_slots_bindSlots,
    byId?_bindSlots, List.map_append, Option.map_map]
  rfl

theorem account_unbound (node : NodeId) (slots : Nat) (object : DataObject) :
    ((object.unbound node slots).ifHeld).map DataObject.account =
      object.account.unbound node slots := by
  have hcount : (object.unbound node slots).refCount =
      object.account.clientRefs + (object.account.slotRefs - slots) := rfl
  rw [DataObject.ifHeld, Account.unbound, hcount]
  by_cases hfreed : object.account.clientRefs + (object.account.slotRefs - slots) = 0
  · rw [if_pos hfreed, if_pos hfreed]
    rfl
  · rw [if_neg hfreed, if_neg hfreed]
    rfl

/-- What removing a node does, and what is left of each object. -/
theorem exists_of_removeNode (hbalanced : graph.ledger.Balanced)
    (h : graph.removeNode id = .ok changed) :
    ∃ node ∈ graph.nodes, node.id = id ∧
      changed = { graph with
        nodes := graph.nodes.filter (·.id != id)
        arena := unbindSlots id graph.arena node.refs
        producers := removeProducers id graph.producers }.invalidate ∧
      ∀ data, changed.arena.byId? data =
        if holdsOf data node.refs = 0 then graph.arena.byId? data
        else (graph.arena.byId? data).bind fun object ↦
          (object.unbound id (holdsOf data node.refs)).ifHeld := by
  obtain ⟨node, hnode, h⟩ := exists_of_bind_eq_ok h
  cases h
  unfold Graph.node at hnode
  split at hnode
  · next found hfound =>
    cases hnode
    have hmem : node ∈ graph.nodes := List.mem_of_find?_eq_some hfound
    have hwiring : node.wiring ∈ graph.ledger.wirings := List.mem_map_of_mem hmem
    have hplaced : graph.arena.Placed := fun data object hobject ↦
      hbalanced.placed data object.account (account_of_byId? hobject)
    have hheld (data : DataId) (object : DataObject)
        (hobject : graph.arena.byId? data = some object) :
        holdsOf data node.refs ≤ object.slotRefs :=
      hbalanced.holdsOf_le hwiring (account_of_byId? hobject)
    refine ⟨node, hmem, by simpa using List.find?_some hfound, rfl, fun data ↦ ?_⟩
    exact byId?_unbindSlots node.refs hplaced (hbalanced.own node.wiring hwiring) hheld
  · cases hnode

theorem ledger_of_removeNode (hbalanced : graph.ledger.Balanced)
    (h : graph.removeNode id = .ok changed) :
    ∃ node ∈ graph.nodes, changed.ledger = graph.ledger.remove node.wiring := by
  obtain ⟨node, hmem, rfl, hchanged, hslots⟩ := exists_of_removeNode hbalanced h
  refine ⟨node, hmem, ?_⟩
  have haccount (data : DataId) :
      changed.ledger.account data = (graph.ledger.remove node.wiring).account data := by
    change (changed.arena.byId? data).map DataObject.account =
      if holdsOf data node.refs = 0 then _ else
        Option.bind _ (Account.unbound node.id (holdsOf data node.refs))
    rw [hslots]
    split
    · rfl
    · rw [Option.map_bind, ledger, Option.bind_map]
      congr 1
      funext object
      exact account_unbound node.id _ object
  have hwirings : (graph.nodes.filter (·.id != node.id)).map Node.wiring =
      (graph.nodes.map Node.wiring).filter (·.id != node.id) := by
    rw [List.filter_map]
    rfl
  have hledger : changed.ledger =
      { changed.ledger with account := (graph.ledger.remove node.wiring).account } := by
    rw [← funext haccount]
  rw [hledger, hchanged]
  simp only [ledger, invalidate, Ledger.remove, unbindSlots_frame, hwirings]
  rfl

end Graph

end ImageFlow
