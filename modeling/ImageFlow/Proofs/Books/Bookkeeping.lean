import ImageFlow.Proofs.Books.Accurate

/-!
# The books of a graph stay balanced

Whatever clients do to a graph, and whatever stages of their own do in the middle of a verification,
the records of a graph agree with each other: the reference counts, the recorded constraints and the
map of producers say the same as the handles of the nodes, and the counts held by clients are those
that the history of successful calls makes them.
-/

namespace ImageFlow

/-! ## What the books say -/

namespace Graph

/-- The pairs of a node and one of its slots that are bound to an object, in node then slot order.
-/
def boundSlots (graph : Graph) (data : DataId) : List (NodeId × Parameter) :=
  graph.nodes.flatMap fun node ↦
    ((node.refs.zip node.signature.parameters).filter (·.1.id = data)).map fun slot ↦
      (node.id, slot.2)

/-- The nodes that have a slot through which they write an object, oldest first. -/
def writingNodes (graph : Graph) (data : DataId) : List NodeId :=
  (graph.nodes.filter (·.writes.contains data)).map Node.id

/-- No object has two writers. -/
def SingleWriter (graph : Graph) : Prop := ∀ data, (graph.writingNodes data).length ≤ 1

/-- The records of a graph agree with the handles of its nodes, and with how often clients have
retained and released each object. -/
structure Bookkept (graph : Graph) (retains releases : DataId → Nat) : Prop where
  increasing : graph.nodeIds.Pairwise (· < ·)
  below : ∀ id ∈ graph.nodeIds, id.index < graph.nextNode
  slotRefs_eq : ∀ data object, graph.arena.byId? data = some object →
    object.slotRefs = (graph.boundSlots data).length
  clientRefs_eq : ∀ data object, graph.arena.byId? data = some object →
    object.clientRefs = 1 + retains data - releases data
  releases_le : ∀ data, data.index < graph.arena.slots.length → releases data ≤ 1 + retains data
  live_iff : ∀ data, data.index < graph.arena.slots.length →
    ((graph.arena.byId? data).isSome = true ↔
      0 < (1 + retains data - releases data) + (graph.boundSlots data).length)
  bound_live : ∀ node ∈ graph.nodes, ∀ ref ∈ node.refs, ∃ object, graph.arena.get ref = .ok object
  producers_sorted : Ordered.Sorted (graph.producers.map Prod.fst)
  producers_nonempty : ∀ entry ∈ graph.producers, entry.2 ≠ []
  producers_eq : ∀ data, graph.writers data = graph.writingNodes data
  writers_increasing : ∀ data, (graph.writers data).Pairwise (· < ·)
  constraints_eq : ∀ data object, graph.arena.byId? data = some object →
    object.constraints =
      if object.isVirtual then
        (graph.boundSlots data).map fun (node, slot) ↦ (node, slot.constraint)
      else []

variable {graph : Graph} {retains releases : DataId → Nat}

theorem boundSlots_eq (graph : Graph) (data : DataId) :
    graph.boundSlots data = graph.ledger.slotsOn data := by
  simp only [boundSlots, Ledger.slotsOn, ledger, List.flatMap_map, Wiring.slotsOn, slotsOn,
    List.map_map]
  rfl

theorem writingNodes_eq (graph : Graph) (data : DataId) :
    graph.writingNodes data = graph.ledger.writersOf data := by
  simp only [writingNodes, Ledger.writersOf, ledger, List.filter_map, List.map_map]
  have hwrites (node : Node) : node.writes.contains data = node.wiring.writes data := by
    rw [Bool.eq_iff_iff, List.contains_iff_mem]
    exact Node.mem_writes_iff
  simp only [hwrites]
  rfl

theorem SingleWriter.of_nodes_eq {other : Graph} (h : graph.SingleWriter)
    (hnodes : other.nodes = graph.nodes) : other.SingleWriter := by
  unfold SingleWriter writingNodes
  rw [hnodes]
  exact h

/-- Only one node writes an object. -/
theorem SingleWriter.id_eq (h : graph.SingleWriter) {first second : Node}
    (hfirst : first ∈ graph.nodes) (hsecond : second ∈ graph.nodes) {data : DataId}
    (hwrites : data ∈ first.writes) (hwrites' : data ∈ second.writes) : first.id = second.id := by
  have hmem {node : Node} (hnode : node ∈ graph.nodes) (hdata : data ∈ node.writes) :
      node.id ∈ graph.writingNodes data :=
    List.mem_map_of_mem (List.mem_filter.2 ⟨hnode, List.contains_iff_mem.2 hdata⟩)
  have hone := h data
  have hin := hmem hfirst hwrites
  have hin' := hmem hsecond hwrites'
  match hwriters : graph.writingNodes data with
  | [] =>
    rw [hwriters] at hin
    cases hin
  | [id] =>
    rw [hwriters] at hin hin'
    exact (List.mem_singleton.1 hin).trans (List.mem_singleton.1 hin').symm
  | _ :: _ :: _ =>
    rw [hwriters] at hone
    simp at hone

theorem nodeIds_eq (graph : Graph) : graph.ledger.wirings.map Wiring.id = graph.nodeIds := by
  simp only [ledger, List.map_map]
  rfl

/-- What a node is bound to is live. -/
theorem exists_get (h : graph.ledger.Balanced) {node : Node} (hnode : node ∈ graph.nodes)
    {ref : DataRef} (href : ref ∈ node.refs) : ∃ object, graph.arena.get ref = .ok object := by
  have hmem : node.wiring ∈ graph.ledger.wirings := List.mem_map_of_mem hnode
  obtain ⟨account, haccount⟩ := Option.isSome_iff_exists.1 (h.live_of_mem_refs hmem href)
  obtain ⟨object, hobject, -⟩ := exists_of_account haccount
  exact ⟨object, Arena.get_eq_ok_iff.2 ⟨h.own node.wiring hmem ref href, hobject⟩⟩

/-- A virtual object has constraints as long as some node is bound to it. -/
theorem constraints_ne_nil_iff (h : graph.ledger.Balanced) {data : DataId} {object : DataObject}
    (hobject : graph.arena.byId? data = some object) (hvirtual : object.isVirtual = true) :
    object.constraints ≠ [] ↔
      ∃ node ∈ graph.nodes, ∃ binding ∈ node.bindings, binding.ref.id = data := by
  have hrecorded : object.constraints =
      (graph.ledger.slotsOn data).map fun (node, slot) ↦ (node, slot.constraint) := by
    have haccount := h.recorded data _ (account_of_byId? hobject)
    exact haccount.trans (if_pos hvirtual)
  rw [hrecorded, ne_eq, List.map_eq_nil_iff, Ledger.slotsOn, List.flatMap_eq_nil_iff]
  constructor
  · intro hslots
    obtain ⟨wiring, hslots⟩ := not_forall.1 hslots
    obtain ⟨hwiring, hslots⟩ := Classical.not_imp.1 hslots
    obtain ⟨node, hnode, rfl⟩ := List.mem_map.1 hwiring
    rw [Wiring.slotsOn, List.map_eq_nil_iff, slotsOn, List.map_eq_nil_iff] at hslots
    obtain ⟨slot, hslot⟩ := List.exists_mem_of_ne_nil _ hslots
    obtain ⟨hslot, hdata⟩ := List.mem_filter.1 hslot
    obtain ⟨binding, hbinding, href⟩ := Node.exists_mem_zip_bindings hslot
    exact ⟨node, hnode, binding, (List.of_mem_zip hbinding).1,
      (congrArg DataRef.id href).trans (of_decide_eq_true hdata)⟩
  · rintro ⟨node, hnode, binding, hbinding, rfl⟩ hnone
    obtain ⟨parameter, hslot, -⟩ := Node.exists_slot_of_mem_bindings hbinding
    have hslots := hnone node.wiring (List.mem_map_of_mem hnode)
    rw [Wiring.slotsOn, List.map_eq_nil_iff, slotsOn, List.map_eq_nil_iff] at hslots
    exact List.ne_nil_of_mem (List.mem_filter.2 ⟨hslot, decide_eq_true rfl⟩) hslots

/-- An object lives as long as a client or a slot holds it. -/
theorem Accurate.isSome_iff (h : graph.Accurate retains releases) {data : DataId}
    (hlt : data.index < graph.arena.slots.length) :
    (graph.arena.byId? data).isSome = true ↔
      0 < (1 + retains data - releases data) + (graph.ledger.slotsOn data).length := by
  cases hobject : graph.arena.byId? data with
  | none =>
    have hnone : graph.ledger.account data = none := by simp [ledger, hobject]
    have hfreed := h.tallied.freed data hlt hnone
    simp [h.balanced.slotsOn_eq_nil hnone, hfreed]
  | some object =>
    have haccount := account_of_byId? hobject
    have hheld := h.balanced.held data _ haccount
    have hcounted := h.balanced.counted data _ haccount
    have houtstanding := h.tallied.outstanding data _ haccount
    simp only [Option.isSome_some, true_iff]
    omega

theorem Accurate.writers_eq (h : graph.Accurate retains releases) (data : DataId) :
    graph.writers data = graph.writingNodes data := by
  have hproduced : Ordered.find? data graph.producers = _ := h.balanced.produced data
  rw [writers, writingNodes_eq, hproduced]
  split
  · next hnone =>
    rw [hnone]
    rfl
  · rfl

theorem Accurate.bookkept (h : graph.Accurate retains releases) :
    graph.Bookkept retains releases := by
  have hbalanced := h.balanced
  have hincreasing : graph.nodeIds.Pairwise (· < ·) := by
    rw [← nodeIds_eq]
    exact hbalanced.increasing
  exact
    { increasing := hincreasing
      below := by
        intro id hid
        rw [← nodeIds_eq] at hid
        obtain ⟨wiring, hwiring, rfl⟩ := List.mem_map.1 hid
        exact hbalanced.below wiring hwiring
      slotRefs_eq := by
        intro data object hobject
        rw [boundSlots_eq]
        exact hbalanced.counted data _ (account_of_byId? hobject)
      clientRefs_eq := by
        intro data object hobject
        have houtstanding := h.tallied.outstanding data _ (account_of_byId? hobject)
        exact Nat.eq_sub_of_add_eq houtstanding
      releases_le := fun data hlt ↦ h.tallied.releases_le hlt
      live_iff := by
        intro data hlt
        rw [boundSlots_eq]
        exact h.isSome_iff hlt
      bound_live := fun node hnode ref href ↦ exists_get hbalanced hnode href
      producers_sorted := hbalanced.sorted
      producers_nonempty := fun entry hentry ↦ hbalanced.ne_nil_of_mem_producers hentry
      producers_eq := h.writers_eq
      writers_increasing := by
        intro data
        rw [h.writers_eq]
        exact hincreasing.sublist (List.filter_sublist.map Node.id)
      constraints_eq := by
        intro data object hobject
        rw [boundSlots_eq]
        exact hbalanced.recorded data _ (account_of_byId? hobject) }

end Graph

/-! ## Verification by any stages -/

namespace Move

theorem applyAll_append (graph : Graph) (first second : List Move) :
    applyAll graph (first ++ second) = applyAll (applyAll graph first) second :=
  List.foldl_append ..

end Move

/-- Stages run one after the other make moves only if each of them does. -/
theorem Stage.exists_moves_of_runAll {stages : List Stage}
    (h : ∀ stage ∈ stages, stage ∈ Stage.standard ∨ stage.MovesOnly) (report : VerifyReport)
    (draft : Draft) :
    ∃ moves,
      ((Stage.runAll report stages).run draft).2.graph = Move.applyAll draft.graph moves := by
  induction stages generalizing report draft with
  | nil => exact ⟨[], rfl⟩
  | cons stage rest ih =>
    obtain ⟨hstage, hrest⟩ := List.forall_mem_cons.1 h
    have hfirst : ∃ moves, (stage.run.run draft).2.graph = Move.applyAll draft.graph moves := by
      rcases hstage with hstandard | hmoves
      · exact ⟨[.stage stage hstandard draft.plan draft.events], rfl⟩
      · exact hmoves draft
    rw [Stage.runAll]
    refine Stateful.rel_bind
      (R := fun a b : Draft ↦ ∃ moves, b.graph = Move.applyAll a.graph moves) ?_ hfirst
      fun _ mid _ ↦ ih hrest _ mid
    rintro a b c ⟨first, hfirst⟩ ⟨second, hsecond⟩
    exact ⟨first ++ second, by rw [hsecond, hfirst, Move.applyAll_append]⟩

theorem Graph.exists_moves_of_verifyWith {stages : List Stage}
    (h : ∀ stage ∈ stages, stage ∈ Stage.standard ∨ stage.MovesOnly) (graph : Graph) :
    ∃ moves, (graph.verifyWith stages).graph = Move.applyAll graph moves := by
  obtain ⟨moves, hmoves⟩ := Stage.exists_moves_of_runAll h .empty
    { graph := graph.invalidate, plan := .empty, events := [] }
  unfold verifyWith runStages
  generalize (Stage.runAll .empty stages).run
    { graph := graph.invalidate, plan := .empty, events := [] } = ended at hmoves ⊢
  obtain ⟨result, draft⟩ := ended
  have hstages : draft.graph = Move.applyAll graph (.begin :: moves) := hmoves
  cases result with
  | ok report =>
    refine ⟨.begin :: moves ++ [.install draft.plan], ?_⟩
    rw [Move.applyAll_append, ← hstages]
    rfl
  | error e =>
    refine ⟨.begin :: moves ++ [.abort], ?_⟩
    rw [Move.applyAll_append, ← hstages]
    rfl

/-- The books of every graph agree, whatever has happened to it since it was empty; and whatever
stages of a client's own have verified it, what has happened to it is a list of moves. -/
theorem Graph.bookkept_applyAll (id : GraphId) (context : Context) (moves : List Move) :
    (Move.applyAll (.empty id context) moves).Bookkept
        (Move.retained (.empty id context) moves) (Move.released (.empty id context) moves) ∧
      ∀ stages : List Stage, (∀ stage ∈ stages, stage ∈ Stage.standard ∨ stage.MovesOnly) →
        ∃ more, ((Move.applyAll (.empty id context) moves).verifyWith stages).graph =
          Move.applyAll (.empty id context) (moves ++ more) := by
  constructor
  · have haccurate := Move.accurate_applyAll (accurate_empty id context) moves
    simp only [Nat.zero_add] at haccurate
    exact haccurate.bookkept
  · intro stages hstages
    obtain ⟨more, hmore⟩ := exists_moves_of_verifyWith hstages
      (Move.applyAll (.empty id context) moves)
    refine ⟨more, ?_⟩
    rw [hmore, Move.applyAll_append]

end ImageFlow
