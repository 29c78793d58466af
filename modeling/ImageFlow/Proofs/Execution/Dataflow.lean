import ImageFlow.Proofs.Verification.PlanValidity

/-!
# Dataflow of a run

A run of a graph that has a plan executes every node once, and no node before one that writes what
it reads. Nothing else writes what a node is bound to, so what a node has been shown in the slots
that it only reads is what these objects hold in the end, and so is what it has left in the slots
that it writes. Nodes between which there is no edge touch different objects and can change places,
so a run comes to the same in every order that respects the edges: by levels, in whatever order the
nodes of a level are taken, or one node at a time.
-/

namespace ImageFlow

/-! ## Nodes that do not meet -/

/-- Nodes of which neither writes what the other is bound to. -/
structure Node.Independent (first second : Node) : Prop where
  left : ∀ binding ∈ second.bindings, binding.ref.id ∉ first.writes
  right : ∀ binding ∈ first.bindings, binding.ref.id ∉ second.writes

namespace Node

variable {first second node : Node} {memory : Memory} {data : DataId}

theorem Independent.symm (h : first.Independent second) : second.Independent first :=
  ⟨h.right, h.left⟩

theorem mem_bindings_of_mem_writes (h : data ∈ node.writes) :
    ∃ binding ∈ node.bindings, binding.ref.id = data := by
  obtain ⟨binding, hbinding, hdata⟩ := List.mem_map.1 h
  exact ⟨binding, (List.mem_filter.1 hbinding).1, hdata⟩

theorem Independent.completes_leave (h : first.Independent second) (memory : Memory) :
    second.completes (first.leave memory) = second.completes memory :=
  completes_congr fun binding hbinding ↦ leave_of_not_mem_writes (h.left binding hbinding)

/-- What a node writes is the same after an independent node. -/
theorem Independent.leave_leave_of_mem (h : first.Independent second) (memory : Memory)
    (hdata : data ∈ second.writes) :
    second.leave (first.leave memory) data = second.leave memory data := by
  obtain ⟨binding, hbinding, rfl⟩ := mem_bindings_of_mem_writes hdata
  apply leave_congr
  · exact fun other hother ↦ leave_of_not_mem_writes (h.left other hother)
  · exact leave_of_not_mem_writes (h.left binding hbinding)

theorem Independent.leave_comm (h : first.Independent second) (memory : Memory) :
    second.leave (first.leave memory) = first.leave (second.leave memory) := by
  funext data
  by_cases hsecond : data ∈ second.writes
  · obtain ⟨binding, hbinding, hdata⟩ := mem_bindings_of_mem_writes hsecond
    have hfirst : data ∉ first.writes := hdata ▸ h.left binding hbinding
    calc second.leave (first.leave memory) data
        = second.leave memory data := h.leave_leave_of_mem memory hsecond
      _ = first.leave (second.leave memory) data := (leave_of_not_mem_writes hfirst).symm
  by_cases hfirst : data ∈ first.writes
  · calc second.leave (first.leave memory) data
        = first.leave memory data := leave_of_not_mem_writes hsecond
      _ = first.leave (second.leave memory) data :=
        (h.symm.leave_leave_of_mem memory hfirst).symm
  · calc second.leave (first.leave memory) data
        = first.leave memory data := leave_of_not_mem_writes hsecond
      _ = memory data := leave_of_not_mem_writes hfirst
      _ = second.leave memory data := (leave_of_not_mem_writes hsecond).symm
      _ = first.leave (second.leave memory) data := (leave_of_not_mem_writes hfirst).symm

end Node

namespace Graph

variable {graph start : Graph} {plan : Plan} {id : NodeId} {node : Node}

/-! ## The memory during a run -/

/-- The memory after a node has run, if the run goes on. -/
def advance (graph : Graph) (memory : Memory) (id : NodeId) : Option Memory :=
  (graph.node? id).bind fun node ↦
    if node.completes memory then some (node.leave memory) else none

theorem advance_eq (hnode : graph.node? id = some node) (memory : Memory) :
    graph.advance memory id =
      if node.completes memory then some (node.leave memory) else none := by
  rw [advance, hnode]
  rfl

theorem commute_advance {other : NodeId} {second : Node} (hnode : graph.node? id = some node)
    (hother : graph.node? other = some second) (h : node.Independent second) :
    Precedence.Commute graph.advance id other := by
  intro memory
  have hfirst := h.completes_leave memory
  have hsecond := h.symm.completes_leave memory
  simp only [advance_eq hnode, advance_eq hother]
  by_cases hn : node.completes memory = true <;> by_cases hs : second.completes memory = true <;>
    simp [hn, hs, hfirst, hsecond, h.leave_comm memory]

/-- A node without an edge to another writes nothing that the other is bound to. -/
theorem not_mem_writes_of_no_edge (hvalid : graph.PlanValid plan)
    (hbalanced : graph.ledger.Balanced) {writer other : Node} (hwriter : writer ∈ graph.nodes)
    (hother : other ∈ graph.nodes) (hne : writer.id ≠ other.id)
    (hedge : ⟨writer.id, other.id⟩ ∉ graph.edges) {binding : Binding}
    (hbinding : binding ∈ other.bindings) : binding.ref.id ∉ writer.writes := fun hwrites ↦
  hedge (mem_edges_of_bound hbalanced hvalid.one_writer hwriter hother hne hbinding hwrites)

/-- No node that comes after another, in an order that respects the edges, writes what the other is
bound to. -/
theorem not_mem_writes_of_later (hvalid : graph.PlanValid plan) (hbalanced : graph.ledger.Balanced)
    (hnode : node ∈ graph.nodes) {pending : List NodeId} (hnew : node.id ∉ pending)
    (hlater : ∀ later ∈ pending, ⟨later, node.id⟩ ∉ graph.edges) {binding : Binding}
    (hbinding : binding ∈ node.bindings) (later : NodeId) (hmem : later ∈ pending) (other : Node)
    (hother : graph.node? later = some other) : binding.ref.id ∉ other.writes := by
  obtain rfl : other.id = later := id_of_node? hother
  have hne : other.id ≠ node.id := by
    intro hsame
    exact hnew (hsame ▸ hmem)
  exact not_mem_writes_of_no_edge hvalid hbalanced (List.mem_of_find?_eq_some hother) hnode hne
    (hlater _ hmem) hbinding

/-- A node does not write what it only reads. -/
theorem not_mem_writes_of_input (hbalanced : graph.ledger.Balanced) (hnode : node ∈ graph.nodes)
    {binding : Binding} (hbinding : binding ∈ node.bindings)
    (hinput : binding.direction = .input) : binding.ref.id ∉ node.writes := by
  intro hwrites
  obtain ⟨other, hother, hid⟩ := List.mem_map.1 hwrites
  obtain ⟨hmem, hother⟩ := List.mem_filter.1 hother
  obtain ⟨parameter, hslot, hdirection⟩ := Node.exists_slot_of_mem_bindings hbinding
  obtain ⟨parameter', hslot', hdirection'⟩ := Node.exists_slot_of_mem_bindings hmem
  have hsame := (hbalanced.unaliased _ (List.mem_map_of_mem hnode)).writes_eq hslot hslot' hid.symm
  dsimp only at hsame
  rw [hdirection, hdirection', hother, hinput] at hsame
  cases hsame

/-- No two slots of a node share an object that one of them writes. -/
theorem apart_bindings (hbalanced : graph.ledger.Balanced) (hnode : node ∈ graph.nodes) :
    Binding.Apart node.bindings := by
  have hslots : node.wiring.slots.zipIdx.Pairwise fun a b ↦ a.1.1.id = b.1.1.id →
      a.1.2.direction.writes = false ∧ b.1.2.direction.writes = false := by
    have hunaliased := hbalanced.unaliased _ (List.mem_map_of_mem hnode)
    rw [Unaliased, ← List.zipIdx_map_fst 0 node.wiring.slots, List.pairwise_map] at hunaliased
    exact hunaliased
  exact List.pairwise_map.2 hslots

/-! ## The nodes of a run -/

/-- A run of a graph in which some nodes have not run yet. -/
structure Underway (start : Graph) (pending : List NodeId) (run : RunState) : Prop where
  ledger_eq : run.graph.ledger = start.ledger
  nodes : ∀ id ∈ pending, run.graph.node? id = start.node? id

theorem Underway.step {pending : List NodeId} {run : RunState}
    (h : start.Underway (id :: pending) run) (hbalanced : start.ledger.Balanced)
    (hid : id ∈ start.nodeIds) (hnew : id ∉ pending) (options : RunOptions) (watch : Stopwatch) :
    ∃ node, start.node? id = some node ∧ node.Executed run (executeNode options watch id run) ∧
      start.Underway pending (executeNode options watch id run).2 := by
  obtain ⟨node, hnode, hlive⟩ := exists_node hbalanced h.ledger_eq hid
  have hexecuted := executed_executeNode options watch hnode hlive
  refine ⟨node, (h.nodes id List.mem_cons_self).symm.trans hnode, hexecuted, ?_, ?_⟩
  · exact (ran_executeNode options watch id run).worked.ledger_eq.trans h.ledger_eq
  · intro other hother
    rw [← h.nodes other (List.mem_cons_of_mem _ hother)]
    apply hexecuted.others
    rw [id_of_node? hnode]
    rintro rfl
    exact hnew hother

/-- What a run comes to depends on the memory alone, and on the nodes as they stood. -/
theorem foldlM_advance {pending : List NodeId} {run : RunState} (h : start.Underway pending run)
    (hbalanced : start.ledger.Balanced) (hids : pending ⊆ start.nodeIds) (hnodup : pending.Nodup)
    (options : RunOptions) (watch : Stopwatch) :
    let ended := Dispatch.inOrder (executeNode options watch) pending run
    pending.foldlM start.advance run.graph.arena.memory =
      if ended.1.isOk then some ended.2.graph.arena.memory else none := by
  induction pending generalizing run with
  | nil => rfl
  | cons id pending ih =>
    obtain ⟨hnew, hnodup⟩ := List.nodup_cons.1 hnodup
    obtain ⟨hid, hids⟩ := List.cons_subset.1 hids
    obtain ⟨node, hnode, hexecuted, hnext⟩ := h.step hbalanced hid hnew options watch
    have hrest := ih hnext hids hnodup
    have hok := hexecuted.isOk_eq
    have hmemory := hexecuted.memory_eq
    rw [List.foldlM_cons, advance_eq hnode, ← hok, ← hmemory, Dispatch.inOrder]
    generalize executeNode options watch id run = outcome at hrest ⊢
    obtain ⟨result, next⟩ := outcome
    cases result with
    | error stop => rfl
    | ok _ => exact hrest

/-! ## What the kernels see -/

end Graph

/-- The node whose kernel is executed in an event. -/
def Event.executed? : Event → Option NodeId
  | .kernel node (.execute _) _ => some node
  | _ => none

/-- If an event executes the kernel of a node, the kernel is shown in the slots that it only reads
what a memory holds. -/
def Event.Shows (graph : Graph) (memory : Memory) (event : Event) : Prop :=
  ∀ id access notes, event = .kernel id (.execute access) notes →
    ∃ node, graph.node? id = some node ∧ ∀ (slot : Nat) (binding : Binding),
      node.bindings[slot]? = some binding → binding.direction = .input →
        access.slots[slot]? = some { writable := false, payload := memory binding.ref.id }

/-- If an event executes the kernel of a node, a memory holds what the kernel has left in the slots
that it writes. -/
def Event.Leaves (graph : Graph) (memory : Memory) (event : Event) : Prop :=
  ∀ id access notes, event = .kernel id (.execute access) notes →
    ∃ node, graph.node? id = some node ∧ ∀ (slot : Nat) (binding : Binding) (after : Slot) payload,
      node.bindings[slot]? = some binding → binding.direction.writes = true →
        (node.kernel.kernel.execute access).2.slots[slot]? = some after →
          after.payload = some payload → memory binding.ref.id = some payload

namespace Node

variable {node : Node} {seen : Memory}

theorem filterMap_executed?_events (node : Node) (seen : Memory) :
    (node.events seen).filterMap Event.executed? = [node.id] := by
  unfold events
  split <;> rfl

/-- A node executes its own kernel only, and shows it what its objects hold. -/
theorem eq_of_mem_events {id : NodeId} {access : Access} {notes : List Note}
    (hevent : Event.kernel id (.execute access) notes ∈ node.events seen) :
    id = node.id ∧ access = node.access seen := by
  rcases List.mem_cons.1 hevent with hfirst | hcallback
  · cases hfirst
    exact ⟨rfl, rfl⟩
  · split at hcallback
    · cases List.mem_singleton.1 hcallback
    · cases hcallback

theorem shows_of_mem_events {graph : Graph} {memory : Memory}
    (hnode : graph.node? node.id = some node)
    (hinputs : ∀ binding ∈ node.bindings, binding.direction = .input →
      seen binding.ref.id = memory binding.ref.id)
    {event : Event} (hevent : event ∈ node.events seen) : event.Shows graph memory := by
  rintro id access notes rfl
  obtain ⟨rfl, rfl⟩ := eq_of_mem_events hevent
  refine ⟨node, hnode, ?_⟩
  intro slot binding hbinding hinput
  have hpayload := hinputs binding (List.mem_of_getElem? hbinding) hinput
  rw [Node.access, List.getElem?_map, hbinding, Option.map_some, hinput, hpayload]
  rfl

theorem leaves_of_mem_events {graph : Graph} {memory : Memory}
    (hnode : graph.node? node.id = some node) (hapart : Binding.Apart node.bindings)
    (hlive : ∀ binding ∈ node.bindings, (seen binding.ref.id).isSome = true)
    (hlast : ∀ binding ∈ node.bindings, memory binding.ref.id = node.leave seen binding.ref.id)
    {event : Event} (hevent : event ∈ node.events seen) : event.Leaves graph memory := by
  rintro id access notes rfl
  obtain ⟨rfl, rfl⟩ := eq_of_mem_events hevent
  refine ⟨node, hnode, ?_⟩
  intro slot binding after payload hbinding hwrites hafter hpayload
  have hmem := List.mem_of_getElem? hbinding
  rw [hlast binding hmem]
  exact leave_eq_of_writes hapart hbinding hwrites (hlive binding hmem) hafter hpayload

end Node

namespace Graph

variable {start : Graph} {plan : Plan}

/-- What a run has done when some nodes have run in it, one after the other. -/
structure Flowed (graph : Graph) (ids : List NodeId) (first last : RunState) : Prop where
  completed_eq : last.completed = first.completed + ids.length
  unwritten : ∀ data, (∀ id ∈ ids, ∀ node, graph.node? id = some node → data ∉ node.writes) →
    last.graph.arena.memory data = first.graph.arena.memory data
  events_eq : ∃ log, last.events = first.events ++ log ∧ log.filterMap Event.executed? = ids ∧
    ∀ event ∈ log, event.Shows graph last.graph.arena.memory ∧
      event.Leaves graph last.graph.arena.memory

/-- A node runs before the others. None of them writes what the node is bound to, and the node does
not write what it only reads. -/
theorem Flowed.cons {ids : List NodeId} {first next last : RunState}
    (h : start.Flowed ids next last) {node : Node} (hnode : start.node? node.id = some node)
    (hexecuted : node.Executed first (.ok (), next)) (hapart : Binding.Apart node.bindings)
    (hlive : ∀ binding ∈ node.bindings, (first.graph.arena.memory binding.ref.id).isSome = true)
    (hinputs : ∀ binding ∈ node.bindings, binding.direction = .input →
      binding.ref.id ∉ node.writes)
    (hothers : ∀ binding ∈ node.bindings, ∀ id ∈ ids, ∀ other, start.node? id = some other →
      binding.ref.id ∉ other.writes) :
    start.Flowed (node.id :: ids) first last := by
  obtain ⟨log, hlog, hexecutes, hshows⟩ := h.events_eq
  have hmemory : next.graph.arena.memory = node.leave first.graph.arena.memory :=
    hexecuted.memory_eq
  have hcompleted : next.completed = first.completed + 1 := hexecuted.completed_eq rfl
  have hevents : next.events = first.events ++ node.events first.graph.arena.memory :=
    hexecuted.events_eq rfl
  have hlast (binding : Binding) (hbinding : binding ∈ node.bindings) :
      last.graph.arena.memory binding.ref.id =
        node.leave first.graph.arena.memory binding.ref.id :=
    (h.unwritten _ (hothers binding hbinding)).trans (congrFun hmemory _)
  constructor
  · rw [h.completed_eq, hcompleted, List.length_cons]
    omega
  · intro data hdata
    obtain ⟨hfirst, hrest⟩ := List.forall_mem_cons.1 hdata
    calc last.graph.arena.memory data
        = next.graph.arena.memory data := h.unwritten data hrest
      _ = node.leave first.graph.arena.memory data := congrFun hmemory data
      _ = first.graph.arena.memory data := Node.leave_of_not_mem_writes (hfirst node hnode)
  · refine ⟨node.events first.graph.arena.memory ++ log, ?_, ?_, ?_⟩
    · rw [hlog, hevents, List.append_assoc]
    · rw [List.filterMap_append, Node.filterMap_executed?_events, hexecutes]
      rfl
    · intro event hevent
      rcases List.mem_append.1 hevent with hown | hlate
      · refine ⟨Node.shows_of_mem_events hnode (fun binding hbinding hinput ↦ ?_) hown,
          Node.leaves_of_mem_events hnode hapart hlive hlast hown⟩
        rw [hlast binding hbinding, Node.leave_of_not_mem_writes (hinputs binding hbinding hinput)]
      · exact hshows event hlate

theorem Underway.flowed {pending : List NodeId} {run last : RunState}
    (h : start.Underway pending run) (hvalid : start.PlanValid plan)
    (hbalanced : start.ledger.Balanced) (hids : pending ⊆ start.nodeIds) (hnodup : pending.Nodup)
    (hrespects : Precedence.Respects start.edges pending)
    (hlive : ∀ node ∈ start.nodes, ∀ binding ∈ node.bindings,
      (run.graph.arena.memory binding.ref.id).isSome = true)
    {options : RunOptions} {watch : Stopwatch}
    (hlast : Dispatch.inOrder (executeNode options watch) pending run = (.ok (), last)) :
    start.Flowed pending run last := by
  induction pending generalizing run with
  | nil =>
    cases hlast
    exact ⟨rfl, fun _ _ ↦ rfl, [], (List.append_nil _).symm, rfl, fun _ hevent ↦ (nomatch hevent)⟩
  | cons id pending ih =>
    obtain ⟨hnew, hnodup⟩ := List.nodup_cons.1 hnodup
    obtain ⟨hid, hids⟩ := List.cons_subset.1 hids
    obtain ⟨hlater, hrespects⟩ := List.pairwise_cons.1 hrespects
    obtain ⟨node, hnode, hexecuted, hnext⟩ := h.step hbalanced hid hnew options watch
    rw [Dispatch.inOrder] at hlast
    generalize executeNode options watch id run = outcome at hlast hexecuted hnext
    obtain ⟨result, next⟩ := outcome
    cases result with
    | error stop => cases hlast
    | ok _ =>
      have hmemory : next.graph.arena.memory = node.leave run.graph.arena.memory :=
        hexecuted.memory_eq
      have hkept : ∀ other ∈ start.nodes, ∀ binding ∈ other.bindings,
          (next.graph.arena.memory binding.ref.id).isSome = true := by
        intro other hother binding hbinding
        rw [hmemory, Node.isSome_leave]
        exact hlive other hother binding hbinding
      have hrest := ih hnext hids hnodup hrespects hkept hlast
      obtain rfl : node.id = id := id_of_node? hnode
      have hmem : node ∈ start.nodes := List.mem_of_find?_eq_some hnode
      exact hrest.cons hnode hexecuted (apart_bindings hbalanced hmem) (hlive node hmem)
        (fun binding ↦ not_mem_writes_of_input hbalanced hmem)
        fun binding ↦ not_mem_writes_of_later hvalid hbalanced hmem hnew hlater

end Graph

end ImageFlow
