import ImageFlow.Proofs.Execution.Settled
import ImageFlow.Proofs.Kernels.Bodies

/-!
# What the run of a node can change

Whatever the kernel of a node does, and however its run ends, only payloads of objects that the node
writes can be others afterwards, and such an object had memory before and has memory still. The
objects are the same in everything else, and so is the graph but for what it counts of the node. A
kernel that works by calls alone needs no such protection: what it leaves in the slots of the node
is what the objects hold afterwards, and the slots that it only reads are as they were.
-/

namespace ImageFlow

/-! ## Runs of one node -/

/-- A run of a node that leaves everything alone but payloads of objects that the node writes, which
keep their memory, and what is counted of the node. -/
structure Node.Confined (node : Node) (before after : Graph) : Prop where
  frame : after = { before with arena := after.arena, nodes := after.nodes }
  graph_eq : after.arena.graph = before.arena.graph
  length_eq : after.arena.slots.length = before.arena.slots.length
  objects : ∀ data, after.arena.byId? data = before.arena.byId? data ∨
    data ∈ node.writes ∧ ∃ object held left, before.arena.byId? data = some object ∧
      object.payload = some held ∧
        after.arena.byId? data = some { object with payload := some left }
  nodes : after.nodes.map Node.fixed = before.nodes.map Node.fixed
  others : ∀ id, id ≠ node.id → after.node? id = before.node? id

namespace Graph

variable {graph : Graph} {id : NodeId} {node : Node} {run : RunState} {options : RunOptions}
  {watch : Stopwatch}

/-- An object that a node leaves: it is as it was, or the node writes it and had memory to write. -/
theorem eq_or_rewritten {before after : Graph} (hran : before.Ran after)
    (hmemory : after.arena.memory = node.leave before.arena.memory) (data : DataId) :
    after.arena.byId? data = before.arena.byId? data ∨
      data ∈ node.writes ∧ ∃ object held left, before.arena.byId? data = some object ∧
        object.payload = some held ∧
          after.arena.byId? data = some { object with payload := some left } := by
  have hpayload : (after.arena.byId? data).bind DataObject.payload =
      node.leave before.arena.memory data := congrFun hmemory data
  cases hbefore : before.arena.byId? data with
  | none =>
    have hrel := hran.arena.isSome_byId? data
    rw [hbefore] at hrel
    exact .inl (by simpa using hrel)
  | some object =>
    obtain ⟨revised, hafter, hsame | ⟨left, rfl⟩⟩ := hran.arena.some_of_some hbefore
    · exact .inl (by rw [hafter, hsame])
    · rw [hafter] at hpayload ⊢
      have hleft : some left = node.leave before.arena.memory data := hpayload
      have hheld : before.arena.memory data = object.payload := by
        rw [Arena.memory, hbefore]
        rfl
      by_cases hwrites : data ∈ node.writes
      · have hsome := node.isSome_leave before.arena.memory data
        rw [← hleft, hheld] at hsome
        obtain ⟨held, hobject⟩ := Option.isSome_iff_exists.1 hsome.symm
        exact .inr ⟨hwrites, object, held, left, rfl, hobject, rfl⟩
      · rw [Node.leave_of_not_mem_writes hwrites, hheld] at hleft
        rw [hleft]
        exact .inl rfl

theorem confined_of_executed
    (hnode : run.graph.node? id = some node)
    (hlive : ∀ binding ∈ node.bindings, ∃ object, run.graph.arena.get binding.ref = .ok object) :
    node.Confined run.graph (executeNode options watch id run).2.graph := by
  have hran := ran_executeNode options watch id run
  have hexecuted := executed_executeNode options watch hnode hlive
  have hframe := hran.frame
  rw [(tried_executeNode options watch hnode hlive).perf_eq] at hframe
  exact ⟨hframe, hran.arena.graph_eq, hran.arena.length_eq,
    eq_or_rewritten hran hexecuted.memory_eq, hran.nodes, hexecuted.others⟩

/-- What nodes have come to before does not matter: the graph is wired as it was. -/
theorem ledger_attempt (options : RunOptions) (watch : Stopwatch) (ids : List NodeId)
    (run : RunState) :
    (Dispatch.attempt (executeNode options watch) ids run).2.graph.ledger = run.graph.ledger := by
  induction ids generalizing run with
  | nil => rfl
  | cons id rest ih =>
    rw [Dispatch.attempt]
    exact (ih _).trans (ran_executeNode options watch id run).worked.ledger_eq

end Graph

namespace Call

/-- The run of a node after any others, in any graph that clients have made. The graph is the same
afterwards but for payloads of objects that the node writes, which had memory and still have it, and
for what is counted of the node. If the kernel is a standard one, over whatever box filter, or makes
whatever calls it likes, then each object that the node is bound to holds what the kernel has left
in its slot, and the slots that are only read are as they were. -/
theorem confined_executeNode (filter : BoxFilter) (id : GraphId) (context : Context)
    (calls : List Call) (state : GraphState) (options : RunOptions) (watch : Stopwatch)
    (ids : List NodeId) {node : Node} :
    let graph := applyAll (.empty id context) calls
    let before := (Dispatch.attempt (Graph.executeNode options watch) ids
      { graph := { graph with state }, events := [], completed := 0 }).2
    let after := (Graph.executeNode options watch node.id before).2
    let shown := node.access before.graph.arena.memory
    node ∈ before.graph.nodes →
      node.Confined before.graph after.graph ∧
      (node.kernel.kernel ∈ Kernels.standard filter ∨
          (∃ body : Body, ∀ access, node.kernel.kernel.execute access = body.run access) →
        node.access after.graph.arena.memory = (node.kernel.kernel.execute shown).2 ∧
          shown.Kept (node.access after.graph.arena.memory)) := by
  intro graph before after shown hnode
  have hbalanced : before.graph.ledger.Balanced := by
    rw [Graph.ledger_attempt options watch ids]
    exact balanced_applyAll id context calls
  have hfound := (Graph.node?_eq_some_iff (Graph.nodup_nodeIds hbalanced)).2 ⟨hnode, rfl⟩
  have hlive : ∀ binding ∈ node.bindings, ∃ object,
      before.graph.arena.get binding.ref = .ok object := fun binding hbinding ↦
    Graph.exists_get hbalanced hnode (Node.ref_mem_of_mem_bindings hbinding)
  refine ⟨Graph.confined_of_executed hfound hlive, fun hkernel ↦ ?_⟩
  have hkept : shown.Kept (node.kernel.kernel.execute shown).2 := by
    rcases hkernel with hstandard | ⟨body, hbody⟩
    · exact (Kernels.repeating_of_mem_standard hstandard).kept shown
    · rw [hbody]
      exact body.kept_run shown
  have hleft : node.access after.graph.arena.memory = (node.kernel.kernel.execute shown).2 := by
    rw [(Graph.executed_executeNode options watch hfound hlive).memory_eq]
    exact Node.access_leave (Graph.apart_bindings hbalanced hnode) hkept
  exact ⟨hleft, by rw [hleft]; exact hkept⟩

/-- A body that wants to overwrite what it reads, is refused, overwrites what it writes instead, and
then fails. -/
def intruding (payload : Payload) : Body :=
  .call (.put 0 payload) fun
    | .ok _ => .done
    | .error e => .call (.put 1 payload) fun _ ↦ .fail e

/-- A node with such a body that reads one object and writes another one. -/
def intruder (payload : Payload) : Node :=
  let slot (name : String) (direction : Direction) : Parameter :=
    { name, direction, constraint := .anyImage, description := none }
  let kernel : Kernel := Kernel.ofExecute
    { name := "intruder"
      description := ""
      parameters := [slot "source" .input, slot "target" .output]
      tags := [] }
    (intruding payload).run
  .fresh ⟨0⟩ { id := ⟨0⟩, kernel } [⟨⟨0⟩, ⟨0⟩⟩, ⟨⟨0⟩, ⟨1⟩⟩]

/-- Calls that make two images and bind such a node to them. -/
def intrusion (payload : Payload) : List Call :=
  [.operation (.create (.image 1 1 .u8)), .operation (.create (.image 1 1 .u8)),
    .operation (.addNodeWithKernel (intruder payload).kernel (intruder payload).refs)]

/-- The image that is read stays as it was, and the other one is a number afterwards. -/
theorem confined_intrusion :
    let graph := applyAll (.empty ⟨0⟩ Operation.plainContext) (intrusion (.scalar (.u8 7)))
    let ended := Graph.executeNode .standard .still ⟨0⟩
      { graph := { graph with state := .running }, events := [], completed := 0 }
    ended.1 = .error (.failed (.kernel ⟨0⟩ "intruder" (-11) "parameter 0 is read-only")) ∧
      (intruder (.scalar (.u8 7))).Confined { graph with state := .running } ended.2.graph ∧
      ended.2.graph.arena.byId? ⟨0⟩ = graph.arena.byId? ⟨0⟩ ∧
      ((intruder (.scalar (.u8 7))).access ended.2.graph.arena.memory).slots[1]? =
        some { writable := true, payload := some (.scalar (.u8 7)) } := by
  intro graph ended
  have hnode : intruder (.scalar (.u8 7)) ∈ graph.nodes := by
    have hnodes : graph.nodes = [intruder (.scalar (.u8 7))] := rfl
    rw [hnodes]
    exact List.mem_singleton.2 rfl
  obtain ⟨hconfined, hbody⟩ := confined_executeNode .means ⟨0⟩ Operation.plainContext
    (intrusion (.scalar (.u8 7))) .running .standard .still [] hnode
  obtain ⟨hleft, -⟩ := hbody (.inr ⟨intruding (.scalar (.u8 7)), fun _ ↦ rfl⟩)
  refine ⟨by decide +kernel, hconfined, ?_, ?_⟩
  · rcases hconfined.objects ⟨0⟩ with hsame | ⟨hwrites, -⟩
    · exact hsame
    · exact absurd hwrites (by decide)
  · exact (congrArg (fun access : Access ↦ access.slots[1]?) hleft).trans (by decide +kernel)

end Call

end ImageFlow
