import ImageFlow.Proofs.Execution.Attempts
import ImageFlow.Proofs.Execution.Dataflow

/-!
# What the nodes of a run have come to

The record of a run tells which kernels were executed and what they were shown. What a node has come
to follows from that: its kernel has failed, or its callback has ended the run, or the run has gone
on. The counters of a node grow if its kernel has ended well, even if the callback then ends the
run. Nothing else happens when some nodes are run, whether they fail or not.
-/

namespace ImageFlow

/-! ## Executions -/

/-- The node whose kernel is executed in an event, and what the kernel is shown. -/
def Event.execution? : Event → Option (NodeId × Access)
  | .kernel node (.execute access) _ => some (node, access)
  | _ => none

/-- The executions of kernels in a list of events. -/
def executionsOf (events : List Event) : List (NodeId × Access) :=
  events.filterMap Event.execution?

/-- What a node comes to when its kernel is shown something. -/
def Node.outcome (node : Node) (access : Access) : Except (Stop ProcessError) Unit :=
  match (node.kernel.kernel.execute access).1 with
  | .error .crash => .error .crash
  | .error (.failed e) => .error (.failed (.kernel node.id node.kernelName e.code e.message))
  | .ok () =>
    if node.callback.all fun callback ↦ callback.answer callback.calls == .proceed then .ok ()
    else .error (.failed (.abandoned node.id))

/-- The counters of a node after its kernel has been executed. -/
def Node.counted (options : RunOptions) (watch : Stopwatch) (node : Node) (access : Access) :
    Perf :=
  if options.collectPerf && (node.kernel.kernel.execute access).1.isOk then
    node.perf.record (watch.node node.id)
  else node.perf

/-- What a node of a graph comes to. -/
def Graph.outcome (graph : Graph) (id : NodeId) (access : Access) :
    Except (Stop ProcessError) Unit :=
  match graph.node? id with
  | some node => node.outcome access
  | none => .error (.failed (.graphNotVerified graph.state))

/-- What the nodes come to in a list of executions. -/
def Graph.outcomes (graph : Graph) (executions : List (NodeId × Access)) :
    List (NodeId × Except (Stop ProcessError) Unit) :=
  executions.map fun execution ↦ (execution.1, graph.outcome execution.1 execution.2)

theorem executionsOf_append (first second : List Event) :
    executionsOf (first ++ second) = executionsOf first ++ executionsOf second :=
  List.filterMap_append

/-- The error of a node names the node. -/
theorem Node.node?_of_outcome {node : Node} {access : Access} {e : ProcessError}
    (h : node.outcome access = .error (.failed e)) : e.node? = some node.id := by
  unfold outcome at h
  split at h
  · cases h
  · cases h
    rfl
  · split at h
    · cases h
    · cases h
      rfl

theorem Graph.node?_of_outcome {graph : Graph} {id : NodeId} {access : Access} {e : ProcessError}
    (hnode : (graph.node? id).isSome = true) (h : graph.outcome id access = .error (.failed e)) :
    e.node? = some id := by
  obtain ⟨node, hfound⟩ := Option.isSome_iff_exists.1 hnode
  rw [outcome, hfound] at h
  rw [Node.node?_of_outcome h, id_of_node? hfound]

/-! ## One node -/

/-- What trying to run a node comes to. -/
structure Node.Tried (options : RunOptions) (watch : Stopwatch) (node : Node) (before : RunState)
    (ended : Except (Stop ProcessError) Unit × RunState) : Prop where
  result_eq : ended.1 = node.outcome (node.access before.graph.arena.memory)
  executions_eq : executionsOf ended.2.events =
    executionsOf before.events ++ [(node.id, node.access before.graph.arena.memory)]
  node_eq : (ended.2.graph.node? node.id).map Node.perf =
    some (node.counted options watch (node.access before.graph.arena.memory))
  perf_eq : ended.2.graph.perf = before.graph.perf

namespace Graph

variable {graph : Graph} {id : NodeId} {node : Node} {run : RunState}

theorem map_node?_modifyNode {α : Type} (g : Node → α) {f : Node → Node}
    (hf : ∀ node, (f node).id = node.id) :
    ((graph.modifyNode id f).node? id).map g = (graph.node? id).map (g ∘ f) := by
  have hids : ((·.id == id) ∘ fun node : Node ↦ if node.id = id then f node else node) =
      (·.id == id) := by
    funext node
    rw [Function.comp_apply]
    split
    · rw [hf]
    · rfl
  rw [node?, modifyNode, List.find?_map, hids, Option.map_map]
  cases hfound : graph.nodes.find? (·.id == id) with
  | none => rw [node?, hfound, Option.map_none, Option.map_none]
  | some found =>
    have hid : found.id = id := by simpa using List.find?_some hfound
    rw [node?, hfound, Option.map_some, Option.map_some, Function.comp_apply, if_pos hid,
      Function.comp_apply]

theorem perf_askCallback (node : Node) (run : RunState) :
    (askCallback node run).2.graph.perf = run.graph.perf ∧
      ((askCallback node run).2.graph.node? node.id).map Node.perf =
        (run.graph.node? node.id).map Node.perf ∧
      executionsOf (askCallback node run).2.events = executionsOf run.events := by
  unfold askCallback
  split
  · exact ⟨rfl, rfl, rfl⟩
  · refine ⟨rfl, map_node?_modifyNode Node.perf fun _ ↦ rfl, ?_⟩
    exact (executionsOf_append run.events _).trans (List.append_nil _)

theorem perf_recordNode (options : RunOptions) (watch : Stopwatch) (id : NodeId) (graph : Graph) :
    (recordNode options watch id graph).perf = graph.perf ∧
      ((recordNode options watch id graph).node? id).map Node.perf =
        (graph.node? id).map fun node ↦
          if options.collectPerf then node.perf.record (watch.node id) else node.perf := by
  unfold recordNode
  split
  · exact ⟨rfl, map_node?_modifyNode Node.perf fun _ ↦ rfl⟩
  · exact ⟨rfl, rfl⟩

theorem tried_finishNode (options : RunOptions) (watch : Stopwatch)
    (hnode : run.graph.node? node.id = some node)
    (hresult : (node.kernel.kernel.execute (node.access run.graph.arena.memory)).1 = .ok ()) :
    node.Tried options watch run (finishNode options watch node run) := by
  unfold finishNode
  generalize hrecorded : (afterKernel node run).modifyGraph (recordNode options watch node.id) =
    recorded
  obtain ⟨haction, -⟩ := askCallback_spec node recorded
  obtain ⟨hperf, hself, hexecutions⟩ := perf_askCallback node recorded
  obtain ⟨hperf', hself'⟩ := perf_recordNode options watch node.id (afterKernel node run).graph
  have hgraph : recorded.graph =
      recordNode options watch node.id (afterKernel node run).graph := by
    rw [← hrecorded]
    rfl
  have hevents : executionsOf recorded.events =
      executionsOf run.events ++ [(node.id, node.access run.graph.arena.memory)] := by
    rw [← hrecorded]
    exact executionsOf_append run.events _
  have hfound : (afterKernel node run).graph.node? node.id = some node := hnode
  have hcounted : (recorded.graph.node? node.id).map Node.perf =
      some (node.counted options watch (node.access run.graph.arena.memory)) := by
    rw [hgraph, hself', hfound, Option.map_some, Node.counted, hresult]
    simp [Except.isOk, Except.toBool]
  have hsame : recorded.graph.perf = run.graph.perf := by
    rw [hgraph, hperf']
    rfl
  dsimp only
  cases hanswer : (askCallback node recorded).1 with
  | abandon =>
    refine ⟨?_, hexecutions.trans hevents, hself.trans hcounted, hperf.trans hsame⟩
    rw [Node.outcome, hresult]
    dsimp only
    rw [if_neg]
    intro hyes
    rw [haction.2 hyes] at hanswer
    cases hanswer
  | proceed =>
    refine ⟨?_, hexecutions.trans hevents, hself.trans hcounted, hperf.trans hsame⟩
    rw [Node.outcome, hresult]
    dsimp only
    rw [if_pos (haction.1 hanswer)]

theorem tried_executeNode (options : RunOptions) (watch : Stopwatch)
    (hnode : run.graph.node? id = some node)
    (hlive : ∀ binding ∈ node.bindings, ∃ object, run.graph.arena.get binding.ref = .ok object) :
    node.Tried options watch run (executeNode options watch id run) := by
  obtain rfl : node.id = id := id_of_node? hnode
  have hfailed (stop : Stop ProcessError)
      (houtcome : node.outcome (node.access run.graph.arena.memory) = .error stop)
      (hresult : (node.kernel.kernel.execute
        (node.access run.graph.arena.memory)).1.isOk = false) :
      node.Tried options watch run (.error stop, afterKernel node run) := by
    refine ⟨houtcome.symm, executionsOf_append run.events _, ?_, rfl⟩
    rw [Node.counted, hresult, Bool.and_false]
    exact congrArg (Option.map Node.perf) hnode
  rw [executeNode_eq options watch hnode hlive]
  cases hresult : (node.kernel.kernel.execute (node.access run.graph.arena.memory)).1 with
  | error stop =>
    cases stop with
    | crash => exact hfailed .crash (by rw [Node.outcome, hresult]) (by rw [hresult]; rfl)
    | failed e => exact hfailed _ (by rw [Node.outcome, hresult]) (by rw [hresult]; rfl)
  | ok _ => exact tried_finishNode options watch hnode hresult

/-! ## Several nodes -/

/-- What attempting to run some nodes comes to. -/
structure Attempted (start : Graph) (options : RunOptions) (watch : Stopwatch) (ids : List NodeId)
    (first : RunState) (results : List (NodeId × Except (Stop ProcessError) Unit))
    (last : RunState) : Prop where
  ran : first.graph.Ran last.graph
  executed : ∃ executions, executionsOf last.events = executionsOf first.events ++ executions ∧
    executions.map Prod.fst = ids ∧ start.outcomes executions = results ∧
    ∀ execution ∈ executions, ∀ node, start.node? execution.1 = some node →
      (last.graph.node? execution.1).map Node.perf =
        some (node.counted options watch execution.2)
  others : ∀ id, id ∉ ids → last.graph.node? id = first.graph.node? id
  perf_eq : last.graph.perf = first.graph.perf
  unwritten : ∀ data, (∀ id ∈ ids, ∀ node, start.node? id = some node → data ∉ node.writes) →
    last.graph.arena.memory data = first.graph.arena.memory data

variable {start : Graph}

theorem Underway.attempted {pending : List NodeId} (h : start.Underway pending run)
    (hbalanced : start.ledger.Balanced) (hids : pending ⊆ start.nodeIds) (hnodup : pending.Nodup)
    (options : RunOptions) (watch : Stopwatch) :
    start.Attempted options watch pending run
      (Dispatch.attempt (executeNode options watch) pending run).1
      (Dispatch.attempt (executeNode options watch) pending run).2 := by
  induction pending generalizing run with
  | nil =>
    exact ⟨.refl _, ⟨[], (List.append_nil _).symm, rfl, rfl, fun _ hnone ↦ nomatch hnone⟩,
      fun _ _ ↦ rfl, rfl, fun _ _ ↦ rfl⟩
  | cons id pending ih =>
    obtain ⟨hnew, hdistinct⟩ := List.nodup_cons.1 hnodup
    obtain ⟨hid, hpending⟩ := List.cons_subset.1 hids
    obtain ⟨node, hnode, hexecuted, hnext⟩ := h.step hbalanced hid hnew options watch
    obtain ⟨found, hfound, hlive⟩ := exists_node hbalanced h.ledger_eq hid
    obtain rfl : found = node :=
      Option.some.inj (hfound.symm.trans ((h.nodes id List.mem_cons_self).trans hnode))
    have htried := tried_executeNode options watch hfound hlive
    obtain rfl : found.id = id := id_of_node? hfound
    have hran := ran_executeNode options watch found.id run
    obtain ⟨hranRest, ⟨executions, hevents, hkeys, houtcomes, hcounted⟩, hothers, hperf,
      hunwritten⟩ := ih hnext hpending hdistinct
    rw [Dispatch.attempt]
    generalize executeNode options watch found.id run = first at *
    refine ⟨hran.trans hranRest, ⟨(found.id, found.access run.graph.arena.memory) :: executions,
      ?_, ?_, ?_, ?_⟩, ?_, hperf.trans htried.perf_eq, ?_⟩
    · rw [hevents, htried.executions_eq, List.append_assoc]
      rfl
    · rw [List.map_cons, hkeys]
    · rw [outcomes, List.map_cons, ← outcomes, houtcomes, htried.result_eq, outcome, hnode]
    · refine List.forall_mem_cons.2 ⟨?_, hcounted⟩
      intro other hother
      obtain rfl : found = other := Option.some.inj (hnode.symm.trans hother)
      rw [hothers found.id hnew]
      exact htried.node_eq
    · intro other hother
      obtain ⟨hne, hrest⟩ := List.ne_and_not_mem_of_not_mem_cons hother
      exact (hothers other hrest).trans (hexecuted.others other hne)
    · intro data hdata
      obtain ⟨hfirst, hrest⟩ := List.forall_mem_cons.1 hdata
      rw [hunwritten data hrest, hexecuted.memory_eq]
      exact Node.leave_of_not_mem_writes (hfirst found hnode)

end Graph

end ImageFlow
