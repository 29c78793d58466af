import ImageFlow.Proofs.Session.Change

/-!
# Runs of nodes

What a run of a node does is a function of the memory of the graph and of the node as it stands. The
kernel is shown the payloads of the objects that the node is bound to, and what it leaves goes into
the objects that the node writes. So a node neither sees nor touches anything else, and whether the
run goes on after it depends on what it sees and on its own callback. A run of a graph that has a
plan is nothing but the runs of its nodes.
-/

namespace ImageFlow

/-- The payload of every object. -/
abbrev Memory := DataId → Option Payload

/-- The payloads that an arena holds. -/
def Arena.memory (arena : Arena) : Memory := fun data ↦ (arena.byId? data).bind DataObject.payload

namespace Memory

/-- Puts the payload of one slot back. -/
def putBack (memory : Memory) (binding : Binding) (before after : Slot) : Memory :=
  match before.payload, after.payload with
  | some _, some payload =>
    if binding.direction.writes then Function.update memory binding.ref.id (some payload)
    else memory
  | _, _ => memory

/-- Puts the payloads of all slots back. -/
def putBackAll (memory : Memory) : List Binding → List Slot → List Slot → Memory
  | binding :: bindings, before :: befores, after :: afters =>
    putBackAll (putBack memory binding before after) bindings befores afters
  | _, _, _ => memory

variable {memory memory' : Memory} {data : DataId}

theorem putBack_congr (h : memory data = memory' data) (binding : Binding) (before after : Slot) :
    memory.putBack binding before after data = memory'.putBack binding before after data := by
  unfold putBack
  cases before.payload with
  | none => exact h
  | some _ =>
    cases after.payload with
    | none => exact h
    | some payload =>
      dsimp only
      split
      · by_cases hdata : data = binding.ref.id
        · rw [hdata, Function.update_self, Function.update_self]
        · rw [Function.update_of_ne hdata, Function.update_of_ne hdata, h]
      · exact h

/-- What an object holds after the slots have been put back depends on no other object. -/
theorem putBackAll_congr (h : memory data = memory' data) (bindings : List Binding)
    (befores afters : List Slot) :
    memory.putBackAll bindings befores afters data =
      memory'.putBackAll bindings befores afters data := by
  fun_induction putBackAll memory bindings befores afters generalizing memory' with
  | case1 memory binding bindings before befores after afters ih =>
    rw [putBackAll]
    exact ih (putBack_congr h binding before after)
  | case2 memory bindings befores afters hshort => simpa [putBackAll] using h

theorem putBack_of_not_writes {binding : Binding}
    (h : binding.direction.writes = true → binding.ref.id ≠ data) (before after : Slot) :
    memory.putBack binding before after data = memory data := by
  unfold putBack
  cases before.payload with
  | none => rfl
  | some _ =>
    cases after.payload with
    | none => rfl
    | some payload =>
      dsimp only
      split
      · next hwrites => exact Function.update_of_ne (h hwrites).symm _ _
      · rfl

/-- Only written slots are put back. -/
theorem putBackAll_of_not_writes {bindings : List Binding}
    (h : ∀ binding ∈ bindings, binding.direction.writes = true → binding.ref.id ≠ data)
    (befores afters : List Slot) :
    memory.putBackAll bindings befores afters data = memory data := by
  fun_induction putBackAll memory bindings befores afters with
  | case1 memory binding bindings before befores after afters ih =>
    obtain ⟨hhead, hrest⟩ := List.forall_mem_cons.1 h
    exact (ih hrest).trans (putBack_of_not_writes hhead before after)
  | case2 => rfl

/-! ### What slots have shown -/

/-- What the kernel of a node is shown in one slot. -/
def slot (memory : Memory) (binding : Binding) : Slot :=
  { writable := binding.direction.writes, payload := memory binding.ref.id }

variable {shown : Memory}

theorem isSome_putBack (hsame : ∀ data, (memory data).isSome = (shown data).isSome)
    (binding : Binding) (after : Slot) (data : DataId) :
    (memory.putBack binding (shown.slot binding) after data).isSome = (shown data).isSome := by
  unfold putBack
  cases hheld : (shown.slot binding).payload with
  | none => exact hsame data
  | some held =>
    cases after.payload with
    | none => exact hsame data
    | some payload =>
      dsimp only
      split
      · by_cases hdata : data = binding.ref.id
        · have hshown : shown binding.ref.id = some held := hheld
          rw [hdata, Function.update_self, hshown]
          rfl
        · rw [Function.update_of_ne hdata]
          exact hsame data
      · exact hsame data

/-- Putting slots back gives no object memory that had none, and takes none away. -/
theorem isSome_putBackAll (hsame : ∀ data, (memory data).isSome = (shown data).isSome)
    (bindings : List Binding) (afters : List Slot) (data : DataId) :
    (memory.putBackAll bindings (bindings.map shown.slot) afters data).isSome =
      (shown data).isSome := by
  induction bindings generalizing memory afters with
  | nil => exact hsame data
  | cons binding rest ih =>
    cases afters with
    | nil => exact hsame data
    | cons after afters => exact ih (isSome_putBack hsame binding after) afters

end Memory

/-- No two bindings share an object that one of them writes. -/
def Binding.Apart (bindings : List Binding) : Prop :=
  bindings.Pairwise fun first second ↦
    first.ref.id = second.ref.id → first.direction.writes = false ∧ second.direction.writes = false

/-- If no two bindings share an object that one of them writes, an object with memory holds
afterwards what has been put back from its slot. -/
theorem Memory.putBackAll_of_writes {memory shown : Memory} {bindings : List Binding}
    {afters : List Slot} (hapart : Binding.Apart bindings) {i : Nat} {binding : Binding}
    {after : Slot} {payload : Payload} (hbinding : bindings[i]? = some binding)
    (hwrites : binding.direction.writes = true) (hlive : (shown binding.ref.id).isSome = true)
    (hafter : afters[i]? = some after) (hpayload : after.payload = some payload) :
    memory.putBackAll bindings (bindings.map shown.slot) afters binding.ref.id = some payload := by
  induction bindings generalizing memory afters i with
  | nil => cases hbinding
  | cons first rest ih =>
    obtain ⟨hfirst, hrest⟩ := List.pairwise_cons.1 hapart
    cases afters with
    | nil => cases hafter
    | cons head tail =>
      cases i with
      | succ i => exact ih hrest hbinding hafter
      | zero =>
        cases hbinding
        cases hafter
        obtain ⟨held, hheld⟩ := Option.isSome_iff_exists.1 hlive
        -- The later bindings do not write the object of this one.
        have hothers : ∀ other ∈ rest, other.direction.writes = true →
            other.ref.id ≠ binding.ref.id := by
          intro other hother hwrites' hdata
          rw [(hfirst other hother hdata.symm).1] at hwrites
          cases hwrites
        rw [List.map_cons, putBackAll, putBackAll_of_not_writes hothers]
        simp [putBack, slot, hheld, hpayload, hwrites]

namespace Graph

theorem memory_setPayload {arena : Arena} {data : DataId} (hlive : (arena.byId? data).isSome = true)
    (payload : Payload) :
    (arena.setPayload data (some payload)).memory =
      Function.update arena.memory data (some payload) := by
  funext other
  rw [Arena.memory, Arena.setPayload, Arena.byId?_modify]
  by_cases hother : other = data
  · obtain ⟨object, hobject⟩ := Option.isSome_iff_exists.1 hlive
    rw [hother, Function.update_self, if_pos rfl, hobject]
    rfl
  · rw [Function.update_of_ne hother, if_neg hother]
    rfl

theorem memory_putBack {arena : Arena} {binding : Binding}
    (hlive : (arena.byId? binding.ref.id).isSome = true) (before after : Slot) :
    (putBack arena binding before after).memory = arena.memory.putBack binding before after := by
  unfold putBack Memory.putBack
  cases before.payload with
  | none => rfl
  | some _ =>
    cases after.payload with
    | none => rfl
    | some payload =>
      dsimp only
      split
      · exact memory_setPayload hlive payload
      · rfl

theorem memory_putBackAll {arena : Arena} {bindings : List Binding}
    (hlive : ∀ binding ∈ bindings, (arena.byId? binding.ref.id).isSome = true)
    (befores afters : List Slot) :
    (putBackAll arena bindings befores afters).memory =
      arena.memory.putBackAll bindings befores afters := by
  fun_induction putBackAll arena bindings befores afters with
  | case1 arena binding bindings before befores after afters ih =>
    obtain ⟨hhead, hrest⟩ := List.forall_mem_cons.1 hlive
    rw [Memory.putBackAll, ← memory_putBack hhead]
    apply ih
    -- Objects do not go away when a slot is put back.
    intro other hother
    obtain ⟨object, hobject⟩ := Option.isSome_iff_exists.1 (hrest other hother)
    obtain ⟨kept, hkept, -⟩ := (overwritten_putBack arena binding before after).some_of_some hobject
    rw [hkept]
    rfl
  | case2 arena bindings befores afters hshort => simp [Memory.putBackAll]

end Graph

/-! ## What a node does to the memory -/

namespace Node

/-- What the kernel of a node is shown. -/
def access (node : Node) (memory : Memory) : Access :=
  { node := node.id
    slots := node.bindings.map fun binding ↦
      { writable := binding.direction.writes, payload := memory binding.ref.id } }

/-- The memory once the kernel has ended. -/
def leave (node : Node) (memory : Memory) : Memory :=
  memory.putBackAll node.bindings (node.access memory).slots
    (node.kernel.kernel.execute (node.access memory)).2.slots

/-- Whether kernel and callback let a run go on. -/
def completes (node : Node) (memory : Memory) : Bool :=
  (node.kernel.kernel.execute (node.access memory)).1.isOk &&
    node.callback.all fun callback ↦ callback.answer callback.calls == .proceed

/-- The calls of kernel and callback in a run that goes on. -/
def events (node : Node) (memory : Memory) : List Event :=
  node.kernel.kernel.event node.id (.execute (node.access memory)) ::
    if node.callback.isSome then [.callback node.id] else []

variable {node : Node} {memory memory' : Memory} {data : DataId}

/-- A node sees only what it is bound to. -/
theorem access_congr
    (h : ∀ binding ∈ node.bindings, memory binding.ref.id = memory' binding.ref.id) :
    node.access memory = node.access memory' := by
  have hslots : (node.bindings.map fun binding : Binding ↦ Slot.mk binding.direction.writes
      (memory binding.ref.id)) = node.bindings.map fun binding ↦
        Slot.mk binding.direction.writes (memory' binding.ref.id) := by
    apply List.map_congr_left
    intro binding hbinding
    rw [h binding hbinding]
  rw [access, access, hslots]

theorem completes_congr
    (h : ∀ binding ∈ node.bindings, memory binding.ref.id = memory' binding.ref.id) :
    node.completes memory = node.completes memory' := by
  rw [completes, completes, access_congr h]

theorem leave_congr
    (h : ∀ binding ∈ node.bindings, memory binding.ref.id = memory' binding.ref.id)
    (hdata : memory data = memory' data) : node.leave memory data = node.leave memory' data := by
  rw [leave, leave, access_congr h]
  exact Memory.putBackAll_congr hdata _ _ _

/-- A node touches only what it writes. -/
theorem leave_of_not_mem_writes (h : data ∉ node.writes) :
    node.leave memory data = memory data := by
  apply Memory.putBackAll_of_not_writes
  intro binding hbinding hwrites hdata
  apply h
  exact List.mem_map.2 ⟨binding, List.mem_filter.2 ⟨hbinding, hwrites⟩, hdata⟩

theorem isSome_leave (node : Node) (memory : Memory) (data : DataId) :
    (node.leave memory data).isSome = (memory data).isSome :=
  Memory.isSome_putBackAll (fun _ ↦ rfl) node.bindings _ data

/-- What a kernel leaves in a slot that it writes is what the object holds afterwards, if it had
memory. -/
theorem leave_eq_of_writes (hapart : Binding.Apart node.bindings) {i : Nat} {binding : Binding}
    {after : Slot} {payload : Payload} (hbinding : node.bindings[i]? = some binding)
    (hwrites : binding.direction.writes = true) (hlive : (memory binding.ref.id).isSome = true)
    (hafter : (node.kernel.kernel.execute (node.access memory)).2.slots[i]? = some after)
    (hpayload : after.payload = some payload) : node.leave memory binding.ref.id = some payload :=
  Memory.putBackAll_of_writes hapart hbinding hwrites hlive hafter hpayload

/-- How the run of a node can end early. -/
inductive Stopped (id : NodeId) : Stop ProcessError → Prop
  | crash : Stopped id .crash
  | kernel (name : String) (code : Int) (message : String) :
    Stopped id (.failed (.kernel id name code message))
  | abandoned : Stopped id (.failed (.abandoned id))

/-- What executing a node in a run comes to. -/
structure Executed (node : Node) (before : RunState)
    (outcome : Except (Stop ProcessError) Unit × RunState) : Prop where
  isOk_eq : outcome.1.isOk = node.completes before.graph.arena.memory
  memory_eq : outcome.2.graph.arena.memory = node.leave before.graph.arena.memory
  others : ∀ other, other ≠ node.id → outcome.2.graph.node? other = before.graph.node? other
  events_eq : outcome.1.isOk = true →
    outcome.2.events = before.events ++ node.events before.graph.arena.memory
  completed_eq : outcome.1.isOk = true → outcome.2.completed = before.completed + 1
  stopped : ∀ stop, outcome.1 = .error stop → Stopped node.id stop

/-- A node that ends a run early may have written all the same. -/
theorem Executed.of_stopped {before after : RunState} {stop : Stop ProcessError}
    (hstop : Stopped node.id stop) (hcompletes : node.completes before.graph.arena.memory = false)
    (hmemory : after.graph.arena.memory = node.leave before.graph.arena.memory)
    (hothers : ∀ other, other ≠ node.id → after.graph.node? other = before.graph.node? other) :
    node.Executed before (.error stop, after) where
  isOk_eq := hcompletes.symm
  memory_eq := hmemory
  others := hothers
  events_eq hok := nomatch hok
  completed_eq hok := nomatch hok
  stopped _ hother := Except.error.inj hother ▸ hstop

end Node

namespace Graph

variable {graph : Graph} {id : NodeId} {node : Node} {run : RunState}

theorem node?_modifyNode_of_ne {other : NodeId} (hother : other ≠ id) {f : Node → Node}
    (hf : ∀ node, (f node).id = node.id) :
    (graph.modifyNode id f).node? other = graph.node? other := by
  have hids : ((·.id == other) ∘ fun node : Node ↦ if node.id = id then f node else node) =
      (·.id == other) := by
    funext node
    rw [Function.comp_apply]
    split
    · rw [hf]
    · rfl
  rw [node?, modifyNode, List.find?_map, hids]
  cases hfound : graph.nodes.find? (·.id == other) with
  | none => rw [node?, hfound, Option.map_none]
  | some found =>
    have hid : found.id = other := by simpa using List.find?_some hfound
    rw [node?, hfound, Option.map_some, if_neg (by rw [hid]; exact hother)]

theorem accessSlots_eq_ok {bindings : List Binding}
    (h : ∀ binding ∈ bindings, ∃ object, graph.arena.get binding.ref = .ok object) :
    graph.accessSlots bindings = .ok (bindings.map fun binding ↦
      { writable := binding.direction.writes, payload := graph.arena.memory binding.ref.id }) := by
  induction bindings with
  | nil => rfl
  | cons binding rest ih =>
    obtain ⟨object, hobject⟩ := h binding List.mem_cons_self
    have hpayload : graph.arena.memory binding.ref.id = object.payload := by
      rw [Arena.memory, (Arena.get_eq_ok_iff.1 hobject).2]
      rfl
    rw [accessSlots, hobject, ih fun other hother ↦ h other (List.mem_cons_of_mem _ hother),
      List.map_cons, hpayload]
    rfl

theorem arena_recordNode (options : RunOptions) (watch : Stopwatch) (id : NodeId) (graph : Graph) :
    (recordNode options watch id graph).arena = graph.arena := by
  unfold recordNode
  split <;> rfl

theorem node?_recordNode (options : RunOptions) (watch : Stopwatch) {other : NodeId}
    (hother : other ≠ id) :
    (recordNode options watch id graph).node? other = graph.node? other := by
  unfold recordNode
  split
  · exact node?_modifyNode_of_ne hother fun _ ↦ rfl
  · rfl

/-- What asking the callback of a node comes to. -/
theorem askCallback_spec (node : Node) (run : RunState) :
    let asked := askCallback node run
    (asked.1 = .proceed ↔
        (node.callback.all fun callback ↦ callback.answer callback.calls == .proceed) = true) ∧
      asked.2.graph.arena = run.graph.arena ∧
      (∀ other, other ≠ node.id → asked.2.graph.node? other = run.graph.node? other) ∧
      asked.2.events = run.events ++ (if node.callback.isSome then [.callback node.id] else []) ∧
      asked.2.completed = run.completed := by
  dsimp only
  unfold askCallback
  split
  · next hnone => simp [hnone]
  · next callback hcallback =>
    refine ⟨by simp [hcallback], rfl, ?_, by simp [hcallback, RunState.emit, RunState.modifyGraph],
      rfl⟩
    intro other hother
    exact node?_modifyNode_of_ne hother fun _ ↦ rfl

/-- A run once the kernel of a node has ended. -/
def afterKernel (node : Node) (run : RunState) : RunState :=
  let access := node.access run.graph.arena.memory
  { run with
    graph := { run.graph with
      arena := putBackAll run.graph.arena node.bindings access.slots
        (node.kernel.kernel.execute access).2.slots }
    events := run.events ++ [node.kernel.kernel.event node.id (.execute access)] }

/-- The end of the run of a node whose kernel has ended well. -/
def finishNode (options : RunOptions) (watch : Stopwatch) (node : Node) (run : RunState) :
    Except (Stop ProcessError) Unit × RunState :=
  let asked := askCallback node
    ((afterKernel node run).modifyGraph (recordNode options watch node.id))
  match asked.1 with
  | .abandon => (.error (.failed (.abandoned node.id)), asked.2)
  | .proceed => (.ok (), { asked.2 with completed := asked.2.completed + 1 })

/-- The run of a node whose objects are live. -/
theorem executeNode_eq (options : RunOptions) (watch : Stopwatch)
    (hnode : run.graph.node? id = some node)
    (hlive : ∀ binding ∈ node.bindings, ∃ object, run.graph.arena.get binding.ref = .ok object) :
    executeNode options watch id run =
      match (node.kernel.kernel.execute (node.access run.graph.arena.memory)).1 with
      | .error .crash => (.error .crash, afterKernel node run)
      | .error (.failed e) =>
        (.error (.failed (.kernel node.id node.kernelName e.code e.message)), afterKernel node run)
      | .ok () => finishNode options watch node run := by
  obtain rfl : node.id = id := id_of_node? hnode
  unfold executeNode
  rw [hnode]
  dsimp only
  rw [accessSlots_eq_ok hlive]
  rfl

theorem memory_afterKernel
    (hlive : ∀ binding ∈ node.bindings, ∃ object, run.graph.arena.get binding.ref = .ok object) :
    (afterKernel node run).graph.arena.memory = node.leave run.graph.arena.memory := by
  apply memory_putBackAll
  intro binding hbinding
  obtain ⟨object, hobject⟩ := hlive binding hbinding
  rw [(Arena.get_eq_ok_iff.1 hobject).2]
  rfl

theorem executed_finishNode (options : RunOptions) (watch : Stopwatch)
    (hresult : (node.kernel.kernel.execute (node.access run.graph.arena.memory)).1 = .ok ())
    (hmemory : (afterKernel node run).graph.arena.memory = node.leave run.graph.arena.memory) :
    node.Executed run (finishNode options watch node run) := by
  have hcompletes : node.completes run.graph.arena.memory =
      node.callback.all fun callback ↦ callback.answer callback.calls == .proceed := by
    rw [Node.completes, hresult]
    rfl
  unfold finishNode
  generalize hrecorded : (afterKernel node run).modifyGraph (recordNode options watch node.id) =
    recorded
  obtain ⟨haction, harena, hasked, hevents, hcompleted⟩ := askCallback_spec node recorded
  have hleft : (askCallback node recorded).2.graph.arena.memory =
      node.leave run.graph.arena.memory := by
    rw [harena, ← hmemory, ← hrecorded]
    exact congrArg Arena.memory (arena_recordNode options watch node.id _)
  have hothers (other : NodeId) (hother : other ≠ node.id) :
      (askCallback node recorded).2.graph.node? other = run.graph.node? other := by
    rw [hasked other hother, ← hrecorded]
    exact node?_recordNode options watch hother
  dsimp only
  cases hanswer : (askCallback node recorded).1 with
  | abandon =>
    have hno : node.completes run.graph.arena.memory = false := by
      rw [hcompletes, Bool.eq_false_iff]
      intro hyes
      rw [haction.2 hyes] at hanswer
      cases hanswer
    exact .of_stopped .abandoned hno hleft hothers
  | proceed =>
    have hbegun : recorded.events = run.events ++
        [node.kernel.kernel.event node.id (.execute (node.access run.graph.arena.memory))] := by
      rw [← hrecorded]
      rfl
    have hcount : recorded.completed = run.completed := by
      rw [← hrecorded]
      rfl
    refine ⟨(hcompletes.trans (haction.1 hanswer)).symm, hleft, hothers, fun _ ↦ ?_, fun _ ↦ ?_,
      fun stop hstop ↦ (nomatch hstop)⟩
    · rw [hevents, hbegun, List.append_assoc]
      rfl
    · rw [← hcount, ← hcompleted]

theorem executed_executeNode (options : RunOptions) (watch : Stopwatch)
    (hnode : run.graph.node? id = some node)
    (hlive : ∀ binding ∈ node.bindings, ∃ object, run.graph.arena.get binding.ref = .ok object) :
    node.Executed run (executeNode options watch id run) := by
  have hmemory := memory_afterKernel hlive
  have hothers (other : NodeId) (_ : other ≠ node.id) :
      (afterKernel node run).graph.node? other = run.graph.node? other := rfl
  rw [executeNode_eq options watch hnode hlive]
  cases hresult : (node.kernel.kernel.execute (node.access run.graph.arena.memory)).1 with
  | error stop =>
    have hcompletes : node.completes run.graph.arena.memory = false := by
      rw [Node.completes, hresult]
      rfl
    cases stop with
    | crash => exact .of_stopped .crash hcompletes hmemory hothers
    | failed e => exact .of_stopped (.kernel _ _ _) hcompletes hmemory hothers
  | ok _ => exact executed_finishNode options watch hresult hmemory

/-! ## Runs of graphs -/

/-- A run of a graph before its first node. -/
def begin (graph : Graph) : RunState :=
  { graph := { graph with state := .running }, events := [], completed := 0 }

/-- The runs of the nodes in a run of a graph. -/
def runNodes (graph : Graph) (plan : Plan) (watch : Stopwatch) :
    Except (Stop ProcessError) Unit × RunState :=
  Dispatch.run graph.runOptions plan (executeNode graph.runOptions watch) graph.begin

theorem execute_spec {plan : Plan} (hplan : graph.plan = some plan) (options : RunOptions)
    (watch : Stopwatch) :
    let ran := Dispatch.run options plan (executeNode options watch)
      { graph, events := [], completed := 0 }
    (graph.execute options watch).result = (ran.1.map fun _ ↦
        { nodes := ran.2.completed, levels := plan.levels.length, parallel := options.parallel }) ∧
      (graph.execute options watch).graph.arena = ran.2.graph.arena ∧
      (graph.execute options watch).events = ran.2.events := by
  dsimp only
  unfold execute
  rw [hplan]
  dsimp only
  generalize Dispatch.run options plan (executeNode options watch)
    { graph, events := [], completed := 0 } = ran
  obtain ⟨result, run⟩ := ran
  cases result with
  | error stop => exact ⟨rfl, rfl, rfl⟩
  | ok _ =>
    refine ⟨rfl, ?_, rfl⟩
    dsimp only
    split <;> rfl

theorem process_spec {plan : Plan} (hplan : graph.plan = some plan)
    (hstate : graph.state.hasPlan = true) (watch : Stopwatch) :
    let ran := graph.runNodes plan watch
    (graph.process watch).result = (ran.1.map fun _ ↦
        { nodes := ran.2.completed, levels := plan.levels.length,
          parallel := graph.runOptions.parallel }) ∧
      (graph.process watch).graph.arena = ran.2.graph.arena ∧
      (graph.process watch).events = ran.2.events := by
  have hguard : (graph.plan.isSome && graph.state.hasPlan) = true := by
    rw [hplan, hstate]
    rfl
  have hexecute := @execute_spec { graph with state := .running } plan hplan graph.runOptions watch
  rw [process, if_pos hguard]
  exact hexecute

/-- The runs of the nodes one after the other, as long as none fails. -/
def runInRow (graph : Graph) (plan : Plan) (watch : Stopwatch) :
    Except (Stop ProcessError) Unit × RunState :=
  Dispatch.inOrder (executeNode graph.runOptions watch) (Dispatch.sequence graph.runOptions plan)
    graph.begin

theorem isOk_process {plan : Plan} (hplan : graph.plan = some plan)
    (hstate : graph.state.hasPlan = true) (watch : Stopwatch) :
    (graph.process watch).result.isOk = (graph.runInRow plan watch).1.isOk := by
  rw [(process_spec hplan hstate watch).1, runInRow, ← Dispatch.isOk_run, runNodes]
  cases (Dispatch.run graph.runOptions plan (executeNode graph.runOptions watch) graph.begin).1 <;>
    rfl

/-- A run that succeeds is the runs of its nodes in a row. -/
theorem process_of_isOk {plan : Plan} (hplan : graph.plan = some plan)
    (hstate : graph.state.hasPlan = true) {watch : Stopwatch}
    (hok : (graph.runInRow plan watch).1.isOk = true) :
    (graph.process watch).result = .ok
        { nodes := (graph.runInRow plan watch).2.completed, levels := plan.levels.length,
          parallel := graph.runOptions.parallel } ∧
      (graph.process watch).graph.arena = (graph.runInRow plan watch).2.graph.arena ∧
      (graph.process watch).events = (graph.runInRow plan watch).2.events := by
  have hrow : graph.runNodes plan watch = graph.runInRow plan watch := Dispatch.run_eq_of_isOk hok
  have hspec := process_spec hplan hstate watch
  rw [hrow] at hspec
  obtain ⟨hresult, harena, hevents⟩ := hspec
  refine ⟨?_, harena, hevents⟩
  rw [hresult]
  generalize graph.runInRow plan watch = row at hok
  obtain ⟨result, last⟩ := row
  cases result with
  | ok _ => rfl
  | error stop => cases hok

end Graph

end ImageFlow
