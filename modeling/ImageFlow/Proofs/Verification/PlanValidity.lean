import ImageFlow.Kernels.Copy
import ImageFlow.Proofs.Execution.Run
import ImageFlow.Proofs.Session.Soundness

/-!
# Plans stay valid

What the standard stages have made sure of when they install a plan holds as long as the plan is
there. Edits of the structure drop the plan. Everything else that clients can do keeps the structure
and, of every object that a node holds, the shape, the hint and the memory: releases stop at the
references that the nodes hold, and memory is overwritten but not taken away. So a run of a graph
that has a plan finds every node and every object that it looks for.
-/

namespace ImageFlow

/-! ## What happens to a graph that has a plan -/

namespace Graph

variable {before after : Graph}

theorem Usable.steady {ref : DataRef} {constraint : Constraint} (h : before.Usable ref constraint)
    (hkept : ∀ object, before.arena.get ref = .ok object →
      ∃ kept, after.arena.get ref = .ok kept ∧ object.Steady kept) :
    after.Usable ref constraint := by
  obtain ⟨object, hobject, hpayload, descriptor, hdescriptor, haccepts, hagrees⟩ := h
  obtain ⟨kept, hget, hsteady⟩ := hkept object hobject
  refine ⟨kept, hget, hsteady.payload hpayload, descriptor, ?_, haccepts, ?_⟩
  · rw [DataObject.descriptor?, hsteady.state_eq]
    exact hdescriptor
  · intro hint hhint
    rw [hsteady.hint_eq] at hhint
    exact hagrees hint hhint

/-- Structure and plan are as they were, and so are shape, hint and memory of every object that a
node holds. -/
structure Upheld (before after : Graph) : Prop where
  wirings : after.ledger.wirings = before.ledger.wirings
  producers : after.producers = before.producers
  plan : after.plan = before.plan
  hasPlan : after.state.hasPlan = before.state.hasPlan
  objects : ∀ wiring ∈ before.ledger.wirings, ∀ ref ∈ wiring.refs, ∀ object,
    before.arena.get ref = .ok object →
      ∃ kept, after.arena.get ref = .ok kept ∧ object.Steady kept

theorem Worked.upheld (h : before.Worked after) : before.Upheld after where
  wirings := h.wirings
  producers := h.producers
  plan := h.plan
  hasPlan := h.hasPlan
  objects := by
    intro _ _ ref _ object hobject
    obtain ⟨hscope, hlive⟩ := Arena.get_eq_ok_iff.1 hobject
    obtain ⟨kept, hkept, hrel⟩ := h.arena.some_of_some hlive
    refine ⟨kept, Arena.get_eq_ok_iff.2 ⟨?_, hkept⟩, hrel.steady⟩
    rw [h.arena.graph_eq]
    exact hscope

theorem upheld_made (graph : Graph) (object : DataObject) :
    graph.Upheld (graph.withNew (graph.arena.push object)).2 where
  wirings := rfl
  producers := rfl
  plan := rfl
  hasPlan := rfl
  objects := by
    intro _ _ ref _ live hlive
    obtain ⟨hscope, hbyId⟩ := Arena.get_eq_ok_iff.1 hlive
    have hold : ref.id ≠ graph.arena.nextId := fun heq ↦
      absurd (Arena.index_lt_of_byId? hbyId) (by rw [heq]; exact Nat.lt_irrefl _)
    refine ⟨live, Arena.get_eq_ok_iff.2 ⟨hscope, ?_⟩, .refl live⟩
    exact (Arena.byId?_push_of_ne hold).trans hbyId

/-- Setting the place of an object to a steady successor, which may only be freed if no node holds
it. -/
theorem upheld_set (h : before.ledger.Balanced) {ref : DataRef} {object : DataObject}
    (hobject : before.arena.get ref = .ok object) {entry : Option DataObject}
    (hsteady : ∀ left, entry = some left → object.Steady left)
    (hheld : 0 < object.slotRefs → entry.isSome = true) :
    before.Upheld { before with arena := before.arena.set ref.id entry } where
  wirings := rfl
  producers := rfl
  plan := rfl
  hasPlan := rfl
  objects := by
    have hlive := (Arena.get_eq_ok_iff.1 hobject).2
    have hset (data : DataId) : (before.arena.set ref.id entry).byId? data =
        if data = ref.id then entry else before.arena.byId? data :=
      Arena.byId?_set (Arena.index_lt_of_byId? hlive) entry
    intro wiring hwiring bound hbound live hget
    obtain ⟨hscope, hbyId⟩ := Arena.get_eq_ok_iff.1 hget
    by_cases hsame : bound.id = ref.id
    · have hobject' : object = live := Option.some.inj (hlive.symm.trans (hsame ▸ hbyId))
      have hholds : 0 < holdsOf bound.id wiring.refs :=
        List.countP_pos_iff.2 ⟨bound, hbound, decide_eq_true rfl⟩
      have hcount : holdsOf bound.id wiring.refs ≤ live.slotRefs :=
        h.holdsOf_le hwiring (account_of_byId? hbyId)
      obtain ⟨left, hleft⟩ := Option.isSome_iff_exists.1 (hheld (by rw [hobject']; omega))
      refine ⟨left, Arena.get_eq_ok_iff.2 ⟨hscope, ?_⟩, hobject' ▸ hsteady left hleft⟩
      exact ((hset bound.id).trans (if_pos hsame)).trans hleft
    · have hkept := ((hset bound.id).trans (if_neg hsame)).trans hbyId
      exact ⟨live, Arena.get_eq_ok_iff.2 ⟨hscope, hkept⟩, .refl live⟩

theorem upheld_released (h : before.ledger.Balanced) {ref : DataRef} {object left : DataObject}
    (hobject : before.arena.get ref = .ok object) (hleft : object.release = .ok left) :
    before.Upheld { before with arena := before.arena.store left } := by
  obtain ⟨clients, hclients, rfl⟩ := DataObject.exists_of_release hleft
  have hid : object.id = ref.id :=
    h.placed ref.id _ (account_of_byId? (Arena.get_eq_ok_iff.1 hobject).2)
  have hstore : before.arena.store { object with clientRefs := clients } =
      before.arena.set ref.id (DataObject.ifHeld { object with clientRefs := clients }) := by
    rw [← hid]
    rfl
  rw [hstore]
  apply upheld_set h hobject
  · intro kept hkept
    rw [DataObject.eq_of_ifHeld hkept]
    exact ⟨rfl, rfl, fun hpayload ↦ hpayload⟩
  · intro hheld
    rw [DataObject.ifHeld, if_neg]
    · rfl
    · simp only [DataObject.refCount]
      omega

/-- A change keeps everything that a plan relies on, or drops the plan, or verifies the graph. -/
theorem Change.plan_cases (h : before.ledger.Balanced) {retained released : DataId → Bool}
    (hchange : before.Change retained released after) :
    before.Upheld after ∨ after.plan = none ∨
      ∃ start, (start = before ∨ start = before.invalidate) ∧
        after = (start.runStages Stage.standard).graph := by
  cases hchange with
  | worked hworked => exact .inl hworked.upheld
  | made object hfresh => exact .inl (upheld_made before object)
  | retained ref object hobject =>
    refine .inl (upheld_set h hobject ?_ fun _ ↦ rfl)
    intro left hleft
    cases hleft
    exact ⟨rfl, rfl, fun hpayload ↦ hpayload⟩
  | released ref object left hobject hleft => exact .inl (upheld_released h hobject hleft)
  | added kernel refs id hadd => exact .inr (.inl (dropped_of_addNodeWithKernel hadd).plan_eq)
  | removed id hremove => exact .inr (.inl (dropped_of_removeNode hremove).plan_eq)
  | retargeted id affinity => exact .inr (.inl rfl)
  | verified start hstart => exact .inr (.inr ⟨start, hstart, rfl⟩)

/-- What holds of a graph through every session. -/
structure Healthy (graph : Graph) : Prop where
  accurate : ∃ retains releases, graph.Accurate retains releases
  sound : graph.SoundObjects
  planned : ∀ plan, graph.plan = some plan → graph.state.hasPlan = true ∧ graph.Planned plan

theorem Healthy.balanced (h : before.Healthy) : before.ledger.Balanced := by
  obtain ⟨_, _, haccurate⟩ := h.accurate
  exact haccurate.balanced

theorem Planned.upheld {plan : Plan} (h : before.Planned plan) (hupheld : before.Upheld after) :
    after.Planned plan := by
  refine h.transfer hupheld.wirings hupheld.producers ?_
  intro wiring hwiring slot hslot husable
  exact husable.steady (hupheld.objects wiring hwiring slot.1 (List.of_mem_zip hslot).1)

/-- What the standard stages have made sure of when they install a plan. -/
theorem planned_runStages {start : Graph} {plan : Plan} (hbalanced : start.ledger.Balanced)
    (hsound : start.SoundObjects)
    (hplan : (start.runStages Stage.standard).graph.plan = some plan) :
    (start.runStages Stage.standard).graph.state.hasPlan = true ∧
      (start.runStages Stage.standard).graph.Planned plan := by
  unfold runStages at hplan ⊢
  cases hrun : (Stage.runAll .empty Stage.standard).run
    { graph := start, plan := .empty, events := [] } with
  | mk result draft =>
    rw [hrun] at hplan
    cases result with
    | error e => cases hplan
    | ok report =>
      obtain ⟨shaped, hpassed⟩ := exists_passed_of_standard hrun hbalanced
      cases hplan
      exact ⟨rfl, hpassed.planned hbalanced hsound⟩

theorem Healthy.change (h : before.Healthy) {retained released : DataId → Bool}
    (hchange : before.Change retained released after) : after.Healthy where
  accurate := by
    obtain ⟨_, _, haccurate⟩ := h.accurate
    exact ⟨_, _, haccurate.change hchange⟩
  sound := h.sound.change h.balanced hchange
  planned plan hplan := by
    rcases hchange.plan_cases h.balanced with hupheld | hnone | ⟨start, hstart, rfl⟩
    · rw [hupheld.plan] at hplan
      obtain ⟨hstate, hplanned⟩ := h.planned plan hplan
      exact ⟨hupheld.hasPlan.trans hstate, hplanned.upheld hupheld⟩
    · rw [hnone] at hplan
      cases hplan
    · have hbalanced : start.ledger.Balanced := by
        rcases hstart with rfl | rfl <;> exact h.balanced
      have hsound : start.SoundObjects := by rcases hstart with rfl | rfl <;> exact h.sound
      exact planned_runStages hbalanced hsound hplan

theorem healthy_empty (id : GraphId) (context : Context) : (empty id context).Healthy where
  accurate := ⟨_, _, accurate_empty id context⟩
  sound := soundObjects_empty id context
  planned plan hplan := by cases hplan

/-! ## What a plan promises -/

variable {graph : Graph} {plan : Plan}

/-- A plan as the clients of a graph may rely on it. -/
structure PlanValid (graph : Graph) (plan : Plan) : Prop where
  ids_nodup : graph.nodeIds.Nodup
  order_perm : plan.order.Perm graph.nodeIds
  levels_perm : plan.levels.flatten.Perm plan.order
  targets_perm : (plan.targets.map Prod.fst).Perm graph.nodeIds
  bandwidth_perm : (plan.bandwidth.map Prod.fst).Perm graph.nodeIds
  writers_first : ∀ writer ∈ graph.nodes, ∀ reader ∈ graph.nodes, writer.id ≠ reader.id →
    ∀ data ∈ writer.writes, data ∈ reader.reads →
      ∃ first second, plan.position? writer.id = some first ∧
        plan.position? reader.id = some second ∧ first < second
  one_writer : ∀ data, (graph.writingNodes data).length ≤ 1
  usable : ∀ node ∈ graph.nodes,
    List.Forall₂ (fun ref parameter ↦ graph.Usable ref parameter.constraint) node.refs
      node.signature.parameters

theorem Planned.planValid (h : graph.Planned plan) (hbalanced : graph.ledger.Balanced) :
    graph.PlanValid plan := by
  have hnodup := nodup_nodeIds hbalanced
  obtain ⟨hperm, hrespects⟩ := order_spec h.order_eq
  exact
    { ids_nodup := hnodup
      order_perm := hperm
      levels_perm := by
        rw [h.levels_eq]
        exact Precedence.flatten_levels_perm graph.edges plan.order
      targets_perm := by
        rw [h.targets_eq]
        exact hperm
      bandwidth_perm := by
        rw [h.bandwidth_eq]
      writers_first := by
        intro writer hwriter reader hreader hne data hwrites hreads
        have hedge := mem_edges_of_writes hbalanced hwriter hreader hne hwrites hreads
        exact hrespects.exists_lt (hperm.nodup_iff.2 hnodup)
          (hperm.mem_iff.2 (List.mem_map_of_mem hwriter))
          (hperm.mem_iff.2 (List.mem_map_of_mem hreader)) hne hedge
      one_writer := singleWriter_of_producers hbalanced h.single
      usable := by
        intro node hnode
        have hmem : node.wiring ∈ graph.ledger.wirings := List.mem_map_of_mem hnode
        refine List.forall₂_iff_zip.2 ⟨hbalanced.complete _ hmem, ?_⟩
        intro ref parameter hslot
        exact h.usable _ hmem (ref, parameter) hslot }

/-! ## Runs find what they look for -/

/-- The nodes of a graph stay there and stay bound to live objects as long as the books stay. -/
theorem exists_node (h : before.ledger.Balanced) (hledger : after.ledger = before.ledger)
    {id : NodeId} (hid : id ∈ before.nodeIds) :
    ∃ node, after.node? id = some node ∧
      ∀ binding ∈ node.bindings, ∃ object, after.arena.get binding.ref = .ok object := by
  have hafter : after.ledger.Balanced := hledger ▸ h
  have hids : id ∈ after.nodeIds := by
    rw [← nodeIds_eq, hledger, nodeIds_eq]
    exact hid
  obtain ⟨node, hnode, rfl⟩ := List.mem_map.1 hids
  refine ⟨node, (node?_eq_some_iff (nodup_nodeIds hafter)).2 ⟨hnode, rfl⟩, ?_⟩
  intro binding hbinding
  exact exists_get hafter hnode (Node.ref_mem_of_mem_bindings hbinding)

/-- A run of a graph that has a plan ends early only through one of its nodes. -/
theorem Healthy.process_stopped (h : graph.Healthy) (hplan : graph.plan = some plan)
    (watch : Stopwatch) {stop : Stop ProcessError}
    (hstop : (graph.process watch).result = .error stop) :
    ∃ id ∈ graph.nodeIds, Node.Stopped id stop := by
  obtain ⟨hstate, hplanned⟩ := h.planned plan hplan
  obtain ⟨hsequence, -⟩ := hplanned.sequence_spec h.balanced
    (List.forall₂_same.2 fun ids _ ↦ List.Perm.refl ids) graph.runOptions
  have hsteps (id : NodeId) (hid : id ∈ Dispatch.sequence graph.runOptions plan) :
      Dispatch.Keeps (fun run : RunState ↦ run.graph.ledger = graph.ledger)
        (fun stop ↦ ∃ id ∈ graph.nodeIds, Node.Stopped id stop)
        (executeNode graph.runOptions watch id) := by
    intro run hrun
    have hmem : id ∈ graph.nodeIds := hsequence.mem_iff.1 hid
    obtain ⟨node, hnode, hlive⟩ := exists_node h.balanced hrun hmem
    have hexecuted := executed_executeNode graph.runOptions watch hnode hlive
    have hledger := (ran_executeNode graph.runOptions watch id run).worked.ledger_eq
    refine ⟨hledger.trans hrun, fun stop hstop ↦ ?_⟩
    obtain rfl : node.id = id := id_of_node? hnode
    exact ⟨node.id, hmem, hexecuted.stopped stop hstop⟩
  have hkeeps : (graph.runNodes plan watch).1 = .error stop →
      ∃ id ∈ graph.nodeIds, Node.Stopped id stop :=
    (Dispatch.keeps_run hsteps graph.begin rfl).2 stop
  apply hkeeps
  have hresult := (process_spec hplan hstate watch).1
  rw [hstop] at hresult
  cases hran : (graph.runNodes plan watch).1 with
  | error other =>
    rw [hran] at hresult
    rw [Except.error.inj hresult]
  | ok _ =>
    rw [hran] at hresult
    cases hresult

end Graph

namespace Operation

theorem healthy_applyAll {graph : Graph} (h : graph.Healthy) (operations : List Operation) :
    (applyAll graph operations).Healthy := by
  induction operations generalizing graph with
  | nil => exact h
  | cons operation rest ih => exact ih (h.change (operation.change graph))

/-- A session that copies an image twice, and one of the copies once more. -/
def copies : List Operation :=
  let ref (data : Nat) : DataRef := { graph := ⟨0⟩, id := ⟨data⟩ }
  let copy (source target : Nat) : Operation :=
    .addNodeWithKernel { id := ⟨0⟩, kernel := Kernels.copyImage } [ref source, ref target]
  [.create (.image 1 1 .u8), .createVirtual, .createVirtual, .createVirtual, copy 1 2, copy 0 1,
    copy 0 3, .verify]

/-- A context without kernels of its own, in which every node runs on the first target. -/
def plainContext : Context :=
  { registry := .empty, targets := [], policy := .fixed (some 0), options := .standard }

theorem isSome_plan_copies : (session ⟨0⟩ plainContext copies).plan.isSome = true := by
  decide +kernel

end Operation

namespace Call

/-- A graph on which clients have called anything, and which has no plan any more. -/
theorem healthy_invalidate (id : GraphId) (context : Context) (calls : List Call) :
    (applyAll (.empty id context) calls).invalidate.Healthy where
  accurate := by
    obtain ⟨_, _, haccurate⟩ := exists_accurate_applyAll id context calls
    exact ⟨_, _, haccurate.balanced, haccurate.tallied⟩
  sound := soundObjects_applyAll id context calls
  planned _ hplan := nomatch hplan

/-- A graph that clients have made, of which the plan was dropped after all verifications by stages
of a client's own. -/
theorem healthy_applyAll_invalidate (id : GraphId) (context : Context) (calls : List Call)
    (operations : List Operation) :
    (Operation.applyAll (applyAll (.empty id context) calls).invalidate operations).Healthy :=
  Operation.healthy_applyAll (healthy_invalidate id context calls) operations

/-- Whatever clients do, a plan that the standard stages have made is valid as long as it is there,
and a run neither misses the plan nor fails to bind an object. -/
theorem planValid_applyAll (id : GraphId) (context : Context) (calls : List Call)
    (operations : List Operation) {plan : Plan}
    (hplan : (Operation.applyAll (applyAll (.empty id context) calls).invalidate operations).plan =
      some plan) :
    let graph := Operation.applyAll (applyAll (.empty id context) calls).invalidate operations
    graph.PlanValid plan ∧
      ∀ watch, (∀ state, (graph.process watch).result ≠
          .error (.failed (.graphNotVerified state))) ∧
        ∀ node e, (graph.process watch).result ≠ .error (.failed (.binding node e)) := by
  intro graph
  have hhealthy : graph.Healthy := healthy_applyAll_invalidate id context calls operations
  obtain ⟨-, hplanned⟩ := hhealthy.planned plan hplan
  refine ⟨hplanned.planValid hhealthy.balanced, fun watch ↦ ⟨?_, ?_⟩⟩
  · intro state hstop
    obtain ⟨_, _, hstopped⟩ := hhealthy.process_stopped hplan watch hstop
    cases hstopped
  · intro node e hstop
    obtain ⟨_, _, hstopped⟩ := hhealthy.process_stopped hplan watch hstop
    cases hstopped

theorem planValid_copies :
    let graph := Operation.session ⟨0⟩ Operation.plainContext Operation.copies
    ∃ plan, graph.plan = some plan ∧ graph.PlanValid plan := by
  obtain ⟨plan, hplan⟩ := Option.isSome_iff_exists.1 Operation.isSome_plan_copies
  exact ⟨plan, hplan,
    (planValid_applyAll ⟨0⟩ Operation.plainContext [] Operation.copies hplan).1⟩

end Call

end ImageFlow
