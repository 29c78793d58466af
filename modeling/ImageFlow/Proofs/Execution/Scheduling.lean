import ImageFlow.Proofs.Execution.Dataflow

/-!
# Runs under any schedule

The nodes of one level may run in any order, and a schedule gives one for each level. Whatever the
schedule, a run by levels and a run of one node at a time both succeed or both fail, and if they
succeed they leave the same memory. A run that succeeds has executed every kernel once, on what its
inputs hold in the end, and what the kernel has left in its outputs is what they hold in the end.
-/

namespace ImageFlow

namespace Graph

variable {graph : Graph} {plan : Plan} {schedule : List (List NodeId)}

/-- A graph that takes the nodes of each level in another order. -/
def rescheduled (graph : Graph) (schedule : List (List NodeId)) : Graph :=
  { graph with plan := graph.plan.map (·.scheduled schedule) }

theorem rescheduled_levels (hplan : graph.plan = some plan) :
    graph.rescheduled plan.levels = graph := by
  have hsame : graph.plan.map (·.scheduled plan.levels) = graph.plan := by
    rw [hplan]
    rfl
  rw [rescheduled, hsame]

theorem plan_rescheduled (hplan : graph.plan = some plan) :
    (graph.rescheduled schedule).plan = some (plan.scheduled schedule) := by
  rw [rescheduled, hplan]
  rfl

theorem underway_begin (pending : List NodeId) :
    graph.Underway pending (graph.rescheduled schedule).begin :=
  ⟨rfl, fun _ _ ↦ rfl⟩

/-! ## Order does not matter -/

/-- Nodes without an edge between them can change places. -/
theorem commute_of_no_edge (hvalid : graph.PlanValid plan) (hbalanced : graph.ledger.Balanced)
    {id other : NodeId} (hid : id ∈ graph.nodeIds) (hother : other ∈ graph.nodeIds)
    (hne : id ≠ other) (hforth : ⟨id, other⟩ ∉ graph.edges) (hback : ⟨other, id⟩ ∉ graph.edges) :
    Precedence.Commute graph.advance id other := by
  obtain ⟨node, hnode, rfl⟩ := List.mem_map.1 hid
  obtain ⟨second, hsecond, rfl⟩ := List.mem_map.1 hother
  have hfound := (node?_eq_some_iff hvalid.ids_nodup).2 ⟨hnode, rfl⟩
  have hfound' := (node?_eq_some_iff hvalid.ids_nodup).2 ⟨hsecond, rfl⟩
  apply commute_advance hfound hfound'
  constructor
  · intro binding hbinding
    exact not_mem_writes_of_no_edge hvalid hbalanced hnode hsecond hne hforth hbinding
  · intro binding hbinding
    exact not_mem_writes_of_no_edge hvalid hbalanced hsecond hnode hne.symm hback hbinding

/-- Whether a run succeeds, and what it leaves, follows from the order of the plan. -/
theorem Healthy.foldlM_order (h : graph.Healthy) (hplan : graph.plan = some plan)
    (hschedule : List.Forall₂ List.Perm schedule plan.levels) (watch : Stopwatch) :
    plan.order.foldlM graph.advance graph.arena.memory =
      if ((graph.rescheduled schedule).process watch).result.isOk then
        some ((graph.rescheduled schedule).process watch).graph.arena.memory
      else none := by
  obtain ⟨hstate, hplanned⟩ := h.planned plan hplan
  have hvalid := hplanned.planValid h.balanced
  obtain ⟨horder, hrespects⟩ := order_spec hplanned.order_eq
  obtain ⟨hperm, hsequence⟩ := hplanned.sequence_spec h.balanced hschedule graph.runOptions
  have hplan' := @plan_rescheduled graph plan schedule hplan
  generalize hran : (graph.rescheduled schedule).runInRow (plan.scheduled schedule) watch = ran
  have hok := isOk_process hplan' hstate watch
  have hdone := @process_of_isOk (graph.rescheduled schedule) _ hplan' hstate watch
  rw [hran] at hok hdone
  calc plan.order.foldlM graph.advance graph.arena.memory
      = (Dispatch.sequence graph.runOptions (plan.scheduled schedule)).foldlM graph.advance
          graph.arena.memory := by
        apply Precedence.foldlM_eq_of_perm ?_ (horder.nodup_iff.2 hvalid.ids_nodup) hrespects
          hsequence (horder.trans hperm.symm)
        intro id hid other hother
        exact commute_of_no_edge hvalid h.balanced (horder.subset hid) (horder.subset hother)
    _ = if ran.1.isOk then some ran.2.graph.arena.memory else none := by
        rw [← hran]
        exact foldlM_advance (underway_begin _) h.balanced hperm.subset
          (hperm.nodup_iff.2 hvalid.ids_nodup) graph.runOptions watch
    _ = _ := by
        rw [hok]
        split
        · next hyes => rw [(hdone hyes).2.1]
        · rfl

/-! ## What a run has done -/

/-- A run in which every kernel was executed once, on what its inputs hold in the end, and what it
left in its outputs is what they hold in the end. Nothing was written but what some node writes. -/
structure RunsDataflow (graph : Graph) (ran : RunResult) (stats : RunStats) : Prop where
  each : (ran.events.filterMap Event.executed?).Perm graph.nodeIds
  once : (ran.events.filterMap Event.executed?).Nodup
  nodes_eq : stats.nodes = graph.nodes.length
  inputs : ∀ event ∈ ran.events, event.Shows graph ran.graph.arena.memory
  outputs : ∀ event ∈ ran.events, event.Leaves graph ran.graph.arena.memory
  unwritten : ∀ data, (∀ node ∈ graph.nodes, data ∉ node.writes) →
    ran.graph.arena.memory data = graph.arena.memory data

theorem Usable.isSome_memory {ref : DataRef} {constraint : Constraint}
    (h : graph.Usable ref constraint) : (graph.arena.memory ref.id).isSome = true := by
  obtain ⟨object, hobject, hpayload, -⟩ := h
  rw [Arena.memory, (Arena.get_eq_ok_iff.1 hobject).2]
  exact hpayload

theorem Planned.isSome_memory (h : graph.Planned plan) {node : Node} (hnode : node ∈ graph.nodes)
    {binding : Binding} (hbinding : binding ∈ node.bindings) :
    (graph.arena.memory binding.ref.id).isSome = true := by
  obtain ⟨parameter, hslot, -⟩ := Node.exists_slot_of_mem_bindings hbinding
  exact (h.usable _ (List.mem_map_of_mem hnode) _ hslot).isSome_memory

theorem Healthy.runsDataflow (h : graph.Healthy) (hplan : graph.plan = some plan)
    (hschedule : List.Forall₂ List.Perm schedule plan.levels) {watch : Stopwatch} {stats : RunStats}
    (hstats : ((graph.rescheduled schedule).process watch).result = .ok stats) :
    graph.RunsDataflow ((graph.rescheduled schedule).process watch) stats := by
  obtain ⟨hstate, hplanned⟩ := h.planned plan hplan
  have hvalid := hplanned.planValid h.balanced
  obtain ⟨hperm, hsequence⟩ := hplanned.sequence_spec h.balanced hschedule graph.runOptions
  have hplan' := @plan_rescheduled graph plan schedule hplan
  have hok :
      ((graph.rescheduled schedule).runInRow (plan.scheduled schedule) watch).1.isOk = true := by
    rw [← isOk_process hplan' hstate watch, hstats]
    rfl
  obtain ⟨hresult, harena, hevents⟩ := process_of_isOk hplan' hstate hok
  cases hran : (graph.rescheduled schedule).runInRow (plan.scheduled schedule) watch with
  | mk result last =>
    rw [hran] at hok hresult harena hevents
    cases result with
    | error stop => cases hok
    | ok _ =>
      have hlive : ∀ node ∈ graph.nodes, ∀ binding ∈ node.bindings,
          ((graph.rescheduled schedule).begin.graph.arena.memory binding.ref.id).isSome = true :=
        fun node hnode binding ↦ hplanned.isSome_memory hnode
      have hflowed := (underway_begin _).flowed hvalid h.balanced hperm.subset
        (hperm.nodup_iff.2 hvalid.ids_nodup) hsequence hlive hran
      obtain ⟨log, hlog, hexecutes, hshows⟩ := hflowed.events_eq
      have hlog' : last.events = log := hlog
      rw [hstats] at hresult
      cases hresult
      exact
        { each := by
            rw [hevents, hlog', hexecutes]
            exact hperm
          once := by
            rw [hevents, hlog', hexecutes]
            exact hperm.nodup_iff.2 hvalid.ids_nodup
          nodes_eq := by
            have hcount : last.completed = 0 + _ := hflowed.completed_eq
            rw [hcount, Nat.zero_add, hperm.length_eq, nodeIds, List.length_map]
          inputs := by
            rw [hevents, harena, hlog']
            exact fun event hevent ↦ (hshows event hevent).1
          outputs := by
            rw [hevents, harena, hlog']
            exact fun event hevent ↦ (hshows event hevent).2
          unwritten := by
            intro data hdata
            rw [harena]
            apply hflowed.unwritten
            intro id _ node hnode
            exact hdata node (List.mem_of_find?_eq_some hnode) }

end Graph

namespace Operation

/-- The two copies of the image can change places. -/
theorem exists_schedule_copies : ∃ plan, (session ⟨0⟩ plainContext copies).plan = some plan ∧
    List.Forall₂ List.Perm [[⟨2⟩, ⟨1⟩], [⟨0⟩]] plan.levels := by
  have hlevels : (session ⟨0⟩ plainContext copies).plan.map Plan.levels =
      some [[⟨1⟩, ⟨2⟩], [⟨0⟩]] := by
    decide +kernel
  obtain ⟨plan, hplan, hplanLevels⟩ := Option.map_eq_some_iff.1 hlevels
  refine ⟨plan, hplan, ?_⟩
  rw [hplanLevels]
  exact .cons (.swap _ _ []) (.cons (.refl _) .nil)

end Operation

namespace Call

variable {plan : Plan} {schedule : List (List NodeId)}

/-- Running by levels succeeds exactly if running one node at a time does, in whatever order the
nodes of each level are taken, and leaves the same memory. -/
theorem process_parallel (id : GraphId) (context : Context) (calls : List Call)
    (operations : List Operation)
    (hplan : (Operation.applyAll (applyAll (.empty id context) calls).invalidate operations).plan =
      some plan)
    (hschedule : List.Forall₂ List.Perm schedule plan.levels) (options options' : RunOptions)
    (watch watch' : Stopwatch) :
    let graph := Operation.applyAll (applyAll (.empty id context) calls).invalidate operations
    let sequential := (graph.setOptions { options with parallel := false }).process watch
    let parallel :=
      ((graph.rescheduled schedule).setOptions { options' with parallel := true }).process watch'
    (parallel.result.isOk = true ↔ sequential.result.isOk = true) ∧
      (sequential.result.isOk = true → ∀ data,
        parallel.graph.arena.memory data = sequential.graph.arena.memory data) := by
  intro graph sequential parallel
  have hgraph : graph.Healthy := healthy_applyAll_invalidate id context calls operations
  have hhealthy (chosen : RunOptions) : (graph.setOptions chosen).Healthy :=
    hgraph.change ((Operation.setOptions chosen).change graph)
  have hlevels := (hhealthy { options with parallel := false }).foldlM_order hplan
    (List.forall₂_same.2 fun ids _ ↦ List.Perm.refl ids) watch
  rw [@Graph.rescheduled_levels (graph.setOptions _) plan hplan] at hlevels
  have hany := (hhealthy { options' with parallel := true }).foldlM_order hplan hschedule watch'
  have hsame : (if parallel.result.isOk then some parallel.graph.arena.memory else none) =
      if sequential.result.isOk then some sequential.graph.arena.memory else none :=
    hany.symm.trans hlevels
  by_cases hsequential : sequential.result.isOk = true
  · rw [if_pos hsequential] at hsame
    split at hsame
    · next hparallel =>
      refine ⟨by simp [hparallel, hsequential], fun _ data ↦ ?_⟩
      exact congrFun (Option.some.inj hsame) data
    · cases hsame
  · rw [if_neg hsequential] at hsame
    split at hsame
    · cases hsame
    · next hparallel => exact ⟨by simp [hparallel, hsequential], fun hok ↦ absurd hok hsequential⟩

theorem process_parallel_copies :
    let graph := Operation.session ⟨0⟩ Operation.plainContext Operation.copies
    (((graph.rescheduled [[⟨2⟩, ⟨1⟩], [⟨0⟩]]).setOptions
      { RunOptions.standard with parallel := true }).process .still).result.isOk = true := by
  intro graph
  obtain ⟨plan, hplan, hschedule⟩ := Operation.exists_schedule_copies
  have hsequential : ((graph.setOptions
      { RunOptions.standard with parallel := false }).process .still).result.isOk = true := by
    decide +kernel
  exact (process_parallel ⟨0⟩ Operation.plainContext [] Operation.copies hplan hschedule .standard
    .standard .still .still).1.2 hsequential

/-- A run that succeeds, one node at a time or by levels, has executed every kernel once, on what
its inputs hold in the end, and what the kernel has left in its outputs is what they hold in the
end. -/
theorem runsDataflow_process (id : GraphId) (context : Context) (calls : List Call)
    (operations : List Operation)
    (hplan : (Operation.applyAll (applyAll (.empty id context) calls).invalidate operations).plan =
      some plan)
    (hschedule : List.Forall₂ List.Perm schedule plan.levels) {watch : Stopwatch}
    {stats : RunStats} :
    let graph := Operation.applyAll (applyAll (.empty id context) calls).invalidate operations
    let ran := (graph.rescheduled schedule).process watch
    ran.result = .ok stats → graph.RunsDataflow ran stats := by
  intro graph ran hstats
  have hhealthy : graph.Healthy := healthy_applyAll_invalidate id context calls operations
  exact hhealthy.runsDataflow hplan hschedule hstats

theorem runsDataflow_copies :
    let graph := Operation.session ⟨0⟩ Operation.plainContext Operation.copies
    let ran := (graph.rescheduled [[⟨2⟩, ⟨1⟩], [⟨0⟩]]).process .still
    ∃ stats, ran.result = .ok stats ∧ graph.RunsDataflow ran stats := by
  intro graph ran
  obtain ⟨plan, hplan, hschedule⟩ := Operation.exists_schedule_copies
  have hstats : ran.result = .ok { nodes := 3, levels := 2, parallel := false } := by
    decide +kernel
  exact ⟨_, hstats,
    runsDataflow_process ⟨0⟩ Operation.plainContext [] Operation.copies hplan hschedule hstats⟩

end Call

end ImageFlow
