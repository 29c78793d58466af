import ImageFlow.Proofs.Execution.Outcomes
import ImageFlow.Proofs.Session.Counting

/-!
# Runs that fail

A run goes through its plan up to the first failure, one node at a time or by levels, and leaves
everything behind as the nodes that have run have left it. Each node whose kernel has ended well
counts one more run, and the graph counts one more if all nodes have ended well. The nodes of a
level may come to their ends in any order; a schedule gives one order for each level. A run that has
failed keeps the plan, and the next run goes through it from the start. Before and after it,
counters sum up all runs they have counted.
-/

namespace ImageFlow

/-- Whether the kernel of a node has ended well in a run. -/
def RunResult.ranWell (ran : RunResult) (node : Node) : Bool :=
  (executionsOf ran.events).any fun execution ↦
    execution.1 == node.id && (node.kernel.kernel.execute execution.2).1.isOk

namespace Graph

variable {graph : Graph} {plan : Plan} {schedule : List (List NodeId)} {watch : Stopwatch}

/-! ## Runs under a schedule -/

/-- What a run of a graph comes to when its nodes have run. -/
def conclude (graph : Graph) (plan : Plan) (watch : Stopwatch)
    (ended : Except (Stop ProcessError) Unit × RunState) : RunResult :=
  { result := ended.1.map fun _ ↦
      { nodes := ended.2.completed, levels := plan.levels.length,
        parallel := graph.runOptions.parallel }
    graph :=
      { ended.2.graph with
        perf := if ended.1.isOk && graph.runOptions.collectPerf then
            ended.2.graph.perf.record watch.graph
          else ended.2.graph.perf
        state := if ended.1.isOk then .completed else .failed }
    events := ended.2.events }

/-- Runs a graph that has a plan under its own options, the nodes of each level as a schedule says.
-/
def processIn (graph : Graph) (schedule : List (List NodeId)) (watch : Stopwatch) : RunResult :=
  match graph.plan, graph.state.hasPlan with
  | some plan, true =>
    graph.conclude plan watch
      (Dispatch.runIn schedule graph.runOptions plan (executeNode graph.runOptions watch)
        graph.begin)
  | _, _ => { result := .error (.failed (.graphNotVerified graph.state)), graph, events := [] }

theorem processIn_eq (hplan : graph.plan = some plan) (hstate : graph.state.hasPlan = true)
    (schedule : List (List NodeId)) (watch : Stopwatch) :
    graph.processIn schedule watch = graph.conclude plan watch
      (Dispatch.runIn schedule graph.runOptions plan (executeNode graph.runOptions watch)
        graph.begin) := by
  rw [processIn, hplan, hstate]

theorem process_eq (hplan : graph.plan = some plan) (hstate : graph.state.hasPlan = true)
    (watch : Stopwatch) :
    graph.process watch = graph.conclude plan watch (graph.runNodes plan watch) := by
  have hguard : (graph.plan.isSome && graph.state.hasPlan) = true := by
    rw [hplan, hstate]
    rfl
  rw [process, if_pos hguard, execute, runNodes, begin]
  simp only [hplan]
  generalize Dispatch.run graph.runOptions plan (executeNode graph.runOptions watch) _ = ended
  obtain ⟨result, run⟩ := ended
  cases result with
  | error stop => rfl
  | ok _ =>
    simp only [conclude, Except.map, Except.isOk, Except.toBool, Bool.true_and]
    split <;> rfl

theorem Healthy.nodup_levels (h : graph.Healthy) (hplan : graph.plan = some plan) :
    ∀ level ∈ plan.levels, level.Nodup := by
  obtain ⟨-, hplanned⟩ := h.planned plan hplan
  have hvalid := hplanned.planValid h.balanced
  have hflatten : plan.levels.flatten.Nodup :=
    (hvalid.levels_perm.trans hvalid.order_perm).nodup_iff.2 hvalid.ids_nodup
  exact (List.nodup_flatten.1 hflatten).1

/-- Taking the nodes of each level as the plan lists them is running the graph. -/
theorem Healthy.processIn_levels (h : graph.Healthy) (hplan : graph.plan = some plan)
    (watch : Stopwatch) : graph.processIn plan.levels watch = graph.process watch := by
  obtain ⟨hstate, -⟩ := h.planned plan hplan
  rw [processIn_eq hplan hstate, process_eq hplan hstate, runNodes,
    Dispatch.runIn_levels (h.nodup_levels hplan)]

/-! ## How a run goes -/

/-- A run that has gone through a plan from the start, up to the first failure. -/
structure RunsPlan (graph : Graph) (plan : Plan) (watch : Stopwatch) (ran : RunResult) : Prop where
  once : ((executionsOf ran.events).map Prod.fst).Nodup
  inRow : graph.runOptions.parallel = false →
    Dispatch.StopsInRow plan.order ran.result (graph.outcomes (executionsOf ran.events))
  byLevel : graph.runOptions.parallel = true →
    Dispatch.StopsByLevel plan.levels ran.result (graph.outcomes (executionsOf ran.events))
  /-- The error is that of the first node that has failed, and names it. -/
  reported : ∀ stop, ran.result = .error stop → ∃ id,
    Dispatch.Earliest plan.order (graph.outcomes (executionsOf ran.events)) id stop ∧
      ∀ e, stop = .failed e → e.node? = some id
  /-- An object that no node has written that has run holds what it held before. -/
  unwritten : ∀ data, (∀ execution ∈ executionsOf ran.events, ∀ node,
      graph.node? execution.1 = some node → data ∉ node.writes) →
    ran.graph.arena.memory data = graph.arena.memory data
  /-- A node counts one more run exactly if its kernel has ended well and runs are counted. -/
  counted : ∀ node ∈ graph.nodes, ∃ perf,
    (ran.graph.node? node.id).map Node.perf = some perf ∧
      if graph.runOptions.collectPerf && ran.ranWell node then
        node.perf.Counts perf (watch.node node.id)
      else perf = node.perf
  /-- The graph counts one more run exactly if the run is successful and runs are counted. -/
  graphCounted :
    if graph.runOptions.collectPerf && ran.result.isOk then
      graph.perf.Counts ran.graph.perf watch.graph
    else ran.graph.perf = graph.perf
  state_eq : ran.graph.state = if ran.result.isOk then .completed else .failed
  plan_eq : ran.graph.plan = some plan

theorem underway_begin_self (graph : Graph) (pending : List NodeId) :
    graph.Underway pending graph.begin :=
  ⟨rfl, fun _ _ ↦ rfl⟩

/-- The counters of a node follow from its execution, of which there is one at most. -/
theorem Attempted.map_perf {ids : List NodeId}
    {results : List (NodeId × Except (Stop ProcessError) Unit)} {last : RunState}
    (h : graph.Attempted graph.runOptions watch ids graph.begin results last)
    (hids : graph.nodeIds.Nodup) (hdistinct : ids.Nodup) {node : Node} (hnode : node ∈ graph.nodes)
    {ran : RunResult} (hevents : ran.events = last.events) :
    (last.graph.node? node.id).map Node.perf =
      some (if graph.runOptions.collectPerf && ran.ranWell node then
        node.perf.record (watch.node node.id) else node.perf) := by
  have hfound : graph.node? node.id = some node := (node?_eq_some_iff hids).2 ⟨hnode, rfl⟩
  obtain ⟨executions, hexecutions, hkeys, -, hcounted⟩ := h.executed
  have hall : executionsOf ran.events = executions := by
    rw [hevents, hexecutions]
    rfl
  by_cases hmem : node.id ∈ ids
  · rw [← hkeys] at hmem hdistinct
    obtain ⟨execution, hexecution, hid⟩ := List.mem_map.1 hmem
    have hwell : ran.ranWell node = (node.kernel.kernel.execute execution.2).1.isOk := by
      rw [Bool.eq_iff_iff, RunResult.ranWell, hall, List.any_eq_true]
      constructor
      · rintro ⟨other, hother, hboth⟩
        obtain ⟨hsame, hok⟩ := Bool.and_eq_true_iff.1 hboth
        have heq : other = execution := List.inj_on_of_nodup_map hdistinct hother hexecution
          ((beq_iff_eq.1 hsame).trans hid.symm)
        rw [← heq]
        exact hok
      · exact fun hok ↦ ⟨execution, hexecution, by simp [hid, hok]⟩
    rw [hwell, ← hid, hcounted execution hexecution node (hid ▸ hfound), Node.counted, hid]
  · have hwell : ran.ranWell node = false := by
      rw [Bool.eq_false_iff, Ne, RunResult.ranWell, hall, List.any_eq_true]
      rintro ⟨other, hother, hboth⟩
      refine hmem (hkeys ▸ List.mem_map.2 ⟨other, hother, ?_⟩)
      exact beq_iff_eq.1 (Bool.and_eq_true_iff.1 hboth).1
    rw [hwell, Bool.and_false, h.others node.id hmem]
    exact congrArg (Option.map Node.perf) hfound

variable {ids : List NodeId} {results : List (NodeId × Except (Stop ProcessError) Unit)}
  {last : RunState}

theorem sumsUp_conclude (h : last.graph.SumsUp) (result : Except (Stop ProcessError) Unit) :
    (graph.conclude plan watch (result, last)).graph.SumsUp where
  total := by
    rw [conclude]
    dsimp only
    split
    · exact (h.record watch.graph).total
    · exact h.total
  nodes := h.nodes

theorem Attempted.worked_conclude
    (h : graph.Attempted graph.runOptions watch ids graph.begin results last)
    (hstate : graph.state.hasPlan = true) (result : Except (Stop ProcessError) Unit) :
    graph.Worked (graph.conclude plan watch (result, last)).graph where
  arena := h.ran.arena
  wirings := h.ran.worked.wirings
  nextNode := h.ran.worked.nextNode
  producers := h.ran.worked.producers
  plan := h.ran.worked.plan
  hasPlan := by
    rw [hstate, conclude]
    dsimp only
    split <;> rfl
  sumsUp hsums := sumsUp_conclude (h.ran.sumsUp ⟨hsums.total, hsums.nodes⟩) result

theorem Attempted.runsPlan
    (h : graph.Attempted graph.runOptions watch ids graph.begin results last)
    (hvalid : graph.PlanValid plan) (hlevels : ∀ level ∈ plan.levels, level.Sublist plan.order)
    (hplan : graph.plan = some plan) (hids : ids.Nodup) (hmem : ids ⊆ graph.nodeIds)
    {result : Except (Stop ProcessError) Unit}
    (hrow : graph.runOptions.parallel = false → Dispatch.StopsInRow plan.order result results)
    (hlevel : graph.runOptions.parallel = true →
      Dispatch.StopsByLevel plan.levels result results) :
    graph.RunsPlan plan watch (graph.conclude plan watch (result, last)) := by
  have hdistinct : plan.order.Nodup := hvalid.order_perm.nodup_iff.2 hvalid.ids_nodup
  obtain ⟨executions, hexecutions, hkeys, houtcomes, -⟩ := h.executed
  have hall : executionsOf (graph.conclude plan watch (result, last)).events = executions :=
    hexecutions
  have hresults : graph.outcomes
      (executionsOf (graph.conclude plan watch (result, last)).events) = results :=
    hall.symm ▸ houtcomes
  -- Whether all nodes have ended well does not depend on what is counted.
  have hresult : (graph.conclude plan watch (result, last)).result.isOk = result.isOk := by
    cases result <;> rfl
  have hended {stop : Stop ProcessError}
      (hstop : (graph.conclude plan watch (result, last)).result = .error stop) :
      result = .error stop := by
    cases result with
    | ok _ => cases hstop
    | error other => exact congrArg Except.error (Except.error.inj hstop)
  refine
    { once := by
        rw [hall, hkeys]
        exact hids
      inRow := ?_
      byLevel := ?_
      reported := ?_
      unwritten := ?_
      counted := fun node hnode ↦
        ⟨_, h.map_perf hvalid.ids_nodup hids hnode rfl, Perf.counts_or_eq _ _ _⟩
      graphCounted := ?_
      state_eq := by
        rw [hresult]
        rfl
      plan_eq := ?_ }
  · intro hparallel
    rw [hresults]
    have hstops := hrow hparallel
    cases result with
    | ok _ => exact hstops
    | error stop => exact hstops
  · intro hparallel
    rw [hresults]
    have hstops := hlevel hparallel
    cases result with
    | ok _ => exact hstops
    | error stop => exact hstops
  · intro stop hstop
    obtain rfl := hended hstop
    obtain ⟨id, hearliest⟩ : ∃ id, Dispatch.Earliest plan.order results id stop := by
      cases hparallel : graph.runOptions.parallel with
      | false => exact (hrow hparallel).exists_earliest hdistinct
      | true => exact (hlevel hparallel).exists_earliest hdistinct hlevels
    refine ⟨id, hresults.symm ▸ hearliest, ?_⟩
    rintro e rfl
    rw [← houtcomes] at hearliest
    obtain ⟨execution, hexecution, heq⟩ := List.mem_map.1 hearliest.1
    obtain ⟨hid, houtcome⟩ := Prod.mk.inj heq
    have hnode : execution.1 ∈ graph.nodeIds :=
      hmem (hkeys ▸ List.mem_map_of_mem hexecution)
    rw [← hid]
    exact node?_of_outcome (isSome_node? hvalid.ids_nodup hnode) houtcome
  · intro data hdata
    rw [hall] at hdata
    refine h.unwritten data fun id hid node hnode ↦ ?_
    rw [← hkeys] at hid
    obtain ⟨execution, hexecution, rfl⟩ := List.mem_map.1 hid
    exact hdata execution hexecution node hnode
  · have hperf : (graph.conclude plan watch (result, last)).graph.perf =
        if graph.runOptions.collectPerf && result.isOk then graph.perf.record watch.graph
        else graph.perf := by
      rw [Bool.and_comm, ← show last.graph.perf = graph.perf from h.perf_eq]
      rfl
    rw [hresult, hperf]
    exact Perf.counts_or_eq _ _ _
  · exact h.ran.worked.plan.trans hplan

/-- A run has attempted the first nodes of an order in which no node stands before one it waits for.
-/
theorem Healthy.exists_attempt_of_append (h : graph.Healthy) (hplan : graph.plan = some plan)
    (hschedule : List.Forall₂ List.Perm schedule plan.levels)
    {result : Except (Stop ProcessError) Unit} {last : RunState}
    (hran : Dispatch.runIn schedule graph.runOptions plan (executeNode graph.runOptions watch)
      graph.begin = (result, last)) :
    ∃ ids rest results,
      Dispatch.attempt (executeNode graph.runOptions watch) ids graph.begin = (results, last) ∧
      (ids ++ rest).Perm graph.nodeIds ∧ Precedence.Respects graph.edges (ids ++ rest) ∧
      (graph.runOptions.parallel = false → Dispatch.StopsInRow plan.order result results) ∧
      (graph.runOptions.parallel = true → Dispatch.StopsByLevel plan.levels result results) := by
  obtain ⟨-, hplanned⟩ := h.planned plan hplan
  obtain ⟨hperm, hrespects⟩ := hplanned.sequence_spec h.balanced hschedule graph.runOptions
  obtain ⟨ids, results, hattempt, ⟨rest, hrest⟩, hrow, hlevel⟩ :=
    Dispatch.exists_attempt_of_runIn hschedule (h.nodup_levels hplan) hran
  have hsequence : ids ++ rest = Dispatch.sequence graph.runOptions (plan.scheduled schedule) :=
    hrest
  rw [← hsequence] at hperm hrespects
  exact ⟨ids, rest, results, hattempt, hperm, hrespects, hrow, hlevel⟩

/-- A run has attempted nodes of the plan, each of them once and none before one it waits for. -/
theorem Healthy.exists_attempt (h : graph.Healthy) (hplan : graph.plan = some plan)
    (hschedule : List.Forall₂ List.Perm schedule plan.levels)
    {result : Except (Stop ProcessError) Unit} {last : RunState}
    (hran : Dispatch.runIn schedule graph.runOptions plan (executeNode graph.runOptions watch)
      graph.begin = (result, last)) :
    ∃ ids results,
      Dispatch.attempt (executeNode graph.runOptions watch) ids graph.begin = (results, last) ∧
      ids ⊆ graph.nodeIds ∧ ids.Nodup ∧ Precedence.Respects graph.edges ids ∧
      (graph.runOptions.parallel = false → Dispatch.StopsInRow plan.order result results) ∧
      (graph.runOptions.parallel = true → Dispatch.StopsByLevel plan.levels result results) := by
  obtain ⟨ids, rest, results, hattempt, hperm, hrespects, hstops⟩ :=
    h.exists_attempt_of_append hplan hschedule hran
  have hsublist : ids.Sublist (ids ++ rest) := List.sublist_append_left ids rest
  refine ⟨ids, results, hattempt, fun id hid ↦ hperm.subset (hsublist.subset hid), ?_,
    hrespects.sublist hsublist, hstops⟩
  exact (hperm.nodup_iff.2 (nodup_nodeIds h.balanced)).sublist hsublist

theorem Healthy.runsPlan (h : graph.Healthy) (hplan : graph.plan = some plan)
    (hschedule : List.Forall₂ List.Perm schedule plan.levels) (watch : Stopwatch) :
    graph.RunsPlan plan watch (graph.processIn schedule watch) ∧
      graph.Worked (graph.processIn schedule watch).graph := by
  obtain ⟨hstate, hplanned⟩ := h.planned plan hplan
  have hvalid := hplanned.planValid h.balanced
  have hlevels : ∀ level ∈ plan.levels, level.Sublist plan.order := by
    rw [hplanned.levels_eq]
    exact fun level ↦ Precedence.sublist_of_mem_levels
  rw [processIn_eq hplan hstate]
  cases hran : Dispatch.runIn schedule graph.runOptions plan (executeNode graph.runOptions watch)
    graph.begin with
  | mk result last =>
    obtain ⟨ids, results, hattempt, hmem, hids, -, hrow, hlevel⟩ :=
      h.exists_attempt hplan hschedule hran
    have hattempted := (graph.underway_begin_self ids).attempted h.balanced hmem hids
      graph.runOptions watch
    rw [hattempt] at hattempted
    exact ⟨hattempted.runsPlan hvalid hlevels hplan hids hmem hrow hlevel,
      hattempted.worked_conclude hstate result⟩

end Graph

namespace Call

variable {plan : Plan} {schedule : List (List NodeId)}

/-- If all verifications by stages of a client's own have been made before the plan was dropped for
the last time, a run goes through the plan up to the first failure, in whatever order the nodes of
each level come to their ends. Counters sum up the runs they have counted, before and after it. The
plan stays, and whatever the run has come to, the next one goes through the plan from the start
again. -/
theorem runsPlan_processIn (id : GraphId) (context : Context) (calls : List Call)
    (operations : List Operation)
    (hplan : (Operation.applyAll (applyAll (.empty id context) calls).invalidate operations).plan =
      some plan)
    (hschedule : List.Forall₂ List.Perm schedule plan.levels) (watch : Stopwatch) :
    let graph := Operation.applyAll (applyAll (.empty id context) calls).invalidate operations
    let ran := graph.processIn schedule watch
    graph.processIn plan.levels watch = graph.process watch ∧
      graph.RunsPlan plan watch ran ∧ graph.SumsUp ∧ ran.graph.SumsUp ∧
      ∀ again watch', List.Forall₂ List.Perm again plan.levels →
        ran.graph.processIn plan.levels watch' = ran.graph.process watch' ∧
          ran.graph.RunsPlan plan watch' (ran.graph.processIn again watch') := by
  intro graph ran
  have hhealthy : graph.Healthy :=
    healthy_applyAll_invalidate id context calls operations
  have hsums : graph.SumsUp := sumsUp_applyAll_invalidate id context calls operations
  obtain ⟨hruns, hworked⟩ := hhealthy.runsPlan hplan hschedule watch
  have hnext : ran.graph.Healthy := hhealthy.change (.worked hworked)
  refine ⟨hhealthy.processIn_levels hplan watch, hruns, hsums, hworked.sumsUp hsums,
    fun again watch' hagain ↦ ?_⟩
  exact ⟨hnext.processIn_levels hruns.plan_eq watch',
    (hnext.runsPlan hruns.plan_eq hagain watch').1⟩

/-- Two copies of an image side by side, the first of which ends the run, and a copy of a copy. -/
def abandoned : List Operation :=
  Operation.copies ++
    [.setCallback ⟨1⟩ fun _ ↦ .abandon, .setOptions { RunOptions.standard with parallel := true }]

/-- The other copy is made all the same, and the copy of a copy is not. -/
theorem runsPlan_abandoned :
    let graph := Operation.applyAll (.empty ⟨0⟩ Operation.plainContext) abandoned
    let ran := graph.processIn [[⟨2⟩, ⟨1⟩], [⟨0⟩]] .still
    ran.result = .error (.failed (.abandoned ⟨1⟩)) ∧
      (executionsOf ran.events).map Prod.fst = [⟨2⟩, ⟨1⟩] ∧
      ∃ plan, graph.plan = some plan ∧ graph.RunsPlan plan .still ran := by
  intro graph ran
  have hlevels : graph.plan.map Plan.levels = some [[⟨1⟩, ⟨2⟩], [⟨0⟩]] := by decide +kernel
  obtain ⟨plan, hplan, hplanLevels⟩ := Option.map_eq_some_iff.1 hlevels
  have hschedule : List.Forall₂ List.Perm [[⟨2⟩, ⟨1⟩], [⟨0⟩]] plan.levels := by
    rw [hplanLevels]
    exact .cons (.swap _ _ []) (.cons (.refl _) .nil)
  refine ⟨by decide +kernel, by decide +kernel, plan, hplan, ?_⟩
  exact (runsPlan_processIn ⟨0⟩ Operation.plainContext [] abandoned hplan hschedule .still).2.1

end Call

end ImageFlow
