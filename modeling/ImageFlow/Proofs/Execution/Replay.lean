import ImageFlow.Proofs.Execution.Settled
import ImageFlow.Proofs.Session.Fitting

/-!
# Running again

A run has been made of a graph whose kernels repeat themselves and whose nodes have no callbacks,
and nothing has been written since. Every node that has run has settled, so a second run changes
nothing while it comes past these nodes, and each of them ends the way it ended before. So the
second run stops where the first one has stopped, or like the first one does not stop at all: it
comes to the same result and leaves all objects as they are. How the nodes of a level take turns
does not matter, in either run.
-/

namespace ImageFlow

namespace Dispatch

variable {σ ε : Type} {P : σ → Prop} {step : NodeId → σ → Except ε Unit × σ} {s : σ} {e : ε}
  {id : NodeId} {ids all taken level : List NodeId} {schedule levels : List (List NodeId)}
  {results : List (NodeId × Except ε Unit)}

/-! ## Following known results -/

/-- Wherever a property holds, nodes come to known results and keep the property. -/
def Follows (P : σ → Prop) (step : NodeId → σ → Except ε Unit × σ)
    (results : List (NodeId × Except ε Unit)) : Prop :=
  ∀ entry ∈ results, ∀ s, P s → (step entry.1 s).1 = entry.2 ∧ P (step entry.1 s).2

theorem Follows.of_subset {part : List (NodeId × Except ε Unit)} (h : Follows P step results)
    (hpart : part ⊆ results) : Follows P step part :=
  fun entry hentry ↦ h entry (hpart hentry)

theorem Follows.inOrder (h : Follows P step (passed ids)) (hs : P s) :
    ∃ s', inOrder step ids s = (.ok (), s') ∧ P s' := by
  induction ids generalizing s with
  | nil => exact ⟨s, rfl, hs⟩
  | cons id rest ih =>
    obtain ⟨hfirst, hrest⟩ := List.forall_mem_cons.1 h
    obtain ⟨hresult, hnext⟩ := hfirst s hs
    rw [Dispatch.inOrder]
    generalize step id s = ended at hresult hnext
    obtain ⟨result, middle⟩ := ended
    dsimp only at hresult
    subst hresult
    exact ih hrest hnext

theorem Follows.inOrder_error (h : Follows P step (passed ids ++ [(id, .error e)]))
    (rest : List NodeId) (hs : P s) :
    ∃ s', Dispatch.inOrder step (ids ++ id :: rest) s = (.error e, s') ∧ P s' := by
  obtain ⟨middle, hids, hmiddle⟩ := (h.of_subset (List.subset_append_left _ _)).inOrder hs
  obtain ⟨hresult, hlast⟩ := h (id, .error e) (by simp) middle hmiddle
  refine ⟨(step id middle).2, ?_, hlast⟩
  rw [inOrder_append, hids]
  dsimp only at hresult ⊢
  rw [Dispatch.inOrder]
  generalize step id middle = ended at hresult
  obtain ⟨_, last⟩ := ended
  dsimp only at hresult
  rw [hresult]

theorem Follows.attempt (h : Follows P step results) (hids : ids ⊆ results.map Prod.fst)
    (hs : P s) : (attempt step ids s).1 ⊆ results ∧ P (attempt step ids s).2 := by
  induction ids generalizing s with
  | nil => exact ⟨List.nil_subset _, hs⟩
  | cons id rest ih =>
    obtain ⟨hid, hrest⟩ := List.cons_subset.1 hids
    obtain ⟨entry, hentry, rfl⟩ := List.mem_map.1 hid
    obtain ⟨hresult, hnext⟩ := h entry hentry s hs
    obtain ⟨hsubset, hlast⟩ := ih hrest hnext
    rw [Dispatch.attempt, hresult]
    exact ⟨List.cons_subset.2 ⟨hentry, hsubset⟩, hlast⟩

/-- Nodes that have not failed do not count. -/
theorem verdict_append (h : ∀ id ∈ ids, ∀ e, (id, .error e) ∉ results) (rest : List NodeId) :
    verdict results (ids ++ rest) = verdict results rest := by
  induction ids with
  | nil => rfl
  | cons id ids ih =>
    obtain ⟨hid, hids⟩ := List.forall_mem_cons.1 h
    rw [List.cons_append, verdict]
    split
    · next e hlookup => exact absurd (Precedence.mem_of_lookup hlookup) (hid e)
    · exact ih hids

theorem Reports.verdict_eq (h : Reports results level id e)
    (hnodup : (results.map Prod.fst).Nodup) : verdict results level = .error e := by
  obtain ⟨hmem, before, after, rfl, hbefore⟩ := h
  rw [verdict_append hbefore, verdict, Precedence.lookup_of_mem hnodup hmem]

theorem Follows.levelIn_ok (h : Follows P step (passed all)) (htaken : taken ⊆ all) (hs : P s)
    (level : List NodeId) : ∃ s', levelIn step taken level s = (.ok (), s') ∧ P s' := by
  obtain ⟨hsubset, hlast⟩ := h.attempt (by rwa [map_fst_passed]) hs
  have hverdict := @verdict_append _ level _
    (fun id _ e hmem ↦ error_not_mem_passed all e (hsubset hmem)) []
  rw [List.append_nil] at hverdict
  exact ⟨_, by rw [levelIn, hverdict]; rfl, hlast⟩

theorem Follows.levelIn_error (h : Follows P step results)
    (hkeys : (results.map Prod.fst).Perm level) (hnodup : level.Nodup) (htaken : taken.Perm level)
    (hreports : Reports results level id e) (hs : P s) :
    ∃ s', levelIn step taken level s = (.error e, s') ∧ P s' := by
  obtain ⟨hsubset, hlast⟩ := h.attempt (htaken.trans hkeys.symm).subset hs
  have htook : (Dispatch.attempt step taken s).1.map Prod.fst = taken := map_fst_attempt taken s
  have hdistinct : (results.map Prod.fst).Nodup := hkeys.nodup_iff.2 hnodup
  rw [levelIn]
  generalize Dispatch.attempt step taken s = attempted at hsubset hlast htook
  obtain ⟨hmem, before, after, hlevel, hbefore⟩ := hreports
  have hagain : Reports attempted.1 level id e := by
    refine ⟨?_, before, after, hlevel, fun other hother e' hfound ↦
      hbefore other hother e' (hsubset hfound)⟩
    have hid : id ∈ attempted.1.map Prod.fst := by
      rw [htook, htaken.mem_iff, ← hkeys.mem_iff]
      exact List.mem_map_of_mem hmem
    obtain ⟨entry, hentry, rfl⟩ := List.mem_map.1 hid
    have hsame : entry = (entry.1, .error e) :=
      List.inj_on_of_nodup_map hdistinct (hsubset hentry) hmem rfl
    exact hsame ▸ hentry
  refine ⟨attempted.2, ?_, hlast⟩
  rw [hagain.verdict_eq (by rw [htook]; exact htaken.nodup_iff.2 hnodup)]

theorem Follows.byLevelIn_ok (h : Follows P step (passed all)) (hall : schedule.flatten ⊆ all)
    (hs : P s) (levels : List (List NodeId)) :
    ∃ s', byLevelIn step schedule levels s = (.ok (), s') ∧ P s' := by
  induction schedule generalizing s levels with
  | nil => exact ⟨s, rfl, hs⟩
  | cons taken others ih =>
    cases levels with
    | nil => exact ⟨s, rfl, hs⟩
    | cons level rest =>
      rw [List.flatten_cons, List.append_subset] at hall
      obtain ⟨middle, hlevel, hmiddle⟩ := h.levelIn_ok hall.1 hs level
      rw [byLevelIn, hlevel]
      exact ih hall.2 hmiddle rest

theorem Follows.byLevelIn_error {earlier later : List (List NodeId)} (h : Follows P step results)
    (hdone : Follows P step (passed all)) (hall : earlier.flatten ⊆ all)
    (hkeys : (results.map Prod.fst).Perm level) (hnodup : level.Nodup)
    (hreports : Reports results level id e)
    (hschedule : List.Forall₂ List.Perm schedule (earlier ++ level :: later)) (hs : P s) :
    ∃ s', byLevelIn step schedule (earlier ++ level :: later) s = (.error e, s') ∧ P s' := by
  induction earlier generalizing s schedule with
  | nil =>
    cases hschedule with
    | cons hperm _ =>
      obtain ⟨last, hlevel, hlast⟩ := h.levelIn_error hkeys hnodup hperm hreports hs
      refine ⟨last, ?_, hlast⟩
      rw [List.nil_append, byLevelIn, hlevel]
  | cons first rest ih =>
    cases hschedule with
    | cons hperm hothers =>
      rw [List.flatten_cons, List.append_subset] at hall
      obtain ⟨middle, hlevel, hmiddle⟩ :=
        hdone.levelIn_ok (List.Subset.trans hperm.subset hall.1) hs first
      rw [List.cons_append, byLevelIn, hlevel]
      exact ih hall.2 hothers hmiddle

/-- If the nodes of a run come to the same results again, the run comes to the same result, however
the nodes of each level take turns. -/
theorem Follows.runIn {plan : Plan} {options : RunOptions} {result : Except ε Unit}
    (h : Follows P step results) (hschedule : List.Forall₂ List.Perm schedule plan.levels)
    (hnodup : ∀ level ∈ plan.levels, level.Nodup)
    (hrow : options.parallel = false → StopsInRow plan.order result results)
    (hlevel : options.parallel = true → StopsByLevel plan.levels result results) (hs : P s) :
    ∃ s', runIn schedule options plan step s = (result, s') ∧ P s' := by
  unfold Dispatch.runIn
  cases hparallel : options.parallel with
  | false =>
    rw [if_neg Bool.false_ne_true]
    cases result with
    | ok _ =>
      obtain rfl : results = passed plan.order := hrow hparallel
      exact h.inOrder hs
    | error e =>
      obtain ⟨done, id, rest, horder, rfl⟩ := hrow hparallel
      rw [horder]
      exact h.inOrder_error rest hs
  | true =>
    rw [if_pos rfl]
    cases result with
    | ok _ =>
      obtain ⟨all, hall, rfl⟩ := hlevel hparallel
      refine h.byLevelIn_ok ?_ hs plan.levels
      exact ((List.Perm.flatten_congr hschedule).trans hall.symm).subset
    | error e =>
      obtain ⟨earlier, level, later, hlevels, done, last, id, hdone, rfl, hkeys, hreports⟩ :=
        hlevel hparallel
      rw [hlevels] at hschedule ⊢
      exact (h.of_subset (List.subset_append_right _ _)).byLevelIn_error
        (h.of_subset (List.subset_append_left _ _)) hdone.symm.subset hkeys
        (hnodup level (by simp [hlevels])) hreports hschedule hs

end Dispatch

/-! ## Objects that have not changed -/

theorem Arena.eq_of_memory_eq {before after : Arena}
    (h : before.Revised DataObject.Overwritten after) (hmemory : after.memory = before.memory) :
    after = before := by
  refine eq_of_byId?_eq h.graph_eq h.length_eq fun data ↦ ?_
  have hpayload : (after.byId? data).bind DataObject.payload =
      (before.byId? data).bind DataObject.payload := congrFun hmemory data
  have hobject := h.objects data
  generalize before.byId? data = old at hpayload hobject ⊢
  generalize after.byId? data = new at hpayload hobject ⊢
  cases hobject with
  | none => rfl
  | @some old new hoverwritten =>
    obtain rfl | ⟨payload, rfl⟩ := hoverwritten
    · rfl
    · have hsame : some payload = old.payload := hpayload
      rw [hsame]

/-- A node that has changed in its counters at most. -/
theorem Node.eq_of_fixed_eq {node ran : Node} (h : ran.fixed = node.fixed)
    (hcallback : ran.callback = node.callback) : ran = { node with perf := ran.perf } := by
  calc ran = { ran.fixed with callback := ran.callback, perf := ran.perf } := rfl
    _ = { node with perf := ran.perf } := by rw [h, hcallback]; rfl

namespace Graph

variable {graph : Graph} {plan : Plan} {id : NodeId} {node : Node} {memory : Memory}
  {run : RunState} {options : RunOptions} {watch : Stopwatch}

/-! ## Graphs without callbacks -/

/-- No node has a callback. -/
def Quiet (graph : Graph) : Prop := ∀ node ∈ graph.nodes, node.callback = none

theorem Quiet.modifyNode (h : graph.Quiet) {f : Node → Node}
    (hf : ∀ node, (f node).callback = node.callback) : (graph.modifyNode id f).Quiet := by
  refine List.forall_mem_map.2 fun node hnode ↦ ?_
  split
  · rw [hf, h node hnode]
  · exact h node hnode

theorem Quiet.recordNode (h : graph.Quiet) (id : NodeId) :
    (recordNode options watch id graph).Quiet := by
  unfold Graph.recordNode
  split
  · exact h.modifyNode fun _ ↦ rfl
  · exact h

theorem Quiet.executeNode (h : run.graph.Quiet) (id : NodeId) :
    (executeNode options watch id run).2.graph.Quiet := by
  unfold Graph.executeNode
  split
  · exact h
  · next node hnode =>
    have hnone : node.callback = none := h node (List.mem_of_find?_eq_some hnode)
    split
    · exact h
    · next slots _ =>
      dsimp only
      generalize node.kernel.kernel.execute { node := id, slots } = outcome
      obtain ⟨result, after⟩ := outcome
      cases result with
      | error stop => cases stop <;> exact h
      | ok _ =>
        have hleft : Quiet { run.graph with
            arena := putBackAll run.graph.arena node.bindings slots after.slots } := h
        dsimp only
        rw [askCallback, hnone]
        exact hleft.recordNode id

/-! ## The second run -/

/-- A run of a graph that finds and leaves a memory as it is. -/
structure Undisturbed (graph : Graph) (memory : Memory) (run : RunState) : Prop where
  ran : graph.begin.graph.Ran run.graph
  quiet : run.graph.Quiet
  memory_eq : run.graph.arena.memory = memory

theorem Undisturbed.executeNode (h : graph.Undisturbed memory run)
    (hbalanced : graph.ledger.Balanced) (hquiet : graph.Quiet) (hnode : graph.node? id = some node)
    {result : Except (Stop ProcessError) Unit} (hsettled : node.Settled memory result)
    (options : RunOptions) (watch : Stopwatch) :
    (executeNode options watch id run).1 = result ∧
      graph.Undisturbed memory (executeNode options watch id run).2 := by
  have hid : id ∈ graph.nodeIds := by
    rw [← id_of_node? hnode]
    exact List.mem_map_of_mem (List.mem_of_find?_eq_some hnode)
  obtain ⟨found, hfound, hlive⟩ := exists_node hbalanced h.ran.worked.ledger_eq hid
  have hsame : found.Settled run.graph.arena.memory result := by
    have hfixed := h.ran.map_fixed_node? id
    rw [hfound, show graph.begin.graph.node? id = some node from hnode] at hfixed
    have hcallback : found.callback = node.callback := by
      rw [h.quiet found (List.mem_of_find?_eq_some hfound),
        hquiet node (List.mem_of_find?_eq_some hnode)]
    rw [Node.eq_of_fixed_eq (Option.some.inj hfixed) hcallback, h.memory_eq]
    exact ⟨hsettled.leave_eq, hsettled.outcome_eq⟩
  have hresult := (tried_executeNode options watch hfound hlive).result_eq
  have hmemory := (executed_executeNode options watch hfound hlive).memory_eq
  refine ⟨hresult.trans hsame.outcome_eq, ?_, h.quiet.executeNode id, ?_⟩
  · exact h.ran.trans (ran_executeNode options watch id run)
  · rw [hmemory, hsame.leave_eq, h.memory_eq]

theorem Quiet.attempt (h : run.graph.Quiet) (ids : List NodeId) :
    (Dispatch.attempt (Graph.executeNode options watch) ids run).2.graph.Quiet := by
  induction ids generalizing run with
  | nil => exact h
  | cons id rest ih => exact ih (h.executeNode id)

/-- A run in which all nodes end well counts them. -/
theorem Underway.completed_eq {pending : List NodeId} {last : RunState}
    (h : graph.Underway pending run) (hbalanced : graph.ledger.Balanced)
    (hids : pending ⊆ graph.nodeIds) (hnodup : pending.Nodup)
    (hlast : Dispatch.attempt (executeNode options watch) pending run =
      (Dispatch.passed pending, last)) : last.completed = run.completed + pending.length := by
  induction pending generalizing run with
  | nil =>
    cases hlast
    rfl
  | cons id pending ih =>
    obtain ⟨hnew, hdistinct⟩ := List.nodup_cons.1 hnodup
    obtain ⟨hid, hpending⟩ := List.cons_subset.1 hids
    obtain ⟨node, -, hexecuted, hnext⟩ := h.step hbalanced hid hnew options watch
    rw [Dispatch.attempt] at hlast
    obtain ⟨hresults, hstate⟩ := Prod.mk.inj hlast
    obtain ⟨hfirst, hrest⟩ := List.cons.inj hresults
    have hok : (executeNode options watch id run).1.isOk = true := by
      rw [(Prod.mk.inj hfirst).2]
      rfl
    rw [ih hnext hpending hdistinct (Prod.ext hrest hstate), hexecuted.completed_eq hok,
      List.length_cons]
    omega

/-! ## Runs of graphs -/

variable {schedule again : List (List NodeId)}

/-- A run that goes through the whole plan counts every node. -/
theorem Healthy.completed_eq (h : graph.Healthy) (hplan : graph.plan = some plan)
    (hschedule : List.Forall₂ List.Perm schedule plan.levels) {last : RunState}
    (hran : Dispatch.runIn schedule graph.runOptions plan (executeNode graph.runOptions watch)
      graph.begin = (.ok (), last)) : last.completed = plan.order.length := by
  obtain ⟨ids, results, hattempt, hids, hnodup, -, hrow, hlevel⟩ :=
    h.exists_attempt hplan hschedule hran
  have hvalid := (h.planned plan hplan).2.planValid h.balanced
  have hkeys := Dispatch.map_fst_of_attempt hattempt
  obtain ⟨all, hall, rfl⟩ : ∃ all : List NodeId, all.Perm plan.order ∧
      results = Dispatch.passed all := by
    cases hparallel : graph.runOptions.parallel with
    | false => exact ⟨plan.order, .refl _, hrow hparallel⟩
    | true =>
      obtain ⟨all, hall, hresults⟩ := hlevel hparallel
      exact ⟨all, hall.trans hvalid.levels_perm, hresults⟩
  rw [Dispatch.map_fst_passed] at hkeys
  subst hkeys
  have hcount :=
    (graph.underway_begin_self all).completed_eq h.balanced hids hnodup hattempt
  have hnone : graph.begin.completed = 0 := rfl
  rw [hcount, hnone, Nat.zero_add, hall.length_eq]

theorem Ran.runOptions_eq {before after : Graph} (h : before.Ran after) :
    after.runOptions = before.runOptions := by
  rw [h.frame]
  rfl

/-- When a run begins after another one, the graph has changed as in a single run. -/
theorem Ran.begin_conclude {last : RunState} (h : graph.begin.graph.Ran last.graph)
    (result : Except (Stop ProcessError) Unit) :
    graph.begin.graph.Ran (graph.conclude plan watch (result, last)).graph.begin.graph where
  frame := by
    rw [begin, conclude]
    dsimp only
    rw [h.frame]
    rfl
  arena := h.arena
  nodes := h.nodes
  sumsUp hsums := by
    have hended : (graph.conclude plan watch (result, last)).graph.SumsUp :=
      sumsUp_conclude (h.sumsUp hsums) result
    exact ⟨hended.total, hended.nodes⟩

section Repeating

variable {result : Except (Stop ProcessError) Unit} {start last : RunState} {watch' : Stopwatch}

/-- Runs that end the same way after as many nodes come to the same result. -/
theorem result_conclude {other : Graph} {last' : RunState}
    (hoptions : other.runOptions = graph.runOptions)
    (hcompleted : result = .ok () → last'.completed = last.completed) :
    (other.conclude plan watch' (result, last')).result =
      (graph.conclude plan watch (result, last)).result := by
  cases result with
  | error stop => rfl
  | ok _ => simp only [conclude, Except.map, hoptions, hcompleted rfl]

/-- After a run, the next one begins with what the run has left. -/
theorem Healthy.undisturbed_begin (h : graph.Healthy) (hplan : graph.plan = some plan)
    (hquiet : graph.Quiet) (hschedule : List.Forall₂ List.Perm schedule plan.levels)
    (hran : Dispatch.runIn schedule graph.runOptions plan (executeNode graph.runOptions watch)
      graph.begin = (result, last)) :
    graph.Undisturbed last.graph.arena.memory
      (graph.conclude plan watch (result, last)).graph.begin := by
  obtain ⟨ids, results, hattempt, hids, hnodup, -, -, -⟩ := h.exists_attempt hplan hschedule hran
  have hattempted := (graph.underway_begin_self ids).attempted h.balanced hids hnodup
    graph.runOptions watch
  have hstill := @Quiet.attempt graph.begin graph.runOptions watch hquiet ids
  rw [hattempt] at hattempted hstill
  exact ⟨hattempted.ran.begin_conclude result, hstill, rfl⟩

/-- If all kernels repeat themselves, a run that finds what another one has left comes past the same
nodes and changes nothing. -/
theorem Healthy.exists_runIn (h : graph.Healthy) (hplan : graph.plan = some plan)
    (hkernels : ∀ node ∈ graph.nodes, node.kernel.kernel.Repeating) (hquiet : graph.Quiet)
    (hschedule : List.Forall₂ List.Perm schedule plan.levels)
    (hran : Dispatch.runIn schedule graph.runOptions plan (executeNode graph.runOptions watch)
      graph.begin = (result, last))
    (hagain : List.Forall₂ List.Perm again plan.levels)
    (hstart : graph.Undisturbed last.graph.arena.memory start) (watch' : Stopwatch) :
    ∃ last', Dispatch.runIn again graph.runOptions plan (executeNode graph.runOptions watch')
      start = (result, last') ∧ graph.Undisturbed last.graph.arena.memory last' := by
  have hvalid := (h.planned plan hplan).2.planValid h.balanced
  obtain ⟨ids, results, hattempt, hids, hnodup, hrespects, hrow, hlevel⟩ :=
    h.exists_attempt hplan hschedule hran
  have hsettled := (graph.underway_begin_self ids).settled hvalid h.balanced hkernels hids hnodup
    hrespects graph.runOptions watch
  rw [hattempt] at hsettled
  have hfollows : Dispatch.Follows (graph.Undisturbed last.graph.arena.memory)
      (executeNode graph.runOptions watch') results := by
    intro entry hentry run hrun
    obtain ⟨node, hnode, hdone⟩ := hsettled entry hentry
    exact hrun.executeNode h.balanced hquiet hnode hdone graph.runOptions watch'
  exact hfollows.runIn hagain (h.nodup_levels hplan) hrow hlevel hstart

/-- If all kernels repeat themselves and there are no callbacks, a run that follows on another one
comes to the same result and changes no object. -/
theorem Healthy.processIn_again (h : graph.Healthy) (hplan : graph.plan = some plan)
    (hkernels : ∀ node ∈ graph.nodes, node.kernel.kernel.Repeating) (hquiet : graph.Quiet)
    (hschedule : List.Forall₂ List.Perm schedule plan.levels)
    (hagain : List.Forall₂ List.Perm again plan.levels) (watch watch' : Stopwatch) :
    let first := graph.processIn schedule watch
    let second := first.graph.processIn again watch'
    second.result = first.result ∧ second.graph.arena = first.graph.arena := by
  intro first second
  obtain ⟨hruns, hworked⟩ := h.runsPlan hplan hschedule watch
  have hnext : first.graph.Healthy := h.change (.worked hworked)
  have hplan' : first.graph.plan = some plan := hruns.plan_eq
  obtain ⟨hstate, -⟩ := h.planned plan hplan
  obtain ⟨hstate', -⟩ := hnext.planned plan hplan'
  have hworked' : first.graph.Worked second.graph := (hnext.runsPlan hplan' hagain watch').2
  have hfirst : first = graph.conclude plan watch _ := processIn_eq hplan hstate schedule watch
  have hsecond : second = first.graph.conclude plan watch' _ :=
    processIn_eq hplan' hstate' again watch'
  cases hran : Dispatch.runIn schedule graph.runOptions plan (executeNode graph.runOptions watch)
    graph.begin with
  | mk result last =>
    rw [hran] at hfirst
    have hundisturbed := h.undisturbed_begin hplan hquiet hschedule hran
    rw [← hfirst] at hundisturbed
    obtain ⟨last', hran', hlast'⟩ :=
      h.exists_runIn hplan hkernels hquiet hschedule hran hagain hundisturbed watch'
    have hoptions : first.graph.runOptions = graph.runOptions := hundisturbed.ran.runOptions_eq
    rw [hoptions, hran'] at hsecond
    constructor
    · rw [hsecond, hfirst]
      apply result_conclude (hfirst ▸ hoptions)
      rintro rfl
      rw [h.completed_eq hplan hschedule hran,
        hnext.completed_eq hplan' hagain (by rw [hoptions]; exact hran')]
    · apply Arena.eq_of_memory_eq hworked'.arena
      rw [hsecond, hfirst]
      exact hlast'.memory_eq

end Repeating

end Graph

namespace Call

variable {plan : Plan} {schedule again : List (List NodeId)}

/-- If all nodes have standard kernels, over whatever box filter, and none has a callback, a run of
a plan that the standard stages have made comes to the same result as the run before it, and leaves
every object as that run has left it, whether the nodes run one at a time or by levels. -/
theorem idempotent_processIn (filter : BoxFilter) (id : GraphId) (context : Context)
    (calls : List Call) (operations : List Operation)
    (hplan : (Operation.applyAll (applyAll (.empty id context) calls).invalidate operations).plan =
      some plan)
    (hstandard :
      (Operation.applyAll (applyAll (.empty id context) calls).invalidate operations).Standard
        filter)
    (hquiet : (Operation.applyAll (applyAll (.empty id context) calls).invalidate operations).Quiet)
    (hschedule : List.Forall₂ List.Perm schedule plan.levels)
    (hagain : List.Forall₂ List.Perm again plan.levels) (watch watch' : Stopwatch) :
    let graph := Operation.applyAll (applyAll (.empty id context) calls).invalidate operations
    let first := graph.processIn schedule watch
    let second := first.graph.processIn again watch'
    graph.processIn plan.levels watch = graph.process watch ∧
      first.graph.processIn plan.levels watch' = first.graph.process watch' ∧
      second.result = first.result ∧ second.graph.arena = first.graph.arena := by
  intro graph first second
  have hhealthy : graph.Healthy :=
    healthy_applyAll_invalidate id context calls operations
  obtain ⟨hruns, hworked⟩ := hhealthy.runsPlan hplan hschedule watch
  have hnext : first.graph.Healthy := hhealthy.change (.worked hworked)
  refine ⟨hhealthy.processIn_levels hplan watch, hnext.processIn_levels hruns.plan_eq watch', ?_⟩
  exact hhealthy.processIn_again hplan
    (fun node hnode ↦ Kernels.repeating_of_mem_standard (hstandard node hnode)) hquiet hschedule
    hagain watch watch'

/-- An image to be filled with one value, and then to be checked against another one and copied. -/
def painting : List Operation :=
  let ref (data : Nat) : DataRef := { graph := ⟨0⟩, id := ⟨data⟩ }
  let bind (kernel : Kernel) (refs : List DataRef) : Operation :=
    .addNodeWithKernel { id := ⟨0⟩, kernel } refs
  [.setOptions { RunOptions.standard with parallel := true }, .create (.image 1 1 .u8),
    .createScalar (.u32 7), .createScalar (.u32 9), .createScalar (.u32 0), .createVirtual,
    bind Kernels.fill [ref 1, ref 0], bind Kernels.check [ref 0, ref 2, ref 3],
    bind Kernels.copyImage [ref 0, ref 4]]

/-- The same, with a plan. -/
def checked : List Operation := painting ++ [.verify]

theorem standard_checked :
    (Operation.applyAll (.empty ⟨0⟩ Operation.plainContext) checked).Standard .means := by
  have hkernels : (Operation.applyAll (.empty ⟨0⟩ Operation.plainContext) painting).nodes.map
      (·.kernel.kernel) = [Kernels.fill, Kernels.check, Kernels.copyImage] := rfl
  have hpainting :
      (Operation.applyAll (.empty ⟨0⟩ Operation.plainContext) painting).Standard .means := by
    refine List.forall_mem_map.1 ?_
    rw [hkernels]
    simp [Kernels.standard]
  rw [checked, Operation.applyAll, List.foldl_append]
  exact hpainting.verify

/-- The check fails both times, and in the end its count is what it was after the first run. -/
theorem idempotent_checked :
    let graph := Operation.applyAll (.empty ⟨0⟩ Operation.plainContext) checked
    let first := graph.processIn [[⟨0⟩], [⟨2⟩, ⟨1⟩]] .still
    let second := first.graph.processIn [[⟨0⟩], [⟨1⟩, ⟨2⟩]] .still
    first.result = .error (.failed (.kernel ⟨1⟩ "org.khronos.debug.check_image" 1
        "1 of 1 bytes differ from 0x00000009")) ∧
      first.graph.arena.memory ⟨3⟩ = some (.scalar (.u32 1)) ∧
      second.result = first.result ∧ second.graph.arena = first.graph.arena := by
  intro graph first second
  have hlevels : graph.plan.map Plan.levels = some [[⟨0⟩], [⟨1⟩, ⟨2⟩]] := by decide +kernel
  obtain ⟨plan, hplan, hplanLevels⟩ := Option.map_eq_some_iff.1 hlevels
  have hschedule : List.Forall₂ List.Perm [[⟨0⟩], [⟨2⟩, ⟨1⟩]] plan.levels := by
    rw [hplanLevels]
    exact .cons (.refl _) (.cons (.swap _ _ []) .nil)
  have hagain : List.Forall₂ List.Perm [[⟨0⟩], [⟨1⟩, ⟨2⟩]] plan.levels := by
    rw [hplanLevels]
    exact List.forall₂_same.2 fun level _ ↦ .refl level
  have hquiet : graph.Quiet := by
    have hnone : (graph.nodes.all fun node ↦ node.callback.isNone) = true := by decide +kernel
    intro node hnode
    exact Option.isNone_iff_eq_none.1 (List.all_eq_true.1 hnone node hnode)
  have hruns := (idempotent_processIn .means ⟨0⟩ Operation.plainContext [] checked hplan
    standard_checked hquiet hschedule hagain .still .still).2.2
  have hempty : (applyAll (.empty ⟨0⟩ Operation.plainContext) []).invalidate =
      .empty ⟨0⟩ Operation.plainContext := rfl
  rw [hempty] at hruns
  refine ⟨by decide +kernel, by decide +kernel, ?_⟩
  dsimp only [second, first, graph]
  exact hruns

end Call

end ImageFlow
