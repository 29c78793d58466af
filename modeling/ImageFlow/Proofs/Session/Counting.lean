import ImageFlow.Proofs.Session.Lifecycle

/-!
# Counters only count runs

Runs are the only thing that is recorded. An edit brings counters of its own for a new node, or
takes those of a removed node away, and everything else leaves counters alone. So whatever has
happened to a graph, its counters and those of each of its nodes sum up a series of runs.
-/

namespace ImageFlow

namespace Graph

variable {before after graph : Graph}

theorem Revised.sumsUp {R : DataObject → DataObject → Prop} (h : before.Revised R after)
    (hsums : before.SumsUp) : after.SumsUp := by
  obtain ⟨arena, -, rfl⟩ := h
  exact ⟨hsums.total, hsums.nodes⟩

/-- The counters of a new node are empty. -/
theorem Entered.sumsUp {kernel : RegisteredKernel} {refs : List DataRef} {id : NodeId}
    (h : before.Entered kernel refs id after) (hsums : before.SumsUp) : after.SumsUp where
  total := h.perf_eq ▸ hsums.total
  nodes node hnode := by
    rw [h.nodes_eq] at hnode
    rcases List.mem_append.1 hnode with hold | hnew
    · exact hsums.nodes node hold
    · cases List.mem_singleton.1 hnew
      exact ⟨[], Perf.sumsUp_empty⟩

theorem sumsUp_of_removeNode {id : NodeId} (h : before.removeNode id = .ok after)
    (hsums : before.SumsUp) : after.SumsUp := by
  obtain ⟨node, -, h⟩ := exists_of_bind_eq_ok h
  cases h
  exact hsums.of_perf_eq rfl (List.map_subset _ (List.filter_subset_self _))

theorem sumsUp_runStages (hsums : graph.SumsUp) :
    (graph.runStages Stage.standard).graph.SumsUp := by
  have hended := (redrafted_runStages (fun _ ↦ Stage.redrafts_of_mem_standard) graph).sumsUp
    hsums.invalidate
  exact ⟨hended.total, hended.nodes⟩

theorem SumsUp.change (h : before.SumsUp) {retained released : DataId → Bool}
    (hchange : before.Change retained released after) : after.SumsUp := by
  cases hchange with
  | worked hworked => exact hworked.sumsUp h
  | made object hfresh => exact ⟨h.total, h.nodes⟩
  | retained ref object hobject => exact ⟨h.total, h.nodes⟩
  | released ref object left hobject hleft => exact ⟨h.total, h.nodes⟩
  | added kernel refs id hadd => exact (entered_of_addNodeWithKernel hadd).sumsUp h
  | removed id hremove => exact sumsUp_of_removeNode hremove h
  | retargeted id affinity =>
    have hmodified : (before.modifyNode id ({ · with affinity })).SumsUp :=
      h.modifyNode id fun _ durations hdurations ↦ ⟨durations, hdurations⟩
    exact hmodified.invalidate
  | verified start hstart =>
    rcases hstart with rfl | rfl
    · exact sumsUp_runStages h
    · exact sumsUp_runStages h.invalidate

theorem SumsUp.move (h : graph.SumsUp) (move : Move) : (move.apply graph).SumsUp := by
  cases move with
  | operation call => exact h.change (call.change graph)
  | begin => exact h.invalidate
  | stage part hstandard plan events =>
    exact (Stage.redrafts_of_mem_standard hstandard { graph, plan, events }).sumsUp h
  | install plan => exact ⟨h.total, h.nodes⟩
  | abort => exact ⟨h.total, h.nodes⟩

end Graph

theorem Move.sumsUp_applyAll {graph : Graph} (h : graph.SumsUp) (moves : List Move) :
    (applyAll graph moves).SumsUp := by
  induction moves generalizing graph with
  | nil => exact h
  | cons move rest ih => exact ih (h.move move)

theorem Operation.sumsUp_applyAll {graph : Graph} (h : graph.SumsUp)
    (operations : List Operation) : (applyAll graph operations).SumsUp := by
  induction operations generalizing graph with
  | nil => exact h
  | cons operation rest ih => exact ih (h.change (operation.change graph))

namespace Call

theorem sumsUp_applyAll {graph : Graph} (h : graph.SumsUp) (calls : List Call) :
    (applyAll graph calls).SumsUp := by
  obtain ⟨moves, hmoves⟩ := exists_moves_applyAll graph calls
  rw [hmoves]
  exact Move.sumsUp_applyAll h moves

/-- Whatever clients call, with stages of their own too, counters sum up the runs they have
counted. -/
theorem sumsUp_applyAll_invalidate (id : GraphId) (context : Context) (calls : List Call)
    (operations : List Operation) :
    (Operation.applyAll (applyAll (.empty id context) calls).invalidate operations).SumsUp := by
  have hcalls := sumsUp_applyAll (Graph.sumsUp_empty id context) calls
  exact Operation.sumsUp_applyAll hcalls.invalidate operations

end Call

end ImageFlow
