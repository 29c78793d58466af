import ImageFlow.Proofs.Verification.Planned

/-!
# The targets that a plan assigns

The last stage goes through the nodes in the order of the plan. It enters the target that a node was
assigned to, or else the one that the policy chooses, and ends in an error if there is neither.
Neither depends on what has been entered before, so in the end the plan has for every node the
target on which the graph lets it run.
-/

namespace ImageFlow

open Stateful

/-- The target on which a node of a graph is to run. -/
def Graph.destination? (graph : Graph) (node : Node) : Option Nat :=
  node.affinity <|> graph.context.assign node.kernelName

section Entries

variable {κ ν : Type} [DecidableEq κ] {key other : κ} {value : ν} {entries : List (κ × ν)}

theorem lookup_cons_ite {entry : κ × ν} :
    (entry :: entries).lookup other =
      if other = entry.1 then some entry.2 else entries.lookup other := by
  rw [List.lookup_cons]
  split
  · next heq => rw [if_pos (beq_iff_eq.1 heq)]
  · next hne => rw [if_neg (beq_eq_false_iff_ne.1 hne)]

theorem lookup_setEntry :
    (setEntry key value entries).lookup other =
      if other = key then some value else entries.lookup other := by
  induction entries with
  | nil => rw [setEntry, lookup_cons_ite]
  | cons entry rest ih =>
    rw [setEntry]
    split
    · next hentry =>
      rw [lookup_cons_ite, lookup_cons_ite, hentry]
      split <;> rfl
    · next hentry =>
      rw [lookup_cons_ite, lookup_cons_ite, ih]
      split
      · next hsame => rw [if_neg (hsame ▸ hentry)]
      · rfl

end Entries

namespace Verification

variable {draft after : Draft} {id : NodeId} {node : Node}

theorem target?_of_assignTargets {ids : List NodeId}
    (h : (assignTargets ids).run draft = (.ok (), after))
    (hnode : draft.graph.node? id = some node)
    (hid : id ∈ ids ∨ draft.plan.target? id = draft.graph.destination? node) :
    after.plan.target? id = draft.graph.destination? node := by
  induction ids generalizing draft with
  | nil =>
    cases h
    exact hid.resolve_left List.not_mem_nil
  | cons first rest ih =>
    have hcases : id = first ∨ id ∈ rest ∨
        draft.plan.target? id = draft.graph.destination? node := by
      rwa [List.mem_cons, or_assoc] at hid
    rw [assignTargets, run_bind, run_graph] at h
    dsimp only at h
    split at h
    · next hnone =>
      have hne : id ≠ first := by
        rintro rfl
        rw [hnone] at hnode
        cases hnode
      exact ih h hnode (hcases.resolve_left hne)
    · next found hfound =>
      split at h
      · cases h
      · next target htarget =>
        obtain ⟨_, entered, hentered, h⟩ := bind_ok_iff.1 h
        rw [run_modifyPlan, Prod.mk.injEq] at hentered
        obtain ⟨-, rfl⟩ := hentered
        have hentry : id ∈ rest ∨
            (setEntry first target draft.plan.targets).lookup id =
              draft.graph.destination? node := by
          rw [lookup_setEntry]
          split
          · next hsame =>
            subst hsame
            obtain rfl : found = node := Option.some.inj (hfound.symm.trans hnode)
            exact .inr htarget.symm
          · next hne => exact hcases.resolve_left hne
        have hlast := ih h hnode hentry
        exact hlast

theorem exists_target_of_makePlan {warnings : List VerifyWarning}
    (h : makePlan.run draft = (.ok warnings, after)) (hnode : draft.graph.node? id = some node)
    (hid : id ∈ draft.plan.order) :
    ∃ index, draft.graph.destination? node = some index ∧ after.plan.target? id = some index := by
  obtain ⟨assigned, planned, hassigned, hplanned, -, hplan⟩ := exists_parts_of_makePlan h
  have hpassed := Stateful.isOk_iff.2 ⟨_, _, hassigned⟩
  obtain ⟨index, hindex⟩ :=
    Option.isSome_iff_exists.1 (isOk_assignTargets_iff.1 hpassed id hid node hnode)
  have hentered := target?_of_assignTargets hassigned hnode (.inl hid)
  obtain ⟨-, -, -, -, htargets⟩ := of_planMemory hplanned
  refine ⟨index, hindex, ?_⟩
  calc after.plan.target? id = assigned.plan.target? id := by
        rw [hplan, Plan.target?, htargets, Plan.target?]
    _ = draft.graph.destination? node := hentered
    _ = some index := hindex

end Verification

namespace Graph

variable {graph : Graph} {plan : Plan}

/-- A plan that the standard stages make has for every node the target on which the graph lets it
run. -/
theorem exists_target_of_runStages (hbalanced : graph.ledger.Balanced)
    (hplan : (graph.runStages Stage.standard).graph.plan = some plan) {node : Node}
    (hnode : node ∈ graph.nodes) :
    ∃ index, graph.destination? node = some index ∧ plan.target? node.id = some index := by
  unfold runStages at hplan
  generalize hrun : (Stage.runAll .empty Stage.standard).run
    { graph, plan := .empty, events := [] } = ended at hplan
  obtain ⟨result, last⟩ := ended
  cases result with
  | error stop => cases hplan
  | ok report =>
    cases hplan
    obtain ⟨order, resolved, ordered, hstaged⟩ := exists_staged_of_standard hrun
    obtain ⟨_, hcompletes⟩ := hstaged.completes
    obtain ⟨arena, -, hresolved⟩ := hstaged.redrafted
    have hsame : ordered.graph = { graph with arena } := hstaged.graph_eq.trans hresolved
    have hfound : ordered.graph.node? node.id = some node := by
      rw [hsame]
      exact (node?_eq_some_iff (nodup_nodeIds hbalanced)).2 ⟨hnode, rfl⟩
    have hid : node.id ∈ ordered.plan.order := by
      have hmem : node.id ∈ resolved.graph.nodeIds := by
        rw [hresolved]
        exact List.mem_map_of_mem hnode
      rw [hstaged.plan_eq]
      exact hstaged.perm.mem_iff.2 hmem
    have htarget := Verification.exists_target_of_makePlan hcompletes hfound hid
    rw [hsame] at htarget
    exact htarget

end Graph

end ImageFlow
