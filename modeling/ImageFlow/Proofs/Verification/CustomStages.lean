import ImageFlow.Proofs.Execution.Attempts
import ImageFlow.Proofs.Verification.Rollback

/-!
# Plans and the stages that follow the standard ones

The plan is made by the standard stages and installed when the last stage has passed. A stage that
comes after them finds the plan made. It may edit the graph as clients can, and an edit drops the
plan that the graph has; but the plan in the making is not the graph's yet, and is installed all the
same. So the plan that arrives is one for the graph as it was when the verification began. It is fit
for the graph as it is now if no node has been removed in between, and otherwise none of its runs
can succeed.
-/

namespace ImageFlow

open Stateful

/-! ## Stages in a row -/

namespace Stage

/-- A stage that does not touch the plan in the making. -/
def LeavesPlan (stage : Stage) : Prop :=
  ∀ draft : Draft, (stage.run.run draft).2.plan = draft.plan

variable {stages first second : List Stage} {report last : VerifyReport} {draft after : Draft}

theorem plan_runAll (h : ∀ stage ∈ stages, stage.LeavesPlan) :
    ((runAll report stages).run draft).2.plan = draft.plan := by
  induction stages generalizing report draft with
  | nil => rfl
  | cons stage rest ih =>
    obtain ⟨hstage, hrest⟩ := List.forall_mem_cons.1 h
    have htrans (a b c : Draft) (hab : b.plan = a.plan) (hbc : c.plan = b.plan) :
        c.plan = a.plan := hbc.trans hab
    rw [runAll]
    exact rel_bind htrans (hstage draft) fun _ _ _ ↦ ih hrest

theorem runAll_append_eq_ok_iff :
    (runAll report (first ++ second)).run draft = (.ok last, after) ↔
      ∃ between middle, (runAll report first).run draft = (.ok between, middle) ∧
        (runAll between second).run middle = (.ok last, after) := by
  induction first generalizing report draft with
  | nil =>
    constructor
    · exact fun h ↦ ⟨report, draft, rfl, h⟩
    · rintro ⟨between, middle, hnone, h⟩
      cases hnone
      exact h
  | cons stage rest ih =>
    rw [List.cons_append, runAll, runAll]
    constructor
    · intro h
      obtain ⟨warnings, begun, hstage, h⟩ := bind_ok_iff.1 h
      obtain ⟨between, middle, hrest, hsecond⟩ := ih.1 h
      exact ⟨between, middle, bind_ok_iff.2 ⟨warnings, begun, hstage, hrest⟩, hsecond⟩
    · rintro ⟨between, middle, h, hsecond⟩
      obtain ⟨warnings, begun, hstage, hrest⟩ := bind_ok_iff.1 h
      exact bind_ok_iff.2 ⟨warnings, begun, hstage, ih.2 ⟨between, middle, hrest, hsecond⟩⟩

end Stage

/-- A script that puts neither order nor levels into the plan leaves the plan. -/
theorem StageScript.leavesPlan {script : StageScript} (horder : script.order = none)
    (hlevels : script.levels = none) : script.toStage.LeavesPlan := by
  intro draft
  have hreplan : script.replan draft.plan = draft.plan := by
    rw [replan, horder, hlevels]
    rfl
  unfold toStage
  cases script.rejection with
  | some e => rfl
  | none => exact hreplan

/-! ## Nodes that are missed -/

namespace Graph

variable {graph before after : Graph} {id : NodeId} {run : RunState}

theorem Ran.nodeIds_eq (h : before.Ran after) : after.nodeIds = before.nodeIds := by
  have hids : Node.id = Node.id ∘ Node.fixed := rfl
  rw [nodeIds, nodeIds, hids, ← List.map_map, ← List.map_map, h.nodes]

/-- A node that is there does not find the graph unverified, whatever else may keep it from running.
-/
theorem executeNode_ne_graphNotVerified (options : RunOptions) (watch : Stopwatch)
    (hid : id ∈ run.graph.nodeIds) (state : GraphState) :
    (executeNode options watch id run).1 ≠ .error (.failed (.graphNotVerified state)) := by
  unfold executeNode
  split
  · next hnone =>
    obtain ⟨node, hnode, hnodeId⟩ := List.mem_map.1 hid
    exact absurd (beq_iff_eq.2 hnodeId) (List.find?_eq_none.1 hnone node hnode)
  · next node _ =>
    split
    · simp
    · next slots _ =>
      dsimp only
      generalize node.kernel.kernel.execute { node := id, slots } = outcome
      obtain ⟨result, left⟩ := outcome
      cases result with
      | error stop => cases stop <;> simp
      | ok _ =>
        dsimp only
        generalize askCallback node _ = asked
        obtain ⟨action, finished⟩ := asked
        cases action <;> simp

theorem isOk_executeNode_of_not_mem (options : RunOptions) (watch : Stopwatch)
    (hid : id ∉ run.graph.nodeIds) : (executeNode options watch id run).1.isOk = false := by
  have hnone : run.graph.node? id = none := by
    refine List.find?_eq_none.2 fun node hnode hnodeId ↦ hid ?_
    exact List.mem_map.2 ⟨node, hnode, beq_iff_eq.1 hnodeId⟩
  rw [executeNode, hnone]
  rfl

variable {plan : Plan}

theorem process_ne_graphNotVerified (hplan : graph.plan = some plan)
    (hstate : graph.state.hasPlan = true)
    (hids : ∀ id ∈ Dispatch.sequence graph.runOptions plan, id ∈ graph.nodeIds) (watch : Stopwatch)
    (state : GraphState) :
    (graph.process watch).result ≠ .error (.failed (.graphNotVerified state)) := by
  have hsteps (id : NodeId) (hid : id ∈ Dispatch.sequence graph.runOptions plan) :
      Dispatch.Keeps (fun run : RunState ↦ run.graph.nodeIds = graph.nodeIds)
        (fun stop ↦ stop ≠ .failed (.graphNotVerified state))
        (executeNode graph.runOptions watch id) := by
    intro run hrun
    have hmem : id ∈ run.graph.nodeIds := hrun ▸ hids id hid
    refine ⟨(ran_executeNode graph.runOptions watch id run).nodeIds_eq.trans hrun, ?_⟩
    rintro _ hresult rfl
    exact executeNode_ne_graphNotVerified graph.runOptions watch hmem state hresult
  have hstops := (Dispatch.keeps_run hsteps graph.begin rfl).2
  rw [(process_spec hplan hstate watch).1, runNodes]
  generalize Dispatch.run graph.runOptions plan _ graph.begin = ran at hstops
  obtain ⟨result, last⟩ := ran
  cases result with
  | ok _ => rintro ⟨⟩
  | error stop => exact fun h ↦ hstops stop rfl (Except.error.inj h)

theorem isOk_process_eq_false (hplan : graph.plan = some plan)
    (hstate : graph.state.hasPlan = true) (hid : id ∈ Dispatch.sequence graph.runOptions plan)
    (hmissing : id ∉ graph.nodeIds) (watch : Stopwatch) :
    (graph.process watch).result.isOk = false := by
  rw [isOk_process hplan hstate, runInRow]
  refine Dispatch.isOk_inOrder_eq_false (P := fun run ↦ run.graph.nodeIds = graph.nodeIds)
    (fun other run hrun ↦ ?_) hid (fun run hrun ↦ ?_) rfl
  · exact (ran_executeNode graph.runOptions watch other run).nodeIds_eq.trans hrun
  · exact isOk_executeNode_of_not_mem graph.runOptions watch (hrun ▸ hmissing)

/-! ## Plans that arrive -/

/-- A plan that was made for one graph and installed in another. -/
structure PlansFor (before after : Graph) (plan : Plan) : Prop where
  order_perm : plan.order.Perm before.nodeIds
  levels_perm : plan.levels.flatten.Perm before.nodeIds
  /-- The plan names nodes of the other graph only, unless a node is missing there. -/
  named_iff : (∀ id, id ∈ plan.order ∨ id ∈ plan.levels.flatten → id ∈ after.nodeIds) ↔
    before.nodeIds ⊆ after.nodeIds
  found : before.nodeIds ⊆ after.nodeIds → ∀ watch state,
    (after.process watch).result ≠ .error (.failed (.graphNotVerified state))
  missed : ¬ before.nodeIds ⊆ after.nodeIds → ∀ watch, (after.process watch).result.isOk = false

theorem plansFor (hplan : after.plan = some plan) (hstate : after.state.hasPlan = true)
    (horder : plan.order.Perm before.nodeIds)
    (hlevels : plan.levels.flatten.Perm before.nodeIds) : before.PlansFor after plan := by
  have hsequence : (Dispatch.sequence after.runOptions plan).Perm before.nodeIds := by
    unfold Dispatch.sequence
    split
    · exact hlevels
    · exact horder
  refine ⟨horder, hlevels, ⟨?_, ?_⟩, ?_, ?_⟩
  · exact fun hnamed id hid ↦ hnamed id (.inl (horder.mem_iff.2 hid))
  · rintro hsubset id (hid | hid)
    · exact hsubset (horder.mem_iff.1 hid)
    · exact hsubset (hlevels.mem_iff.1 hid)
  · intro hsubset
    exact process_ne_graphNotVerified hplan hstate fun id hid ↦ hsubset (hsequence.mem_iff.1 hid)
  · intro hmissing watch
    by_contra hok
    refine hmissing fun id hid ↦ ?_
    by_contra habsent
    exact hok (isOk_process_eq_false hplan hstate (hsequence.mem_iff.2 hid) habsent watch)

/-- Whatever the stages after the standard ones do to the graph, the plan that the standard stages
made arrives. -/
theorem exists_plansFor_of_passed (hbalanced : graph.ledger.Balanced) {custom : List Stage}
    (hcustom : ∀ stage ∈ custom, stage.LeavesPlan) {report : VerifyReport}
    (hpassed : (graph.verifyWith (Stage.standard ++ custom)).result = .ok report) :
    ∃ plan, (graph.verifyWith (Stage.standard ++ custom)).graph.plan = some plan ∧
      graph.PlansFor (graph.verifyWith (Stage.standard ++ custom)).graph plan := by
  unfold verifyWith runStages at hpassed ⊢
  generalize hrun : (Stage.runAll .empty (Stage.standard ++ custom)).run
    { graph := graph.invalidate, plan := .empty, events := [] } = ended at hpassed ⊢
  obtain ⟨result, draft⟩ := ended
  cases result with
  | error e => cases hpassed
  | ok passed =>
    obtain ⟨between, middle, hstandard, hrest⟩ := Stage.runAll_append_eq_ok_iff.1 hrun
    have hkept : draft.plan = middle.plan := by
      have hplan := @Stage.plan_runAll custom between middle hcustom
      rw [hrest] at hplan
      exact hplan
    obtain ⟨shaped, hstages⟩ := @exists_passed_of_standard graph.invalidate _ _ hstandard hbalanced
    have hledger : shaped.ledger = graph.invalidate.ledger :=
      ledger_eq_of_redrafted hstages.shapes
    have hids : shaped.nodeIds = graph.nodeIds := by
      rw [← nodeIds_eq, ← nodeIds_eq, hledger]
      rfl
    obtain ⟨horder, -⟩ := order_spec (of_topologicalOrder hstages.order_eq)
    rw [hids] at horder
    refine ⟨middle.plan, congrArg some hkept, plansFor (congrArg some hkept) rfl horder ?_⟩
    rw [hstages.levels_eq]
    exact (Precedence.flatten_levels_perm shaped.edges middle.plan.order).trans horder

end Graph

namespace Call

/-- When a verification by the standard stages and stages of a client's own passes, the plan is one
for the graph as it was before the call. It is fit for the graph that is left, in that its runs find
every node, if no node has been removed in between; otherwise none of its runs succeeds. -/
theorem plansFor_of_passed (id : GraphId) (context : Context) (calls : List Call)
    {custom : List Stage} (hcustom : ∀ stage ∈ custom, stage.LeavesPlan) {report : VerifyReport}
    (hpassed : ((applyAll (.empty id context) calls).verifyWith
      (Stage.standard ++ custom)).result = .ok report) :
    let graph := applyAll (.empty id context) calls
    let ended := graph.verifyWith (Stage.standard ++ custom)
    ∃ plan, ended.graph.plan = some plan ∧ graph.PlansFor ended.graph plan :=
  Graph.exists_plansFor_of_passed (balanced_applyAll id context calls) hcustom hpassed

/-- A stage that removes the first node. -/
def removal : Stage :=
  StageScript.toStage
    { name := "removal"
      rejection := none
      removal := some ⟨0⟩
      order := none
      levels := none
      warnings := [] }

theorem passed_removal_copies :
    ((applyAll (.empty ⟨0⟩ Operation.plainContext)
      (Operation.copies.map .operation)).verifyWith (Stage.standard ++ [removal])).result =
      .ok { stages := ["Resolve Virtuals", "Parameter Check", "Topology Check", "Planning",
              "removal"]
            warnings := [] } := by
  decide +kernel

theorem plansFor_removal_copies :
    let graph := applyAll (.empty ⟨0⟩ Operation.plainContext) (Operation.copies.map .operation)
    let ended := graph.verifyWith (Stage.standard ++ [removal])
    ∃ plan, ended.graph.plan = some plan ∧ graph.PlansFor ended.graph plan :=
  plansFor_of_passed ⟨0⟩ Operation.plainContext (Operation.copies.map .operation)
    (List.forall_mem_singleton.2 (StageScript.leavesPlan rfl rfl)) passed_removal_copies

/-- The removed node stays in the plan, and the next run misses it. -/
theorem missed_removal_copies :
    let graph := applyAll (.empty ⟨0⟩ Operation.plainContext) (Operation.copies.map .operation)
    let ended := graph.verifyWith (Stage.standard ++ [removal])
    (removal.MovesOnly ∧ removal.LeavesPlan) ∧
      ended.result.isOk = true ∧ ⟨0⟩ ∉ ended.graph.nodeIds ∧
      ended.graph.plan.map Plan.order = some [⟨1⟩, ⟨0⟩, ⟨2⟩] ∧
      (ended.graph.process .still).result = .error (.failed (.graphNotVerified .running)) :=
  ⟨⟨StageScript.movesOnly _, StageScript.leavesPlan rfl rfl⟩, by decide +kernel⟩

end Call

end ImageFlow
