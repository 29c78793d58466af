import ImageFlow.Graph.StageScript
import ImageFlow.Proofs.Verification.PlanValidity

/-!
# Failed verifications leave no trace

Whatever stage of a verification fails, and at whatever node, the stages before it have done nothing
to the graph but redraft objects. A redrafted object, once reset, is what the object as it was would
be if it were reset, and a sound concrete object is never touched. So a graph whose verification has
failed is the graph as it was, with its virtual objects reset and without a plan. Resetting is also
what a verification begins with, so a second verification finds what the first one found and ends
with the same error.
-/

namespace ImageFlow

/-- A stage that leaves the graph as it is. -/
def Stage.LeavesGraph (stage : Stage) : Prop :=
  ∀ draft : Draft, (stage.run.run draft).2.graph = draft.graph

theorem Stage.LeavesGraph.redrafts {stage : Stage} (h : stage.LeavesGraph) : stage.Redrafts := by
  intro draft
  rw [h draft]
  exact .refl .refl _

/-! ## Resetting -/

namespace DataObject

theorem reset_of_isVirtual {object : DataObject} (h : object.isVirtual = true) :
    object.reset = { object with state := .pending, payload := none } := if_pos h

theorem reset_of_not_isVirtual {object : DataObject} (h : object.isVirtual = false) :
    object.reset = object := if_neg (by simp [h])

theorem reset_reset (object : DataObject) : object.reset.reset = object.reset := by
  cases h : object.isVirtual with
  | true => rw [reset_of_isVirtual h, reset_of_isVirtual rfl]
  | false => rw [reset_of_not_isVirtual h, reset_of_not_isVirtual h]

/-- A verification makes nothing of an object that resetting would not undo. -/
theorem Redrafted.reset_eq {before after : DataObject} (h : before.Redrafted after)
    (hsound : before.Sound) : after.reset = before.reset := by
  cases hvirtual : before.isVirtual with
  | true =>
    rw [reset_of_isVirtual (h.isVirtual_eq.trans hvirtual), reset_of_isVirtual hvirtual, h.id_eq,
      h.hint_eq, h.constraints_eq, h.clientRefs_eq, h.slotRefs_eq]
  | false => rw [h.concrete hvirtual (hsound.concrete hvirtual).1]

end DataObject

namespace Arena

variable {arena before after : Arena}

theorem resetVirtuals_resetVirtuals (arena : Arena) :
    arena.resetVirtuals.resetVirtuals = arena.resetVirtuals := by
  refine eq_of_byId?_eq rfl (by simp [resetVirtuals, map]) fun id ↦ ?_
  simp only [resetVirtuals, byId?_map, Option.map_map]
  congr 1
  funext object
  exact object.reset_reset

theorem Revised.resetVirtuals_eq (h : before.Revised DataObject.Redrafted after)
    (hsound : ∀ id object, before.byId? id = some object → object.Sound) :
    after.resetVirtuals = before.resetVirtuals := by
  refine eq_of_byId?_eq h.graph_eq (by simp [resetVirtuals, map, h.length_eq]) fun id ↦ ?_
  rw [resetVirtuals, resetVirtuals, byId?_map, byId?_map]
  have hobject := h.objects id
  have hsoundId := hsound id
  generalize before.byId? id = a at hobject hsoundId ⊢
  generalize after.byId? id = b at hobject ⊢
  cases hobject with
  | none => rfl
  | some hab => exact congrArg some (hab.reset_eq (hsoundId _ rfl))

end Arena

/-! ## What a failed verification leaves -/

namespace Graph

variable {graph before after : Graph} {stages : List Stage}

theorem abortVerification_of_redrafted (h : before.Revised DataObject.Redrafted after)
    (hsound : before.SoundObjects) : after.abortVerification = before.abortVerification := by
  obtain ⟨arena, harena, rfl⟩ := h
  rw [abortVerification, abortVerification, harena.resetVirtuals_eq hsound]

theorem graph_of_runStages_error (hstages : ∀ stage ∈ stages, stage.Redrafts)
    (hsound : graph.SoundObjects) {stop : Stop VerifyError}
    (hfailed : (graph.runStages stages).result = .error stop) :
    (graph.runStages stages).graph = graph.abortVerification := by
  have hredrafted := Stage.redrafted_runAll hstages .empty { graph, plan := .empty, events := [] }
  unfold runStages at hfailed ⊢
  generalize (Stage.runAll .empty stages).run { graph, plan := .empty, events := [] } = ended
    at hfailed hredrafted ⊢
  obtain ⟨result, draft⟩ := ended
  cases result with
  | ok report => cases hfailed
  | error e => exact abortVerification_of_redrafted hredrafted hsound

/-- What a graph is like when it has been rolled back. -/
structure RolledBack (before after : Graph) : Prop where
  state_eq : after.state = .unverified
  plan_eq : after.plan = none
  /-- Nothing but the state, the plan and the objects has changed. -/
  frame : after =
    { before with arena := after.arena, state := after.state, plan := after.plan }
  scope_eq : after.arena.graph = before.arena.graph
  nextId_eq : after.arena.nextId = before.arena.nextId
  freed : ∀ data, before.arena.byId? data = none → after.arena.byId? data = none
  concrete : ∀ data object, before.arena.byId? data = some object → object.isVirtual = false →
    after.arena.byId? data = some object
  virtual : ∀ data object, before.arena.byId? data = some object → object.isVirtual = true →
    after.arena.byId? data = some { object with state := .pending, payload := none }

theorem RolledBack.invalidate_eq (h : before.RolledBack after) : after.invalidate = after := by
  rw [invalidate, ← h.state_eq, ← h.plan_eq]

theorem rolledBack_abortVerification (graph : Graph) :
    graph.RolledBack graph.abortVerification := by
  have hreset (data : DataId) : graph.abortVerification.arena.byId? data =
      (graph.arena.byId? data).map DataObject.reset := Arena.byId?_map _
  have hlength : graph.abortVerification.arena.nextId = graph.arena.nextId := by
    rw [Arena.nextId, Arena.nextId, DataId.mk.injEq]
    exact List.length_map ..
  exact
    { state_eq := rfl
      plan_eq := rfl
      frame := rfl
      scope_eq := rfl
      nextId_eq := hlength
      freed := fun data hnone ↦ by rw [hreset, hnone, Option.map_none]
      concrete := fun data object hobject hconcrete ↦ by
        rw [hreset, hobject, Option.map_some, DataObject.reset_of_not_isVirtual hconcrete]
      virtual := fun data object hobject hvirtual ↦ by
        rw [hreset, hobject, Option.map_some, DataObject.reset_of_isVirtual hvirtual] }

/-! ## The second time -/

/-- Giving shapes begins afresh, whatever shapes there are. -/
theorem run_resolveVirtuals_abortVerification (graph : Graph) (plan : Plan) (events : List Event) :
    Verification.resolveVirtuals.run { graph := graph.abortVerification, plan, events } =
      Verification.resolveVirtuals.run { graph := graph.invalidate, plan, events } := by
  have hreset : graph.abortVerification.arena.resetVirtuals = graph.arena.resetVirtuals :=
    graph.arena.resetVirtuals_resetVirtuals
  rw [Verification.resolveVirtuals, Stateful.run_bind, Verification.run_graph,
    Stateful.run_bind, Verification.run_graph]
  dsimp only
  rw [hreset, Stateful.run_bind, Stateful.run_bind, Verification.run_setArena,
    Verification.run_setArena]
  rfl

theorem runStages_abortVerification (graph : Graph) (stages : List Stage) :
    graph.abortVerification.runStages (Stage.resolve :: stages) =
      graph.invalidate.runStages (Stage.resolve :: stages) := by
  have hresolve : Stage.resolve.run.run
        { graph := graph.abortVerification, plan := .empty, events := [] } =
      Stage.resolve.run.run { graph := graph.invalidate, plan := .empty, events := [] } :=
    run_resolveVirtuals_abortVerification graph .empty []
  rw [runStages, runStages, Stage.runAll, Stateful.run_bind, Stateful.run_bind, hresolve]

theorem redrafts_of_mem_append {custom : List Stage}
    (hcustom : ∀ stage ∈ custom, stage.LeavesGraph) :
    ∀ stage ∈ Stage.standard ++ custom, stage.Redrafts := by
  intro stage hstage
  rcases List.mem_append.1 hstage with hstandard | hstage
  · exact Stage.redrafts_of_mem_standard hstandard
  · exact (hcustom stage hstage).redrafts

/-- A verification that begins with giving shapes, and otherwise redrafts objects at most, comes to
the same if it is repeated, whether it passes or not. -/
theorem verifyWith_verifyWith {custom : List Stage}
    (hcustom : ∀ stage ∈ custom, stage.LeavesGraph) (hsound : graph.SoundObjects) :
    (graph.verifyWith (Stage.standard ++ custom)).graph.verifyWith (Stage.standard ++ custom) =
      graph.verifyWith (Stage.standard ++ custom) := by
  have habort : (graph.verifyWith (Stage.standard ++ custom)).graph.abortVerification =
      graph.abortVerification :=
    @abortVerification_of_redrafted graph.invalidate
      (graph.verifyWith (Stage.standard ++ custom)).graph.invalidate
      (redrafted_runStages (redrafts_of_mem_append hcustom) graph.invalidate) hsound
  calc (graph.verifyWith (Stage.standard ++ custom)).graph.verifyWith (Stage.standard ++ custom)
      = (graph.verifyWith (Stage.standard ++ custom)).graph.abortVerification.runStages
          (Stage.standard ++ custom) := (runStages_abortVerification _ _).symm
    _ = graph.abortVerification.runStages (Stage.standard ++ custom) := by rw [habort]
    _ = graph.verifyWith (Stage.standard ++ custom) := runStages_abortVerification graph _

/-- A failed verification by stages that begin with giving shapes is rolled back, and comes to the
same if it is repeated. -/
theorem verifyWith_of_failed {custom : List Stage}
    (hcustom : ∀ stage ∈ custom, stage.LeavesGraph) (hsound : graph.SoundObjects)
    {stop : Stop VerifyError}
    (hfailed : (graph.verifyWith (Stage.standard ++ custom)).result = .error stop) :
    let ended := graph.verifyWith (Stage.standard ++ custom)
    graph.RolledBack ended.graph ∧ ended.graph.verifyWith (Stage.standard ++ custom) = ended := by
  intro ended
  have hgraph : ended.graph = graph.abortVerification :=
    @graph_of_runStages_error graph.invalidate _ (redrafts_of_mem_append hcustom) hsound _ hfailed
  exact ⟨hgraph ▸ rolledBack_abortVerification graph, verifyWith_verifyWith hcustom hsound⟩

end Graph

namespace Call

/-- A verification by the standard stages, which may be followed by stages that leave the graph as
it is, leaves no trace when it fails: the graph is as it was before the call, except that it has no
plan and its virtual objects are reset. The same verification then comes to exactly the same: it
ends with the same error, and leaves the same graph. -/
theorem rolledBack_of_failed (id : GraphId) (context : Context) (calls : List Call)
    {custom : List Stage} (hcustom : ∀ stage ∈ custom, stage.LeavesGraph)
    {verification : Graph → VerificationResult}
    (hverification : verification = Graph.verify ∨
      verification = (Graph.verifyWith · (Stage.standard ++ custom)))
    {e : VerifyError}
    (hfailed : (verification (applyAll (.empty id context) calls)).result = .error (.failed e)) :
    let graph := applyAll (.empty id context) calls
    graph.RolledBack (verification graph).graph ∧
      verification (verification graph).graph = verification graph := by
  intro graph
  have hsound : graph.SoundObjects := soundObjects_applyAll id context calls
  have hsettled : graph.Settled := settled_applyAll (settled_empty id context) calls
  rcases hverification with rfl | rfl
  · -- Only a graph without a plan can fail to be verified, and then there is nothing to drop.
    have hplan : graph.plan = none := by
      by_contra hsome
      have hisSome : graph.plan.isSome = true := Option.isSome_iff_ne_none.2 hsome
      rw [show Call.applyAll _ _ = graph from rfl,
        Graph.verify_of_plan hisSome (hsettled.hasPlan hisSome)] at hfailed
      cases hfailed
    have hverify : graph.verify = graph.verifyWith (Stage.standard ++ []) := by
      rw [List.append_nil, Graph.verify_of_no_plan hplan, Graph.verifyWith,
        hsettled.invalidate_eq hplan]
    rw [show Call.applyAll _ _ = graph from rfl, hverify] at hfailed
    obtain ⟨hrolled, hagain⟩ := Graph.verifyWith_of_failed (by simp) hsound hfailed
    rw [← hverify] at hrolled hagain
    rw [List.append_nil, Graph.verifyWith, hrolled.invalidate_eq,
      ← Graph.verify_of_no_plan hrolled.plan_eq] at hagain
    exact ⟨hrolled, hagain⟩
  · exact Graph.verifyWith_of_failed hcustom hsound hfailed

/-- A stage that rejects every graph. -/
def refusal : Stage :=
  StageScript.toStage
    { name := "refusal"
      rejection := some (.invalidDescriptor "refused")
      removal := none
      order := none
      levels := none
      warnings := [] }

theorem leavesGraph_refusal : refusal.LeavesGraph := fun _ ↦ rfl

theorem failed_refusal_copies :
    ((applyAll (.empty ⟨0⟩ Operation.plainContext)
      (Operation.copies.map .operation)).verifyWith (Stage.standard ++ [refusal])).result =
      .error (.failed (.invalidDescriptor "refused")) := by
  decide +kernel

theorem rolledBack_refusal_copies :
    let graph := applyAll (.empty ⟨0⟩ Operation.plainContext) (Operation.copies.map .operation)
    let ended := graph.verifyWith (Stage.standard ++ [refusal])
    graph.RolledBack ended.graph ∧
      ended.graph.verifyWith (Stage.standard ++ [refusal]) = ended :=
  @rolledBack_of_failed ⟨0⟩ Operation.plainContext (Operation.copies.map .operation) [refusal]
    (List.forall_mem_singleton.2 leavesGraph_refusal)
    (Graph.verifyWith · (Stage.standard ++ [refusal])) (.inr rfl) _ failed_refusal_copies

end Call

end ImageFlow
