import ImageFlow.Proofs.Verification.Shapes

/-!
# What a verification shows to kernels

The standard stages ask kernels about their nodes: for the shape of an output, whether the
parameters go together, and to get ready. Each time the kernel is shown its node as the graph stands
then. No stage changes more than objects, and those by redrafting, so the values of scalars that a
kernel is shown are the ones that were known before the verification, whether it passes or not.
-/

namespace ImageFlow

open Stateful

/-- What a kernel is shown when it is asked about its node. -/
def Activity.view? : Activity → Option Inspection
  | .infer _ view | .validate view | .prepare view => some view
  | .execute _ => none

/-- The node whose kernel is asked about it in an event, and what the kernel is shown. -/
def Event.view? : Event → Option (NodeId × Inspection)
  | .kernel node activity _ => activity.view?.map (node, ·)
  | .callback _ => none

/-- What kernels are shown of their nodes in a list of events. -/
def viewsOf (events : List Event) : List (NodeId × Inspection) :=
  events.filterMap Event.view?

theorem viewsOf_append (first second : List Event) :
    viewsOf (first ++ second) = viewsOf first ++ viewsOf second :=
  List.filterMap_append

/-- The view of a node in a graph, or in one that differs from it by a redraft of the objects. -/
inductive Graph.Views (start : Graph) : NodeId → Inspection → Prop
  | inspect {now : Graph} {node : Node} (hnow : start.Revised DataObject.Redrafted now)
    (hnode : node ∈ start.nodes) : Views start node.id (Verification.inspect now node)

/-- A draft of a graph, of which kernels have been shown nothing but views. -/
structure Draft.Faithful (start : Graph) (draft : Draft) : Prop where
  redrafted : start.Revised DataObject.Redrafted draft.graph
  views : ∀ shown ∈ viewsOf draft.events, start.Views shown.1 shown.2

namespace Draft.Faithful

variable {start : Graph} {draft after : Draft}

/-- Kernels are shown nothing. -/
theorem silent (h : draft.Faithful start)
    (hgraph : draft.graph.Revised DataObject.Redrafted after.graph)
    (hevents : after.events = draft.events) : after.Faithful start where
  redrafted := h.redrafted.trans DataObject.Redrafted.trans hgraph
  views := by
    rw [hevents]
    exact h.views

/-- A kernel is shown a view of its node. -/
theorem emit (h : draft.Faithful start) {id : NodeId} {view : Inspection}
    (hview : start.Views id view) {activity : Activity} (hactivity : activity.view? = some view)
    (kernel : Kernel) :
    { draft with events := draft.events ++ [kernel.event id activity] }.Faithful start where
  redrafted := h.redrafted
  views := by
    have hlast : viewsOf [kernel.event id activity] = [(id, view)] := by
      simp [viewsOf, Kernel.event, Event.view?, hactivity]
    rw [viewsOf_append, hlast]
    exact List.forall_mem_append.2 ⟨h.views, List.forall_mem_singleton.2 hview⟩

/-- A node as it is seen in the draft. -/
theorem view (h : draft.Faithful start) {id : NodeId} {node : Node}
    (hnode : draft.graph.node? id = some node) :
    start.Views id (Verification.inspect draft.graph node) := by
  obtain rfl : node.id = id := Graph.id_of_node? hnode
  exact .inspect h.redrafted (h.redrafted.nodes_eq ▸ List.mem_of_find?_eq_some hnode)

end Draft.Faithful

namespace Verification

variable {start : Graph} {draft : Draft} {node : Node} {view : Inspection}

/-! ## Stages that show nothing -/

theorem events_resolveAll (shapes : List (DataRef × Descriptor)) (draft : Draft) :
    ((resolveAll shapes).run draft).2.events = draft.events := by
  induction shapes generalizing draft with
  | nil => rfl
  | cons shape rest ih =>
    rw [resolveAll, run_bind, run_graph]
    dsimp only
    split
    · rfl
    · rw [run_bind, run_setArena]
      exact ih _

theorem events_checkTopology (draft : Draft) :
    (checkTopology.run draft).2.events = draft.events := by
  rw [checkTopology, run_bind, run_graph]
  dsimp only
  rw [run_bind, run_require]
  cases Stop.ofResult draft.graph.checkSingleWriter with
  | error e => rfl
  | ok _ =>
    dsimp only
    split
    · rfl
    · rw [run_bind, run_modifyPlan]
      dsimp only
      split <;> rfl

theorem events_assignTargets (ids : List NodeId) (draft : Draft) :
    ((assignTargets ids).run draft).2.events = draft.events := by
  induction ids generalizing draft with
  | nil => rfl
  | cons id rest ih =>
    rw [assignTargets, run_bind, run_graph]
    dsimp only
    split
    · exact ih draft
    · split
      · rfl
      · rw [run_bind, run_modifyPlan]
        exact ih _

theorem events_planObjects (spans : List (DataId × Nat × Nat)) (draft : Draft) :
    ((planObjects spans).run draft).2.events = draft.events := by
  induction spans generalizing draft with
  | nil => rfl
  | cons span rest ih =>
    rw [planObjects, run_bind, run_graph]
    dsimp only
    split
    · exact ih draft
    · split
      · rfl
      · rfl
      · rw [run_bind, run_setArena]
        dsimp only
        rw [run_bind, run_modifyPlan]
        exact ih _

theorem events_planMemory (draft : Draft) : (planMemory.run draft).2.events = draft.events := by
  rw [planMemory, run_bind, run_graph]
  dsimp only
  rw [run_bind, run_get]
  exact holds_bind (P := fun last : Draft ↦ last.events = draft.events)
    (events_planObjects _ draft) fun _ last _ hlast ↦ hlast

/-! ## Giving shapes -/

theorem faithful_inferSlot (h : draft.Faithful start) (hview : start.Views node.id view)
    (binding : Binding) : ((inferSlot node view binding).run draft).2.Faithful start := by
  rw [inferSlot]
  split
  · exact h
  · rw [run_bind, run_graph]
    dsimp only
    split
    · exact h
    · split
      · exact h
      · rw [run_bind, run_emit]
        dsimp only
        split
        · exact h.emit hview rfl node.kernel.kernel
        · exact h.emit hview rfl node.kernel.kernel

theorem faithful_inferSlots (h : draft.Faithful start) (hview : start.Views node.id view)
    (bindings : List Binding) : ((inferSlots node view bindings).run draft).2.Faithful start := by
  induction bindings generalizing draft with
  | nil => exact h
  | cons binding rest ih =>
    rw [inferSlots]
    refine holds_bind (faithful_inferSlot h hview binding) fun first mid _ hmid ↦ ?_
    exact holds_bind (ih hmid) fun others last _ hlast ↦ hlast

theorem faithful_resolvePass (h : draft.Faithful start) (ids : List NodeId) :
    ((resolvePass ids).run draft).2.Faithful start := by
  induction ids generalizing draft with
  | nil => exact h
  | cons id rest ih =>
    have hskip : ((resolvePass rest >>= fun others ↦ pure (id :: others)).run
        draft).2.Faithful start := holds_bind (ih h) fun others last _ hlast ↦ hlast
    rw [resolvePass, run_bind, run_graph]
    dsimp only
    split
    · exact hskip
    · next node hnode =>
      have hview := h.view hnode
      rw [← Graph.id_of_node? hnode] at hview
      split
      · refine holds_bind (faithful_inferSlots h hview _) fun shapes mid _ hmid ↦ ?_
        have hresolved : ((resolveAll shapes).run mid).2.Faithful start :=
          hmid.silent (redrafted_resolveAll shapes mid).graph (events_resolveAll shapes mid)
        exact holds_bind hresolved fun _ last _ hlast ↦ ih hlast
      · exact hskip

theorem faithful_resolvePasses (h : draft.Faithful start) (passes : Nat) (left : List NodeId) :
    ((resolvePasses passes left).run draft).2.Faithful start := by
  induction passes generalizing left draft with
  | zero => exact h
  | succ passes ih =>
    rw [resolvePasses]
    refine holds_bind (faithful_resolvePass h left) fun still mid _ hmid ↦ ?_
    split
    · exact ih hmid still
    · exact hmid

theorem faithful_resolveVirtuals (h : draft.Faithful start) :
    (resolveVirtuals.run draft).2.Faithful start := by
  rw [resolveVirtuals, run_bind, run_graph]
  dsimp only
  have hreset : ((setArena draft.graph.arena.resetVirtuals).run draft).2.Faithful start :=
    h.silent ⟨_, Arena.revised_map _ DataObject.redrafted_reset, rfl⟩ rfl
  refine holds_bind hreset fun _ mid _ hmid ↦ ?_
  rw [run_bind, run_graph]
  dsimp only
  refine holds_bind (faithful_resolvePasses hmid _ _) fun _ last _ hlast ↦ ?_
  rw [run_bind, run_graph]
  dsimp only
  split
  · exact hlast
  · exact hlast

/-! ## Checking slots -/

theorem faithful_checkNodes (h : draft.Faithful start) {nodes : List Node}
    (hnodes : nodes ⊆ start.nodes) : ((checkNodes nodes).run draft).2.Faithful start := by
  induction nodes generalizing draft with
  | nil => exact h
  | cons node rest ih =>
    obtain ⟨hnode, hrest⟩ := List.cons_subset.1 hnodes
    rw [checkNodes, run_bind, run_graph]
    dsimp only
    have hview : start.Views node.id (inspect draft.graph node) := .inspect h.redrafted hnode
    refine holds_bind h fun _ checked _ hchecked ↦ ?_
    refine holds_bind (hchecked.emit hview rfl node.kernel.kernel) fun _ noted _ hnoted ↦ ?_
    split
    · exact hnoted
    · exact ih hnoted hrest

theorem faithful_checkParameters (h : draft.Faithful start) :
    (checkParameters.run draft).2.Faithful start := by
  rw [checkParameters, run_bind, run_graph]
  have hnodes : draft.graph.nodes ⊆ start.nodes := by
    rw [h.redrafted.nodes_eq]
    exact List.Subset.refl _
  exact holds_bind (faithful_checkNodes h hnodes) fun _ last _ hlast ↦ hlast

/-! ## Planning -/

theorem faithful_prepareNodes (h : draft.Faithful start) (ids : List NodeId) :
    ((prepareNodes ids).run draft).2.Faithful start := by
  induction ids generalizing draft with
  | nil => exact h
  | cons id rest ih =>
    rw [prepareNodes, run_bind, run_graph]
    dsimp only
    split
    · exact ih h
    · next node hnode =>
      refine holds_bind (h.emit (h.view hnode) rfl node.kernel.kernel) fun _ noted _ hnoted ↦ ?_
      split
      · exact hnoted
      · exact ih hnoted

theorem faithful_makePlan (h : draft.Faithful start) :
    (makePlan.run draft).2.Faithful start := by
  rw [makePlan, run_bind, run_get]
  dsimp only
  have hassigned : ((assignTargets draft.plan.order).run draft).2.Faithful start := by
    refine h.silent ?_ (events_assignTargets _ draft)
    rw [graph_assignTargets]
    exact .refl .refl _
  refine holds_bind hassigned fun _ assigned _ hassigned ↦ ?_
  have hplanned : (planMemory.run assigned).2.Faithful start :=
    hassigned.silent ((allocated_planMemory assigned).mono DataObject.Allocated.redrafted)
      (events_planMemory assigned)
  refine holds_bind hplanned fun _ planned _ hplanned ↦ ?_
  exact holds_bind (faithful_prepareNodes hplanned _) fun _ last _ hlast ↦ hlast

end Verification

/-! ## Whole verifications -/

theorem Stage.faithful_of_mem_standard {start : Graph} {draft : Draft} (h : draft.Faithful start)
    {stage : Stage} (hstage : stage ∈ Stage.standard) : (stage.run.run draft).2.Faithful start := by
  have hredrafts := redrafts_of_mem_standard hstage draft
  simp only [Stage.standard, List.mem_cons, List.not_mem_nil, or_false] at hstage
  rcases hstage with rfl | rfl | rfl | rfl
  · exact Verification.faithful_resolveVirtuals h
  · exact Verification.faithful_checkParameters h
  · exact h.silent hredrafts (Verification.events_checkTopology draft)
  · exact Verification.faithful_makePlan h

theorem Stage.faithful_runAll {start : Graph} {draft : Draft} (h : draft.Faithful start)
    {stages : List Stage} (hstages : stages ⊆ Stage.standard) (report : VerifyReport) :
    ((Stage.runAll report stages).run draft).2.Faithful start := by
  induction stages generalizing report draft with
  | nil => exact h
  | cons stage rest ih =>
    obtain ⟨hstage, hrest⟩ := List.cons_subset.1 hstages
    rw [runAll]
    exact holds_bind (faithful_of_mem_standard h hstage) fun _ mid _ hmid ↦ ih hmid hrest _

namespace Graph

variable {start : Graph} {id : NodeId} {view : Inspection}

/-- The standard stages show kernels nothing but views of their nodes, even if they fail. -/
theorem views_of_mem_viewsOf (h : (id, view) ∈ viewsOf (start.runStages Stage.standard).events) :
    start.Views id view := by
  have hbegun : Draft.Faithful start { graph := start, plan := .empty, events := [] } :=
    ⟨.refl .refl start, fun _ hnone ↦ nomatch hnone⟩
  have hended := Stage.faithful_runAll hbegun (List.Subset.refl _) .empty
  rw [runStages] at h
  revert h
  generalize (Stage.runAll .empty Stage.standard).run
    { graph := start, plan := .empty, events := [] } = ended at hended ⊢
  obtain ⟨result, draft⟩ := ended
  cases result with
  | error stop => exact fun h ↦ hended.views (id, view) h
  | ok report => exact fun h ↦ hended.views (id, view) h

end Graph

end ImageFlow
