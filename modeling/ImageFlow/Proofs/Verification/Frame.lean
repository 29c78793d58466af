import ImageFlow.Graph.Verification
import ImageFlow.Proofs.Data.Revision
import ImageFlow.Proofs.Stateful

/-!
# What a verification can change

A stage is a computation on a draft that may end with an error and keeps what it changed before. For
each part of the standard stages there is one lemma on what it may change, whether it fails or not.
No stage changes more of a graph than its objects, and those by redrafting only.
-/

namespace ImageFlow

open Stateful

/-! ## Running parts of a verification -/

namespace Verification

theorem run_get (draft : Draft) : (get : Verification Draft).run draft = (.ok draft, draft) := rfl

theorem run_graph (draft : Draft) : graph.run draft = (.ok draft.graph, draft) := rfl

theorem run_emit (event : Event) (draft : Draft) :
    (emit event).run draft = (.ok (), { draft with events := draft.events ++ [event] }) := rfl

theorem run_setArena (arena : Arena) (draft : Draft) :
    (setArena arena).run draft = (.ok (), { draft with graph := { draft.graph with arena } }) := rfl

theorem run_modifyPlan (f : Plan → Plan) (draft : Draft) :
    (modifyPlan f).run draft = (.ok (), { draft with plan := f draft.plan }) := rfl

theorem run_require (result : Except VerifyError Unit) (draft : Draft) :
    (require result).run draft = (Stop.ofResult result, draft) := rfl

end Verification

/-! ## What may change -/

/-- Nothing but the events. -/
structure Draft.Kept (before after : Draft) : Prop where
  graph_eq : after.graph = before.graph
  plan_eq : after.plan = before.plan

/-- The plan stays, and objects are redrafted. -/
structure Draft.Redrafted (before after : Draft) : Prop where
  graph : before.graph.Revised DataObject.Redrafted after.graph
  plan_eq : after.plan = before.plan

/-- Objects that lacked memory may have been given some. -/
def Draft.Allocated (before after : Draft) : Prop :=
  before.graph.Revised DataObject.Allocated after.graph

namespace Draft

theorem Kept.refl (draft : Draft) : draft.Kept draft := ⟨rfl, rfl⟩

theorem Kept.trans (a b c : Draft) (h : a.Kept b) (h' : b.Kept c) : a.Kept c :=
  ⟨h'.graph_eq.trans h.graph_eq, h'.plan_eq.trans h.plan_eq⟩

theorem Redrafted.refl (draft : Draft) : draft.Redrafted draft := ⟨.refl .refl _, rfl⟩

theorem Redrafted.trans (a b c : Draft) (h : a.Redrafted b) (h' : b.Redrafted c) :
    a.Redrafted c :=
  ⟨h.graph.trans DataObject.Redrafted.trans h'.graph, h'.plan_eq.trans h.plan_eq⟩

theorem Allocated.refl (draft : Draft) : draft.Allocated draft := Graph.Revised.refl .refl _

theorem Allocated.trans (a b c : Draft) (h : a.Allocated b) (h' : b.Allocated c) :
    a.Allocated c :=
  Graph.Revised.trans DataObject.Allocated.trans h h'

theorem Allocated.of_graph_eq {a b : Draft} (h : b.graph = a.graph) : a.Allocated b := by
  rw [Allocated, h]
  exact .refl .refl _

theorem Kept.redrafted {a b : Draft} (h : a.Kept b) : a.Redrafted b where
  graph := by
    rw [h.graph_eq]
    exact .refl .refl _
  plan_eq := h.plan_eq

end Draft

namespace Verification

variable {draft after : Draft}

/-! ### Giving shapes -/

theorem kept_inferSlot (node : Node) (view : Inspection) (binding : Binding) (draft : Draft) :
    draft.Kept ((inferSlot node view binding).run draft).2 := by
  rw [inferSlot]
  split
  · exact .refl draft
  · rw [run_bind, run_graph]
    dsimp only
    split
    · exact .refl draft
    · split
      · exact .refl draft
      · rw [run_bind, run_emit]
        dsimp only
        split
        · exact ⟨rfl, rfl⟩
        · exact ⟨rfl, rfl⟩

theorem kept_inferSlots (node : Node) (view : Inspection) (bindings : List Binding)
    (draft : Draft) : draft.Kept ((inferSlots node view bindings).run draft).2 := by
  induction bindings generalizing draft with
  | nil => exact .refl draft
  | cons binding rest ih =>
    rw [inferSlots]
    apply rel_bind Draft.Kept.trans (kept_inferSlot node view binding draft)
    intro first mid _
    exact rel_bind Draft.Kept.trans (ih mid) fun others last _ ↦ .refl last

theorem redrafted_resolveAll (shapes : List (DataRef × Descriptor)) (draft : Draft) :
    draft.Redrafted ((resolveAll shapes).run draft).2 := by
  induction shapes generalizing draft with
  | nil => exact .refl draft
  | cons shape rest ih =>
    rw [resolveAll, run_bind, run_graph]
    dsimp only
    split
    · exact .refl draft
    · next resolved hresolve =>
      rw [run_bind, run_setArena]
      have hstep : draft.Redrafted
          { draft with graph := { draft.graph with arena := resolved } } :=
        ⟨⟨resolved, Arena.redrafted_resolve hresolve, rfl⟩, rfl⟩
      exact .trans _ _ _ hstep (ih _)

theorem redrafted_resolvePass (ids : List NodeId) (draft : Draft) :
    draft.Redrafted ((resolvePass ids).run draft).2 := by
  induction ids generalizing draft with
  | nil => exact .refl draft
  | cons id rest ih =>
    have hskip : draft.Redrafted
        ((resolvePass rest >>= fun others ↦ pure (id :: others)).run draft).2 :=
      rel_bind Draft.Redrafted.trans (ih draft) fun others last _ ↦ .refl last
    rw [resolvePass, run_bind, run_graph]
    dsimp only
    split
    · exact hskip
    · next node _ =>
      split
      · refine rel_bind Draft.Redrafted.trans (kept_inferSlots node _ _ draft).redrafted
          fun shapes mid _ ↦ ?_
        exact rel_bind Draft.Redrafted.trans (redrafted_resolveAll shapes mid)
          fun _ last _ ↦ ih last
      · exact hskip

theorem redrafted_resolvePasses (passes : Nat) (left : List NodeId) (draft : Draft) :
    draft.Redrafted ((resolvePasses passes left).run draft).2 := by
  induction passes generalizing left draft with
  | zero => exact .refl draft
  | succ passes ih =>
    rw [resolvePasses]
    apply rel_bind Draft.Redrafted.trans (redrafted_resolvePass left draft)
    intro still mid _
    split
    · exact ih still mid
    · exact .refl mid

theorem redrafted_resolveVirtuals (draft : Draft) :
    draft.Redrafted (resolveVirtuals.run draft).2 := by
  rw [resolveVirtuals, run_bind, run_graph]
  dsimp only
  refine rel_bind Draft.Redrafted.trans ?_ fun _ mid _ ↦ ?_
  · exact ⟨⟨_, Arena.revised_map _ DataObject.redrafted_reset, rfl⟩, rfl⟩
  · rw [run_bind, run_graph]
    dsimp only
    apply rel_bind Draft.Redrafted.trans (redrafted_resolvePasses _ _ mid)
    intro _ last _
    rw [run_bind, run_graph]
    dsimp only
    split
    · exact .refl last
    · exact .refl last

/-! ### Checking slots -/

theorem kept_checkNodes (nodes : List Node) (draft : Draft) :
    draft.Kept ((checkNodes nodes).run draft).2 := by
  induction nodes generalizing draft with
  | nil => exact .refl draft
  | cons node rest ih =>
    rw [checkNodes, run_bind, run_graph]
    dsimp only
    apply rel_bind Draft.Kept.trans (.refl draft)
    intro _ checked _
    apply rel_bind Draft.Kept.trans ⟨rfl, rfl⟩
    intro _ noted _
    split
    · exact .refl noted
    · exact ih noted

theorem kept_checkParameters (draft : Draft) : draft.Kept (checkParameters.run draft).2 := by
  rw [checkParameters, run_bind, run_graph]
  exact rel_bind Draft.Kept.trans (kept_checkNodes _ draft) fun _ last _ ↦ .refl last

/-! ### Finding the order -/

theorem graph_checkTopology (draft : Draft) : (checkTopology.run draft).2.graph = draft.graph := by
  rw [checkTopology, run_bind, run_graph]
  dsimp only
  rw [run_bind, run_require]
  cases Stop.ofResult draft.graph.checkSingleWriter with
  | error e => rfl
  | ok _ =>
    dsimp only
    split
    · rfl
    · rw [run_bind, run_modifyPlan]
      dsimp only
      split <;> rfl

/-! ### Planning -/

theorem graph_assignTargets (ids : List NodeId) (draft : Draft) :
    ((assignTargets ids).run draft).2.graph = draft.graph := by
  induction ids generalizing draft with
  | nil => rfl
  | cons id rest ih =>
    rw [assignTargets, run_bind, run_graph]
    dsimp only
    split
    · exact ih draft
    · split
      · rfl
      · rw [run_bind, run_modifyPlan]
        exact ih _

theorem order_assignTargets (ids : List NodeId) (draft : Draft) :
    ((assignTargets ids).run draft).2.plan.order = draft.plan.order := by
  induction ids generalizing draft with
  | nil => rfl
  | cons id rest ih =>
    rw [assignTargets, run_bind, run_graph]
    dsimp only
    split
    · exact ih draft
    · split
      · rfl
      · rw [run_bind, run_modifyPlan]
        exact ih _

theorem allocated_planObjects (spans : List (DataId × Nat × Nat)) (draft : Draft) :
    draft.Allocated ((planObjects spans).run draft).2 := by
  induction spans generalizing draft with
  | nil => exact .refl draft
  | cons span rest ih =>
    rw [planObjects, run_bind, run_graph]
    dsimp only
    split
    · exact ih draft
    · next object hobject =>
      split
      · exact .refl draft
      · exact .refl draft
      · next allocated fresh hallocate =>
        have hset : draft.graph.arena.Revised DataObject.Allocated
            (draft.graph.arena.set span.1 (some allocated)) :=
          Arena.revised_set .refl hobject (DataObject.allocated_of_allocate hallocate).1
        apply rel_bind Draft.Allocated.trans ⟨_, hset, rfl⟩
        intro _ stored _
        exact rel_bind Draft.Allocated.trans (.of_graph_eq rfl) fun _ entered _ ↦ ih entered

theorem allocated_planMemory (draft : Draft) : draft.Allocated (planMemory.run draft).2 := by
  rw [planMemory, run_bind, run_graph]
  dsimp only
  rw [run_bind, run_get]
  exact rel_bind Draft.Allocated.trans (allocated_planObjects _ draft)
    fun _ last _ ↦ .of_graph_eq rfl

theorem kept_prepareNodes (ids : List NodeId) (draft : Draft) :
    draft.Kept ((prepareNodes ids).run draft).2 := by
  induction ids generalizing draft with
  | nil => exact .refl draft
  | cons id rest ih =>
    rw [prepareNodes, run_bind, run_graph]
    dsimp only
    split
    · exact ih draft
    · apply rel_bind Draft.Kept.trans ⟨rfl, rfl⟩
      intro _ noted _
      split
      · exact .refl noted
      · exact ih noted

theorem allocated_makePlan (draft : Draft) : draft.Allocated (makePlan.run draft).2 := by
  rw [makePlan, run_bind, run_get]
  refine rel_bind Draft.Allocated.trans (.of_graph_eq (graph_assignTargets _ draft))
    fun _ assigned _ ↦ ?_
  apply rel_bind Draft.Allocated.trans (allocated_planMemory assigned)
  intro _ planned _
  exact rel_bind Draft.Allocated.trans (.of_graph_eq (kept_prepareNodes _ planned).graph_eq)
    fun _ last _ ↦ .refl last

end Verification

/-- A stage that changes no more of a graph than its objects, and those by redrafting only. -/
def Stage.Redrafts (stage : Stage) : Prop :=
  ∀ draft : Draft, draft.graph.Revised DataObject.Redrafted (stage.run.run draft).2.graph

theorem Stage.redrafts_of_mem_standard {stage : Stage} (h : stage ∈ Stage.standard) :
    stage.Redrafts := by
  intro draft
  have hsame {after : Draft} (heq : after.graph = draft.graph) :
      draft.graph.Revised DataObject.Redrafted after.graph := by
    rw [heq]
    exact .refl .refl _
  simp only [Stage.standard, List.mem_cons, List.not_mem_nil, or_false] at h
  rcases h with rfl | rfl | rfl | rfl
  · exact (Verification.redrafted_resolveVirtuals draft).graph
  · exact hsame (Verification.kept_checkParameters draft).graph_eq
  · exact hsame (Verification.graph_checkTopology draft)
  · exact (Verification.allocated_makePlan draft).mono DataObject.Allocated.redrafted

end ImageFlow
