import ImageFlow.Proofs.Session.Dependencies
import ImageFlow.Proofs.Verification.Defects

/-!
# The search for shapes gets through

Once a node has been visited, all objects that it only writes have a shape, and an object that no
node only writes never gets one. The loop ends when no node that is left is ready. If the nodes can
be put into an order, the first one of them that is left waits for what earlier nodes write, and
those have been visited; so no node is left, provided that every virtual object is a pure output of
some node. This does not depend on how many nodes write an object, which is checked later only.

An object that some node reads or updates in place, and that is no pure output of any node, is never
given a shape: the stage cannot pass.
-/

namespace ImageFlow

open Stateful Verification

namespace Graph

variable {start now : Graph} {waiting : List NodeId} {node : Node} {data : DataId}
  {draft last : Draft} {warnings : List VerifyWarning}

/-! ## What has been visited -/

/-- How far the visits of all nodes but those that wait have brought a graph. -/
structure Reached (start now : Graph) (waiting : List NodeId) : Prop where
  grown : start.Revised DataObject.Grown now
  made : ∀ node ∈ start.nodes, node.id ∉ waiting → ∀ data ∈ node.outputs,
    (now.shape? data).isSome = true
  others : ∀ data, (∀ node ∈ start.nodes, data ∉ node.outputs) →
    now.arena.byId? data = start.arena.byId? data

theorem reached_start (start : Graph) : start.Reached start start.nodeIds where
  grown := .refl .refl start
  made _ hnode hnew := absurd (List.mem_map_of_mem hnode) hnew
  others _ _ := rfl

theorem Reached.balanced (h : start.Reached now waiting) (hbalanced : start.ledger.Balanced) :
    now.ledger.Balanced :=
  ledger_eq_of_redrafted (h.grown.mono DataObject.Grown.redrafted) ▸ hbalanced

theorem keptByVisits_reached (hbalanced : start.ledger.Balanced) :
    KeptByVisits start.Reached where
  perm _ _ _ hperm h :=
    { grown := h.grown
      made := fun node hnode hnew ↦ h.made node hnode fun hmem ↦ hnew (hperm.mem_iff.1 hmem)
      others := h.others }
  visit draft mid after node waiting shapes h hnode _ hinfer hresolve := by
    have hnode' : node ∈ start.nodes := h.grown.nodes_eq ▸ hnode
    have hbalanced' := h.balanced hbalanced
    have hvisited := visited_of_run
      (Node.nodup_outputs (hbalanced'.unaliased _ (List.mem_map_of_mem hnode))) hinfer hresolve
    constructor
    · exact h.grown.trans DataObject.Grown.trans hvisited.grown
    · intro other hother hnew data hdata
      by_cases hsame : other.id = node.id
      · obtain rfl : other = node :=
          List.inj_on_of_nodup_map (nodup_nodeIds hbalanced) hother hnode' hsame
        obtain ⟨binding, hbinding, houtput, rfl⟩ := Node.mem_outputs_iff.1 hdata
        rcases known_or_lacks hbalanced' hnode hbinding houtput with hsome | ⟨object, hlacks⟩
        · exact isSome_shape?_grown hvisited.grown hsome
        · obtain ⟨descriptor, -, -, hafter⟩ := hvisited.outputs binding hbinding object hlacks
          rw [shape?, hafter]
          rfl
      · refine isSome_shape?_grown hvisited.grown (h.made other hother (fun hin ↦ ?_) data hdata)
        exact (List.mem_cons.1 hin).elim hsame hnew
    · intro data hdata
      rw [hvisited.others data (hdata node hnode')]
      exact h.others data hdata

/-- Where the loop has brought a graph when it ends without an error. -/
theorem reached_of_resolvePasses (hbalanced : draft.graph.ledger.Balanced)
    (hrun : (resolvePasses (draft.graph.nodeIds.length + 1) draft.graph.nodeIds).run
      { draft with graph := draft.graph.reset } = (.ok (), last)) :
    ∃ still, draft.graph.reset.Reached last.graph still ∧ Idle last.graph still := by
  have hbalanced' : draft.graph.reset.ledger.Balanced := draft.graph.ledger_reset ▸ hbalanced
  obtain ⟨still, -, hreached, hidle⟩ :=
    (keptByVisits_reached hbalanced').resolvePasses (reached_start draft.graph.reset) hrun
  exact ⟨still, hreached, hidle (Nat.lt_succ_self _)⟩

/-! ## No node is left -/

/-- Every virtual object that some node is bound to is a pure output of some node. -/
def VirtualsMade (graph : Graph) : Prop :=
  ∀ data, graph.BoundVirtual data → ∃ maker ∈ graph.nodes, data ∈ maker.outputs

theorem boundVirtual_reset_iff {graph : Graph} :
    graph.reset.BoundVirtual data ↔ graph.BoundVirtual data := by
  simp only [BoundVirtual, byId?_reset, Option.map_eq_some_iff]
  refine and_congr_left' ⟨?_, ?_⟩
  · rintro ⟨_, ⟨object, hobject, rfl⟩, hvirtual⟩
    exact ⟨object, hobject, (DataObject.redrafted_reset object).isVirtual_eq.symm.trans hvirtual⟩
  · rintro ⟨object, hobject, hvirtual⟩
    exact ⟨_, ⟨object, hobject, rfl⟩,
      (DataObject.redrafted_reset object).isVirtual_eq.trans hvirtual⟩

/-- The loop ends when all nodes that are ready have been visited. -/
theorem Reached.visited_of_ready (h : start.Reached now waiting) (hidle : Idle now waiting)
    (hbalanced : start.ledger.Balanced) (hnode : node ∈ start.nodes)
    (hready : isReady now node = true) : node.id ∉ waiting := by
  intro hwaits
  have hfound : now.node? node.id = some node := by
    rw [node?, h.grown.nodes_eq]
    exact (node?_eq_some_iff (nodup_nodeIds hbalanced)).2 ⟨hnode, rfl⟩
  rw [hidle node.id hwaits node hfound] at hready
  cases hready

/-- A node is ready once the nodes that it depends on have been visited. -/
theorem Reached.isReady (h : start.Reached now waiting) (hbalanced : start.ledger.Balanced)
    (hmade : start.VirtualsMade) (hnode : node ∈ start.nodes)
    (hvisited : ∀ maker : NodeId, ⟨maker, node.id⟩ ∈ start.edges → maker ∉ waiting) :
    Verification.isReady now node = true := by
  have hscope : ∀ binding ∈ node.bindings, binding.ref.graph = now.arena.graph := by
    obtain ⟨arena, harena, rfl⟩ := h.grown
    exact fun _ hbinding ↦
      (scope_of_mem_bindings hbalanced hnode hbinding).trans harena.graph_eq.symm
  refine (isReady_iff hscope).2 fun data hdata ↦ ?_
  obtain ⟨binding, hbinding, rfl⟩ := List.mem_map.1 hdata
  have hbinding := (List.mem_filter.1 hbinding).1
  obtain ⟨object, hobject⟩ := exists_byId? hbalanced hnode hbinding
  cases hvirtual : object.isVirtual with
  | false =>
    apply isSome_shape?_grown h.grown
    rw [shape?, hobject, Option.bind_some]
    exact DataObject.isSome_descriptor?_of_concrete hvirtual
  | true =>
    obtain ⟨maker, hmaker, houtput⟩ :=
      hmade _ ⟨⟨object, hobject, hvirtual⟩, node, hnode, binding, hbinding, rfl⟩
    have hne : maker.id ≠ node.id := by
      intro hsame
      obtain rfl : maker = node :=
        List.inj_on_of_nodup_map (nodup_nodeIds hbalanced) hmaker hnode hsame
      exact Node.not_mem_outputs_of_mem_reads
        (hbalanced.unaliased _ (List.mem_map_of_mem hmaker)) hdata houtput
    have hedge := mem_edges_of_writes hbalanced hmaker hnode hne
      (Node.mem_writes_of_mem_outputs houtput) hdata
    exact h.made maker hmaker (hvisited maker.id hedge) _ houtput

/-- If the nodes can be put into an order, the loop visits all of them. -/
theorem Reached.visited_of_acyclic (h : start.Reached now waiting) (hidle : Idle now waiting)
    (hbalanced : start.ledger.Balanced) (hacyclic : ¬Precedence.Cyclic start.edges)
    (hmade : start.VirtualsMade) : ∀ node ∈ start.nodes, node.id ∉ waiting := by
  obtain ⟨order, horder⟩ := Option.isSome_iff_exists.1
    ((Precedence.isSome_order?_iff (simple hbalanced)).2 hacyclic)
  obtain ⟨hperm, hrespects⟩ := order_spec horder
  intro left hleft hwaits
  -- The first node of the order that waits is ready, since all nodes before it have been visited.
  obtain ⟨id, hfirst⟩ : ∃ id, order.find? (· ∈ waiting) = some id :=
    Option.isSome_iff_exists.1 (List.find?_isSome.2
      ⟨left.id, hperm.mem_iff.2 (List.mem_map_of_mem hleft), decide_eq_true hwaits⟩)
  obtain ⟨hid, before, after, hsplit, hbefore⟩ := List.find?_eq_some_iff_append.1 hfirst
  obtain ⟨hmem, -, hearlier⟩ :=
    (hrespects.along (simple hbalanced) hperm).mem_ready (simple hbalanced) hperm hsplit
  obtain ⟨node, hnode, rfl⟩ := List.mem_map.1 hmem
  refine h.visited_of_ready hidle hbalanced hnode ?_ (of_decide_eq_true hid)
  refine h.isReady hbalanced hmade hnode fun maker hedge ↦ ?_
  simpa using hbefore maker (hearlier maker hedge)

/-! ## What the stage finds -/

theorem isSome_shape?_of_boundVirtual (hbalanced : draft.graph.ledger.Balanced)
    (hrun : resolveVirtuals.run draft = (.ok warnings, last))
    (hbound : draft.graph.BoundVirtual data) :
    (last.graph.shape? data).isSome = true := by
  obtain ⟨-, node, hnode, binding, hbinding, rfl⟩ := hbound
  exact isSome_shape?_of_resolveVirtuals hbalanced hrun hnode hbinding

/-- The stage passes only if every virtual object that some node is bound to is a pure output of
some node, since it gives a shape to no other. -/
theorem virtualsMade_of_resolveVirtuals (hbalanced : draft.graph.ledger.Balanced)
    (hrun : resolveVirtuals.run draft = (.ok warnings, last)) : draft.graph.VirtualsMade := by
  intro data hbound
  obtain ⟨still, hreached, -⟩ :=
    reached_of_resolvePasses hbalanced (resolveVirtuals_eq_ok_iff.1 hrun).1
  by_contra hnone
  have hsome := isSome_shape?_of_boundVirtual hbalanced hrun hbound
  obtain ⟨⟨object, hobject, hvirtual⟩, -⟩ := hbound
  have hlast : last.graph.arena.byId? data = some object.reset := by
    rw [hreached.others data fun node hnode houtput ↦ hnone ⟨node, hnode, houtput⟩, byId?_reset,
      hobject, Option.map_some]
  rw [shape?, hlast, DataObject.reset, if_pos hvirtual] at hsome
  cases hsome

/-- The stage gives every virtual object that some node is bound to a shape which the object takes.
-/
theorem shaped_of_resolveVirtuals (hbalanced : draft.graph.ledger.Balanced)
    (hrun : resolveVirtuals.run draft = (.ok warnings, last))
    (hbound : draft.graph.BoundVirtual data) {object : DataObject}
    (hobject : draft.graph.arena.byId? data = some object) :
    ∃ descriptor, object.Takes descriptor ∧ last.graph.arena.byId? data =
      some { object with state := .resolved descriptor, payload := none } := by
  obtain ⟨still, hreached, -⟩ :=
    reached_of_resolvePasses hbalanced (resolveVirtuals_eq_ok_iff.1 hrun).1
  have hsome := isSome_shape?_of_boundVirtual hbalanced hrun hbound
  obtain ⟨⟨found, hfound, hvirtual⟩, -⟩ := hbound
  obtain rfl : found = object := Option.some.inj (hfound.symm.trans hobject)
  have hreset : draft.graph.reset.arena.byId? data =
      some { found with state := .pending, payload := none } := by
    rw [byId?_reset, hfound, Option.map_some, DataObject.reset, if_pos hvirtual]
  obtain ⟨arena, harena, hgraph⟩ := hreached.grown
  rw [hgraph, shape?] at hsome
  rw [hgraph]
  obtain ⟨shaped, hshaped, hgrown⟩ := harena.some_of_some hreset
  rw [hshaped] at hsome ⊢
  rcases hgrown with rfl | ⟨-, descriptor, htakes, rfl⟩
  · cases hsome
  · exact ⟨descriptor, ⟨htakes.possible, htakes.agrees⟩, rfl⟩

/-- The warnings of the stage name the virtual objects that no node holds. -/
theorem warnings_of_resolveVirtuals (hbalanced : draft.graph.ledger.Balanced)
    (hrun : resolveVirtuals.run draft = (.ok warnings, last)) :
    warnings = (draft.graph.arena.objects.filter fun object ↦
      object.isVirtual && !draft.graph.holds object.id).map unboundWarning := by
  obtain ⟨hpasses, -, rfl⟩ := resolveVirtuals_eq_ok_iff.1 hrun
  obtain ⟨still, hreached, -⟩ := reached_of_resolvePasses hbalanced hpasses
  have hredrafted := (redrafted_resolveVirtuals draft).graph
  rw [hrun] at hredrafted
  have harena : draft.graph.arena.Revised DataObject.Redrafted last.graph.arena := by
    obtain ⟨arena, harena, hgraph⟩ := hredrafted
    rwa [show last.graph = _ from hgraph]
  refine harena.map_filter_objects fun data origin object horigin hobject hrel ↦
    ⟨?_, by rw [unboundWarning, hrel.id_eq, unboundWarning]⟩
  obtain rfl : origin.id = data := hbalanced.placed _ _ (account_of_byId? horigin)
  rw [hrel.isVirtual_eq]
  cases hvirtual : origin.isVirtual with
  | false => rfl
  | true =>
    rw [Bool.true_and, Bool.true_and]
    cases hholds : draft.graph.holds origin.id with
    | true =>
      have hsome := isSome_shape?_of_boundVirtual hbalanced hrun
        ⟨⟨origin, horigin, hvirtual⟩, (holds_iff hbalanced).1 hholds⟩
      rw [shape?, hobject, Option.bind_some] at hsome
      rw [← Option.not_isSome, hsome]
    | false =>
      -- What no node is bound to is as the reset has left it.
      have hsame := hreached.others origin.id fun node hnode houtput ↦ by
        obtain ⟨binding, hbinding, -, hid⟩ := Node.mem_outputs_iff.1 houtput
        rw [(holds_iff hbalanced).2 ⟨node, hnode, binding, hbinding, hid⟩] at hholds
        cases hholds
      rw [hobject, byId?_reset, horigin, Option.map_some] at hsame
      rw [Option.some.inj hsame, DataObject.reset, if_pos hvirtual]
      rfl

/-! ## What the stage ends with -/

/-- An error of the visit of some node that was ready, on the way to the shapes. -/
def VisitFault (graph : Graph) (e : VerifyError) : Prop :=
  ∃ now, graph.reset.Revised DataObject.Grown now ∧
    ∃ node ∈ graph.nodes, isReady now node = true ∧ node.Faults now e

/-- If the nodes can be put into an order and every virtual object has a node that makes it, only
the visit of a node can go wrong. -/
theorem visitFault_of_resolveVirtuals (hbalanced : draft.graph.ledger.Balanced)
    (hacyclic : ¬Precedence.Cyclic draft.graph.edges) (hmade : draft.graph.VirtualsMade)
    {stop : Stop VerifyError} (hrun : resolveVirtuals.run draft = (.error stop, last)) :
    ∃ e, stop = .failed e ∧ draft.graph.VisitFault e := by
  have hbalanced' : draft.graph.reset.ledger.Balanced := draft.graph.ledger_reset ▸ hbalanced
  have hblames : Blames draft.graph.VisitFault resolveVirtuals draft := by
    refine blames_resolveVirtuals (keptByVisits_reached hbalanced') ?_ (reached_start _) ?_
    · intro now node waiting hreached hnode hready
      exact ⟨hreached.balanced hbalanced', fun e hfaults ↦
        ⟨now, hreached.grown, node, hreached.grown.nodes_eq ▸ hnode, hready, hfaults⟩⟩
    · -- The loop has visited all nodes, so no object is left that a node is bound to.
      intro mid hpasses object hobject hbound
      obtain ⟨still, hreached, hidle⟩ := reached_of_resolvePasses hbalanced hpasses
      have hvisited := hreached.visited_of_acyclic hidle hbalanced' hacyclic
        fun data hdata ↦ hmade data (boundVirtual_reset_iff.1 hdata)
      have hbalanced'' := hreached.balanced hbalanced'
      obtain ⟨hlive, hvirtual, hnone⟩ := of_mem_unresolved hbalanced'' hobject
      obtain ⟨node, hnode, binding, hbinding, hid⟩ :=
        (constraints_ne_nil_iff hbalanced'' hlive hvirtual).1 hbound
      rw [← hid] at hlive hnone
      obtain ⟨maker, hmaker, houtput⟩ := hmade _ (boundVirtual_reset_iff.1
        (boundVirtual_of_redrafted (hreached.grown.mono DataObject.Grown.redrafted)
          (hreached.grown.nodes_eq ▸ hnode) hbinding hlive hvirtual))
      have hsome := hreached.made maker hmaker (hvisited maker hmaker) _ houtput
      rw [hnone] at hsome
      cases hsome
  cases stop with
  | failed e => exact ⟨e, rfl, hblames e last hrun⟩
  | crash => exact absurd (congrArg Prod.fst hrun) (calm_resolveVirtuals draft)

end Graph

/-! ## Every graph -/

/-- The errors which say that the search has ended before it has reached an object. -/
def VerifyError.Stuck : VerifyError → Prop
  | unresolvableVirtual _ reason =>
    reason = "no node produces it" ∨ reason = "its producer never receives all inputs"
  | cyclicGraph _ => True
  | _ => False

theorem Node.Faults.not_stuck {node : Node} {now : Graph} {e : VerifyError}
    (h : node.Faults now e) : ¬e.Stuck := by
  intro hstuck
  cases h with
  | @unknown binding =>
    have hletter := Graph.mem_toList_of_cannotInfer node binding rfl
    rcases hstuck with hreason | hreason
    · rw [hreason] at hletter
      exact absurd hletter (by decide)
    · rw [hreason] at hletter
      exact absurd hletter (by decide)
  | refused _ hlacks _ hrefused =>
    rcases DataObject.resolve_eq_error hlacks.pending hrefused with
      ⟨_, -, rfl⟩ | ⟨_, -, -, rfl⟩ <;> exact hstuck

/-- What the first stage makes of a draft. -/
structure Draft.Searched (draft : Draft) : Prop where
  /-- The loop ends by itself, within the bound that it is given. -/
  ends : ∃ passes ≤ draft.graph.nodes.length + 1,
    Settles passes draft.graph.nodeIds { draft with graph := draft.graph.reset }
      ((resolvePasses (draft.graph.nodeIds.length + 1) draft.graph.nodeIds).run
        { draft with graph := draft.graph.reset })
  unstuck : ¬Precedence.Cyclic draft.graph.edges → draft.graph.VirtualsMade →
    (∃ warnings last, resolveVirtuals.run draft = (.ok warnings, last)) ∨
      ∃ e last, resolveVirtuals.run draft = (.error (.failed e), last) ∧
        draft.graph.VisitFault e ∧ ¬e.Stuck
  shaped : ∀ warnings last, resolveVirtuals.run draft = (.ok warnings, last) →
    ∀ data object, draft.graph.BoundVirtual data → draft.graph.arena.byId? data = some object →
      ∃ descriptor, object.Takes descriptor ∧ last.graph.arena.byId? data =
        some { object with state := .resolved descriptor, payload := none }
  warned : ∀ warnings last, resolveVirtuals.run draft = (.ok warnings, last) →
    warnings = (draft.graph.arena.objects.filter fun object ↦
      object.isVirtual && !draft.graph.holds object.id).map unboundWarning
  unproduced : ∀ data, draft.graph.BoundVirtual data → draft.graph.writingNodes data = [] →
    (resolveVirtuals.run draft).1.isOk = false

theorem Draft.searched {draft : Draft} (hbalanced : draft.graph.ledger.Balanced) :
    draft.Searched where
  ends := by
    have hlength : draft.graph.nodeIds.length = draft.graph.nodes.length := List.length_map _
    rw [← hlength]
    exact settles_resolvePasses _ (Nat.lt_succ_self _)
  unstuck hacyclic hmade := by
    cases hrun : resolveVirtuals.run draft with
    | mk result last =>
      cases result with
      | ok warnings => exact .inl ⟨warnings, last, rfl⟩
      | error stop =>
        obtain ⟨e, rfl, hfault⟩ :=
          Graph.visitFault_of_resolveVirtuals hbalanced hacyclic hmade hrun
        obtain ⟨_, _, _, _, _, hfaults⟩ := id hfault
        exact .inr ⟨e, last, rfl, hfault, hfaults.not_stuck⟩
  shaped _ _ hrun _ _ hbound := Graph.shaped_of_resolveVirtuals hbalanced hrun hbound
  warned _ _ := Graph.warnings_of_resolveVirtuals hbalanced
  unproduced data hbound hnone := by
    refine Bool.eq_false_iff.2 fun hok ↦ ?_
    obtain ⟨warnings, last, hrun⟩ := isOk_iff.1 hok
    obtain ⟨maker, hmaker, houtput⟩ :=
      Graph.virtualsMade_of_resolveVirtuals hbalanced hrun data hbound
    have hwriter : maker.id ∈ draft.graph.writingNodes data :=
      List.mem_map_of_mem (List.mem_filter.2
        ⟨hmaker, List.contains_iff_mem.2 (Node.mem_writes_of_mem_outputs houtput)⟩)
    rw [hnone] at hwriter
    cases hwriter

namespace Call

/-- Whatever has happened to a graph before and whatever its kernels answer, the search for shapes
ends, and gets through if the nodes can be put into an order and every virtual object has a node
that makes it. -/
theorem searched_applyAll (id : GraphId) (context : Context) (calls : List Call) (plan : Plan)
    (events : List Event) :
    let graph := applyAll (.empty id context) calls
    Draft.Searched { graph, plan, events } ∧
      Draft.Searched { graph := graph.invalidate, plan, events } := by
  have hbalanced := balanced_applyAll id context calls
  exact ⟨Draft.searched hbalanced, Draft.searched hbalanced⟩

end Call

end ImageFlow
