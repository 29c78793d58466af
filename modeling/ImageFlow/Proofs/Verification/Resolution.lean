import ImageFlow.Proofs.Verification.Passes
import ImageFlow.Proofs.Verification.Shapes

/-!
# Passes find the solution

After any number of visits, the nodes that have been visited are shaped, what the others write is as
it was, and every shape that is known can be derived from visited nodes. So no visit can fail if
there is a solution: the shapes that are known agree with it. As long as some node waits, one of the
waiting nodes is ready, so no pass is in vain, and one pass more than there are nodes is enough.
-/

namespace ImageFlow

open Stateful Verification

namespace Graph

variable {start now after : Graph} {node : Node} {data : DataId} {waiting waiting' : List NodeId}
  {shapes : DataId → Option Descriptor} {draft last : Draft} {ids skipped still : List NodeId}

/-- Where a graph stands when some nodes wait and the others have been visited. -/
structure Shaping (start now : Graph) (waiting : List NodeId) : Prop where
  grown : start.Revised DataObject.Grown now
  untouched : ∀ node ∈ start.nodes, node.id ∈ waiting → ∀ data ∈ node.outputs,
    now.arena.byId? data = start.arena.byId? data
  shaped : ∀ node ∈ start.nodes, node.id ∉ waiting → node.Shaped start now.shape?
  derived : ∀ data, (now.shape? data).isSome = true → start.Derivable (· ∉ waiting) data

theorem shaping_start (start : Graph) : start.Shaping start start.nodeIds where
  grown := .refl .refl start
  untouched _ _ _ _ _ := rfl
  shaped _ hnode hnew := absurd (List.mem_map_of_mem hnode) hnew
  derived _ h := .known h

namespace Shaping

theorem congr (h : start.Shaping now waiting) (hwaiting : ∀ id, id ∈ waiting ↔ id ∈ waiting') :
    start.Shaping now waiting' where
  grown := h.grown
  untouched node hnode hmem := h.untouched node hnode ((hwaiting _).2 hmem)
  shaped node hnode hnew := h.shaped node hnode fun hmem ↦ hnew ((hwaiting _).1 hmem)
  derived data hdata :=
    (h.derived data hdata).mono fun id hnew hmem ↦ hnew ((hwaiting id).2 hmem)

theorem redrafted (h : start.Shaping now waiting) : start.Revised DataObject.Redrafted now :=
  h.grown.mono DataObject.Grown.redrafted

theorem nodes_eq (h : start.Shaping now waiting) : now.nodes = start.nodes := h.grown.nodes_eq

theorem scope_eq (h : start.Shaping now waiting) : now.arena.graph = start.arena.graph := by
  obtain ⟨arena, harena, rfl⟩ := h.grown
  exact harena.graph_eq

/-- A node that waits lacks the same shapes as at the start. -/
theorem lacks_iff (h : start.Shaping now waiting) (hnode : node ∈ start.nodes)
    (hwaits : node.id ∈ waiting) {binding : Binding} (hbinding : binding ∈ node.bindings)
    {object : DataObject} : now.Lacks binding object ↔ start.Lacks binding object := by
  have hsame (houtput : binding.direction = .output) :=
    h.untouched node hnode hwaits _ (Node.mem_outputs_iff.2 ⟨binding, hbinding, houtput, rfl⟩)
  constructor
  · intro hlacks
    exact ⟨hlacks.output, (hsame hlacks.output).symm.trans hlacks.live, hlacks.pending⟩
  · intro hlacks
    exact ⟨hlacks.output, (hsame hlacks.output).trans hlacks.live, hlacks.pending⟩

/-- A node that a pass skips waits along with those that it skipped before. -/
theorem skip_iff {id : NodeId} : start.Shaping now (id :: ids ++ skipped) ↔
    start.Shaping now (ids ++ id :: skipped) :=
  ⟨fun h ↦ h.congr fun _ ↦ List.perm_middle.symm.mem_iff,
    fun h ↦ h.congr fun _ ↦ List.perm_middle.mem_iff⟩

section Steps

variable (hbalanced : start.ledger.Balanced)
include hbalanced

theorem isReady_iff (h : start.Shaping now waiting) (hnode : node ∈ start.nodes) :
    isReady now node = true ↔ ∀ data ∈ node.reads, (now.shape? data).isSome = true := by
  apply Graph.isReady_iff
  intro binding hbinding
  rw [h.scope_eq]
  exact scope_of_mem_bindings hbalanced hnode hbinding

theorem isReady_grown {next : Graph} (h : start.Shaping now waiting)
    (hnext : start.Shaping next waiting') (hgrown : now.Revised DataObject.Grown next)
    (hnode : node ∈ start.nodes) (hready : isReady now node = true) : isReady next node = true :=
  (hnext.isReady_iff hbalanced hnode).2 fun data hdata ↦
    isSome_shape?_grown hgrown ((h.isReady_iff hbalanced hnode).1 hready data hdata)

/-- What a kernel sees when its node is visited. -/
theorem inspect_eq (h : start.Shaping now waiting) (hsound : start.SoundObjects)
    (hnode : node ∈ start.nodes) (hwaits : node.id ∈ waiting) :
    inspect now node = node.viewed start (start.seen now.shape?) := by
  rw [inspect_redrafted hsound h.redrafted fun binding hbinding ↦
    scope_of_mem_bindings hbalanced hnode hbinding]
  have hdescriptors : (node.bindings.map fun binding ↦ now.shape? binding.ref.id) =
      node.bindings.map (start.seen now.shape?) := by
    apply List.map_congr_left
    intro binding hbinding
    rw [seen]
    split
    · rfl
    · next hreads =>
      have houtput := Direction.eq_output_of_not_reads hreads
      rw [shape?, shape?, h.untouched node hnode hwaits _
        (Node.mem_outputs_iff.2 ⟨binding, hbinding, houtput, rfl⟩)]
  rw [Node.viewed, hdescriptors, Node.viewed]

/-- A visit of a ready node. -/
theorem visit (h : start.Shaping now waiting) (hsound : start.SoundObjects)
    (hsingle : start.SingleWriter) (hnode : node ∈ start.nodes)
    (hwaiting : ∀ id, id ∈ waiting ↔ id = node.id ∨ id ∈ waiting') (hnew : node.id ∉ waiting')
    (hready : isReady now node = true) (hvisited : node.Visited now after) :
    start.Shaping after waiting' := by
  have hwaits : node.id ∈ waiting := (hwaiting _).2 (.inl rfl)
  have hfewer (id : NodeId) (hout : id ∉ waiting) : id ∉ waiting' := fun hin ↦
    hout ((hwaiting id).2 (.inr hin))
  have hreads := (h.isReady_iff hbalanced hnode).1 hready
  constructor
  · exact h.grown.trans DataObject.Grown.trans hvisited.grown
  · intro other hother hmem data hdata
    have hout : data ∉ node.outputs := by
      intro hdata'
      have hsame := hsingle.id_eq hother hnode (Node.mem_writes_of_mem_outputs hdata)
        (Node.mem_writes_of_mem_outputs hdata')
      exact hnew (hsame ▸ hmem)
    rw [hvisited.others data hout]
    exact h.untouched other hother ((hwaiting _).2 (.inr hmem)) data hdata
  · intro other hother hout
    by_cases hsame : other.id = node.id
    · obtain rfl : other = node :=
        List.inj_on_of_nodup_map (nodup_nodeIds hbalanced) hother hnode hsame
      constructor
      · exact fun data hdata ↦ isSome_shape?_grown hvisited.grown (hreads data hdata)
      · intro binding hbinding object hlacks
        obtain ⟨descriptor, hinfers, htakes, hafter⟩ := hvisited.outputs binding hbinding object
          ((h.lacks_iff hnode hwaits hbinding).2 hlacks)
        rw [h.inspect_eq hbalanced hsound hnode hwaits, viewed_seen_congr fun data hdata ↦
          shape?_eq_of_grown hvisited.grown (hreads data hdata)] at hinfers
        refine ⟨descriptor, ?_, hinfers, htakes⟩
        rw [shape?, hafter]
        rfl
    · apply (h.shaped other hother ?_).grown hvisited.grown
      rw [hwaiting]
      exact fun hin ↦ hin.elim hsame hout
  · intro data hdata
    by_cases hout : data ∈ node.outputs
    · exact .made hnode hnew hout fun read hread ↦ (h.derived read (hreads read hread)).mono hfewer
    · rw [shape?, hvisited.others data hout] at hdata
      exact (h.derived data hdata).mono hfewer

/-- The visit of the first of the nodes that wait, as a pass makes it. -/
theorem visit_of_run {found : List (DataRef × Descriptor)} {mid visited : Draft}
    (h : start.Shaping draft.graph (node.id :: waiting)) (hsound : start.SoundObjects)
    (hsingle : start.SingleWriter) (hnode : node ∈ start.nodes)
    (hnodup : (node.id :: waiting).Nodup) (hready : isReady draft.graph node = true)
    (hinfer : (inferSlots node (inspect draft.graph node) node.bindings).run draft =
      (.ok found, mid))
    (hresolve : (resolveAll found).run mid = (.ok (), visited)) :
    start.Shaping visited.graph waiting ∧ node.Visited draft.graph visited.graph := by
  have houtputs := Node.nodup_outputs (hbalanced.unaliased _ (List.mem_map_of_mem hnode))
  have hvisited := visited_of_run houtputs hinfer hresolve
  exact ⟨h.visit hbalanced hsound hsingle hnode (fun _ ↦ List.mem_cons)
    (List.nodup_cons.1 hnodup).1 hready hvisited, hvisited⟩

/-- No visit fails if there is a solution. -/
theorem exists_visit (h : start.Shaping draft.graph waiting) (hsound : start.SoundObjects)
    (hsolved : start.Solved shapes) (hnode : node ∈ start.nodes) (hwaits : node.id ∈ waiting)
    (hready : isReady draft.graph node = true) :
    ∃ found mid after, (inferSlots node (inspect draft.graph node) node.bindings).run draft =
        (.ok found, mid) ∧ (resolveAll found).run mid = (.ok (), after) := by
  have hreads := (h.isReady_iff hbalanced hnode).1 hready
  have hagree {data : DataId} (hknown : (draft.graph.shape? data).isSome = true) :
      draft.graph.shape? data = shapes data :=
    (h.derived data hknown).unique hbalanced (fun _ _ ↦ shape?_grown h.grown) hsolved.known
      fun other hother hnew ↦ ⟨h.shaped other hother hnew, hsolved.shaped other hother⟩
  apply Verification.exists_visit
  · exact Node.nodup_outputs (hbalanced.unaliased _ (List.mem_map_of_mem hnode))
  · intro binding hbinding
    obtain ⟨object, hobject⟩ := exists_byId? hbalanced hnode hbinding
    obtain ⟨arena, harena, hgraph⟩ := h.grown
    obtain ⟨grown, hgrown, -⟩ := harena.some_of_some hobject
    rw [hgraph]
    refine ⟨grown, Arena.get_eq_ok_iff.2 ⟨?_, hgrown⟩⟩
    rw [scope_of_mem_bindings hbalanced hnode hbinding]
    exact harena.graph_eq.symm
  · intro binding hbinding object hlacks
    obtain ⟨descriptor, -, hinfers, htakes⟩ := (hsolved.shaped node hnode).outputs binding hbinding
      object ((h.lacks_iff hnode hwaits hbinding).1 hlacks)
    rw [h.inspect_eq hbalanced hsound hnode hwaits,
      viewed_seen_congr fun data hdata ↦ hagree (hreads data hdata)]
    exact ⟨descriptor, hinfers, htakes⟩

/-- As long as a node waits, some waiting node is ready. -/
theorem exists_ready (h : start.Shaping now waiting) (hsolved : start.Solved shapes)
    (hids : waiting ⊆ start.nodeIds) (hne : waiting ≠ []) :
    ∃ node ∈ start.nodes, node.id ∈ waiting ∧ isReady now node = true := by
  by_contra hnone
  -- Otherwise all shapes of the solution are known already, by induction on how they are derived.
  have hknown {data : DataId} (hderivable : start.Derivable (fun _ ↦ True) data) :
      (now.shape? data).isSome = true := by
    induction hderivable with
    | known hstart => exact isSome_shape?_grown h.grown hstart
    | @made node data hnode _ hdata _ ih =>
      have hready := (h.isReady_iff hbalanced hnode).2 ih
      have hshaped := h.shaped node hnode fun hwaits ↦ hnone ⟨node, hnode, hwaits, hready⟩
      obtain ⟨binding, hbinding, houtput, rfl⟩ := Node.mem_outputs_iff.1 hdata
      rcases known_or_lacks hbalanced hnode hbinding houtput with hsome | ⟨object, hlacks⟩
      · exact isSome_shape?_grown h.grown hsome
      · obtain ⟨descriptor, hdescriptor, -⟩ := hshaped.outputs binding hbinding object hlacks
        rw [hdescriptor]
        rfl
  obtain ⟨id, hid⟩ := List.exists_mem_of_ne_nil waiting hne
  obtain ⟨node, hnode, rfl⟩ := List.mem_map.1 (hids hid)
  refine hnone ⟨node, hnode, hid, (h.isReady_iff hbalanced hnode).2 fun data hdata ↦ ?_⟩
  exact hknown (hsolved.derived data ((hsolved.shaped node hnode).reads data hdata))

/-! ## Passes -/

theorem keptByVisits (hsound : start.SoundObjects) (hsingle : start.SingleWriter) :
    KeptByVisits fun now waiting ↦ waiting.Nodup ∧ start.Shaping now waiting where
  perm _ _ _ hperm h := ⟨hperm.nodup_iff.1 h.1, h.2.congr fun _ ↦ hperm.mem_iff⟩
  visit draft mid after node waiting shapes h hnode hready hinfer hresolve := by
    obtain ⟨hnodup, h⟩ := h
    rw [h.nodes_eq] at hnode
    exact ⟨hnodup.of_cons,
      (h.visit_of_run hbalanced hsound hsingle hnode hnodup hready hinfer hresolve).1⟩

theorem resolvePass (h : start.Shaping draft.graph (ids ++ skipped)) (hsound : start.SoundObjects)
    (hsingle : start.SingleWriter) (hnodup : (ids ++ skipped).Nodup)
    (hrun : (Verification.resolvePass ids).run draft = (.ok still, last)) :
    start.Shaping last.graph (still ++ skipped) ∧ still.Sublist ids := by
  obtain ⟨⟨-, hlast⟩, hsublist⟩ :=
    (keptByVisits hbalanced hsound hsingle).resolvePass ⟨hnodup, h⟩ hrun
  exact ⟨hlast, hsublist⟩

/-- If there is a solution, a pass goes through and leaves no node behind that was ready before it.
-/
theorem exists_resolvePass (h : start.Shaping draft.graph (ids ++ skipped))
    (hsound : start.SoundObjects) (hsingle : start.SingleWriter) (hsolved : start.Solved shapes)
    (hnodup : (ids ++ skipped).Nodup) :
    ∃ still last, (Verification.resolvePass ids).run draft = (.ok still, last) ∧
      ∀ node ∈ start.nodes, node.id ∈ still → isReady draft.graph node = false := by
  induction ids generalizing draft skipped with
  | nil => exact ⟨[], draft, rfl, fun _ _ hin ↦ nomatch hin⟩
  | cons id rest ih =>
    have hskip (hid : ∀ node ∈ start.nodes, node.id = id → isReady draft.graph node = false) :
        ∃ others last, (Verification.resolvePass rest).run draft = (.ok others, last) ∧
          ∀ node ∈ start.nodes, node.id ∈ id :: others → isReady draft.graph node = false := by
      obtain ⟨others, last, hothers, hstuck⟩ :=
        ih (skip_iff.1 h) (List.perm_middle.nodup_iff.2 hnodup)
      refine ⟨others, last, hothers, fun node hnode hin ↦ ?_⟩
      exact (List.mem_cons.1 hin).elim (hid node hnode) (hstuck node hnode)
    have hnode?_iff (node : Node) : draft.graph.node? id = some node ↔
        node ∈ start.nodes ∧ node.id = id := by
      rw [node?, h.nodes_eq]
      exact node?_eq_some_iff (nodup_nodeIds hbalanced)
    rw [Verification.resolvePass, run_bind, run_graph]
    dsimp only
    cases hfound : draft.graph.node? id with
    | none =>
      obtain ⟨others, last, hothers, hstuck⟩ := hskip fun node hnode hid ↦ by
        cases hfound.symm.trans ((hnode?_iff node).2 ⟨hnode, hid⟩)
      exact ⟨id :: others, last, bind_ok_iff.2 ⟨others, last, hothers, rfl⟩, hstuck⟩
    | some node =>
      obtain ⟨hnode, rfl⟩ := (hnode?_iff node).1 hfound
      dsimp only
      split
      · next hready =>
        obtain ⟨found, mid, visited, hinfer, hresolve⟩ :=
          h.exists_visit hbalanced hsound hsolved hnode List.mem_cons_self hready
        obtain ⟨hnext, hvisited⟩ :=
          h.visit_of_run hbalanced hsound hsingle hnode hnodup hready hinfer hresolve
        obtain ⟨still, last, hstill, hstuck⟩ := ih hnext hnodup.of_cons
        refine ⟨still, last, bind_ok_iff.2 ⟨found, mid, hinfer,
          bind_ok_iff.2 ⟨(), visited, hresolve, hstill⟩⟩, fun other hother hin ↦ ?_⟩
        -- What is ready stays ready, so what is not ready later was not ready before.
        refine Bool.eq_false_iff.2 fun hbefore ↦ ?_
        have hafter := h.isReady_grown hbalanced hnext hvisited.grown hother hbefore
        rw [hstuck other hother hin] at hafter
        cases hafter
      · next hunready =>
        obtain ⟨others, last, hothers, hstuck⟩ := hskip fun other hother hid ↦ by
          obtain rfl : other = node :=
            List.inj_on_of_nodup_map (nodup_nodeIds hbalanced) hother hnode hid
          exact Bool.eq_false_iff.2 hunready
        exact ⟨_, last, bind_ok_iff.2 ⟨others, last, hothers, rfl⟩, hstuck⟩

theorem resolvePasses {passes : Nat} {left : List NodeId} (h : start.Shaping draft.graph left)
    (hsound : start.SoundObjects) (hsingle : start.SingleWriter) (hnodup : left.Nodup)
    (hrun : (Verification.resolvePasses passes left).run draft = (.ok (), last)) :
    ∃ still, start.Shaping last.graph still := by
  obtain ⟨still, -, ⟨-, hlast⟩, -⟩ :=
    (keptByVisits hbalanced hsound hsingle).resolvePasses ⟨hnodup, h⟩ hrun
  exact ⟨still, hlast⟩

/-- If there is a solution, one pass more than there are nodes is enough to visit all of them. -/
theorem exists_resolvePasses {passes : Nat} {left : List NodeId}
    (h : start.Shaping draft.graph left) (hsound : start.SoundObjects)
    (hsingle : start.SingleWriter) (hsolved : start.Solved shapes) (hnodup : left.Nodup)
    (hids : left ⊆ start.nodeIds) (hpasses : left.length < passes) :
    ∃ last, (Verification.resolvePasses passes left).run draft = (.ok (), last) ∧
      start.Shaping last.graph [] := by
  induction passes generalizing draft left with
  | zero => exact absurd hpasses (Nat.not_lt_zero _)
  | succ passes ih =>
    rw [← List.append_nil left] at h hnodup
    obtain ⟨still, mid, hpass, hstuck⟩ :=
      h.exists_resolvePass hbalanced hsound hsingle hsolved hnodup
    obtain ⟨hmid, hsublist⟩ := h.resolvePass hbalanced hsound hsingle hnodup hpass
    rw [List.append_nil] at h hmid hnodup
    rw [Verification.resolvePasses]
    by_cases hshorter : still.length < left.length
    · obtain ⟨last, hlast, hdone⟩ := ih hmid (hnodup.sublist hsublist)
        (List.Subset.trans hsublist.subset hids) (by omega)
      refine ⟨last, bind_ok_iff.2 ⟨still, mid, hpass, ?_⟩, hdone⟩
      rw [if_pos hshorter]
      exact hlast
    · have hsame : still = left := hsublist.eq_of_length_le (Nat.le_of_not_lt hshorter)
      refine ⟨mid, bind_ok_iff.2 ⟨still, mid, hpass, ?_⟩, ?_⟩
      · rw [if_neg hshorter]
        rfl
      · -- A pass in vain leaves no ready node behind, so there was none to visit.
        have hnone : left = [] := by
          by_contra hne
          obtain ⟨node, hnode, hin, hready⟩ := h.exists_ready hbalanced hsolved hids hne
          rw [hstuck node hnode (hsame ▸ hin)] at hready
          cases hready
        rw [hsame, hnone] at hmid
        exact hmid

end Steps

/-- Once all nodes have been visited, the shapes that are known are a solution. -/
theorem solved (h : start.Shaping now []) : start.Solved now.shape? where
  known _ _ := shape?_grown h.grown
  shaped node hnode := h.shaped node hnode List.not_mem_nil
  derived data hdata := (h.derived data hdata).mono fun _ _ ↦ trivial

end Shaping

/-! ## The stage -/

/-- A graph whose virtual objects have neither shape nor memory. -/
def reset (graph : Graph) : Graph := { graph with arena := graph.arena.resetVirtuals }

theorem redrafted_reset (graph : Graph) : graph.Revised DataObject.Redrafted graph.reset :=
  ⟨_, Arena.revised_map _ DataObject.redrafted_reset, rfl⟩

theorem byId?_reset (graph : Graph) (data : DataId) :
    graph.reset.arena.byId? data = (graph.arena.byId? data).map DataObject.reset := by
  rw [reset, Arena.resetVirtuals, Arena.byId?_map]

theorem ledger_reset (graph : Graph) : graph.reset.ledger = graph.ledger :=
  ledger_eq_of_redrafted graph.redrafted_reset

/-- The virtual objects that some node is bound to all have a shape, as far as the search for one
that has none goes. -/
theorem isSome_of_find? (hbalanced : now.ledger.Balanced)
    (hfind : (unresolved now).find? (fun object ↦ !object.constraints.isEmpty) = none)
    (hnode : node ∈ now.nodes) {binding : Binding} (hbinding : binding ∈ node.bindings) :
    (now.shape? binding.ref.id).isSome = true := by
  obtain ⟨object, hobject⟩ := exists_byId? hbalanced hnode hbinding
  rw [shape?, hobject, Option.bind_some]
  by_contra hshapeless
  have hpending : object.state = .pending := by
    unfold DataObject.descriptor? at hshapeless
    split at hshapeless <;> simp_all
  have hvirtual : object.isVirtual = true := by rw [DataObject.isVirtual, hpending]
  have hmem : object ∈ unresolved now := by
    refine List.mem_filter.2 ⟨Arena.mem_objects_iff.2 ⟨_, hobject⟩, ?_⟩
    simpa [hvirtual] using hshapeless
  have hbound := (constraints_ne_nil_iff hbalanced hobject hvirtual).2
    ⟨node, hnode, binding, hbinding, rfl⟩
  have hnone := List.find?_eq_none.1 hfind object hmem
  simp [hbound] at hnone

theorem of_mem_unresolved (hbalanced : now.ledger.Balanced) {object : DataObject}
    (hmem : object ∈ unresolved now) : now.arena.byId? object.id = some object ∧
      object.isVirtual = true ∧ now.shape? object.id = none := by
  obtain ⟨hobjects, hshapeless⟩ := List.mem_filter.1 hmem
  obtain ⟨hvirtual, hnone⟩ := Bool.and_eq_true_iff.1 hshapeless
  obtain ⟨data, hobject⟩ := Arena.mem_objects_iff.1 hobjects
  obtain rfl : object.id = data := hbalanced.placed _ _ (account_of_byId? hobject)
  refine ⟨hobject, hvirtual, ?_⟩
  rw [shape?, hobject, Option.bind_some, Option.isNone_iff_eq_none.1 hnone]

theorem find?_of_isSome (hbalanced : now.ledger.Balanced)
    (hknown : ∀ node ∈ now.nodes, ∀ binding ∈ node.bindings,
      (now.shape? binding.ref.id).isSome = true) :
    (unresolved now).find? (fun object ↦ !object.constraints.isEmpty) = none := by
  refine List.find?_eq_none.2 fun object hmem hbound ↦ ?_
  obtain ⟨hobject, hvirtual, hnone⟩ := of_mem_unresolved hbalanced hmem
  obtain ⟨node, hnode, binding, hbinding, hid⟩ :=
    (constraints_ne_nil_iff hbalanced hobject hvirtual).1 (by simpa using hbound)
  have hsome := hknown node hnode binding hbinding
  rw [hid, hnone] at hsome
  cases hsome

/-- The stage passes if the passes do and leave no virtual object without a shape that some node is
bound to. -/
theorem resolveVirtuals_eq_ok_iff {warnings : List VerifyWarning} :
    resolveVirtuals.run draft = (.ok warnings, last) ↔
      (resolvePasses (draft.graph.nodeIds.length + 1) draft.graph.nodeIds).run
          { draft with graph := draft.graph.reset } = (.ok (), last) ∧
        (unresolved last.graph).find? (fun object ↦ !object.constraints.isEmpty) = none ∧
        warnings = (unresolved last.graph).map unboundWarning := by
  rw [resolveVirtuals, run_bind, run_graph]
  dsimp only
  rw [run_bind, run_setArena]
  dsimp only
  rw [run_bind, run_graph]
  dsimp only
  rw [bind_ok_iff]
  constructor
  · rintro ⟨⟨⟩, mid, hpasses, hrest⟩
    rw [run_bind, run_graph] at hrest
    dsimp only at hrest
    split at hrest
    · cases hrest
    · next hfind =>
      cases hrest
      exact ⟨hpasses, hfind, rfl⟩
  · rintro ⟨hpasses, hfind, rfl⟩
    refine ⟨(), last, hpasses, ?_⟩
    rw [run_bind, run_graph]
    dsimp only
    rw [hfind]
    rfl

/-- Once the stage has passed, every object that a node is bound to has a shape. -/
theorem isSome_shape?_of_resolveVirtuals {warnings : List VerifyWarning}
    (hbalanced : draft.graph.ledger.Balanced)
    (hrun : resolveVirtuals.run draft = (.ok warnings, last)) (hnode : node ∈ draft.graph.nodes)
    {binding : Binding} (hbinding : binding ∈ node.bindings) :
    (last.graph.shape? binding.ref.id).isSome = true := by
  have hredrafted := (redrafted_resolveVirtuals draft).graph
  rw [hrun] at hredrafted
  have hledger := ledger_eq_of_redrafted hredrafted
  obtain ⟨-, hfind, -⟩ := resolveVirtuals_eq_ok_iff.1 hrun
  exact isSome_of_find? (hledger ▸ hbalanced) hfind (hredrafted.nodes_eq.symm ▸ hnode) hbinding

section Stage

variable (hbalanced : draft.graph.ledger.Balanced) (hsound : draft.graph.SoundObjects)
  (hsingle : draft.graph.SingleWriter)
include hbalanced hsound hsingle

/-- What the stage finds is a solution. -/
theorem solved_of_resolveVirtuals {warnings : List VerifyWarning}
    (hrun : resolveVirtuals.run draft = (.ok warnings, last)) :
    draft.graph.reset.Solved last.graph.shape? ∧
      draft.graph.reset.Revised DataObject.Grown last.graph := by
  have hbalanced' : draft.graph.reset.ledger.Balanced := draft.graph.ledger_reset ▸ hbalanced
  have hsound' := hsound.of_redrafted draft.graph.redrafted_reset
  obtain ⟨hpasses, -, -⟩ := resolveVirtuals_eq_ok_iff.1 hrun
  obtain ⟨still, hshaping⟩ :=
    @Shaping.resolvePasses draft.graph.reset _ last hbalanced' _ _ (shaping_start _) hsound' hsingle
      (nodup_nodeIds hbalanced') hpasses
  refine ⟨⟨fun _ _ ↦ shape?_grown hshaping.grown, fun node hnode ↦ ?_, fun data hdata ↦ ?_⟩,
    hshaping.grown⟩
  · by_cases hwaits : node.id ∈ still
    · -- A node that has not been visited has nothing to give: its outputs would lack a shape.
      constructor
      · intro data hdata
        obtain ⟨binding, hbinding, rfl⟩ := List.mem_map.1 hdata
        exact isSome_shape?_of_resolveVirtuals hbalanced hrun hnode (List.mem_filter.1 hbinding).1
      · intro binding hbinding object hlacks
        have hlacks' := (hshaping.lacks_iff hnode hwaits hbinding).2 hlacks
        have hsome := isSome_shape?_of_resolveVirtuals hbalanced hrun hnode hbinding
        rw [shape?, hlacks'.live, Option.bind_some, DataObject.descriptor?, hlacks'.pending]
          at hsome
        cases hsome
    · exact hshaping.shaped node hnode hwaits
  · exact (hshaping.derived data hdata).mono fun _ _ ↦ trivial

/-- If there is a solution, the stage passes. -/
theorem exists_resolveVirtuals (hsolved : draft.graph.reset.Solved shapes) :
    ∃ warnings last, resolveVirtuals.run draft = (.ok warnings, last) := by
  have hbalanced' : draft.graph.reset.ledger.Balanced := draft.graph.ledger_reset ▸ hbalanced
  have hsound' := hsound.of_redrafted draft.graph.redrafted_reset
  obtain ⟨last, hpasses, hshaping⟩ :=
    @Shaping.exists_resolvePasses draft.graph.reset shapes { draft with graph := draft.graph.reset }
      hbalanced' (draft.graph.reset.nodeIds.length + 1) _ (shaping_start _) hsound' hsingle hsolved
      (nodup_nodeIds hbalanced') (List.Subset.refl _) (Nat.lt_succ_self _)
  have hledger := ledger_eq_of_redrafted hshaping.redrafted
  have hfind := find?_of_isSome (hledger ▸ hbalanced') fun node hnode binding hbinding ↦
    hshaping.solved.isSome hbalanced' (hshaping.nodes_eq ▸ hnode) hbinding
  exact ⟨_, last, resolveVirtuals_eq_ok_iff.2 ⟨hpasses, hfind, rfl⟩⟩

end Stage

end Graph

end ImageFlow
