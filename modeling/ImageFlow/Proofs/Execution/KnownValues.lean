import ImageFlow.Kernels.Pattern
import ImageFlow.Proofs.Execution.Turns
import ImageFlow.Proofs.Kernels.Work
import ImageFlow.Proofs.Session.InsertionOrder
import ImageFlow.Proofs.Verification.Repetition
import ImageFlow.Proofs.Verification.Views

/-!
# Values known before a run

A verification shows kernels the values of the concrete scalars that they read. A run reads the same
values as long as no other node writes these scalars. If another node does, it runs first, and what
the kernel was shown may be out of date by the time it is executed.
-/

namespace ImageFlow

namespace Graph

/-! ## What was shown -/

variable {start graph : Graph} {id : NodeId} {view : Inspection} {slot : Nat} {value : ScalarValue}

/-- A value that is known before a run is held by the object. -/
theorem memory_of_knownValue? {binding : Binding}
    (h : Verification.knownValue? graph binding = some value) :
    graph.arena.memory binding.ref.id = some (.scalar value) := by
  unfold Verification.knownValue? at h
  split at h
  · cases h
  · next object hobject =>
    split at h
    · obtain ⟨payload, hpayload, hscalar⟩ := Option.bind_eq_some_iff.1 h
      rw [Arena.memory, (Arena.get_eq_ok_iff.1 hobject).2, Option.bind_some, hpayload]
      cases payload with
      | scalar held => rw [Option.some.inj hscalar]
      | image _ => cases hscalar
      | array _ => cases hscalar
    · cases h

/-- A verification by the standard stages leaves in the object of a slot the value that the kernel
of the node was shown. -/
theorem exists_memory_of_viewsOf (hsound : start.SoundObjects)
    (hshown : (id, view) ∈ viewsOf (start.runStages Stage.standard).events)
    (hvalue : view.scalarValue? slot = some value) :
    ∃ node ∈ (start.runStages Stage.standard).graph.nodes, node.id = id ∧
      ∃ binding, node.bindings[slot]? = some binding ∧
        (start.runStages Stage.standard).graph.arena.memory binding.ref.id =
          some (.scalar value) := by
  have hstages : ∀ stage ∈ Stage.standard, stage.Redrafts :=
    fun _ ↦ Stage.redrafts_of_mem_standard
  cases views_of_mem_viewsOf hshown with
  | @inspect now node hnow hnode =>
    refine ⟨node, (nodes_runStages hstages start).symm ▸ hnode, rfl, ?_⟩
    rw [Inspection.scalarValue?, Verification.inspect, List.getElem?_map] at hvalue
    cases hbinding : node.bindings[slot]? with
    | none =>
      rw [hbinding] at hvalue
      cases hvalue
    | some binding =>
      rw [hbinding] at hvalue
      refine ⟨binding, rfl, memory_of_knownValue? ?_⟩
      calc Verification.knownValue? (start.runStages Stage.standard).graph binding
          = Verification.knownValue? start binding :=
            @knownValue?_redrafted start.invalidate _ hsound (redrafted_runStages hstages start)
              binding
        _ = Verification.knownValue? now binding :=
            (knownValue?_redrafted hsound hnow binding).symm
        _ = some value := hvalue

/-! ## What is read -/

/-- In a run of a plan, in whatever order the nodes of each level come to their ends, a node is
shown what its objects held before the run, unless other nodes write them. -/
theorem Healthy.exists_access {plan : Plan} {schedule : List (List NodeId)} {watch : Stopwatch}
    {access : Access} (h : graph.Healthy) (hplan : graph.plan = some plan)
    (hschedule : List.Forall₂ List.Perm schedule plan.levels)
    (hexecution : (id, access) ∈ executionsOf (graph.processIn schedule watch).events) :
    ∃ node memory, graph.node? id = some node ∧ access = node.access memory ∧
      ∀ data, graph.SparedByOthers id data → memory data = graph.arena.memory data := by
  obtain ⟨ids, rest, hperm, -, hevents, -, hkeys⟩ := h.exists_order hplan hschedule watch
  have hid : id ∈ ids := by
    rw [← hkeys, ← hevents]
    exact List.mem_map_of_mem (f := Prod.fst) hexecution
  obtain ⟨node, hnode, rfl⟩ := List.mem_map.1 (hperm.subset (List.mem_append_left rest hid))
  obtain ⟨found, haccess, hturn⟩ := h.exists_turn hplan hschedule watch hnode hexecution
  have hfound := (node?_eq_some_iff (nodup_nodeIds h.balanced)).2 ⟨hnode, rfl⟩
  exact ⟨node, found, hfound, haccess, hturn.spared⟩

end Graph

namespace Call

variable {verified : VerificationResult} {node : Node} {binding : Binding} {view : Inspection}
  {slot : Nat} {value : ScalarValue}

/-- After a verification by the standard stages has passed, the next run reads every value that a
kernel was shown, in whatever order the nodes of each level come to their ends, provided that no
other node writes the scalar. -/
theorem known_value_is_read (id : GraphId) (context : Context) (calls : List Call)
    (hverified : (applyAll (.empty id context) calls).StandardVerification verified)
    (hpassed : verified.result.isOk = true) (hnode : node ∈ verified.graph.nodes)
    (hbinding : node.bindings[slot]? = some binding)
    (hspared : verified.graph.SparedByOthers node.id binding.ref.id)
    (hshown : (node.id, view) ∈ viewsOf verified.events)
    (hvalue : view.scalarValue? slot = some value) :
    ∃ plan, verified.graph.plan = some plan ∧ ∀ watch,
      verified.graph.processIn plan.levels watch = verified.graph.process watch ∧
      ∀ schedule, List.Forall₂ List.Perm schedule plan.levels → ∀ access,
        (node.id, access) ∈ executionsOf (verified.graph.processIn schedule watch).events →
          access.scalar slot = .ok value := by
  have hsound := soundObjects_applyAll id context calls
  have hhealthy := (healthy_invalidate id context calls).verify
  have heq := hverified.eq (settled_applyAll (settled_empty id context) calls)
  generalize applyAll (.empty id context) calls = start at hsound hhealthy heq
  rw [Graph.verify_of_no_plan rfl] at hhealthy
  obtain rfl : verified = start.invalidate.runStages Stage.standard := heq
  have hids := Graph.nodup_nodeIds hhealthy.balanced
  obtain ⟨report, hreport⟩ := exists_of_isOk hpassed
  obtain ⟨plan, hplan⟩ := Option.isSome_iff_exists.1 (Graph.runStages_of_ok hreport).1
  refine ⟨plan, hplan, fun watch ↦ ⟨hhealthy.processIn_levels hplan watch, ?_⟩⟩
  intro schedule hschedule access hexecution
  have hsound' : start.invalidate.SoundObjects := hsound
  obtain ⟨shown, hmem, hid, bound, hbound, hknown⟩ :=
    Graph.exists_memory_of_viewsOf hsound' hshown hvalue
  obtain rfl : shown = node := List.inj_on_of_nodup_map hids hmem hnode hid
  obtain rfl : bound = binding := Option.some.inj (hbound.symm.trans hbinding)
  obtain ⟨found, memory, hfound, rfl, hmemory⟩ :=
    hhealthy.exists_access hplan hschedule hexecution
  obtain ⟨hmem', hid'⟩ := (Graph.node?_eq_some_iff hids).1 hfound
  obtain rfl : found = shown := List.inj_on_of_nodup_map hids hmem' hnode hid'
  rw [Access.scalar_eq_ok_iff, Access.held, Node.access, List.getElem?_map, hbinding,
    Option.map_some, Option.bind_some, hmemory _ hspared, hknown]

/-- Calls that count the bytes of a black image that are not zero, and fill an image with the count.
Before, the count says 7. -/
def counting : List Call :=
  let ref (data : Nat) : DataRef := { graph := ⟨0⟩, id := ⟨data⟩ }
  let bind (kernel : Kernel) (refs : List DataRef) : Call :=
    .operation (.addNodeWithKernel { id := ⟨0⟩, kernel } refs)
  [.operation (.create (.image 1 1 .u8)), .operation (.createScalar (.u32 0)),
    .operation (.createScalar (.u32 7)), .operation (.create (.image 1 1 .u8)),
    bind Kernels.check [ref 0, ref 1, ref 2], bind Kernels.fill [ref 2, ref 3]]

/-- The node that counts. -/
def checking : Node :=
  .fresh ⟨0⟩ { id := ⟨0⟩, kernel := Kernels.check }
    ([0, 1, 2].map fun data ↦ { graph := ⟨0⟩, id := ⟨data⟩ })

/-- The value to compare with is read as it was shown. -/
theorem known_value_is_read_counting :
    let start := applyAll (.empty ⟨0⟩ Operation.plainContext) counting
    ∃ view plan, (checking.id, view) ∈ viewsOf start.verify.events ∧
      view.scalarValue? 1 = some (.u32 0) ∧ start.verify.graph.plan = some plan ∧
      (executionsOf (start.verify.graph.process .still).events).map Prod.fst =
        [checking.id, ⟨1⟩] ∧
      ∀ access, (checking.id, access) ∈ executionsOf (start.verify.graph.process .still).events →
        access.scalar 1 = .ok (.u32 0) := by
  intro start
  have hplan : start.plan = none := rfl
  have hok : start.verify.result.isOk = true := by decide +kernel
  have hnode : checking ∈ start.verify.graph.nodes := by
    rw [show start.verify.graph.nodes = start.nodes from Graph.nodes_verify start]
    exact .head _
  have hspared : start.verify.graph.SparedByOthers checking.id ⟨1⟩ := by decide +kernel
  have hviews : ((viewsOf start.verify.events).map fun shown ↦
      (shown.1, shown.2.scalarValue? 1)).head? = some (checking.id, some (.u32 0)) := by
    decide +kernel
  rw [List.head?_map] at hviews
  obtain ⟨⟨node, view⟩, hview, hshown⟩ := Option.map_eq_some_iff.1 hviews
  obtain ⟨rfl, hvalue⟩ := Prod.mk.inj hshown
  have hshown := List.mem_of_head? hview
  have hverified : start.StandardVerification start.verify := .inr ⟨hplan, rfl⟩
  obtain ⟨plan, hplan, hread⟩ := known_value_is_read ⟨0⟩ Operation.plainContext counting
    hverified hok hnode rfl hspared hshown hvalue
  obtain ⟨hsame, hscalar⟩ := hread .still
  refine ⟨view, plan, hshown, hvalue, hplan, by decide +kernel, ?_⟩
  rw [← hsame]
  exact hscalar plan.levels (List.forall₂_same.2 fun level _ ↦ .refl level)

/-- The value to fill with is shown as 7 and read as 0, since the count has been taken before. -/
theorem outdated_value_counting :
    let start := applyAll (.empty ⟨0⟩ Operation.plainContext) counting
    start.StandardVerification start.verify ∧ start.verify.result.isOk = true ∧
      (viewsOf start.verify.events).map (fun shown ↦ (shown.1, shown.2.scalarValue? 0)) =
        [(⟨0⟩, none), (⟨1⟩, some (.u32 7)), (⟨0⟩, none), (⟨1⟩, some (.u32 7))] ∧
      (start.verify.graph.process .still).result.isOk = true ∧
      (executionsOf (start.verify.graph.process .still).events).map
          (fun execution ↦ (execution.1, (execution.2.scalar 0).toOption)) =
        [(⟨0⟩, none), (⟨1⟩, some (.u32 0))] := by
  intro start
  have hplan : start.plan = none := rfl
  exact ⟨.inr ⟨hplan, rfl⟩, by decide +kernel, by decide +kernel, by decide +kernel,
    by decide +kernel⟩

end Call

end ImageFlow
