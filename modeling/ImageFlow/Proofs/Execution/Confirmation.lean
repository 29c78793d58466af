import ImageFlow.Proofs.Execution.Turns
import ImageFlow.Proofs.Kernels.Filling
import ImageFlow.Proofs.Session.Fitting
import ImageFlow.Proofs.Session.InsertionOrder

/-!
# Images that are filled and then checked

A node fills an image with a value, and another one compares the image with the same value. The
second node waits for the first, nobody else writes the image, and an image has the bytes of its
pixels and no more. So what the check is shown is the filled image, it finds no difference, and zero
is what it stores.
-/

namespace ImageFlow

/-- Whenever a node is executed, it is shown a value in one of its slots. -/
def RunResult.Reads (ran : RunResult) (id : NodeId) (slot : Nat) (value : UInt32) : Prop :=
  ∀ shown, (id, shown) ∈ executionsOf ran.events → shown.scalar slot = .ok (.u32 value)

/-- A run after which every byte of an image is that of a value in its place, if the image has been
filled. If the image has been checked, it has been filled before, and the check has passed. -/
structure RunResult.Confirms (ran : RunResult) (filling checking : NodeId) (before : Memory)
    (picture errors : DataId) (value : UInt32) : Prop where
  fills : ∀ shown, (filling, shown) ∈ executionsOf ran.events →
    (Kernels.fill.execute shown).1 = .ok () ∧
      ∃ image filled, before picture = some (.image image) ∧
        ran.graph.arena.memory picture = some (.image filled) ∧ image.SameSize filled ∧
          filled.Full ∧ Kernels.Filled filled value
  passes : ∀ shown, (checking, shown) ∈ executionsOf ran.events →
    [filling, checking].Sublist ((executionsOf ran.events).map Prod.fst) ∧
      (Kernels.check.execute shown).1 = .ok () ∧
        ran.graph.arena.memory errors = some (.scalar (.u32 0))
  complete : ran.result.isOk = true →
    [filling, checking].Sublist ((executionsOf ran.events).map Prod.fst)

namespace Graph

variable {graph : Graph} {plan : Plan} {schedule : List (List NodeId)} {watch : Stopwatch}
  {node filling checking : Node} {value picture expected errors : DataRef}
  {first found last : Memory} {v : UInt32}

/-! ## Values -/

/-- A value that nobody else writes is read as it was before the run. -/
theorem Healthy.reads_of_spared (h : graph.Healthy) (hplan : graph.plan = some plan)
    (hschedule : List.Forall₂ List.Perm schedule plan.levels) (hnode : node ∈ graph.nodes)
    {slot : Nat} {binding : Binding} (hbinding : node.bindings[slot]? = some binding)
    (hspared : graph.SparedByOthers node.id binding.ref.id)
    (hvalue : graph.arena.memory binding.ref.id = some (.scalar (.u32 v))) :
    (graph.processIn schedule watch).Reads node.id slot v := by
  intro shown hshown
  obtain ⟨found, rfl, hturn⟩ := h.exists_turn hplan hschedule watch hnode hshown
  rw [Access.scalar_eq_ok_iff, Access.held, Node.access, List.getElem?_map, hbinding,
    Option.map_some, Option.bind_some, hturn.spared _ hspared, hvalue]

/-- A value that a node has read is what the object holds in the end. -/
theorem Healthy.memory_of_scalar (h : graph.Healthy) (hplan : graph.plan = some plan)
    (hschedule : List.Forall₂ List.Perm schedule plan.levels) (watch : Stopwatch)
    (hnode : node ∈ graph.nodes) {slot : Nat} {binding : Binding}
    (hbinding : node.bindings[slot]? = some binding) (hinput : binding.direction = .input)
    {shown : Access}
    (hshown : (node.id, shown) ∈ executionsOf (graph.processIn schedule watch).events)
    {read : ScalarValue} (hread : shown.scalar slot = .ok read) :
    (graph.processIn schedule watch).graph.arena.memory binding.ref.id = some (.scalar read) := by
  obtain ⟨found, rfl, hturn⟩ := h.exists_turn hplan hschedule watch hnode hshown
  rw [Access.scalar_eq_ok_iff, Access.held, Node.access, List.getElem?_map, hbinding] at hread
  rw [hturn.input_eq h.balanced hnode (List.mem_of_getElem? hbinding) hinput]
  exact hread

/-! ## Shapes -/

/-- An object that a plan relies on holds a payload of a shape that the constraint accepts. -/
theorem Usable.exists_payload {ref : DataRef} {constraint : Constraint}
    (h : graph.Usable ref constraint)
    (hfits : ∀ object, graph.arena.get ref = .ok object → object.Fits) :
    ∃ descriptor payload, constraint.accepts descriptor = true ∧
      graph.arena.memory ref.id = some payload ∧ payload.Matches descriptor := by
  obtain ⟨object, hobject, hpayload, descriptor, hdescriptor, haccepts, -⟩ := h
  obtain ⟨payload, hpayload⟩ := Option.isSome_iff_exists.1 hpayload
  refine ⟨descriptor, payload, haccepts, ?_,
    (hfits object hobject).memory descriptor payload hdescriptor hpayload⟩
  rw [Arena.memory, (Arena.get_eq_ok_iff.1 hobject).2]
  exact hpayload

theorem Usable.exists_image {ref : DataRef} (h : graph.Usable ref .anyImage)
    (hfits : ∀ object, graph.arena.get ref = .ok object → object.Fits) :
    ∃ image, graph.arena.memory ref.id = some (.image image) ∧ image.Full := by
  obtain ⟨descriptor, payload, haccepts, hmemory, hmatches⟩ := h.exists_payload hfits
  cases descriptor with
  | image width height format =>
    cases payload with
    | image image =>
      obtain ⟨rfl, rfl, rfl, hsize⟩ := hmatches
      exact ⟨image, hmemory, hsize⟩
    | scalar _ | array _ => cases hmatches
  | scalar _ | array _ _ => cases haccepts

theorem Usable.exists_u32 {ref : DataRef} (h : graph.Usable ref (.scalar .u32))
    (hfits : ∀ object, graph.arena.get ref = .ok object → object.Fits) :
    ∃ old, graph.arena.memory ref.id = some (.scalar (.u32 old)) := by
  obtain ⟨descriptor, payload, haccepts, hmemory, hmatches⟩ := h.exists_payload hfits
  cases descriptor with
  | scalar type =>
    obtain rfl : ScalarType.u32 = type := by simpa [Constraint.accepts] using haccepts
    cases payload with
    | scalar held =>
      cases held with
      | u32 old => exact ⟨old, hmemory⟩
      | _ => cases hmatches
    | image _ | array _ => cases hmatches
  | image _ _ _ | array _ _ => cases haccepts

/-! ## The two nodes -/

/-- One node fills an image with a value, and another one compares the image with an expected value
and stores how many bytes differ. -/
structure FillsAndChecks (graph : Graph) (filling checking : Node)
    (value picture expected errors : DataRef) : Prop where
  filling_mem : filling ∈ graph.nodes
  filling_kernel : filling.kernel.kernel = Kernels.fill
  filling_refs : filling.refs = [value, picture]
  checking_mem : checking ∈ graph.nodes
  checking_kernel : checking.kernel.kernel = Kernels.check
  checking_refs : checking.refs = [picture, expected, errors]

namespace FillsAndChecks

variable (h : graph.FillsAndChecks filling checking value picture expected errors)
include h

theorem filling_bindings :
    filling.bindings = [⟨0, value, .input⟩, ⟨1, picture, .output⟩] := by
  have hsignature : filling.signature = Kernels.fill.signature :=
    congrArg Kernel.signature h.filling_kernel
  rw [Node.bindings, h.filling_refs, hsignature]
  rfl

theorem checking_bindings : checking.bindings =
    [⟨0, picture, .input⟩, ⟨1, expected, .input⟩, ⟨2, errors, .output⟩] := by
  have hsignature : checking.signature = Kernels.check.signature :=
    congrArg Kernel.signature h.checking_kernel
  rw [Node.bindings, h.checking_refs, hsignature]
  rfl

theorem filling_access (memory : Memory) : filling.access memory =
    { node := filling.id
      slots := [⟨false, memory value.id⟩, ⟨true, memory picture.id⟩] } := by
  rw [Node.access, h.filling_bindings]
  rfl

theorem checking_access (memory : Memory) : checking.access memory =
    { node := checking.id
      slots := [⟨false, memory picture.id⟩, ⟨false, memory expected.id⟩,
        ⟨true, memory errors.id⟩] } := by
  rw [Node.access, h.checking_bindings]
  rfl

/-- The two nodes do not have the same number of slots. -/
theorem ids_ne (hids : graph.nodeIds.Nodup) : filling.id ≠ checking.id := by
  intro hsame
  have hnode : filling = checking :=
    List.inj_on_of_nodup_map hids h.filling_mem h.checking_mem hsame
  have hrefs := h.filling_refs
  rw [hnode, h.checking_refs] at hrefs
  exact absurd (congrArg List.length hrefs) (by simp)

theorem picture_mem_writes : picture.id ∈ filling.writes := by
  rw [Node.writes, h.filling_bindings]
  exact List.mem_singleton.2 rfl

theorem errors_mem_writes : errors.id ∈ checking.writes := by
  rw [Node.writes, h.checking_bindings]
  exact List.mem_singleton.2 rfl

/-- The check waits for the fill. -/
theorem mem_edges (hbalanced : graph.ledger.Balanced) (hsingle : graph.SingleWriter) :
    ⟨filling.id, checking.id⟩ ∈ graph.edges := by
  have hbinding : (⟨0, picture, .input⟩ : Binding) ∈ checking.bindings := by
    rw [h.checking_bindings]
    exact List.mem_cons_self
  exact mem_edges_of_bound hbalanced hsingle h.filling_mem h.checking_mem
    (h.ids_ne (nodup_nodeIds hbalanced)) hbinding h.picture_mem_writes

theorem usable (hvalid : graph.PlanValid plan) :
    graph.Usable picture .anyImage ∧ graph.Usable errors (.scalar .u32) := by
  have hfilling := hvalid.usable filling h.filling_mem
  have hchecking := hvalid.usable checking h.checking_mem
  have hsignature : filling.signature = Kernels.fill.signature :=
    congrArg Kernel.signature h.filling_kernel
  have hsignature' : checking.signature = Kernels.check.signature :=
    congrArg Kernel.signature h.checking_kernel
  rw [h.filling_refs, hsignature] at hfilling
  rw [h.checking_refs, hsignature'] at hchecking
  obtain _ | ⟨-, _ | ⟨hpicture, -⟩⟩ := hfilling
  obtain _ | ⟨-, _ | ⟨-, _ | ⟨herrors, -⟩⟩⟩ := hchecking
  exact ⟨hpicture, herrors⟩

/-- What the fill leaves. -/
theorem filled_of_turn (hbalanced : graph.ledger.Balanced)
    (hturn : graph.Turn filling first found last) {image : ImageBuffer}
    (hspared : graph.SparedByOthers filling.id picture.id)
    (hpicture : first picture.id = some (.image image))
    (hreads : (filling.access found).scalar 0 = .ok (.u32 v)) :
    (Kernels.fill.execute (filling.access found)).1 = .ok () ∧
      last picture.id = some (.image (Kernels.fillImage image v)) := by
  have hvalue : found value.id = some (.scalar (.u32 v)) := by
    rw [Access.scalar_eq_ok_iff, h.filling_access] at hreads
    exact hreads
  have hshown : filling.access found = Kernels.fillSlots filling.id v image := by
    rw [h.filling_access, hvalue, hturn.spared _ hspared, hpicture]
    rfl
  have hran : Kernels.fill.execute (filling.access found) =
      (.ok (), Kernels.fillSlots filling.id v (Kernels.fillImage image v)) := by
    rw [hshown]
    exact Kernels.run_fill filling.id v image
  have hrepeating : filling.kernel.kernel.Repeating :=
    h.filling_kernel ▸ Kernels.repeatsAt_fill.repeating
  have hleft := hturn.access_eq hbalanced h.filling_mem (hrepeating.kept _)
  rw [h.filling_kernel, hran, h.filling_access, Kernels.fillSlots] at hleft
  simp only [Access.mk.injEq, List.cons.injEq, Slot.mk.injEq, true_and, and_true] at hleft
  rw [hran]
  exact ⟨rfl, hleft.2⟩

/-- What the check comes to if it is shown a filled image. -/
theorem passed_of_turn (hbalanced : graph.ledger.Balanced)
    (hturn : graph.Turn checking first found last) {filled : ImageBuffer} {old : UInt32}
    (hspared : graph.SparedByOthers checking.id errors.id)
    (herrors : first errors.id = some (.scalar (.u32 old)))
    (hpicture : last picture.id = some (.image filled)) (hfull : filled.Full)
    (hfilled : Kernels.Filled filled v)
    (hexpected : last expected.id = some (.scalar (.u32 v))) :
    (Kernels.check.execute (checking.access found)).1 = .ok () ∧
      last errors.id = some (.scalar (.u32 0)) := by
  have hbindings := h.checking_bindings
  have hseen : last picture.id = found picture.id :=
    hturn.input_eq hbalanced h.checking_mem (hbindings ▸ List.mem_cons_self) rfl
  have hread : last expected.id = found expected.id :=
    hturn.input_eq hbalanced h.checking_mem
      (hbindings ▸ List.mem_cons_of_mem _ List.mem_cons_self) rfl
  have hshown : checking.access found = Kernels.checkSlots checking.id filled v old := by
    rw [h.checking_access, ← hseen, ← hread, hturn.spared _ hspared, hpicture, hexpected, herrors]
    rfl
  have hran : Kernels.check.execute (checking.access found) =
      (.ok (), Kernels.checkSlots checking.id filled v 0) := by
    rw [hshown]
    exact Kernels.run_check_of_filled checking.id hfilled hfull old
  have hrepeating : checking.kernel.kernel.Repeating :=
    h.checking_kernel ▸ Kernels.repeatsAt_check.repeating
  have hleft := hturn.access_eq hbalanced h.checking_mem (hrepeating.kept _)
  rw [h.checking_kernel, hran, h.checking_access, Kernels.checkSlots] at hleft
  simp only [Access.mk.injEq, List.cons.injEq, Slot.mk.injEq, true_and, and_true] at hleft
  rw [hran]
  exact ⟨rfl, hleft.2.2⟩

end FillsAndChecks

/-! ## Runs -/

/-- The image that is filled and the count have the shapes of their objects when the run begins, and
both nodes read the same value. -/
theorem FillsAndChecks.confirms (h : graph.FillsAndChecks filling checking value picture expected
      errors) (hhealthy : graph.Healthy) (hplan : graph.plan = some plan)
    (hschedule : List.Forall₂ List.Perm schedule plan.levels) (watch : Stopwatch)
    (hfits : ∀ ref ∈ [picture, errors], ∀ object, graph.arena.get ref = .ok object → object.Fits)
    (hvalue : (graph.processIn schedule watch).Reads filling.id 0 v)
    (hexpected : expected = value ∨ (graph.processIn schedule watch).Reads checking.id 1 v) :
    (graph.processIn schedule watch).Confirms filling.id checking.id graph.arena.memory picture.id
      errors.id v := by
  have hbalanced := hhealthy.balanced
  have hvalid := (hhealthy.planned plan hplan).2.planValid hbalanced
  have hsingle : graph.SingleWriter := hvalid.one_writer
  have hwaits := hhealthy.sublist_of_edge hplan hschedule watch (h.mem_edges hbalanced hsingle)
  obtain ⟨himage, hcount⟩ := h.usable hvalid
  obtain ⟨image, hpicture, hfull⟩ := himage.exists_image (hfits picture (by simp))
  obtain ⟨old, herrors⟩ := hcount.exists_u32 (hfits errors (by simp))
  have hfilled {shown : Access}
      (hshown : (filling.id, shown) ∈ executionsOf (graph.processIn schedule watch).events) :
      (Kernels.fill.execute shown).1 = .ok () ∧
        (graph.processIn schedule watch).graph.arena.memory picture.id =
          some (.image (Kernels.fillImage image v)) := by
    have hreads := hvalue shown hshown
    obtain ⟨found, rfl, hturn⟩ := hhealthy.exists_turn hplan hschedule watch h.filling_mem hshown
    exact h.filled_of_turn hbalanced hturn (hsingle.spared h.filling_mem h.picture_mem_writes)
      hpicture hreads
  constructor
  · intro shown hshown
    obtain ⟨hok, hleft⟩ := hfilled hshown
    exact ⟨hok, image, _, hpicture, hleft,
      hfull.sameSize (Kernels.full_fillImage hfull) rfl rfl rfl, Kernels.full_fillImage hfull,
      Kernels.filled_fillImage hfull v⟩
  · intro shown hshown
    -- The check has waited for the fill, so it is shown what the fill has left.
    have hsublist := hwaits (List.mem_map_of_mem (f := Prod.fst) hshown)
    obtain ⟨⟨_, earlier⟩, hearlier, rfl⟩ :=
      List.mem_map.1 (hsublist.subset List.mem_cons_self)
    obtain ⟨-, hleft⟩ := hfilled hearlier
    -- If both nodes have the same value, the fill tells what it was; else the check does.
    have hread : (graph.processIn schedule watch).graph.arena.memory expected.id =
        some (.scalar (.u32 v)) := by
      rcases hexpected with rfl | hreads
      · exact hhealthy.memory_of_scalar hplan hschedule watch h.filling_mem
          (congrArg (·[0]?) h.filling_bindings) rfl hearlier (hvalue earlier hearlier)
      · exact hhealthy.memory_of_scalar hplan hschedule watch h.checking_mem
          (congrArg (·[1]?) h.checking_bindings) rfl hshown (hreads shown hshown)
    obtain ⟨found, rfl, hturn⟩ := hhealthy.exists_turn hplan hschedule watch h.checking_mem hshown
    exact ⟨hsublist, h.passed_of_turn hbalanced hturn
      (hsingle.spared h.checking_mem h.errors_mem_writes) herrors hleft
      (Kernels.full_fillImage hfull) (Kernels.filled_fillImage hfull v) hread⟩
  · intro hok
    apply hwaits
    have hall := (hhealthy.runsPlan hplan hschedule watch).1.perm_of_isOk hvalid hok
    exact hall.mem_iff.2 (List.mem_map_of_mem h.checking_mem)

end Graph

namespace Call

variable {plan : Plan} {schedule : List (List NodeId)} {filling checking : Node}
  {value picture expected errors : DataRef} {v : UInt32}

/-- A graph has a plan that the standard stages have made; one of its nodes fills an image with a
value, and another one checks it against the same value. In every run, in whatever order the nodes
of each level come to their ends, the fill leaves in every byte the byte of the value in its place,
and the check waits for it, passes, and stores zero. The image and the count have to have the shapes
of their objects when the run begins, which they always have if all nodes have had standard kernels,
over whatever box filter. -/
theorem confirms_processIn (filter : BoxFilter) (id : GraphId) (context : Context)
    (calls : List Call) (operations : List Operation)
    (hplan : (Operation.applyAll (applyAll (.empty id context) calls).invalidate operations).plan =
      some plan)
    (hschedule : List.Forall₂ List.Perm schedule plan.levels) (watch : Stopwatch) :
    let start := (applyAll (.empty id context) calls).invalidate
    let graph := Operation.applyAll start operations
    let ran := graph.processIn schedule watch
    graph.FillsAndChecks filling checking value picture expected errors →
    (calls = [] ∧
        (∀ done, done <+: operations → (Operation.applyAll start done).Standard filter) ∨
      ∀ ref ∈ [picture, errors], ∀ object, graph.arena.get ref = .ok object → object.Fits) →
    ran.Reads filling.id 0 v → (expected = value ∨ ran.Reads checking.id 1 v) →
    graph.processIn plan.levels watch = graph.process watch ∧
      ran.Confirms filling.id checking.id graph.arena.memory picture.id errors.id v := by
  intro start graph ran hnodes hshapes hvalue hexpected
  have hhealthy : graph.Healthy :=
    healthy_applyAll_invalidate id context calls operations
  refine ⟨hhealthy.processIn_levels hplan watch,
    hnodes.confirms hhealthy hplan hschedule watch ?_ hvalue hexpected⟩
  rcases hshapes with ⟨rfl, hstandard⟩ | hfits
  · have hsturdy : graph.Sturdy filter :=
      Operation.sturdy_applyAll (Graph.sturdy_empty id context) hstandard
    exact fun ref _ object hobject ↦
      hsturdy.fitting ref.id object (Arena.get_eq_ok_iff.1 hobject).2
  · exact hfits

/-- The object with some number in the graph below. -/
def coated (data : Nat) : DataRef := { graph := ⟨0⟩, id := ⟨data⟩ }

/-- A node that fills an image. -/
def brush : Node := .fresh ⟨0⟩ { id := ⟨0⟩, kernel := Kernels.fill } [coated 1, coated 0]

/-- A node that checks the image. -/
def probe : Node := .fresh ⟨1⟩ { id := ⟨0⟩, kernel := Kernels.check } [coated 0, coated 2, coated 3]

/-- An image of two pixels with something in it, to be filled and then checked. -/
def coating : List Operation :=
  [.create (.image 2 1 .rgb), .writeImage (coated 0) (.ofArray #[1, 2, 3, 4, 5, 6]),
    .createScalar (.u32 0xdeadbeef), .createScalar (.u32 0xdeadbeef), .createScalar (.u32 9),
    .addNodeWithKernel brush.kernel brush.refs, .addNodeWithKernel probe.kernel probe.refs,
    .verify]

theorem session_coating : Operation.session ⟨0⟩ Operation.plainContext coating =
    (Operation.session ⟨0⟩ Operation.plainContext (coating.take 7)).verify.graph := rfl

theorem standard_coating (done : List Operation) (hdone : done <+: coating) :
    (Operation.session ⟨0⟩ Operation.plainContext done).Standard .means := by
  have hstandard : ∀ kernel ∈ [Kernels.fill, Kernels.check], kernel ∈ Kernels.standard .means := by
    simp [Kernels.standard]
  have hbefore (count : Nat) (hcount : count ≤ 7) :
      (Operation.session ⟨0⟩ Operation.plainContext (coating.take count)).Standard .means := by
    have hkernels : (Operation.session ⟨0⟩ Operation.plainContext
        (coating.take count)).nodes.map (·.kernel.kernel) =
          [Kernels.fill, Kernels.check].take (count - 5) := by
      interval_cases count <;> rfl
    refine List.forall_mem_map.1 ?_
    rw [hkernels]
    exact fun kernel hkernel ↦ hstandard kernel (List.mem_of_mem_take hkernel)
  rw [List.prefix_iff_eq_take.1 hdone]
  by_cases hcount : done.length ≤ 7
  · exact hbefore _ hcount
  · rw [List.take_of_length_le (Nat.lt_of_not_le hcount), session_coating]
    exact (hbefore 7 (Nat.le_refl 7)).verify

theorem fillsAndChecks_coating :
    (Operation.session ⟨0⟩ Operation.plainContext coating).FillsAndChecks brush probe (coated 1)
      (coated 0) (coated 2) (coated 3) := by
  have hnodes : (Operation.session ⟨0⟩ Operation.plainContext coating).nodes = [brush, probe] := by
    rw [session_coating, Graph.nodes_verify]
    rfl
  exact
    { filling_mem := by simp [hnodes]
      filling_kernel := rfl
      filling_refs := rfl
      checking_mem := by simp [hnodes]
      checking_kernel := rfl
      checking_refs := rfl }

/-- Both pixels hold the three lowest bytes of the value afterwards, and no byte differs. -/
theorem confirms_coating :
    let graph := Operation.session ⟨0⟩ Operation.plainContext coating
    let ran := graph.process .still
    let image (bytes : Array UInt8) : Payload :=
      .image { width := 2, height := 1, format := .rgb, data := .ofArray bytes }
    graph.arena.memory (coated 0).id = some (image #[1, 2, 3, 4, 5, 6]) ∧
      ran.result.isOk = true ∧
      ran.Confirms brush.id probe.id graph.arena.memory (coated 0).id (coated 3).id 0xdeadbeef ∧
      ran.graph.arena.memory (coated 0).id =
        some (image #[0xef, 0xbe, 0xad, 0xef, 0xbe, 0xad]) ∧
      ran.graph.arena.memory (coated 3).id = some (.scalar (.u32 0)) := by
  intro graph ran image
  have hplanned : graph.plan.isSome = true := by decide +kernel
  obtain ⟨plan, hplan⟩ := Option.isSome_iff_exists.1 hplanned
  have hschedule : List.Forall₂ List.Perm plan.levels plan.levels :=
    List.forall₂_same.2 fun level _ ↦ .refl level
  have hhealthy : graph.Healthy :=
    healthy_applyAll_invalidate ⟨0⟩ Operation.plainContext [] coating
  have hnodes : graph.FillsAndChecks brush probe _ _ _ _ := fillsAndChecks_coating
  have hvalue : (graph.processIn plan.levels .still).Reads brush.id 0 0xdeadbeef :=
    hhealthy.reads_of_spared hplan hschedule hnodes.filling_mem
      (congrArg (·[0]?) hnodes.filling_bindings) (by decide +kernel) (by decide +kernel)
  have hexpected : (graph.processIn plan.levels .still).Reads probe.id 1 0xdeadbeef :=
    hhealthy.reads_of_spared hplan hschedule hnodes.checking_mem
      (congrArg (·[1]?) hnodes.checking_bindings) (by decide +kernel) (by decide +kernel)
  obtain ⟨hsame, hconfirms⟩ := confirms_processIn .means ⟨0⟩ Operation.plainContext []
    coating hplan hschedule .still hnodes (.inl ⟨rfl, standard_coating⟩) hvalue (.inr hexpected)
  have hran : graph.processIn plan.levels .still = ran := hsame
  refine ⟨by decide +kernel, by decide +kernel, ?_, by decide +kernel, by decide +kernel⟩
  rw [← hran]
  exact hconfirms

end Call

end ImageFlow
