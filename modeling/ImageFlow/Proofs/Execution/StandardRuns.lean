import ImageFlow.Proofs.Kernels.Reliable
import ImageFlow.Proofs.Verification.PlanValidity

/-!
# Runs of standard kernels

A graph is prepared if the memory of all its objects fits and every node has a standard kernel that
has accepted the shapes of its objects. A run of a node then leaves a prepared graph, whatever the
payloads are, and so does a run of the whole graph. If the box filter keeps the size of images, all
that can end it early is a check that finds differences, an unknown overflow policy, or a callback.
-/

namespace ImageFlow

/-- What a kernel may do with the slots of its node: run to the end, or give a verdict. -/
def Kernel.EndsWell (kernel : Kernel) (access : Access) : Prop :=
  (kernel.execute access).1 = .ok () ∨
    ∃ e, (kernel.execute access).1 = .error (.failed e) ∧ Kernels.Verdict kernel e

/-- How a run of standard kernels can end early. -/
inductive StandardStop : Stop ProcessError → Prop
  /-- A check has found differences. -/
  | mismatch (node : NodeId) (message : String) :
    StandardStop (.failed (.kernel node Kernels.check.name 1 message))
  /-- The code of an overflow policy is unknown. -/
  | policy (node : NodeId) (name : String)
    (h : name = Kernels.add.name ∨ name = Kernels.subtract.name) (value : ScalarValue) :
    StandardStop (.failed
      (.kernel node name (-10) ("unknown overflow policy " ++ value.describe)))
  | abandoned (node : NodeId) : StandardStop (.failed (.abandoned node))

theorem Kernels.Verdict.standardStop {kernel : Kernel} {e : KernelError} (h : Verdict kernel e)
    (node : NodeId) : StandardStop (.failed (.kernel node kernel.name e.code e.message)) := by
  cases h with
  | mismatch errors total value => exact .mismatch node _
  | policy hkernel value =>
    refine .policy node _ ?_ value
    rcases hkernel with rfl | rfl
    · exact .inl rfl
    · exact .inr rfl

/-! ## Memory after a run of a node -/

/-- A property that all payloads in memory have is kept if those that are put back have it. -/
theorem Memory.forall_putBackAll {memory : Memory} {P : DataId → Payload → Prop}
    (h : ∀ data payload, memory data = some payload → P data payload) {bindings : List Binding}
    {befores afters : List Slot}
    (hslots : ∀ (i : Nat) (binding : Binding) (s : Slot) (payload : Payload),
      bindings[i]? = some binding → afters[i]? = some s → s.payload = some payload →
        P binding.ref.id payload) (data : DataId) (payload : Payload)
    (hpayload : memory.putBackAll bindings befores afters data = some payload) :
    P data payload := by
  fun_induction putBackAll memory bindings befores afters with
  | case1 memory binding bindings before befores after afters ih =>
    refine ih (fun other held hheld ↦ ?_) (fun i ↦ hslots (i + 1)) hpayload
    by_cases hput : binding.direction.writes = true ∧ other = binding.ref.id
    · cases hbefore : before.payload with
      | none =>
        rw [putBack, hbefore] at hheld
        exact h other held hheld
      | some old =>
        cases hafter : after.payload with
        | none =>
          rw [putBack, hbefore, hafter] at hheld
          exact h other held hheld
        | some stored =>
          simp only [putBack, hbefore, hafter, if_pos hput.1, hput.2, Function.update_self,
            Option.some.injEq] at hheld
          rw [hput.2, ← hheld]
          exact hslots 0 binding after stored rfl rfl hafter
    · rw [putBack_of_not_writes fun hwrites hid ↦ hput ⟨hwrites, hid.symm⟩] at hheld
      exact h other held hheld
  | case2 => exact h data payload hpayload

namespace Graph

variable {graph before after : Graph} {node : Node} {run : RunState} {filter : BoxFilter}

/-- All nodes have standard kernels over a box filter. -/
def Standard (graph : Graph) (filter : BoxFilter) : Prop :=
  ∀ node ∈ graph.nodes, node.kernel.kernel ∈ Kernels.standard filter

theorem standard_of_kernels {kernels : List Kernel}
    (hnodes : graph.nodes.map (·.kernel.kernel) = kernels)
    (hstandard : ∀ kernel ∈ kernels, kernel ∈ Kernels.standard filter) : graph.Standard filter :=
  fun node hnode ↦ hstandard node.kernel.kernel
    (hnodes ▸ List.mem_map_of_mem (f := fun node : Node ↦ node.kernel.kernel) hnode)

/-- What the kernel of every node has said to the shapes of the node's objects, if it is a standard
kernel. -/
def Accepted (graph : Graph) (filter : BoxFilter) : Prop :=
  ∀ wiring ∈ graph.ledger.wirings, ∀ kernel ∈ Kernels.standard filter,
    kernel.signature = wiring.signature →
      ∃ view : Inspection, view.descriptors = wiring.refs.map graph.descriptorOf? ∧
        kernel.validate view = .ok ()

/-- All that standard kernels need to run. -/
structure Prepared (graph : Graph) (filter : BoxFilter) : Prop where
  balanced : graph.ledger.Balanced
  fitting : graph.EveryObject DataObject.Fits
  standard : graph.Standard filter
  usable : ∀ wiring ∈ graph.ledger.wirings, ∀ slot ∈ wiring.slots,
    graph.Usable slot.1 slot.2.constraint
  accepted : graph.Accepted filter

/-! ## What stays -/

theorem Upheld.descriptorOf?_eq (h : before.Upheld after) (hbalanced : before.ledger.Balanced)
    {wiring : Wiring} (hwiring : wiring ∈ before.ledger.wirings) {ref : DataRef}
    (href : ref ∈ wiring.refs) : after.descriptorOf? ref = before.descriptorOf? ref := by
  obtain ⟨node, hnode, rfl⟩ := List.mem_map.1 hwiring
  obtain ⟨object, hobject⟩ := exists_get hbalanced hnode href
  obtain ⟨kept, hkept, hsteady⟩ := h.objects _ hwiring ref href object hobject
  rw [descriptorOf?, descriptorOf?, hobject, hkept]
  dsimp only
  rw [DataObject.descriptor?, hsteady.state_eq, DataObject.descriptor?]

theorem Accepted.upheld (h : before.Accepted filter) (hbalanced : before.ledger.Balanced)
    (hupheld : before.Upheld after) : after.Accepted filter := by
  intro wiring hwiring kernel hkernel hsignature
  rw [hupheld.wirings] at hwiring
  obtain ⟨view, hview, hvalid⟩ := h wiring hwiring kernel hkernel hsignature
  refine ⟨view, hview.trans (List.map_congr_left fun ref href ↦ ?_), hvalid⟩
  exact (hupheld.descriptorOf?_eq hbalanced hwiring href).symm

theorem Ran.standard (h : before.Ran after) (hstandard : before.Standard filter) :
    after.Standard filter := by
  intro node hnode
  have hfixed : node.fixed ∈ before.nodes.map Node.fixed :=
    h.nodes ▸ List.mem_map_of_mem hnode
  obtain ⟨origin, horigin, heq⟩ := List.mem_map.1 hfixed
  have hkernel : origin.fixed.kernel = node.fixed.kernel := by rw [heq]
  have horigin := hstandard origin horigin
  rwa [show origin.kernel = node.kernel from hkernel] at horigin

theorem Prepared.ran (h : before.Prepared filter) (hran : before.Ran after)
    (hfitting : after.EveryObject DataObject.Fits) : after.Prepared filter where
  balanced := by
    rw [hran.worked.ledger_eq]
    exact h.balanced
  fitting := hfitting
  standard := hran.standard h.standard
  usable wiring hwiring slot hslot := by
    have hwiring : wiring ∈ before.ledger.wirings := hran.worked.upheld.wirings ▸ hwiring
    exact (h.usable wiring hwiring slot hslot).steady
      (hran.worked.upheld.objects wiring hwiring slot.1 (List.of_mem_zip hslot).1)
  accepted := h.accepted.upheld h.balanced hran.worked.upheld

/-! ## One node -/

theorem Usable.exists_descriptorOf? {ref : DataRef} {constraint : Constraint}
    (h : graph.Usable ref constraint) : ∃ descriptor,
      graph.descriptorOf? ref = some descriptor ∧ constraint.accepts descriptor = true := by
  obtain ⟨object, hobject, -, descriptor, hdescriptor, haccepts, -⟩ := h
  exact ⟨descriptor, by rw [descriptorOf?, hobject]; exact hdescriptor, haccepts⟩

theorem Usable.exists_matches {ref : DataRef} {constraint : Constraint}
    (h : graph.Usable ref constraint) (hfitting : graph.EveryObject DataObject.Fits)
    {descriptor : Descriptor} (hdescriptor : graph.descriptorOf? ref = some descriptor) :
    ∃ payload, graph.arena.memory ref.id = some payload ∧ payload.Matches descriptor := by
  obtain ⟨object, hobject, hpayload, -⟩ := h
  have hlive := (Arena.get_eq_ok_iff.1 hobject).2
  obtain ⟨payload, hpayload⟩ := Option.isSome_iff_exists.1 hpayload
  rw [descriptorOf?, hobject] at hdescriptor
  refine ⟨payload, ?_, (hfitting _ object hlive).memory descriptor payload hdescriptor hpayload⟩
  rw [Arena.memory, hlive]
  exact hpayload

/-- The parameters of a node's slots, each with the shape of the object that is bound to it. -/
structure Shaped (graph : Graph) (node : Node) (shape : List (Parameter × Descriptor)) : Prop where
  length_eq : node.bindings.length = shape.length
  slots : ∀ (i : Nat) (binding : Binding) (bound : Parameter × Descriptor),
    node.bindings[i]? = some binding → shape[i]? = some bound →
      binding.direction = bound.1.direction ∧ graph.descriptorOf? binding.ref = some bound.2 ∧
        ∃ constraint, graph.Usable binding.ref constraint

theorem exists_shape {slots : List (DataRef × Parameter)}
    (h : ∀ slot ∈ slots, graph.Usable slot.1 slot.2.constraint) :
    ∃ shape : List (Parameter × Descriptor), shape.map Prod.fst = slots.map Prod.snd ∧
      shape.map (fun bound ↦ some bound.2) = slots.map (fun slot ↦ graph.descriptorOf? slot.1) ∧
      ∀ bound ∈ shape, bound.1.constraint.accepts bound.2 = true := by
  induction slots with
  | nil => exact ⟨[], rfl, rfl, by simp⟩
  | cons slot rest ih =>
    obtain ⟨hslot, hrest⟩ := List.forall_mem_cons.1 h
    obtain ⟨descriptor, hdescriptor, haccepts⟩ := hslot.exists_descriptorOf?
    obtain ⟨shape, hparameters, hdescriptors, hshape⟩ := ih hrest
    refine ⟨(slot.2, descriptor) :: shape, ?_, ?_, List.forall_mem_cons.2 ⟨haccepts, hshape⟩⟩
    · rw [List.map_cons, List.map_cons, hparameters]
    · rw [List.map_cons, List.map_cons, hdescriptors, hdescriptor]

/-- A node that can be bound to its objects, and whose kernel has accepted their shapes. -/
theorem exists_shaped_of_usable (hbalanced : graph.ledger.Balanced) (hnode : node ∈ graph.nodes)
    (husable : ∀ slot ∈ node.wiring.slots, graph.Usable slot.1 slot.2.constraint)
    (haccepted : ∃ view : Inspection, view.descriptors = node.wiring.refs.map graph.descriptorOf? ∧
      node.kernel.kernel.validate view = .ok ()) :
    ∃ shape, graph.Shaped node shape ∧ node.kernel.kernel.Accepts shape := by
  have hmem : node.wiring ∈ graph.ledger.wirings := List.mem_map_of_mem hnode
  have hcomplete : node.refs.length = node.signature.parameters.length :=
    hbalanced.complete _ hmem
  obtain ⟨shape, hparameters, hdescriptors, hshape⟩ := exists_shape husable
  refine ⟨shape, ⟨?_, fun i binding bound hbinding hbound ↦ ?_⟩, ?_⟩
  · have hbindings : node.bindings.length = node.wiring.slots.length := by
      rw [Node.bindings, List.length_map, List.length_zipIdx]
      rfl
    rw [hbindings, ← List.length_map Prod.snd, ← hparameters, List.length_map]
  · rw [node.getElem?_bindings] at hbinding
    obtain ⟨slot, hslot, rfl⟩ := Option.map_eq_some_iff.1 hbinding
    have hparameter := congrArg (·[i]?) hparameters
    have hdescriptor := congrArg (·[i]?) hdescriptors
    simp only [List.getElem?_map, hslot, hbound, Option.map_some, Option.some.injEq]
      at hparameter hdescriptor
    exact ⟨congrArg Parameter.direction hparameter.symm, hdescriptor.symm, _,
      husable slot (List.mem_of_getElem? hslot)⟩
  · obtain ⟨view, hview, hvalid⟩ := haccepted
    refine ⟨hparameters.trans (List.map_snd_zip (Nat.le_of_eq hcomplete.symm)), hshape, view, ?_,
      hvalid⟩
    have hrefs : node.wiring.slots.map Prod.fst = node.wiring.refs :=
      List.map_fst_zip (Nat.le_of_eq hcomplete)
    calc view.descriptors
        = node.wiring.refs.map graph.descriptorOf? := hview
      _ = node.wiring.slots.map fun slot ↦ graph.descriptorOf? slot.1 := by
        rw [← hrefs, List.map_map]
        rfl
      _ = shape.map fun bound ↦ some bound.2 := hdescriptors.symm

/-- The kernel of a node of a prepared graph has accepted the shapes of its slots. -/
theorem Prepared.exists_shaped (h : graph.Prepared filter) (hnode : node ∈ graph.nodes) :
    ∃ shape, graph.Shaped node shape ∧ node.kernel.kernel.Accepts shape := by
  have hmem : node.wiring ∈ graph.ledger.wirings := List.mem_map_of_mem hnode
  exact exists_shaped_of_usable h.balanced hnode (h.usable _ hmem)
    (h.accepted _ hmem _ (h.standard node hnode) rfl)

/-- Memory that holds, for every object a node is bound to, a payload of the object's shape. -/
def Supplies (graph : Graph) (memory : Memory) (node : Node) : Prop :=
  ∀ binding ∈ node.bindings, ∃ descriptor ∈ graph.descriptorOf? binding.ref,
    ∃ payload ∈ memory binding.ref.id, payload.Matches descriptor

instance (graph : Graph) (memory : Memory) (node : Node) : Decidable (graph.Supplies memory node) :=
  inferInstanceAs (Decidable (∀ binding ∈ node.bindings,
    ∃ descriptor ∈ graph.descriptorOf? binding.ref,
      ∃ payload ∈ memory binding.ref.id, payload.Matches descriptor))

/-- What a node is shown of such memory fits. -/
theorem Shaped.fits_of_supplies {shape : List (Parameter × Descriptor)} {memory : Memory}
    (h : graph.Shaped node shape) (hmemory : graph.Supplies memory node) :
    (node.access memory).Fits shape := by
  refine ⟨(List.length_map _).trans h.length_eq, fun i s bound hs hbound ↦ ?_⟩
  rw [show (node.access memory).slots[i]? = _ from List.getElem?_map] at hs
  obtain ⟨binding, hbinding, rfl⟩ := Option.map_eq_some_iff.1 hs
  obtain ⟨hdirection, hdescriptor, -⟩ := h.slots i binding bound hbinding hbound
  obtain ⟨descriptor, hfound, payload, hpayload, hmatches⟩ :=
    hmemory binding (List.mem_of_getElem? hbinding)
  cases hdescriptor.symm.trans hfound
  exact ⟨congrArg Direction.writes hdirection, payload, hpayload, hmatches⟩

/-- A run shows a node slots that fit. -/
theorem Shaped.fits {shape : List (Parameter × Descriptor)} (h : graph.Shaped node shape)
    (hfitting : graph.EveryObject DataObject.Fits) :
    (node.access graph.arena.memory).Fits shape := by
  refine h.fits_of_supplies fun binding hbinding ↦ ?_
  obtain ⟨i, hi, rfl⟩ := List.mem_iff_getElem.1 hbinding
  have hbound := List.getElem?_eq_getElem (h.length_eq ▸ hi)
  obtain ⟨-, hdescriptor, _, husable⟩ := h.slots i _ _ (List.getElem?_eq_getElem hi) hbound
  obtain ⟨payload, hpayload, hmatches⟩ := husable.exists_matches hfitting hdescriptor
  exact ⟨_, hdescriptor, payload, hpayload, hmatches⟩

/-- Whatever its payloads are, a node of a prepared graph ends well if the filter keeps sizes. -/
theorem Prepared.endsWell (h : graph.Prepared filter) (hfilter : filter.KeepsSize)
    (hnode : node ∈ graph.nodes) :
    node.kernel.kernel.EndsWell (node.access graph.arena.memory) := by
  obtain ⟨shape, hshaped, haccepts⟩ := h.exists_shaped hnode
  obtain ⟨-, ⟨answer, hanswer, -⟩ | hverdict⟩ :=
    Kernels.reliable_of_mem_standard hfilter (h.standard node hnode) shape haccepts _
      (hshaped.fits h.fitting)
  · exact .inl hanswer
  · exact .inr hverdict

/-- Whatever its payloads are, a node of a prepared graph leaves payloads that fit. -/
theorem Prepared.matches_of_execute (h : graph.Prepared filter) (hnode : node ∈ graph.nodes)
    {i : Nat} {binding : Binding} {s : Slot} {payload : Payload}
    (hbinding : node.bindings[i]? = some binding)
    (hs : (node.kernel.kernel.execute (node.access graph.arena.memory)).2.slots[i]? = some s)
    (hpayload : s.payload = some payload) :
    ∃ descriptor, graph.descriptorOf? binding.ref = some descriptor ∧
      payload.Matches descriptor := by
  obtain ⟨shape, hshaped, haccepts⟩ := h.exists_shaped hnode
  have hleft := Kernels.keepsFit_of_mem_standard (h.standard node hnode) shape haccepts _
    (hshaped.fits h.fitting)
  obtain ⟨hi, -⟩ := List.getElem?_eq_some_iff.1 hbinding
  have hbound := List.getElem?_eq_getElem (hshaped.length_eq ▸ hi)
  obtain ⟨-, hdescriptor, -⟩ := hshaped.slots i binding _ hbinding hbound
  obtain ⟨held, hheld, hmatches⟩ := (hleft.slots i s _ hs hbound).payload
  cases hheld.symm.trans hpayload
  exact ⟨_, hdescriptor, hmatches⟩

/-- A payload that has the shape of an object. -/
def Suits (graph : Graph) (data : DataId) (payload : Payload) : Prop :=
  ∃ object descriptor, graph.arena.byId? data = some object ∧
    object.descriptor? = some descriptor ∧ payload.Matches descriptor

/-- Objects whose payloads may have been overwritten fit if all payloads suit them. -/
theorem fits_of_suits (hran : before.Ran after) (hfitting : before.EveryObject DataObject.Fits)
    (hsuits : ∀ data payload, after.arena.memory data = some payload → before.Suits data payload) :
    after.EveryObject DataObject.Fits := by
  intro data object hobject
  obtain ⟨origin, horigin, hrel⟩ := hran.arena.of_some hobject
  have hdescriptor : object.descriptor? = origin.descriptor? := by
    rw [DataObject.descriptor?, hrel.steady.state_eq, DataObject.descriptor?]
  have hheld (payload : Payload) (hpayload : object.payload = some payload) :
      ∃ descriptor, object.descriptor? = some descriptor ∧ payload.Matches descriptor := by
    have hlive : after.arena.memory data = some payload := by
      rw [Arena.memory, hobject]
      exact hpayload
    obtain ⟨found, descriptor, hfound, hshape, hmatches⟩ := hsuits data payload hlive
    cases horigin.symm.trans hfound
    exact ⟨descriptor, hdescriptor.trans hshape, hmatches⟩
  constructor
  · rw [hdescriptor]
    exact (hfitting data origin horigin).possible
  · intro hnone
    cases hpayload : object.payload with
    | none => rfl
    | some payload =>
      obtain ⟨descriptor, hshape, -⟩ := hheld payload hpayload
      cases hnone.symm.trans hshape
  · intro descriptor payload hshape hpayload
    obtain ⟨found, hfound, hmatches⟩ := hheld payload hpayload
    cases hshape.symm.trans hfound
    exact hmatches

/-- If what a node leaves goes back, memory fits as before. -/
theorem Prepared.fitting_of_leave (h : before.Prepared filter) (hran : before.Ran after)
    (hnode : node ∈ before.nodes)
    (hmemory : after.arena.memory = node.leave before.arena.memory) :
    after.EveryObject DataObject.Fits := by
  refine fits_of_suits hran h.fitting fun data payload hpayload ↦ ?_
  rw [hmemory] at hpayload
  apply @Memory.forall_putBackAll _ before.Suits ?_ _ _ _ ?_ data payload hpayload
  · intro other held hheld
    obtain ⟨object, hobject, hheld⟩ := Option.bind_eq_some_iff.1 hheld
    obtain ⟨descriptor, hdescriptor, hmatches⟩ :=
      (h.fitting other object hobject).exists_matches hheld
    exact ⟨object, descriptor, hobject, hdescriptor, hmatches⟩
  · intro i binding s held hbinding hs hheld
    obtain ⟨descriptor, hdescriptor, hmatches⟩ :=
      h.matches_of_execute hnode hbinding hs hheld
    obtain ⟨object, hobject, hshape⟩ := exists_of_descriptorOf? hdescriptor
    exact ⟨object, descriptor, (Arena.get_eq_ok_iff.1 hobject).2, hshape, hmatches⟩

/-! ## Runs -/

variable {id : NodeId} {options : RunOptions} {watch : Stopwatch}

/-- Every run of a kernel that events tell of has ended well. -/
def EndedWell (graph : Graph) (events : List Event) : Prop :=
  ∀ id access notes, Event.kernel id (.execute access) notes ∈ events →
    ∃ node, graph.node? id = some node ∧ node.kernel.kernel.EndsWell access

/-- Runs leave nodes their kernels. -/
theorem Ran.exists_node? (h : before.Ran after) (hnode : after.node? id = some node) :
    ∃ origin, before.node? id = some origin ∧ origin.kernel = node.kernel := by
  have hsame := h.map_fixed_node? id
  rw [hnode, Option.map_some] at hsame
  obtain ⟨origin, horigin, heq⟩ := Option.map_eq_some_iff.1 hsame.symm
  have hkernel : origin.fixed.kernel = node.fixed.kernel := by rw [heq]
  exact ⟨origin, horigin, hkernel⟩

theorem mem_events_executeNode (hnode : run.graph.node? id = some node)
    (hlive : ∀ binding ∈ node.bindings, ∃ object, run.graph.arena.get binding.ref = .ok object)
    {event : Event} (h : event ∈ (executeNode options watch id run).2.events) :
    event ∈ run.events ∨ event = .callback node.id ∨
      event = node.kernel.kernel.event node.id (.execute (node.access run.graph.arena.memory)) := by
  have hkernel (hevent : event ∈ (afterKernel node run).events) : event ∈ run.events ∨
      event = .callback node.id ∨
        event = node.kernel.kernel.event node.id
          (.execute (node.access run.graph.arena.memory)) := by
    rcases List.mem_append.1 hevent with hold | hnew
    · exact .inl hold
    · exact .inr (.inr (List.mem_singleton.1 hnew))
  rw [executeNode_eq options watch hnode hlive] at h
  split at h
  · exact hkernel h
  · exact hkernel h
  · obtain ⟨-, -, -, hevents, -⟩ := askCallback_spec node
      ((afterKernel node run).modifyGraph (recordNode options watch node.id))
    have hevent : event ∈ (askCallback node
        ((afterKernel node run).modifyGraph (recordNode options watch node.id))).2.events := by
      unfold finishNode at h
      dsimp only at h
      split at h <;> exact h
    rw [hevents] at hevent
    rcases List.mem_append.1 hevent with hold | hnew
    · exact hkernel hold
    · split at hnew
      · exact .inr (.inl (List.mem_singleton.1 hnew))
      · cases hnew

theorem standardStop_executeNode (hnode : run.graph.node? id = some node)
    (hlive : ∀ binding ∈ node.bindings, ∃ object, run.graph.arena.get binding.ref = .ok object)
    (hends : node.kernel.kernel.EndsWell (node.access run.graph.arena.memory))
    {stop : Stop ProcessError} (h : (executeNode options watch id run).1 = .error stop) :
    StandardStop stop := by
  rw [executeNode_eq options watch hnode hlive] at h
  rcases hends with hok | ⟨e, he, hverdict⟩
  · rw [hok] at h
    dsimp only [finishNode] at h
    split at h
    · cases h
      exact .abandoned node.id
    · cases h
  · rw [he] at h
    cases h
    exact hverdict.standardStop node.id

/-- What a run of a prepared graph keeps: the graph stays prepared, and all kernels have ended well
if the filter keeps sizes. -/
structure KeptPrepared (graph : Graph) (filter : BoxFilter) (run : RunState) : Prop where
  ran : graph.Ran run.graph
  prepared : run.graph.Prepared filter
  events : filter.KeepsSize → graph.EndedWell run.events

theorem keptPrepared_executeNode (hid : id ∈ graph.nodeIds) :
    Dispatch.Keeps (graph.KeptPrepared filter) (fun stop ↦ filter.KeepsSize → StandardStop stop)
      (executeNode options watch id) := by
  intro run hrun
  have hledger := hrun.ran.worked.ledger_eq
  have hbalanced : graph.ledger.Balanced := hledger ▸ hrun.prepared.balanced
  obtain ⟨node, hnode, hlive⟩ := exists_node hbalanced hledger hid
  have hmem : node ∈ run.graph.nodes := List.mem_of_find?_eq_some hnode
  have hran := ran_executeNode options watch id run
  have hexecuted := executed_executeNode options watch hnode hlive
  have hfitting := hrun.prepared.fitting_of_leave hran hmem hexecuted.memory_eq
  refine ⟨⟨hrun.ran.trans hran, hrun.prepared.ran hran hfitting, ?_⟩,
    fun stop hstop hfilter ↦
      standardStop_executeNode hnode hlive (hrun.prepared.endsWell hfilter hmem) hstop⟩
  intro hfilter other access notes hevent
  rcases mem_events_executeNode hnode hlive hevent with hold | hcallback | hkernel
  · exact hrun.events hfilter other access notes hold
  · cases hcallback
  · obtain ⟨origin, horigin, hsame⟩ := hrun.ran.exists_node? hnode
    cases hkernel
    obtain rfl : node.id = id := id_of_node? hnode
    exact ⟨origin, horigin, hsame ▸ hrun.prepared.endsWell hfilter hmem⟩

/-- A run of a prepared graph that has a plan. -/
theorem Prepared.keptPrepared {plan : Plan} (h : graph.Prepared filter)
    (hplanned : graph.Planned plan) (options : RunOptions) (watch : Stopwatch) :
    let ran := Dispatch.run options plan (executeNode options watch)
      { graph, events := [], completed := 0 }
    graph.KeptPrepared filter ran.2 ∧
      ∀ stop, ran.1 = .error stop → filter.KeepsSize → StandardStop stop := by
  obtain ⟨hsequence, -⟩ := hplanned.sequence_spec h.balanced
    (List.forall₂_same.2 fun ids _ ↦ List.Perm.refl ids) options
  refine Dispatch.keeps_run (fun id hid ↦ keptPrepared_executeNode (hsequence.mem_iff.1 hid)) _ ?_
  exact ⟨.refl graph, h, fun _ _ _ _ hevent ↦ nomatch hevent⟩

end Graph

end ImageFlow
