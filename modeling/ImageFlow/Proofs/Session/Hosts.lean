import ImageFlow.Proofs.Session.Seats
import ImageFlow.Proofs.Verification.Defects
import ImageFlow.Proofs.Verification.Repetition
import ImageFlow.Proofs.Verification.Targets

/-!
# Verification finds a host for every node

In a context that has come about in the ordinary way every registered kernel has a host, and a
configured policy chooses a host if it chooses anything. A node that was assigned to a target can
run there; the others are left to the policy. So a plan sends no node to a target that is not there
or does not host its kernel, and the policy that takes the lowest index is never at a loss for a
node whose kernel is registered.
-/

namespace ImageFlow

/-- The targets of a context host its kernels, and its policy is a configured one that chooses among
them. -/
structure Context.Hosting (context : Context) (policy : TargetPolicy) : Prop
    extends context.registry.HostedOn context.targets where
  assign_iff : ∀ name index,
    context.assign name = some index ↔ policy.Chooses context.targets name index

theorem Registry.HostedOn.hosting {context : Context} {policy : TargetPolicy}
    (h : context.registry.HostedOn context.targets) (hpolicy : context.policy = policy.toPolicy) :
    context.Hosting policy where
  toHostedOn := h
  assign_iff name index := by
    rw [Context.assign, hpolicy]
    exact TargetPolicy.assign_eq_some_iff h.names_nodup policy

namespace Graph

variable {graph : Graph} {context : Context} {named : List NodeId}

/-- The target on which the graph lets a node run hosts the kernel of the node. -/
theorem Seated.hostsAt_of_destination? (h : graph.Seated context named) {policy : TargetPolicy}
    (hhosting : context.Hosting policy) {node : Node} (hnode : node ∈ graph.nodes) {index : Nat}
    (hindex : graph.destination? node = some index) :
    Target.HostsAt context.targets node.kernelName index := by
  rw [destination?, h.context_eq] at hindex
  cases haffinity : node.affinity with
  | some target =>
    rw [haffinity] at hindex
    cases hindex
    exact h.hosted node.seat (List.mem_map_of_mem hnode) index haffinity
  | none =>
    rw [haffinity] at hindex
    exact ((hhosting.assign_iff node.kernelName index).1 hindex).hostsAt

/-- A node whose kernel is registered does not want for a target. -/
theorem Seated.assign_ne_none (h : graph.Seated context named)
    (hhosting : context.Hosting .lowestIndex) {node : Node} (hnode : node ∈ graph.nodes)
    (hnamed : node.id ∈ named) : context.assign node.kernelName ≠ none := by
  have hregistered := h.registered node.seat (List.mem_map_of_mem hnode) hnamed
  obtain ⟨host, hhost⟩ := hhosting.hosted node.kernelName hregistered
  obtain ⟨index, hchosen⟩ := TargetPolicy.exists_lowestIndex_chooses hhost
  rw [(hhosting.assign_iff node.kernelName index).2 hchosen]
  exact Option.some_ne_none index

theorem Seated.not_names_noTarget (h : graph.Seated context named)
    (hhosting : context.Hosting .lowestIndex) (hnamed : ∀ node ∈ graph.nodes, node.id ∈ named)
    {id : NodeId} {kernel : String} : ¬ (VerifyError.noTarget id kernel).Names graph := by
  rintro ⟨node, hnode, rfl, -, hassign⟩
  rw [h.context_eq] at hassign
  have hmem : node ∈ graph.nodes := List.mem_of_find?_eq_some hnode
  exact h.assign_ne_none hhosting hmem (hnamed node hmem) hassign

/-- Every node of a plan runs on a target that hosts its kernel. -/
theorem Seated.hosts_of_verification (h : graph.Seated context named) {policy : TargetPolicy}
    (hhosting : context.Hosting policy) (hbalanced : graph.ledger.Balanced)
    (hsettled : graph.Settled) {verified : VerificationResult} {plan : Plan}
    (hverified : graph.StandardVerification verified) (hplan : verified.graph.plan = some plan)
    {node : Node} (hnode : node ∈ verified.graph.nodes) :
    ∃ index, plan.target? node.id = some index ∧
      (node.affinity <|> context.assign node.kernelName) = some index ∧
      Target.HostsAt context.targets node.kernelName index := by
  rw [hverified.eq hsettled] at hplan hnode
  have hnodes : (graph.verifyWith Stage.standard).graph.nodes = graph.nodes :=
    nodes_runStages (fun _ ↦ Stage.redrafts_of_mem_standard) graph.invalidate
  rw [hnodes] at hnode
  obtain ⟨index, hdestination, htarget⟩ :=
    @exists_target_of_runStages graph.invalidate plan hbalanced hplan node hnode
  have hindex : graph.destination? node = some index := hdestination
  refine ⟨index, htarget, ?_, h.hostsAt_of_destination? hhosting hnode hindex⟩
  rw [← h.context_eq]
  exact hindex

end Graph

namespace Move

/-- In every context that is built under a configured policy, and in which further kernels are
registered as long as their names are new, the default target is first of targets with different
names, every registered kernel has a host, and the policy chooses what it is to choose. In every
graph of the context a policy that takes the lowest index finds a target for every node that was
added by name, and in every plan every node is sent where it was assigned, or else where the policy
chooses, and can run there. -/
theorem hosted_applyAll (spec : ContextSpec) (policy : TargetPolicy) {built : Context}
    (hbuilt : Context.build { spec with policy := policy.toPolicy } = .ok built)
    (kernels : List Kernel) :
    let context := built.registerEach kernels
    context.Hosting policy ∧ ∀ (id : GraphId) (moves : List Move),
      let graph := applyAll (.empty id context) moves
      (policy = .lowestIndex → (∀ node ∈ graph.nodes, node.id ∈ named (.empty id context) moves) →
        ∀ verification, verification = Graph.verify ∨
            verification = (Graph.verifyWith · Stage.standard) →
          ∀ node kernel, (verification graph).result ≠ .error (.failed (.noTarget node kernel))) ∧
      ∀ verified plan, graph.StandardVerification verified → verified.graph.plan = some plan →
        ∀ node ∈ verified.graph.nodes, ∃ index, plan.target? node.id = some index ∧
          (node.affinity <|> context.assign node.kernelName) = some index ∧
          Target.HostsAt context.targets node.kernelName index := by
  intro context
  obtain ⟨hbuiltHosted, hbuiltPolicy⟩ := Context.hostedOn_build hbuilt
  obtain ⟨hhosted, hsame⟩ := Context.hostedOn_registerEach hbuiltHosted kernels
  have hpolicy : context.policy = policy.toPolicy := hsame.trans hbuiltPolicy
  have hhosting : context.Hosting policy := hhosted.hosting hpolicy
  refine ⟨hhosting, fun id moves ↦ ?_⟩
  intro graph
  have hempty := Graph.accurate_empty id context
  have hbalanced : graph.ledger.Balanced := (accurate_applyAll hempty moves).balanced
  have hsound := soundObjects_applyAll (Graph.soundObjects_empty id context) hempty moves
  have hsuited := suited_applyAll (Graph.suited_empty id context)
    (Graph.soundObjects_empty id context) hempty moves
  have hsettled : graph.Settled := settled_applyAll (Call.settled_empty id context) moves
  have hseated := seated_applyAll (Graph.seated_empty id context) hempty hhosted moves
  constructor
  · rintro rfl hnamed verification hverification node kernel hfailed
    exact hseated.not_names_noTarget hhosting hnamed
      (hsettled.names_of_verification hbalanced hsound hsuited hverification hfailed)
  · intro verified plan hverified hplan node hnode
    exact hseated.hosts_of_verification hhosting hbalanced hsettled hverified hplan hnode

/-- A context in which a second target hosts a kernel that the default one does not. -/
def fastSpec : ContextSpec :=
  { standardKernels := false
    targets := [.empty "example.fast"]
    kernels := [(Kernels.copyImage, some "example.fast")]
    policy := TargetPolicy.lowestIndex.toPolicy
    options := .standard }

/-- The context that is built. -/
def fastContext : Context :=
  { registry :=
      { kernels := [("org.khronos.copy_image", { id := ⟨0⟩, kernel := Kernels.copyImage })]
        nextId := 1 }
    targets :=
      [.empty Kernels.defaultTargetName,
        { name := "example.fast", kernels := ["org.khronos.copy_image"] }]
    policy := TargetPolicy.lowestIndex.toPolicy
    options := .standard }

/-- Moves that let an image be copied and the copy be inverted, on a target that is given. -/
def inverting : List Move :=
  let ref (data : Nat) : DataRef := { graph := ⟨0⟩, id := ⟨data⟩ }
  [.operation (.create (.image 1 1 .u8)), .operation .createVirtual, .operation .createVirtual,
    .operation (.addNode "org.khronos.copy_image" [ref 0, ref 1]),
    .operation (.addNode "org.khronos.openvx.not" [ref 1, ref 2]),
    .operation (.assignTarget ⟨1⟩ Kernels.defaultTargetName)]

/-- One kernel is registered in vain, another one on the default target, and each of them runs where
it is hosted. -/
theorem hosted_inverting :
    let context := fastContext.registerEach [Kernels.copyImage, Kernels.bitNot]
    let graph := applyAll (.empty ⟨0⟩ context) inverting
    Context.build fastSpec = .ok fastContext ∧
      (∀ node kernel, graph.verify.result ≠ .error (.failed (.noTarget node kernel))) ∧
      ∃ plan, graph.verify.graph.plan = some plan ∧ plan.targets = [(⟨0⟩, 1), (⟨1⟩, 0)] ∧
        ∀ node ∈ graph.verify.graph.nodes, ∃ index, plan.target? node.id = some index ∧
          (node.affinity <|> context.assign node.kernelName) = some index ∧
          Target.HostsAt context.targets node.kernelName index := by
  intro context graph
  have hbuilt : Context.build fastSpec = .ok fastContext := rfl
  obtain ⟨-, hgraphs⟩ :=
    hosted_applyAll fastSpec .lowestIndex hbuilt [Kernels.copyImage, Kernels.bitNot]
  obtain ⟨hnever, hhosts⟩ := hgraphs ⟨0⟩ inverting
  have hnamed : named (.empty ⟨0⟩ context) inverting = graph.nodeIds := by decide +kernel
  have hmem (node : Node) (hnode : node ∈ graph.nodes) :
      node.id ∈ named (.empty ⟨0⟩ context) inverting := by
    rw [hnamed]
    exact List.mem_map_of_mem hnode
  have htargets : graph.verify.graph.plan.map Plan.targets = some [(⟨0⟩, 1), (⟨1⟩, 0)] := by
    decide +kernel
  obtain ⟨plan, hplan, hplanTargets⟩ := Option.map_eq_some_iff.1 htargets
  have hnone : graph.plan = none := by decide +kernel
  have hverified : graph.StandardVerification graph.verify := .inr ⟨hnone, rfl⟩
  exact ⟨hbuilt, hnever rfl hmem Graph.verify (.inl rfl), plan, hplan, hplanTargets,
    hhosts graph.verify plan hverified hplan⟩

end Move

end ImageFlow
