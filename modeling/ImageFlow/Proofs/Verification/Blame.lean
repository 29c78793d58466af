import ImageFlow.Proofs.Verification.Resolution

/-!
# What errors of a verification are due to

For each part of the standard stages there is one lemma on the errors that it can end with: a
condition holds of every such error if it holds of those that the part raises itself, each for the
reason that it is raised for. The reasons are stated in terms of the graph from which the
verification starts, as far as all drafts of it have them in common.
-/

namespace ImageFlow

open Stateful

/-- An object that lacks a shape does not take one for two reasons only. -/
theorem DataObject.resolve_eq_error {object : DataObject} {descriptor : Descriptor} {e : DataError}
    (hpending : object.state = .pending) (h : object.resolve descriptor = .error e) :
    (∃ fault, descriptor.fault? = some fault ∧ e = .ofSizeFault fault) ∨
      ∃ hint, object.hint = some hint ∧ hint.agreesWith descriptor = false ∧
        e = .typeConflict object.id hint.shown descriptor := by
  unfold resolve at h
  rw [hpending] at h
  dsimp only at h
  split at h
  · next fault hfault => exact .inl ⟨fault, hfault, (Except.error.inj h).symm⟩
  · split at h
    · next hint hhint =>
      split at h
      · cases h
      · next hdisagrees =>
        exact .inr ⟨hint, hhint, Bool.eq_false_iff.2 hdisagrees, (Except.error.inj h).symm⟩
    · cases h

theorem Arena.resolve_of_get {arena : Arena} {ref : DataRef} {object : DataObject}
    {descriptor : Descriptor} (h : arena.get ref = .ok object) :
    arena.resolve ref descriptor =
      (object.resolve descriptor).map fun shaped ↦ arena.set ref.id (some shaped) := by
  rw [resolve, h]
  change (object.resolve descriptor >>= fun shaped ↦ pure (arena.set ref.id (some shaped))) = _
  cases object.resolve descriptor <;> rfl

/-- Only an object without a shape cannot be given memory and go on. -/
theorem DataObject.descriptor?_of_allocate {object : DataObject} {e : DataError}
    (h : object.allocate = .error (.failed e)) : object.descriptor? = none := by
  unfold allocate at h
  split at h
  · next hnone => exact hnone
  · next shape _ =>
    split at h
    · cases h
    · cases hpayload : Payload.allocate? shape with
      | none =>
        rw [hpayload] at h
        cases h
      | some payload =>
        rw [hpayload] at h
        cases h

/-- What the visit of a node can end with: one of the objects that it has to shape has no shape that
the kernel or a hint knows, or does not take the one that was found. -/
inductive Node.Faults (node : Node) (now : Graph) : VerifyError → Prop
  | unknown {binding : Binding} {object : DataObject} (hbinding : binding ∈ node.bindings)
      (hlacks : now.Lacks binding object)
      (hinfers : node.infers? (Verification.inspect now node) binding.slot object = none) :
      node.Faults now (Verification.cannotInfer node binding)
  | refused {binding : Binding} {object : DataObject} {descriptor : Descriptor} {e : DataError}
      (hbinding : binding ∈ node.bindings) (hlacks : now.Lacks binding object)
      (hinfers : node.infers? (Verification.inspect now node) binding.slot object =
        some descriptor)
      (hrefused : object.resolve descriptor = .error e) :
      node.Faults now (Verification.resolveError binding.ref e)

namespace Verification

variable {α β : Type} {Q : VerifyError → Prop} {draft mid : Draft}

/-- Whatever error a part of a verification ends with meets a condition. -/
def Blames (Q : VerifyError → Prop) (part : Verification α) (draft : Draft) : Prop :=
  ∀ e last, part.run draft = (.error (.failed e), last) → Q e

/-! ## Rules -/

theorem blames_pure (a : α) : Blames Q (pure a) draft := by
  intro e last h
  cases h

theorem blames_fail {e : VerifyError} (h : Q e) : Blames Q (fail e : Verification α) draft := by
  intro e' last hfail
  cases hfail
  exact h

theorem blames_bind {first : Verification α} {next : α → Verification β}
    (h : Blames Q first draft)
    (hnext : ∀ a mid, first.run draft = (.ok a, mid) → Blames Q (next a) mid) :
    Blames Q (first >>= next) draft := by
  intro e last hrun
  rw [run_bind] at hrun
  cases hfirst : first.run draft with
  | mk result mid =>
    rw [hfirst] at hrun
    cases result with
    | error stop =>
      cases hrun
      exact h e last hfirst
    | ok a => exact hnext a mid hfirst e last hrun

theorem blames_fail_first {e : VerifyError} {next : α → Verification β} (h : Q e) :
    Blames Q (fail e >>= next) draft := by
  refine blames_bind (blames_fail h) fun a mid hpass ↦ ?_
  cases hpass

/-- A part that begins with a step that passes. -/
theorem blames_after {first : Verification α} {next : α → Verification β} {a : α}
    (hrun : first.run draft = (.ok a, mid)) (hnext : Blames Q (next a) mid) :
    Blames Q (first >>= next) draft := by
  refine blames_bind (fun e last hfail ↦ ?_) fun a' mid' hrun' ↦ ?_
  · rw [hrun] at hfail
    cases hfail
  · rw [hrun] at hrun'
    cases hrun'
    exact hnext

theorem blames_require {result : Except VerifyError Unit} (h : ∀ e, result = .error e → Q e) :
    Blames Q (require result) draft := by
  intro e last hrun
  rw [run_require] at hrun
  cases result with
  | error e' =>
    cases hrun
    exact h e rfl
  | ok _ => cases hrun

/-! ## Giving shapes -/

section Shapes

variable {node : Node} {view : Inspection} {binding : Binding} {bindings : List Binding}
  {shapes : List (DataRef × Descriptor)}

theorem blames_inferSlot (hlive : ∃ object, draft.graph.arena.get binding.ref = .ok object)
    (h : ∀ object, draft.graph.Lacks binding object →
      node.infers? view binding.slot object = none → Q (cannotInfer node binding)) :
    Blames Q (inferSlot node view binding) draft := by
  rw [inferSlot]
  split
  · exact blames_pure none
  · next hdirection =>
    refine blames_after (run_graph draft) ?_
    obtain ⟨object, hobject⟩ := hlive
    rw [hobject]
    dsimp only
    split
    · exact blames_pure none
    · next hshapeless =>
      refine blames_after (run_emit _ draft) ?_
      split
      · exact blames_pure _
      · next hnone =>
        exact blames_fail (h object ⟨not_not.1 hdirection, (Arena.get_eq_ok_iff.1 hobject).2,
          DataObject.pending_iff.2 (Bool.eq_false_iff.2 hshapeless)⟩ hnone)

theorem blames_inferSlots
    (hlive : ∀ binding ∈ bindings, ∃ object, draft.graph.arena.get binding.ref = .ok object)
    (h : ∀ binding ∈ bindings, ∀ object, draft.graph.Lacks binding object →
      node.infers? view binding.slot object = none → Q (cannotInfer node binding)) :
    Blames Q (inferSlots node view bindings) draft := by
  induction bindings generalizing draft with
  | nil => exact blames_pure []
  | cons binding rest ih =>
    obtain ⟨hlive, hlives⟩ := List.forall_mem_cons.1 hlive
    obtain ⟨h, hrest⟩ := List.forall_mem_cons.1 h
    refine blames_bind (blames_inferSlot hlive h) fun found mid hrun ↦ ?_
    have hgraph : mid.graph = draft.graph := by
      have hkept := (kept_inferSlot node view binding draft).graph_eq
      rwa [hrun] at hkept
    rw [← hgraph] at hlives hrest
    exact blames_bind (ih hlives hrest) fun _ _ _ ↦ blames_pure _

theorem blames_resolveAll (hnodup : (shapes.map (·.1.id)).Nodup)
    (hlive : ∀ shape ∈ shapes, ∃ object, draft.graph.arena.get shape.1 = .ok object)
    (h : ∀ shape ∈ shapes, ∀ object, draft.graph.arena.byId? shape.1.id = some object →
      ∀ e, object.resolve shape.2 = .error e → Q (resolveError shape.1 e)) :
    Blames Q (resolveAll shapes) draft := by
  induction shapes generalizing draft with
  | nil => exact blames_pure ()
  | cons shape rest ih =>
    obtain ⟨hnew, hnodup⟩ := List.nodup_cons.1 hnodup
    obtain ⟨⟨object, hobject⟩, hlives⟩ := List.forall_mem_cons.1 hlive
    obtain ⟨h, hrest⟩ := List.forall_mem_cons.1 h
    have hbyId := (Arena.get_eq_ok_iff.1 hobject).2
    rw [resolveAll]
    refine blames_after (run_graph draft) ?_
    rw [Arena.resolve_of_get hobject]
    cases hshaped : object.resolve shape.2 with
    | error e =>
      exact blames_fail_first (h object hbyId e hshaped)
    | ok shaped =>
      refine blames_after (run_setArena _ draft) ?_
      -- The shapes that are left are for other objects, which have not changed.
      have hset {other : DataRef × Descriptor} (hother : other ∈ rest) :
          (draft.graph.arena.set shape.1.id (some shaped)).byId? other.1.id =
            draft.graph.arena.byId? other.1.id := by
        rw [Arena.byId?_set (Arena.index_lt_of_byId? hbyId), if_neg]
        exact fun hsame ↦ hnew (List.mem_map.2 ⟨other, hother, hsame⟩)
      refine ih hnodup (fun other hother ↦ ?_) fun other hother ↦ ?_
      · obtain ⟨found, hfound⟩ := hlives other hother
        obtain ⟨hscope, hlive⟩ := Arena.get_eq_ok_iff.1 hfound
        exact ⟨found, Arena.get_eq_ok_iff.2 ⟨hscope, (hset hother).trans hlive⟩⟩
      · dsimp only
        rw [hset hother]
        exact hrest other hother

/-- The visit of a node ends with one of its faults if it fails. -/
theorem blames_visit (hbalanced : draft.graph.ledger.Balanced) (hnode : node ∈ draft.graph.nodes)
    (h : ∀ e, node.Faults draft.graph e → Q e) :
    Blames Q (inferSlots node (inspect draft.graph node) node.bindings) draft ∧
      ∀ shapes mid, (inferSlots node (inspect draft.graph node) node.bindings).run draft =
          (.ok shapes, mid) →
        Blames Q (resolveAll shapes) mid := by
  have hlive : ∀ binding ∈ node.bindings, ∃ object,
      draft.graph.arena.get binding.ref = .ok object := fun binding hbinding ↦
    Graph.exists_get hbalanced hnode (Node.ref_mem_of_mem_bindings hbinding)
  refine ⟨blames_inferSlots hlive fun binding hbinding object hlacks hnone ↦
    h _ (.unknown hbinding hlacks hnone), fun shapes mid hrun ↦ ?_⟩
  have hgraph : mid.graph = draft.graph := by
    have hkept :=
      (kept_inferSlots node (inspect draft.graph node) node.bindings draft).graph_eq
    rwa [hrun] at hkept
  obtain ⟨-, hmade, hsublist⟩ := of_inferSlots hrun
  have houtputs := Node.nodup_outputs (hbalanced.unaliased _ (List.mem_map_of_mem hnode))
  refine blames_resolveAll (houtputs.sublist hsublist) (fun shape hshape ↦ ?_)
    fun shape hshape object hobject e he ↦ ?_
  · obtain ⟨binding, hbinding, -, -, href, -⟩ := hmade shape hshape
    rw [hgraph, ← href]
    exact hlive binding hbinding
  · obtain ⟨binding, hbinding, lacking, hlacks, href, hinfers⟩ := hmade shape hshape
    rw [hgraph, ← href] at hobject
    cases hlacks.live.symm.trans hobject
    rw [← href]
    exact h _ (.refused hbinding hlacks hinfers he)

/-- A condition holds of the faults of a waiting node when it is visited, as far as a relation
tells what the visits before have made of the graph. -/
def CoversVisits (I : Graph → List NodeId → Prop) (Q : VerifyError → Prop) : Prop :=
  ∀ now node waiting, I now (node.id :: waiting) → node ∈ now.nodes → isReady now node = true →
    now.ledger.Balanced ∧ ∀ e, node.Faults now e → Q e

section Passes

variable {I : Graph → List NodeId → Prop} (hkept : KeptByVisits I) (hcovers : CoversVisits I Q)
include hkept hcovers

theorem blames_resolvePass {ids skipped : List NodeId} (h : I draft.graph (ids ++ skipped)) :
    Blames Q (resolvePass ids) draft := by
  induction ids generalizing draft skipped with
  | nil => exact blames_pure []
  | cons id rest ih =>
    have hskip : Blames Q (resolvePass rest >>= fun others ↦ pure (id :: others)) draft :=
      blames_bind (ih (hkept.perm _ _ _ List.perm_middle.symm h)) fun _ _ _ ↦ blames_pure _
    rw [resolvePass]
    refine blames_after (run_graph draft) ?_
    split
    · exact hskip
    · next node hfound =>
      have hnode : node ∈ draft.graph.nodes := List.mem_of_find?_eq_some hfound
      obtain rfl : node.id = id := Graph.id_of_node? hfound
      split
      · next hready =>
        obtain ⟨hbalanced, hfaults⟩ := hcovers _ node (rest ++ skipped) h hnode hready
        obtain ⟨hinfer, hresolve⟩ := blames_visit hbalanced hnode hfaults
        refine blames_bind hinfer fun shapes mid hrun ↦ ?_
        refine blames_bind (hresolve shapes mid hrun) fun _ visited hvisited ↦ ?_
        exact ih (hkept.visit draft mid visited node (rest ++ skipped) shapes h hnode hready hrun
          hvisited)
      · exact hskip

theorem blames_resolvePasses {passes : Nat} {left : List NodeId} (h : I draft.graph left) :
    Blames Q (resolvePasses passes left) draft := by
  induction passes generalizing left draft with
  | zero => exact blames_pure ()
  | succ passes ih =>
    rw [← List.append_nil left] at h
    rw [resolvePasses]
    refine blames_bind (blames_resolvePass hkept hcovers h) fun still mid hrun ↦ ?_
    obtain ⟨hmid, -⟩ := hkept.resolvePass h hrun
    rw [List.append_nil] at hmid
    split
    · exact ih hmid
    · exact blames_pure ()

/-- The stage ends with a fault of some node, or because the loop has left an object without a
shape that some node is bound to. -/
theorem blames_resolveVirtuals (h : I draft.graph.reset draft.graph.nodeIds)
    (hstuck : ∀ mid, (resolvePasses (draft.graph.nodeIds.length + 1) draft.graph.nodeIds).run
        { draft with graph := draft.graph.reset } = (.ok (), mid) →
      ∀ object ∈ unresolved mid.graph, object.constraints ≠ [] →
        Q (stuckError mid.graph object.id)) :
    Blames Q resolveVirtuals draft := by
  rw [resolveVirtuals]
  refine blames_after (run_graph draft) ?_
  refine blames_after (run_setArena _ draft) ?_
  refine blames_after (run_graph _) ?_
  refine blames_bind (blames_resolvePasses hkept hcovers h) fun _ mid hrun ↦ ?_
  refine blames_after (run_graph mid) ?_
  dsimp only
  split
  · next object hfind =>
    refine blames_after (run_graph mid) ?_
    refine blames_fail (hstuck mid hrun object (List.mem_of_find?_eq_some hfind) ?_)
    simpa using List.find?_some hfind
  · exact blames_pure _

end Passes

end Shapes

/-! ## Crashes -/

/-- A part of a verification that does not crash. -/
def Calm (part : Verification α) : Prop := ∀ draft, (part.run draft).1 ≠ .error .crash

theorem calm_pure (a : α) : Calm (pure a) := fun _ h ↦ nomatch h

theorem calm_fail (e : VerifyError) : Calm (fail e : Verification α) := fun _ h ↦ nomatch h

theorem calm_graph : Calm graph := fun _ h ↦ nomatch h

theorem calm_emit (event : Event) : Calm (emit event) := fun _ h ↦ nomatch h

theorem calm_setArena (arena : Arena) : Calm (setArena arena) := fun _ h ↦ nomatch h

theorem calm_bind {first : Verification α} {next : α → Verification β} (h : Calm first)
    (hnext : ∀ a, Calm (next a)) : Calm (first >>= next) := by
  intro draft hcrash
  rw [run_bind] at hcrash
  have hcalm := h draft
  cases hfirst : first.run draft with
  | mk result mid =>
    rw [hfirst] at hcrash hcalm
    cases result with
    | error stop =>
      cases hcrash
      exact hcalm rfl
    | ok a => exact hnext a mid hcrash

theorem calm_inferSlot (node : Node) (view : Inspection) (binding : Binding) :
    Calm (inferSlot node view binding) := by
  rw [inferSlot]
  split
  · exact calm_pure none
  · refine calm_bind calm_graph fun now ↦ ?_
    split
    · exact calm_fail _
    · split
      · exact calm_pure none
      · refine calm_bind (calm_emit _) fun _ ↦ ?_
        split
        · exact calm_pure _
        · exact calm_fail _

theorem calm_inferSlots (node : Node) (view : Inspection) (bindings : List Binding) :
    Calm (inferSlots node view bindings) := by
  induction bindings with
  | nil => exact calm_pure []
  | cons binding rest ih =>
    exact calm_bind (calm_inferSlot node view binding) fun _ ↦ calm_bind ih fun _ ↦ calm_pure _

theorem calm_resolveAll (shapes : List (DataRef × Descriptor)) : Calm (resolveAll shapes) := by
  induction shapes with
  | nil => exact calm_pure ()
  | cons shape rest ih =>
    rw [resolveAll]
    refine calm_bind calm_graph fun now ↦ ?_
    split
    · exact calm_bind (calm_fail _) fun _ ↦ ih
    · exact calm_bind (calm_setArena _) fun _ ↦ ih

theorem calm_resolvePass (ids : List NodeId) : Calm (resolvePass ids) := by
  induction ids with
  | nil => exact calm_pure []
  | cons id rest ih =>
    rw [resolvePass]
    refine calm_bind calm_graph fun now ↦ ?_
    split
    · exact calm_bind ih fun _ ↦ calm_pure _
    · split
      · exact calm_bind (calm_inferSlots _ _ _) fun _ ↦ calm_bind (calm_resolveAll _) fun _ ↦ ih
      · exact calm_bind ih fun _ ↦ calm_pure _

theorem calm_resolvePasses (passes : Nat) (left : List NodeId) :
    Calm (resolvePasses passes left) := by
  induction passes generalizing left with
  | zero => exact calm_pure ()
  | succ passes ih =>
    rw [resolvePasses]
    refine calm_bind (calm_resolvePass left) fun still ↦ ?_
    split
    · exact ih still
    · exact calm_pure ()

/-- The first stage allocates no memory, so it cannot run out of it. -/
theorem calm_resolveVirtuals : Calm resolveVirtuals := by
  rw [resolveVirtuals]
  refine calm_bind calm_graph fun before ↦ calm_bind (calm_setArena _) fun _ ↦ ?_
  refine calm_bind calm_graph fun start ↦ calm_bind (calm_resolvePasses _ _) fun _ ↦ ?_
  refine calm_bind calm_graph fun now ↦ ?_
  dsimp only
  split
  · exact calm_bind calm_graph fun _ ↦ calm_fail _
  · exact calm_pure _

/-! ## Checking slots -/

/-- A slot check fails at a slot whose object has no shape, or one that the slot refuses. -/
theorem checkSlots_eq_error {graph : Graph} {node : Node} {entries : List (Binding × Parameter)}
    {e : VerifyError} (h : checkSlots graph node entries = .error e) :
    ∃ entry ∈ entries, graph.descriptorOf? entry.1.ref = none ∨
      ∃ descriptor, graph.descriptorOf? entry.1.ref = some descriptor ∧
        entry.2.constraint.accepts descriptor = false ∧
        e = .parameterTypeMismatch node.id entry.1.slot entry.2.constraint descriptor := by
  induction entries with
  | nil => cases h
  | cons first rest ih =>
    rw [checkSlots] at h
    split at h
    · next hnone => exact ⟨first, List.mem_cons_self, .inl hnone⟩
    · next descriptor hdescriptor =>
      split at h
      · obtain ⟨entry, hentry, hcause⟩ := ih h
        exact ⟨entry, List.mem_cons_of_mem _ hentry, hcause⟩
      · next hrefuses =>
        exact ⟨first, List.mem_cons_self, .inr ⟨descriptor, hdescriptor,
          Bool.eq_false_iff.2 hrefuses, (Except.error.inj h).symm⟩⟩

theorem blames_checkNodes {nodes : List Node}
    (hslots : ∀ node ∈ nodes, ∀ e,
      checkSlots draft.graph node (node.bindings.zip node.signature.parameters) = .error e → Q e)
    (hvalidate : ∀ node ∈ nodes, ∀ e,
      node.kernel.kernel.validate (inspect draft.graph node) = .error e →
        Q (.invalidParameters node.id node.kernelName e.message)) :
    Blames Q (checkNodes nodes) draft := by
  induction nodes generalizing draft with
  | nil => exact blames_pure ()
  | cons node rest ih =>
    obtain ⟨hslots, hslotsRest⟩ := List.forall_mem_cons.1 hslots
    obtain ⟨hvalidate, hvalidateRest⟩ := List.forall_mem_cons.1 hvalidate
    rw [checkNodes]
    refine blames_after (run_graph draft) ?_
    refine blames_bind (blames_require hslots) fun _ mid hrun ↦ ?_
    obtain rfl : draft = mid := (Prod.mk.inj hrun).2
    refine blames_after (run_emit _ draft) ?_
    split
    · next e he => exact blames_fail (hvalidate e he)
    · exact ih hslotsRest hvalidateRest

theorem blames_checkParameters
    (hslots : ∀ node ∈ draft.graph.nodes, ∀ e,
      checkSlots draft.graph node (node.bindings.zip node.signature.parameters) = .error e → Q e)
    (hvalidate : ∀ node ∈ draft.graph.nodes, ∀ e,
      node.kernel.kernel.validate (inspect draft.graph node) = .error e →
        Q (.invalidParameters node.id node.kernelName e.message)) :
    Blames Q checkParameters draft := by
  rw [checkParameters]
  refine blames_after (run_graph draft) ?_
  exact blames_bind (blames_checkNodes hslots hvalidate) fun _ _ _ ↦ blames_pure _

/-! ## Finding the order -/

theorem blames_checkTopology (hsingle : ∀ e, draft.graph.checkSingleWriter = .error e → Q e)
    (horder : ∀ e, draft.graph.topologicalOrder = .error e → Q e) :
    Blames Q checkTopology draft := by
  rw [checkTopology]
  refine blames_after (run_graph draft) ?_
  refine blames_bind (blames_require hsingle) fun _ mid _ ↦ ?_
  dsimp only
  cases hfound : draft.graph.topologicalOrder with
  | error e => exact blames_fail_first (horder e hfound)
  | ok order =>
    refine blames_after (run_modifyPlan _ mid) ?_
    split <;> exact blames_pure _

/-! ## Planning -/

theorem blames_assignTargets {ids : List NodeId}
    (h : ∀ id node, draft.graph.node? id = some node →
      (node.affinity <|> draft.graph.context.assign node.kernelName) = none →
        Q (.noTarget id node.kernelName)) :
    Blames Q (assignTargets ids) draft := by
  induction ids generalizing draft with
  | nil => exact blames_pure ()
  | cons id rest ih =>
    rw [assignTargets]
    refine blames_after (run_graph draft) ?_
    split
    · exact ih h
    · next node hfound =>
      split
      · next hnone => exact blames_fail (h id node hfound hnone)
      · refine blames_after (run_modifyPlan _ draft) ?_
        exact ih h

theorem blames_planObjects {spans : List (DataId × Nat × Nat)}
    (hshaped : ∀ span ∈ spans, ∀ object, draft.graph.arena.byId? span.1 = some object →
      object.descriptor? ≠ none) : Blames Q (planObjects spans) draft := by
  induction spans generalizing draft with
  | nil => exact blames_pure ()
  | cons span rest ih =>
    obtain ⟨hshaped, hrest⟩ := List.forall_mem_cons.1 hshaped
    rw [planObjects]
    refine blames_after (run_graph draft) ?_
    dsimp only
    split
    · exact ih hrest
    · next object hobject =>
      split
      · intro e last hcrash
        cases hcrash
      · next e he =>
        exact absurd (DataObject.descriptor?_of_allocate he) (hshaped object hobject)
      · next allocated fresh hallocate =>
        refine blames_after (run_setArena _ draft) ?_
        refine blames_after (run_modifyPlan _ _) ?_
        refine ih fun later hlater found hfound ↦ ?_
        dsimp only at hfound
        rw [Arena.byId?_set (Arena.index_lt_of_byId? hobject)] at hfound
        split at hfound
        · obtain rfl : allocated = found := Option.some.inj hfound
          rw [DataObject.Allocated.descriptor?_eq _ _
            (DataObject.allocated_of_allocate hallocate).1]
          exact hshaped object hobject
        · exact hrest later hlater found hfound

theorem blames_planMemory
    (hshaped : ∀ data ∈ (lifetimes draft.graph draft.plan.order).map Prod.fst, ∀ object,
      draft.graph.arena.byId? data = some object → object.descriptor? ≠ none) :
    Blames Q planMemory draft := by
  rw [planMemory]
  refine blames_after (run_graph draft) ?_
  refine blames_after (run_get draft) ?_
  refine blames_bind (blames_planObjects (List.forall_mem_map.1 hshaped)) fun _ mid _ ↦ ?_
  intro e last hrun
  rw [run_modifyPlan] at hrun
  cases hrun

theorem blames_prepareNodes {ids : List NodeId}
    (h : ∀ id node, draft.graph.node? id = some node → ∀ e,
      node.kernel.kernel.prepare (inspect draft.graph node) = .error e →
        Q (.preparationFailed id node.kernelName e.message)) :
    Blames Q (prepareNodes ids) draft := by
  induction ids generalizing draft with
  | nil => exact blames_pure ()
  | cons id rest ih =>
    rw [prepareNodes]
    refine blames_after (run_graph draft) ?_
    split
    · exact ih h
    · next node hfound =>
      refine blames_after (run_emit _ draft) ?_
      split
      · next e he => exact blames_fail (h id node hfound e he)
      · exact ih h

theorem blames_makePlan
    (htargets : ∀ id node, draft.graph.node? id = some node →
      (node.affinity <|> draft.graph.context.assign node.kernelName) = none →
        Q (.noTarget id node.kernelName))
    (hshaped : ∀ data ∈ (lifetimes draft.graph draft.plan.order).map Prod.fst, ∀ object,
      draft.graph.arena.byId? data = some object → object.descriptor? ≠ none)
    (hprepare : ∀ now, draft.graph.Revised DataObject.Allocated now → ∀ id node,
      now.node? id = some node → ∀ e,
        node.kernel.kernel.prepare (inspect now node) = .error e →
          Q (.preparationFailed id node.kernelName e.message)) :
    Blames Q makePlan draft := by
  rw [makePlan]
  refine blames_after (run_get draft) ?_
  refine blames_bind (blames_assignTargets htargets) fun _ assigned hassign ↦ ?_
  have hgraph := graph_assignTargets draft.plan.order draft
  have horder := order_assignTargets draft.plan.order draft
  rw [hassign] at hgraph horder
  dsimp only at hgraph horder
  refine blames_bind (blames_planMemory (by rwa [hgraph, horder])) fun _ planned hplan ↦ ?_
  have hallocated := allocated_planMemory assigned
  rw [hplan, Draft.Allocated, hgraph] at hallocated
  exact blames_bind (blames_prepareNodes (hprepare _ hallocated)) fun _ _ _ ↦ blames_pure _

/-! ## The stages after the first -/

/-- The stages after the first all look at the graph that the first one has left. -/
theorem blames_rest {report : VerifyReport}
    (hslots : ∀ node ∈ draft.graph.nodes, ∀ e,
      checkSlots draft.graph node (node.bindings.zip node.signature.parameters) = .error e → Q e)
    (hvalidate : ∀ node ∈ draft.graph.nodes, ∀ e,
      node.kernel.kernel.validate (inspect draft.graph node) = .error e →
        Q (.invalidParameters node.id node.kernelName e.message))
    (hsingle : ∀ e, draft.graph.checkSingleWriter = .error e → Q e)
    (horder : ∀ e, draft.graph.topologicalOrder = .error e → Q e)
    (hplan : ∀ ordered : Draft, ordered.graph = draft.graph → Blames Q makePlan ordered) :
    Blames Q (Stage.runAll report [.parameters, .topology, .planning]) draft := by
  simp only [Stage.runAll]
  refine blames_bind (blames_checkParameters hslots hvalidate) fun _ checked hcheck ↦ ?_
  have hchecked : checked.graph = draft.graph := by
    have hkept := (kept_checkParameters draft).graph_eq
    rwa [show checkParameters.run _ = _ from hcheck] at hkept
  refine blames_bind (blames_checkTopology ?_ ?_) fun _ ordered hsort ↦ ?_
  · rwa [hchecked]
  · rwa [hchecked]
  have hordered : ordered.graph = draft.graph := by
    have hkept := graph_checkTopology checked
    rw [show checkTopology.run _ = _ from hsort] at hkept
    exact hkept.trans hchecked
  exact blames_bind (hplan ordered hordered) fun _ _ _ ↦ blames_pure _

/-- What the stages can end with is what the verification fails with. -/
theorem of_runStages_failed {graph : Graph} {stages : List Stage} {e : VerifyError}
    (h : Blames Q (Stage.runAll .empty stages) { graph, plan := .empty, events := [] })
    (hfailed : (graph.runStages stages).result = .error (.failed e)) : Q e := by
  unfold Graph.runStages at hfailed
  generalize hrun : (Stage.runAll .empty stages).run { graph, plan := .empty, events := [] } =
    ended at hfailed
  obtain ⟨result, last⟩ := ended
  cases result with
  | ok report => cases hfailed
  | error stop =>
    cases hfailed
    exact h e last hrun

end Verification

end ImageFlow
