import ImageFlow.Proofs.Execution.Reordering

/-!
# The order in which nodes are added

Calls that add nodes give a graph its nodes in the order of the calls, numbered in that order, and
change nothing else of the objects than their references and constraints. So the same calls in
another order, on the same graph, give a graph that is the same up to the numbers of its nodes. If
kernels do not look at these, the order of the calls does not show: not in whether the graph can be
verified, not in the shapes and levels it then has, not in whether it runs and not in what the run
leaves.
-/

namespace ImageFlow

/-! ## Calls that add nodes -/

/-- A call that adds a node, with the name of its kernel or with the kernel itself. -/
inductive Addition
  | named (kernel : String) (refs : List DataRef)
  | given (kernel : RegisteredKernel) (refs : List DataRef)

/-- The kernel and the objects that a call binds. -/
def Addition.node? (context : Context) : Addition → Option Node
  | named kernel refs => (context.lookup kernel).toOption.map (.fresh ⟨0⟩ · refs)
  | given kernel refs => some (.fresh ⟨0⟩ kernel refs)

namespace Graph

/-- Adds a node. -/
def add (graph : Graph) : Addition → Except NodeError Graph
  | .named kernel refs => (graph.addNode kernel refs).map Prod.snd
  | .given kernel refs => (graph.addNodeWithKernel kernel refs).map Prod.snd

/-- Adds nodes one after the other, up to the first call that fails. -/
def addAll (graph : Graph) (calls : List Addition) : Except NodeError Graph :=
  calls.foldlM add graph

/-- What calls that add nodes do to a graph. -/
structure Added (start : Graph) (calls : List Addition) (after : Graph) : Prop where
  context_eq : after.context = start.context
  arena : start.arena.Revised DataObject.Rebound after.arena
  nodes : ∃ fresh, after.nodes = start.nodes ++ fresh ∧
    fresh.map Node.bare = calls.filterMap (·.node? start.context) ∧
      ∀ node ∈ fresh, node.affinity = none ∧ node.callback = none
  healthy : start.Healthy → after.Healthy
  plan_eq : start.plan = none ∨ calls ≠ [] → after.plan = none

variable {start graph changed after : Graph} {call : Addition} {calls calls' : List Addition}

theorem exists_of_add (h : graph.add call = .ok changed) :
    ∃ kernel refs id, call.node? graph.context = some (.fresh ⟨0⟩ kernel refs) ∧
      graph.addNodeWithKernel kernel refs = .ok (id, changed) := by
  cases call with
  | given kernel refs =>
    obtain ⟨⟨id, _⟩, hadd, rfl⟩ := exists_of_map_eq_ok h
    exact ⟨kernel, refs, id, rfl, hadd⟩
  | named kernel refs =>
    obtain ⟨⟨id, _⟩, hadd, rfl⟩ := exists_of_map_eq_ok h
    unfold addNode at hadd
    split at hadd
    · cases hadd
    · next entry hentry =>
      refine ⟨entry, refs, id, ?_, hadd⟩
      rw [Addition.node?, hentry]
      rfl

theorem added_add (h : graph.add call = .ok changed) : graph.Added [call] changed := by
  obtain ⟨kernel, refs, id, hnode, hadd⟩ := exists_of_add h
  have hhealthy (hstart : graph.Healthy) : changed.Healthy :=
    hstart.change (.added kernel refs id hadd)
  have hentered := entered_of_addNodeWithKernel hadd
  exact
    { context_eq := hentered.context_eq
      arena :=
        { graph_eq := hentered.scope_eq
          length_eq := hentered.length_eq
          objects := by
            intro data
            rw [hentered.objects]
            cases graph.arena.byId? data with
            | none => exact .none
            | some object => exact .some ⟨rfl, rfl, rfl⟩ }
      nodes := by
        refine ⟨[.fresh id kernel refs], hentered.nodes_eq, ?_, ?_⟩
        · rw [List.filterMap_cons, hnode]
          rfl
        · intro node hmem
          cases List.mem_singleton.1 hmem
          exact ⟨rfl, rfl⟩
      healthy := hhealthy
      plan_eq := fun _ ↦ hentered.plan_eq }

theorem Added.cons {rest : List Addition} (h : start.Added [call] graph)
    (h' : graph.Added rest after) : start.Added (call :: rest) after where
  context_eq := h'.context_eq.trans h.context_eq
  arena := h.arena.trans DataObject.Rebound.trans h'.arena
  nodes := by
    obtain ⟨first, hfirst, hbare, hplain⟩ := h.nodes
    obtain ⟨others, hothers, hbare', hplain'⟩ := h'.nodes
    refine ⟨first ++ others, by rw [hothers, hfirst, List.append_assoc], ?_, ?_⟩
    · rw [List.map_append, hbare, hbare', h.context_eq, ← List.filterMap_append]
      rfl
    · intro node hnode
      exact (List.mem_append.1 hnode).elim (hplain node) (hplain' node)
  healthy hstart := h'.healthy (h.healthy hstart)
  plan_eq _ := h'.plan_eq (.inl (h.plan_eq (.inr (List.cons_ne_nil _ _))))

theorem added_addAll (h : start.addAll calls = .ok after) : start.Added calls after := by
  induction calls generalizing start with
  | nil =>
    cases h
    exact
      { context_eq := rfl
        arena := .refl DataObject.Rebound.refl _
        nodes := ⟨[], (List.append_nil _).symm, rfl, fun _ hmem ↦ (nomatch hmem)⟩
        healthy := fun hstart ↦ hstart
        plan_eq := fun hplan ↦ hplan.elim (fun h ↦ h) fun hne ↦ absurd rfl hne }
  | cons call rest ih =>
    obtain ⟨graph, hcall, hrest⟩ := exists_of_bind_eq_ok h
    exact (added_add hcall).cons (ih hrest)

/-- Nodes are plain if those that were there are, and the kernels of the calls do not look at
numbers. -/
theorem Added.plain (h : start.Added calls after) (hplain : ∀ node ∈ start.nodes, node.Plain)
    (hkernels : ∀ call ∈ calls, ∀ node, call.node? start.context = some node →
      node.kernel.kernel.Oblivious) : ∀ node ∈ after.nodes, node.Plain := by
  obtain ⟨fresh, hnodes, hbare, hfresh⟩ := h.nodes
  intro node hnode
  rw [hnodes] at hnode
  rcases List.mem_append.1 hnode with hnode | hnode
  · exact hplain node hnode
  · have hmem : node.bare ∈ calls.filterMap (·.node? start.context) :=
      hbare ▸ List.mem_map_of_mem hnode
    obtain ⟨call, hcall, hcalled⟩ := List.mem_filterMap.1 hmem
    obtain ⟨haffinity, hcallback⟩ := hfresh node hnode
    exact ⟨hkernels call hcall node.bare hcalled, haffinity, hcallback⟩

/-- The same calls in another order give the same nodes up to their numbers. -/
theorem Added.reordered {other : Graph} (h : start.Added calls after)
    (h' : start.Added calls' other) (hperm : calls.Perm calls')
    (hplain : ∀ node ∈ start.nodes, node.Plain)
    (hkernels : ∀ call ∈ calls, ∀ node, call.node? start.context = some node →
      node.kernel.kernel.Oblivious) : after.Reordered other where
  context_eq := h.context_eq.trans h'.context_eq.symm
  arena := (h.arena.symm DataObject.Rebound.symm).trans DataObject.Rebound.trans h'.arena
  nodes := by
    obtain ⟨fresh, hnodes, hbare, -⟩ := h.nodes
    obtain ⟨fresh', hnodes', hbare', -⟩ := h'.nodes
    rw [hnodes, hnodes', List.map_append, List.map_append, hbare, hbare']
    exact (hperm.filterMap _).append_left _
  plain := h.plain hplain hkernels
  plain' := h'.plain hplain fun call hcall ↦ hkernels call (hperm.mem_iff.2 hcall)

/-! ## Graphs that behave alike -/

/-- The same nodes up to their numbers, the same verification and the same run. -/
structure Agrees (a b : Graph) : Prop where
  nodes : (a.nodes.map Node.bare).Perm (b.nodes.map Node.bare)
  verify_iff : a.verify.result.isOk = true ↔ b.verify.result.isOk = true
  shapes : a.verify.result.isOk = true →
    ∀ ref, a.verify.graph.dataDescriptor ref = b.verify.graph.dataDescriptor ref
  levels : a.verify.result.isOk = true →
    ∀ node ∈ a.nodes, ∀ other ∈ b.nodes, node.bare = other.bare →
      ∃ level, a.verify.graph.level? node.id = some level ∧
        b.verify.graph.level? other.id = some level
  process_iff : a.verify.result.isOk = true → ∀ watch watch',
    (a.verify.graph.process watch).result.isOk = true ↔
      (b.verify.graph.process watch').result.isOk = true
  payloads : a.verify.result.isOk = true → ∀ watch watch',
    (a.verify.graph.process watch).result.isOk = true →
      ∀ ref, (a.verify.graph.process watch).graph.payload ref =
        (b.verify.graph.process watch').graph.payload ref

/-! ### What is seen of a graph -/

variable {a b : Graph} {node : Node}

theorem payload_congr (hscope : a.arena.graph = b.arena.graph)
    (hlive : ∀ data, (a.arena.byId? data).isSome = (b.arena.byId? data).isSome)
    (hmemory : a.arena.memory = b.arena.memory) (ref : DataRef) :
    a.payload ref = b.payload ref := by
  have hlive := hlive ref.id
  have hpayload : (a.arena.byId? ref.id).bind DataObject.payload =
    (b.arena.byId? ref.id).bind DataObject.payload := congrFun hmemory ref.id
  unfold payload Arena.get
  rw [hscope]
  by_cases href : ref.graph = b.arena.graph
  · rw [if_pos href, if_pos href]
    generalize a.arena.byId? ref.id = object at hlive hpayload ⊢
    generalize b.arena.byId? ref.id = object' at hlive hpayload ⊢
    cases object with
    | none =>
      cases object' with
      | none => rfl
      | some _ => cases hlive
    | some held =>
      cases object' with
      | none => cases hlive
      | some held' =>
        have hsame : held.payload = held'.payload := hpayload
        simp only [bind, Except.bind, hsame]
  · rw [if_neg href, if_neg href]

namespace Reordered

theorem dataDescriptor_eq (h : a.Reordered b) (ref : DataRef) :
    a.dataDescriptor ref = b.dataDescriptor ref := by
  have hobject := h.arena.objects ref.id
  unfold dataDescriptor Arena.get
  rw [h.arena.graph_eq]
  by_cases hscope : ref.graph = a.arena.graph
  · rw [if_pos hscope, if_pos hscope]
    generalize a.arena.byId? ref.id = object at hobject ⊢
    generalize b.arena.byId? ref.id = object' at hobject ⊢
    cases hobject with
    | none => rfl
    | some hrel => simp only [Except.map, hrel.descriptor?_eq]
  · rw [if_neg hscope, if_neg hscope]

end Reordered

/-! ### Verification and run -/

theorem nodes_verify (graph : Graph) : graph.verify.graph.nodes = graph.nodes := by
  unfold verify
  split
  · rfl
  · exact nodes_runStages (fun _ ↦ Stage.redrafts_of_mem_standard) graph

theorem Healthy.verify (h : graph.Healthy) : graph.verify.graph.Healthy :=
  h.change (Operation.change graph .verify)

/-- A verification that passes leaves a plan. -/
theorem exists_plan_of_verify (h : graph.Healthy) (hok : graph.verify.result.isOk = true) :
    ∃ plan, graph.verify.graph.plan = some plan := by
  cases hplan : graph.plan with
  | some plan =>
    rw [verify_of_plan (by rw [hplan]; rfl) (h.planned plan hplan).1]
    exact ⟨plan, hplan⟩
  | none =>
    rw [verify_of_no_plan hplan] at hok ⊢
    obtain ⟨report, hreport⟩ : ∃ report, (graph.runStages Stage.standard).result = .ok report := by
      cases hresult : (graph.runStages Stage.standard).result with
      | ok report => exact ⟨report, rfl⟩
      | error stop =>
        rw [hresult] at hok
        cases hok
    exact Option.isSome_iff_exists.1 (runStages_of_ok hreport).1

/-- A graph that is verified beside its like is verified to its like. -/
theorem Reordered.verify (h : a.Reordered b) (ha : a.Healthy) (hb : b.Healthy)
    (hplans : a.plan = none ∧ b.plan = none ∨ a = b) (hok : a.verify.result.isOk = true) :
    b.verify.result.isOk = true ∧ a.verify.graph.Reordered b.verify.graph := by
  cases hplan : a.plan with
  | none =>
    have hplan' : b.plan = none := hplans.elim And.right fun hsame ↦ hsame ▸ hplan
    rw [verify_of_no_plan hplan] at hok ⊢
    rw [verify_of_no_plan hplan']
    exact h.verified ha hb hok
  | some plan =>
    obtain rfl : a = b := hplans.resolve_left fun hnone ↦ by cases hplan.symm.trans hnone.1
    refine ⟨hok, ?_⟩
    rw [verify_of_plan (by rw [hplan]; rfl) (ha.planned plan hplan).1]
    exact h

theorem Reordered.agrees (h : a.Reordered b) (ha : a.Healthy) (hb : b.Healthy)
    (hplans : a.plan = none ∧ b.plan = none ∨ a = b) : a.Agrees b := by
  have hverified (hok : a.verify.result.isOk = true) :
      a.verify.graph.Reordered b.verify.graph ∧
        (∃ plan, a.verify.graph.plan = some plan) ∧ ∃ plan, b.verify.graph.plan = some plan := by
    obtain ⟨hok', hreordered⟩ := h.verify ha hb hplans hok
    exact ⟨hreordered, exists_plan_of_verify ha hok, exists_plan_of_verify hb hok'⟩
  refine ⟨h.nodes, ⟨fun hok ↦ (h.verify ha hb hplans hok).1, fun hok ↦
    (h.symm.verify hb ha (hplans.imp And.symm Eq.symm) hok).1⟩, fun hok ref ↦ ?_, ?_, ?_, ?_⟩
  · exact (hverified hok).1.dataDescriptor_eq ref
  · intro hok node hnode other hother hbare
    obtain ⟨hreordered, ⟨plan, hplan⟩, plan', hplan'⟩ := hverified hok
    exact hreordered.exists_level ha.verify hb.verify hplan hplan' (a.nodes_verify ▸ hnode)
      (b.nodes_verify ▸ hother) hbare
  · intro hok watch watch'
    obtain ⟨hreordered, ⟨plan, hplan⟩, plan', hplan'⟩ := hverified hok
    exact (hreordered.process_eq ha.verify hb.verify hplan hplan' watch watch').1
  · intro hok watch watch' hran ref
    obtain ⟨hreordered, ⟨plan, hplan⟩, plan', hplan'⟩ := hverified hok
    have hworked := worked_process a.verify.graph watch
    have hworked' := worked_process b.verify.graph watch'
    apply payload_congr
    · rw [hworked.arena.graph_eq, hworked'.arena.graph_eq, hreordered.arena.graph_eq]
    · intro data
      rw [hworked.arena.isSome_byId?, hworked'.arena.isSome_byId?, hreordered.arena.isSome_byId?]
    · exact (hreordered.process_eq ha.verify hb.verify hplan hplan' watch watch').2 hran

end Graph

namespace Operation

/-- An image, and three images whose shapes are to follow from it. -/
def pictures : List Operation :=
  [.create (.image 1 1 .u8), .createVirtual, .createVirtual, .createVirtual]

/-- Copying the image twice, and one of the copies once more, the last copy first. -/
def backwards : List Addition :=
  let ref (data : Nat) : DataRef := { graph := ⟨0⟩, id := ⟨data⟩ }
  let copy (source target : Nat) : Addition :=
    .given { id := ⟨0⟩, kernel := Kernels.copyImage } [ref source, ref target]
  [copy 1 2, copy 0 1, copy 0 3]

end Operation

namespace Call

/-- The order of the calls that add nodes does not show, if all calls succeed in both orders. -/
theorem agrees_addAll (id : GraphId) (context : Context) (calls : List Call)
    (operations : List Operation) {additions additions' : List Addition}
    (hperm : additions.Perm additions') {a b : Graph} :
    let start := Operation.applyAll (applyAll (.empty id context) calls).invalidate operations
    start.addAll additions = .ok a → start.addAll additions' = .ok b →
      (∀ node ∈ start.nodes, node.Plain) →
      (∀ call ∈ additions, ∀ node, call.node? start.context = some node →
        node.kernel.kernel.Oblivious) → a.Agrees b := by
  intro start ha hb hplain hkernels
  have hstart : start.Healthy := healthy_applyAll_invalidate id context calls operations
  have hadded := Graph.added_addAll ha
  have hadded' := Graph.added_addAll hb
  apply (hadded.reordered hadded' hperm hplain hkernels).agrees (hadded.healthy hstart)
    (hadded'.healthy hstart)
  by_cases hnone : additions = []
  · -- Without calls, both graphs are the one they started from.
    subst hnone
    rw [← hperm.nil_eq] at hb
    exact .inr (Except.ok.inj (ha.symm.trans hb))
  · have hnone' : additions' ≠ [] := fun heq ↦ hnone (heq ▸ hperm).eq_nil
    exact .inl ⟨hadded.plan_eq (.inr hnone), hadded'.plan_eq (.inr hnone')⟩

open Operation in
/-- The copies can also be asked for the other way round. -/
theorem agrees_backwards : ∃ a b, (session ⟨0⟩ plainContext pictures).addAll backwards = .ok a ∧
    (session ⟨0⟩ plainContext pictures).addAll backwards.reverse = .ok b ∧ a.Agrees b ∧
      a.verify.result.isOk = true ∧ (a.verify.graph.process .still).result.isOk = true := by
  have hok : (((session ⟨0⟩ plainContext pictures).addAll backwards).toOption.any fun graph ↦
      graph.verify.result.isOk && (graph.verify.graph.process .still).result.isOk) = true := by
    decide +kernel
  have hok' : ((session ⟨0⟩ plainContext pictures).addAll backwards.reverse).isOk = true := by
    decide +kernel
  have hplain : ∀ node ∈ (session ⟨0⟩ plainContext pictures).nodes, node.Plain :=
    fun _ hnone ↦ nomatch hnone
  have hkernels : ∀ call ∈ backwards, ∀ node,
      call.node? (session ⟨0⟩ plainContext pictures).context = some node →
        node.kernel.kernel.Oblivious := by
    intro call hcall node hnode
    simp only [backwards, List.mem_cons, List.not_mem_nil, or_false] at hcall
    have hcopy : Kernels.copyImage ∈ Kernels.standard .means := .head _
    rcases hcall with rfl | rfl | rfl <;>
    · cases hnode
      exact Kernels.oblivious_of_mem_standard hcopy
  cases ha : (session ⟨0⟩ plainContext pictures).addAll backwards with
  | error e =>
    rw [ha] at hok
    cases hok
  | ok a =>
    cases hb : (session ⟨0⟩ plainContext pictures).addAll backwards.reverse with
    | error e =>
      rw [hb] at hok'
      cases hok'
    | ok b =>
      rw [ha] at hok
      refine ⟨a, b, rfl, rfl, ?_, Bool.and_eq_true_iff.1 hok⟩
      exact agrees_addAll ⟨0⟩ plainContext [] pictures backwards.reverse_perm.symm ha hb hplain
        hkernels

end Call

end ImageFlow
