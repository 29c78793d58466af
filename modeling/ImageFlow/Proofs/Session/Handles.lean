import ImageFlow.Proofs.Session.World

/-!
# Handles never alias

A handle is good for the object it was given out for, as long as that object lives. A handle of
another graph, one that was never given out, and one whose object has been freed are refused by
everything that takes a handle, whatever has happened in the meantime; and no other object is ever
given the same handle.
-/

namespace ImageFlow

/-! ## Refusal -/

/-- Whether an operation is called with a handle. -/
def Operation.takes (ref : DataRef) : Operation → Prop
  | retain other | release other => other = ref
  | writeImage other _ | writeScalar other _ | writeArray other _ => other = ref
  | addNode _ refs | addNodeWithKernel _ refs => ref ∈ refs
  | _ => False

/-- The error of binding a kernel to handles of which some are not live: it names the first of them.
-/
def Graph.RefusesAll (graph : Graph) (refs : List DataRef)
    (result : Except NodeError (NodeId × Graph)) : Prop :=
  ∃ slot bad, refs[slot]? = some bad ∧ (graph.arena.get bad).isOk = false ∧
    (∀ good ∈ refs.take slot, (graph.arena.get good).isOk = true) ∧
    result = .error (.invalidReference slot bad.id)

/-- Whatever takes a handle refuses this one, and leaves the graph as it is. -/
structure Graph.Refuses (graph : Graph) (ref : DataRef) : Prop where
  get : graph.arena.get ref = .error (.invalidReference ref.id)
  dataDescriptor : graph.dataDescriptor ref = .error (.invalidReference ref.id)
  retain : graph.retain ref = .error (.invalidReference ref.id)
  release : graph.release ref = .error (.invalidReference ref.id)
  readImage : graph.readImage ref = .error (.invalidReference ref.id)
  readScalar : graph.readScalar ref = .error (.invalidReference ref.id)
  readArray : graph.readArray ref = .error (.invalidReference ref.id)
  writeImage : ∀ bytes, graph.writeImage ref bytes = .error (.invalidReference ref.id)
  writeScalar : ∀ value, graph.writeScalar ref value = .error (.invalidReference ref.id)
  writeArray : ∀ items, graph.writeArray ref items = .error (.invalidReference ref.id)
  /-- A kernel that takes as many handles refuses them all. -/
  addNodeWithKernel : ∀ kernel refs, ref ∈ refs →
    refs.length = kernel.signature.parameters.length →
      graph.RefusesAll refs (graph.addNodeWithKernel kernel refs)
  addNode : ∀ name kernel refs, graph.context.lookup name = .ok kernel → ref ∈ refs →
    refs.length = kernel.signature.parameters.length →
      graph.RefusesAll refs (graph.addNode name refs)
  unchanged : ∀ operation : Operation, operation.takes ref → operation.apply graph = graph

namespace Graph

variable {graph : Graph} {ref : DataRef} {refs : List DataRef}

theorem get_eq_error {arena : Arena}
    (h : ref.graph = arena.graph → arena.byId? ref.id = none) :
    arena.get ref = .error (.invalidReference ref.id) := by
  unfold Arena.get
  split
  · next hscope => rw [h hscope]
  · rfl

theorem exists_of_liveObjects {arena : Arena} (hmem : ref ∈ refs)
    (hdead : (arena.get ref).isOk = false) (first : Nat) :
    ∃ slot bad, refs[slot]? = some bad ∧ (arena.get bad).isOk = false ∧
      (∀ good ∈ refs.take slot, (arena.get good).isOk = true) ∧
      liveObjects arena first refs = .error (.invalidReference (first + slot) bad.id) := by
  cases hlive : liveObjects arena first refs with
  | ok objects =>
    rw [exists_liveObjects_iff.1 ⟨objects, hlive⟩ ref hmem] at hdead
    cases hdead
  | error e =>
    obtain ⟨slot, bad, hfirst, rfl⟩ := liveObjects_eq_error_iff.1 hlive
    refine ⟨slot, bad, hfirst.getElem?_eq, hfirst.holds, fun good hgood ↦ ?_, rfl⟩
    obtain ⟨earlier, hearlier, rfl⟩ := List.mem_take_iff_getElem.1 hgood
    by_contra hno
    have := hfirst.least earlier _ (List.getElem?_eq_getElem _) (Bool.eq_false_iff.2 hno)
    omega

theorem refusesAll_addNodeWithKernel {kernel : RegisteredKernel} (hmem : ref ∈ refs)
    (hdead : (graph.arena.get ref).isOk = false)
    (hlength : refs.length = kernel.signature.parameters.length) :
    graph.RefusesAll refs (graph.addNodeWithKernel kernel refs) := by
  obtain ⟨slot, bad, hslot, hbad, hgood, hfailed⟩ := exists_of_liveObjects hmem hdead 0
  rw [Nat.zero_add] at hfailed
  refine ⟨slot, bad, hslot, hbad, hgood, ?_⟩
  rw [addNodeWithKernel, checkNode, if_neg (not_not.2 hlength), hfailed]
  rfl

/-- A kernel that is bound to a handle that is not live, however many it takes, is not bound. -/
theorem settle_addNodeWithKernel {kernel : RegisteredKernel} (hmem : ref ∈ refs)
    (hdead : (graph.arena.get ref).isOk = false) :
    graph.settle ((graph.addNodeWithKernel kernel refs).map Prod.snd) = graph := by
  cases hadd : graph.addNodeWithKernel kernel refs with
  | error e => rfl
  | ok made =>
    obtain ⟨id, changed⟩ := made
    obtain ⟨hcheck, -⟩ := ledger_of_addNodeWithKernel hadd
    obtain ⟨object, hobject⟩ := (of_checkNode hcheck).2.1 ref hmem
    rw [hobject] at hdead
    cases hdead

theorem settle_addNode {name : String} (hmem : ref ∈ refs)
    (hdead : (graph.arena.get ref).isOk = false) :
    graph.settle ((graph.addNode name refs).map Prod.snd) = graph := by
  rw [addNode]
  split
  · rfl
  · exact settle_addNodeWithKernel hmem hdead

theorem refuses_of_get (h : graph.arena.get ref = .error (.invalidReference ref.id)) :
    graph.Refuses ref := by
  have hdead : (graph.arena.get ref).isOk = false := by
    rw [h]
    rfl
  have hpayload : graph.payload ref = .error (.invalidReference ref.id) := by
    rw [payload, h]
    rfl
  have himage : graph.readImage ref = .error (.invalidReference ref.id) := by
    rw [readImage, hpayload]
    rfl
  have hscalar : graph.readScalar ref = .error (.invalidReference ref.id) := by
    rw [readScalar, hpayload]
    rfl
  have harray : graph.readArrayBuffer ref = .error (.invalidReference ref.id) := by
    rw [readArrayBuffer, hpayload]
    rfl
  have hretain : graph.retain ref = .error (.invalidReference ref.id) := by
    rw [retain, Arena.retain, h]
    rfl
  have hrelease : graph.release ref = .error (.invalidReference ref.id) := by
    rw [release, Arena.release, h]
    rfl
  have hwriteImage (bytes : Bytes) :
      graph.writeImage ref bytes = .error (.invalidReference ref.id) := by
    rw [writeImage, himage]
    rfl
  have hwriteScalar (value : ScalarValue) :
      graph.writeScalar ref value = .error (.invalidReference ref.id) := by
    rw [writeScalar, hscalar]
    rfl
  have hwriteArray (items : List ScalarValue) :
      graph.writeArray ref items = .error (.invalidReference ref.id) := by
    rw [writeArray, harray]
    rfl
  exact
    { get := h
      dataDescriptor := by
        rw [dataDescriptor, h]
        rfl
      retain := hretain
      release := hrelease
      readImage := himage
      readScalar := hscalar
      readArray := by
        rw [readArray, harray]
        rfl
      writeImage := hwriteImage
      writeScalar := hwriteScalar
      writeArray := hwriteArray
      addNodeWithKernel := fun kernel refs hmem hlength ↦
        refusesAll_addNodeWithKernel hmem hdead hlength
      addNode := by
        intro name kernel refs hlookup hmem hlength
        rw [addNode, hlookup]
        exact refusesAll_addNodeWithKernel hmem hdead hlength
      unchanged := by
        intro operation htakes
        cases operation with
        | retain other =>
          obtain rfl : other = ref := htakes
          rw [Operation.apply, hretain]
          rfl
        | release other =>
          obtain rfl : other = ref := htakes
          rw [Operation.apply, hrelease]
          rfl
        | writeImage other bytes =>
          obtain rfl : other = ref := htakes
          rw [Operation.apply, hwriteImage]
          rfl
        | writeScalar other value =>
          obtain rfl : other = ref := htakes
          rw [Operation.apply, hwriteScalar]
          rfl
        | writeArray other items =>
          obtain rfl : other = ref := htakes
          rw [Operation.apply, hwriteArray]
          rfl
        | addNode name refs => exact settle_addNode htakes hdead
        | addNodeWithKernel kernel refs => exact settle_addNodeWithKernel htakes hdead
        | _ => cases htakes }

end Graph

/-! ## Dead handles -/

namespace World

/-- Why a handle is no good in a graph of a world, after all that has happened. -/
inductive Dead (contexts : GraphId → Context) (acts : List (GraphId × Move)) (id : GraphId)
    (ref : DataRef) : Prop
  | foreign (h : ref.graph ≠ id)
  | unmade (h : ref ∉ (empty contexts).made acts)
  /-- Its object was there at some point, and was not at a later one. -/
  | freed (earlier later rest : List (GraphId × Move)) (hacts : acts = earlier ++ later ++ rest)
    (hlive : (((empty contexts).applyAll earlier id).arena.get ref).isOk = true)
    (hgone : (((empty contexts).applyAll (earlier ++ later) id).arena.get ref).isOk = false)

variable {world : World} {handles : List DataRef} {id : GraphId} {ref : DataRef}
  {contexts : GraphId → Context} {acts : List (GraphId × Move)}

theorem Numbered.of_get (h : world.Numbered handles) {object : DataObject}
    (hget : (world id).arena.get ref = .ok object) : ref.graph = id ∧ ref ∈ handles := by
  obtain ⟨hscope, hlive⟩ := Arena.get_eq_ok_iff.1 hget
  rw [h.scope id] at hscope
  refine ⟨hscope, h.mem_iff.2 ?_⟩
  rw [hscope]
  exact Arena.index_lt_of_byId? hlive

/-- A handle that has been given out and is not live is one of a freed place. -/
theorem Numbered.freed (h : world.Numbered handles) (hmem : ref ∈ handles)
    (hdead : ((world ref.graph).arena.get ref).isOk = false) : world.Freed ref where
  lt := h.mem_iff.1 hmem
  gone := by
    cases hlive : (world ref.graph).arena.byId? ref.id with
    | none => rfl
    | some object =>
      rw [Arena.get_eq_ok_iff.2 ⟨(h.scope ref.graph).symm, hlive⟩] at hdead
      cases hdead

theorem Dead.refuses (h : Dead contexts acts id ref) :
    ((empty contexts).applyAll acts id).Refuses ref := by
  have hnumbered := (numbered_empty contexts).applyAll acts
  rw [List.nil_append] at hnumbered
  apply Graph.refuses_of_get
  apply Graph.get_eq_error
  intro hscope
  rw [hnumbered.scope id] at hscope
  cases h with
  | foreign hforeign => exact absurd hscope hforeign
  | unmade hunmade =>
    rw [hnumbered.mem_iff, hscope, Nat.not_lt] at hunmade
    exact Arena.byId?_eq_none_of_length_le hunmade
  | freed earlier later rest hacts hlive hgone =>
    have hbefore := (numbered_empty contexts).applyAll earlier
    have hafter := hbefore.applyAll later
    rw [← applyAll_append] at hafter
    obtain ⟨object, hobject⟩ : ∃ object,
        ((empty contexts).applyAll earlier id).arena.get ref = .ok object := by
      cases hget : ((empty contexts).applyAll earlier id).arena.get ref with
      | error e =>
        rw [hget] at hlive
        cases hlive
      | ok object => exact ⟨object, rfl⟩
    have hmem := List.mem_append_left (((empty contexts).applyAll earlier).made later)
      (hbefore.of_get hobject).2
    subst hscope
    have hfreed := (hafter.freed hmem hgone).applyAll hafter rest
    rw [← applyAll_append, ← hacts] at hfreed
    exact hfreed.gone

/-- A handle is live right after it has been given out. -/
theorem exists_get_of_mem_made (hnumbered : world.Numbered handles) (hmem : ref ∈ world.made acts) :
    ∃ earlier later, acts = earlier ++ later ∧
      ((world.applyAll earlier ref.graph).arena.get ref).isOk = true := by
  induction acts generalizing world handles with
  | nil => cases hmem
  | cons act rest ih =>
    rw [made] at hmem
    rcases List.mem_append.1 hmem with hmade | hlater
    · rw [Option.mem_toList] at hmade
      obtain ⟨rfl, object, hpush⟩ := Move.exists_of_made? hmade
      have hscope : ((world act.1).arena.refOf (world act.1).arena.nextId).graph = act.1 :=
        hnumbered.scope act.1
      refine ⟨[act], rest, rfl, ?_⟩
      have hself : world.applyAll [act] act.1 = act.2.apply (world act.1) :=
        Function.update_self ..
      have hlive : ((world act.1).arena.push object).2.get
          ((world act.1).arena.refOf (world act.1).arena.nextId) = .ok object :=
        Arena.get_eq_ok_iff.2 ⟨rfl, Arena.byId?_push_self⟩
      rw [hscope, hself, hpush, hlive]
      rfl
    · obtain ⟨earlier, later, rfl, hlive⟩ := ih (hnumbered.apply act) hlater
      exact ⟨act :: earlier, later, rfl, hlive⟩

theorem isOk_get_of_not_dead (h : ¬ Dead contexts acts id ref) :
    (((empty contexts).applyAll acts id).arena.get ref).isOk = true := by
  have hscope : ref.graph = id := by
    by_contra hforeign
    exact h (.foreign hforeign)
  have hmem : ref ∈ (empty contexts).made acts := by
    by_contra hunmade
    exact h (.unmade hunmade)
  obtain ⟨earlier, later, rfl, hlive⟩ := exists_get_of_mem_made (numbered_empty contexts) hmem
  rw [hscope] at hlive
  by_contra hgone
  rw [Bool.not_eq_true] at hgone
  exact h (.freed earlier later [] (List.append_nil _).symm hlive hgone)

/-- Whatever happens to any number of graphs, in any order: no handle is given out twice; a dead
handle is refused by everything that takes one, with the graph left as it is; and every other handle
is live. -/
theorem handles_applyAll (contexts : GraphId → Context) (acts : List (GraphId × Move)) :
    ((empty contexts).made acts).Nodup ∧ ∀ id ref,
      (Dead contexts acts id ref → ((empty contexts).applyAll acts id).Refuses ref) ∧
      (¬ Dead contexts acts id ref →
        (((empty contexts).applyAll acts id).arena.get ref).isOk = true) := by
  have hnumbered := (numbered_empty contexts).applyAll acts
  exact ⟨hnumbered.nodup, fun id ref ↦ ⟨Dead.refuses, isOk_get_of_not_dead⟩⟩

/-- Two objects of one graph, the first of which is released before the second is made. -/
def succession : List (GraphId × Move) :=
  [(⟨0⟩, .operation .createVirtual), (⟨0⟩, .operation (.release ⟨⟨0⟩, ⟨0⟩⟩)),
    (⟨0⟩, .operation .createVirtual)]

/-- The same context for all graphs. -/
def plainContexts : GraphId → Context :=
  fun _ ↦ { registry := .empty, targets := [], policy := .fixed none, options := .standard }

theorem dead_succession : Dead plainContexts succession ⟨0⟩ ⟨⟨0⟩, ⟨0⟩⟩ :=
  .freed [(⟨0⟩, .operation .createVirtual)] [(⟨0⟩, .operation (.release ⟨⟨0⟩, ⟨0⟩⟩))]
    [(⟨0⟩, .operation .createVirtual)] rfl (by decide +kernel) (by decide +kernel)

theorem handles_succession :
    (empty plainContexts).made succession = [⟨⟨0⟩, ⟨0⟩⟩, ⟨⟨0⟩, ⟨1⟩⟩] ∧
      ((empty plainContexts).applyAll succession ⟨0⟩).Refuses ⟨⟨0⟩, ⟨0⟩⟩ ∧
      ((empty plainContexts).applyAll succession ⟨1⟩).Refuses ⟨⟨0⟩, ⟨1⟩⟩ := by
  have hgraphs := (handles_applyAll plainContexts succession).2
  refine ⟨by decide +kernel, (hgraphs ⟨0⟩ ⟨⟨0⟩, ⟨0⟩⟩).1 dead_succession, ?_⟩
  exact (hgraphs ⟨1⟩ ⟨⟨0⟩, ⟨1⟩⟩).1 (.foreign (by decide))

end World

end ImageFlow
