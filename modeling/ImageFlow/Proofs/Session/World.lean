import ImageFlow.Proofs.Books.Bookkeeping

/-!
# Several graphs and the handles that they give out

A world has a graph for every identity, and things happen to its graphs in any order. A graph
numbers its objects in the order in which they are made. What happens to it either makes one object,
at the next number, or makes none; and a place that has been emptied is never filled again. So all
handles that the graphs of a world ever give out are different.
-/

namespace ImageFlow

/-! ## Making objects -/

/-- The handle that an operation gives out, if it makes an object. -/
def Operation.made? (graph : Graph) : Operation → Option DataRef
  | create descriptor => (graph.create descriptor).toOption.map Prod.fst
  | createScalar value => some (graph.createScalar value).1
  | createVirtual => some graph.createVirtual.1
  | createVirtualImage hint => (graph.createVirtualImage hint).toOption.map Prod.fst
  | _ => none

/-- The handle that a move gives out, if it makes an object. -/
def Move.made? (graph : Graph) : Move → Option DataRef
  | .operation call => call.made? graph
  | _ => none

/-- No object has been made, and places that were empty still are. -/
structure Arena.Ages (before after : Arena) : Prop where
  graph_eq : after.graph = before.graph
  length_eq : after.slots.length = before.slots.length
  gone : ∀ id, before.byId? id = none → after.byId? id = none

namespace Arena

variable {arena before after : Arena} {id : DataId}

theorem Ages.refl (arena : Arena) : arena.Ages arena := ⟨rfl, rfl, fun _ hnone ↦ hnone⟩

theorem Revised.ages {R : DataObject → DataObject → Prop} (h : before.Revised R after) :
    before.Ages after where
  graph_eq := h.graph_eq
  length_eq := h.length_eq
  gone id hnone := by
    have hobject := h.objects id
    rw [hnone] at hobject
    cases hafter : after.byId? id with
    | none => rfl
    | some object =>
      rw [hafter] at hobject
      cases hobject

theorem ages_set (hlive : (arena.byId? id).isSome = true) (entry : Option DataObject) :
    arena.Ages (arena.set id entry) where
  graph_eq := graph_set entry
  length_eq := length_slots_set entry
  gone other hnone := by
    obtain ⟨object, hobject⟩ := Option.isSome_iff_exists.1 hlive
    have hne : other ≠ id := by
      rintro rfl
      rw [hobject] at hnone
      cases hnone
    rw [byId?_set (index_lt_of_byId? hobject), if_neg hne]
    exact hnone

end Arena

namespace Graph

variable {graph changed : Graph} {ref : DataRef}

theorem ref_of_create {descriptor : Descriptor} (h : graph.create descriptor = .ok (ref, changed)) :
    ref = graph.arena.refOf graph.arena.nextId := by
  obtain ⟨made, hmade, hchanged⟩ := exists_of_map_eq_ok h
  unfold Arena.create at hmade
  split at hmade
  · cases hmade
  · obtain ⟨payload, -, hpush⟩ := exists_of_bind_eq_ok hmade
    cases hpush
    exact (Prod.mk.inj hchanged).1.symm

theorem ref_of_createVirtualImage {hint : ImageHint}
    (h : graph.createVirtualImage hint = .ok (ref, changed)) :
    ref = graph.arena.refOf graph.arena.nextId := by
  obtain ⟨made, hmade, hchanged⟩ := exists_of_map_eq_ok h
  unfold Arena.createVirtualImage at hmade
  split at hmade
  · cases hmade
  · cases hmade
    exact (Prod.mk.inj hchanged).1.symm

theorem ages_retain {count : Nat} (h : graph.retain ref = .ok (count, changed)) :
    graph.arena.Ages changed.arena := by
  obtain ⟨object, hobject, rfl⟩ := exists_of_retain h
  exact Arena.ages_set (Option.isSome_iff_exists.2 ⟨object, (Arena.get_eq_ok_iff.1 hobject).2⟩) _

theorem ages_release (hbalanced : graph.ledger.Balanced) {count : Nat}
    (h : graph.release ref = .ok (count, changed)) : graph.arena.Ages changed.arena := by
  obtain ⟨object, left, hobject, hleft, rfl⟩ := exists_of_release h
  have hlive := (Arena.get_eq_ok_iff.1 hobject).2
  have hid : left.id = ref.id := by
    obtain ⟨clients, -, rfl⟩ := DataObject.exists_of_release hleft
    exact hbalanced.placed ref.id _ (account_of_byId? hlive)
  apply Arena.ages_set
  rw [hid, hlive]
  rfl

theorem ages_addNodeWithKernel {kernel : RegisteredKernel} {refs : List DataRef} {id : NodeId}
    (h : graph.addNodeWithKernel kernel refs = .ok (id, changed)) :
    graph.arena.Ages changed.arena := by
  have hentered := entered_of_addNodeWithKernel h
  refine ⟨hentered.scope_eq, hentered.length_eq, fun data hnone ↦ ?_⟩
  rw [hentered.objects, hnone, Option.map_none]

theorem ages_removeNode (hbalanced : graph.ledger.Balanced) {id : NodeId}
    (h : graph.removeNode id = .ok changed) : graph.arena.Ages changed.arena := by
  obtain ⟨node, -, -, hchanged, hslots⟩ := exists_of_removeNode hbalanced h
  obtain ⟨hgraph, hlength⟩ := @unbindSlots_frame graph.arena id node.refs
  have harena : changed.arena = unbindSlots id graph.arena node.refs :=
    congrArg Graph.arena hchanged
  refine ⟨harena ▸ hgraph, harena ▸ hlength, fun data hnone ↦ ?_⟩
  rw [hslots, hnone, Option.bind_none, ite_self]

theorem ages_runStages (graph : Graph) :
    graph.arena.Ages (graph.runStages Stage.standard).graph.arena := by
  obtain ⟨arena, harena, hgraph⟩ :=
    redrafted_runStages (fun _ ↦ Stage.redrafts_of_mem_standard) graph
  have hsame : (graph.runStages Stage.standard).graph.arena = arena := congrArg Graph.arena hgraph
  exact hsame ▸ harena.ages

theorem ages_settle {ε : Type} {result : Except ε Graph}
    (h : ∀ changed, result = .ok changed → graph.arena.Ages changed.arena) :
    graph.arena.Ages (graph.settle result).arena :=
  settle_of_ok (P := (graph.arena.Ages ·.arena)) (.refl graph.arena) h

theorem ages_settle_snd {ε α : Type} {result : Except ε (α × Graph)}
    (h : ∀ a changed, result = .ok (a, changed) → graph.arena.Ages changed.arena) :
    graph.arena.Ages (graph.settle (result.map Prod.snd)).arena :=
  settle_map_snd (P := (graph.arena.Ages ·.arena)) (.refl graph.arena) h

end Graph

/-- An operation that makes no object fills no place. -/
theorem Operation.ages {graph : Graph} (hbalanced : graph.ledger.Balanced) {operation : Operation}
    (h : operation.made? graph = none) : graph.arena.Ages (operation.apply graph).arena := by
  have hsame : graph.arena.Ages graph.arena := .refl graph.arena
  have hworked {after : Graph} (hafter : graph.Worked after) : graph.arena.Ages after.arena :=
    hafter.arena.ages
  cases operation with
  | create descriptor =>
    rw [apply]
    cases hmade : graph.create descriptor with
    | error e => exact hsame
    | ok made =>
      rw [made?, hmade] at h
      cases h
  | createScalar value => cases h
  | createVirtual => cases h
  | createVirtualImage hint =>
    rw [apply]
    cases hmade : graph.createVirtualImage hint with
    | error e => exact hsame
    | ok made =>
      rw [made?, hmade] at h
      cases h
  | retain ref => exact Graph.ages_settle_snd fun _ _ ↦ Graph.ages_retain
  | release ref => exact Graph.ages_settle_snd fun _ _ ↦ Graph.ages_release hbalanced
  | look => exact hsame
  | writeImage ref bytes =>
    exact Graph.ages_settle fun _ hwrite ↦ hworked (Graph.worked_writeImage hwrite)
  | writeScalar ref value =>
    exact Graph.ages_settle fun _ hwrite ↦ hworked (Graph.worked_writeScalar hwrite)
  | writeArray ref items =>
    exact Graph.ages_settle fun _ hwrite ↦ hworked (Graph.worked_writeArray hwrite)
  | addNode kernel refs =>
    refine Graph.ages_settle_snd fun id changed hadd ↦ ?_
    obtain ⟨entry, hentry⟩ := Graph.exists_of_addNode hadd
    exact Graph.ages_addNodeWithKernel hentry
  | addNodeWithKernel kernel refs =>
    exact Graph.ages_settle_snd fun _ _ ↦ Graph.ages_addNodeWithKernel
  | removeNode node => exact Graph.ages_settle fun _ ↦ Graph.ages_removeNode hbalanced
  | assignTarget node target =>
    refine Graph.ages_settle fun changed hassign ↦ ?_
    obtain ⟨index, rfl⟩ := Graph.exists_of_assignTarget hassign
    exact hsame
  | clearTarget node =>
    refine Graph.ages_settle fun changed hclear ↦ ?_
    rw [Graph.eq_of_clearTarget hclear]
    exact hsame
  | setCallback node answer =>
    exact Graph.ages_settle fun _ hset ↦ hworked (Graph.worked_setCallback hset)
  | clearCallback node =>
    exact Graph.ages_settle fun _ hclear ↦ hworked (Graph.worked_clearCallback hclear)
  | setOptions options => exact hsame
  | verify =>
    rw [apply, Graph.verify]
    split
    · exact hsame
    · exact graph.ages_runStages
  | verifyAgain => exact graph.invalidate.ages_runStages
  | process watch => exact hworked (graph.worked_process watch)
  | execute options watch => exact hworked (graph.ran_execute options watch).worked
  | exchange node kernel => exact hworked (graph.worked_exchangeKernel node kernel)

/-- An operation that makes an object puts it at the next place. -/
theorem Operation.exists_of_made? {graph : Graph} {operation : Operation} {ref : DataRef}
    (h : operation.made? graph = some ref) :
    ref = graph.arena.refOf graph.arena.nextId ∧
      ∃ object, (operation.apply graph).arena = (graph.arena.push object).2 := by
  cases operation with
  | create descriptor =>
    rw [apply]
    cases hmade : graph.create descriptor with
    | error e =>
      rw [made?, hmade] at h
      cases h
    | ok made =>
      rw [made?, hmade] at h
      cases h
      obtain ⟨object, -, hchanged⟩ := Graph.exists_of_create hmade
      exact ⟨Graph.ref_of_create hmade, object, congrArg Graph.arena hchanged⟩
  | createScalar value =>
    cases h
    exact ⟨rfl, _, rfl⟩
  | createVirtual =>
    cases h
    exact ⟨rfl, _, rfl⟩
  | createVirtualImage hint =>
    rw [apply]
    cases hmade : graph.createVirtualImage hint with
    | error e =>
      rw [made?, hmade] at h
      cases h
    | ok made =>
      rw [made?, hmade] at h
      cases h
      obtain ⟨object, -, hchanged⟩ := Graph.exists_of_createVirtualImage hmade
      exact ⟨Graph.ref_of_createVirtualImage hmade, object, congrArg Graph.arena hchanged⟩
  | _ => cases h

theorem Move.ages {graph : Graph} (hbalanced : graph.ledger.Balanced) {move : Move}
    (h : move.made? graph = none) : graph.arena.Ages (move.apply graph).arena := by
  cases move with
  | operation call => exact Operation.ages hbalanced h
  | begin => exact .refl graph.arena
  | stage part hstandard plan events =>
    obtain ⟨arena, harena, hgraph⟩ :=
      Stage.redrafts_of_mem_standard hstandard { graph, plan, events }
    rw [apply, hgraph]
    exact harena.ages
  | install plan => exact .refl graph.arena
  | abort => exact (Arena.revised_map _ DataObject.redrafted_reset).ages

theorem Move.exists_of_made? {graph : Graph} {move : Move} {ref : DataRef}
    (h : move.made? graph = some ref) :
    ref = graph.arena.refOf graph.arena.nextId ∧
      ∃ object, (move.apply graph).arena = (graph.arena.push object).2 := by
  cases move with
  | operation call => exact Operation.exists_of_made? h
  | _ => cases h

/-! ## Worlds -/

/-- A graph for every identity. -/
abbrev World := GraphId → Graph

namespace World

/-- Graphs without objects and nodes. -/
def empty (contexts : GraphId → Context) : World := fun id ↦ .empty id (contexts id)

/-- The world after something has happened to one of its graphs. -/
def apply (world : World) (act : GraphId × Move) : World :=
  Function.update world act.1 (act.2.apply (world act.1))

/-- The world after a list of such acts. -/
def applyAll (world : World) (acts : List (GraphId × Move)) : World := acts.foldl apply world

/-- The handles that a list of acts gives out, in order. -/
def made (world : World) : List (GraphId × Move) → List DataRef
  | [] => []
  | act :: rest => (act.2.made? (world act.1)).toList ++ made (world.apply act) rest

variable {world : World} {handles : List DataRef} {id : GraphId} {ref : DataRef}

theorem applyAll_append (world : World) (first second : List (GraphId × Move)) :
    world.applyAll (first ++ second) = (world.applyAll first).applyAll second :=
  List.foldl_append

/-- The graphs of a world have their own identities and accurate books, and each of them has given
out the handles of all its places, in order. -/
structure Numbered (world : World) (handles : List DataRef) : Prop where
  accurate : ∀ id, ∃ retains releases, (world id).Accurate retains releases
  scope : ∀ id, (world id).arena.graph = id
  handles : ∀ id, handles.filter (·.graph = id) =
    (List.range (world id).arena.slots.length).map fun place ↦ ⟨id, ⟨place⟩⟩

theorem Numbered.balanced (h : world.Numbered handles) (id : GraphId) :
    (world id).ledger.Balanced := by
  obtain ⟨_, _, haccurate⟩ := h.accurate id
  exact haccurate.balanced

theorem numbered_empty (contexts : GraphId → Context) : (empty contexts).Numbered [] where
  accurate id := ⟨_, _, Graph.accurate_empty id (contexts id)⟩
  scope _ := rfl
  handles _ := rfl

theorem Numbered.mem_iff (h : world.Numbered handles) :
    ref ∈ handles ↔ ref.id.index < (world ref.graph).arena.slots.length := by
  have hfilter : ref ∈ handles ↔ ref ∈ handles.filter (·.graph = ref.graph) := by simp
  rw [hfilter, h.handles ref.graph, List.mem_map]
  constructor
  · rintro ⟨place, hplace, heq⟩
    rw [← heq]
    exact List.mem_range.1 hplace
  · exact fun hlt ↦ ⟨ref.id.index, List.mem_range.2 hlt, rfl⟩

/-- No handle is given out twice. -/
theorem Numbered.nodup (h : world.Numbered handles) : handles.Nodup := by
  refine List.nodup_iff_count_le_one.2 fun ref ↦ ?_
  have hcount : handles.count ref = (handles.filter (·.graph = ref.graph)).count ref :=
    (List.count_filter (by simp)).symm
  have hplaces : Function.Injective fun place : Nat ↦ DataRef.mk ref.graph ⟨place⟩ := by
    intro first second heq
    injection heq with _ hid
    injection hid
  rw [hcount, h.handles ref.graph]
  exact List.nodup_iff_count_le_one.1 (List.nodup_range.map hplaces) ref

theorem Numbered.apply (h : world.Numbered handles) (act : GraphId × Move) :
    (world.apply act).Numbered (handles ++ (act.2.made? (world act.1)).toList) := by
  obtain ⟨id, move⟩ := act
  have hself : world.apply (id, move) id = move.apply (world id) := Function.update_self ..
  have hother (other : GraphId) (hne : other ≠ id) : world.apply (id, move) other = world other :=
    Function.update_of_ne hne ..
  -- What a move makes of the number of places, and of the handles given out for them.
  have hmove : (move.apply (world id)).arena.graph = id ∧
      (move.made? (world id)).toList.filter (·.graph = id) =
        (move.made? (world id)).toList ∧
      (∀ other, other ≠ id → (move.made? (world id)).toList.filter (·.graph = other) = []) ∧
      (List.range (move.apply (world id)).arena.slots.length).map (fun place ↦ ⟨id, ⟨place⟩⟩) =
        (List.range (world id).arena.slots.length).map (fun place ↦ DataRef.mk id ⟨place⟩) ++
          (move.made? (world id)).toList := by
    cases hmade : move.made? (world id) with
    | none =>
      have hages := Move.ages (h.balanced id) hmade
      rw [hages.graph_eq, hages.length_eq, h.scope id]
      simp
    | some ref =>
      obtain ⟨rfl, object, hpush⟩ := Move.exists_of_made? hmade
      have hscope := h.scope id
      rw [hpush]
      refine ⟨hscope, ?_, fun other hne ↦ ?_, ?_⟩
      · simp [Arena.refOf, hscope]
      · simp [Arena.refOf, hscope, hne.symm]
      · simp [Arena.push, Arena.refOf, Arena.nextId, hscope, List.range_succ]
  obtain ⟨hscope, hown, hforeign, hplaces⟩ := hmove
  refine ⟨fun other ↦ ?_, fun other ↦ ?_, fun other ↦ ?_⟩
  · by_cases hid : other = id
    · obtain ⟨_, _, haccurate⟩ := h.accurate id
      rw [hid, hself]
      exact ⟨_, _, haccurate.move move⟩
    · rw [hother other hid]
      exact h.accurate other
  · by_cases hid : other = id
    · rw [hid, hself]
      exact hscope
    · rw [hother other hid]
      exact h.scope other
  · rw [List.filter_append]
    by_cases hid : other = id
    · rw [hid, hself, h.handles id, hown]
      exact hplaces.symm
    · rw [hother other hid, h.handles other, hforeign other hid, List.append_nil]

theorem Numbered.applyAll (h : world.Numbered handles) (acts : List (GraphId × Move)) :
    (world.applyAll acts).Numbered (handles ++ world.made acts) := by
  induction acts generalizing world handles with
  | nil =>
    rw [made, List.append_nil]
    exact h
  | cons act rest ih =>
    rw [made, ← List.append_assoc]
    exact ih (h.apply act)

/-! ## Freed places -/

/-- An object has been made at the place, and is there no more. -/
structure Freed (world : World) (ref : DataRef) : Prop where
  lt : ref.id.index < (world ref.graph).arena.slots.length
  gone : (world ref.graph).arena.byId? ref.id = none

theorem Freed.apply (hnumbered : world.Numbered handles) (h : world.Freed ref)
    (act : GraphId × Move) : (world.apply act).Freed ref := by
  obtain ⟨id, move⟩ := act
  by_cases hid : ref.graph = id
  · have hself : world.apply (id, move) ref.graph = move.apply (world ref.graph) := by
      rw [hid]
      exact Function.update_self ..
    obtain ⟨hlt, hgone⟩ := h
    cases hmade : move.made? (world ref.graph) with
    | none =>
      have hages := Move.ages (hnumbered.balanced ref.graph) hmade
      constructor
      · rw [hself, hages.length_eq]
        exact hlt
      · rw [hself]
        exact hages.gone ref.id hgone
    | some next =>
      obtain ⟨-, object, hpush⟩ := Move.exists_of_made? hmade
      have hold : ref.id ≠ (world ref.graph).arena.nextId := fun heq ↦
        absurd hlt (by rw [heq]; exact Nat.lt_irrefl _)
      constructor
      · rw [hself, hpush, Arena.push, List.length_append]
        exact Nat.lt_add_right _ hlt
      · rw [hself, hpush, Arena.byId?_push_of_ne hold]
        exact hgone
  · have hother : world.apply (id, move) ref.graph = world ref.graph :=
      Function.update_of_ne hid ..
    exact ⟨hother ▸ h.lt, hother ▸ h.gone⟩

/-- A place that has been emptied stays empty for good. -/
theorem Freed.applyAll (hnumbered : world.Numbered handles) (h : world.Freed ref)
    (acts : List (GraphId × Move)) : (world.applyAll acts).Freed ref := by
  induction acts generalizing world handles with
  | nil => exact h
  | cons act rest ih => exact ih (hnumbered.apply act) (h.apply hnumbered act)

end World

end ImageFlow
