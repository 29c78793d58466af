import ImageFlow.Proofs.Books.Bookkeeping
import ImageFlow.Proofs.Verification.Frame

/-!
# Visiting a node

The first stage of a verification visits nodes. A visit gives a shape to every object that lacks one
and that the node only writes: the one that the kernel infers, or else the one that the hint of the
object fixes. It passes if there is such a shape for each of these objects and each of them takes
it. No other object changes.
-/

namespace ImageFlow

open Stateful

/-! ## Objects that take a shape -/

namespace DataObject

/-- Objects of the shape can be made, and the shape agrees with the hint of the object. -/
structure Takes (object : DataObject) (descriptor : Descriptor) : Prop where
  possible : descriptor.fault? = none
  agrees : ∀ hint, object.hint = some hint → hint.agreesWith descriptor = true

/-- An object as it was, or one that has been given a shape which it lacked. -/
def Grown (before after : DataObject) : Prop :=
  after = before ∨ before.state = .pending ∧ ∃ descriptor, before.Takes descriptor ∧
    after = { before with state := .resolved descriptor }

variable {object resolved : DataObject} {descriptor : Descriptor}

theorem Grown.refl (object : DataObject) : object.Grown object := .inl rfl

theorem Grown.trans (a b c : DataObject) (h : a.Grown b) (h' : b.Grown c) : a.Grown c := by
  rcases h with rfl | ⟨hpending, descriptor, htakes, rfl⟩
  · exact h'
  · rcases h' with rfl | ⟨hresolved, -⟩
    · exact .inr ⟨hpending, descriptor, htakes, rfl⟩
    · cases hresolved

theorem Grown.redrafted (a b : DataObject) (h : a.Grown b) : a.Redrafted b := by
  rcases h with rfl | ⟨hpending, descriptor, htakes, rfl⟩
  · exact .refl b
  · exact redrafted_of_pending hpending htakes.possible htakes.agrees

theorem Grown.descriptor?_eq {before after : DataObject} (h : before.Grown after)
    (hknown : before.descriptor? = some descriptor) : after.descriptor? = some descriptor := by
  rcases h with rfl | ⟨hpending, -⟩
  · exact hknown
  · rw [descriptor?, hpending] at hknown
    cases hknown

theorem resolve_eq_ok_iff (hpending : object.state = .pending) :
    object.resolve descriptor = .ok resolved ↔
      object.Takes descriptor ∧ resolved = { object with state := .resolved descriptor } := by
  unfold resolve
  rw [hpending]
  dsimp only
  cases hfault : descriptor.fault? with
  | some fault =>
    constructor
    · intro h
      cases h
    · rintro ⟨htakes, -⟩
      cases hfault.symm.trans htakes.possible
  | none =>
    cases hhint : object.hint with
    | none =>
      constructor
      · intro h
        cases h
        exact ⟨⟨hfault, fun hint hsome ↦ nomatch hhint.symm.trans hsome⟩, rfl⟩
      · rintro ⟨-, rfl⟩
        rfl
    | some hint =>
      dsimp only
      constructor
      · intro h
        split at h
        · next hagrees =>
          cases h
          refine ⟨⟨hfault, fun other hother ↦ ?_⟩, rfl⟩
          cases hhint.symm.trans hother
          exact hagrees
        · cases h
      · rintro ⟨htakes, rfl⟩
        rw [if_pos (htakes.agrees hint hhint)]

theorem pending_iff : object.state = .pending ↔
    (!object.isVirtual || object.descriptor?.isSome) = false := by
  unfold isVirtual descriptor?
  cases object.state <;> simp

end DataObject

theorem Arena.resolve_eq_ok_iff {arena resolved : Arena} {ref : DataRef} {descriptor : Descriptor} :
    arena.resolve ref descriptor = .ok resolved ↔
      ∃ object shaped, arena.get ref = .ok object ∧ object.resolve descriptor = .ok shaped ∧
        resolved = arena.set ref.id (some shaped) := by
  constructor
  · intro h
    obtain ⟨object, hobject, h⟩ := exists_of_bind_eq_ok h
    obtain ⟨shaped, hshaped, h⟩ := exists_of_bind_eq_ok h
    exact ⟨object, shaped, hobject, hshaped, (Except.ok.inj h).symm⟩
  · rintro ⟨object, shaped, hobject, hshaped, rfl⟩
    simp only [resolve, hobject, hshaped, bind, Except.bind, pure, Except.pure]

/-! ## What a visit asks for -/

/-- A slot that is only written, and whose object has no shape. -/
structure Graph.Lacks (graph : Graph) (binding : Binding) (object : DataObject) : Prop where
  output : binding.direction = .output
  live : graph.arena.byId? binding.ref.id = some object
  pending : object.state = .pending

namespace Node

/-- The objects of the slots that the node only writes. -/
def outputs (node : Node) : List DataId :=
  (node.bindings.filter (·.direction = .output)).map (·.ref.id)

/-- The shape for the object of a slot, by the kernel or else by the hint. -/
def infers? (node : Node) (view : Inspection) (slot : Nat) (object : DataObject) :
    Option Descriptor :=
  node.kernel.kernel.infer slot view <|> object.hint.bind ImageHint.complete?

/-- What a visit of a node has done. -/
structure Visited (node : Node) (before after : Graph) : Prop where
  grown : before.Revised DataObject.Grown after
  outputs : ∀ binding ∈ node.bindings, ∀ object, before.Lacks binding object →
    ∃ descriptor, node.infers? (Verification.inspect before node) binding.slot object =
        some descriptor ∧ object.Takes descriptor ∧
      after.arena.byId? binding.ref.id = some { object with state := .resolved descriptor }
  others : ∀ data ∉ node.outputs, after.arena.byId? data = before.arena.byId? data

variable {node : Node} {data : DataId}

theorem mem_outputs_iff : data ∈ node.outputs ↔
    ∃ binding ∈ node.bindings, binding.direction = .output ∧ binding.ref.id = data := by
  simp [outputs, and_assoc]

theorem mem_writes_of_mem_outputs (h : data ∈ node.outputs) : data ∈ node.writes := by
  obtain ⟨binding, hbinding, houtput, rfl⟩ := mem_outputs_iff.1 h
  refine List.mem_map.2 ⟨binding, List.mem_filter.2 ⟨hbinding, ?_⟩, rfl⟩
  rw [houtput]
  rfl

theorem nodup_outputs (h : Unaliased node.wiring.slots) : node.outputs.Nodup := by
  have hslots : node.outputs =
      (node.wiring.slots.filter (·.2.direction = .output)).map (·.1.id) :=
    node.ids_bindings (· = .output)
  rw [hslots, List.Nodup, List.pairwise_map]
  refine (h.filter _).imp_of_mem fun {a b} ha _ hunaliased hsame ↦ ?_
  have houtput : a.2.direction = .output := of_decide_eq_true (List.mem_filter.1 ha).2
  have hreadOnly := (hunaliased hsame).1
  rw [houtput] at hreadOnly
  cases hreadOnly

theorem not_mem_outputs_of_mem_reads (h : Unaliased node.wiring.slots)
    (hdata : data ∈ node.reads) : data ∉ node.outputs := by
  intro houtput
  obtain ⟨reading, hreading, hid⟩ := List.mem_map.1 hdata
  obtain ⟨hreading, hreads⟩ := List.mem_filter.1 hreading
  obtain ⟨writing, hwriting, hdirection, hid'⟩ := mem_outputs_iff.1 houtput
  obtain ⟨read, hread, hsame⟩ := exists_slot_of_mem_bindings hreading
  obtain ⟨written, hwritten, hsame'⟩ := exists_slot_of_mem_bindings hwriting
  have hne : (reading.ref, read) ≠ (writing.ref, written) := by
    intro heq
    rw [← hsame, (Prod.mk.inj heq).2, hsame', hdirection] at hreads
    cases hreads
  have hwrites := h.writes_eq_false hread hwritten hne (hid.trans hid'.symm)
  rw [hsame', hdirection] at hwrites
  cases hwrites

end Node

/-! ## What a visit does -/

namespace Verification

variable {draft mid after : Draft} {node : Node} {view : Inspection} {binding : Binding}
  {bindings : List Binding} {shapes : List (DataRef × Descriptor)}

theorem of_inferSlot {found : Option (DataRef × Descriptor)}
    (h : (inferSlot node view binding).run draft = (.ok found, after)) :
    (found = none ∧ ∀ object, ¬draft.graph.Lacks binding object) ∨
      ∃ object descriptor, draft.graph.Lacks binding object ∧
        node.infers? view binding.slot object = some descriptor ∧
        found = some (binding.ref, descriptor) := by
  rw [inferSlot] at h
  split at h
  · next hdirection =>
    cases h
    exact .inl ⟨rfl, fun object hlacks ↦ hdirection hlacks.output⟩
  · next hdirection =>
    rw [run_bind, run_graph] at h
    dsimp only at h
    split at h
    · cases h
    · next object hobject =>
      have hlive := (Arena.get_eq_ok_iff.1 hobject).2
      split at h
      · next hshaped =>
        cases h
        refine .inl ⟨rfl, fun other hlacks ↦ ?_⟩
        cases hlive.symm.trans hlacks.live
        rw [DataObject.pending_iff.1 hlacks.pending] at hshaped
        cases hshaped
      · next hshapeless =>
        rw [run_bind, run_emit] at h
        dsimp only at h
        split at h
        · next descriptor hinfers =>
          cases h
          exact .inr ⟨object, descriptor,
            ⟨not_not.1 hdirection, hlive,
              DataObject.pending_iff.2 (Bool.eq_false_iff.2 hshapeless)⟩,
            hinfers, rfl⟩
        · cases h

theorem exists_inferSlot
    (hlive : binding.direction = .output →
      ∃ object, draft.graph.arena.get binding.ref = .ok object)
    (hinfers : ∀ object, draft.graph.Lacks binding object →
      ∃ descriptor, node.infers? view binding.slot object = some descriptor) :
    ∃ found after, (inferSlot node view binding).run draft = (.ok found, after) := by
  rw [inferSlot]
  split
  · exact ⟨none, draft, rfl⟩
  · next hdirection =>
    obtain ⟨object, hobject⟩ := hlive (not_not.1 hdirection)
    rw [run_bind, run_graph]
    dsimp only
    rw [hobject]
    dsimp only
    split
    · exact ⟨none, draft, rfl⟩
    · next hshapeless =>
      obtain ⟨descriptor, hdescriptor⟩ := hinfers object
        ⟨not_not.1 hdirection, (Arena.get_eq_ok_iff.1 hobject).2,
          DataObject.pending_iff.2 (Bool.eq_false_iff.2 hshapeless)⟩
      rw [Node.infers?] at hdescriptor
      rw [run_bind, run_emit]
      dsimp only
      rw [hdescriptor]
      exact ⟨_, _, rfl⟩

/-- The shapes that are inferred are those for the slots that lack one. -/
theorem of_inferSlots (h : (inferSlots node view bindings).run draft = (.ok shapes, after)) :
    (∀ binding ∈ bindings, ∀ object, draft.graph.Lacks binding object →
        ∃ descriptor, node.infers? view binding.slot object = some descriptor ∧
          (binding.ref, descriptor) ∈ shapes) ∧
      (∀ shape ∈ shapes, ∃ binding ∈ bindings, ∃ object, draft.graph.Lacks binding object ∧
        binding.ref = shape.1 ∧ node.infers? view binding.slot object = some shape.2) ∧
      (shapes.map (·.1.id)).Sublist
        ((bindings.filter (·.direction = .output)).map (·.ref.id)) := by
  induction bindings generalizing draft shapes after with
  | nil =>
    cases h
    simp
  | cons binding rest ih =>
    rw [inferSlots] at h
    obtain ⟨found, next, hfound, h⟩ := bind_ok_iff.1 h
    obtain ⟨others, last, hothers, h⟩ := bind_ok_iff.1 h
    obtain rfl : shapes = found.toList ++ others := (Except.ok.inj (Prod.mk.inj h).1).symm
    have hgraph : next.graph = draft.graph := by
      have hkept := (kept_inferSlot node view binding draft).graph_eq
      rwa [hfound] at hkept
    obtain ⟨hwanted, hmade, hsublist⟩ := ih hothers
    rw [hgraph] at hwanted hmade
    have hmade' : ∀ shape ∈ others, ∃ binding' ∈ binding :: rest, ∃ object,
        draft.graph.Lacks binding' object ∧ binding'.ref = shape.1 ∧
          node.infers? view binding'.slot object = some shape.2 := by
      intro shape hshape
      obtain ⟨other, hother, hlacking⟩ := hmade shape hshape
      exact ⟨other, List.mem_cons_of_mem _ hother, hlacking⟩
    rcases of_inferSlot hfound with ⟨rfl, hnone⟩ | ⟨object, descriptor, hlacks, hinfers, rfl⟩
    · refine ⟨List.forall_mem_cons.2 ⟨fun object hlacks ↦ absurd hlacks (hnone object), hwanted⟩,
        hmade', ?_⟩
      rw [List.filter_cons]
      split
      · exact hsublist.cons _
      · exact hsublist
    · refine ⟨List.forall_mem_cons.2 ⟨fun object' hlacks' ↦ ?_, ?_⟩,
        List.forall_mem_cons.2 ⟨⟨binding, List.mem_cons_self, object, hlacks, rfl, hinfers⟩,
          hmade'⟩, ?_⟩
      · cases hlacks.live.symm.trans hlacks'.live
        exact ⟨descriptor, hinfers, List.mem_cons_self⟩
      · intro other hother object' hlacks'
        obtain ⟨shape, hinfers', hshape⟩ := hwanted other hother object' hlacks'
        exact ⟨shape, hinfers', List.mem_cons_of_mem _ hshape⟩
      · rw [List.filter_cons, if_pos (decide_eq_true hlacks.output)]
        exact hsublist.cons_cons _

theorem exists_inferSlots
    (hlive : ∀ binding ∈ bindings, ∃ object, draft.graph.arena.get binding.ref = .ok object)
    (hinfers : ∀ binding ∈ bindings, ∀ object, draft.graph.Lacks binding object →
      ∃ descriptor, node.infers? view binding.slot object = some descriptor) :
    ∃ shapes after, (inferSlots node view bindings).run draft = (.ok shapes, after) := by
  induction bindings generalizing draft with
  | nil => exact ⟨[], draft, rfl⟩
  | cons binding rest ih =>
    obtain ⟨hlive, hlives⟩ := List.forall_mem_cons.1 hlive
    obtain ⟨hinfers, hrest⟩ := List.forall_mem_cons.1 hinfers
    obtain ⟨found, next, hfound⟩ := exists_inferSlot (fun _ ↦ hlive) hinfers
    have hgraph : next.graph = draft.graph := by
      have hkept := (kept_inferSlot node view binding draft).graph_eq
      rwa [hfound] at hkept
    rw [← hgraph] at hlives hrest
    obtain ⟨others, last, hothers⟩ := ih hlives hrest
    refine ⟨found.toList ++ others, last, ?_⟩
    rw [inferSlots]
    exact bind_ok_iff.2 ⟨found, next, hfound, bind_ok_iff.2 ⟨others, last, hothers, rfl⟩⟩

/-- Every object of the list has been given its shape, and no other object has changed. -/
theorem of_resolveAll (h : (resolveAll shapes).run draft = (.ok (), after))
    (hnodup : (shapes.map (·.1.id)).Nodup) :
    (∀ shape ∈ shapes, ∃ object shaped, draft.graph.arena.byId? shape.1.id = some object ∧
        object.resolve shape.2 = .ok shaped ∧
        after.graph.arena.byId? shape.1.id = some shaped) ∧
      ∀ data ∉ shapes.map (·.1.id),
        after.graph.arena.byId? data = draft.graph.arena.byId? data := by
  induction shapes generalizing draft with
  | nil =>
    cases h
    exact ⟨by simp, fun _ _ ↦ rfl⟩
  | cons shape rest ih =>
    obtain ⟨hnew, hnodup⟩ := List.nodup_cons.1 hnodup
    rw [resolveAll, run_bind, run_graph] at h
    dsimp only at h
    split at h
    · cases h
    · next arena hresolve =>
      rw [run_bind, run_setArena] at h
      dsimp only at h
      obtain ⟨object, shaped, hobject, hshaped, rfl⟩ := Arena.resolve_eq_ok_iff.1 hresolve
      have hlive := (Arena.get_eq_ok_iff.1 hobject).2
      have hset (data : DataId) : (draft.graph.arena.set shape.1.id (some shaped)).byId? data =
          if data = shape.1.id then some shaped else draft.graph.arena.byId? data :=
        Arena.byId?_set (Arena.index_lt_of_byId? hlive) _
      obtain ⟨hrest, hothers⟩ := ih h hnodup
      refine ⟨List.forall_mem_cons.2 ⟨⟨object, shaped, hlive, hshaped, ?_⟩, ?_⟩, ?_⟩
      · rw [hothers _ hnew, hset, if_pos rfl]
      · intro other hother
        have hne : other.1.id ≠ shape.1.id := fun hsame ↦
          hnew (List.mem_map.2 ⟨other, hother, hsame⟩)
        obtain ⟨object', shaped', hobject', hshaped', hafter⟩ := hrest other hother
        rw [hset, if_neg hne] at hobject'
        exact ⟨object', shaped', hobject', hshaped', hafter⟩
      · intro data hdata
        obtain ⟨hne, hdata⟩ := not_or.1 (fun hmem ↦ hdata (List.mem_cons.2 hmem))
        rw [hothers data hdata, hset, if_neg hne]

theorem exists_resolveAll (hnodup : (shapes.map (·.1.id)).Nodup)
    (hresolve : ∀ shape ∈ shapes, ∃ object shaped, draft.graph.arena.get shape.1 = .ok object ∧
      object.resolve shape.2 = .ok shaped) :
    ∃ after, (resolveAll shapes).run draft = (.ok (), after) := by
  induction shapes generalizing draft with
  | nil => exact ⟨draft, rfl⟩
  | cons shape rest ih =>
    obtain ⟨hnew, hnodup⟩ := List.nodup_cons.1 hnodup
    obtain ⟨⟨object, shaped, hobject, hshaped⟩, hrest⟩ := List.forall_mem_cons.1 hresolve
    have hlt := Arena.index_lt_of_byId? (Arena.get_eq_ok_iff.1 hobject).2
    rw [resolveAll, run_bind, run_graph]
    dsimp only
    rw [Arena.resolve_eq_ok_iff.2 ⟨object, shaped, hobject, hshaped, rfl⟩]
    dsimp only
    rw [run_bind, run_setArena]
    apply ih hnodup
    intro other hother
    have hne : other.1.id ≠ shape.1.id := fun hsame ↦
      hnew (List.mem_map.2 ⟨other, hother, hsame⟩)
    obtain ⟨object', shaped', hobject', hshaped'⟩ := hrest other hother
    obtain ⟨hscope, hlive⟩ := Arena.get_eq_ok_iff.1 hobject'
    refine ⟨object', shaped', Arena.get_eq_ok_iff.2 ⟨hscope, ?_⟩, hshaped'⟩
    rw [Arena.byId?_set hlt, if_neg hne]
    exact hlive

theorem exists_visit (hnodup : node.outputs.Nodup)
    (hlive : ∀ binding ∈ node.bindings, ∃ object, draft.graph.arena.get binding.ref = .ok object)
    (hinfers : ∀ binding ∈ node.bindings, ∀ object, draft.graph.Lacks binding object →
      ∃ descriptor, node.infers? (inspect draft.graph node) binding.slot object =
        some descriptor ∧ object.Takes descriptor) :
    ∃ shapes mid after,
      (inferSlots node (inspect draft.graph node) node.bindings).run draft = (.ok shapes, mid) ∧
        (resolveAll shapes).run mid = (.ok (), after) := by
  obtain ⟨shapes, mid, hinfer⟩ := exists_inferSlots hlive fun binding hbinding object hlacks ↦
    (hinfers binding hbinding object hlacks).imp fun _ h ↦ h.1
  obtain ⟨-, hmade, hsublist⟩ := of_inferSlots hinfer
  have hgraph : mid.graph = draft.graph := by
    have hkept := (kept_inferSlots node (inspect draft.graph node) node.bindings draft).graph_eq
    rwa [hinfer] at hkept
  obtain ⟨after, hresolve⟩ := @exists_resolveAll mid shapes (hnodup.sublist hsublist) (by
    intro shape hshape
    obtain ⟨binding, hbinding, object, hlacks, href, hfound⟩ := hmade shape hshape
    obtain ⟨descriptor, hdescriptor, htakes⟩ := hinfers binding hbinding object hlacks
    cases hfound.symm.trans hdescriptor
    obtain ⟨object', hobject⟩ := hlive binding hbinding
    cases hlacks.live.symm.trans (Arena.get_eq_ok_iff.1 hobject).2
    rw [hgraph, ← href]
    exact ⟨object, _, hobject, (DataObject.resolve_eq_ok_iff hlacks.pending).2 ⟨htakes, rfl⟩⟩)
  exact ⟨shapes, mid, after, hinfer, hresolve⟩

theorem visited_of_run (hnodup : node.outputs.Nodup)
    (hinfer : (inferSlots node (inspect draft.graph node) node.bindings).run draft =
      (.ok shapes, mid))
    (hresolve : (resolveAll shapes).run mid = (.ok (), after)) :
    node.Visited draft.graph after.graph := by
  have hgraph : mid.graph = draft.graph := by
    have hkept := (kept_inferSlots node (inspect draft.graph node) node.bindings draft).graph_eq
    rwa [hinfer] at hkept
  obtain ⟨hwanted, hmade, hsublist⟩ := of_inferSlots hinfer
  obtain ⟨hshaped, hothers⟩ := of_resolveAll hresolve (hnodup.sublist hsublist)
  rw [hgraph] at hshaped hothers
  have hgiven : ∀ shape ∈ shapes, ∃ object, draft.graph.arena.byId? shape.1.id = some object ∧
      object.state = .pending ∧ object.Takes shape.2 ∧
      after.graph.arena.byId? shape.1.id = some { object with state := .resolved shape.2 } := by
    intro shape hshape
    obtain ⟨binding, hbinding, object, hlacks, href, -⟩ := hmade shape hshape
    obtain ⟨object', shaped, hlive, hresolved, hafter⟩ := hshaped shape hshape
    rw [← href] at hlive
    cases hlacks.live.symm.trans hlive
    obtain ⟨htakes, rfl⟩ := (DataObject.resolve_eq_ok_iff hlacks.pending).1 hresolved
    exact ⟨object, href ▸ hlacks.live, hlacks.pending, htakes, hafter⟩
  constructor
  · obtain ⟨arena, harena, hafter⟩ := (redrafted_resolveAll shapes mid).graph
    rw [hresolve, hgraph] at hafter
    rw [hgraph] at harena
    refine ⟨arena, ⟨harena.graph_eq, harena.length_eq, fun data ↦ ?_⟩, hafter⟩
    have hbyId : arena.byId? data = after.graph.arena.byId? data := by rw [hafter]
    rw [hbyId]
    by_cases hdata : data ∈ shapes.map (·.1.id)
    · obtain ⟨shape, hshape, rfl⟩ := List.mem_map.1 hdata
      obtain ⟨object, hlive, hpending, htakes, hafter⟩ := hgiven shape hshape
      rw [hlive, hafter]
      exact .some (.inr ⟨hpending, _, htakes, rfl⟩)
    · rw [hothers data hdata]
      exact (Arena.Revised.refl DataObject.Grown.refl _).objects data
  · intro binding hbinding object hlacks
    obtain ⟨descriptor, hinfers, hmem⟩ := hwanted binding hbinding object hlacks
    obtain ⟨given, hlive, -, htakes, hafter⟩ := hgiven _ hmem
    cases hlacks.live.symm.trans hlive
    exact ⟨descriptor, hinfers, htakes, hafter⟩
  · intro data hdata
    exact hothers data fun hmem ↦ hdata (hsublist.subset hmem)

end Verification

end ImageFlow
