import ImageFlow.Proofs.Data.Arena
import ImageFlow.Proofs.Data.Fit

/-!
# Revised objects

Most of what happens to a graph changes some objects in place: verification shapes virtual objects
and gives memory to what lacks it, clients and kernels replace payloads. Such a revision keeps all
objects where they are and relates each of them to what it was before. A relation on objects that
holds of every object and itself, and can be chained, makes a relation of the same kind on graphs.
-/

namespace ImageFlow

/-! ## Arenas and graphs -/

/-- Arenas with the same places, where what a place holds is related to what it held before. -/
structure Arena.Revised (R : DataObject → DataObject → Prop) (before after : Arena) : Prop where
  graph_eq : after.graph = before.graph
  length_eq : after.slots.length = before.slots.length
  objects : ∀ id, Option.Rel R (before.byId? id) (after.byId? id)

/-- Graphs that differ in their objects only. -/
def Graph.Revised (R : DataObject → DataObject → Prop) (before after : Graph) : Prop :=
  ∃ arena, before.arena.Revised R arena ∧ after = { before with arena }

namespace Arena

variable {R S : DataObject → DataObject → Prop} {arena before after : Arena} {id : DataId}
  {object : DataObject}

theorem Revised.refl (hrefl : ∀ object, R object object) (arena : Arena) :
    arena.Revised R arena where
  graph_eq := rfl
  length_eq := rfl
  objects id := by
    cases arena.byId? id with
    | none => exact .none
    | some object => exact .some (hrefl object)

theorem Revised.trans (htrans : ∀ a b c, R a b → R b c → R a c) {last : Arena}
    (h : before.Revised R after) (h' : after.Revised R last) : before.Revised R last where
  graph_eq := h'.graph_eq.trans h.graph_eq
  length_eq := h'.length_eq.trans h.length_eq
  objects id := by
    have hfirst := h.objects id
    have hsecond := h'.objects id
    revert hfirst hsecond
    generalize before.byId? id = a
    generalize after.byId? id = b
    generalize last.byId? id = c
    intro hfirst hsecond
    cases hfirst with
    | none =>
      cases hsecond
      exact .none
    | some hab =>
      cases hsecond with
      | some hbc => exact .some (htrans _ _ _ hab hbc)

theorem Revised.symm (hsymm : ∀ a b, R a b → R b a) (h : before.Revised R after) :
    after.Revised R before where
  graph_eq := h.graph_eq.symm
  length_eq := h.length_eq.symm
  objects id := by
    have hobject := h.objects id
    revert hobject
    generalize before.byId? id = a
    generalize after.byId? id = b
    intro hobject
    cases hobject with
    | none => exact .none
    | some hab => exact .some (hsymm _ _ hab)

theorem Revised.mono (hRS : ∀ a b, R a b → S a b) (h : before.Revised R after) :
    before.Revised S after where
  graph_eq := h.graph_eq
  length_eq := h.length_eq
  objects id := by
    have hobject := h.objects id
    revert hobject
    generalize before.byId? id = a
    generalize after.byId? id = b
    intro hobject
    cases hobject with
    | none => exact .none
    | some hab => exact .some (hRS _ _ hab)

theorem Revised.some_of_some (h : before.Revised R after)
    (hobject : before.byId? id = some object) :
    ∃ revised, after.byId? id = some revised ∧ R object revised := by
  have hrel := h.objects id
  rw [hobject] at hrel
  generalize after.byId? id = b at hrel ⊢
  cases hrel with
  | some hab => exact ⟨_, rfl, hab⟩

theorem Revised.of_some (h : before.Revised R after) (hobject : after.byId? id = some object) :
    ∃ origin, before.byId? id = some origin ∧ R origin object := by
  have hrel := h.objects id
  rw [hobject] at hrel
  generalize before.byId? id = b at hrel ⊢
  cases hrel with
  | some hab => exact ⟨_, rfl, hab⟩

/-- What a revision leaves as it is, it leaves as it is of each object. -/
theorem Revised.bind_byId? {α : Type} {f : DataObject → Option α} (h : before.Revised R after)
    (hf : ∀ a b, R a b → f b = f a) (id : DataId) :
    (after.byId? id).bind f = (before.byId? id).bind f := by
  have hobject := h.objects id
  generalize before.byId? id = object at hobject ⊢
  generalize after.byId? id = object' at hobject ⊢
  cases hobject with
  | none => rfl
  | some hrel => exact hf _ _ hrel

theorem Revised.isSome_byId? (h : before.Revised R after) (id : DataId) :
    (after.byId? id).isSome = (before.byId? id).isSome := by
  have hobject := h.objects id
  generalize before.byId? id = object at hobject ⊢
  generalize after.byId? id = object' at hobject ⊢
  cases hobject <;> rfl

theorem map_filter_objects {α : Type} (p : DataObject → Bool) (f : DataObject → α)
    (arena : Arena) : (arena.objects.filter p).map f =
      (arena.slots.map fun entry ↦ (entry.filter p).map f).filterMap fun entry ↦ entry := by
  rw [objects, List.filter_filterMap, List.map_filterMap, List.filterMap_map]
  rfl

/-- What is picked from the objects of an arena is the same after a revision if it is picked from
each object alike. -/
theorem Revised.map_filter_objects {α : Type} {p q : DataObject → Bool} {f g : DataObject → α}
    (h : before.Revised R after)
    (hsame : ∀ id a b, before.byId? id = some a → after.byId? id = some b → R a b →
      q b = p a ∧ g b = f a) :
    (after.objects.filter q).map g = (before.objects.filter p).map f := by
  rw [Arena.map_filter_objects, Arena.map_filter_objects]
  congr 1
  apply List.ext_getElem (by rw [List.length_map, List.length_map, h.length_eq])
  intro place hafter hbefore
  rw [List.getElem_map, List.getElem_map]
  rw [List.length_map] at hafter hbefore
  have hrel := h.objects ⟨place⟩
  have hsame := hsame ⟨place⟩
  rw [byId?, byId?, List.getElem?_eq_getElem hbefore, List.getElem?_eq_getElem hafter,
    Option.join_some, Option.join_some] at hrel hsame
  generalize before.slots[place] = a, after.slots[place] = b at hrel hsame
  cases hrel with
  | none => rfl
  | some hrel =>
    obtain ⟨hq, hg⟩ := hsame _ _ rfl rfl hrel
    rw [Option.filter_some, Option.filter_some, hq, apply_ite (Option.map g),
      apply_ite (Option.map f), Option.map_some, Option.map_some, hg]
    rfl

theorem revised_map (f : DataObject → DataObject) (h : ∀ object, R object (f object)) :
    arena.Revised R (arena.map f) where
  graph_eq := rfl
  length_eq := List.length_map ..
  objects id := by
    rw [byId?_map]
    cases arena.byId? id with
    | none => exact .none
    | some object => exact .some (h object)

theorem revised_modify (f : DataObject → DataObject) (hrefl : ∀ object, R object object)
    (h : ∀ object, arena.byId? id = some object → R object (f object)) :
    arena.Revised R (arena.modify id f) where
  graph_eq := rfl
  length_eq := length_slots_modify f
  objects other := by
    rw [byId?_modify]
    cases hobject : arena.byId? other with
    | none =>
      rw [Option.map_none, ite_self]
      exact .none
    | some object =>
      split
      · next heq => exact .some (h object (heq ▸ hobject))
      · exact .some (hrefl object)

theorem revised_set (hrefl : ∀ object, R object object) (hobject : arena.byId? id = some object)
    {revised : DataObject} (h : R object revised) :
    arena.Revised R (arena.set id (some revised)) where
  graph_eq := rfl
  length_eq := length_slots_set _
  objects other := by
    rw [byId?_set (index_lt_of_byId? hobject)]
    split
    · next heq =>
      rw [heq, hobject]
      exact .some h
    · exact (Revised.refl hrefl arena).objects other

end Arena

namespace Graph

variable {R S : DataObject → DataObject → Prop} {graph before after : Graph}

theorem Revised.refl (hrefl : ∀ object, R object object) (graph : Graph) : graph.Revised R graph :=
  ⟨graph.arena, .refl hrefl _, rfl⟩

theorem Revised.trans (htrans : ∀ a b c, R a b → R b c → R a c) {last : Graph}
    (h : before.Revised R after) (h' : after.Revised R last) : before.Revised R last := by
  obtain ⟨arena, harena, rfl⟩ := h
  obtain ⟨arena', harena', rfl⟩ := h'
  exact ⟨arena', harena.trans htrans harena', rfl⟩

theorem Revised.mono (hRS : ∀ a b, R a b → S a b) (h : before.Revised R after) :
    before.Revised S after := by
  obtain ⟨arena, harena, rfl⟩ := h
  exact ⟨arena, harena.mono hRS, rfl⟩

theorem Revised.nodes_eq (h : before.Revised R after) : after.nodes = before.nodes := by
  obtain ⟨arena, -, rfl⟩ := h
  rfl

end Graph

/-! ## Objects -/

namespace DataObject

/-- A resolved object agrees with its hint, a concrete one has memory and no hint. -/
structure Sound (object : DataObject) : Prop where
  agrees : ∀ descriptor, object.state = .resolved descriptor →
    ∀ hint, object.hint = some hint → hint.agreesWith descriptor = true
  concrete : object.isVirtual = false → object.payload.isSome = true ∧ object.hint = none

/-- What a verification may make of an object: it may shape a virtual one, and give memory to any
that lacks it. -/
structure Redrafted (before after : DataObject) : Prop where
  id_eq : after.id = before.id
  isVirtual_eq : after.isVirtual = before.isVirtual
  hint_eq : after.hint = before.hint
  constraints_eq : after.constraints = before.constraints
  clientRefs_eq : after.clientRefs = before.clientRefs
  slotRefs_eq : after.slotRefs = before.slotRefs
  concrete : before.isVirtual = false → before.payload.isSome = true → after = before
  sound : before.Sound → after.Sound
  fits : before.Fits → after.Fits

/-- An object that has been given zeroed memory of its shape if it had none. -/
def Allocated (before after : DataObject) : Prop :=
  after = before ∨
    before.payload = none ∧ ∃ descriptor, before.descriptor? = some descriptor ∧
      after = { before with payload := some (.blank descriptor) }

/-- An object whose payload may have been replaced, but not taken away. -/
def Overwritten (before after : DataObject) : Prop :=
  after = before ∨ ∃ payload, after = { before with payload := some payload }

variable {object resolved allocated : DataObject} {descriptor : Descriptor} {bytes : Nat}

theorem Redrafted.refl (object : DataObject) : object.Redrafted object :=
  ⟨rfl, rfl, rfl, rfl, rfl, rfl, fun _ _ ↦ rfl, fun h ↦ h, fun h ↦ h⟩

theorem Redrafted.trans (a b c : DataObject) (h : a.Redrafted b) (h' : b.Redrafted c) :
    a.Redrafted c where
  id_eq := h'.id_eq.trans h.id_eq
  isVirtual_eq := h'.isVirtual_eq.trans h.isVirtual_eq
  hint_eq := h'.hint_eq.trans h.hint_eq
  constraints_eq := h'.constraints_eq.trans h.constraints_eq
  clientRefs_eq := h'.clientRefs_eq.trans h.clientRefs_eq
  slotRefs_eq := h'.slotRefs_eq.trans h.slotRefs_eq
  concrete hvirtual hpayload := by
    have hsame := h.concrete hvirtual hpayload
    subst hsame
    exact h'.concrete hvirtual hpayload
  sound := h'.sound ∘ h.sound
  fits := h'.fits ∘ h.fits

theorem Allocated.refl (object : DataObject) : object.Allocated object := .inl rfl

theorem Allocated.trans (a b c : DataObject) (h : a.Allocated b) (h' : b.Allocated c) :
    a.Allocated c := by
  rcases h with rfl | ⟨hnone, descriptor, hdescriptor, rfl⟩
  · exact h'
  · rcases h' with rfl | ⟨hpayload, -⟩
    · exact .inr ⟨hnone, descriptor, hdescriptor, rfl⟩
    · cases hpayload

theorem Allocated.descriptor?_eq (a b : DataObject) (h : a.Allocated b) :
    b.descriptor? = a.descriptor? := by
  rcases h with rfl | ⟨-, descriptor, -, rfl⟩ <;> rfl

theorem Allocated.redrafted (a b : DataObject) (h : a.Allocated b) : a.Redrafted b := by
  rcases h with rfl | ⟨hnone, descriptor, hdescriptor, rfl⟩
  · exact .refl b
  · exact
      { id_eq := rfl, isVirtual_eq := rfl, hint_eq := rfl, constraints_eq := rfl
        clientRefs_eq := rfl, slotRefs_eq := rfl
        concrete := by
          intro _ hpayload
          rw [hnone] at hpayload
          cases hpayload
        sound := fun h ↦ ⟨h.agrees, fun hvirtual ↦ ⟨rfl, (h.concrete hvirtual).2⟩⟩
        fits := fun h ↦ h.withPayload hdescriptor
          (Payload.blank_matches (h.possible descriptor hdescriptor)) }

theorem Overwritten.refl (object : DataObject) : object.Overwritten object := .inl rfl

theorem Overwritten.trans (a b c : DataObject) (h : a.Overwritten b) (h' : b.Overwritten c) :
    a.Overwritten c := by
  rcases h with rfl | ⟨first, rfl⟩
  · exact h'
  · rcases h' with rfl | ⟨second, rfl⟩
    · exact .inr ⟨first, rfl⟩
    · exact .inr ⟨second, rfl⟩

theorem redrafted_reset (object : DataObject) : object.Redrafted object.reset := by
  unfold reset
  split
  · next hvirtual =>
    refine ⟨rfl, hvirtual.symm, rfl, rfl, rfl, rfl, fun hconcrete ↦ ?_, fun _ ↦ ⟨?_, ?_⟩,
      fun _ ↦ fits_of_pending rfl rfl⟩
    · rw [hvirtual] at hconcrete
      cases hconcrete
    · intro descriptor hstate
      cases hstate
    · intro hconcrete
      cases hconcrete
  · exact .refl object

/-- A virtual object that takes a possible shape which agrees with its hint. -/
theorem redrafted_of_pending (hpending : object.state = .pending)
    (hfault : descriptor.fault? = none)
    (hagrees : ∀ hint, object.hint = some hint → hint.agreesWith descriptor = true) :
    object.Redrafted { object with state := .resolved descriptor } := by
  have hvirtual : object.isVirtual = true := by rw [isVirtual, hpending]
  refine ⟨rfl, hvirtual.symm, rfl, rfl, rfl, rfl, fun hconcrete ↦ ?_, fun _ ↦ ⟨?_, ?_⟩,
    fun h ↦ h.resolved hpending hfault⟩
  · rw [hvirtual] at hconcrete
    cases hconcrete
  · intro shape hstate
    cases hstate
    exact hagrees
  · intro hconcrete
    cases hconcrete

theorem redrafted_of_resolve (h : object.resolve descriptor = .ok resolved) :
    object.Redrafted resolved := by
  unfold resolve at h
  split at h
  · cases h
  · split at h
    · cases h
      exact .refl object
    · cases h
  · next hpending =>
    split at h
    · cases h
    · next hfault =>
      split at h
      · next hint hhint =>
        split at h
        · next hagrees =>
          cases h
          apply redrafted_of_pending hpending hfault
          intro other hother
          rw [hhint] at hother
          cases hother
          exact hagrees
        · cases h
      · next hnone =>
        cases h
        apply redrafted_of_pending hpending hfault
        intro hint hhint
        rw [hnone] at hhint
        cases hhint

theorem allocated_of_allocate (h : object.allocate = .ok (allocated, bytes)) :
    object.Allocated allocated ∧ allocated.payload.isSome = true := by
  unfold allocate at h
  split at h
  · cases h
  · next shape hshape =>
    split at h
    · next payload hpayload =>
      cases h
      exact ⟨.refl object, by rw [hpayload]; rfl⟩
    · next hnone =>
      cases hneed : (Stop.need (Payload.allocate? shape) : Except (Stop DataError) Payload) with
      | error e =>
        rw [hneed] at h
        cases h
      | ok payload =>
        rw [hneed] at h
        cases h
        rw [Payload.eq_blank_of_need hneed]
        exact ⟨.inr ⟨hnone, shape, hshape, rfl⟩, rfl⟩

theorem isOk_allocate_iff : object.allocate.isOk = true ↔ ∃ descriptor,
    object.descriptor? = some descriptor ∧
      (object.payload = none → descriptor.isAddressable = true) := by
  unfold allocate
  cases object.descriptor? with
  | none => exact ⟨fun h ↦ (nomatch h), fun ⟨_, h, _⟩ ↦ (nomatch h)⟩
  | some shape =>
    cases object.payload with
    | some payload => exact ⟨fun _ ↦ ⟨shape, rfl, fun h ↦ (nomatch h)⟩, fun _ ↦ rfl⟩
    | none =>
      dsimp only [Payload.allocate?]
      split
      · next haddressable => exact ⟨fun _ ↦ ⟨shape, rfl, fun _ ↦ haddressable⟩, fun _ ↦ rfl⟩
      · next haddressable =>
        refine ⟨fun h ↦ (nomatch h), fun ⟨other, hother, h⟩ ↦ ?_⟩
        cases hother
        exact absurd (h rfl) haddressable

/-- An object with zeroed memory of its shape, unless it has memory. -/
def backed (object : DataObject) : DataObject :=
  { object with payload := object.payload <|> object.descriptor?.map .blank }

theorem eq_backed_of_allocate (h : object.allocate = .ok (allocated, bytes)) :
    allocated = object.backed := by
  obtain ⟨hallocated, hpayload⟩ := allocated_of_allocate h
  rcases hallocated with rfl | ⟨hnone, shape, hshape, rfl⟩
  · obtain ⟨payload, hsome⟩ := Option.isSome_iff_exists.1 hpayload
    obtain ⟨_, _, _, _, _, _, held⟩ := allocated
    cases hsome
    rfl
  · simp [backed, hnone, hshape]

theorem backed_backed (object : DataObject) : object.backed.backed = object.backed := by
  obtain ⟨_, state, _, _, _, _, payload⟩ := object
  cases payload <;> cases state <;> rfl

theorem isOk_allocate_backed (h : object.allocate.isOk = true) :
    object.backed.allocate.isOk = true := by
  obtain ⟨shape, hshape, -⟩ := isOk_allocate_iff.1 h
  refine isOk_allocate_iff.2 ⟨shape, hshape, fun hnone ↦ ?_⟩
  rw [backed] at hnone
  simp [hshape] at hnone

end DataObject

theorem Arena.redrafted_resolve {arena resolved : Arena} {ref : DataRef} {descriptor : Descriptor}
    (h : arena.resolve ref descriptor = .ok resolved) :
    arena.Revised DataObject.Redrafted resolved := by
  unfold Arena.resolve at h
  cases hget : arena.get ref with
  | error e =>
    rw [hget] at h
    cases h
  | ok object =>
    rw [hget] at h
    cases hresolve : object.resolve descriptor with
    | error e =>
      simp only [bind, Except.bind, hresolve] at h
      cases h
    | ok shaped =>
      simp only [bind, Except.bind, hresolve, pure, Except.pure] at h
      cases h
      exact Arena.revised_set .refl (Arena.get_eq_ok_iff.1 hget).2
        (DataObject.redrafted_of_resolve hresolve)

end ImageFlow
