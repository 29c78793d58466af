import ImageFlow.Graph.Edit
import Mathlib.Data.List.Basic

/-!
# Looking objects up in a changed arena

Each operation of an arena is described by the live objects that can be looked up after it. Binding
and unbinding go through the slots of a node one by one, and one node may hold an object in several
slots, so both are stated for the whole list of slots: an object meets as many of them as carry its
number. An object that loses its last reference in the middle of unbinding has no slot left.
-/

namespace ImageFlow

namespace Arena

variable {arena : Arena} {id other : DataId} {ref : DataRef} {object : DataObject}

@[simp]
theorem get_eq_ok_iff :
    arena.get ref = .ok object ↔ ref.graph = arena.graph ∧ arena.byId? ref.id = some object := by
  unfold get
  split
  · next hgraph =>
    cases h : arena.byId? ref.id <;> simp [hgraph]
  · next hgraph => simp [hgraph]

theorem byId?_eq_none_of_length_le (h : arena.slots.length ≤ id.index) :
    arena.byId? id = none := by
  rw [byId?, List.getElem?_eq_none h]
  rfl

theorem index_lt_of_byId? (h : arena.byId? id = some object) :
    id.index < arena.slots.length := by
  by_contra hle
  rw [byId?_eq_none_of_length_le (Nat.le_of_not_lt hle)] at h
  cases h

theorem mem_objects_iff : object ∈ arena.objects ↔ ∃ id, arena.byId? id = some object := by
  have hplace (entry : Option DataObject) : entry ∈ arena.slots ↔
      ∃ id : DataId, arena.slots[id.index]? = some entry := by
    rw [List.mem_iff_getElem?]
    exact ⟨fun ⟨index, h⟩ ↦ ⟨⟨index⟩, h⟩, fun ⟨id, h⟩ ↦ ⟨id.index, h⟩⟩
  simp [objects, hplace, byId?, Option.join_eq_some_iff]

/-- An arena is what can be looked up in it. -/
theorem eq_of_byId?_eq {before after : Arena} (hgraph : after.graph = before.graph)
    (hlength : after.slots.length = before.slots.length)
    (h : ∀ id, after.byId? id = before.byId? id) : after = before := by
  obtain ⟨scope, slots⟩ := before
  obtain ⟨scope', slots'⟩ := after
  dsimp only at hgraph hlength
  subst hgraph
  rw [Arena.mk.injEq]
  refine ⟨rfl, List.ext_getElem hlength fun place hplace hplace' ↦ ?_⟩
  have hplaces := h ⟨place⟩
  simpa only [byId?, List.getElem?_eq_getElem hplace, List.getElem?_eq_getElem hplace',
    Option.join_some] using hplaces

theorem index_eq_iff : id.index = other.index ↔ id = other := by
  rw [DataId.mk.injEq]

/-! ## New objects -/

theorem byId?_push_of_ne (h : id ≠ arena.nextId) :
    (arena.push object).2.byId? id = arena.byId? id := by
  have hne : id.index ≠ arena.slots.length := fun heq ↦ h (index_eq_iff.1 heq)
  simp only [byId?, push]
  by_cases hlt : id.index < arena.slots.length
  · rw [List.getElem?_append_left hlt]
  · rw [List.getElem?_eq_none (by simp; omega), List.getElem?_eq_none (by omega)]

@[simp]
theorem byId?_push_self : (arena.push object).2.byId? arena.nextId = some object := by
  simp [byId?, push, nextId]

/-! ## Changed objects -/

theorem byId?_set (h : id.index < arena.slots.length) (entry : Option DataObject) :
    (arena.set id entry).byId? other = if other = id then entry else arena.byId? other := by
  simp only [byId?, set, List.getElem?_set]
  by_cases heq : other = id
  · simp [heq, h]
  · have hne : id.index ≠ other.index := fun hindex ↦ heq (index_eq_iff.1 hindex.symm)
    simp [hne, heq]

theorem byId?_modify (f : DataObject → DataObject) :
    (arena.modify id f).byId? other =
      if other = id then (arena.byId? other).map f else arena.byId? other := by
  simp only [byId?, modify, List.getElem?_modify]
  by_cases heq : other = id
  · subst heq
    cases arena.slots[other.index]? <;> simp
  · have hne : id.index ≠ other.index := fun hindex ↦ heq (index_eq_iff.1 hindex.symm)
    simp [hne, heq]

theorem byId?_map (f : DataObject → DataObject) :
    (arena.map f).byId? id = (arena.byId? id).map f := by
  simp only [byId?, map, List.getElem?_map]
  cases arena.slots[id.index]? <;> simp

@[simp] theorem graph_set (entry : Option DataObject) :
    (arena.set id entry).graph = arena.graph := rfl

@[simp] theorem graph_modify (f : DataObject → DataObject) :
    (arena.modify id f).graph = arena.graph := rfl

@[simp] theorem length_slots_set (entry : Option DataObject) :
    (arena.set id entry).slots.length = arena.slots.length :=
  List.length_set

@[simp] theorem length_slots_modify (f : DataObject → DataObject) :
    (arena.modify id f).slots.length = arena.slots.length :=
  List.length_modify ..

/-- Every live object stands at the place of its number. -/
def Placed (arena : Arena) : Prop :=
  ∀ id object, arena.byId? id = some object → object.id = id

end Arena

namespace DataObject

/-- An object after a node has been bound to it in some slots. -/
def bound (node : NodeId) (slots : List Parameter) (object : DataObject) : DataObject :=
  { object with
    slotRefs := object.slotRefs + slots.length
    constraints := object.constraints ++
      if object.isVirtual then slots.map fun slot ↦ (node, slot.constraint) else [] }

/-- An object after a node has given back some of its slots. -/
def unbound (node : NodeId) (slots : Nat) (object : DataObject) : DataObject :=
  { object with
    slotRefs := object.slotRefs - slots
    constraints := object.constraints.filter (·.1 != node) }

/-- An object, if something refers to it. -/
def ifHeld (object : DataObject) : Option DataObject :=
  if object.refCount = 0 then none else some object

@[simp] theorem bound_nil (node : NodeId) (object : DataObject) :
    object.bound node [] = object := by
  simp [bound]

theorem bound_cons (node : NodeId) (slot : Parameter) (slots : List Parameter)
    (object : DataObject) :
    object.bound node (slot :: slots) = (object.bound node [slot]).bound node slots := by
  obtain ⟨_, state, _, _, _, slotRefs, _⟩ := object
  have hcount : slotRefs + (slots.length + 1) = slotRefs + 1 + slots.length := by omega
  cases state <;> simp [bound, isVirtual, hcount]

theorem unbound_unbound (node : NodeId) (first second : Nat) (object : DataObject) :
    (object.unbound node first).unbound node second = object.unbound node (first + second) := by
  simp [unbound, Nat.sub_sub]

/-- An object that is freed while its slots are given back has none left to give. -/
theorem ifHeld_unbound_bind (node : NodeId) (first second : Nat) (object : DataObject) :
    ((object.unbound node first).ifHeld.bind fun object ↦ (object.unbound node second).ifHeld) =
      (object.unbound node (first + second)).ifHeld := by
  unfold ifHeld
  split
  · next hfreed =>
    have hcount : (object.unbound node (first + second)).refCount = 0 := by
      simp only [refCount, unbound] at hfreed ⊢
      omega
    simp [hcount]
  · simp [unbound_unbound]

end DataObject

namespace Graph

/-! ## Binding and unbinding -/

variable {arena : Arena} {node : NodeId} {data : DataId}

theorem byId?_bindSlot (ref : DataRef) (parameter : Parameter) :
    (bindSlot node arena ref parameter).byId? data =
      if data = ref.id then (arena.byId? data).map (DataObject.bound node [parameter])
      else arena.byId? data := by
  have hbound : (fun object : DataObject ↦
      let held := object.retainSlot
      if held.isVirtual then held.addConstraint node parameter.constraint else held) =
      DataObject.bound node [parameter] := by
    funext object
    obtain ⟨_, state, _, _, _, _, _⟩ := object
    cases state <;>
      simp [DataObject.retainSlot, DataObject.isVirtual, DataObject.addConstraint, DataObject.bound]
  rw [bindSlot, hbound, Arena.byId?_modify]

/-- The slots of a list that carry an object. -/
def slotsOn (data : DataId) (slots : List (DataRef × Parameter)) : List Parameter :=
  (slots.filter (·.1.id = data)).map Prod.snd

theorem byId?_bindSlots (slots : List (DataRef × Parameter)) :
    (bindSlots node arena slots).byId? data =
      (arena.byId? data).map (DataObject.bound node (slotsOn data slots)) := by
  induction slots generalizing arena with
  | nil =>
    cases h : arena.byId? data <;> simp [bindSlots, slotsOn, h]
  | cons slot rest ih =>
    have hstep : bindSlots node arena (slot :: rest) =
        bindSlots node (bindSlot node arena slot.1 slot.2) rest := rfl
    rw [hstep, ih, byId?_bindSlot]
    by_cases hdata : data = slot.1.id
    · have hslots : slotsOn data (slot :: rest) = slot.2 :: slotsOn data rest := by
        simp [slotsOn, hdata]
      rw [if_pos hdata, hslots, Option.map_map]
      congr 1
      funext object
      exact (DataObject.bound_cons node slot.2 _ object).symm
    · have hslots : slotsOn data (slot :: rest) = slotsOn data rest := by
        simp [slotsOn, Ne.symm hdata]
      rw [if_neg hdata, hslots]

theorem graph_bindSlots (slots : List (DataRef × Parameter)) :
    (bindSlots node arena slots).graph = arena.graph := by
  induction slots generalizing arena with
  | nil => rfl
  | cons slot rest ih => exact ih

theorem length_slots_bindSlots (slots : List (DataRef × Parameter)) :
    (bindSlots node arena slots).slots.length = arena.slots.length := by
  induction slots generalizing arena with
  | nil => rfl
  | cons slot rest ih =>
    apply Eq.trans ih
    exact Arena.length_slots_modify _

/-- Giving back one slot of a held object. -/
theorem byId?_unbindSlot {ref : DataRef} (hplaced : arena.Placed) (hscope : ref.graph = arena.graph)
    (hheld : ∀ object, arena.byId? ref.id = some object → 0 < object.slotRefs) :
    (unbindSlot node arena ref).byId? data =
      if data = ref.id then (arena.byId? data).bind fun object ↦ (object.unbound node 1).ifHeld
      else arena.byId? data := by
  have hget (object : DataObject) :
      (arena.modify ref.id (·.removeConstraints node)).get ref = .ok object ↔
        (arena.byId? ref.id).map (·.removeConstraints node) = some object := by
    simp [Arena.byId?_modify, hscope]
  cases hobject : arena.byId? ref.id with
  | none =>
    have hfailed : ∃ e, (arena.modify ref.id (·.removeConstraints node)).releaseSlot ref =
        .error e := by
      rw [Arena.releaseSlot]
      cases h : (arena.modify ref.id (·.removeConstraints node)).get ref with
      | error e => exact ⟨e, rfl⟩
      | ok object =>
        rw [hget, hobject] at h
        cases h
    obtain ⟨e, he⟩ := hfailed
    rw [unbindSlot, he]
    simp only [Arena.byId?_modify]
    by_cases hdata : data = ref.id
    · simp [hdata, hobject]
    · simp [hdata]
  | some object =>
    have hpositive := hheld object hobject
    obtain ⟨count, hcount⟩ := Nat.exists_eq_succ_of_ne_zero (Nat.ne_of_gt hpositive)
    have hreleased : (arena.modify ref.id (·.removeConstraints node)).releaseSlot ref =
        .ok ((arena.modify ref.id (·.removeConstraints node)).store (object.unbound node 1)) := by
      have hok := (hget (object.removeConstraints node)).2 (by rw [hobject]; rfl)
      simp only [Arena.releaseSlot, hok]
      simp [bind, Except.bind, pure, Except.pure, DataObject.releaseSlot,
        DataObject.removeConstraints, hcount, DataObject.unbound]
    have hid : (object.unbound node 1).id = ref.id := hplaced ref.id object hobject
    have hlt : ref.id.index < (arena.modify ref.id (·.removeConstraints node)).slots.length := by
      rw [Arena.length_slots_modify]
      exact Arena.index_lt_of_byId? hobject
    rw [unbindSlot, hreleased]
    simp only [Arena.store, hid, Arena.byId?_set hlt, Arena.byId?_modify]
    by_cases hdata : data = ref.id
    · simp [hdata, hobject, DataObject.ifHeld]
    · simp [hdata]

theorem releaseSlot_eq_store {ref : DataRef} {released : Arena}
    (h : arena.releaseSlot ref = .ok released) : ∃ object, released = arena.store object := by
  unfold Arena.releaseSlot at h
  cases hget : arena.get ref with
  | error e =>
    rw [hget] at h
    cases h
  | ok object =>
    rw [hget] at h
    simp only [bind, Except.bind, pure, Except.pure] at h
    split at h
    · cases h
    · next object _ =>
      cases h
      exact ⟨object, rfl⟩

theorem unbindSlot_frame (ref : DataRef) :
    (unbindSlot node arena ref).graph = arena.graph ∧
      (unbindSlot node arena ref).slots.length = arena.slots.length := by
  unfold unbindSlot
  simp only
  split
  · next released h =>
    obtain ⟨object, rfl⟩ := releaseSlot_eq_store h
    simp [Arena.store]
  · simp

theorem unbindSlots_frame (refs : List DataRef) :
    (unbindSlots node arena refs).graph = arena.graph ∧
      (unbindSlots node arena refs).slots.length = arena.slots.length := by
  induction refs generalizing arena with
  | nil => exact ⟨rfl, rfl⟩
  | cons ref rest ih =>
    obtain ⟨hgraph, hlength⟩ : (unbindSlot node arena ref).graph = arena.graph ∧
        (unbindSlot node arena ref).slots.length = arena.slots.length := unbindSlot_frame ref
    obtain ⟨hgraph', hlength'⟩ := @ih (unbindSlot node arena ref)
    exact ⟨hgraph'.trans hgraph, hlength'.trans hlength⟩

/-- Number of handles of a list that stand for an object. -/
def holdsOf (data : DataId) (refs : List DataRef) : Nat := refs.countP (·.id = data)

theorem holdsOf_cons (data : DataId) (ref : DataRef) (refs : List DataRef) :
    holdsOf data (ref :: refs) = holdsOf data refs + if data = ref.id then 1 else 0 := by
  simp [holdsOf, List.countP_cons, eq_comm]

/-- What giving back one slot leaves of an object, seen from after it. -/
theorem exists_of_byId?_unbindSlot {ref : DataRef} {object : DataObject} (hplaced : arena.Placed)
    (hscope : ref.graph = arena.graph)
    (hheld : ∀ object, arena.byId? ref.id = some object → 0 < object.slotRefs)
    (h : (unbindSlot node arena ref).byId? data = some object) :
    ∃ before, arena.byId? data = some before ∧ object.id = before.id ∧
      before.slotRefs ≤ object.slotRefs + if data = ref.id then 1 else 0 := by
  rw [byId?_unbindSlot hplaced hscope hheld] at h
  split at h
  · next hdata =>
    obtain ⟨before, hbefore, hafter⟩ := Option.bind_eq_some_iff.1 h
    have heq : object = before.unbound node 1 := by
      unfold DataObject.ifHeld at hafter
      split at hafter
      · cases hafter
      · exact (Option.some.inj hafter).symm
    refine ⟨before, hbefore, ?_, ?_⟩
    · rw [heq]
      rfl
    · simp only [heq, DataObject.unbound, if_pos hdata]
      omega
  · exact ⟨object, h, rfl, by omega⟩

/-- Giving back all slots of a node. Every object must be held at least as often as the node is
about to give it back. -/
theorem byId?_unbindSlots (refs : List DataRef) (hplaced : arena.Placed)
    (hscope : ∀ ref ∈ refs, ref.graph = arena.graph)
    (hheld : ∀ data object, arena.byId? data = some object → holdsOf data refs ≤ object.slotRefs) :
    (unbindSlots node arena refs).byId? data =
      if holdsOf data refs = 0 then arena.byId? data
      else (arena.byId? data).bind fun object ↦
        (object.unbound node (holdsOf data refs)).ifHeld := by
  induction refs generalizing arena with
  | nil => simp [unbindSlots, holdsOf]
  | cons ref rest ih =>
    have hscope' := hscope ref List.mem_cons_self
    have hfirst : ∀ object, arena.byId? ref.id = some object → 0 < object.slotRefs := by
      intro object hobject
      have hle := hheld _ _ hobject
      rw [holdsOf_cons, if_pos rfl] at hle
      omega
    have hrest := @ih (unbindSlot node arena ref)
      (fun id object h ↦ by
        obtain ⟨before, hbefore, hid, -⟩ := exists_of_byId?_unbindSlot hplaced hscope' hfirst h
        rw [hid]
        exact hplaced _ _ hbefore)
      (fun other hother ↦ by
        rw [(unbindSlot_frame ref).1]
        exact hscope other (List.mem_cons_of_mem _ hother))
      (fun id object h ↦ by
        obtain ⟨before, hbefore, -, hrefs⟩ := exists_of_byId?_unbindSlot hplaced hscope' hfirst h
        have hle := hheld _ _ hbefore
        rw [holdsOf_cons] at hle
        omega)
    change (unbindSlots node (unbindSlot node arena ref) rest).byId? data = _
    rw [hrest, byId?_unbindSlot hplaced hscope' hfirst, holdsOf_cons]
    by_cases hdata : data = ref.id
    · rw [if_pos hdata, if_pos hdata, if_neg (Nat.succ_ne_zero _)]
      cases arena.byId? data with
      | none => simp
      | some object =>
        rw [Option.bind_some, Option.bind_some, Nat.add_comm, ← DataObject.ifHeld_unbound_bind]
        split
        · next hnone => rw [hnone, DataObject.ifHeld_unbound_bind]
        · rfl
    · rw [if_neg hdata, if_neg hdata, Nat.add_zero]

end Graph

end ImageFlow
