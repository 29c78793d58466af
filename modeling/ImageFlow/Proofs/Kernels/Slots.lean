import ImageFlow.Kernel.Access
import ImageFlow.Proofs.Stateful
import Mathlib.Data.List.Forall2
import Mathlib.Data.List.Basic

/-!
# Slots that are written

A slot gets another payload. What a kernel asks of the other slots has the same answer as before,
and what it asks of this slot is the new payload.
-/

namespace ImageFlow

namespace Access

variable {access after : Access} {o i : Nat} {payload payload' : Payload} {image : ImageBuffer}
  {array : ArrayBuffer}

/-- The payload of a slot, if there is one. -/
def held (access : Access) (i : Nat) : Option Payload := access.slots[i]?.bind Slot.payload

/-! ## Slots that may be written -/

/-- A slot that may be written and has memory. -/
def MayWrite (access : Access) (o : Nat) : Prop :=
  ∃ payload, access.slots[o]? = some { writable := true, payload := some payload }

theorem slots_replace (access : Access) (o : Nat) (payload : Payload) (i : Nat) :
    (access.replace o payload).slots[i]? = access.slots[i]?.map fun s ↦
      if o = i then { s with payload := some payload } else s := by
  rw [replace, List.getElem?_modify]
  cases access.slots[i]? <;> rfl

theorem slots_replace_of_ne (h : o ≠ i) (payload : Payload) :
    (access.replace o payload).slots[i]? = access.slots[i]? := by
  simp [slots_replace, h]

theorem MayWrite.slots_replace (h : access.MayWrite o) (payload : Payload) :
    (access.replace o payload).slots[o]? =
      some { writable := true, payload := some payload } := by
  obtain ⟨_, hslot⟩ := h
  simp [Access.slots_replace, hslot]

theorem replace_replace (access : Access) (o : Nat) (payload payload' : Payload) :
    (access.replace o payload).replace o payload' = access.replace o payload' := by
  rw [replace, replace, replace, List.modify_modify_eq]
  rfl

theorem payloadToWrite_eq_ok_iff : access.payloadToWrite o = .ok payload ↔
    access.slots[o]? = some { writable := true, payload := some payload } := by
  rw [payloadToWrite, slot]
  rcases access.slots[o]? with - | ⟨writable, found⟩
  · exact iff_of_false (fun h ↦ nomatch h) fun h ↦ nomatch h
  · cases writable <;> cases found <;>
      simp [bind, Except.bind, Slot.readToWrite, Slot.read]

/-! ## Asking for a slot that is written -/

theorem mayWrite_of_imageToWrite (h : access.imageToWrite o = .ok image) :
    access.MayWrite o ∧
      ∀ other, (access.replace o (.image other)).imageToWrite o = .ok other := by
  obtain ⟨payload, hpayload, -⟩ := exists_of_bind_eq_ok h
  have hwrite : access.MayWrite o := ⟨payload, payloadToWrite_eq_ok_iff.1 hpayload⟩
  refine ⟨hwrite, fun other ↦ ?_⟩
  rw [imageToWrite, payloadToWrite_eq_ok_iff.2 (hwrite.slots_replace _)]
  rfl

theorem mayWrite_of_arrayToWrite (h : access.arrayToWrite o = .ok array) :
    access.MayWrite o ∧
      ∀ other, (access.replace o (.array other)).arrayToWrite o = .ok other := by
  obtain ⟨payload, hpayload, -⟩ := exists_of_bind_eq_ok h
  have hwrite : access.MayWrite o := ⟨payload, payloadToWrite_eq_ok_iff.1 hpayload⟩
  refine ⟨hwrite, fun other ↦ ?_⟩
  rw [arrayToWrite, payloadToWrite_eq_ok_iff.2 (hwrite.slots_replace _)]
  rfl

/-- A scalar that has been stored can be stored again. -/
theorem setScalar_of_eq_ok {value : ScalarValue} (h : access.setScalar o value = .ok after) :
    access.MayWrite o ∧ after = access.replace o (.scalar value) ∧
      after.setScalar o value = .ok after := by
  obtain ⟨payload, hpayload, h⟩ := exists_of_bind_eq_ok h
  have hwrite : access.MayWrite o := ⟨payload, payloadToWrite_eq_ok_iff.1 hpayload⟩
  obtain rfl : access.replace o (.scalar value) = after := by
    cases payload with
    | image buffer => cases h
    | array buffer => cases h
    | scalar current =>
      dsimp only at h
      split at h
      · exact Except.ok.inj h
      · cases h
  refine ⟨hwrite, rfl, ?_⟩
  rw [setScalar, payloadToWrite_eq_ok_iff.2 (hwrite.slots_replace _)]
  exact (if_pos rfl).trans (congrArg Except.ok (replace_replace _ _ _ _))

/-! ## Asking for other slots -/

theorem payload_replace_of_ne (h : o ≠ i) (access : Access) (payload : Payload) :
    (access.replace o payload).payload i = access.payload i := by
  rw [Access.payload, Access.payload, slot, slot, slots_replace_of_ne h]

theorem image_replace_of_ne (h : o ≠ i) (access : Access) (payload : Payload) :
    (access.replace o payload).image i = access.image i := by
  rw [Access.image, Access.image, payload_replace_of_ne h]

theorem scalar_replace_of_ne (h : o ≠ i) (access : Access) (payload : Payload) :
    (access.replace o payload).scalar i = access.scalar i := by
  rw [scalar, scalar, payload_replace_of_ne h]

theorem array_replace_of_ne (h : o ≠ i) (access : Access) (payload : Payload) :
    (access.replace o payload).array i = access.array i := by
  rw [Access.array, Access.array, payload_replace_of_ne h]

end Access

/-! ## What a kernel leaves of its slots -/

/-- A slot after a kernel has run: it has memory if it had memory, and what may not be written has
not changed. -/
structure Slot.Kept (before after : Slot) : Prop where
  writable_eq : after.writable = before.writable
  payload_eq : before.writable = false → after.payload = before.payload
  isSome_eq : after.payload.isSome = before.payload.isSome

theorem Slot.Kept.refl (s : Slot) : s.Kept s := ⟨rfl, fun _ ↦ rfl, rfl⟩

theorem Slot.Kept.trans {a b c : Slot} (h : a.Kept b) (h' : b.Kept c) : a.Kept c where
  writable_eq := h'.writable_eq.trans h.writable_eq
  payload_eq hread := (h'.payload_eq (h.writable_eq.trans hread)).trans (h.payload_eq hread)
  isSome_eq := h'.isSome_eq.trans h.isSome_eq

theorem Slot.forall₂_kept_trans {a b c : List Slot} (h : List.Forall₂ Slot.Kept a b)
    (h' : List.Forall₂ Slot.Kept b c) : List.Forall₂ Slot.Kept a c := by
  induction h generalizing c with
  | nil => exact h'
  | cons hhead _ ih =>
    cases h' with
    | cons hhead' htail' => exact .cons (hhead.trans hhead') (ih htail')

/-- The slots of a node after a kernel has run. -/
structure Access.Kept (before after : Access) : Prop where
  node_eq : after.node = before.node
  slots : List.Forall₂ Slot.Kept before.slots after.slots

theorem Access.Kept.refl (access : Access) : access.Kept access :=
  ⟨rfl, List.forall₂_same.2 fun s _ ↦ .refl s⟩

theorem Access.Kept.trans {a b c : Access} (h : a.Kept b) (h' : b.Kept c) : a.Kept c :=
  ⟨h'.node_eq.trans h.node_eq, Slot.forall₂_kept_trans h.slots h'.slots⟩

theorem Access.MayWrite.kept {access : Access} {o : Nat} (h : access.MayWrite o)
    (payload : Payload) : access.Kept (access.replace o payload) := by
  obtain ⟨held, hslot⟩ := h
  refine ⟨rfl, List.forall₂_iff_get.2 ⟨by simp [Access.replace], fun i hbefore hafter ↦ ?_⟩⟩
  have hreplaced := access.slots_replace o payload i
  rw [List.getElem?_eq_getElem hbefore, List.getElem?_eq_getElem hafter] at hreplaced
  have hslots := Option.some.inj hreplaced
  rw [List.get_eq_getElem, List.get_eq_getElem, hslots]
  split
  · next heq =>
    subst heq
    rw [List.getElem?_eq_getElem hbefore] at hslot
    rw [Option.some.inj hslot]
    exact ⟨rfl, fun hread ↦ (nomatch hread), rfl⟩
  · exact .refl _

end ImageFlow
