import ImageFlow.Data.Object
import ImageFlow.Proofs.Data.Sizes

/-!
# Memory that fits its shape

A shape says how much memory an object has and of what kind: the bytes of an image, the type of a
scalar, the item type and the capacity of an array. Zeroed memory for a shape fits it, as long as
objects of that shape can be made: the size of a larger image would no longer be exact.
-/

namespace ImageFlow

/-- A payload that has the shape of a descriptor. -/
def Payload.Matches : Payload → Descriptor → Prop
  | .image buffer, .image width height format =>
    buffer.width = width ∧ buffer.height = height ∧ buffer.format = format ∧
      buffer.data.size = width * height * format.bytesPerPixel
  | .scalar value, .scalar type => value.type = type
  | .array buffer, .array item capacity =>
    buffer.item = item ∧ buffer.capacity = capacity ∧ buffer.items.length ≤ capacity ∧
      ∀ value ∈ buffer.items, value.type = item
  | _, _ => False

instance (payload : Payload) (descriptor : Descriptor) : Decidable (payload.Matches descriptor) :=
  match payload, descriptor with
  | .image buffer, .image width height format => inferInstanceAs (Decidable
      (buffer.width = width ∧ buffer.height = height ∧ buffer.format = format ∧
        buffer.data.size = width * height * format.bytesPerPixel))
  | .scalar value, .scalar type => inferInstanceAs (Decidable (value.type = type))
  | .array buffer, .array item capacity => inferInstanceAs (Decidable
      (buffer.item = item ∧ buffer.capacity = capacity ∧ buffer.items.length ≤ capacity ∧
        ∀ value ∈ buffer.items, value.type = item))
  | .image _, .scalar _ | .image _, .array .. | .scalar _, .image .. | .scalar _, .array ..
  | .array _, .image .. | .array _, .scalar _ => .isFalse id

/-! ## Zeroed memory -/

/-- Zeroed memory has the shape it was made for. -/
theorem Payload.blank_matches {descriptor : Descriptor} (h : descriptor.fault? = none) :
    (Payload.blank descriptor).Matches descriptor := by
  cases descriptor with
  | image width height format =>
    have hpossible := Descriptor.fault?_eq_none_iff.1 h
    refine ⟨rfl, rfl, rfl, ?_⟩
    rw [ImageBuffer.blank, Bytes.size_blank, hpossible.byteSize_eq, Descriptor.exactSize]
  | scalar type => exact type.type_zero
  | array item capacity => exact ⟨rfl, rfl, Nat.zero_le _, by simp [ArrayBuffer.empty]⟩

/-- Memory that could be had is zeroed. -/
theorem Payload.eq_blank_of_need {ε : Type} {descriptor : Descriptor} {payload : Payload}
    (h : (Stop.need (allocate? descriptor) : Except (Stop ε) Payload) = .ok payload) :
    payload = .blank descriptor := by
  unfold allocate? at h
  split at h
  · exact (Except.ok.inj h).symm
  · cases h

/-! ## Arrays -/

/-- Replacing the items keeps the shape of an array. -/
theorem Payload.matches_of_setItems {array filled : ArrayBuffer} {items : List ScalarValue}
    {descriptor : Descriptor} (h : array.setItems items = .ok filled)
    (hmatches : (Payload.array array).Matches descriptor) :
    (Payload.array filled).Matches descriptor := by
  cases descriptor with
  | image width height format => cases hmatches
  | scalar type => cases hmatches
  | array item capacity =>
    obtain ⟨hitem, hcapacity, -, -⟩ := hmatches
    unfold ArrayBuffer.setItems at h
    split at h
    · cases h
    · next hnone =>
      cases h
      refine ⟨hitem, hcapacity, hcapacity ▸ List.length_take_le _ _, fun value hvalue ↦ ?_⟩
      have htype := List.find?_eq_none.1 hnone value (List.mem_of_mem_take hvalue)
      simpa [hitem] using htype

theorem ArrayBuffer.exists_setItems {array : ArrayBuffer} {items : List ScalarValue}
    (h : ∀ value ∈ items, value.type = array.item) :
    ∃ filled, array.setItems items = .ok filled := by
  have hnone : items.find? (·.type != array.item) = none :=
    List.find?_eq_none.2 fun value hvalue ↦ by simp [h value hvalue]
  exact ⟨_, by rw [setItems, hnone]⟩

/-! ## Pixels -/

namespace ImageBuffer

variable {image : ImageBuffer} {i : Nat}

/-- The bytes of every pixel are there, and no more. -/
def Full (image : ImageBuffer) : Prop :=
  image.data.size = image.pixelCount * image.format.bytesPerPixel

instance (image : ImageBuffer) : Decidable image.Full := inferInstanceAs (Decidable (_ = _))

/-- A buffer of the same shape with as many bytes. -/
structure SameSize (before after : ImageBuffer) : Prop where
  width_eq : after.width = before.width
  height_eq : after.height = before.height
  format_eq : after.format = before.format
  size_eq : after.data.size = before.data.size

theorem SameSize.refl (image : ImageBuffer) : image.SameSize image := ⟨rfl, rfl, rfl, rfl⟩

theorem SameSize.trans {first second third : ImageBuffer} (h : first.SameSize second)
    (h' : second.SameSize third) : first.SameSize third where
  width_eq := h'.width_eq.trans h.width_eq
  height_eq := h'.height_eq.trans h.height_eq
  format_eq := h'.format_eq.trans h.format_eq
  size_eq := h'.size_eq.trans h.size_eq

/-- Images of one shape that have all their bytes have as many. -/
theorem Full.sameSize {before after : ImageBuffer} (h : before.Full) (h' : after.Full)
    (hwidth : after.width = before.width) (hheight : after.height = before.height)
    (hformat : after.format = before.format) : before.SameSize after where
  width_eq := hwidth
  height_eq := hheight
  format_eq := hformat
  size_eq := by rw [h, h', pixelCount, pixelCount, hwidth, hheight, hformat]

theorem SameSize.full {before after : ImageBuffer} (h : before.SameSize after)
    (hfull : before.Full) : after.Full := by
  rw [Full, pixelCount, h.width_eq, h.height_eq, h.format_eq, h.size_eq]
  exact hfull

theorem Full.hasPixel (h : image.Full) (hi : i < image.pixelCount) : image.hasPixel i = true := by
  rw [ImageBuffer.hasPixel, decide_eq_true_eq, pixelOffset, h]
  exact Nat.mul_le_mul_right _ hi

theorem Full.exists_sample (h : image.Full) (hi : i < image.pixelCount) :
    ∃ number, image.sample? i = some number := by
  rw [sample?, if_pos (h.hasPixel hi)]
  exact ⟨_, rfl⟩

theorem size_overwrite (data : Bytes) (start : Nat) (bytes : List UInt8) :
    (overwrite data start bytes).size = data.size := by
  induction bytes generalizing data start with
  | nil => rfl
  | cons b rest ih => rw [overwrite, ih, Bytes.size_set]

theorem Full.exists_store (h : image.Full) (hi : i < image.pixelCount) (number : Int) :
    ∃ stored, image.store? i number = some stored ∧ image.SameSize stored := by
  rw [store?, if_pos (h.hasPixel hi)]
  exact ⟨_, rfl, rfl, rfl, rfl, size_overwrite _ _ _⟩

/-- Storing a number in each of a list of pixels. -/
theorem Full.exists_foldlM (h : image.Full) {places : List Nat} {value : Nat → Option Int}
    (hplaces : ∀ i ∈ places, i < image.pixelCount ∧ (value i).isSome = true) :
    ∃ stored, places.foldlM (fun image i ↦ do ImageBuffer.store? image i (← value i)) image =
      some stored ∧ image.SameSize stored := by
  induction places generalizing image with
  | nil => exact ⟨image, rfl, .refl image⟩
  | cons i rest ih =>
    obtain ⟨⟨hi, hvalue⟩, hrest⟩ := List.forall_mem_cons.1 hplaces
    obtain ⟨number, hnumber⟩ := Option.isSome_iff_exists.1 hvalue
    obtain ⟨first, hfirst, hsame⟩ := h.exists_store hi number
    have hcount : first.pixelCount = image.pixelCount := by
      rw [pixelCount, pixelCount, hsame.width_eq, hsame.height_eq]
    obtain ⟨stored, hstored, hothers⟩ := ih (hsame.full h) (hcount.symm ▸ hrest)
    refine ⟨stored, ?_, hsame.trans hothers⟩
    rw [List.foldlM_cons, hnumber]
    change (image.store? i number >>= _) = _
    rw [hfirst]
    exact hstored

end ImageBuffer

/-! ## Objects -/

namespace DataObject

/-- The shape of an object is one of which objects can be made, and its memory has that shape. -/
structure Fits (object : DataObject) : Prop where
  possible : ∀ descriptor, object.descriptor? = some descriptor → descriptor.fault? = none
  shapeless : object.descriptor? = none → object.payload = none
  memory : ∀ descriptor payload, object.descriptor? = some descriptor →
    object.payload = some payload → payload.Matches descriptor

variable {object before after : DataObject} {descriptor : Descriptor} {payload : Payload}

theorem Fits.exists_matches (h : object.Fits) (hpayload : object.payload = some payload) :
    ∃ descriptor, object.descriptor? = some descriptor ∧ payload.Matches descriptor := by
  cases hdescriptor : object.descriptor? with
  | none =>
    rw [h.shapeless hdescriptor] at hpayload
    cases hpayload
  | some descriptor => exact ⟨descriptor, rfl, h.memory descriptor payload hdescriptor hpayload⟩

/-- An object with the same shape and the same memory. -/
theorem Fits.congr (h : before.Fits) (hstate : after.state = before.state)
    (hpayload : after.payload = before.payload) : after.Fits := by
  have hdescriptor : after.descriptor? = before.descriptor? := by
    rw [descriptor?, hstate, descriptor?]
  constructor
  · rw [hdescriptor]
    exact h.possible
  · rw [hdescriptor, hpayload]
    exact h.shapeless
  · rw [hdescriptor, hpayload]
    exact h.memory

/-- An object that gets memory of its shape. -/
theorem Fits.withPayload (h : object.Fits) (hdescriptor : object.descriptor? = some descriptor)
    (hmatches : payload.Matches descriptor) :
    Fits { object with payload := some payload } where
  possible := h.possible
  shapeless hnone := by
    rw [show object.descriptor? = none from hnone] at hdescriptor
    cases hdescriptor
  memory shape held hshape hheld := by
    cases hdescriptor.symm.trans hshape
    cases hheld
    exact hmatches

theorem fits_concrete {id : DataId} (hfault : descriptor.fault? = none)
    (hmatches : payload.Matches descriptor) : (concrete id descriptor payload).Fits where
  possible shape hshape := by
    cases hshape
    exact hfault
  shapeless hnone := by cases hnone
  memory shape held hshape hheld := by
    cases hshape
    cases hheld
    exact hmatches

/-- An object without shape and memory. -/
theorem fits_of_pending (hstate : object.state = .pending) (hpayload : object.payload = none) :
    object.Fits where
  possible shape hshape := by
    rw [descriptor?, hstate] at hshape
    cases hshape
  shapeless _ := hpayload
  memory shape held _ hheld := by
    rw [hpayload] at hheld
    cases hheld

/-- A virtual object that takes a possible shape has no memory yet. -/
theorem Fits.resolved (h : object.Fits) (hstate : object.state = .pending)
    (hfault : descriptor.fault? = none) : Fits { object with state := .resolved descriptor } where
  possible shape hshape := by
    cases hshape
    exact hfault
  shapeless hnone := by cases hnone
  memory shape held _ hheld := by
    have hnone := h.shapeless (by rw [descriptor?, hstate])
    cases hnone.symm.trans hheld

end DataObject

end ImageFlow
