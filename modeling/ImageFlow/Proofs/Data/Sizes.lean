import ImageFlow.Data.Payload
import ImageFlow.Proofs.Data.Bytes
import Mathlib.Algebra.Group.Nat.Defs

/-!
# Exact sizes

The size of a shape is computed twice. When an object is to be made, words are multiplied by a
product that can be none, and the result must be small enough for one allocation; when a size is
asked for, the product stops at the largest word. Neither of them wraps, and where objects can be
made both are the product of natural numbers: no factor after the first product is zero, so every
product on the way is at most the last one, which is a word. A product that is none has passed the
bound already.

The items of an array are counted by the size of their type, but kept in eight bytes each. The two
sizes part at the top: an array of `2 ^ 60` items or more can be made by its count, and its memory
cannot be reserved.
-/

namespace ImageFlow

theorem maxAllocation_le_maxWord : maxAllocation ≤ maxWord := by decide

theorem PixelFormat.bytesPerPixel_pos (format : PixelFormat) : 0 < format.bytesPerPixel := by
  cases format <;> decide

theorem ScalarType.size_le (type : ScalarType) : type.size ≤ 4 := by
  cases type <;> decide

/-! ## Two products of words -/

theorem checkedMul_eq_some_iff {a b product : Nat} :
    checkedMul a b = some product ↔ a * b = product ∧ product ≤ maxWord := by
  rw [checkedMul]
  split
  · next hle => simpa using fun h : a * b = product ↦ h ▸ hle
  · next hlt => simpa using fun h : a * b = product ↦ h ▸ Nat.not_le.1 hlt

theorem saturatingMul_eq_mul {a b : Nat} (h : a * b ≤ maxWord) : saturatingMul a b = a * b :=
  Nat.min_eq_left h

namespace Descriptor

variable {descriptor : Descriptor} {width height capacity bytes : Nat} {format : PixelFormat}
  {item : ScalarType}

theorem pixels_le_bytes (width height : Nat) (format : PixelFormat) :
    width * height ≤ width * height * format.bytesPerPixel :=
  Nat.le_mul_of_pos_right _ format.bytesPerPixel_pos

theorem imageSize?_eq_some_iff : imageSize? width height format = some bytes ↔
    width * height * format.bytesPerPixel = bytes ∧ bytes ≤ maxAllocation := by
  simp only [imageSize?, Option.filter_eq_some_iff, Option.bind_eq_some_iff, checkedMul_eq_some_iff,
    decide_eq_true_eq]
  constructor
  · rintro ⟨⟨pixels, ⟨rfl, -⟩, hbytes, -⟩, hle⟩
    exact ⟨hbytes, hle⟩
  · rintro ⟨rfl, hle⟩
    have hword := Nat.le_trans hle maxAllocation_le_maxWord
    exact ⟨⟨_, ⟨rfl, Nat.le_trans (pixels_le_bytes width height format) hword⟩, rfl, hword⟩, hle⟩

theorem arraySize?_eq_some_iff : arraySize? item capacity = some bytes ↔
    item.size * capacity = bytes ∧ bytes ≤ maxAllocation := by
  simp only [arraySize?, Option.filter_eq_some_iff, checkedMul_eq_some_iff, decide_eq_true_eq]
  constructor
  · rintro ⟨⟨hbytes, -⟩, hle⟩
    exact ⟨hbytes, hle⟩
  · rintro ⟨hbytes, hle⟩
    exact ⟨⟨hbytes, Nat.le_trans hle maxAllocation_le_maxWord⟩, hle⟩

theorem isSome_imageSize?_iff : (imageSize? width height format).isSome = true ↔
    width * height * format.bytesPerPixel ≤ maxAllocation := by
  simp [Option.isSome_iff_exists, imageSize?_eq_some_iff]

theorem isSome_arraySize?_iff : (arraySize? item capacity).isSome = true ↔
    item.size * capacity ≤ maxAllocation := by
  simp [Option.isSome_iff_exists, arraySize?_eq_some_iff]

theorem imageSizeFault?_eq_none_iff : imageSizeFault? width height format = none ↔
    width * height * format.bytesPerPixel ≤ maxAllocation := by
  rw [imageSizeFault?, ← isSome_imageSize?_iff]
  split <;> simp [*]

/-! ## Shapes of which objects can be made -/

/-- Number of bytes that a shape stands for, not cut off at any word. -/
def exactSize : Descriptor → Nat
  | image width height format => width * height * format.bytesPerPixel
  | scalar type => type.size
  | array item capacity => item.size * capacity

/-- Nothing about the shape is zero, and its exact size is below half of the address space. -/
def Possible : Descriptor → Prop
  | image width height format =>
    width ≠ 0 ∧ height ≠ 0 ∧ width * height * format.bytesPerPixel ≤ 2 ^ 63 - 1
  | scalar _ => True
  | array item capacity => capacity ≠ 0 ∧ item.size * capacity ≤ 2 ^ 63 - 1

instance : DecidablePred Possible
  | image width height format => inferInstanceAs (Decidable
      (width ≠ 0 ∧ height ≠ 0 ∧ width * height * format.bytesPerPixel ≤ 2 ^ 63 - 1))
  | scalar _ => .isTrue trivial
  | array item capacity =>
    inferInstanceAs (Decidable (capacity ≠ 0 ∧ item.size * capacity ≤ 2 ^ 63 - 1))

theorem fault?_eq_none_iff : descriptor.fault? = none ↔ descriptor.Possible := by
  cases descriptor with
  | image width height format =>
    calc (image width height format).fault? = none
        ↔ ¬(width = 0 ∨ height = 0) ∧ imageSizeFault? width height format = none := by
          rw [fault?]
          split <;> simp [*]
      _ ↔ (image width height format).Possible := by
          rw [imageSizeFault?_eq_none_iff, not_or, and_assoc]
          rfl
  | scalar type => exact iff_of_true rfl trivial
  | array item capacity =>
    calc (array item capacity).fault? = none
        ↔ capacity ≠ 0 ∧ (arraySize? item capacity).isSome = true := by
          rw [fault?]
          split
          · simp [*]
          · split <;> simp [*]
      _ ↔ (array item capacity).Possible := by
          rw [isSome_arraySize?_iff]
          rfl

/-- What is wrong with a shape is said exactly if something is. -/
theorem exists_fault_of_not_possible (h : ¬descriptor.Possible) :
    ∃ fault, descriptor.fault? = some fault :=
  Option.ne_none_iff_exists'.1 (mt fault?_eq_none_iff.1 h)

theorem Possible.exactSize_le (h : descriptor.Possible) : descriptor.exactSize ≤ maxAllocation := by
  cases descriptor with
  | image width height format => exact h.2.2
  | scalar type => exact Nat.le_trans type.size_le (by decide)
  | array item capacity => exact h.2

theorem byteSize_image (h : width * height * format.bytesPerPixel ≤ maxWord) :
    (image width height format).byteSize = width * height * format.bytesPerPixel := by
  have hpixels : saturatingMul width height = width * height :=
    saturatingMul_eq_mul (Nat.le_trans (pixels_le_bytes width height format) h)
  rw [byteSize, hpixels, saturatingMul_eq_mul h]

/-- The product that stops at the largest word has not stopped. -/
theorem Possible.byteSize_eq (h : descriptor.Possible) :
    descriptor.byteSize = descriptor.exactSize := by
  have hword : descriptor.exactSize ≤ maxWord :=
    Nat.le_trans h.exactSize_le maxAllocation_le_maxWord
  cases descriptor with
  | image width height format => exact byteSize_image hword
  | scalar type => rfl
  | array item capacity => exact saturatingMul_eq_mul hword

/-! ## Memory for a shape -/

theorem isAddressable_iff :
    descriptor.isAddressable = true ↔ descriptor.reservedBytes ≤ maxAllocation := by
  rw [isAddressable, decide_eq_true_eq]

/-- Memory is short only for arrays. -/
theorem Possible.isAddressable_image (h : (image width height format).Possible) :
    (image width height format).isAddressable = true := by
  have hreserved : (image width height format).reservedBytes =
      (image width height format).exactSize := h.byteSize_eq
  rw [isAddressable_iff, hreserved]
  exact h.exactSize_le

/-- The memory of an array depends on its capacity alone. -/
theorem isAddressable_array_iff :
    (array item capacity).isAddressable = true ↔ capacity < 2 ^ 60 := by
  have hreserved : (array item capacity).reservedBytes = 8 * capacity := rfl
  have hmax : maxAllocation = 2 ^ 63 - 1 := rfl
  rw [isAddressable_iff, hreserved, hmax]
  omega

end Descriptor

namespace Payload

theorem allocate?_eq_none_iff {descriptor : Descriptor} :
    allocate? descriptor = none ↔ descriptor.isAddressable = false := by
  simp [allocate?]

theorem allocate?_of_isAddressable {descriptor : Descriptor}
    (h : descriptor.isAddressable = true) : allocate? descriptor = some (blank descriptor) :=
  if_pos h

end Payload

/-- A zeroed byte string holds as many zeros as it was made with. -/
theorem Bytes.get?_blank {size i : Nat} (h : i < size) : (Bytes.blank size).get? i = some 0 := by
  have hplace : i < (blank size).size := by rwa [size_blank]
  rw [get?_of_lt hplace]
  rfl

end ImageFlow
