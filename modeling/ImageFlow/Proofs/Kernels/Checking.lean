import ImageFlow.Kernels.Pattern
import ImageFlow.Proofs.Kernels.Work
import Mathlib.Algebra.Group.Nat.Defs

/-!
# What a check of an image finds

A check compares every byte of every pixel with the byte of the pattern in its place. The bytes that
differ are counted exactly, and the count is then kept in 32 bits. Unless the number of differing
bytes is a positive multiple of `2 ^ 32`, the count that is kept tells whether there are any, and
the check fails if and only if there are. An image with exactly `2 ^ 32` differing bytes passes.
-/

namespace ImageFlow.Kernels

open Stateful Work

/-! ## Counting -/

section Counting

variable {p : Nat → Bool} {period : Nat}

/-- How often a property that comes again after a period holds. -/
theorem countP_range_of_periodic (hp : ∀ k, p (period + k) = p k) (q r : Nat) :
    (List.range (q * period + r)).countP p =
      q * (List.range period).countP p + (List.range r).countP p := by
  induction q with
  | zero => rw [Nat.zero_mul, Nat.zero_mul, Nat.zero_add, Nat.zero_add]
  | succ q ih =>
    have hlater : p ∘ (period + ·) = p := funext hp
    rw [Nat.succ_mul, Nat.succ_mul, Nat.add_right_comm, Nat.add_comm _ period, List.range_add,
      List.countP_append, List.countP_map, hlater, ih]
    omega

theorem countP_range_add (p : Nat → Bool) (m n : Nat) :
    (List.range (m + n)).countP p =
      (List.range m).countP p + (List.range n).countP fun k ↦ p (m + k) := by
  rw [List.range_add, List.countP_append, List.countP_map]
  rfl

/-- Counting bytes together with their places. -/
theorem countP_zipIdx (p : UInt8 × Nat → Bool) (bytes : List UInt8) :
    bytes.zipIdx.countP p = (List.range bytes.length).countP fun k ↦ p (bytes.getD k 0, k) := by
  have hplaces : bytes.zipIdx = (List.range bytes.length).map fun k ↦ (bytes.getD k 0, k) := by
    refine List.ext_getElem (by simp) fun k hk hk' ↦ ?_
    have hin : k < bytes.length := by simpa using hk
    simp [hin]
  rw [hplaces, List.countP_map]
  rfl

end Counting

/-! ## Differing bytes -/

variable {image : ImageBuffer} {value : UInt32}

/-- Every byte of every pixel is the byte of the pattern in its place. -/
def Shows (image : ImageBuffer) (value : UInt32) : Prop :=
  ∀ i < image.pixelCount, ∀ k < image.format.bytesPerPixel,
    image.data.get? (image.pixelOffset i + k) = (patternBytes value)[k]?

/-- Number of bytes of pixels that are not the byte of the pattern in their place. -/
def differing (image : ImageBuffer) (value : UInt32) : Nat :=
  (List.range (image.pixelCount * image.format.bytesPerPixel)).countP fun place ↦
    image.data.get? place != some (patternByte value image.format.bytesPerPixel place)

theorem bytesPerPixel_le (format : PixelFormat) : format.bytesPerPixel ≤ 4 := by
  cases format <;> decide

theorem getElem?_patternBytes {bytesPerPixel i k : Nat} (hk : k < bytesPerPixel)
    (hle : bytesPerPixel ≤ 4) :
    (patternBytes value)[k]? = some (patternByte value bytesPerPixel (i * bytesPerPixel + k)) := by
  have hlength : (patternBytes value).length = 4 := rfl
  rw [patternByte, Nat.mul_add_mod_self_right, Nat.mod_eq_of_lt hk, List.getD_eq_getElem?_getD,
    List.getElem?_eq_getElem (by omega), Option.getD_some]

/-- An image shows a pattern if and only if no byte differs from it. -/
theorem shows_iff : Shows image value ↔ differing image value = 0 := by
  have hpos := image.format.bytesPerPixel_pos
  have hle := bytesPerPixel_le image.format
  simp only [differing, List.countP_eq_zero, List.mem_range, bne_iff_ne, ne_eq, not_not]
  constructor
  · intro h place hplace
    have hplaces := h (place / image.format.bytesPerPixel)
      ((Nat.div_lt_iff_lt_mul hpos).2 hplace) _ (Nat.mod_lt place hpos)
    rw [getElem?_patternBytes (i := place / image.format.bytesPerPixel) (Nat.mod_lt place hpos) hle,
      ImageBuffer.pixelOffset, Nat.div_add_mod'] at hplaces
    exact hplaces
  · intro h i hi k hk
    rw [getElem?_patternBytes (i := i) hk hle]
    refine h _ ?_
    calc i * image.format.bytesPerPixel + k
        < i * image.format.bytesPerPixel + image.format.bytesPerPixel := Nat.add_lt_add_left hk _
      _ = (i + 1) * image.format.bytesPerPixel := (Nat.succ_mul _ _).symm
      _ ≤ image.pixelCount * image.format.bytesPerPixel := Nat.mul_le_mul_right _ hi

theorem nonzeroBytes_eq {bytesPerPixel : Nat} (value : UInt32) (count : Nat) :
    nonzeroBytes value bytesPerPixel count =
      (List.range count).countP fun place ↦ patternByte value bytesPerPixel place != 0 := by
  have hperiodic (k : Nat) : (patternByte value bytesPerPixel (bytesPerPixel + k) != 0) =
      (patternByte value bytesPerPixel k != 0) := by
    rw [patternByte, patternByte, Nat.add_mod_left]
  calc nonzeroBytes value bytesPerPixel count
      = (List.range (count / bytesPerPixel * bytesPerPixel + count % bytesPerPixel)).countP
          fun place ↦ patternByte value bytesPerPixel place != 0 :=
        (countP_range_of_periodic hperiodic _ _).symm
    _ = _ := by rw [Nat.div_add_mod']

/-- The count is exact, also for the zeros that are not stored. -/
theorem mismatches_eq_differing (hfull : image.Full) :
    mismatches image value = differing image value := by
  have hwhole : wholeBytes image = image.pixelCount * image.format.bytesPerPixel := by
    rw [wholeBytes, hfull, Nat.mul_div_cancel _ image.format.bytesPerPixel_pos]
  have hsize : image.data.front.size + image.data.zeros = wholeBytes image := by
    rw [hwhole, ← hfull]
    rfl
  have hstored : image.data.front.toList.take (wholeBytes image) = image.data.front.toList :=
    List.take_of_length_le (by rw [Array.length_toList]; omega)
  have hzeros : (List.range image.data.zeros).countP (fun k ↦
      patternByte value image.format.bytesPerPixel (image.data.front.size + k) != 0) =
        nonzeroBytes value image.format.bytesPerPixel (wholeBytes image) -
          nonzeroBytes value image.format.bytesPerPixel image.data.front.size := by
    rw [nonzeroBytes_eq, nonzeroBytes_eq, ← hsize, countP_range_add, Nat.add_sub_cancel_left]
  rw [mismatches, hstored, countP_zipIdx, Array.length_toList, ← hzeros, differing, ← hwhole,
    ← hsize, countP_range_add]
  congr 1
  · refine List.countP_congr fun place hplace ↦ ?_
    rw [Bytes.get?_front (List.mem_range.1 hplace)]
    simp only [bne_iff_ne, ne_eq, Option.some.injEq]
  · refine List.countP_congr fun k hk ↦ ?_
    rw [Bytes.get?_zeros (List.mem_range.1 hk)]
    simp only [bne_iff_ne, ne_eq, Option.some.injEq]
    exact not_congr eq_comm

/-! ## Runs -/

/-- The slots of a check: an image, a value, and a count that is to be written. -/
def checkSlots (node : NodeId) (image : ImageBuffer) (value count : UInt32) : Access :=
  { node
    slots := [⟨false, some (.image image)⟩, ⟨false, some (.scalar (.u32 value))⟩,
      ⟨true, some (.scalar (.u32 count))⟩] }

/-- A check stores the number of differing bytes modulo `2 ^ 32` and fails unless that is zero. -/
theorem run_check (node : NodeId) (hfull : image.Full) (value old : UInt32) :
    let errors := UInt32.ofNat (differing image value)
    check.execute.run (checkSlots node image value old) =
      (if errors = 0 then .ok ()
        else .error (.failed (mismatchError errors image.data.size value)),
        checkSlots node image value errors) := by
  intro errors
  have hcount : UInt32.ofNat (mismatches image value) = errors :=
    congrArg UInt32.ofNat (mismatches_eq_differing hfull)
  have hpattern : (patternOf 1).run (checkSlots node image value old) =
      (.ok value, checkSlots node image value old) := rfl
  have himage : (ask (·.image 0)).run (checkSlots node image value old) =
      (.ok image, checkSlots node image value old) := rfl
  have hset : (change (·.setScalar 2 (.u32 errors))).run (checkSlots node image value old) =
      (.ok (), checkSlots node image value errors) := rfl
  have hexecute : check.execute = checkExecute := rfl
  rw [hexecute, checkExecute, run_bind, hpattern]
  dsimp only
  rw [run_bind, himage]
  dsimp only
  rw [hcount, run_bind, hset]
  dsimp only
  by_cases hzero : errors = 0
  · rw [if_pos hzero, if_neg (by rw [hzero]; decide)]
    rfl
  · rw [if_neg hzero, if_pos (UInt32.pos_iff_ne_zero.2 hzero)]
    rfl

/-- The number of differing bytes is zero or no multiple of `2 ^ 32`. -/
def Countable (image : ImageBuffer) (value : UInt32) : Prop :=
  2 ^ 32 ∣ differing image value → differing image value = 0

theorem ofNat_eq_zero_iff (h : Countable image value) :
    UInt32.ofNat (differing image value) = 0 ↔ differing image value = 0 := by
  rw [← UInt32.toNat_inj, UInt32.toNat_ofNat']
  exact ⟨fun hzero ↦ h (Nat.dvd_of_mod_eq_zero hzero), fun hzero ↦ by rw [hzero]; rfl⟩

/-- If the number of differing bytes is no positive multiple of `2 ^ 32`, a check passes if and only
if the image shows the pattern; otherwise it fails with the code of a mismatch. The count that it
leaves is zero if and only if no byte differs, and exact as long as it fits in 32 bits. -/
theorem exact_check (node : NodeId) (hfull : image.Full) (hcountable : Countable image value)
    (old : UInt32) :
    let ran := check.execute.run (checkSlots node image value old)
    (ran.1 = .ok () ↔ Shows image value) ∧
      (¬Shows image value → ∃ e, ran.1 = .error (.failed e) ∧ e.code = mismatchCode ∧
        ∃ errors, e = mismatchError errors image.data.size value) ∧
      ∃ errors, ran.2 = checkSlots node image value errors ∧
        (errors = 0 ↔ Shows image value) ∧
        (differing image value < 2 ^ 32 → errors.toNat = differing image value) := by
  intro ran
  have hran : ran = _ := run_check node hfull value old
  have hzero := ofNat_eq_zero_iff hcountable
  rw [hran, shows_iff, ← hzero]
  refine ⟨?_, fun hne ↦ ⟨_, if_neg hne, rfl, _, rfl⟩, _, rfl, Iff.rfl, fun hlt ↦ ?_⟩
  · by_cases hpassed : UInt32.ofNat (differing image value) = 0
    · simp only [hpassed, if_true]
    · simp only [hpassed, if_false, reduceCtorEq]
  · rw [UInt32.toNat_ofNat']
    exact Nat.mod_eq_of_lt hlt

/-- One byte of four differs. -/
theorem exact_check_one :
    let image : ImageBuffer :=
      { width := 2, height := 2, format := .u8, data := .ofArray #[7, 7, 0, 7] }
    image.Full ∧ Countable image 0x07070707 ∧
      (check.execute.run (checkSlots ⟨0⟩ image 0x07070707 0)).1 ≠ .ok () ∧
      (check.execute.run (checkSlots ⟨0⟩ image 0x07070707 0)).2 =
        checkSlots ⟨0⟩ image 0x07070707 1 := by
  intro image
  have hfull : image.Full := by decide
  have hone : differing image 0x07070707 = 1 := by decide
  have hcountable : Countable image 0x07070707 := by
    rw [Countable, hone]
    decide
  obtain ⟨hpassed, -, errors, hleft, -, hexact⟩ := exact_check ⟨0⟩ hfull hcountable 0
  refine ⟨hfull, hcountable, ?_, ?_⟩
  · rw [ne_eq, hpassed, shows_iff, hone]
    decide
  · have herrors : errors = 1 := UInt32.toNat_inj.1 ((hexact (by rw [hone]; decide)).trans hone)
    rw [hleft, herrors]

/-- A black image of `2 ^ 30` pixels can be made, and every one of its `2 ^ 32` bytes differs from a
white pattern. The check passes all the same and reports no differences. -/
theorem passed_black :
    let image : ImageBuffer := .blank 32768 32768 .rgbx
    image.descriptor.fault? = none ∧ image.Full ∧ ¬Shows image 0xffffffff ∧
      differing image 0xffffffff = 2 ^ 32 ∧
      check.execute.run (checkSlots ⟨0⟩ image 0xffffffff 7) =
        (.ok (), checkSlots ⟨0⟩ image 0xffffffff 0) := by
  intro image
  have hfull : image.Full := by decide +kernel
  have hcount : differing image 0xffffffff = 2 ^ 32 := by
    rw [← mismatches_eq_differing hfull]
    decide +kernel
  refine ⟨by decide +kernel, hfull, ?_, hcount, ?_⟩
  · rw [shows_iff, hcount]
    decide
  · rw [run_check ⟨0⟩ hfull, hcount]
    rfl

end ImageFlow.Kernels
