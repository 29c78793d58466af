import ImageFlow.Data.Bytes

/-!
# What byte strings hold

A byte string is known by its size and by the byte at every place. What is stored and what is only
counted does not show: two byte strings with the same byte at every place are the same, and every
operation is described by the bytes that it leaves.
-/

namespace ImageFlow.Bytes

variable {bytes other : Bytes} {front : Array UInt8} {i : Nat}

/-! ## Looking at places -/

theorem get?_of_lt (h : i < bytes.size) : bytes.get? i = some (bytes.front.getD i 0) := if_pos h

/-- The bytes that are stored, and the zeros after them. -/
theorem get?_front (h : i < bytes.front.size) :
    bytes.get? i = some (bytes.front.toList.getD i 0) := by
  rw [get?_of_lt (Nat.lt_of_lt_of_le h (Nat.le_add_right _ _))]
  simp [Array.getD_eq_getD_getElem?]

theorem get?_zeros (h : i < bytes.zeros) : bytes.get? (bytes.front.size + i) = some 0 := by
  rw [get?_of_lt (Nat.add_lt_add_left h _), Array.getD_eq_getD_getElem?,
    Array.getElem?_eq_none (Nat.le_add_right _ _)]
  rfl

theorem get?_eq_none_iff : bytes.get? i = none ↔ bytes.size ≤ i := by
  rw [get?]
  split <;> simp <;> omega

theorem isSome_get?_iff : (bytes.get? i).isSome = true ↔ i < bytes.size := by
  rw [Option.isSome_iff_ne_none, Ne, get?_eq_none_iff, Nat.not_le]

/-- A byte string that stores more than another one has a byte there that is not zero. -/
theorem size_front_le (h : ∀ i, bytes.get? i = other.get? i) (hsize : bytes.size = other.size) :
    bytes.front.size ≤ other.front.size := by
  refine Nat.not_lt.1 fun hlt ↦ ?_
  have hback := bytes.back_ne
  have hplace := h (bytes.front.size - 1)
  rw [get?_of_lt (by rw [size]; omega), get?_of_lt (by rw [← hsize, size]; omega)] at hplace
  rw [Array.back?_eq_getElem?, Array.getElem?_eq_getElem (by omega)] at hback
  rw [Array.getD_eq_getD_getElem?, Array.getD_eq_getD_getElem?,
    Array.getElem?_eq_getElem (by omega), Array.getElem?_eq_none (by omega)] at hplace
  exact hback hplace

/-- The byte at every place makes up a byte string. -/
theorem ext_get? (h : ∀ i, bytes.get? i = other.get? i) : bytes = other := by
  have hsize : bytes.size = other.size := by
    have hreach (i : Nat) : i < bytes.size ↔ i < other.size := by
      rw [← isSome_get?_iff, ← isSome_get?_iff, h i]
    have hleft := hreach other.size
    have hright := hreach bytes.size
    omega
  have hstored : bytes.front.size = other.front.size :=
    Nat.le_antisymm (size_front_le h hsize) (size_front_le (fun i ↦ (h i).symm) hsize.symm)
  have hfront : bytes.front = other.front := by
    refine Array.ext hstored fun i hi hi' ↦ ?_
    have hplace := h i
    rw [get?_of_lt (by rw [size]; omega), get?_of_lt (by rw [size]; omega)] at hplace
    simpa [Array.getD_eq_getD_getElem?, hi, hi'] using hplace
  have hzeros : bytes.zeros = other.zeros := by
    rw [size, size] at hsize
    omega
  obtain ⟨front, zeros, hback⟩ := bytes
  obtain ⟨front', zeros', hback'⟩ := other
  dsimp only at hfront hzeros
  subst hfront hzeros
  rfl

/-! ## Making byte strings -/

theorem size_blank (size : Nat) : (blank size).size = size := Nat.zero_add size

theorem size_trim_le (count : Nat) (front : Array UInt8) :
    (trim count front).size ≤ front.size := by
  induction count generalizing front with
  | zero => exact Nat.le_refl _
  | succ count ih =>
    rw [trim]
    split
    · exact Nat.le_trans (ih front.pop) (by rw [Array.size_pop]; omega)
    · exact Nat.le_refl _

/-- Only zeros are taken away. -/
theorem getD_trim (count : Nat) (front : Array UInt8) (i : Nat) :
    (trim count front).getD i 0 = front.getD i 0 := by
  induction count generalizing front with
  | zero => rfl
  | succ count ih =>
    rw [trim]
    split
    · next hback =>
      rw [Array.back?_eq_getElem?] at hback
      rw [ih, Array.getD_eq_getD_getElem?, Array.getD_eq_getD_getElem?, Array.getElem?_pop]
      split
      · rfl
      · by_cases hlast : i = front.size - 1
        · rw [hlast, hback]
          rfl
        · rw [Array.getElem?_eq_none (by omega)]
    · rfl

theorem size_padded (front : Array UInt8) (zeros : Nat) :
    (padded front zeros).size = front.size + zeros := by
  have hle := size_trim_le front.size front
  rw [size, padded]
  dsimp only
  omega

theorem get?_padded (front : Array UInt8) (zeros i : Nat) :
    (padded front zeros).get? i =
      if i < front.size + zeros then some (front.getD i 0) else none := by
  rw [get?, size_padded]
  exact congrArg (fun b ↦ if i < front.size + zeros then some b else none) (getD_trim _ _ i)

theorem size_ofArray (bytes : Array UInt8) : (ofArray bytes).size = bytes.size := size_padded _ 0

theorem get?_ofArray (bytes : Array UInt8) (i : Nat) : (ofArray bytes).get? i = bytes[i]? := by
  rw [ofArray, get?_padded, Nat.add_zero, Array.getD_eq_getD_getElem?]
  split
  · next hi => rw [Array.getElem?_eq_getElem hi, Option.getD_some]
  · next hi => rw [Array.getElem?_eq_none (Nat.not_lt.1 hi)]

theorem size_toArray (bytes : Bytes) : bytes.toArray.size = bytes.size := by
  rw [toArray, Array.size_append, Array.size_replicate, size]

theorem getElem?_toArray (bytes : Bytes) (i : Nat) : bytes.toArray[i]? = bytes.get? i := by
  rw [toArray, get?, size, Array.getElem?_append, Array.getElem?_replicate,
    Array.getD_eq_getD_getElem?]
  by_cases hi : i < bytes.front.size
  · rw [if_pos hi, if_pos (by omega), Array.getElem?_eq_getElem hi, Option.getD_some]
  · rw [if_neg hi, Array.getElem?_eq_none (Nat.not_lt.1 hi), Option.getD_none]
    simp only [Nat.sub_lt_iff_lt_add' (Nat.not_lt.1 hi)]

/-! ## Changing byte strings -/

theorem size_set (bytes : Bytes) (i : Nat) (b : UInt8) : (bytes.set i b).size = bytes.size := by
  rw [set]
  split
  · rw [size_padded, Array.size_setIfInBounds, Array.size_append, Array.size_replicate]
    rw [size] at *
    omega
  · rfl

/-- Zeros at the end are as good as nothing. -/
theorem getD_append_replicate (front : Array UInt8) (zeros i : Nat) :
    (front ++ Array.replicate zeros 0).getD i 0 = front.getD i 0 := by
  rw [Array.getD_eq_getD_getElem?, Array.getD_eq_getD_getElem?, Array.getElem?_append]
  split
  · rfl
  · next hi =>
    rw [Array.getElem?_eq_none (Nat.not_lt.1 hi), Array.getElem?_replicate]
    split <;> rfl

theorem get?_set (bytes : Bytes) (i : Nat) (b : UInt8) (place : Nat) :
    (bytes.set i b).get? place =
      if i = place then (if i < bytes.size then some b else none) else bytes.get? place := by
  rw [set]
  split
  · next hi =>
    have hsize : bytes.front.size + (i + 1 - bytes.front.size) +
        (bytes.size - max bytes.front.size (i + 1)) = bytes.size := by
      rw [size] at *
      omega
    rw [get?_padded, Array.size_setIfInBounds, Array.size_append, Array.size_replicate, hsize]
    by_cases hplace : i = place
    · subst hplace
      rw [if_pos hi, if_pos rfl, Array.getD_eq_getD_getElem?,
        Array.getElem?_setIfInBounds_self_of_lt, Option.getD_some]
      rw [Array.size_append, Array.size_replicate]
      omega
    · rw [if_neg hplace, Array.getD_eq_getD_getElem?, Array.getElem?_setIfInBounds_ne hplace,
        ← Array.getD_eq_getD_getElem?, getD_append_replicate]
      rfl
  · next hi =>
    split
    · next hplace => rw [← hplace, get?_eq_none_iff.2 (Nat.not_lt.1 hi)]
    · rfl

theorem size_mapIdx (f : Nat → UInt8 → UInt8) (bytes : Bytes) :
    (bytes.mapIdx f).size = bytes.size := by
  rw [mapIdx, size_ofArray, Array.size_mapIdx, size_toArray]

theorem get?_mapIdx (f : Nat → UInt8 → UInt8) (bytes : Bytes) (i : Nat) :
    (bytes.mapIdx f).get? i = (bytes.get? i).map (f i) := by
  rw [mapIdx, get?_ofArray, Array.getElem?_mapIdx, getElem?_toArray]

theorem size_zipWith (f : UInt8 → UInt8 → UInt8) (a b : Bytes) :
    (zipWith f a b).size = min a.size b.size := by
  rw [zipWith, size_ofArray, Array.size_zipWith, size_toArray, size_toArray]

end ImageFlow.Bytes
