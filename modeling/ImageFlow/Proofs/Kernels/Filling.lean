import ImageFlow.Proofs.Kernels.Checking

/-!
# What a fill leaves

A fill goes through an image chunk by chunk, a chunk for each pixel, and copies the lowest bytes of
a value to each of them. After a number of chunks the bytes of these show the value, and all others
are as they were. An image has as many bytes as its pixels need, so there is no remainder that would
be left out: in the end every byte is the byte of the value in its place, and a check finds nothing.
-/

namespace ImageFlow

/-- The bytes of a natural number, lowest first. -/
theorem Word.getD_ofInt {count k : Nat} (hk : k < count) (n : Nat) :
    (Word.ofInt count n).getD k 0 = UInt8.ofNat (n / 256 ^ k) := by
  induction count generalizing k n with
  | zero => exact absurd hk k.not_lt_zero
  | succ count ih =>
    cases k with
    | zero =>
      have hlow : ((n : Int) % 256).toNat = n % 2 ^ 8 := by omega
      rw [Word.ofInt, List.getD_cons_zero, hlow, UInt8.ofNat_mod_size, Nat.pow_zero, Nat.div_one]
    | succ k =>
      have hrest : (n : Int) / 256 = ((n / 256 : Nat) : Int) := by omega
      rw [Word.ofInt, List.getD_cons_succ, hrest, ih (Nat.lt_of_succ_lt_succ hk),
        Nat.div_div_eq_div_mul, Nat.pow_succ']

namespace Kernels

open Stateful Work

/-! ## Chunks -/

theorem size_copyAt (pixel : List UInt8) (place : Nat) (bytes : Array UInt8) :
    (copyAt pixel place bytes).size = bytes.size := by
  induction pixel generalizing place bytes with
  | nil => rfl
  | cons b rest ih => rw [copyAt, ih, Array.size_setIfInBounds]

theorem getElem?_copyAt (pixel : List UInt8) (place : Nat) (bytes : Array UInt8) (p : Nat) :
    (copyAt pixel place bytes)[p]? = bytes[p]?.map fun old ↦
      if place ≤ p ∧ p < place + pixel.length then pixel.getD (p - place) 0 else old := by
  induction pixel generalizing place bytes with
  | nil =>
    have hnone : ¬(place ≤ p ∧ p < place + 0) := by omega
    simp only [copyAt, List.length_nil, if_neg hnone, Option.map_id']
  | cons b rest ih =>
    have hset : (bytes.setIfInBounds place b)[p]? =
        bytes[p]?.map fun old ↦ if place = p then b else old := by
      rw [Array.getElem?_setIfInBounds]
      by_cases hp : place = p
      · subst hp
        by_cases hsize : place < bytes.size <;> simp [hsize]
      · simp [hp]
    rw [copyAt, ih, hset, Option.map_map]
    refine Option.map_congr fun old _ ↦ ?_
    rw [Function.comp_apply, List.length_cons]
    rcases Nat.lt_trichotomy p place with hlt | heq | hgt
    · rw [if_neg (by omega), if_neg (by omega), if_neg (by omega)]
    · rw [if_neg (by omega), if_pos heq.symm, if_pos (by omega), heq, Nat.sub_self]
      rfl
    · have hnext : p - place = p - (place + 1) + 1 := by omega
      have hsame : (place + 1 ≤ p ∧ p < place + 1 + rest.length) ↔
          place ≤ p ∧ p < place + (rest.length + 1) := by omega
      simp only [hsame, if_neg (Nat.ne_of_lt hgt), hnext, List.getD_cons_succ]

theorem size_fillChunks (pixel : List UInt8) (length chunks : Nat) (bytes : Array UInt8) :
    (fillChunks pixel length chunks bytes).size = bytes.size := by
  induction chunks with
  | zero => rfl
  | succ chunks ih =>
    rw [fillChunks, Nat.fold_succ, size_copyAt]
    exact ih

/-- After a number of chunks the bytes of these are those of the pixel, each in its place, and all
others are as they were. -/
theorem getElem?_fillChunks {pixel : List UInt8} {length : Nat} (hlength : pixel.length = length)
    (chunks : Nat) (bytes : Array UInt8) (p : Nat) :
    (fillChunks pixel length chunks bytes)[p]? = bytes[p]?.map fun old ↦
      if p < chunks * length then pixel.getD (p % length) 0 else old := by
  induction chunks with
  | zero =>
    have hnone : ¬p < 0 * length := by omega
    simp only [if_neg hnone, Option.map_id']
    rfl
  | succ chunks ih =>
    have hstep : fillChunks pixel length (chunks + 1) bytes =
        copyAt pixel (chunks * length) (fillChunks pixel length chunks bytes) := Nat.fold_succ ..
    rw [hstep, getElem?_copyAt, ih, Option.map_map, hlength, Nat.succ_mul]
    refine Option.map_congr fun old _ ↦ ?_
    rw [Function.comp_apply]
    by_cases hthis : chunks * length ≤ p ∧ p < chunks * length + length
    · -- The byte is one of the last chunk.
      obtain ⟨hge, hlt⟩ := hthis
      obtain ⟨k, rfl⟩ := Nat.exists_eq_add_of_le hge
      have hk : k < length := Nat.lt_of_add_lt_add_left hlt
      rw [if_pos ⟨hge, hlt⟩, if_pos hlt, Nat.add_sub_cancel_left, Nat.mul_add_mod_self_right,
        Nat.mod_eq_of_lt hk]
    · have hsame : p < chunks * length ↔ p < chunks * length + length := by omega
      simp only [if_neg hthis, hsame]

/-! ## Images -/

variable {image : ImageBuffer} {value : UInt32}

theorem length_pixel (value : UInt32) (format : PixelFormat) :
    ((patternBytes value).take format.bytesPerPixel).length = format.bytesPerPixel := by
  have hfour : (patternBytes value).length = 4 := rfl
  rw [List.length_take, hfour, Nat.min_eq_left (bytesPerPixel_le format)]

theorem size_fillImage (image : ImageBuffer) (value : UInt32) :
    (fillImage image value).data.size = image.data.size := by
  rw [fillImage, Bytes.size_ofArray, size_fillChunks, Bytes.size_toArray]

/-- Every byte of a whole pixel is that of the pattern. -/
theorem get?_fillImage (image : ImageBuffer) (value : UInt32) (p : Nat) :
    (fillImage image value).data.get? p = (image.data.get? p).map fun old ↦
      if p < wholeBytes image then patternByte value image.format.bytesPerPixel p else old := by
  have hbyte : ((patternBytes value).take image.format.bytesPerPixel).getD
      (p % image.format.bytesPerPixel) 0 = patternByte value image.format.bytesPerPixel p := by
    rw [patternByte, List.getD_eq_getElem?_getD, List.getD_eq_getElem?_getD,
      List.getElem?_take_of_lt (Nat.mod_lt p image.format.bytesPerPixel_pos)]
  rw [fillImage, Bytes.get?_ofArray, getElem?_fillChunks (length_pixel value image.format),
    Bytes.getElem?_toArray, hbyte]
  rfl

theorem wholeBytes_of_full (hfull : image.Full) : wholeBytes image = image.data.size := by
  rw [wholeBytes, hfull, Nat.mul_div_cancel _ image.format.bytesPerPixel_pos]

theorem full_fillImage (hfull : image.Full) : (fillImage image value).Full :=
  (size_fillImage image value).trans hfull

/-- Every byte is the byte of a value in the place that it has in its pixel, the lowest one first.
-/
def Filled (image : ImageBuffer) (value : UInt32) : Prop :=
  ∀ p < image.data.size, image.data.get? p =
    some (UInt8.ofNat (value.toNat / 256 ^ (p % image.format.bytesPerPixel)))

theorem patternByte_eq {bytesPerPixel : Nat} (hpos : 0 < bytesPerPixel) (hle : bytesPerPixel ≤ 4)
    (value : UInt32) (p : Nat) : patternByte value bytesPerPixel p =
      UInt8.ofNat (value.toNat / 256 ^ (p % bytesPerPixel)) :=
  Word.getD_ofInt (Nat.lt_of_lt_of_le (Nat.mod_lt p hpos) hle) value.toNat

theorem filled_fillImage (hfull : image.Full) (value : UInt32) :
    Filled (fillImage image value) value := by
  intro p hp
  rw [size_fillImage] at hp
  rw [get?_fillImage, Bytes.get?_of_lt hp, wholeBytes_of_full hfull, Option.map_some, if_pos hp,
    patternByte_eq image.format.bytesPerPixel_pos (bytesPerPixel_le _)]
  rfl

/-- A filled image does not differ from its pattern. -/
theorem Filled.differing_eq_zero (h : Filled image value) (hfull : image.Full) :
    differing image value = 0 := by
  rw [differing, ← hfull, List.countP_eq_zero]
  intro p hp
  rw [h p (List.mem_range.1 hp),
    patternByte_eq image.format.bytesPerPixel_pos (bytesPerPixel_le _), bne_self_eq_false]
  exact Bool.false_ne_true

/-! ## Runs -/

/-- The slots of a fill: a value, and an image that is to be filled. -/
def fillSlots (node : NodeId) (value : UInt32) (image : ImageBuffer) : Access :=
  { node
    slots := [⟨false, some (.scalar (.u32 value))⟩, ⟨true, some (.image image)⟩] }

theorem run_fill (node : NodeId) (value : UInt32) (image : ImageBuffer) :
    fill.execute.run (fillSlots node value image) =
      (.ok (), fillSlots node value (fillImage image value)) := rfl

/-- A check of a filled image passes and stores zero. -/
theorem run_check_of_filled (node : NodeId) (h : Filled image value) (hfull : image.Full)
    (old : UInt32) :
    check.execute.run (checkSlots node image value old) =
      (.ok (), checkSlots node image value 0) := by
  rw [run_check node hfull, h.differing_eq_zero hfull]
  rfl

end Kernels

end ImageFlow
