import ImageFlow.Proofs.Data.Sample

/-!
# Pixels are cells

Storing a number in a pixel and reading a pixel fit together as they do for the cells of a memory.
What is read is the number that was stored, as far as the format can hold it; what was read can be
stored without any effect; and a store reaches no byte but those of its own number. Both directions
come down to words: a word of `n` bytes and its number modulo `256 ^ n` determine each other, and a
number of the format differs from that of the word by a multiple of `256 ^ n` only.
-/

namespace ImageFlow

/-! ## Words -/

namespace Word

/-- Congruent numbers have the same low bytes. -/
theorem ofInt_eq_of_modEq {count : Nat} {z z' : Int} (h : z ≡ z' [ZMOD (Nat.pow 256 count : Nat)]) :
    ofInt count z = ofInt count z' := by
  have hnumbers : (toNat (ofInt count z) : Int) = toNat (ofInt count z') := by
    rw [toNat_ofInt, toNat_ofInt]
    exact h
  have hbytes (value : Int) : ofInt count (toNat (ofInt count value)) = ofInt count value := by
    have hback := ofInt_toNat (ofInt count value)
    rwa [length_ofInt] at hback
  rw [← hbytes z, hnumbers, hbytes z']

/-- The bytes of a word are those of every number that is congruent to it. -/
theorem ofInt_eq_of_modEq_toNat {bytes : List UInt8} {z : Int}
    (h : z ≡ toNat bytes [ZMOD (Nat.pow 256 bytes.length : Nat)]) :
    ofInt bytes.length z = bytes := by
  rw [ofInt_eq_of_modEq h, ofInt_toNat]

end Word

/-! ## Formats -/

namespace PixelFormat

/-- An integer cut down to the word of a format: the rest modulo `2 ^ 8`, `2 ^ 16` or `2 ^ 32`, and
the one next to zero if the format has a sign. -/
def cut : PixelFormat → Int → Int
  | u8, value | y800, value | rgb, value | rgbx, value => value % 2 ^ 8
  | u16, value => value % 2 ^ 16
  | s16, value => Int.bmod value (2 ^ 16)
  | u32, value => value % 2 ^ 32
  | s32, value => Int.bmod value (2 ^ 32)

theorem cut_eq_reduce (format : PixelFormat) (value : Int) :
    format.cut value = format.reduce value := by
  cases format <;> rfl

end PixelFormat

/-! ## Pixels -/

namespace ImageBuffer

variable {image stored : ImageBuffer} {i : Nat} {number : Int}

/-- Overwriting bytes with those that are there changes nothing. -/
theorem overwrite_eq_self {data : Bytes} {start : Nat} {bytes : List UInt8}
    (h : ∀ k < bytes.length, data.get? (start + k) = bytes[k]?) :
    overwrite data start bytes = data := by
  refine Bytes.ext_get? fun place ↦ ?_
  rw [get?_overwrite]
  split
  · next hin =>
    obtain ⟨k, rfl⟩ := Nat.exists_eq_add_of_le hin.1
    rw [Nat.add_sub_cancel_left, h k (by omega)]
  · rfl

/-- An image holds the number that is read from it. -/
theorem holds_of_sample? (h : image.sample? i = some number) : image.Holds i number := by
  have hpixel := hasPixel_of_sample? h
  have hlength := length_sampleData hpixel
  -- A sign moves the number of the word by a multiple of `256 ^ n`, which its bytes do not show.
  have hmod : number ≡ Word.toNat (image.sampleData i)
      [ZMOD (Nat.pow 256 (image.sampleData i).length : Nat)] := by
    rw [sample?_eq hpixel, Option.some.injEq] at h
    rw [hlength, ← h]
    exact image.format.reduce_modEq _
  have hbytes : Word.ofInt image.format.sampleBytes number = image.sampleData i := by
    rw [← hlength]
    exact Word.ofInt_eq_of_modEq_toNat hmod
  refine holds_iff.2 ⟨hpixel, overwrite_eq_self fun k hk ↦ ?_⟩
  rw [hbytes] at hk ⊢
  exact (getElem?_sampleData hpixel (hlength ▸ hk)).symm

/-- A store leaves all bytes but those of its number. -/
theorem get?_of_store (h : image.store? i number = some stored) {place : Nat}
    (hplace : place < image.pixelOffset i ∨
      image.pixelOffset i + image.format.sampleBytes ≤ place) :
    stored.data.get? place = image.data.get? place := by
  unfold store? at h
  split at h
  · cases h
    rw [get?_overwrite, Word.length_ofInt, if_neg (by omega)]
  · cases h

/-- A store leaves the numbers of all other pixels, also where there are none. -/
theorem sample?_of_store {j : Nat} (h : image.store? i number = some stored) (hne : j ≠ i) :
    stored.sample? j = image.sample? j := by
  have hsame := sameSize_of_store h
  have hpixel := hasPixel_of_sameSize hsame j
  have hoffset : stored.pixelOffset j = image.pixelOffset j := by
    rw [pixelOffset, pixelOffset, hsame.format_eq]
  have hdata : stored.sampleData j = image.sampleData j := by
    rw [sampleData, sampleData, hoffset, hsame.format_eq]
    refine List.filterMap_congr fun place hplace ↦ get?_of_store h ?_
    have hapart := pixels_apart image hne
    rw [List.mem_range'_1] at hplace
    omega
  rw [sample?, sample?, hpixel, hdata, hsame.format_eq]

/-- What a store makes of an image: its pixel holds the number as far as the format can, and all
bytes beside this number (those of other pixels, and of a colour pixel the other channels), the
numbers of all other pixels, the shape and the count of bytes are as before. -/
structure Stores (image : ImageBuffer) (i : Nat) (number : Int) (stored : ImageBuffer) : Prop where
  sample?_eq : stored.sample? i = some (image.format.cut number)
  beside : ∀ place, place < image.pixelOffset i ∨
    image.pixelOffset i + image.format.sampleBytes ≤ place →
      stored.data.get? place = image.data.get? place
  others : ∀ j, j ≠ i → stored.sample? j = image.sample? j
  sameSize : image.SameSize stored

theorem stores_of_store (h : image.store? i number = some stored) :
    image.Stores i number stored where
  sample?_eq := by
    rw [(holds_of_store h).sample?_eq, (sameSize_of_store h).format_eq, PixelFormat.cut_eq_reduce]
  beside _ hplace := get?_of_store h hplace
  others _ hne := sample?_of_store h hne
  sameSize := sameSize_of_store h

/-- In an image that has all its bytes, every pixel is a cell: it can be read, storing what is read
changes nothing, and any number can be stored in it and is found there, cut down to the format,
while nothing else is changed. -/
theorem pixel_is_cell (hfull : image.Full) (hi : i < image.pixelCount) :
    (∃ held, image.sample? i = some held ∧ image.store? i held = some image) ∧
      ∀ number, ∃ stored, image.store? i number = some stored ∧ image.Stores i number stored := by
  constructor
  · obtain ⟨held, hheld⟩ := hfull.exists_sample hi
    exact ⟨held, hheld, holds_of_sample? hheld⟩
  · intro number
    obtain ⟨stored, hstored, -⟩ := hfull.exists_store hi number
    exact ⟨stored, hstored, stores_of_store hstored⟩

/-- An image whose two pixels hold the smallest number of 16 bits with a sign, plus one, and 300. -/
def signedPair : ImageBuffer :=
  { width := 2, height := 1, format := .s16, data := .ofArray #[0x01, 0x80, 0x2c, 0x01] }

/-- Of `2 ^ 40 + 40000` the second pixel keeps 40000 less `2 ^ 16`, and the first one is not
touched. -/
theorem pixel_is_cell_signedPair :
    signedPair.Full ∧ 1 < signedPair.pixelCount ∧
      (signedPair.sample? 1 = some 300 ∧ signedPair.store? 1 300 = some signedPair) ∧
      ∃ stored, signedPair.store? 1 (2 ^ 40 + 40000) = some stored ∧
        stored.sample? 1 = some (-25536) ∧ stored.sample? 0 = some (-32767) ∧
        signedPair.Stores 1 (2 ^ 40 + 40000) stored := by
  have hfull : signedPair.Full := by decide
  have hi : 1 < signedPair.pixelCount := by decide
  obtain ⟨⟨held, hheld, hback⟩, hstores⟩ := pixel_is_cell hfull hi
  have hfirst : signedPair.sample? 0 = some (-32767) := by decide
  have hsecond : signedPair.sample? 1 = some 300 := by decide
  obtain ⟨stored, hstored, h⟩ := hstores (2 ^ 40 + 40000)
  cases hheld.symm.trans hsecond
  exact ⟨hfull, hi, ⟨hsecond, hback⟩, stored, hstored, h.sample?_eq,
    (h.others 0 (by decide)).trans hfirst, h⟩

end ImageBuffer

end ImageFlow
