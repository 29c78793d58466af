import ImageFlow.Proofs.Data.Stored
import Mathlib.Data.Int.ModEq
import Mathlib.Data.List.Basic

/-!
# Numbers in pixels

The numbers of a pixel format are the integers from its smallest to its largest one. There are
`256 ^ n` of them for a word of `n` bytes, so every integer is congruent to exactly one number of
the format modulo that power. Storing an integer in a pixel leaves this number there, whatever the
pixel held before; in particular a number of the format is read back as it was stored.
-/

namespace ImageFlow

/-! ## Words -/

namespace Word

theorem toNat_lt (bytes : List UInt8) : toNat bytes < Nat.pow 256 bytes.length := by
  induction bytes with
  | nil => exact Nat.one_pos
  | cons b rest ih =>
    have hb := b.toNat_lt
    have hpow : Nat.pow 256 (rest.length + 1) = Nat.pow 256 rest.length * 256 := Nat.pow_succ _ _
    rw [toNat, List.length_cons, hpow]
    omega

/-- The lowest digit of a remainder and the digits above it. -/
theorem emod_mul_base (value : Int) {m : Int} (hm : 0 < m) :
    value % (256 * m) = value % 256 + 256 * (value / 256 % m) := by
  have hlow := Int.emod_add_mul_ediv value 256
  have hhigh := Int.emod_add_mul_ediv (value / 256) m
  have hpos := Int.emod_nonneg (value / 256) hm.ne'
  have hlt := Int.emod_lt_of_pos (value / 256) hm
  refine ((Int.ediv_emod_unique (q := value / 256 / m) (by omega)).2 ⟨?_, by omega, by omega⟩).2
  rw [Int.mul_assoc]
  omega

/-- The low bytes of an integer stand for its remainder. -/
theorem toNat_ofInt (count : Nat) (value : Int) :
    (toNat (ofInt count value) : Int) = value % (Nat.pow 256 count : Nat) := by
  induction count generalizing value with
  | zero => exact (Int.emod_one value).symm
  | succ count ih =>
    have hlow : ((UInt8.ofNat (value % 256).toNat).toNat : Int) = value % 256 := by
      rw [UInt8.toNat_ofNat']
      omega
    have hpow : Nat.pow 256 (count + 1) = 256 * Nat.pow 256 count := Nat.pow_succ'
    have hpos : 0 < Nat.pow 256 count := Nat.pow_pos (by decide)
    rw [ofInt, toNat, Int.natCast_add, Int.natCast_mul, ih, hlow, hpow, Int.natCast_mul]
    exact (emod_mul_base value (Int.natCast_pos.2 hpos)).symm

/-- A byte string is known by the number that it stands for. -/
theorem ofInt_toNat (bytes : List UInt8) : ofInt bytes.length (toNat bytes) = bytes := by
  induction bytes with
  | nil => rfl
  | cons b rest ih =>
    have hb := b.toNat_lt
    have hlow : ((b.toNat + 256 * toNat rest : Nat) : Int) % 256 = b.toNat := by omega
    have hhigh : ((b.toNat + 256 * toNat rest : Nat) : Int) / 256 = toNat rest := by omega
    rw [toNat, List.length_cons, ofInt, hlow, hhigh, ih, Int.toNat_natCast, UInt8.ofNat_toNat]

end Word

/-! ## The numbers of a format -/

namespace PixelFormat

variable {format : PixelFormat} {z z' value : Int}

/-- How many numbers a format has. -/
def sampleCount (format : PixelFormat) : Nat := Nat.pow 256 format.sampleBytes

/-- The integers that a pixel can hold. -/
def InRange (format : PixelFormat) (z : Int) : Prop := format.minSample ≤ z ∧ z ≤ format.maxSample

/-- The number that a pixel holds once an integer has been stored in it. -/
def reduce (format : PixelFormat) (value : Int) : Int :=
  if format.isSigned then Int.bmod value format.sampleCount else value % format.sampleCount

theorem minSample_nonpos (format : PixelFormat) : format.minSample ≤ 0 := by
  cases format <;> decide

theorem maxSample_nonneg (format : PixelFormat) : 0 ≤ format.maxSample := by
  cases format <;> decide

/-- The range is as long as there are numbers. -/
theorem maxSample_sub_minSample (format : PixelFormat) :
    format.maxSample - format.minSample + 1 = format.sampleCount := by
  cases format <;> decide

theorem inRange_reduce (format : PixelFormat) (value : Int) :
    format.InRange (format.reduce value) := by
  cases format <;>
    simp only [InRange, reduce, minSample, maxSample, isSigned, sampleCount, sampleBytes,
      Int.bmod_def, Nat.pow_eq, if_true, Bool.false_eq_true, if_false] <;>
    omega

theorem reduce_modEq (format : PixelFormat) (value : Int) :
    format.reduce value ≡ value [ZMOD format.sampleCount] := by
  unfold reduce
  split
  · exact Int.bmod_emod
  · exact Int.mod_modEq _ _

/-- No two numbers of a format are congruent. -/
theorem eq_of_modEq (h : format.InRange z) (h' : format.InRange z')
    (hmod : z ≡ z' [ZMOD format.sampleCount]) : z = z' := by
  have hlength := format.maxSample_sub_minSample
  obtain ⟨hlo, hhi⟩ := h
  obtain ⟨hlo', hhi'⟩ := h'
  have hdvd : (format.sampleCount : Int) ∣ z' - z := hmod.dvd
  have hzero : z' - z = 0 := Int.eq_zero_of_abs_lt_dvd hdvd (abs_lt.2 ⟨by omega, by omega⟩)
  omega

/-- Every integer is congruent to exactly one number of a format. -/
theorem eq_reduce_iff : z = format.reduce value ↔
    format.InRange z ∧ z ≡ value [ZMOD format.sampleCount] := by
  constructor
  · rintro rfl
    exact ⟨format.inRange_reduce value, format.reduce_modEq value⟩
  · rintro ⟨hrange, hmod⟩
    exact eq_of_modEq hrange (format.inRange_reduce value)
      (hmod.trans (format.reduce_modEq value).symm)

theorem reduce_of_inRange (h : format.InRange value) : format.reduce value = value :=
  (eq_reduce_iff.2 ⟨h, rfl⟩).symm

end PixelFormat

/-! ## Pixels -/

namespace ImageBuffer

variable {image other : ImageBuffer} {i : Nat} {number : Int}

/-- The bytes of a pixel that is there, by place. -/
theorem sampleData_eq_map (h : image.hasPixel i = true) : image.sampleData i =
    (List.range' (image.pixelOffset i) image.format.sampleBytes).map
      (image.data.front.getD · 0) := by
  rw [hasPixel, decide_eq_true_eq, pixelOffset, Nat.succ_mul] at h
  have hsample := image.format.sampleBytes_le
  rw [sampleData, ← List.filterMap_eq_map]
  refine List.filterMap_congr fun place hplace ↦ Bytes.get?_of_lt ?_
  rw [List.mem_range'_1, pixelOffset] at hplace
  omega

theorem length_sampleData (h : image.hasPixel i = true) :
    (image.sampleData i).length = image.format.sampleBytes := by
  rw [sampleData_eq_map h, List.length_map, List.length_range']

theorem getElem?_sampleData (h : image.hasPixel i = true) {k : Nat}
    (hk : k < image.format.sampleBytes) :
    (image.sampleData i)[k]? = image.data.get? (image.pixelOffset i + k) := by
  have hsample := image.format.sampleBytes_le
  have hthere : image.pixelOffset i + k < image.data.size := by
    rw [hasPixel, decide_eq_true_eq, pixelOffset, Nat.succ_mul] at h
    rw [pixelOffset]
    omega
  rw [sampleData_eq_map h, List.getElem?_map, List.getElem?_range' hk, Bytes.get?_of_lt hthere,
    Option.map_some, Nat.one_mul]

/-- A pixel holds the number of its format that its bytes are congruent to. -/
theorem sample?_eq (h : image.hasPixel i = true) :
    image.sample? i = some (image.format.reduce (Word.toNat (image.sampleData i))) := by
  have hlength := length_sampleData h
  have hlt := Word.toNat_lt (image.sampleData i)
  rw [hlength] at hlt
  rw [sample?, if_pos h]
  simp only [PixelFormat.reduce, PixelFormat.sampleCount, Word.toInt, hlength]
  split
  · rfl
  · rw [Int.emod_eq_of_lt (Int.natCast_nonneg _) (Int.ofNat_lt.2 hlt)]

theorem hasPixel_of_sample? {x : Int} (h : image.sample? i = some x) : image.hasPixel i = true := by
  unfold sample? at h
  split at h
  · assumption
  · cases h

theorem inRange_of_sample? {x : Int} (h : image.sample? i = some x) : image.format.InRange x := by
  rw [sample?_eq (hasPixel_of_sample? h), Option.some.injEq] at h
  exact h ▸ image.format.inRange_reduce _

/-- What is read from a pixel in which an integer has been stored. -/
theorem Holds.sample?_eq (h : image.Holds i number) :
    image.sample? i = some (image.format.reduce number) := by
  obtain ⟨hpixel, hdata⟩ := holds_iff.1 h
  have hbytes : image.sampleData i = Word.ofInt image.format.sampleBytes number := by
    refine List.ext_getElem? fun k ↦ ?_
    by_cases hk : k < image.format.sampleBytes
    · have hthere : image.data.get? (image.pixelOffset i + k) =
          (image.sampleData i)[k]? := (getElem?_sampleData hpixel hk).symm
      have hlength := length_sampleData hpixel
      rw [← hthere, ← hdata, get?_overwrite, Word.length_ofInt, if_pos, Nat.add_sub_cancel_left]
      refine ⟨Nat.le_add_right _ _, Nat.add_lt_add_left hk _, Bytes.isSome_get?_iff.1 ?_⟩
      rw [hthere, List.getElem?_eq_getElem (hlength ▸ hk)]
      rfl
    · rw [List.getElem?_eq_none (by rw [length_sampleData hpixel]; omega),
        List.getElem?_eq_none (by rw [Word.length_ofInt]; omega)]
  rw [ImageBuffer.sample?_eq hpixel, hbytes, Word.toNat_ofInt]
  refine congrArg some (PixelFormat.eq_reduce_iff.2 ⟨PixelFormat.inRange_reduce _ _, ?_⟩)
  exact (PixelFormat.reduce_modEq _ _).trans (Int.mod_modEq _ _)

/-- Two pixels of one format that hold one number have the same bytes. -/
theorem sampleData_eq_of_sample? (hformat : other.format = image.format)
    (hpixel : image.hasPixel i = true) (hpixel' : other.hasPixel i = true)
    (h : other.sample? i = image.sample? i) : other.sampleData i = image.sampleData i := by
  have hlength := length_sampleData hpixel
  have hlength' := length_sampleData hpixel'
  have hlt := Word.toNat_lt (image.sampleData i)
  have hlt' := Word.toNat_lt (other.sampleData i)
  rw [hlength] at hlt
  rw [hlength', hformat] at hlt'
  rw [sample?_eq hpixel, sample?_eq hpixel', hformat, Option.some.injEq] at h
  have hmod := (image.format.reduce_modEq (Word.toNat (other.sampleData i))).symm.trans
    (h ▸ image.format.reduce_modEq (Word.toNat (image.sampleData i)))
  have hnat : Word.toNat (other.sampleData i) = Word.toNat (image.sampleData i) :=
    Nat.ModEq.eq_of_lt_of_lt (Int.natCast_modEq_iff.1 hmod) hlt' hlt
  rw [← Word.ofInt_toNat (other.sampleData i), ← Word.ofInt_toNat (image.sampleData i), hnat,
    hlength, hlength', hformat]

/-- If pixels have no bytes beside their number, every byte belongs to a number. -/
theorem Full.exists_place (h : image.Full)
    (hpacked : image.format.sampleBytes = image.format.bytesPerPixel) {place : Nat}
    (hplace : place < image.data.size) :
    ∃ i < image.pixelCount, ∃ k < image.format.sampleBytes, place = image.pixelOffset i + k := by
  have hpos := image.format.bytesPerPixel_pos
  refine ⟨place / image.format.bytesPerPixel, ?_, place % image.format.bytesPerPixel, ?_, ?_⟩
  · rw [Nat.div_lt_iff_lt_mul hpos, ← h]
    exact hplace
  · rw [hpacked]
    exact Nat.mod_lt _ hpos
  · exact (Nat.div_add_mod' _ _).symm

/-- Images that have no bytes beside their numbers are known by the numbers. -/
theorem eq_of_sample? (hsame : image.SameSize other) (hfull : image.Full)
    (hpacked : image.format.sampleBytes = image.format.bytesPerPixel)
    (h : ∀ i < image.pixelCount, other.sample? i = image.sample? i) : other = image := by
  have hdata : other.data = image.data := by
    refine Bytes.ext_get? fun place ↦ ?_
    by_cases hplace : place < image.data.size
    · obtain ⟨i, hi, k, hk, rfl⟩ := hfull.exists_place hpacked hplace
      have hpixel := hfull.hasPixel hi
      have hpixel' := (hasPixel_of_sameSize hsame i).trans hpixel
      have hoffset : other.pixelOffset i = image.pixelOffset i := by
        rw [pixelOffset, pixelOffset, hsame.format_eq]
      rw [← getElem?_sampleData hpixel hk, ← hoffset,
        ← getElem?_sampleData hpixel' (hsame.format_eq ▸ hk),
        sampleData_eq_of_sample? hsame.format_eq hpixel hpixel' (h i hi)]
    · have hplace := Nat.not_lt.1 hplace
      rw [Bytes.get?_eq_none_iff.2 hplace, Bytes.get?_eq_none_iff.2 (hsame.size_eq ▸ hplace)]
  obtain ⟨width, height, format, data⟩ := image
  obtain ⟨width', height', format', data'⟩ := other
  obtain ⟨hwidth, hheight, hformat, -⟩ := hsame
  dsimp only at hwidth hheight hformat hdata
  subst hwidth hheight hformat hdata
  rfl

end ImageBuffer

end ImageFlow
