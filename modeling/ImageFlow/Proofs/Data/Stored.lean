import ImageFlow.Proofs.Data.Fit

/-!
# Storing pixels again

Storing a number in a pixel overwrites bytes of that pixel only, and storing it again changes
nothing. So once numbers have been stored in some pixels, storing the same numbers there once more
leaves the image as it is, whatever it held before.
-/

namespace ImageFlow

theorem Word.length_ofInt (count : Nat) (value : Int) :
    (Word.ofInt count value).length = count := by
  induction count generalizing value with
  | zero => rfl
  | succ count ih => rw [Word.ofInt, List.length_cons, ih]

theorem PixelFormat.sampleBytes_le (format : PixelFormat) :
    format.sampleBytes ≤ format.bytesPerPixel := by
  cases format <;> decide

namespace ImageBuffer

variable {image stored : ImageBuffer} {data : Bytes} {start i : Nat} {bytes : List UInt8}

/-! ## Overwriting -/

theorem get?_overwrite (place : Nat) : (overwrite data start bytes).get? place =
    if start ≤ place ∧ place < start + bytes.length ∧ place < data.size then bytes[place - start]?
    else data.get? place := by
  induction bytes generalizing data start with
  | nil =>
    rw [overwrite, if_neg]
    simp only [List.length_nil]
    omega
  | cons b rest ih =>
    rw [overwrite, ih, Bytes.size_set, Bytes.get?_set, List.length_cons]
    by_cases hplace : start = place
    · subst hplace
      rw [if_neg (by omega), if_pos rfl, Nat.sub_self, List.getElem?_cons_zero]
      by_cases hin : start < data.size
      · rw [if_pos hin, if_pos ⟨Nat.le_refl start, by omega, hin⟩]
      · rw [if_neg hin, if_neg (by omega), Bytes.get?_eq_none_iff.2 (Nat.not_lt.1 hin)]
    · by_cases hlater : start < place
      · obtain ⟨offset, rfl⟩ := Nat.exists_eq_add_of_lt hlater
        have hfirst : start + offset + 1 - start = offset + 1 := by omega
        have hrest : start + offset + 1 - (start + 1) = offset := by omega
        rw [hfirst, hrest, List.getElem?_cons_succ, if_neg hplace]
        congr 1
        simp only [eq_iff_iff]
        omega
      · rw [if_neg (by omega), if_neg hplace, if_neg (by omega)]

/-- Bytes that are there already can be overwritten with themselves. -/
theorem overwrite_overwrite_self (data : Bytes) (start : Nat) (bytes : List UInt8) :
    overwrite (overwrite data start bytes) start bytes = overwrite data start bytes := by
  refine Bytes.ext_get? fun place ↦ ?_
  rw [get?_overwrite, size_overwrite, get?_overwrite]
  split <;> rfl

/-- Overwriting elsewhere does not disturb what is there. -/
theorem overwrite_overwrite_of_disjoint {start' : Nat} {bytes' : List UInt8}
    (h : overwrite data start bytes = data)
    (hdisjoint : start + bytes.length ≤ start' ∨ start' + bytes'.length ≤ start) :
    overwrite (overwrite data start' bytes') start bytes = overwrite data start' bytes' := by
  refine Bytes.ext_get? fun place ↦ ?_
  have hkept : (overwrite data start bytes).get? place = data.get? place := by rw [h]
  rw [get?_overwrite] at hkept
  rw [get?_overwrite, size_overwrite, get?_overwrite]
  split
  · next hin =>
    rw [if_pos hin] at hkept
    rw [if_neg (by omega), hkept]
  · rfl

/-! ## Pixels -/

/-- The image holds a number in a pixel: storing it there changes nothing. -/
def Holds (image : ImageBuffer) (i : Nat) (number : Int) : Prop :=
  image.store? i number = some image

theorem sameSize_of_store {number : Int} (h : image.store? i number = some stored) :
    image.SameSize stored := by
  unfold store? at h
  split at h
  · cases h
    exact ⟨rfl, rfl, rfl, size_overwrite _ _ _⟩
  · cases h

theorem holds_iff {number : Int} : image.Holds i number ↔ image.hasPixel i = true ∧
    overwrite image.data (image.pixelOffset i) (Word.ofInt image.format.sampleBytes number) =
      image.data := by
  unfold Holds store?
  split
  · next hpixel =>
    obtain ⟨width, height, format, data⟩ := image
    simp [hpixel]
  · next hpixel => simp [hpixel]

theorem hasPixel_of_sameSize (h : image.SameSize stored) (i : Nat) :
    stored.hasPixel i = image.hasPixel i := by
  rw [hasPixel, hasPixel, pixelOffset, pixelOffset, h.format_eq, h.size_eq]

theorem holds_of_store {number : Int} (h : image.store? i number = some stored) :
    stored.Holds i number := by
  have hsame := sameSize_of_store h
  unfold store? at h
  split at h
  · next hpixel =>
    rw [holds_iff, hasPixel_of_sameSize hsame, hpixel]
    cases h
    exact ⟨rfl, overwrite_overwrite_self _ _ _⟩
  · cases h

/-- The numbers of two pixels lie in different bytes. -/
theorem pixels_apart {j : Nat} (image : ImageBuffer) (hne : i ≠ j) :
    image.pixelOffset i + image.format.sampleBytes ≤ image.pixelOffset j ∨
      image.pixelOffset j + image.format.sampleBytes ≤ image.pixelOffset i := by
  have hsample := image.format.sampleBytes_le
  have hnext {first second : Nat} (hlt : first < second) :
      image.pixelOffset first + image.format.bytesPerPixel ≤ image.pixelOffset second := by
    rw [pixelOffset, pixelOffset, ← Nat.succ_mul]
    exact Nat.mul_le_mul_right _ hlt
  rcases Nat.lt_or_gt_of_ne hne with hlt | hlt
  · exact .inl (Nat.le_trans (Nat.add_le_add_left hsample _) (hnext hlt))
  · exact .inr (Nat.le_trans (Nat.add_le_add_left hsample _) (hnext hlt))

/-- Storing in one pixel leaves what another one holds. -/
theorem Holds.of_store {j : Nat} {number other : Int} (h : image.Holds i number) (hne : i ≠ j)
    (hstored : image.store? j other = some stored) : stored.Holds i number := by
  obtain ⟨hpixel, hdata⟩ := holds_iff.1 h
  have hsame := sameSize_of_store hstored
  rw [holds_iff, hasPixel_of_sameSize hsame, hpixel]
  have hapart := pixels_apart image hne
  unfold store? at hstored
  split at hstored
  · cases hstored
    refine ⟨rfl, overwrite_overwrite_of_disjoint hdata ?_⟩
    rw [Word.length_ofInt, Word.length_ofInt]
    exact hapart
  · cases hstored

/-! ## Many pixels -/

/-- Once numbers have been stored in some pixels, the image holds them, and whatever it held in
other pixels. -/
theorem holds_of_foldlM {value : Nat → Option Int} {places : List Nat} (hnodup : places.Nodup)
    (h : places.foldlM (fun image i ↦ do ImageBuffer.store? image i (← value i)) image =
      some stored) :
    image.SameSize stored ∧
      (∀ i ∈ places, ∃ number, value i = some number ∧ stored.Holds i number) ∧
      ∀ i ∉ places, ∀ number, image.Holds i number → stored.Holds i number := by
  induction places generalizing image with
  | nil =>
    cases h
    exact ⟨.refl _, fun _ hnone ↦ (nomatch hnone), fun _ _ _ hholds ↦ hholds⟩
  | cons place rest ih =>
    obtain ⟨hnew, hnodup⟩ := List.nodup_cons.1 hnodup
    rw [List.foldlM_cons] at h
    obtain ⟨first, hfirst, hrest⟩ := Option.bind_eq_some_iff.1 h
    obtain ⟨number, hnumber, hstored⟩ := Option.bind_eq_some_iff.1 hfirst
    obtain ⟨hsame, hheld, hothers⟩ := ih hnodup hrest
    refine ⟨(sameSize_of_store hstored).trans hsame, ?_, ?_⟩
    · refine List.forall_mem_cons.2 ⟨⟨number, hnumber, ?_⟩, hheld⟩
      exact hothers place hnew number (holds_of_store hstored)
    · intro i hi other hholds
      obtain ⟨hne, hnot⟩ := List.ne_and_not_mem_of_not_mem_cons hi
      exact hothers i hnot other (hholds.of_store hne hstored)

theorem foldlM_of_holds {value : Nat → Option Int} {places : List Nat}
    (h : ∀ i ∈ places, ∃ number, value i = some number ∧ image.Holds i number) :
    places.foldlM (fun image i ↦ do ImageBuffer.store? image i (← value i)) image =
      some image := by
  induction places with
  | nil => rfl
  | cons place rest ih =>
    obtain ⟨⟨number, hnumber, hholds⟩, hrest⟩ := List.forall_mem_cons.1 h
    have hfirst : (do ImageBuffer.store? image place (← value place)) = some image := by
      rw [hnumber]
      exact hholds
    rw [List.foldlM_cons, hfirst]
    exact ih hrest

/-- Storing all pixels again changes nothing. -/
theorem storeAll?_storeAll? {count : Nat} {value : Nat → Option Int}
    (h : image.storeAll? count value = some stored) :
    image.SameSize stored ∧ stored.storeAll? count value = some stored := by
  obtain ⟨hsame, hheld, -⟩ := holds_of_foldlM List.nodup_range h
  exact ⟨hsame, foldlM_of_holds hheld⟩

end ImageBuffer

end ImageFlow
