import ImageFlow.Proofs.Data.Sample
import ImageFlow.Proofs.Kernels.Reliable

/-!
# Arithmetic pixel by pixel

An arithmetic kernel takes pixels as integers, computes exactly and stores the result. Wrapping is
what storing does anyway: it leaves the one number of the output format that is congruent to the
result. A result that has been clamped is a number of the format already and is stored as it is. On
slots that fit, a kernel that has accepted their shapes does so for every pixel and does nothing
else.
-/

namespace ImageFlow

open Stateful Work

/-! ## Results -/

namespace Kernels

theorem inRange_saturate (value : Int) (format : PixelFormat) :
    format.InRange (saturate value format) := by
  have hmin := format.minSample_nonpos
  have hmax := format.maxSample_nonneg
  exact ⟨Int.le_max_left _ _, Int.max_le.2 ⟨by omega, Int.min_le_right _ _⟩⟩

/-- A distance can be too large, but never too small. -/
theorem saturate_natAbs (value : Int) (format : PixelFormat) :
    saturate value.natAbs format = min |value| format.maxSample := by
  have hmin := format.minSample_nonpos
  have hmax := format.maxSample_nonneg
  rw [saturate, Int.abs_eq_natAbs]
  omega

/-- What a policy makes of an exact result: the number of the format that is congruent to it, of
which there is one only, or the number of the format that is nearest to it. -/
def ConvertPolicy.Gives (policy : ConvertPolicy) (format : PixelFormat) (exact z : Int) : Prop :=
  match policy with
  | wrap => (format.InRange z ∧ z ≡ exact [ZMOD format.sampleCount]) ∧
      ∀ other, format.InRange other → other ≡ exact [ZMOD format.sampleCount] → other = z
  | saturate => z = max format.minSample (min exact format.maxSample)

theorem ConvertPolicy.gives_reduce_apply (policy : ConvertPolicy) (format : PixelFormat)
    (exact : Int) : policy.Gives format exact (format.reduce (policy.apply exact format)) := by
  cases policy with
  | wrap =>
    exact ⟨⟨format.inRange_reduce exact, format.reduce_modEq exact⟩,
      fun other hrange hmod ↦ PixelFormat.eq_reduce_iff.2 ⟨hrange, hmod⟩⟩
  | saturate => exact PixelFormat.reduce_of_inRange (inRange_saturate exact format)

/-- The two formats of arithmetic have 8 bits without a sign and 16 bits with one. -/
example : (PixelFormat.u8.minSample, PixelFormat.u8.maxSample, PixelFormat.u8.sampleCount) =
      (0, 255, 2 ^ 8) ∧
    (PixelFormat.s16.minSample, PixelFormat.s16.maxSample, PixelFormat.s16.sampleCount) =
      (-32768, 32767, 2 ^ 16) := by decide

theorem ofValue_toValue (policy : ConvertPolicy) :
    ConvertPolicy.ofValue policy.toValue = .ok policy := by
  cases policy <;> rfl

/-! ## Pixels -/

variable {a b c out : ImageBuffer}

theorem combine_spec {op : Int → Int → Int} (h : combine a b out op = some c) :
    out.SameSize c ∧ ∀ i < c.pixelCount, ∃ x y, a.sample? i = some x ∧ b.sample? i = some y ∧
      c.sample? i = some (c.format.reduce (op x y)) := by
  obtain ⟨hsame, hheld, -⟩ := ImageBuffer.holds_of_foldlM List.nodup_range h
  refine ⟨hsame, fun i hi ↦ ?_⟩
  rw [ImageBuffer.pixelCount, hsame.width_eq, hsame.height_eq] at hi
  obtain ⟨number, hnumber, hholds⟩ := hheld i (List.mem_range.2 hi)
  obtain ⟨x, hx, hrest⟩ := Option.bind_eq_some_iff.1 hnumber
  obtain ⟨y, hy, hop⟩ := Option.bind_eq_some_iff.1 hrest
  cases hop
  exact ⟨x, y, hx, hy, hholds.sample?_eq⟩

/-! ## Runs -/

/-- What a kernel that works pixel by pixel does: it ends well and leaves the slots as they are but
for one, in which there is an image of the same shape as before. In this image every pixel is what a
rule says of the format and of the pixels of the images in slots 0 and 1. -/
structure Blends (kernel : Kernel) (access : Access) (o : Nat)
    (rule : PixelFormat → Int → Int → Int → Prop) (a b c : ImageBuffer) : Prop where
  first : access.held 0 = some (.image a)
  second : access.held 1 = some (.image b)
  execute_eq : kernel.execute.run access = (.ok (), access.replace o (.image c))
  output : ∃ out, access.held o = some (.image out) ∧ out.SameSize c
  left : (kernel.execute.run access).2.held o = some (.image c)
  first_size : c.width = a.width ∧ c.height = a.height
  second_size : c.width = b.width ∧ c.height = b.height
  full : a.Full ∧ b.Full ∧ c.Full
  format_mem : c.format ∈ [PixelFormat.u8, .s16]
  pixels : ∀ i < c.pixelCount, ∃ x y z, a.sample? i = some x ∧ b.sample? i = some y ∧
    c.sample? i = some z ∧ rule c.format x y z

variable {kernel : Kernel} {access : Access} {shape : List (Parameter × Descriptor)}
  {o width height : Nat} {first second format : PixelFormat}

theorem full_of_matches {image : ImageBuffer}
    (h : (Payload.image image).Matches (.image width height format)) : image.Full := by
  obtain ⟨rfl, rfl, rfl, hsize⟩ := h
  exact hsize

theorem exists_blends_of_combineSlots (op : PixelFormat → Int → Int → Int)
    (hoperands : Operands shape o width height first second format) (hfits : access.Fits shape)
    (hkernel : kernel.execute.run access = (combineSlots o op).run access)
    {rule : PixelFormat → Int → Int → Int → Prop}
    (hrule : ∀ format x y, rule format x y (format.reduce (op format x y))) :
    ∃ a b c, Blends kernel access o rule a b c := by
  obtain ⟨⟨p, hpa⟩, ⟨q, hqb⟩, ⟨r, hrout, hwrites⟩, ho, hmem⟩ := hoperands
  obtain ⟨a, ha, hamatches⟩ := hfits.exists_imagePayload hpa
  obtain ⟨b, hb, hbmatches⟩ := hfits.exists_imagePayload hqb
  obtain ⟨out, hout, hmatches⟩ := hfits.exists_imagePayload hrout
  have himages : access.binaryImage 0 1 o = .ok (a, b, out) :=
    hfits.binaryImage_eq ha hb (List.getElem?_eq_some_iff.1 hpa).1
      (List.getElem?_eq_some_iff.1 hqb).1 hout hrout hwrites (by omega) (by omega)
  obtain ⟨c, hc, hcmatches⟩ := exists_combine hamatches hbmatches hmatches (op out.format)
  obtain ⟨hsame, hpixels⟩ := combine_spec hc
  have hcounts : ¬(a.pixelCount ≠ b.pixelCount ∨ a.pixelCount ≠ out.pixelCount) := by
    simp only [ImageBuffer.pixelCount, hamatches.1, hamatches.2.1, hbmatches.1, hbmatches.2.1,
      hmatches.1, hmatches.2.1, ne_eq, not_true_eq_false, or_self, not_false_eq_true]
  have hrun : (combineSlots o op).run access = (.ok (), access.replace o (.image c)) := by
    rw [combineSlots, run_bind, run_ask, himages]
    dsimp only [Except.mapError]
    rw [if_neg hcounts, run_bind, hc]
    rfl
  have hexecute := hkernel.trans hrun
  refine ⟨a, b, c, ?_⟩
  exact
    { first := ha
      second := hb
      execute_eq := hexecute
      output := ⟨out, hout, hsame⟩
      left := by
        rw [hexecute]
        exact Access.held_replace (by rw [hout]; rfl)
      first_size := ⟨hcmatches.1.trans hamatches.1.symm, hcmatches.2.1.trans hamatches.2.1.symm⟩
      second_size := ⟨hcmatches.1.trans hbmatches.1.symm, hcmatches.2.1.trans hbmatches.2.1.symm⟩
      full := ⟨full_of_matches hamatches, full_of_matches hbmatches, full_of_matches hcmatches⟩
      format_mem := hcmatches.2.2.1 ▸ hmem
      pixels := fun i hi ↦ by
        obtain ⟨x, y, hx, hy, hz⟩ := hpixels i hi
        rw [← hsame.format_eq] at hz
        exact ⟨x, y, _, hx, hy, hz, hrule c.format x y⟩ }

/-- A sum or a difference is brought into the format of the output as the policy says. -/
theorem exists_blends_policyKernel {name description : String} {op : Int → Int → Int}
    (h : (policyKernel name description op).Accepts shape) (hfits : access.Fits shape)
    {policy : ConvertPolicy} (hpolicy : access.scalar 2 = .ok policy.toValue) :
    ∃ a b c, Blends (policyKernel name description op) access 3
      (fun format x y z ↦ policy.Gives format (op x y) z) a b c := by
  obtain ⟨width, height, first, second, format, hoperands⟩ := exists_operands_policyKernel h
  refine exists_blends_of_combineSlots (fun format x y ↦ policy.apply (op x y) format) hoperands
    hfits ?_ fun format x y ↦ policy.gives_reduce_apply format (op x y)
  change (policyExecute op).run access = _
  rw [policyExecute, run_bind, run_ask, hpolicy]
  dsimp only [Except.mapError]
  rw [ofValue_toValue]

/-- A distance is kept as it is unless it is too large. -/
theorem exists_blends_absDiff (h : absDiff.Accepts shape) (hfits : access.Fits shape) :
    ∃ a b c, Blends absDiff access 2 (fun format x y z ↦ z = min |x - y| format.maxSample)
      a b c := by
  obtain ⟨width, height, first, second, format, hoperands⟩ := exists_operands_absDiff h
  refine exists_blends_of_combineSlots (fun format x y ↦ saturate (x - y).natAbs format) hoperands
    hfits rfl fun format x y ↦ ?_
  rw [PixelFormat.reduce_of_inRange (inRange_saturate _ format), saturate_natAbs]

/-! ## There and back -/

/-- The format of the image in a slot. -/
def imageFormat? (access : Access) (i : Nat) : Option PixelFormat :=
  ((access.held i).bind Payload.image?).map ImageBuffer.format

theorem format_eq_of_held {access : Access} {i : Nat} {image : ImageBuffer}
    (h : imageFormat? access i = some format) (hheld : access.held i = some (.image image)) :
    image.format = format := by
  rw [imageFormat?, hheld] at h
  exact Option.some.inj h

/-- Slots of a sum and slots of a difference: what the first has left is the minuend of the second,
both have the same second image, both wrap, and there is one format only. -/
structure RoundTrip (access access' : Access) (format : PixelFormat) : Prop where
  wraps : access.scalar 2 = .ok ConvertPolicy.wrap.toValue
  wraps' : access'.scalar 2 = .ok ConvertPolicy.wrap.toValue
  formats : ∀ i ∈ [0, 1, 3], imageFormat? access i = some format
  formats' : ∀ i ∈ [0, 1, 3], imageFormat? access' i = some format
  sum : access'.held 0 = (add.execute.run access).2.held 3
  same : access'.held 1 = access.held 1

theorem sub_modEq_of_modEq_add {x y z w n : Int} (h : z ≡ x + y [ZMOD n])
    (h' : w ≡ z - y [ZMOD n]) : w ≡ x [ZMOD n] := by
  have hback := h.sub_right y
  rw [Int.add_sub_cancel] at hback
  exact h'.trans hback

namespace RoundTrip

variable {access access' : Access} {a' b' d : ImageBuffer} {rule rule' : PixelFormat → Int → Int →
  Int → Prop}

/-- The difference works on what the sum has left and on the second image of the sum. -/
theorem operands_eq (h : RoundTrip access access' format) (hadd : Blends add access 3 rule a b c)
    (hsubtract : Blends subtract access' 3 rule' a' b' d) : a' = c ∧ b' = b := by
  have hsum := h.sum
  rw [hsubtract.first, hadd.left] at hsum
  have hsame := h.same
  rw [hsubtract.second, hadd.second] at hsame
  cases hsum
  cases hsame
  exact ⟨rfl, rfl⟩

theorem formats_eq (h : RoundTrip access access' format) (hadd : Blends add access 3 rule a b c)
    (hsubtract : Blends subtract access' 3 rule' a' b' d) :
    a.format = format ∧ a'.format = format ∧ d.format = format := by
  obtain ⟨out, hout, hsame⟩ := hsubtract.output
  exact ⟨format_eq_of_held (h.formats 0 (by simp)) hadd.first,
    format_eq_of_held (h.formats' 0 (by simp)) hsubtract.first,
    hsame.format_eq.trans (format_eq_of_held (h.formats' 3 (by simp)) hout)⟩

/-- Wrapping loses nothing: subtracting what was added gives the image back, byte for byte. -/
theorem eq (h : RoundTrip access access' format)
    (hadd : Blends add access 3
      (fun format x y z ↦ ConvertPolicy.wrap.Gives format (x + y) z) a b c)
    (hsubtract : Blends subtract access' 3
      (fun format x y z ↦ ConvertPolicy.wrap.Gives format (x - y) z) a' b' d) : d = a := by
  obtain ⟨ha, hc, hd⟩ := h.formats_eq hadd hsubtract
  obtain ⟨rfl, rfl⟩ := h.operands_eq hadd hsubtract
  obtain ⟨hwidth, hheight⟩ := hadd.first_size
  obtain ⟨hwidth', hheight'⟩ := hsubtract.first_size
  have hsame : a.SameSize d := hadd.full.1.sameSize hsubtract.full.2.2 (hwidth'.trans hwidth)
    (hheight'.trans hheight) (hd.trans ha.symm)
  have hpacked : a.format.sampleBytes = a.format.bytesPerPixel := by
    have hmem := hadd.format_mem
    rw [hc, ← ha] at hmem
    revert hmem
    cases a.format <;> decide
  refine ImageBuffer.eq_of_sample? hsame hadd.full.1 hpacked fun i hi ↦ ?_
  have hcount : i < a'.pixelCount ∧ i < d.pixelCount := by
    simpa only [ImageBuffer.pixelCount, hwidth', hheight', hwidth, hheight, and_self] using hi
  obtain ⟨x, y, z, hx, hy, hz, ⟨-, hsum⟩, -⟩ := hadd.pixels i hcount.1
  obtain ⟨z', y', w, hz', hy', hw, ⟨hrange, hdifference⟩, -⟩ := hsubtract.pixels i hcount.2
  cases hz.symm.trans hz'
  cases hy.symm.trans hy'
  have hxrange : a.format.InRange x := ImageBuffer.inRange_of_sample? hx
  rw [hd] at hrange hdifference
  rw [hc] at hsum
  rw [ha] at hxrange
  rw [hx, hw, PixelFormat.eq_of_modEq hrange hxrange (sub_modEq_of_modEq_add hsum hdifference)]

end RoundTrip

end Kernels

end ImageFlow
