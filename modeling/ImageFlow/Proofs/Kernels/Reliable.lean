import ImageFlow.Kernels.Standard
import ImageFlow.Proofs.Data.Overlap
import ImageFlow.Proofs.Kernels.Filling
import Mathlib.Data.List.Nodup

/-!
# Standard kernels run safely

What each standard kernel checks of the shapes of its slots is enough for what it does with their
memory: every pixel that it reads or writes is there, buffers that it copies are of equal size, and
every payload is of the kind that it asks for. What is left is what depends on values: the check of
an image can find differences, and the code of an overflow policy can be unknown.
-/

namespace ImageFlow

open Work

/-! ## What checks tell -/

namespace Inspection

variable {view : Inspection} {a b width height width' height' : Nat} {format format' : PixelFormat}

theorem format_eq (h : view.descriptor? a = some (.image width height format)) :
    view.format a = .ok format := by
  rw [Inspection.format, h]
  rfl

theorem same_of_requireSameDimensions (h : view.requireSameDimensions a b = .ok ())
    (ha : view.descriptor? a = some (.image width height format))
    (hb : view.descriptor? b = some (.image width' height' format')) :
    width' = width ∧ height' = height := by
  have hdimensions : view.dimensions a = .ok (width, height) := by
    rw [dimensions, ha]
    rfl
  have hdimensions' : view.dimensions b = .ok (width', height') := by
    rw [dimensions, hb]
    rfl
  rw [requireSameDimensions, hdimensions, hdimensions'] at h
  simp only [bind, Except.bind] at h
  split at h
  · next heq =>
    cases heq
    exact ⟨rfl, rfl⟩
  · cases h

end Inspection

theorem Constraint.exists_image_of_accepts {constraint : Constraint} {descriptor : Descriptor}
    {formats : List PixelFormat} (hformats : constraint.imageFormats? = some formats)
    (h : constraint.accepts descriptor = true) :
    ∃ width height format, descriptor = .image width height format ∧ format ∈ formats := by
  cases descriptor with
  | image width height format =>
    obtain ⟨allowed, hallowed, hformat⟩ := accepts_image_iff.mp h
    cases hformats.symm.trans hallowed
    exact ⟨width, height, format, rfl, hformat⟩
  | scalar type => cases constraint <;> cases hformats <;> cases h
  | array item capacity => cases constraint <;> cases hformats <;> cases h

namespace Kernel.Accepts

variable {kernel : Kernel} {shape : List (Parameter × Descriptor)} {parameter : Parameter}
  {descriptor : Descriptor}

theorem exists_bound (h : kernel.Accepts shape) (i : Nat)
    (hparameter : kernel.signature.parameters[i]? = some parameter) :
    ∃ descriptor, shape[i]? = some (parameter, descriptor) ∧
      parameter.constraint.accepts descriptor = true := by
  rw [← h.parameters, List.getElem?_map] at hparameter
  obtain ⟨bound, hbound, rfl⟩ := Option.map_eq_some_iff.1 hparameter
  exact ⟨bound.2, hbound, h.constraints bound (List.mem_of_getElem? hbound)⟩

theorem exists_image (h : kernel.Accepts shape) (i : Nat)
    (hparameter : kernel.signature.parameters[i]? = some parameter) {formats : List PixelFormat}
    (hformats : parameter.constraint.imageFormats? = some formats) :
    ∃ width height format, shape[i]? = some (parameter, .image width height format) ∧
      format ∈ formats := by
  obtain ⟨descriptor, hbound, haccepts⟩ := h.exists_bound i hparameter
  obtain ⟨width, height, format, rfl, hformat⟩ :=
    Constraint.exists_image_of_accepts hformats haccepts
  exact ⟨width, height, format, hbound, hformat⟩

theorem exists_array (h : kernel.Accepts shape) (i : Nat)
    (hparameter : kernel.signature.parameters[i]? = some parameter)
    (hconstraint : parameter.constraint = .anyArray) :
    ∃ item capacity, shape[i]? = some (parameter, .array item capacity) := by
  obtain ⟨descriptor, hbound, haccepts⟩ := h.exists_bound i hparameter
  rw [hconstraint] at haccepts
  cases descriptor with
  | array item capacity => exact ⟨item, capacity, hbound⟩
  | image width height format => cases haccepts
  | scalar type => cases haccepts

theorem scalar (h : kernel.Accepts shape) (i : Nat)
    (hparameter : kernel.signature.parameters[i]? = some parameter) {type : ScalarType}
    (hconstraint : parameter.constraint = .scalar type) :
    shape[i]? = some (parameter, .scalar type) := by
  obtain ⟨descriptor, hbound, haccepts⟩ := h.exists_bound i hparameter
  rw [hconstraint] at haccepts
  cases descriptor with
  | scalar found =>
    have hfound : type = found := by simpa [Constraint.accepts] using haccepts
    rw [hfound]
    exact hbound
  | image width height format => cases haccepts
  | array item capacity => cases haccepts

/-- What the kernel was shown of its slots when it accepted them. -/
theorem exists_view (h : kernel.Accepts shape) :
    ∃ view, kernel.validate view = .ok () ∧ ∀ (i : Nat) (parameter : Parameter)
      (descriptor : Descriptor), shape[i]? = some (parameter, descriptor) →
        view.descriptor? i = some descriptor := by
  obtain ⟨view, hview, hvalid⟩ := h.validated
  refine ⟨view, hvalid, fun i parameter descriptor hbound ↦ ?_⟩
  rw [Inspection.descriptor?, hview, List.getElem?_map, hbound]
  rfl

end Kernel.Accepts

theorem BoxFilter.keepsSize_means : means.KeepsSize := by
  intro image hformat hpixels
  refine ⟨_, rfl, rfl, rfl, ?_⟩
  rw [smoothed, Bytes.size_ofArray, Array.size_ofFn]
  rfl

namespace Kernels

variable {expected : KernelError → Prop}

/-! ## Copying -/

theorem reliable_copyImage : copyImage.Reliable expected := by
  intro shape h
  obtain ⟨width, height, format, hin, -⟩ := h.exists_image 0 rfl rfl
  obtain ⟨width', height', format', hout, -⟩ := h.exists_image 1 rfl rfl
  obtain ⟨view, hvalid, hview⟩ := h.exists_view
  have hvalid : copyImageValidate view = .ok () := hvalid
  obtain ⟨⟨⟩, hsame, hvalid⟩ := exists_of_bind_eq_ok hvalid
  obtain ⟨rfl, rfl⟩ :=
    Inspection.same_of_requireSameDimensions hsame (hview 0 _ _ hin) (hview 1 _ _ hout)
  simp only [Inspection.format_eq (hview 0 _ _ hin), Inspection.format_eq (hview 1 _ _ hout), bind,
    Except.bind] at hvalid
  obtain rfl : format = format' := by
    split at hvalid
    · assumption
    · cases hvalid
  refine (safe_ask fun _ hfits ↦ hfits.exists_unaryImage hin hout rfl (by decide)).bind ?_
  rintro ⟨source, target⟩ ⟨⟨-, -, -, hsource⟩, hwidth, hheight, hformat, htarget⟩
  dsimp only
  rw [if_pos (hsource.trans htarget.symm)]
  exact safe_replace hout ⟨hwidth, hheight, hformat, hsource⟩

theorem reliable_copyArray : copyArray.Reliable expected := by
  intro shape h
  obtain ⟨item, capacity, hin⟩ := h.exists_array 0 rfl rfl
  obtain ⟨item', capacity', hout⟩ := h.exists_array 1 rfl rfl
  obtain ⟨view, hvalid, hview⟩ := h.exists_view
  have hvalid : copyArrayValidate view = .ok () := hvalid
  rw [copyArrayValidate, hview 0 _ _ hin, hview 1 _ _ hout] at hvalid
  obtain rfl : item = item' := by
    dsimp only at hvalid
    split at hvalid
    · assumption
    · cases hvalid
  refine (safe_ask fun _ hfits ↦ hfits.exists_array hin).bind fun source hsource ↦ ?_
  refine (safe_ask fun _ hfits ↦ hfits.exists_arrayToWrite hout rfl).bind fun target htarget ↦ ?_
  have htypes : ∀ value ∈ source.items, value.type = target.item := fun value hvalue ↦
    (hsource.2.2.2 value hvalue).trans htarget.1.symm
  obtain ⟨filled, hfilled⟩ := ArrayBuffer.exists_setItems htypes
  rw [hfilled]
  exact safe_replace hout (Payload.matches_of_setItems hfilled htarget)

/-! ## Patterns -/

theorem safe_patternOf {shape : List (Parameter × Descriptor)} {i : Nat} {parameter : Parameter}
    (hbound : shape[i]? = some (parameter, .scalar .u32)) :
    Safe shape expected (patternOf i) fun _ ↦ True := by
  refine (safe_ask fun _ hfits ↦ hfits.exists_scalar hbound).bind fun value htype ↦ ?_
  cases value with
  | u32 pattern => exact safe_pure trivial
  | _ => cases htype

theorem reliable_fill : fill.Reliable expected := by
  intro shape h
  have hvalue := h.scalar 0 rfl rfl
  obtain ⟨width, height, format, hout, -⟩ := h.exists_image 1 rfl rfl
  refine (safe_patternOf hvalue).bind fun pattern _ ↦ ?_
  refine (safe_ask fun _ hfits ↦ hfits.exists_imageToWrite hout rfl).bind fun image himage ↦ ?_
  obtain ⟨hwidth, hheight, hformat, hsize⟩ := himage
  exact safe_replace hout
    ⟨hwidth, hheight, hformat, (size_fillImage image pattern).trans hsize⟩

theorem reliable_check
    (hexpected : ∀ errors total value, expected (mismatchError errors total value)) :
    check.Reliable expected := by
  intro shape h
  obtain ⟨width, height, format, hin, -⟩ := h.exists_image 0 rfl rfl
  have hvalue := h.scalar 1 rfl rfl
  have hout := h.scalar 2 rfl rfl
  refine (safe_patternOf hvalue).bind fun pattern _ ↦ ?_
  refine (safe_ask fun _ hfits ↦ hfits.exists_image hin).bind fun image _ ↦ ?_
  refine (safe_change fun _ hfits ↦ hfits.exists_setScalar hout rfl).bind fun _ _ ↦ ?_
  split
  · exact safe_fail (hexpected _ _ _)
  · exact safe_pure trivial

/-! ## Arithmetic -/

theorem exists_combine {a b out : ImageBuffer} {width height : Nat}
    {first second format : PixelFormat}
    (ha : (Payload.image a).Matches (.image width height first))
    (hb : (Payload.image b).Matches (.image width height second))
    (hout : (Payload.image out).Matches (.image width height format)) (op : Int → Int → Int) :
    ∃ result, combine a b out op = some result ∧
      (Payload.image result).Matches (.image width height format) := by
  obtain ⟨rfl, rfl, rfl, hasize⟩ := ha
  obtain ⟨hbwidth, hbheight, rfl, hbsize⟩ := hb
  obtain ⟨howidth, hoheight, rfl, hosize⟩ := hout
  have hbfull : b.Full := by
    rw [ImageBuffer.Full, ImageBuffer.pixelCount, hbwidth, hbheight, hbsize]
  have hofull : out.Full := by
    rw [ImageBuffer.Full, ImageBuffer.pixelCount, howidth, hoheight, hosize]
  have hacount : out.pixelCount = a.pixelCount := by
    rw [ImageBuffer.pixelCount, ImageBuffer.pixelCount, howidth, hoheight]
  have hbcount : out.pixelCount = b.pixelCount := by
    rw [ImageBuffer.pixelCount, ImageBuffer.pixelCount, howidth, hoheight, hbwidth, hbheight]
  have hplaces : ∀ i ∈ List.range out.pixelCount, i < out.pixelCount ∧
      (do return op (← a.sample? i) (← b.sample? i) : Option Int).isSome = true := by
    intro i hi
    have hi := List.mem_range.1 hi
    obtain ⟨x, hx⟩ := ImageBuffer.Full.exists_sample hasize (hacount ▸ hi)
    obtain ⟨y, hy⟩ := hbfull.exists_sample (hbcount ▸ hi)
    rw [hx, hy]
    exact ⟨hi, rfl⟩
  obtain ⟨result, hresult, hsame⟩ := hofull.exists_foldlM hplaces
  exact ⟨result, hresult, hsame.width_eq.trans howidth, hsame.height_eq.trans hoheight,
    hsame.format_eq, hsame.size_eq.trans hosize⟩

/-- Two images to read and one to write, all of one size, in formats that arithmetic works on. -/
structure Operands (shape : List (Parameter × Descriptor)) (o width height : Nat)
    (first second format : PixelFormat) : Prop where
  exists_first : ∃ p, shape[0]? = some (p, .image width height first)
  exists_second : ∃ p, shape[1]? = some (p, .image width height second)
  exists_output : ∃ p, shape[o]? = some (p, .image width height format) ∧
    p.direction.writes = true
  lt_output : 1 < o
  format_mem : format ∈ [PixelFormat.u8, .s16]

theorem safe_combineSlots {shape : List (Parameter × Descriptor)} {o width height : Nat}
    {first second format : PixelFormat} (h : Operands shape o width height first second format)
    (op : PixelFormat → Int → Int → Int) :
    Safe shape expected (combineSlots o op) fun _ ↦ True := by
  obtain ⟨⟨p, ha⟩, ⟨q, hb⟩, ⟨r, hout, hwrites⟩, ho, -⟩ := h
  refine (safe_ask fun _ hfits ↦
    hfits.exists_binaryImage ha hb hout hwrites (by omega) (by omega)).bind ?_
  rintro ⟨a, b, out⟩ ⟨hamatches, hbmatches, hmatches⟩
  dsimp only at hamatches hbmatches hmatches ⊢
  have hcounts : ¬(a.pixelCount ≠ b.pixelCount ∨ a.pixelCount ≠ out.pixelCount) := by
    simp only [ImageBuffer.pixelCount, hamatches.1, hamatches.2.1, hbmatches.1, hbmatches.2.1,
      hmatches.1, hmatches.2.1, ne_eq, not_true_eq_false, or_self, not_false_eq_true]
  obtain ⟨result, hresult, hresultMatches⟩ :=
    exists_combine hamatches hbmatches hmatches (op out.format)
  rw [if_neg hcounts]
  exact (safe_need hresult hresultMatches).bind fun _ hanswer ↦ safe_replace hout hanswer

theorem exists_operands_absDiff {shape : List (Parameter × Descriptor)}
    (h : absDiff.Accepts shape) :
    ∃ width height first second format, Operands shape 2 width height first second format := by
  obtain ⟨width, height, first, ha, -⟩ := h.exists_image 0 rfl rfl
  obtain ⟨width', height', second, hb, -⟩ := h.exists_image 1 rfl rfl
  obtain ⟨width'', height'', format, hout, hformat⟩ := h.exists_image 2 rfl rfl
  obtain ⟨view, hvalid, hview⟩ := h.exists_view
  have hvalid : absDiffValidate view = .ok () := hvalid
  obtain ⟨⟨⟩, hsame, hvalid⟩ := exists_of_bind_eq_ok hvalid
  obtain ⟨⟨⟩, hsame', -⟩ := exists_of_bind_eq_ok hvalid
  obtain ⟨rfl, rfl⟩ :=
    Inspection.same_of_requireSameDimensions hsame (hview 0 _ _ ha) (hview 1 _ _ hb)
  obtain ⟨rfl, rfl⟩ :=
    Inspection.same_of_requireSameDimensions hsame' (hview 0 _ _ ha) (hview 2 _ _ hout)
  exact ⟨_, _, _, _, _, ⟨_, ha⟩, ⟨_, hb⟩, ⟨_, hout, rfl⟩, by decide, hformat⟩

theorem reliable_absDiff : absDiff.Reliable expected := by
  intro shape h
  obtain ⟨width, height, first, second, format, hoperands⟩ := exists_operands_absDiff h
  have hexecute : absDiff.execute =
      combineSlots 2 fun format x y ↦ saturate (x - y).natAbs format := rfl
  rw [hexecute]
  exact safe_combineSlots hoperands _

/-- The error of a policy that is not known. -/
def unknownPolicy (value : ScalarValue) : KernelError :=
  .invalidParameters ("unknown overflow policy " ++ value.describe)

theorem eq_of_ofValue_error {value : ScalarValue} {e : KernelError}
    (h : ConvertPolicy.ofValue value = .error e) : e = unknownPolicy value := by
  unfold ConvertPolicy.ofValue at h
  split at h
  · split at h
    · cases h
    · split at h
      · cases h
      · exact (Except.error.inj h).symm
  · exact (Except.error.inj h).symm

theorem same_of_policyValidate {view : Inspection} (h : policyValidate view = .ok ()) :
    view.requireSameDimensions 0 1 = .ok () ∧ view.requireSameDimensions 0 3 = .ok () := by
  have hboth {rest : Except KernelError Unit}
      (h : (do view.requireSameDimensions 0 1; view.requireSameDimensions 0 3; rest) = .ok ()) :
      view.requireSameDimensions 0 1 = .ok () ∧ view.requireSameDimensions 0 3 = .ok () := by
    obtain ⟨⟨⟩, hfirst, h⟩ := exists_of_bind_eq_ok h
    obtain ⟨⟨⟩, hsecond, -⟩ := exists_of_bind_eq_ok h
    exact ⟨hfirst, hsecond⟩
  unfold policyValidate at h
  -- Whether the policy is known already makes no difference to the sizes.
  split at h
  · obtain ⟨_, -, h⟩ := exists_of_bind_eq_ok h
    exact hboth h
  · exact hboth h

theorem exists_operands_policyKernel {shape : List (Parameter × Descriptor)}
    {name description : String} {op : Int → Int → Int}
    (h : (policyKernel name description op).Accepts shape) :
    ∃ width height first second format, Operands shape 3 width height first second format := by
  obtain ⟨width, height, first, ha, -⟩ := h.exists_image 0 rfl rfl
  obtain ⟨width', height', second, hb, -⟩ := h.exists_image 1 rfl rfl
  obtain ⟨width'', height'', format, hout, hformat⟩ := h.exists_image 3 rfl rfl
  obtain ⟨view, hvalid, hview⟩ := h.exists_view
  obtain ⟨hsame, hsame'⟩ := same_of_policyValidate hvalid
  obtain ⟨rfl, rfl⟩ :=
    Inspection.same_of_requireSameDimensions hsame (hview 0 _ _ ha) (hview 1 _ _ hb)
  obtain ⟨rfl, rfl⟩ :=
    Inspection.same_of_requireSameDimensions hsame' (hview 0 _ _ ha) (hview 3 _ _ hout)
  exact ⟨_, _, _, _, _, ⟨_, ha⟩, ⟨_, hb⟩, ⟨_, hout, rfl⟩, by decide, hformat⟩

theorem reliable_policyKernel (hexpected : ∀ value, expected (unknownPolicy value))
    (name description : String) (op : Int → Int → Int) :
    (policyKernel name description op).Reliable expected := by
  intro shape h
  have hpolicy := h.scalar 2 rfl rfl
  obtain ⟨width, height, first, second, format, hoperands⟩ := exists_operands_policyKernel h
  have hexecute : (policyKernel name description op).execute = policyExecute op := rfl
  rw [hexecute, policyExecute]
  refine (safe_ask fun _ hfits ↦ hfits.exists_scalar hpolicy).bind fun value _ ↦ ?_
  split
  · next e he =>
    rw [eq_of_ofValue_error he]
    exact safe_fail (hexpected value)
  · exact safe_combineSlots hoperands _

/-! ## Bytes -/

theorem reliable_bitwiseKernel (name description : String) (op : UInt8 → UInt8 → UInt8) :
    (bitwiseKernel name description op).Reliable expected := by
  intro shape h
  obtain ⟨width, height, first, ha, hfirst⟩ := h.exists_image 0 rfl rfl
  obtain ⟨width', height', second, hb, hsecond⟩ := h.exists_image 1 rfl rfl
  obtain ⟨width'', height'', format, hout, hformat⟩ := h.exists_image 2 rfl rfl
  obtain rfl := List.mem_singleton.1 hfirst
  obtain rfl := List.mem_singleton.1 hsecond
  obtain rfl := List.mem_singleton.1 hformat
  obtain ⟨view, hvalid, hview⟩ := h.exists_view
  have hvalid : bitwiseValidate view = .ok () := hvalid
  obtain ⟨⟨⟩, hsame, hsame'⟩ := exists_of_bind_eq_ok hvalid
  obtain ⟨rfl, rfl⟩ :=
    Inspection.same_of_requireSameDimensions hsame (hview 0 _ _ ha) (hview 1 _ _ hb)
  obtain ⟨rfl, rfl⟩ :=
    Inspection.same_of_requireSameDimensions hsame' (hview 0 _ _ ha) (hview 2 _ _ hout)
  have hexecute : (bitwiseKernel name description op).execute = bitwiseExecute op := rfl
  rw [hexecute, bitwiseExecute]
  refine (safe_ask fun _ hfits ↦
    hfits.exists_binaryImage ha hb hout rfl (by decide) (by decide)).bind ?_
  rintro ⟨a, b, out⟩ ⟨⟨-, -, -, hasize⟩, ⟨-, -, -, hbsize⟩, hwidth, hheight, hformat, hsize⟩
  dsimp only at hasize hbsize hsize ⊢
  rw [if_pos ⟨hasize.trans hsize.symm, hbsize.trans hsize.symm⟩]
  refine safe_replace hout ⟨hwidth, hheight, hformat, ?_⟩
  rw [Bytes.size_zipWith, hasize, hbsize, Nat.min_self]

theorem reliable_bitNot : bitNot.Reliable expected := by
  intro shape h
  obtain ⟨width, height, first, hin, -⟩ := h.exists_image 0 rfl rfl
  obtain ⟨width', height', format, hout, -⟩ := h.exists_image 1 rfl rfl
  refine (safe_ask fun _ hfits ↦ hfits.exists_unaryImage hin hout rfl (by decide)).bind ?_
  rintro ⟨source, target⟩ ⟨-, hwidth, hheight, hformat, hsize⟩
  refine safe_replace hout ⟨hwidth, hheight, hformat, ?_⟩
  rw [complementInto, Bytes.size_mapIdx]
  exact hsize

/-- The shapes that the box filter has accepted. -/
theorem exists_shapes_box3x3 {filter : BoxFilter} {shape : List (Parameter × Descriptor)}
    (h : (box3x3 filter).Accepts shape) : ∃ width height,
      shape[0]? = some (.input "input" (.image .u8), .image width height .u8) ∧
      shape[1]? = some (.output "output" (.image .u8), .image width height .u8) := by
  obtain ⟨width, height, first, hin, hfirst⟩ := h.exists_image 0 rfl rfl
  obtain ⟨width', height', format, hout, hformat⟩ := h.exists_image 1 rfl rfl
  obtain rfl := List.mem_singleton.1 hfirst
  obtain rfl := List.mem_singleton.1 hformat
  obtain ⟨view, hsame, hview⟩ := h.exists_view
  obtain ⟨rfl, rfl⟩ :=
    Inspection.same_of_requireSameDimensions hsame (hview 0 _ _ hin) (hview 1 _ _ hout)
  exact ⟨width', height', hin, hout⟩

theorem reliable_box3x3 {filter : BoxFilter} (hfilter : filter.KeepsSize) :
    (box3x3 filter).Reliable expected := by
  intro shape h
  obtain ⟨width, height, hin, hout⟩ := exists_shapes_box3x3 h
  refine (safe_ask fun _ hfits ↦ hfits.exists_unaryImage hin hout rfl (by decide)).bind ?_
  rintro ⟨source, target⟩ ⟨⟨rfl, rfl, hsource, hsourceSize⟩, hwidth, hheight, hformat, hsize⟩
  dsimp only at hsource hsourceSize hsize ⊢
  have hpixels : source.pixelCount ≤ source.data.size := by
    rw [hsourceSize]
    exact Nat.le_of_eq (Nat.mul_one _).symm
  have hgray : source.toGray? = some { source with format := .u8 } := by
    rw [ImageBuffer.toGray?, hsource]
    exact if_pos hpixels
  obtain ⟨blurred, hblurred, hblurredWidth, hblurredHeight, hfilled⟩ :=
    hfilter { source with format := .u8 } rfl hpixels
  have hblurredSize : blurred.data.size = target.data.size := by
    rw [hfilled, hsize, ImageBuffer.pixelCount, hblurredWidth, hblurredHeight]
    exact (Nat.mul_one _).symm
  rw [hgray]
  dsimp only
  refine (safe_need (Q := (·.data.size = target.data.size)) hblurred hblurredSize).bind
    fun filtered hfiltered ↦ ?_
  rw [if_pos hfiltered]
  exact safe_replace hout ⟨hwidth, hheight, hformat, hfiltered.trans hsize⟩

/-- A filter whose result has another size spoils nothing: the result is refused. -/
theorem keepsFit_box3x3 (filter : BoxFilter) : (box3x3 filter).KeepsFit := by
  intro shape h access hfits
  obtain ⟨width, height, hin, hout⟩ := exists_shapes_box3x3 h
  obtain ⟨⟨source, target⟩, hask, -, hwidth, hheight, hformat, hsize⟩ :=
    hfits.exists_unaryImage hin hout rfl (by decide)
  change ((box3x3Execute filter).run access).2.Fits shape
  rw [box3x3Execute, Stateful.run_bind, run_ask, hask]
  dsimp only [Except.mapError]
  cases source.toGray? with
  | none => exact hfits
  | some gray =>
    dsimp only
    cases filter.blur? gray 1 1 with
    | none => exact hfits
    | some blurred =>
      rw [Stateful.run_bind, run_need]
      dsimp only [Stop.need]
      split
      · next hsame => exact hfits.replace hout ⟨hwidth, hheight, hformat, hsame.trans hsize⟩
      · exact hfits

/-! ## All of them -/

/-- The errors with which a standard kernel may end although its slots fit. -/
inductive Verdict : Kernel → KernelError → Prop
  | mismatch (errors : UInt32) (total : Nat) (value : UInt32) :
    Verdict check (mismatchError errors total value)
  | policy {kernel : Kernel} (h : kernel = add ∨ kernel = subtract) (value : ScalarValue) :
    Verdict kernel (unknownPolicy value)

/-- Only the box filter rests on code of others. -/
theorem reliable_or_eq_box3x3 {filter : BoxFilter} {kernel : Kernel}
    (h : kernel ∈ standard filter) : kernel.Reliable (Verdict kernel) ∨ kernel = box3x3 filter := by
  simp only [standard, List.mem_cons, List.not_mem_nil, or_false] at h
  rcases h with rfl | rfl | rfl | rfl | rfl | rfl | rfl | rfl | rfl | rfl | rfl | rfl
  · exact .inl reliable_copyImage
  · exact .inl reliable_copyArray
  · exact .inl reliable_fill
  · exact .inl (reliable_check .mismatch)
  · exact .inl reliable_absDiff
  · exact .inl (reliable_policyKernel (.policy (.inl rfl)) _ _ _)
  · exact .inl (reliable_policyKernel (.policy (.inr rfl)) _ _ _)
  · exact .inl (reliable_bitwiseKernel _ _ _)
  · exact .inl (reliable_bitwiseKernel _ _ _)
  · exact .inl (reliable_bitwiseKernel _ _ _)
  · exact .inl reliable_bitNot
  · exact .inr rfl

theorem reliable_of_mem_standard {filter : BoxFilter} (hfilter : filter.KeepsSize) {kernel : Kernel}
    (h : kernel ∈ standard filter) : kernel.Reliable (Verdict kernel) := by
  rcases reliable_or_eq_box3x3 h with hreliable | rfl
  · exact hreliable
  · exact reliable_box3x3 hfilter

theorem keepsFit_of_mem_standard {filter : BoxFilter} {kernel : Kernel}
    (h : kernel ∈ standard filter) : kernel.KeepsFit := by
  rcases reliable_or_eq_box3x3 h with hreliable | rfl
  · exact hreliable.keepsFit
  · exact keepsFit_box3x3 filter

/-- Standard kernels differ in their signatures. -/
theorem eq_of_signature_eq {filter : BoxFilter} {kernel other : Kernel}
    (h : kernel ∈ standard filter) (h' : other ∈ standard filter)
    (hsignature : kernel.signature = other.signature) : kernel = other := by
  have hnames : (standard filter).map Kernel.name = standard.map Kernel.name := rfl
  have hnodup : ((standard filter).map Kernel.name).Nodup := by
    rw [hnames]
    decide
  exact List.inj_on_of_nodup_map hnodup h h' (congrArg Signature.name hsignature)

end Kernels

end ImageFlow
