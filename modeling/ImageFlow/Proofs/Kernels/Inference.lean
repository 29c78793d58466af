import ImageFlow.Kernels.Standard
import ImageFlow.Proofs.Data.Overlap

/-!
# Inferred shapes fit their slots

A kernel infers the shape of a slot without looking at the constraint of the slot, unless it does so
by the general rule, and nothing but its own signature says what the slot takes. The general rule is
a case distinction on the constraint: in each case it names a shape, or searches the inputs for one,
that the constraint accepts. The standard kernels infer by the general rule, with two exceptions.
One infers nothing, and the sum and the difference choose between the two formats that their output
has in common with their inputs.
-/

namespace ImageFlow

namespace Inspection

variable {view : Inspection} {slot : Nat} {descriptor : Descriptor}

theorem isImage_of_firstInputImage? (h : view.firstInputImage? = some descriptor) :
    ∃ width height format, descriptor = .image width height format := by
  have himage : descriptor.isImage = true := List.find?_some h
  cases descriptor with
  | image width height format => exact ⟨width, height, format, rfl⟩
  | scalar type => cases himage
  | array item capacity => cases himage

/-- What follows from the inputs for a slot is accepted by the slot. -/
theorem accepts_of_defaultOutput? (h : view.defaultOutput? slot = some descriptor) :
    ∃ parameter, view.parameter? slot = some parameter ∧
      parameter.constraint.accepts descriptor = true := by
  obtain ⟨parameter, hparameter, hfound⟩ := Option.bind_eq_some_iff.1 h
  refine ⟨parameter, hparameter, ?_⟩
  cases hconstraint : parameter.constraint with
  | anyImage =>
    simp only [hconstraint] at hfound
    obtain ⟨width, height, format, rfl⟩ := isImage_of_firstInputImage? hfound
    rfl
  | image format =>
    simp only [hconstraint] at hfound
    obtain ⟨size, -, hsized⟩ := Option.bind_eq_some_iff.1 hfound
    obtain rfl := Option.some.inj hsized
    exact Constraint.accepts_image_iff.2 ⟨[format], rfl, List.mem_singleton_self format⟩
  | imageOneOf formats =>
    simp only [hconstraint] at hfound
    obtain ⟨hfirst, hformat⟩ := Option.filter_eq_some_iff.1 hfound
    obtain ⟨width, height, format, rfl⟩ := isImage_of_firstInputImage? hfirst
    exact hformat
  | scalar type =>
    simp only [hconstraint] at hfound
    obtain rfl := Option.some.inj hfound
    exact Constraint.accepts_scalar_iff.2 (.inr rfl)
  | anyScalar =>
    simp only [hconstraint] at hfound
    cases hfound
  | array item =>
    simp only [hconstraint] at hfound
    exact List.find?_some hfound
  | anyArray =>
    simp only [hconstraint] at hfound
    have harray : descriptor.isArray = true := List.find?_some hfound
    cases descriptor with
    | array item capacity => rfl
    | image width height format => cases harray
    | scalar type => cases harray

end Inspection

/-! ## Kernels -/

/-- Whatever the kernel is shown of a node with its own signature, it infers for no slot a shape
that the slot refuses. -/
def Kernel.InfersFitting (kernel : Kernel) : Prop :=
  ∀ (view : Inspection) (slot : Nat) (descriptor : Descriptor),
    view.signature = kernel.signature → kernel.infer slot view = some descriptor →
      ∃ parameter, kernel.signature.parameters[slot]? = some parameter ∧
        parameter.constraint.accepts descriptor = true

/-- A kernel with the general rule, whatever else it does. -/
theorem Kernel.infersFitting_of_default {kernel : Kernel}
    (h : kernel.infer = fun slot view ↦ view.defaultOutput? slot) : kernel.InfersFitting := by
  intro view slot descriptor hsignature hinfers
  rw [h] at hinfers
  rw [← hsignature]
  exact Inspection.accepts_of_defaultOutput? hinfers

namespace Kernels

theorem infersFitting_fill : fill.InfersFitting := by
  intro view slot descriptor _ hinfers
  cases hinfers

/-- What a sum or a difference infers is an image of 8 or 16 bits for its output. -/
theorem exists_of_policyInfer {view : Inspection} {slot : Nat} {descriptor : Descriptor}
    (h : policyInfer slot view = some descriptor) :
    slot = 3 ∧ ∃ width height format, descriptor = .image width height format ∧
      format ∈ [PixelFormat.u8, .s16] := by
  rw [policyInfer] at h
  split at h
  · next hslot =>
    obtain ⟨size, -, h⟩ := Option.bind_eq_some_iff.1 h
    obtain ⟨first, -, h⟩ := Option.bind_eq_some_iff.1 h
    have hsecond : ∃ second, some (Descriptor.image size.1 size.2
        (if first = PixelFormat.u8 ∧ second = PixelFormat.u8 then .u8 else .s16)) =
          some descriptor := by
      split at h
      · obtain ⟨second, -, h⟩ := Option.bind_eq_some_iff.1 h
        exact ⟨second, h⟩
      · exact ⟨.s16, h⟩
    obtain ⟨second, h⟩ := hsecond
    refine ⟨hslot, size.1, size.2, _, (Option.some.inj h).symm, ?_⟩
    split <;> simp
  · cases h

theorem infersFitting_policyKernel (name description : String) (op : Int → Int → Int) :
    (policyKernel name description op).InfersFitting := by
  intro view slot descriptor _ hinfers
  obtain ⟨rfl, width, height, format, rfl, hformat⟩ := exists_of_policyInfer hinfers
  have haccepts : arithmeticFormats.accepts (.image width height format) = true :=
    Constraint.accepts_image_iff.2 ⟨_, rfl, hformat⟩
  exact ⟨.output "out" arithmeticFormats, rfl, haccepts⟩

/-- Every standard kernel infers shapes that fit its slots. -/
theorem infersFitting_of_mem_standard {filter : BoxFilter} {kernel : Kernel}
    (h : kernel ∈ standard filter) : kernel.InfersFitting := by
  simp only [standard, List.mem_cons, List.not_mem_nil, or_false] at h
  obtain rfl | rfl | rfl | rfl | rfl | rfl | rfl | rfl | rfl | rfl | rfl | rfl := h
  case inr.inr.inl => exact infersFitting_fill
  case inr.inr.inr.inr.inr.inl => exact infersFitting_policyKernel _ _ _
  case inr.inr.inr.inr.inr.inr.inl => exact infersFitting_policyKernel _ _ _
  all_goals exact Kernel.infersFitting_of_default rfl

end Kernels

end ImageFlow
