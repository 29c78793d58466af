import ImageFlow.Proofs.Data.Sizes
import ImageFlow.Proofs.Session.Operation
import ImageFlow.Proofs.Verification.Blame

/-!
# Shapes that are refused

A shape is judged in three places: when a concrete object is made, when a virtual image is made of
which everything is fixed, and when a virtual object is given a shape by verification. All three
look at the fault of the shape before they change anything. They refuse the same shapes, those that
are not possible, and leave everything as it was.

A possible shape is not refused, but memory for it need not be there. This concerns arrays only,
whose items are kept in eight bytes each and counted as one, two or four.
-/

namespace ImageFlow

open Stateful

/-- The hint that fixes all of an image. -/
def ImageHint.pinned (width height : Nat) (format : PixelFormat) : ImageHint :=
  { format := some format, width := some width, height := some height }

section Refusals

variable {arena : Arena} {graph : Graph} {draft : Draft} {object : DataObject} {ref : DataRef}
  {descriptor : Descriptor} {hint : ImageHint} {fault : SizeFault} {width height : Nat}
  {format : PixelFormat}

/-- The rule of a hint speaks of zero sides in words of its own, but refuses what the shape is
refused for. -/
theorem ImageHint.fault?_pinned_eq_none_iff :
    (pinned width height format).fault? = none ↔
      (Descriptor.image width height format).Possible := by
  calc (pinned width height format).fault? = none
      ↔ ¬(width = 0 ∨ height = 0) ∧ Descriptor.imageSizeFault? width height format = none := by
        simp only [fault?, pinned, Option.some.injEq]
        split <;> simp [*]
    _ ↔ (Descriptor.image width height format).Possible := by
        rw [Descriptor.imageSizeFault?_eq_none_iff, not_or, and_assoc]
        rfl

/-! ## What is said of a shape with a fault -/

theorem Graph.create_of_fault (h : descriptor.fault? = some fault) :
    graph.create descriptor = .error (.failed (.invalidFormat fault.message)) := by
  simp only [create, Arena.create, h, DataError.ofSizeFault, Except.map]

theorem Graph.createVirtualImage_of_fault (h : hint.fault? = some fault) :
    graph.createVirtualImage hint = .error (.invalidFormat fault.message) := by
  simp only [createVirtualImage, Arena.createVirtualImage, h, DataError.ofSizeFault, Except.map]

theorem Graph.isOk_createVirtualImage_iff :
    (graph.createVirtualImage hint).isOk = true ↔ hint.fault? = none := by
  cases h : hint.fault? with
  | none => simp [createVirtualImage, Arena.createVirtualImage, h, Except.map, Except.isOk,
      Except.toBool]
  | some fault => simp [createVirtualImage_of_fault h, Except.isOk, Except.toBool]

theorem DataObject.resolve_of_fault (hpending : object.state = .pending)
    (h : descriptor.fault? = some fault) :
    object.resolve descriptor = .error (.invalidFormat fault.message) := by
  simp only [resolve, hpending, h, DataError.ofSizeFault]

theorem Arena.resolve_of_fault (hobject : arena.get ref = .ok object)
    (hpending : object.state = .pending) (h : descriptor.fault? = some fault) :
    arena.resolve ref descriptor = .error (.invalidFormat fault.message) := by
  rw [resolve_of_get hobject, DataObject.resolve_of_fault hpending h]
  rfl

/-- The shape is refused before the objects after it are looked at. -/
theorem Verification.run_resolveAll_of_fault (hobject : draft.graph.arena.get ref = .ok object)
    (hpending : object.state = .pending) (h : descriptor.fault? = some fault)
    (rest : List (DataRef × Descriptor)) :
    (resolveAll ((ref, descriptor) :: rest)).run draft =
      (.error (.failed (.invalidData ref.id fault.message)), draft) := by
  rw [resolveAll, run_bind, run_graph]
  dsimp only
  rw [Arena.resolve_of_fault hobject hpending h]
  rfl

/-! ## Refused everywhere -/

/-- Whoever asks for the shape is told that it is wrong, and nothing has changed then. -/
structure Descriptor.Refused (descriptor : Descriptor) : Prop where
  create (graph : Graph) : ∃ reason,
    graph.create descriptor = .error (.failed (.invalidFormat reason)) ∧
      (Operation.create descriptor).apply graph = graph
  pin (graph : Graph) (width height : Nat) (format : PixelFormat) :
    descriptor = .image width height format → ∃ reason,
      graph.createVirtualImage (.pinned width height format) = .error (.invalidFormat reason) ∧
        (Operation.createVirtualImage (.pinned width height format)).apply graph = graph
  resolve (draft : Draft) (ref : DataRef) (object : DataObject)
    (rest : List (DataRef × Descriptor)) :
    draft.graph.arena.get ref = .ok object → object.state = .pending → ∃ reason,
      object.resolve descriptor = .error (.invalidFormat reason) ∧
        draft.graph.arena.resolve ref descriptor = .error (.invalidFormat reason) ∧
        (Verification.resolveAll ((ref, descriptor) :: rest)).run draft =
          (.error (.failed (.invalidData ref.id reason)), draft)

theorem Descriptor.refused_of_not_possible (h : ¬descriptor.Possible) : descriptor.Refused := by
  obtain ⟨fault, hfault⟩ := exists_fault_of_not_possible h
  constructor
  · intro graph
    have herror : graph.create descriptor = .error (.failed (.invalidFormat fault.message)) :=
      Graph.create_of_fault hfault
    refine ⟨fault.message, herror, ?_⟩
    simp only [Operation.apply, herror, Except.map, Graph.settle]
  · intro graph width height format hshape
    have hpinned : (ImageHint.pinned width height format).fault? ≠ none := by
      rw [Ne, ImageHint.fault?_pinned_eq_none_iff, ← hshape]
      exact h
    obtain ⟨found, hfound⟩ := Option.ne_none_iff_exists'.1 hpinned
    have herror : graph.createVirtualImage (.pinned width height format) =
        .error (.invalidFormat found.message) := Graph.createVirtualImage_of_fault hfound
    refine ⟨found.message, herror, ?_⟩
    simp only [Operation.apply, herror, Except.map, Graph.settle]
  · intro draft ref object rest hobject hpending
    exact ⟨fault.message, DataObject.resolve_of_fault hpending hfault,
      Arena.resolve_of_fault hobject hpending hfault,
      Verification.run_resolveAll_of_fault hobject hpending hfault rest⟩

/-- The memory of a possible image is black. -/
theorem Payload.exists_allocate?_image
    (h : (Descriptor.image width height format).Possible) :
    ∃ buffer, allocate? (.image width height format) = some (.image buffer) ∧
      buffer.descriptor = .image width height format ∧
      buffer.data.size = width * height * format.bytesPerPixel ∧
      ∀ i < buffer.data.size, buffer.data.get? i = some 0 := by
  have hsize : (ImageBuffer.blank width height format).data.size =
      width * height * format.bytesPerPixel := by
    rw [ImageBuffer.blank, Bytes.size_blank, h.byteSize_eq, Descriptor.exactSize]
  refine ⟨.blank width height format, allocate?_of_isAddressable h.isAddressable_image, rfl, hsize,
    fun i hi ↦ Bytes.get?_blank ?_⟩
  rwa [ImageBuffer.blank, Bytes.size_blank] at hi

/-- Whether objects of a shape can be made is decided by exact arithmetic, although it is computed
in words, and decided in the same way for concrete objects, virtual images and inferred shapes. The
size of a possible shape is exact, and an image has as many bytes, all zero. -/
theorem Descriptor.sizes_agree (descriptor : Descriptor) :
    (descriptor.fault? = none ↔ descriptor.Possible) ∧
    (descriptor.Possible → descriptor.byteSize = descriptor.exactSize) ∧
    (∀ width height format, descriptor = .image width height format → descriptor.Possible →
      ∃ buffer, Payload.allocate? descriptor = some (.image buffer) ∧
        buffer.descriptor = descriptor ∧ buffer.data.size = descriptor.exactSize ∧
        ∀ i < buffer.data.size, buffer.data.get? i = some 0) ∧
    (∀ (graph : Graph) width height format, descriptor = .image width height format →
      ((graph.createVirtualImage (.pinned width height format)).isOk = true ↔
        descriptor.Possible)) ∧
    (¬descriptor.Possible → descriptor.Refused) := by
  refine ⟨fault?_eq_none_iff, Possible.byteSize_eq, ?_, ?_, refused_of_not_possible⟩
  · rintro width height format rfl hpossible
    exact Payload.exists_allocate?_image hpossible
  · rintro graph width height format rfl
    rw [Graph.isOk_createVirtualImage_iff, ImageHint.fault?_pinned_eq_none_iff]

/-- The largest square image in packed colour, and the one that is a row and a column larger. -/
theorem Descriptor.sizes_agree_largest :
    (Descriptor.image 1753413056 1753413056 .rgb).byteSize = 9223372034853777408 ∧
      (Descriptor.image 1753413057 1753413057 .rgb).Refused := by
  have hinside : (Descriptor.image 1753413056 1753413056 .rgb).Possible := by decide
  have houtside : ¬(Descriptor.image 1753413057 1753413057 .rgb).Possible := by decide
  exact ⟨(sizes_agree (.image 1753413056 1753413056 .rgb)).2.1 hinside,
    (sizes_agree (.image 1753413057 1753413057 .rgb)).2.2.2.2 houtside⟩

end Refusals

/-! ## Arrays without memory -/

section Arrays

variable {arena : Arena} {descriptor : Descriptor} {item : ScalarType} {capacity : Nat}

theorem Arena.exists_create (h : descriptor.fault? = none)
    (haddressable : descriptor.isAddressable = true) :
    ∃ made, arena.create descriptor = .ok made := by
  simp only [create, h, Payload.allocate?_of_isAddressable haddressable]
  exact ⟨_, rfl⟩

theorem Arena.create_eq_crash (h : descriptor.fault? = none)
    (hmemory : Payload.allocate? descriptor = none) : arena.create descriptor = .error .crash := by
  simp only [create, h, hmemory]
  rfl

/-- An array that is not refused has its memory if and only if it has less than `2 ^ 60` places,
whatever its items are. Making a larger one crashes. -/
theorem Arena.create_array (arena : Arena) (h : (Descriptor.array item capacity).fault? = none) :
    ((Descriptor.array item capacity).reservedBytes ≤ 2 ^ 63 - 1 ↔ capacity < 2 ^ 60) ∧
    (capacity < 2 ^ 60 →
      Payload.allocate? (.array item capacity) = some (.array (.empty item capacity)) ∧
      ∃ made, arena.create (.array item capacity) = .ok made) ∧
    (2 ^ 60 ≤ capacity → Payload.allocate? (.array item capacity) = none ∧
      arena.create (.array item capacity) = .error .crash) := by
  refine ⟨?_, fun hsmall ↦ ?_, fun hlarge ↦ ?_⟩
  · calc (Descriptor.array item capacity).reservedBytes ≤ 2 ^ 63 - 1
        ↔ (Descriptor.array item capacity).isAddressable = true :=
          Descriptor.isAddressable_iff.symm
      _ ↔ capacity < 2 ^ 60 := Descriptor.isAddressable_array_iff
  · have haddressable := (@Descriptor.isAddressable_array_iff capacity item).2 hsmall
    exact ⟨Payload.allocate?_of_isAddressable haddressable, exists_create h haddressable⟩
  · have hmemory : Payload.allocate? (.array item capacity) = none := by
      rw [Payload.allocate?_eq_none_iff, Bool.eq_false_iff, Ne, Descriptor.isAddressable_array_iff]
      exact Nat.not_lt.2 hlarge
    exact ⟨hmemory, create_eq_crash h hmemory⟩

/-- The largest array that can be made. -/
theorem Arena.create_array_largest :
    (Descriptor.array .u8 (2 ^ 60 - 1)).fault? = none ∧
      (Descriptor.array .u8 (2 ^ 60 - 1)).reservedBytes ≤ 2 ^ 63 - 1 ∧
      ∃ made, (Arena.empty ⟨0⟩).create (.array .u8 (2 ^ 60 - 1)) = .ok made := by
  have hfault : (Descriptor.array .u8 (2 ^ 60 - 1)).fault? = none := by decide
  have hmade := create_array (.empty ⟨0⟩) hfault
  exact ⟨hfault, hmade.1.2 (by decide), (hmade.2.1 (by decide)).2⟩

/-- An array of one more item is not refused, and its memory is more than can be addressed. -/
theorem Arena.create_array_crashes :
    (Descriptor.array .u8 (2 ^ 60)).fault? = none ∧
      ¬(Descriptor.array .u8 (2 ^ 60)).reservedBytes ≤ 2 ^ 63 - 1 ∧
      (Arena.empty ⟨0⟩).create (.array .u8 (2 ^ 60)) = .error .crash := by
  refine ⟨by decide, by decide, ?_⟩
  exact create_eq_crash (by decide) (by decide)

end Arrays

end ImageFlow
