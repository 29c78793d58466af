import ImageFlow.Data.Constraint

/-!
# Overlapping constraints

A constraint looks at the kind of a shape and at its format or its type, never at its sides or its
capacity. It therefore accepts a shape if and only if it accepts the smallest one of that kind, of
which an object can always be made. Two tables say what constraints mean, one for each question:
which shapes one constraint accepts, and which pairs of constraints overlap. They agree: constraints
overlap if and only if one shape satisfies both.
-/

namespace ImageFlow

/-- The least shape of the same kind, with the same format or type. -/
def Descriptor.smallest : Descriptor → Descriptor
  | image _ _ format => .image 1 1 format
  | scalar type => .scalar type
  | array item _ => .array item 1

theorem Descriptor.fault?_smallest (descriptor : Descriptor) :
    descriptor.smallest.fault? = none := by
  cases descriptor with
  | image width height format => cases format <;> rfl
  | scalar type => rfl
  | array item capacity => cases item <;> rfl

theorem PixelFormat.mem_all (format : PixelFormat) : format ∈ all := by
  cases format <;> decide

namespace Constraint

theorem accepts_smallest (c : Constraint) (descriptor : Descriptor) :
    c.accepts descriptor.smallest = c.accepts descriptor := by
  cases descriptor <;> cases c <;> rfl

/-! ## The shapes of one kind that a constraint accepts -/

theorem accepts_image_iff {c : Constraint} {width height : Nat} {format : PixelFormat} :
    c.accepts (.image width height format) = true ↔
      ∃ formats, c.imageFormats? = some formats ∧ format ∈ formats := by
  cases c with
  | anyImage => exact iff_of_true rfl ⟨_, rfl, format.mem_all⟩
  | image wanted => simp [accepts, imageFormats?, eq_comm (a := wanted)]
  | imageOneOf allowed => simp [accepts, imageFormats?]
  | _ => simp [accepts, imageFormats?]

theorem accepts_scalar_iff {c : Constraint} {type : ScalarType} :
    c.accepts (.scalar type) = true ↔ c = .anyScalar ∨ c = .scalar type := by
  cases c <;> simp [accepts]

theorem accepts_array_iff {c : Constraint} {item : ScalarType} {capacity : Nat} :
    c.accepts (.array item capacity) = true ↔ c = .anyArray ∨ c = .array item := by
  cases c <;> simp [accepts]

/-! ## Both tables agree -/

/-- For each row of the table of overlaps there is a shape that both constraints accept. -/
theorem exists_accepts_of_overlaps {a b : Constraint} (h : a.overlaps b = true) :
    ∃ descriptor, a.accepts descriptor = true ∧ b.accepts descriptor = true := by
  unfold overlaps at h
  split at h
  case h_1 fa fb ha hb =>
    obtain ⟨format, hfa, hfb⟩ := List.any_eq_true.mp h
    exact ⟨.image 1 1 format, accepts_image_iff.mpr ⟨fa, ha, hfa⟩,
      accepts_image_iff.mpr ⟨fb, hb, by simpa using hfb⟩⟩
  case h_2 =>
    split at h
    · exact ⟨.scalar .u8, rfl, rfl⟩
    · exact ⟨.scalar _, rfl, accepts_scalar_iff.mpr (.inr rfl)⟩
    · exact ⟨.scalar _, accepts_scalar_iff.mpr (.inr rfl), rfl⟩
    · exact ⟨.scalar _, accepts_scalar_iff.mpr (.inr rfl),
        accepts_scalar_iff.mpr (.inr (congrArg scalar (eq_of_beq h).symm))⟩
    · exact ⟨.array _ 1, accepts_array_iff.mpr (.inr rfl),
        accepts_array_iff.mpr (.inr (congrArg array (eq_of_beq h).symm))⟩
    · exact ⟨.array _ 1, rfl, accepts_array_iff.mpr (.inr rfl)⟩
    · exact ⟨.array _ 1, accepts_array_iff.mpr (.inr rfl), rfl⟩
    · exact ⟨.array .u8 1, rfl, rfl⟩
    · cases h
  case h_3 => cases h

/-- Constraints that accept one shape overlap. The kind of the shape decides which rows are left. -/
theorem overlaps_of_accepts {a b : Constraint} {descriptor : Descriptor}
    (ha : a.accepts descriptor = true) (hb : b.accepts descriptor = true) :
    a.overlaps b = true := by
  cases descriptor with
  | image width height format =>
    obtain ⟨fa, hfa, hina⟩ := accepts_image_iff.mp ha
    obtain ⟨fb, hfb, hinb⟩ := accepts_image_iff.mp hb
    simp only [overlaps, hfa, hfb]
    exact List.any_eq_true.mpr ⟨format, hina, by simpa using hinb⟩
  | scalar type =>
    obtain rfl | rfl := accepts_scalar_iff.mp ha <;>
      obtain rfl | rfl := accepts_scalar_iff.mp hb <;>
      simp [overlaps, imageFormats?]
  | array item capacity =>
    obtain rfl | rfl := accepts_array_iff.mp ha <;> obtain rfl | rfl := accepts_array_iff.mp hb <;>
      simp [overlaps, imageFormats?]

theorem overlaps_iff_exists_accepts {a b : Constraint} :
    a.overlaps b = true ↔
      ∃ descriptor, a.accepts descriptor = true ∧ b.accepts descriptor = true :=
  ⟨exists_accepts_of_overlaps, fun ⟨_, ha, hb⟩ ↦ overlaps_of_accepts ha hb⟩

/-- Which of two constraints is asked does not matter. -/
theorem overlaps_comm (a b : Constraint) : a.overlaps b = b.overlaps a := by
  rw [Bool.eq_iff_iff, overlaps_iff_exists_accepts, overlaps_iff_exists_accepts]
  exact exists_congr fun _ ↦ and_comm

/-- Two constraints overlap if and only if one shape satisfies both, and then one of which an object
can be made does. Which of the two is asked does not matter, and a constraint overlaps itself unless
it accepts nothing. -/
theorem overlap_is_joint_satisfiability (a b : Constraint) :
    (a.overlaps b = true ↔
      ∃ descriptor, a.accepts descriptor = true ∧ b.accepts descriptor = true) ∧
    (a.overlaps b = true ↔ ∃ descriptor : Descriptor, descriptor.fault? = none ∧
      a.accepts descriptor = true ∧ b.accepts descriptor = true) ∧
    a.overlaps b = b.overlaps a ∧
    (a.overlaps a = true ↔ ∃ descriptor, a.accepts descriptor = true) := by
  refine ⟨overlaps_iff_exists_accepts, ?_, overlaps_comm a b, ?_⟩
  · rw [overlaps_iff_exists_accepts]
    constructor
    · rintro ⟨descriptor, ha, hb⟩
      exact ⟨descriptor.smallest, descriptor.fault?_smallest, (a.accepts_smallest _).trans ha,
        (b.accepts_smallest _).trans hb⟩
    · rintro ⟨descriptor, -, ha, hb⟩
      exact ⟨descriptor, ha, hb⟩
  · simp only [overlaps_iff_exists_accepts, and_self]

/-- A list of no formats accepts nothing, so it does not even overlap itself. -/
example : (imageOneOf []).overlaps (imageOneOf []) = false ∧
    anyImage.overlaps (imageOneOf []) = false := by decide

end Constraint

end ImageFlow
