import ImageFlow.Kernels.Standard
import ImageFlow.Proofs.Kernels.Work

/-!
# Kernels that do not look at the number of their node

A kernel is shown the number of its node along with everything else, and may compute what it likes
from it. The standard kernels do not: what they compute follows from shapes, values and payloads
alone. For work on slots this is shown step by step, as computations that do not look at the number
make up computations that do not.
-/

namespace ImageFlow

open Stateful

/-- A kernel that does not look at the number of its node. -/
structure Kernel.Oblivious (kernel : Kernel) : Prop where
  infer : ∀ slot view node, kernel.infer slot { view with node } = kernel.infer slot view
  validate : ∀ view node, kernel.validate { view with node } = kernel.validate view
  prepare : ∀ view node, kernel.prepare { view with node } = kernel.prepare view
  execute : ∀ access node,
    (kernel.execute { access with node }).1 = (kernel.execute access).1 ∧
      (kernel.execute { access with node }).2.slots = (kernel.execute access).2.slots

/-! ## Work -/

namespace Work

variable {α β : Type}

/-- A computation that neither looks at the number of the node nor changes it. -/
def Oblivious (work : Work α) : Prop :=
  ∀ access node, work.run { access with node } =
    ((work.run access).1, { (work.run access).2 with node })

theorem Oblivious.bind {work : Work α} {next : α → Work β} (h : work.Oblivious)
    (hnext : ∀ answer, (next answer).Oblivious) : (work >>= next).Oblivious := by
  intro access node
  rw [run_bind, run_bind, h access node]
  generalize work.run access = ended
  obtain ⟨result, after⟩ := ended
  cases result with
  | error stop => rfl
  | ok answer => exact hnext answer after node

theorem oblivious_pure (answer : α) : Oblivious (pure answer) := fun _ _ ↦ rfl

theorem oblivious_fail (e : KernelError) : Oblivious (fail (α := α) e) := fun _ _ ↦ rfl

theorem oblivious_need (found : Option α) : Oblivious (need found) := fun _ _ ↦ rfl

theorem oblivious_ask {query : Access → Except KernelError α}
    (h : ∀ access node, query { access with node } = query access) : Oblivious (ask query) := by
  intro access node
  rw [run_ask, run_ask, h access node]

theorem oblivious_change {update : Access → Except KernelError Access}
    (h : ∀ access node, update { access with node } = (update access).map ({ · with node })) :
    Oblivious (change update) := by
  intro access node
  rw [run_change, run_change, h access node]
  cases update access <;> rfl

theorem oblivious_replace (slot : Nat) (payload : Payload) :
    Oblivious (modify (·.replace slot payload)) := fun _ _ ↦ rfl

theorem Oblivious.execute {work : Work α} (h : work.Oblivious) (access : Access) (node : NodeId) :
    (work { access with node }).1 = (work access).1 ∧
      (work { access with node }).2.slots = (work access).2.slots := by
  have hrun : work { access with node } = ((work access).1, { (work access).2 with node }) :=
    h access node
  rw [hrun]
  exact ⟨rfl, rfl⟩

end Work

open Work

namespace Kernels

/-! ## Standard kernels -/

theorem oblivious_unaryImage (input output : Nat) :
    Oblivious (ask (·.unaryImage input output)) := oblivious_ask fun _ _ ↦ rfl

theorem oblivious_binaryImage (a b output : Nat) :
    Oblivious (ask (·.binaryImage a b output)) := oblivious_ask fun _ _ ↦ rfl

theorem oblivious_setScalar (slot : Nat) (value : ScalarValue) :
    Oblivious (change (·.setScalar slot value)) := by
  apply oblivious_change
  intro access node
  rw [Access.setScalar, Access.setScalar,
    show Access.payloadToWrite { access with node } slot = access.payloadToWrite slot from rfl]
  cases access.payloadToWrite slot with
  | error e => rfl
  | ok payload =>
    cases payload with
    | scalar current =>
      simp only [bind, Except.bind]
      split <;> rfl
    | image buffer => rfl
    | array buffer => rfl

theorem oblivious_patternOf (slot : Nat) : (patternOf slot).Oblivious := by
  refine .bind (oblivious_ask fun _ _ ↦ rfl) fun value ↦ ?_
  split
  · exact oblivious_pure _
  · exact oblivious_fail _

theorem oblivious_combineSlots (output : Nat) (op : PixelFormat → Int → Int → Int) :
    (combineSlots output op).Oblivious := by
  refine .bind (oblivious_binaryImage 0 1 output) ?_
  rintro ⟨a, b, out⟩
  dsimp only
  split
  · exact .bind (oblivious_fail _) fun _ ↦ .bind (oblivious_need _) fun _ ↦ oblivious_replace _ _
  · exact .bind (oblivious_need _) fun _ ↦ oblivious_replace _ _

theorem oblivious_copyImage : copyImage.Oblivious where
  infer _ _ _ := rfl
  validate _ _ := rfl
  prepare _ _ := rfl
  execute := by
    refine Oblivious.execute (.bind (oblivious_unaryImage 0 1) ?_)
    rintro ⟨source, target⟩
    dsimp only
    split
    · exact oblivious_replace _ _
    · exact oblivious_fail _

theorem oblivious_copyArray : copyArray.Oblivious where
  infer _ _ _ := rfl
  validate _ _ := rfl
  prepare _ _ := rfl
  execute := by
    refine Oblivious.execute (.bind (oblivious_ask fun _ _ ↦ rfl) fun source ↦
      .bind (oblivious_ask fun _ _ ↦ rfl) fun target ↦ ?_)
    split
    · exact oblivious_replace _ _
    · exact oblivious_fail _

theorem oblivious_fill : fill.Oblivious where
  infer _ _ _ := rfl
  validate _ _ := rfl
  prepare _ _ := rfl
  execute := Oblivious.execute (.bind (oblivious_patternOf 0) fun _ ↦
    .bind (oblivious_ask fun _ _ ↦ rfl) fun _ ↦ oblivious_replace _ _)

theorem oblivious_check : check.Oblivious where
  infer _ _ _ := rfl
  validate _ _ := rfl
  prepare _ _ := rfl
  execute := by
    refine Oblivious.execute (.bind (oblivious_patternOf 1) fun value ↦
      .bind (oblivious_ask fun _ _ ↦ rfl) fun image ↦ .bind (oblivious_setScalar _ _) fun _ ↦ ?_)
    split
    · exact oblivious_fail _
    · exact oblivious_pure _

theorem oblivious_absDiff : absDiff.Oblivious where
  infer _ _ _ := rfl
  validate _ _ := rfl
  prepare _ _ := rfl
  execute := (oblivious_combineSlots 2 fun format x y ↦ saturate (x - y).natAbs format).execute

theorem oblivious_policyKernel (name description : String) (op : Int → Int → Int) :
    (policyKernel name description op).Oblivious where
  infer _ _ _ := rfl
  validate _ _ := rfl
  prepare _ _ := rfl
  execute := by
    refine Oblivious.execute (.bind (oblivious_ask fun _ _ ↦ rfl) fun value ↦ ?_)
    split
    · exact oblivious_fail _
    · exact oblivious_combineSlots 3 _

theorem oblivious_bitwiseKernel (name description : String) (op : UInt8 → UInt8 → UInt8) :
    (bitwiseKernel name description op).Oblivious where
  infer _ _ _ := rfl
  validate _ _ := rfl
  prepare _ _ := rfl
  execute := by
    refine Oblivious.execute (.bind (oblivious_binaryImage 0 1 2) ?_)
    rintro ⟨a, b, out⟩
    dsimp only
    split
    · exact oblivious_replace _ _
    · exact oblivious_fail _

theorem oblivious_bitNot : bitNot.Oblivious where
  infer _ _ _ := rfl
  validate _ _ := rfl
  prepare _ _ := rfl
  execute := Oblivious.execute (.bind (oblivious_unaryImage 0 1) fun (_, _) ↦ oblivious_replace _ _)

theorem oblivious_box3x3 (filter : BoxFilter) : (box3x3 filter).Oblivious where
  infer _ _ _ := rfl
  validate _ _ := rfl
  prepare _ _ := rfl
  execute := by
    refine Oblivious.execute (.bind (oblivious_unaryImage 0 1) ?_)
    rintro ⟨source, target⟩
    dsimp only
    split
    · exact oblivious_fail _
    · refine .bind (oblivious_need _) fun blurred ↦ ?_
      split
      · exact oblivious_replace _ _
      · exact oblivious_fail _

/-- No standard kernel looks at the number of its node. -/
theorem oblivious_of_mem_standard {filter : BoxFilter} {kernel : Kernel}
    (h : kernel ∈ standard filter) : kernel.Oblivious := by
  simp only [standard, List.mem_cons, List.not_mem_nil, or_false] at h
  rcases h with rfl | rfl | rfl | rfl | rfl | rfl | rfl | rfl | rfl | rfl | rfl | rfl
  · exact oblivious_copyImage
  · exact oblivious_copyArray
  · exact oblivious_fill
  · exact oblivious_check
  · exact oblivious_absDiff
  · exact oblivious_policyKernel _ _ _
  · exact oblivious_policyKernel _ _ _
  · exact oblivious_bitwiseKernel _ _ _
  · exact oblivious_bitwiseKernel _ _ _
  · exact oblivious_bitwiseKernel _ _ _
  · exact oblivious_bitNot
  · exact oblivious_box3x3 filter

end Kernels

end ImageFlow
