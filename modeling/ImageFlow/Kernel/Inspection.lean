import ImageFlow.Error.Kernel
import ImageFlow.Ident
import ImageFlow.Kernel.Signature

/-!
# Inspections

What a kernel sees of a node while the node is verified: its own signature, the shape bound to each
slot as far as it is known, and the value of every scalar that a client made concrete and the kernel
only has to read. Memory cannot be reached from here.
-/

namespace ImageFlow

/-- A node as its kernel sees it during verification. -/
structure Inspection where
  node : NodeId
  signature : Signature
  /-- The shape bound to each slot, where it is known. -/
  descriptors : List (Option Descriptor)
  /-- The value of each scalar that is known before the run. -/
  values : List (Option ScalarValue)
  deriving DecidableEq, Repr

namespace Inspection

def parameter? (view : Inspection) (slot : Nat) : Option Parameter :=
  view.signature.parameters[slot]?

def descriptor? (view : Inspection) (slot : Nat) : Option Descriptor := view.descriptors[slot]?.join

/-- The value of a scalar slot, if it is known before the run. -/
def scalarValue? (view : Inspection) (slot : Nat) : Option ScalarValue := view.values[slot]?.join

/-- The known shapes of the slots that the kernel reads, with the slots. -/
def inputs (view : Inspection) : List (Nat × Descriptor) :=
  view.signature.parameters.zipIdx.filterMap fun (parameter, slot) ↦
    if parameter.direction.reads then (view.descriptor? slot).map (slot, ·) else none

/-- The shape of the first image that the kernel reads. -/
def firstInputImage? (view : Inspection) : Option Descriptor :=
  (view.inputs.map Prod.snd).find? Descriptor.isImage

/-- A slot that should be bound to an image. -/
def notAnImage (slot : Nat) : KernelError :=
  .invalidParameters ("parameter " ++ slot.repr ++ " is not an image")

def dimensions (view : Inspection) (slot : Nat) : Except KernelError (Nat × Nat) :=
  match (view.descriptor? slot).bind Descriptor.dimensions? with
  | some size => .ok size
  | none => .error (notAnImage slot)

def format (view : Inspection) (slot : Nat) : Except KernelError PixelFormat :=
  match (view.descriptor? slot).bind Descriptor.imageFormat? with
  | some format => .ok format
  | none => .error (notAnImage slot)

/-- Refuses two image slots of different size. -/
def requireSameDimensions (view : Inspection) (a b : Nat) : Except KernelError Unit := do
  let (wa, ha) ← view.dimensions a
  let (wb, hb) ← view.dimensions b
  if (wa, ha) = (wb, hb) then
    return ()
  else
    throw (.invalidParameters ("parameters " ++ a.repr ++ " and " ++ b.repr ++
      " differ in size: " ++ wa.repr ++ "x" ++ ha.repr ++ " vs " ++ wb.repr ++ "x" ++ hb.repr))

/-- The shape of a written slot as it follows from the shapes of the inputs, for kernels without a
rule of their own. An image takes the first input image's size and, unless the slot fixes it,
format; a scalar takes the type that the slot fixes; an array takes the shape of the first array
input that fits. -/
def defaultOutput? (view : Inspection) (slot : Nat) : Option Descriptor := do
  let parameter ← view.parameter? slot
  match parameter.constraint with
  | .anyImage => view.firstInputImage?
  | .image format =>
    let (width, height) ← view.firstInputImage?.bind Descriptor.dimensions?
    some (.image width height format)
  | .imageOneOf formats =>
    view.firstInputImage?.filter fun image ↦ image.imageFormat?.any formats.contains
  | .scalar type => some (.scalar type)
  | .anyScalar => none
  | .array item => (view.inputs.map Prod.snd).find? (Constraint.accepts (.array item))
  | .anyArray => (view.inputs.map Prod.snd).find? Descriptor.isArray

end Inspection

end ImageFlow
