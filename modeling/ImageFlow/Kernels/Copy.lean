import ImageFlow.Kernel.Basic

/-!
# Copy kernels

Duplicate an image into an image of the same shape, or the items of an array into another array of
the same item type.
-/

namespace ImageFlow.Kernels

/-- Two buffers whose byte counts differ. -/
def sizesDiffer : KernelError := .failure "image sizes differ"

def copyImageSignature : Signature :=
  { name := "org.khronos.copy_image"
    description := "Copy an image into another image of the same size and format"
    parameters := [.input "input" .anyImage, .output "output" .anyImage]
    tags := ["copy", "image"] }

/-- Both images must have one size and one format. -/
def copyImageValidate (view : Inspection) : Except KernelError Unit := do
  view.requireSameDimensions 0 1
  let input ← view.format 0
  let output ← view.format 1
  if input = output then
    return ()
  else
    throw (.invalidParameters ("cannot copy " ++ input.fourcc ++ " into " ++ output.fourcc))

/-- Copies all bytes of slot 0 into slot 1. -/
def copyImageExecute : Work Unit := do
  let (source, target) ← Work.ask (·.unaryImage 0 1)
  if source.data.size = target.data.size then
    modify (·.replace 1 (.image { target with data := source.data }))
  else
    Work.fail sizesDiffer

/-- Copies an image into an image of identical shape. -/
def copyImage : Kernel :=
  { Kernel.ofExecute copyImageSignature copyImageExecute with validate := copyImageValidate }

def copyArraySignature : Signature :=
  { name := "org.khronos.debug.copy_array"
    description := "Copy the items of an array into another array"
    parameters := [.input "input" .anyArray, .output "output" .anyArray]
    tags := ["copy", "array", "debug"] }

/-- Both arrays must have one item type. -/
def copyArrayValidate (view : Inspection) : Except KernelError Unit :=
  match view.descriptor? 0, view.descriptor? 1 with
  | some (.array a _), some (.array b _) =>
    if a = b then .ok () else .error (.invalidParameters "arrays must share an item type")
  | _, _ => .error (.invalidParameters "arrays must share an item type")

/-- Copies the items of slot 0 into slot 1, as far as its capacity reaches. -/
def copyArrayExecute : Work Unit := do
  let source ← Work.ask (·.array 0)
  let target ← Work.ask (·.arrayToWrite 1)
  match target.setItems source.items with
  | .ok filled => modify (·.replace 1 (.array filled))
  | .error type =>
    Work.fail (.invalidParameters
      ("item type " ++ type.label ++ " does not fit array of " ++ target.item.label))

/-- Copies array items into an array of the same item type. -/
def copyArray : Kernel :=
  { Kernel.ofExecute copyArraySignature copyArrayExecute with validate := copyArrayValidate }

end ImageFlow.Kernels
