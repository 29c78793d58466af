import ImageFlow.Kernels.Copy

/-!
# Bitwise kernels

Operations on the bytes of eight-bit images.
-/

namespace ImageFlow.Kernels

def bitwiseSignature (name description : String) : Signature :=
  { name, description
    parameters := [.input "in1" (.image .u8), .input "in2" (.image .u8), .output "out" (.image .u8)]
    tags := ["bitwise"] }

/-- All three images must have one size. -/
def bitwiseValidate (view : Inspection) : Except KernelError Unit := do
  view.requireSameDimensions 0 1
  view.requireSameDimensions 0 2

/-- Combines the bytes of slots 0 and 1 into slot 2. -/
def bitwiseExecute (op : UInt8 → UInt8 → UInt8) : Work Unit := do
  let (a, b, out) ← Work.ask (·.binaryImage 0 1 2)
  if a.data.size = out.data.size ∧ b.data.size = out.data.size then
    modify (·.replace 2 (.image { out with data := Bytes.zipWith op a.data b.data }))
  else
    Work.fail sizesDiffer

/-- A kernel that combines two images byte by byte. -/
def bitwiseKernel (name description : String) (op : UInt8 → UInt8 → UInt8) : Kernel :=
  { Kernel.ofExecute (bitwiseSignature name description) (bitwiseExecute op) with
    validate := bitwiseValidate }

def bitAnd : Kernel :=
  bitwiseKernel "org.khronos.openvx.and" "Bitwise AND of two U8 images" (· &&& ·)

def bitOr : Kernel :=
  bitwiseKernel "org.khronos.openvx.or" "Bitwise OR of two U8 images" (· ||| ·)

def bitXor : Kernel :=
  bitwiseKernel "org.khronos.openvx.xor" "Bitwise XOR of two U8 images" (· ^^^ ·)

def bitNotSignature : Signature :=
  { name := "org.khronos.openvx.not"
    description := "Bitwise NOT of a U8 image"
    parameters := [.input "input" (.image .u8), .output "output" (.image .u8)]
    tags := ["bitwise"] }

/-- The bytes of `target`, with as many as `source` has replaced by complements. -/
def complementInto (source target : Bytes) : Bytes :=
  target.mapIdx fun i b ↦ match source.get? i with
    | some s => ~~~s
    | none => b

/-- Writes the complement of slot 0 into slot 1. -/
def bitNotExecute : Work Unit := do
  let (source, target) ← Work.ask (·.unaryImage 0 1)
  modify (·.replace 1 (.image { target with data := complementInto source.data target.data }))

def bitNot : Kernel :=
  { Kernel.ofExecute bitNotSignature bitNotExecute with
    validate := fun view ↦ view.requireSameDimensions 0 1 }

end ImageFlow.Kernels
