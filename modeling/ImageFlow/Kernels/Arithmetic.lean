import ImageFlow.Kernels.Copy

/-!
# Arithmetic kernels

Absolute difference, sum and difference of two images, pixel by pixel. Pixels are taken as integers,
the result is computed exactly and then brought into the range of the output format: by clamping, or
by keeping the low bits.
-/

namespace ImageFlow.Kernels

/-- The formats that arithmetic works on. -/
def arithmeticFormats : Constraint := .imageOneOf [.u8, .s16]

/-! ## Results outside the range of a format -/

/-- The nearest integer that a pixel of the format can hold. Colour formats count as eight bits. -/
def saturate (value : Int) (format : PixelFormat) : Int :=
  max format.minSample (min value format.maxSample)

/-- What happens to a result outside the range of the output. -/
inductive ConvertPolicy
  /-- Keep the low bits. -/
  | wrap
  /-- Take the nearest value in range. -/
  | saturate
  deriving DecidableEq, Repr

namespace ConvertPolicy

def ofValue (value : ScalarValue) : Except KernelError ConvertPolicy :=
  match value.signed? with
  | some code =>
    if code = 0 then .ok wrap
    else if code = 1 then .ok saturate
    else .error (.invalidParameters ("unknown overflow policy " ++ value.describe))
  | none => .error (.invalidParameters ("unknown overflow policy " ++ value.describe))

/-- The scalar encoding of a policy. -/
def toValue : ConvertPolicy → ScalarValue
  | wrap => .enum 0
  | saturate => .enum 1

/-- The number to store for a result. A stored number loses its high bits, so nothing is left to do
for wrapping. -/
def apply (policy : ConvertPolicy) (value : Int) (format : PixelFormat) : Int :=
  match policy with
  | wrap => value
  | saturate => Kernels.saturate value format

end ConvertPolicy

/-! ## Pixel by pixel -/

/-- The image `out` with pixel `i` set to `op` of the pixels `i` of `a` and `b`. -/
def combine (a b out : ImageBuffer) (op : Int → Int → Int) : Option ImageBuffer :=
  out.storeAll? out.pixelCount fun i ↦ do return op (← a.sample? i) (← b.sample? i)

/-- Combines the images of slots 0 and 1 into the image of slot `output`. -/
def combineSlots (output : Nat) (op : PixelFormat → Int → Int → Int) : Work Unit := do
  let (a, b, out) ← Work.ask (·.binaryImage 0 1 output)
  if a.pixelCount ≠ b.pixelCount ∨ a.pixelCount ≠ out.pixelCount then
    Work.fail sizesDiffer
  let result ← Work.need (combine a b out (op out.format))
  modify (·.replace output (.image result))

/-! ## Absolute difference -/

def absDiffSignature : Signature :=
  { name := "org.khronos.openvx.absdiff"
    description := "Absolute difference of two images"
    parameters := [.input "in1" arithmeticFormats, .input "in2" arithmeticFormats,
      .output "out" arithmeticFormats]
    tags := ["arithmetic", "difference"] }

/-- All three images must have one size and one format. -/
def absDiffValidate (view : Inspection) : Except KernelError Unit := do
  view.requireSameDimensions 0 1
  view.requireSameDimensions 0 2
  let a ← view.format 0
  let b ← view.format 1
  let out ← view.format 2
  if a = b ∧ a = out then
    return ()
  else
    throw (.invalidParameters ("absdiff needs matching formats, got " ++ a.fourcc ++ ", " ++
      b.fourcc ++ " and " ++ out.fourcc))

/-- Computes `|a - b|` in every pixel, clamped to the output format. -/
def absDiff : Kernel :=
  { Kernel.ofExecute absDiffSignature
      (combineSlots 2 fun format x y ↦ saturate (x - y).natAbs format) with
    validate := absDiffValidate }

/-! ## Sum and difference -/

def policySignature (name description : String) : Signature :=
  { name, description
    parameters := [.input "in1" arithmeticFormats, .input "in2" arithmeticFormats,
      .input "policy" (.scalar .enum), .output "out" arithmeticFormats]
    tags := ["arithmetic"] }

/-- The output is 16 bits wide unless both inputs have 8. -/
def policyInfer (slot : Nat) (view : Inspection) : Option Descriptor :=
  if slot = 3 then do
    let (width, height) ← (view.descriptor? 0).bind Descriptor.dimensions?
    let first ← (view.format 0).toOption
    let second ← if first = .u8 then (view.format 1).toOption else some .s16
    some (.image width height (if first = .u8 ∧ second = .u8 then .u8 else .s16))
  else
    none

/-- A known policy must be one there is, the images must have one size, and an output of 8 bits
needs inputs of 8 bits. -/
def policyValidate (view : Inspection) : Except KernelError Unit := do
  if let some value := view.scalarValue? 2 then
    let _ ← ConvertPolicy.ofValue value
  view.requireSameDimensions 0 1
  view.requireSameDimensions 0 3
  if (← view.format 3) = .u8 then
    if (← view.format 0) = .u8 then
      if (← view.format 1) = .u8 then
        return ()
    throw (.invalidParameters "a U8 output requires U8 inputs")

/-- Combines two images under the policy in slot 2. -/
def policyExecute (op : Int → Int → Int) : Work Unit := do
  match ConvertPolicy.ofValue (← Work.ask (·.scalar 2)) with
  | .error e => Work.fail e
  | .ok policy => combineSlots 3 fun format x y ↦ policy.apply (op x y) format

/-- A kernel with two images, a policy and an output. -/
def policyKernel (name description : String) (op : Int → Int → Int) : Kernel :=
  { Kernel.ofExecute (policySignature name description) (policyExecute op) with
    infer := policyInfer
    validate := policyValidate }

def add : Kernel :=
  policyKernel "org.khronos.openvx.add" "Per-pixel sum of two images" (· + ·)

def subtract : Kernel :=
  policyKernel "org.khronos.openvx.subtract" "Per-pixel difference of two images" (· - ·)

end ImageFlow.Kernels
