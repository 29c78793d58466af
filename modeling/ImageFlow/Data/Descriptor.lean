import ImageFlow.Data.PixelFormat
import ImageFlow.Data.Scalar

/-!
# Descriptors

A descriptor is the full shape of a data object. Its byte size is computed in 64-bit words and stops
at the largest word instead of wrapping. An object can be made only if nothing about its shape is
zero and its size stays below half of the address space; that check multiplies words too, and gives
up as soon as a product is none.
-/

namespace ImageFlow

/-- The full shape of a data object. -/
inductive Descriptor
  | image (width height : Nat) (format : PixelFormat)
  | scalar (type : ScalarType)
  | array (item : ScalarType) (capacity : Nat)
  deriving DecidableEq, Repr

/-- The largest 64-bit word. -/
def maxWord : Nat := Nat.pow 2 64 - 1

/-- The largest size in bytes that one allocation may have. -/
def maxAllocation : Nat := Nat.pow 2 63 - 1

/-- Product that stops at the largest word. -/
def saturatingMul (a b : Nat) : Nat := min (a * b) maxWord

/-- Product, if it is a word. -/
def checkedMul (a b : Nat) : Option Nat := if a * b ≤ maxWord then some (a * b) else none

/-- Why no object of a shape can be made. -/
inductive SizeFault
  | emptyImage (width height : Nat)
  | imageTooLarge (width height : Nat) (format : PixelFormat)
  | emptyArray
  | arrayTooLarge (item : ScalarType) (capacity : Nat)
  /-- A virtual image was asked for with a zero side. -/
  | emptyVirtualImage
  deriving DecidableEq, Repr

def SizeFault.message : SizeFault → String
  | emptyImage width height =>
    "image dimensions must be non-zero, got " ++ width.repr ++ "x" ++ height.repr
  | imageTooLarge width height format =>
    "image of " ++ width.repr ++ "x" ++ height.repr ++ " " ++ format.fourcc ++ " is too large"
  | emptyArray => "array capacity must be non-zero"
  | arrayTooLarge item capacity =>
    "array of " ++ capacity.repr ++ " " ++ item.label ++ " items is too large"
  | emptyVirtualImage => "virtual image dimensions must be non-zero"

namespace Descriptor

/-- Bytes needed to back an object of this shape, at most the largest word. -/
def byteSize : Descriptor → Nat
  | image width height format =>
    saturatingMul (saturatingMul width height) format.bytesPerPixel
  | scalar type => type.size
  | array item capacity => saturatingMul item.size capacity

def imageFormat? : Descriptor → Option PixelFormat
  | image _ _ format => some format
  | _ => none

def dimensions? : Descriptor → Option (Nat × Nat)
  | image width height _ => some (width, height)
  | _ => none

def isImage : Descriptor → Bool
  | image .. => true
  | _ => false

def isArray : Descriptor → Bool
  | array .. => true
  | _ => false

/-- Bytes of an image, if one allocation can have as many. -/
def imageSize? (width height : Nat) (format : PixelFormat) : Option Nat :=
  ((checkedMul width height).bind (checkedMul · format.bytesPerPixel)).filter (· ≤ maxAllocation)

/-- Bytes that the items of an array count for, if one allocation can have as many. -/
def arraySize? (item : ScalarType) (capacity : Nat) : Option Nat :=
  (checkedMul item.size capacity).filter (· ≤ maxAllocation)

/-- Too many pixels for one allocation. -/
def imageSizeFault? (width height : Nat) (format : PixelFormat) : Option SizeFault :=
  if (imageSize? width height format).isSome then none
  else some (.imageTooLarge width height format)

/-- What is wrong with a shape, if no object of it can be made. -/
def fault? : Descriptor → Option SizeFault
  | image width height format =>
    if width = 0 ∨ height = 0 then some (.emptyImage width height)
    else imageSizeFault? width height format
  | scalar _ => none
  | array item capacity =>
    if capacity = 0 then some .emptyArray
    else if (arraySize? item capacity).isSome then none
    else some (.arrayTooLarge item capacity)

/-- Bytes that are reserved for an object of this shape. The items of an array take eight bytes
each, whatever their type. -/
def reservedBytes : Descriptor → Nat
  | array _ capacity => 8 * capacity
  | descriptor => descriptor.byteSize

/-- Whether the memory for an object of this shape can be addressed. -/
def isAddressable (descriptor : Descriptor) : Bool := descriptor.reservedBytes ≤ maxAllocation

def label : Descriptor → String
  | image width height format =>
    "image " ++ width.repr ++ "x" ++ height.repr ++ " " ++ format.fourcc
  | scalar type => "scalar " ++ type.label
  | array item capacity => "array<" ++ item.label ++ ">[" ++ capacity.repr ++ "]"

def describe : Descriptor → String
  | image width height format =>
    Text.recordText "Image"
      [("width", width.repr), ("height", height.repr), ("format", format.constructorName)]
  | scalar type => Text.recordText "Scalar" [("ty", type.constructorName)]
  | array item capacity =>
    Text.recordText "Array" [("item", item.constructorName), ("capacity", capacity.repr)]

end Descriptor

/-- The fields of an image's shape that were fixed when a virtual image was made. -/
structure ImageHint where
  format : Option PixelFormat
  width : Option Nat
  height : Option Nat
  deriving DecidableEq, Repr

namespace ImageHint

/-- Whether a shape is an image that has every fixed field as it was fixed. -/
def agreesWith (hint : ImageHint) : Descriptor → Bool
  | .image width height format =>
    hint.format.all (· == format) && hint.width.all (· == width) && hint.height.all (· == height)
  | _ => false

/-- The full shape, when every field is fixed. -/
def complete? (hint : ImageHint) : Option Descriptor := do
  let width ← hint.width
  let height ← hint.height
  let format ← hint.format
  return .image width height format

/-- The shape that stands for the hint in messages: what was left open is shown as zero, and an open
format as the first one. -/
def shown (hint : ImageHint) : Descriptor :=
  .image (hint.width.getD 0) (hint.height.getD 0) (hint.format.getD .u8)

/-- What is wrong with a hint, if no image can agree with it. -/
def fault? (hint : ImageHint) : Option SizeFault :=
  if hint.width = some 0 ∨ hint.height = some 0 then
    some .emptyVirtualImage
  else
    match hint.width, hint.height, hint.format with
    | some width, some height, some format => Descriptor.imageSizeFault? width height format
    | _, _, _ => none

def describe (hint : ImageHint) : String :=
  Text.recordText "ImageHint"
    [("format", Text.optionText (hint.format.map PixelFormat.constructorName)),
      ("width", Text.optionText (hint.width.map Nat.repr)),
      ("height", Text.optionText (hint.height.map Nat.repr))]

end ImageHint

end ImageFlow
