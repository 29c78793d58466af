import ImageFlow.Kernels.Copy

/-!
# Smoothing kernels

The mean over the three by three pixels around each pixel of an eight-bit image. The mean itself is
taken by a box filter from an image library, which is a parameter here. A filter that can stand for
it is given as well: beyond the border the nearest pixel of the image counts, the mean is taken
along the rows first and then along the columns, and is rounded down both times.
-/

namespace ImageFlow

/-- A box filter for images with eight bits in one channel. It is given an image and the radii along
the rows and along the columns, and has no result if it does not come to an end. -/
structure BoxFilter where
  blur? : ImageBuffer → Nat → Nat → Option ImageBuffer

namespace BoxFilter

/-- With radius one both ways, the filter makes of each image with eight bits in one channel an
image of the same shape that holds exactly its pixels. -/
def KeepsSize (filter : BoxFilter) : Prop :=
  ∀ image : ImageBuffer, image.format = .u8 → image.pixelCount ≤ image.data.size →
    ∃ blurred, filter.blur? image 1 1 = some blurred ∧ blurred.width = image.width ∧
      blurred.height = image.height ∧ blurred.data.size = blurred.pixelCount

/-- The mean of the values at most `radius` places from place `i`, rounded down. The value at a
place before the first or beyond the last is the one at the nearest place there is. -/
def windowMean (value : Nat → Nat) (radius last i : Nat) : Nat :=
  (List.range (2 * radius + 1)).foldl (fun sum k ↦ sum + value (min (i + k - radius) last)) 0 /
    (2 * radius + 1)

/-- The mean over the neighbourhood of the pixel in column `x` and row `y`, if the pixels of the
image are `pixel x y`. -/
def boxMean (width height xRadius yRadius : Nat) (pixel : Nat → Nat → Nat) (x y : Nat) : Nat :=
  windowMean (fun y ↦ windowMean (fun x ↦ pixel x y) xRadius (width - 1) x) yRadius (height - 1) y

/-- The image with every pixel replaced by the mean over its neighbourhood. -/
def smoothed (image : ImageBuffer) (xRadius yRadius : Nat) : ImageBuffer :=
  let pixel := fun x y ↦ ((image.data.get? (y * image.width + x)).getD 0).toNat
  { image with
    data := .ofArray <| Array.ofFn fun i : Fin image.pixelCount ↦
      UInt8.ofNat (boxMean image.width image.height xRadius yRadius pixel (i % image.width)
        (i / image.width)) }

/-- The filter that takes means along the rows and then along the columns. -/
def means : BoxFilter where
  blur? image xRadius yRadius := some (smoothed image xRadius yRadius)

end BoxFilter

namespace Kernels

variable (filter : BoxFilter)

def box3x3Signature : Signature :=
  { name := "org.khronos.openvx.box3x3"
    description := "3x3 box blur of a U8 image"
    parameters := [.input "input" (.image .u8), .output "output" (.image .u8)]
    tags := ["filter", "blur"] }

/-- Writes the smoothed image of slot 0 into slot 1. -/
def box3x3Execute : Work Unit := do
  let (source, target) ← Work.ask (·.unaryImage 0 1)
  match source.toGray? with
  | none => Work.fail (.invalidParameters "input is not a U8 image")
  | some gray =>
    let blurred ← Work.need (filter.blur? gray 1 1)
    if blurred.data.size = target.data.size then
      modify (·.replace 1 (.image { target with data := blurred.data }))
    else
      Work.fail sizesDiffer

/-- Mean filter over three by three pixels. -/
def box3x3 : Kernel :=
  { Kernel.ofExecute box3x3Signature (box3x3Execute filter) with
    validate := fun view ↦ view.requireSameDimensions 0 1 }

end Kernels

end ImageFlow
