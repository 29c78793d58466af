import ImageFlow.Data.Bytes
import ImageFlow.Data.Descriptor
import ImageFlow.Data.Word

/-!
# Image buffers

The pixels of an image, row after row without gaps. The bytes are a field of their own, so a buffer
can hold more or fewer bytes than its shape asks for; reading or writing a pixel that is not wholly
there has no result.
-/

namespace ImageFlow

/-- Pixel storage of an image. -/
structure ImageBuffer where
  width : Nat
  height : Nat
  format : PixelFormat
  data : Bytes
  deriving DecidableEq, Repr

namespace ImageBuffer

/-- A black image: all bytes zero. -/
def blank (width height : Nat) (format : PixelFormat) : ImageBuffer :=
  { width, height, format
    data := .blank (Descriptor.image width height format).byteSize }

def pixelCount (image : ImageBuffer) : Nat := image.width * image.height

def stride (image : ImageBuffer) : Nat := image.width * image.format.bytesPerPixel

def descriptor (image : ImageBuffer) : Descriptor :=
  .image image.width image.height image.format

/-- Where the bytes of pixel `i` begin. -/
def pixelOffset (image : ImageBuffer) (i : Nat) : Nat := i * image.format.bytesPerPixel

/-- Whether all bytes of pixel `i` are there. -/
def hasPixel (image : ImageBuffer) (i : Nat) : Bool :=
  image.pixelOffset (i + 1) ≤ image.data.size

/-- The bytes of pixel `i` that carry its number. -/
def sampleData (image : ImageBuffer) (i : Nat) : List UInt8 :=
  (List.range' (image.pixelOffset i) image.format.sampleBytes).filterMap image.data.get?

/-- The number that pixel `i` holds: the pixel itself in a format with one channel, the first
channel in a colour format. -/
def sample? (image : ImageBuffer) (i : Nat) : Option Int :=
  if image.hasPixel i then
    let bytes := image.sampleData i
    some (if image.format.isSigned then Word.toInt bytes else Word.toNat bytes)
  else
    none

/-- Overwrites bytes from a position on, as far as the byte string reaches. -/
def overwrite (data : Bytes) (start : Nat) : List UInt8 → Bytes
  | [] => data
  | b :: rest => overwrite (data.set start b) (start + 1) rest

/-- Stores a number in pixel `i`, reduced to the width of the format. The other bytes of a colour
pixel stay as they are. -/
def store? (image : ImageBuffer) (i : Nat) (value : Int) : Option ImageBuffer :=
  if image.hasPixel i then
    let bytes := Word.ofInt image.format.sampleBytes value
    some { image with data := overwrite image.data (image.pixelOffset i) bytes }
  else
    none

/-- Stores `value i` in every pixel `i` below `count`, in order; none as soon as a value or a pixel
is missing. -/
def storeAll? (image : ImageBuffer) (count : Nat) (value : Nat → Option Int) :
    Option ImageBuffer :=
  (List.range count).foldlM (fun image i ↦ do image.store? i (← value i)) image

/-- A single-channel eight-bit image with the same pixels, if this one has eight bits in one channel
and enough bytes. Bytes beyond the last pixel are kept. -/
def toGray? (image : ImageBuffer) : Option ImageBuffer :=
  match image.format with
  | .u8 | .y800 =>
    if image.pixelCount ≤ image.data.size then some { image with format := .u8 } else none
  | _ => none

/-- The same image, if it is in packed colour and has enough bytes. -/
def toColour? (image : ImageBuffer) : Option ImageBuffer :=
  match image.format with
  | .rgb => if 3 * image.pixelCount ≤ image.data.size then some image else none
  | _ => none

end ImageBuffer

end ImageFlow
