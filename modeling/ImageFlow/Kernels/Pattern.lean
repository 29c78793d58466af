import ImageFlow.Data.Word
import ImageFlow.Kernel.Basic
import ImageFlow.Text.Hex

/-!
# Pattern kernels

Fill an image with a packed 32-bit value, and check an image against one. Each pixel is compared
with as many bytes of the value, lowest first, as a pixel has.
-/

namespace ImageFlow.Kernels

/-- The four bytes of a value, lowest first. -/
def patternBytes (value : UInt32) : List UInt8 := Word.ofInt 4 value.toNat

def patternOf (slot : Nat) : Work UInt32 := do
  let value ← Work.ask (·.scalar slot)
  match value.unsigned? with
  | some pattern => return pattern
  | none => Work.fail (.invalidParameters ("parameter " ++ slot.repr ++ " must be a u32 scalar"))

/-- The byte that a pattern asks for at an offset into the pixels. -/
def patternByte (value : UInt32) (bytesPerPixel offset : Nat) : UInt8 :=
  (patternBytes value).getD (offset % bytesPerPixel) 0

/-- Number of bytes that belong to whole pixels. -/
def wholeBytes (image : ImageBuffer) : Nat :=
  image.data.size / image.format.bytesPerPixel * image.format.bytesPerPixel

/-! ## Filling -/

/-- Copies bytes to a place and the places after it. -/
def copyAt : List UInt8 → Nat → Array UInt8 → Array UInt8
  | [], _, bytes => bytes
  | b :: rest, place, bytes => copyAt rest (place + 1) (bytes.setIfInBounds place b)

/-- Copies a pixel to the beginning of each of the first chunks, one after the other. -/
def fillChunks (pixel : List UInt8) (length chunks : Nat) (bytes : Array UInt8) : Array UInt8 :=
  chunks.fold (fun chunk _ bytes ↦ copyAt pixel (chunk * length) bytes) bytes

/-- An image with every whole pixel set to the pattern. -/
def fillImage (image : ImageBuffer) (value : UInt32) : ImageBuffer :=
  let length := image.format.bytesPerPixel
  let pixel := (patternBytes value).take length
  { image with
    data := .ofArray (fillChunks pixel length (image.data.size / length) image.data.toArray) }

def fillSignature : Signature :=
  { name := "org.khronos.debug.fill_image"
    description := "Fill an image with a packed pixel value"
    parameters := [.input "value" (.scalar .u32), .output "output" .anyImage]
    tags := ["debug", "fill"] }

/-- Fills the image of slot 1 with the value of slot 0. -/
def fillExecute : Work Unit := do
  let value ← patternOf 0
  let image ← Work.ask (·.imageToWrite 1)
  modify (·.replace 1 (.image (fillImage image value)))

/-- Fills every pixel with the bytes of a packed value. The shape of the output does not follow from
anything, so a virtual output needs a full hint. -/
def fill : Kernel :=
  { Kernel.ofExecute fillSignature fillExecute with infer := fun _ _ ↦ none }

/-! ## Checking -/

/-- Number of offsets below `count` for which a pattern asks for a byte that is not zero: those in
whole pixels first, then those in the last one. -/
def nonzeroBytes (value : UInt32) (bytesPerPixel count : Nat) : Nat :=
  let below := fun n ↦
    (List.range n).countP fun offset ↦ patternByte value bytesPerPixel offset != 0
  count / bytesPerPixel * below bytesPerPixel + below (count % bytesPerPixel)

/-- Number of bytes of whole pixels that differ from the pattern. Those that are stored are compared
one by one; the zeros after them differ wherever the pattern is not zero. -/
def mismatches (image : ImageBuffer) (value : UInt32) : Nat :=
  let bytesPerPixel := image.format.bytesPerPixel
  let stored := image.data.front.toList.take (wholeBytes image)
  let differing := stored.zipIdx.countP fun (b, offset) ↦
    b != patternByte value bytesPerPixel offset
  differing + (nonzeroBytes value bytesPerPixel (wholeBytes image) -
    nonzeroBytes value bytesPerPixel stored.length)

def mismatchCode : Int := 1

/-- The error of a check that found differences. -/
def mismatchError (errors : UInt32) (total : Nat) (value : UInt32) : KernelError :=
  ⟨mismatchCode, errors.toNat.repr ++ " of " ++ total.repr ++ " bytes differ from 0x" ++
    String.ofList (Text.hexDigits 8 value.toNat)⟩

def checkSignature : Signature :=
  { name := "org.khronos.debug.check_image"
    description := "Compare every pixel of an image against a packed value"
    parameters := [.input "input" .anyImage, .input "value" (.scalar .u32),
      .output "errors" (.scalar .u32)]
    tags := ["debug", "check"] }

/-- Compares the image of slot 0 with the value of slot 1 and stores the count of differences, kept
in 32 bits, in slot 2. -/
def checkExecute : Work Unit := do
  let value ← patternOf 1
  let image ← Work.ask (·.image 0)
  let errors := UInt32.ofNat (mismatches image value)
  Work.change (·.setScalar 2 (.u32 errors))
  if 0 < errors then
    Work.fail (mismatchError errors image.data.size value)

/-- Counts the bytes of an image that differ from a packed value, and fails if there are any. -/
def check : Kernel := .ofExecute checkSignature checkExecute

end ImageFlow.Kernels
