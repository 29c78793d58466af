/-!
# Pixel formats

A pixel is a fixed number of bytes. In a format with one channel they are a little-endian word; in a
colour format the first byte is the first channel and stands for the pixel where a single number is
asked for. Each format has a four-character code, by which it is shown and looked up.
-/

namespace ImageFlow

/-- Encoding of one pixel. Images have a single plane. -/
inductive PixelFormat
  /-- Eight bits, unsigned. -/
  | u8
  /-- Eight bits of luma, unsigned. -/
  | y800
  | u16
  | s16
  | u32
  | s32
  /-- Three packed channels. -/
  | rgb
  /-- Three packed channels and a byte of padding. -/
  | rgbx
  deriving DecidableEq, Repr

namespace PixelFormat

def all : List PixelFormat := [u8, y800, u16, s16, u32, s32, rgb, rgbx]

def bytesPerPixel : PixelFormat → Nat
  | u8 | y800 => 1
  | u16 | s16 => 2
  | rgb => 3
  | u32 | s32 | rgbx => 4

/-- How many bytes of a pixel the number read from it covers. -/
def sampleBytes : PixelFormat → Nat
  | u8 | y800 | rgb | rgbx => 1
  | u16 | s16 => 2
  | u32 | s32 => 4

def isSigned : PixelFormat → Bool
  | s16 | s32 => true
  | _ => false

def minSample (f : PixelFormat) : Int :=
  if f.isSigned then -(Nat.pow 256 f.sampleBytes / 2 : Nat) else 0

def maxSample (f : PixelFormat) : Int :=
  if f.isSigned then (Nat.pow 256 f.sampleBytes / 2 - 1 : Nat)
  else (Nat.pow 256 f.sampleBytes - 1 : Nat)

def fourcc : PixelFormat → String
  | u8 => "U008"
  | y800 => "Y800"
  | u16 => "U016"
  | s16 => "S016"
  | u32 => "U032"
  | s32 => "S032"
  | rgb => "RGB2"
  | rgbx => "RGBA"

def ofFourcc? (code : String) : Option PixelFormat :=
  all.find? fun f ↦ f.fourcc == code

def constructorName : PixelFormat → String
  | u8 => "U8"
  | y800 => "Y800"
  | u16 => "U16"
  | s16 => "S16"
  | u32 => "U32"
  | s32 => "S32"
  | rgb => "Rgb"
  | rgbx => "Rgbx"

end PixelFormat

end ImageFlow
