/-!
# Byte strings

The bytes of an image. Images are black when they are made, and a black image should take no memory
until something is drawn on it. So the zeros at the end of a byte string are counted and not stored.
The bytes before them end with one that is not zero, which leaves one way only to keep a byte
string.
-/

namespace ImageFlow

/-- A byte string, the zeros at its end apart. -/
structure Bytes where
  /-- The bytes up to the last one that is not zero. -/
  front : Array UInt8
  /-- Number of zeros after them. -/
  zeros : Nat
  back_ne : front.back? ≠ some 0
  deriving DecidableEq, Repr

namespace Bytes

def size (bytes : Bytes) : Nat := bytes.front.size + bytes.zeros

def get? (bytes : Bytes) (i : Nat) : Option UInt8 :=
  if i < bytes.size then some (bytes.front.getD i 0) else none

def toArray (bytes : Bytes) : Array UInt8 := bytes.front ++ Array.replicate bytes.zeros 0

/-! ## Making byte strings -/

/-- A number of zeros. -/
def blank (size : Nat) : Bytes := { front := #[], zeros := size, back_ne := nofun }

/-- An array less the zeros at its end, of which at most `count` are taken away. -/
def trim : Nat → Array UInt8 → Array UInt8
  | 0, front => front
  | count + 1, front => if front.back? = some 0 then trim count front.pop else front

theorem back?_trim {count : Nat} {front : Array UInt8} (h : front.size ≤ count) :
    (trim count front).back? ≠ some 0 := by
  induction count generalizing front with
  | zero =>
    rw [trim, Array.eq_empty_of_size_eq_zero (Nat.le_zero.1 h)]
    exact nofun
  | succ count ih =>
    rw [trim]
    split
    · exact ih (by rw [Array.size_pop]; omega)
    · assumption

/-- The bytes of an array, followed by zeros. -/
def padded (front : Array UInt8) (zeros : Nat) : Bytes :=
  let kept := trim front.size front
  { front := kept
    zeros := front.size + zeros - kept.size
    back_ne := back?_trim (Nat.le_refl front.size) }

def ofArray (bytes : Array UInt8) : Bytes := padded bytes 0

/-! ## Changing byte strings -/

/-- Replaces the byte at a place, if there is one. -/
def set (bytes : Bytes) (i : Nat) (b : UInt8) : Bytes :=
  if i < bytes.size then
    let rest := bytes.size - max bytes.front.size (i + 1)
    let reaching := bytes.front ++ Array.replicate (i + 1 - bytes.front.size) 0
    padded (reaching.setIfInBounds i b) rest
  else
    bytes

/-- Replaces every byte by what a function makes of its place and of itself. -/
def mapIdx (f : Nat → UInt8 → UInt8) (bytes : Bytes) : Bytes := ofArray (bytes.toArray.mapIdx f)

/-- Combines bytes place by place, as far as both byte strings reach. -/
def zipWith (f : UInt8 → UInt8 → UInt8) (a b : Bytes) : Bytes :=
  ofArray (Array.zipWith f a.toArray b.toArray)

end Bytes

end ImageFlow
