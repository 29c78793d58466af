import ImageFlow.Data.Image

/-!
# Payloads

The backing memory of a data object: an image, a scalar or an array. Arrays hold up to a fixed
number of items of one type; items beyond the capacity are dropped, and a list that contains an item
of another type is refused as a whole.
-/

namespace ImageFlow

/-- Item storage of an array. -/
structure ArrayBuffer where
  item : ScalarType
  capacity : Nat
  items : List ScalarValue
  deriving DecidableEq, Repr

namespace ArrayBuffer

def empty (item : ScalarType) (capacity : Nat) : ArrayBuffer :=
  { item, capacity, items := [] }

/-- Replaces the items, up to the capacity. The error is the type of the first item that does not
belong. -/
def setItems (array : ArrayBuffer) (items : List ScalarValue) : Except ScalarType ArrayBuffer :=
  match items.find? (·.type != array.item) with
  | some stranger => .error stranger.type
  | none => .ok { array with items := items.take array.capacity }

end ArrayBuffer

/-- Backing memory of a data object. -/
inductive Payload
  | image (buffer : ImageBuffer)
  | scalar (value : ScalarValue)
  | array (buffer : ArrayBuffer)
  deriving DecidableEq, Repr

namespace Payload

/-- Zeroed memory for a shape. -/
def blank : Descriptor → Payload
  | .image width height format => image (.blank width height format)
  | .scalar type => scalar type.zero
  | .array item capacity => array (.empty item capacity)

/-- Zeroed memory for a shape, if that much memory can be addressed. -/
def allocate? (descriptor : Descriptor) : Option Payload :=
  if descriptor.isAddressable then some (blank descriptor) else none

def kind : Payload → String
  | image _ => "image"
  | scalar _ => "scalar"
  | array _ => "array"

def image? : Payload → Option ImageBuffer
  | image buffer => some buffer
  | _ => none

def scalar? : Payload → Option ScalarValue
  | scalar value => some value
  | _ => none

def array? : Payload → Option ArrayBuffer
  | array buffer => some buffer
  | _ => none

end Payload

end ImageFlow
