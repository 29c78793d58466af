import ImageFlow.Data.Descriptor

/-!
# Slot constraints

A constraint says which shapes a kernel's slot takes. Two constraints overlap when one shape could
satisfy both; a virtual object may be bound to several slots only if their constraints overlap.
-/

namespace ImageFlow

/-- What a slot accepts. -/
inductive Constraint
  | anyImage
  | image (format : PixelFormat)
  | imageOneOf (formats : List PixelFormat)
  | scalar (type : ScalarType)
  | anyScalar
  | array (item : ScalarType)
  | anyArray
  deriving DecidableEq, Repr

namespace Constraint

/-- Whether a shape satisfies a constraint. -/
def accepts : Constraint → Descriptor → Bool
  | anyImage, .image .. => true
  | image wanted, .image _ _ format => wanted == format
  | imageOneOf allowed, .image _ _ format => allowed.contains format
  | scalar wanted, .scalar type => wanted == type
  | anyScalar, .scalar _ => true
  | array wanted, .array item _ => wanted == item
  | anyArray, .array .. => true
  | _, _ => false

/-- The pixel formats that an image constraint leaves open. -/
def imageFormats? : Constraint → Option (List PixelFormat)
  | anyImage => some PixelFormat.all
  | image format => some [format]
  | imageOneOf formats => some formats
  | _ => none

/-- Whether two constraints can be satisfied by one shape. -/
def overlaps (a b : Constraint) : Bool :=
  match a.imageFormats?, b.imageFormats? with
  | some fa, some fb => fa.any fb.contains
  | none, none =>
    match a, b with
    | anyScalar, anyScalar | anyScalar, scalar _ | scalar _, anyScalar => true
    | scalar s, scalar t => s == t
    | array s, array t => s == t
    | anyArray, array _ | array _, anyArray | anyArray, anyArray => true
    | _, _ => false
  | _, _ => false

def label : Constraint → String
  | anyImage => "image"
  | image format => "image " ++ format.fourcc
  | imageOneOf formats => "image \x7b" ++ "|".intercalate (formats.map PixelFormat.fourcc) ++ "\x7d"
  | scalar type => "scalar " ++ type.label
  | anyScalar => "scalar"
  | array item => "array<" ++ item.label ++ ">"
  | anyArray => "array"

end Constraint

/-- Whether a kernel reads a slot, writes it, or both. -/
inductive Direction
  | input
  | output
  | bidirectional
  deriving DecidableEq, Repr

namespace Direction

def reads : Direction → Bool
  | input | bidirectional => true
  | output => false

def writes : Direction → Bool
  | output | bidirectional => true
  | input => false

end Direction

end ImageFlow
