import ImageFlow.Data.Object
import ImageFlow.Document.Value
import ImageFlow.Kernel.Signature
import ImageFlow.Text.Hex

/-!
# Documents of data

How formats, scalars, shapes, constraints, payloads and signatures are written as documents and read
back. The bits of a floating-point scalar are written as an unsigned number, and bytes as
hexadecimal text.
-/

namespace ImageFlow

open Document

/-! ## Identifiers -/

namespace NodeId

def toDocument (id : NodeId) : Value := .nat id.index

def ofDocument? (value : Value) : Option NodeId := (value.word? 32).map NodeId.mk

end NodeId

namespace DataId

def toDocument (id : DataId) : Value := .nat id.index

def ofDocument? (value : Value) : Option DataId := (value.word? 32).map DataId.mk

end DataId

namespace KernelId

def toDocument (id : KernelId) : Value := .nat id.index

def ofDocument? (value : Value) : Option KernelId := (value.word? 32).map KernelId.mk

end KernelId

namespace DataRef

/-- A handle is written as a record of its graph and its object. -/
def toDocument (ref : DataRef) : Value :=
  .record [("graph", .text ref.graph.hyphenated), ("id", ref.id.toDocument)]

def ofDocument? (value : Value) : Option DataRef := do
  let fields ← value.fields? ["graph", "id"]
  let graph ← fields.required? "graph" fun graph ↦ do GraphId.ofText? (← graph.text?)
  let id ← fields.required? "id" DataId.ofDocument?
  return { graph, id }

end DataRef

/-! ## Formats and types -/

namespace PixelFormat

def documentName : PixelFormat → String
  | u8 => "u8"
  | y800 => "y800"
  | u16 => "u16"
  | s16 => "s16"
  | u32 => "u32"
  | s32 => "s32"
  | rgb => "rgb"
  | rgbx => "rgbx"

def toDocument (format : PixelFormat) : Value := .text format.documentName

def ofDocument? (value : Value) : Option PixelFormat :=
  value.oneOf? (all.map fun format ↦ (format.documentName, format))

end PixelFormat

namespace ScalarType

def all : List ScalarType := [u8, i16, u32, i32, f32, bool, enum]

def toDocument (type : ScalarType) : Value := .text type.label

def ofDocument? (value : Value) : Option ScalarType :=
  value.oneOf? (all.map fun type ↦ (type.label, type))

end ScalarType

namespace Direction

def toDocument : Direction → Value
  | input => .text "input"
  | output => .text "output"
  | bidirectional => .text "bidirectional"

def ofDocument? (value : Value) : Option Direction :=
  value.oneOf? [("input", input), ("output", output), ("bidirectional", bidirectional)]

end Direction

namespace ScalarValue

def numberDocument : ScalarValue → Value
  | u8 v => .nat v.toNat
  | i16 v => .int v.toInt
  | u32 v => .nat v.toNat
  | i32 v => .int v.toInt
  | f32 bits => .nat bits.toNat
  | bool b => .bool b
  | enum v => .int v.toInt

/-- A value is written with its type. -/
def toDocument (v : ScalarValue) : Value :=
  .record [("type", v.type.toDocument), ("value", v.numberDocument)]

def signedWord? (value : Value) : Option Int32 :=
  (value.intIn? (-Int.pow 2 31) (Int.pow 2 31 - 1)).map Int32.ofInt

def ofNumber? (type : ScalarType) (value : Value) : Option ScalarValue :=
  match type with
  | .u8 => (value.word? 8).map fun n ↦ u8 (UInt8.ofNat n)
  | .i16 => (value.intIn? (-Int.pow 2 15) (Int.pow 2 15 - 1)).map fun n ↦ i16 (Int16.ofInt n)
  | .u32 => (value.word? 32).map fun n ↦ u32 (UInt32.ofNat n)
  | .i32 => (signedWord? value).map i32
  | .f32 => (value.word? 32).map fun n ↦ f32 (UInt32.ofNat n)
  | .bool => value.bool?.map bool
  | .enum => (signedWord? value).map enum

def ofDocument? (value : Value) : Option ScalarValue := do
  let fields ← value.fields? ["type", "value"]
  let type ← fields.required? "type" ScalarType.ofDocument?
  fields.required? "value" (ofNumber? type)

end ScalarValue

/-! ## Shapes -/

namespace Descriptor

/-- A shape is written with its kind. -/
def toDocument : Descriptor → Value
  | image width height format =>
    .record [("kind", .text "image"), ("width", .nat width), ("height", .nat height),
      ("format", format.toDocument)]
  | scalar type => .record [("kind", .text "scalar"), ("ty", type.toDocument)]
  | array item capacity =>
    .record [("kind", .text "array"), ("item", item.toDocument), ("capacity", .nat capacity)]

/-- Within a shape an empty record beside the name of a format or a type stands for nothing. -/
def nameAlone : Value → Value
  | .record [(name, .record [])] => .text name
  | value => value

def format? (fields : Fields) : Option PixelFormat :=
  fields.required? "format" fun value ↦ PixelFormat.ofDocument? (nameAlone value)

def type? (fields : Fields) (name : String) : Option ScalarType :=
  fields.required? name fun value ↦ ScalarType.ofDocument? (nameAlone value)

def ofKind? (kind : String) (value : Value) : Option Descriptor :=
  match kind with
  | "image" => do
    let fields ← value.fields? ["width", "height", "format"]
    let width ← fields.required? "width" (Value.word? 32)
    let height ← fields.required? "height" (Value.word? 32)
    return image width height (← format? fields)
  | "scalar" => do
    let fields ← value.fields? ["ty"]
    return scalar (← type? fields "ty")
  | "array" => do
    let fields ← value.fields? ["item", "capacity"]
    let capacity ← fields.required? "capacity" (Value.word? 64)
    return array (← type? fields "item") capacity
  | _ => none

/-- Reads a shape. In the form of a list the kind comes first. -/
def ofDocument? : Value → Option Descriptor
  | .record fields => do
    let kind ← Fields.required? fields "kind" Value.text?
    ofKind? kind (.record fields)
  | .list (.text kind :: rest) => ofKind? kind (.list rest)
  | _ => none

end Descriptor

namespace ImageHint

/-- A hint is written with null for what is open. -/
def toDocument (hint : ImageHint) : Value :=
  .record [("format", .nullable PixelFormat.toDocument hint.format),
    ("width", .nullable .nat hint.width), ("height", .nullable .nat hint.height)]

def ofDocument? (value : Value) : Option ImageHint := do
  let fields ← value.fields? ["format", "width", "height"]
  let format ← fields.nullable? "format" PixelFormat.ofDocument?
  let width ← fields.nullable? "width" (Value.word? 32)
  let height ← fields.nullable? "height" (Value.word? 32)
  return { format, width, height }

end ImageHint

namespace Constraint

/-- A constraint is written as what it accepts and, where it narrows that, of what. -/
def toDocument : Constraint → Value
  | anyImage => .record [("accepts", .text "any_image")]
  | image format => .record [("accepts", .text "image"), ("of", format.toDocument)]
  | imageOneOf formats =>
    .record [("accepts", .text "image_one_of"), ("of", .listOf PixelFormat.toDocument formats)]
  | scalar type => .record [("accepts", .text "scalar"), ("of", type.toDocument)]
  | anyScalar => .record [("accepts", .text "any_scalar")]
  | array item => .record [("accepts", .text "array"), ("of", item.toDocument)]
  | anyArray => .record [("accepts", .text "any_array")]

/-- Reads a constraint that narrows nothing; only null may stand in the place for that. -/
def plain? (constraint : Constraint) : Option Value → Option Constraint
  | none => some constraint
  | some .null => some constraint
  | some _ => none

def ofName? (name : String) (narrowing : Option Value) : Option Constraint :=
  match name with
  | "any_image" => plain? anyImage narrowing
  | "image" => do image (← PixelFormat.ofDocument? (← narrowing))
  | "image_one_of" => do imageOneOf (← (← narrowing).list? PixelFormat.ofDocument?)
  | "scalar" => do scalar (← ScalarType.ofDocument? (← narrowing))
  | "any_scalar" => plain? anyScalar narrowing
  | "array" => do array (← ScalarType.ofDocument? (← narrowing))
  | "any_array" => plain? anyArray narrowing
  | _ => none

def ofDocument? (value : Value) : Option Constraint := do
  let fields ← value.fields? ["accepts", "of"]
  let name ← fields.required? "accepts" (Value.plainVariant? .withNull)
  ofName? name (fields.lookup "of")

end Constraint

/-! ## Payloads and objects -/

namespace Payload

def imageDocument (image : ImageBuffer) : Value :=
  .record [("kind", .text "image"), ("width", .nat image.width), ("height", .nat image.height),
    ("format", image.format.toDocument), ("data", .text (Text.hexOfBytes image.data))]

/-- A payload is written with its kind. -/
def toDocument : Payload → Value
  | image buffer => imageDocument buffer
  | scalar value => .record [("kind", .text "scalar"), ("value", value.toDocument)]
  | array buffer =>
    .record [("kind", .text "array"), ("item", buffer.item.toDocument),
      ("capacity", .nat buffer.capacity), ("items", .listOf ScalarValue.toDocument buffer.items)]

def bytes? (value : Value) : Option Bytes := do Text.bytesOfHex? (← value.text?)

/-- Reads a payload. Its parts are taken as they are and need not fit together. -/
def ofDocument? (value : Value) : Option Payload := do
  let .record fields := value | none
  match ← Fields.required? fields "kind" Value.text? with
  | "image" =>
    let width ← Fields.required? fields "width" (Value.word? 32)
    let height ← Fields.required? fields "height" (Value.word? 32)
    let format ← Fields.required? fields "format" PixelFormat.ofDocument?
    let data ← Fields.required? fields "data" bytes?
    return image { width, height, format, data }
  | "scalar" => return scalar (← Fields.required? fields "value" ScalarValue.ofDocument?)
  | "array" =>
    let item ← Fields.required? fields "item" ScalarType.ofDocument?
    let capacity ← Fields.required? fields "capacity" (Value.word? 64)
    let items ← Fields.required? fields "items" (Value.list? ScalarValue.ofDocument?)
    return array { item, capacity, items }
  | _ => none

end Payload

namespace ObjectState

/-- A state is written with its shape, if it has one. -/
def toDocument : ObjectState → Value
  | concrete descriptor => .record [("Concrete", descriptor.toDocument)]
  | pending => .text "Pending"
  | resolved descriptor => .record [("Resolved", descriptor.toDocument)]

def ofDocument? (value : Value) : Option ObjectState := do
  match ← value.variant? with
  | ("Concrete", some content) => concrete (← Descriptor.ofDocument? content)
  | ("Resolved", some content) => resolved (← Descriptor.ofDocument? content)
  | ("Pending", content) => if content.all Dialect.withNull.isNothing then some pending else none
  | _ => none

end ObjectState

/-- An object is written with all that can be asked of it. -/
def DataObject.toDocument (object : DataObject) : Value :=
  .record [("id", object.id.toDocument), ("state", object.state.toDocument),
    ("virtual", .bool object.isVirtual),
    ("desc", .nullable Descriptor.toDocument object.descriptor?),
    ("hint", .nullable ImageHint.toDocument object.hint),
    ("constraints", .listOf (fun (node, constraint) ↦
      .list [node.toDocument, constraint.toDocument]) object.constraints),
    ("external", .nat object.clientRefs), ("internal", .nat object.slotRefs),
    ("refs", .nat object.refCount), ("allocated", .bool object.isAllocated),
    ("payload", .nullable Payload.toDocument object.payload)]

/-! ## Signatures -/

namespace Parameter

def toDocument (parameter : Parameter) : Value :=
  .record [("name", .text parameter.name), ("direction", parameter.direction.toDocument),
    ("constraint", parameter.constraint.toDocument),
    ("description", .nullable .text parameter.description)]

def ofDocument? (value : Value) : Option Parameter := do
  let fields ← value.fields? ["name", "direction", "constraint", "description"]
  let name ← fields.required? "name" Value.text?
  let direction ← fields.required? "direction" Direction.ofDocument?
  let constraint ← fields.required? "constraint" Constraint.ofDocument?
  let description ← fields.nullable? "description" Value.text?
  return { name, direction, constraint, description }

end Parameter

namespace Signature

def toDocument (signature : Signature) : Value :=
  .record [("name", .text signature.name), ("description", .text signature.description),
    ("parameters", .listOf Parameter.toDocument signature.parameters),
    ("tags", .listOf .text signature.tags)]

def ofDocument? (value : Value) : Option Signature := do
  let fields ← value.fields? ["name", "description", "parameters", "tags"]
  let name ← fields.required? "name" Value.text?
  let description ← fields.required? "description" Value.text?
  let parameters ← fields.required? "parameters" (Value.list? Parameter.ofDocument?)
  let tags ← fields.required? "tags" (Value.list? Value.text?)
  return { name, description, parameters, tags }

end Signature

end ImageFlow
