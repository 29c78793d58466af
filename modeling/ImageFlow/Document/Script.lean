import ImageFlow.Document.Outcome
import ImageFlow.Graph.StageScript
import ImageFlow.Kernel.Script

/-!
# Documents of scripts

How kernels and stages that are given as data are read, and how the notes of scripted kernels are
written. A call names its question or command in the field `c`; its numbers, such as the index `i`
of a slot, are zero where they are missing. The flag `q` marks a call whose failure ends the
activity.
-/

namespace ImageFlow

open Document

/-! ## Calls -/

namespace KernelScript

def number? (fields : Fields) (name : String) : Option Nat :=
  fields.withDefault? name (Value.word? 64) 0

def Query.ofFields? (name : String) (fields : Fields) : Option Query := do
  let slot ← number? fields "i"
  match name with
  | "kernel_name" => return kernelName
  | "parameter_count" => return parameterCount
  | "parameter" => return parameter slot
  | "desc" => return descriptor slot
  | "inputs" => return inputs
  | "first_input_image" => return firstInputImage
  | "dimensions" => return dimensions slot
  | "format" => return format slot
  | "scalar_value" => return scalarValue slot
  | "same_dimensions" => return sameDimensions (← number? fields "a") (← number? fields "b")
  | "default_output" => return defaultOutput slot
  | _ => none

def Command.ofFields? (name : String) (fields : Fields) : Option Command := do
  let slot ← number? fields "i"
  match name with
  | "parameter_count" => return parameterCount
  | "payload" => return payload slot
  | "payload_mut" => return payloadToWrite slot
  | "image" => return image slot
  | "image_mut" => return imageToWrite slot
  | "scalar" => return scalar slot
  | "array" => return array slot
  | "array_mut" => return arrayToWrite slot
  | "set_scalar" => return setScalar slot (← fields.required? "value" ScalarValue.ofDocument?)
  | "sample" => return sample slot (← number? fields "at")
  | "store" =>
    let value ← fields.withDefault? "value" (Value.intIn? (-Int.pow 2 63) (Int.pow 2 63 - 1)) 0
    return store slot (← number? fields "at") value
  | "write" => return write slot (← fields.required? "data" Payload.bytes?)
  | "put" => return put slot (← fields.required? "payload" Payload.ofDocument?)
  | "set_items" =>
    return setItems slot (← fields.required? "items" (Value.list? ScalarValue.ofDocument?))
  | "split" =>
    let reads ← fields.withDefault? "reads" (Value.list? (Value.word? 64)) []
    return split reads (← number? fields "write")
  | "unary" => return unary (← number? fields "a") (← number? fields "o")
  | "binary" =>
    return binary (← number? fields "a") (← number? fields "b") (← number? fields "o")
  | _ => none

/-- Reads a call. The name `fail` stands for an error that ends the activity. -/
def Call.ofDocument? {α : Type} (action : String → Fields → Option α) (value : Value) :
    Option (Call α) := do
  let .record fields := value | none
  let name ← Fields.required? fields "c" Value.text?
  if name = "fail" then
    return .fail (← KernelError.ofDocument? value)
  else
    let strict ← Fields.withDefault? fields "q" Value.bool? false
    return .call name strict (← action name fields)

/-! ## Kernels -/

def parameter? (value : Value) : Option Parameter := do
  let .record fields := value | none
  let name ← Fields.required? fields "name" Value.text?
  let direction ← Fields.required? fields "dir" Direction.ofDocument?
  let constraint ← Fields.required? fields "constraint" Constraint.ofDocument?
  let description ← Fields.nullable? fields "description" Value.text?
  return { name, direction, constraint, description }

/-- Reads the shapes that a script decides itself, by the numbers of the slots. -/
def outputs? : Value → Option (List (Nat × Option Descriptor))
  | .record fields => fields.mapM fun (slot, shape) ↦ do
    return (← slot.toNat?, ← shape.nullable? Descriptor.ofDocument?)
  | _ => none

def ofDocument? (value : Value) : Option KernelScript := do
  let .record fields := value | none
  let name ← Fields.required? fields "name" Value.text?
  let description ← Fields.nullable? fields "description" Value.text?
  let tags ← Fields.nullable? fields "tags" (Value.list? Value.text?)
  let parameters ← Fields.required? fields "params" (Value.list? parameter?)
  let outputs ← Fields.nullable? fields "outputs" outputs?
  let queries := fun name ↦
    Fields.nullable? fields name (Value.list? (Call.ofDocument? Query.ofFields?))
  let validate ← queries "validate"
  let prepare ← queries "initialize"
  let execute ← Fields.nullable? fields "execute" (Value.list? (Call.ofDocument? Command.ofFields?))
  return {
    signature := { name, description := description.getD "", parameters, tags := tags.getD [] }
    outputs := outputs.getD []
    validate := validate.getD []
    prepare := prepare.getD []
    execute := execute.getD [] }

end KernelScript

/-! ## Stages -/

namespace StageScript

def ofDocument? (value : Value) : Option StageScript := do
  let .record fields := value | none
  let name ← Fields.required? fields "name" Value.text?
  let rejection ← Fields.nullable? fields "reject" VerifyError.ofDocument?
  let removal ← Fields.nullable? fields "remove_node" NodeId.ofDocument?
  let order ← Fields.nullable? fields "order" (Value.list? NodeId.ofDocument?)
  let levels ← Fields.nullable? fields "levels" (Value.list? (Value.list? NodeId.ofDocument?))
  let warnings ← Fields.nullable? fields "warnings" (Value.list? VerifyWarning.ofDocument?)
  return { name, rejection, removal, order, levels, warnings := warnings.getD [] }

end StageScript

/-- Reads a stage: the short name of a standard stage, or a script. -/
def Stage.ofDocument? : Value → Option Stage
  | .text "resolve" => some resolve
  | .text "params" => some parameters
  | .text "topology" => some topology
  | .text "planning" => some planning
  | value => (StageScript.ofDocument? value).map StageScript.toStage

/-! ## Notes -/

/-- An answer that a kernel got. -/
def Reply.toDocument : Reply → Value
  | .nothing => .null
  | .count n => .nat n
  | .text content => .text content
  | .parameter slot => .nullable Parameter.toDocument slot
  | .descriptor shape => .nullable Descriptor.toDocument shape
  | .inputs shapes => .listOf (fun (slot, shape) ↦ .list [.nat slot, shape.toDocument]) shapes
  | .dimensions width height => .list [.nat width, .nat height]
  | .format pixels => pixels.toDocument
  | .value scalar => .nullable ScalarValue.toDocument scalar
  | .number n => .int n
  | .payload memory => memory.toDocument
  | .payloads memories => .listOf Payload.toDocument memories
  | .items scalars => .listOf ScalarValue.toDocument scalars
  | .bytes content => .text (Text.hexOfBytes content)
  | .split sources target =>
    .record [("inputs", .listOf Payload.toDocument sources), ("output", target.toDocument)]
  | .rejected type => .record [("rejected", type.toDocument)]

def Activity.label : Activity → String
  | infer .. => "output"
  | validate _ => "validate"
  | prepare _ => "initialize"
  | execute _ => "execute"

/-- What a note says of an activity. -/
def Note.fields (activity : Activity) : Note → Fields
  | inferred slot => [("phase", .text activity.label), ("index", .nat slot)]
  | asked question answer =>
    [("phase", .text activity.label), ("c", .text question),
      ("r", outcome Reply.toDocument answer)]

/-- The notes of an event, each with its node. -/
def Event.toDocuments : Event → List (NodeId × Value)
  | callback node => [(node, .record [("phase", .text "callback"), ("node", node.toDocument)])]
  | kernel node activity notes =>
    notes.map fun note ↦ (node, .record (("node", node.toDocument) :: note.fields activity))

end ImageFlow
