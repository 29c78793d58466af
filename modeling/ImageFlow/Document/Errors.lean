import ImageFlow.Document.Data
import ImageFlow.Error.Any

/-!
# Documents of errors

Errors carry plain data only, so they can be stored and sent. A variant with named parts is written
as a record of one field that holds a record.
-/

namespace ImageFlow

open Document

/-- Reads what a variant with named parts carries; a list will not do. -/
def Document.Value.parts? : Option Value → Option Fields
  | some (.record fields) => some fields
  | _ => none

namespace DataError

def variantName : DataError → String
  | invalidFormat _ => "InvalidFormat"
  | typeConflict .. => "TypeConflict"
  | notVirtual _ => "NotVirtual"
  | invalidReference _ => "InvalidReference"
  | payloadMismatch .. => "PayloadMismatch"
  | notAllocated _ => "NotAllocated"

def contentDocument : DataError → Value
  | invalidFormat reason => .record [("reason", .text reason)]
  | typeConflict data existing requested =>
    .record [("data", data.toDocument), ("existing", existing.toDocument),
      ("requested", requested.toDocument)]
  | notVirtual data => data.toDocument
  | invalidReference data => data.toDocument
  | payloadMismatch data expected got =>
    .record [("data", data.toDocument), ("expected", .text expected), ("got", .text got)]
  | notAllocated data => data.toDocument

def toDocument (error : DataError) : Value :=
  .record [(error.variantName, error.contentDocument)]

def ofDocument? (value : Value) : Option DataError := do
  let (name, content) ← value.variant?
  match name with
  | "InvalidFormat" =>
    let fields ← Value.parts? content
    return invalidFormat (← fields.required? "reason" Value.text?)
  | "TypeConflict" =>
    let fields ← Value.parts? content
    let data ← fields.required? "data" DataId.ofDocument?
    let existing ← fields.required? "existing" Descriptor.ofDocument?
    let requested ← fields.required? "requested" Descriptor.ofDocument?
    return typeConflict data existing requested
  | "NotVirtual" => return notVirtual (← DataId.ofDocument? (← content))
  | "InvalidReference" => return invalidReference (← DataId.ofDocument? (← content))
  | "PayloadMismatch" =>
    let fields ← Value.parts? content
    let data ← fields.required? "data" DataId.ofDocument?
    let expected ← fields.required? "expected" Value.text?
    let got ← fields.required? "got" Value.text?
    return payloadMismatch data expected got
  | "NotAllocated" => return notAllocated (← DataId.ofDocument? (← content))
  | _ => none

end DataError

namespace RegistryError

def variantName : RegistryError → String
  | duplicateKernel _ => "DuplicateKernel"
  | kernelNotFound _ => "KernelNotFound"
  | targetNotFound _ => "TargetNotFound"
  | duplicateTarget _ => "DuplicateTarget"

/-- The name that an error is about. -/
def subject : RegistryError → String
  | duplicateKernel name => name
  | kernelNotFound name => name
  | targetNotFound name => name
  | duplicateTarget name => name

def toDocument (error : RegistryError) : Value :=
  .variant error.variantName [("name", .text error.subject)]

def ofDocument? (value : Value) : Option RegistryError := do
  let (variant, content) ← value.variant?
  let name ← (← Value.parts? content).required? "name" Value.text?
  match variant with
  | "DuplicateKernel" => return duplicateKernel name
  | "KernelNotFound" => return kernelNotFound name
  | "TargetNotFound" => return targetNotFound name
  | "DuplicateTarget" => return duplicateTarget name
  | _ => none

end RegistryError

namespace NodeError

def variantName : NodeError → String
  | kernelNotFound _ => "KernelNotFound"
  | parameterCount .. => "ParameterCount"
  | parameterTypeMismatch .. => "ParameterTypeMismatch"
  | invalidReference .. => "InvalidReference"
  | aliasedParameter .. => "AliasedParameter"
  | kernelNotOnTarget .. => "KernelNotOnTarget"
  | targetNotFound _ => "TargetNotFound"
  | nodeNotFound _ => "NodeNotFound"

def contentDocument : NodeError → Value
  | kernelNotFound name => .record [("name", .text name)]
  | parameterCount kernel expected got =>
    .record [("kernel", .text kernel), ("expected", .nat expected), ("got", .nat got)]
  | parameterTypeMismatch kernel index expected got =>
    .record [("kernel", .text kernel), ("index", .nat index), ("expected", expected.toDocument),
      ("got", .text got)]
  | invalidReference index data => .record [("index", .nat index), ("data", data.toDocument)]
  | aliasedParameter data first second =>
    .record [("data", data.toDocument), ("first", .nat first), ("second", .nat second)]
  | kernelNotOnTarget kernel target =>
    .record [("kernel", .text kernel), ("target", .text target)]
  | targetNotFound name => .record [("name", .text name)]
  | nodeNotFound node => node.toDocument

def toDocument (error : NodeError) : Value :=
  .record [(error.variantName, error.contentDocument)]

def ofDocument? (value : Value) : Option NodeError := do
  let (variant, content) ← value.variant?
  if variant = "NodeNotFound" then
    return nodeNotFound (← NodeId.ofDocument? (← content))
  let fields ← Value.parts? content
  match variant with
  | "KernelNotFound" => return kernelNotFound (← fields.required? "name" Value.text?)
  | "ParameterCount" =>
    let kernel ← fields.required? "kernel" Value.text?
    let expected ← fields.required? "expected" (Value.word? 64)
    let got ← fields.required? "got" (Value.word? 64)
    return parameterCount kernel expected got
  | "ParameterTypeMismatch" =>
    let kernel ← fields.required? "kernel" Value.text?
    let index ← fields.required? "index" (Value.word? 64)
    let expected ← fields.required? "expected" Constraint.ofDocument?
    let got ← fields.required? "got" Value.text?
    return parameterTypeMismatch kernel index expected got
  | "InvalidReference" =>
    let index ← fields.required? "index" (Value.word? 64)
    let data ← fields.required? "data" DataId.ofDocument?
    return invalidReference index data
  | "AliasedParameter" =>
    let data ← fields.required? "data" DataId.ofDocument?
    let first ← fields.required? "first" (Value.word? 64)
    let second ← fields.required? "second" (Value.word? 64)
    return aliasedParameter data first second
  | "KernelNotOnTarget" =>
    let kernel ← fields.required? "kernel" Value.text?
    let target ← fields.required? "target" Value.text?
    return kernelNotOnTarget kernel target
  | "TargetNotFound" => return targetNotFound (← fields.required? "name" Value.text?)
  | _ => none

end NodeError

namespace VerifyError

def variantName : VerifyError → String
  | unresolvableVirtual .. => "UnresolvableVirtual"
  | invalidReference _ => "InvalidReference"
  | invalidData .. => "InvalidData"
  | invalidDescriptor _ => "InvalidDescriptor"
  | typeConflict .. => "TypeConflict"
  | parameterTypeMismatch .. => "ParameterTypeMismatch"
  | invalidParameters .. => "InvalidParameters"
  | multipleWriters .. => "MultipleWriters"
  | cyclicGraph _ => "CyclicGraph"
  | noTarget .. => "NoTarget"
  | preparationFailed .. => "InitializeFailed"

def fieldsDocument : VerifyError → Fields
  | unresolvableVirtual data reason => [("data", data.toDocument), ("reason", .text reason)]
  | invalidReference data => [("data", data.toDocument)]
  | invalidData data reason => [("data", data.toDocument), ("reason", .text reason)]
  | invalidDescriptor reason => [("reason", .text reason)]
  | typeConflict data existing requested =>
    [("data", data.toDocument), ("existing", existing.toDocument),
      ("requested", requested.toDocument)]
  | parameterTypeMismatch node index expected got =>
    [("node", node.toDocument), ("index", .nat index), ("expected", expected.toDocument),
      ("got", got.toDocument)]
  | invalidParameters node kernel message =>
    [("node", node.toDocument), ("kernel", .text kernel), ("message", .text message)]
  | multipleWriters data writers =>
    [("data", data.toDocument), ("writers", .listOf NodeId.toDocument writers)]
  | cyclicGraph nodes => [("nodes", .listOf NodeId.toDocument nodes)]
  | noTarget node kernel => [("node", node.toDocument), ("kernel", .text kernel)]
  | preparationFailed node kernel message =>
    [("node", node.toDocument), ("kernel", .text kernel), ("message", .text message)]

def toDocument (error : VerifyError) : Value := .variant error.variantName error.fieldsDocument

def ofDocument? (value : Value) : Option VerifyError := do
  let (variant, content) ← value.variant?
  let fields ← Value.parts? content
  let data := fields.required? "data" DataId.ofDocument?
  let node := fields.required? "node" NodeId.ofDocument?
  let reason := fields.required? "reason" Value.text?
  let kernel := fields.required? "kernel" Value.text?
  let message := fields.required? "message" Value.text?
  match variant with
  | "UnresolvableVirtual" => return unresolvableVirtual (← data) (← reason)
  | "InvalidReference" => return invalidReference (← data)
  | "InvalidData" => return invalidData (← data) (← reason)
  | "InvalidDescriptor" => return invalidDescriptor (← reason)
  | "TypeConflict" =>
    let existing ← fields.required? "existing" Descriptor.ofDocument?
    let requested ← fields.required? "requested" Descriptor.ofDocument?
    return typeConflict (← data) existing requested
  | "ParameterTypeMismatch" =>
    let index ← fields.required? "index" (Value.word? 64)
    let expected ← fields.required? "expected" Constraint.ofDocument?
    let got ← fields.required? "got" Descriptor.ofDocument?
    return parameterTypeMismatch (← node) index expected got
  | "InvalidParameters" => return invalidParameters (← node) (← kernel) (← message)
  | "MultipleWriters" =>
    return multipleWriters (← data) (← fields.required? "writers" (Value.list? NodeId.ofDocument?))
  | "CyclicGraph" =>
    return cyclicGraph (← fields.required? "nodes" (Value.list? NodeId.ofDocument?))
  | "NoTarget" => return noTarget (← node) (← kernel)
  | "InitializeFailed" => return preparationFailed (← node) (← kernel) (← message)
  | _ => none

end VerifyError

namespace GraphState

def toDocument (state : GraphState) : Value := .text state.label

def ofDocument? (value : Value) : Option GraphState :=
  value.oneOf?
    ([unverified, verified, running, completed, failed].map fun state ↦ (state.label, state))

end GraphState

namespace ProcessError

def variantName : ProcessError → String
  | graphNotVerified _ => "GraphNotVerified"
  | kernel .. => "Kernel"
  | abandoned _ => "Abandoned"
  | binding .. => "Binding"

def fieldsDocument : ProcessError → Fields
  | graphNotVerified state => [("state", state.toDocument)]
  | kernel node name code message =>
    [("node", node.toDocument), ("kernel", .text name), ("code", .int code),
      ("message", .text message)]
  | abandoned node => [("node", node.toDocument)]
  | binding node source => [("node", node.toDocument), ("source", source.toDocument)]

def toDocument (error : ProcessError) : Value := .variant error.variantName error.fieldsDocument

def ofDocument? (value : Value) : Option ProcessError := do
  let (variant, content) ← value.variant?
  let fields ← Value.parts? content
  let node := fields.required? "node" NodeId.ofDocument?
  match variant with
  | "GraphNotVerified" =>
    return graphNotVerified (← fields.required? "state" GraphState.ofDocument?)
  | "Kernel" =>
    let name ← fields.required? "kernel" Value.text?
    let code ← fields.required? "code" (Value.intIn? (-Int.pow 2 31) (Int.pow 2 31 - 1))
    let message ← fields.required? "message" Value.text?
    return kernel (← node) name code message
  | "Abandoned" => return abandoned (← node)
  | "Binding" =>
    return binding (← node) (← fields.required? "source" DataError.ofDocument?)
  | _ => none

end ProcessError

namespace KernelError

def toDocument (error : KernelError) : Value :=
  .record [("code", .int error.code), ("message", .text error.message)]

def ofDocument? (value : Value) : Option KernelError := do
  let fields ← value.fields? ["code", "message"]
  let code ← fields.required? "code" (Value.intIn? (-Int.pow 2 31) (Int.pow 2 31 - 1))
  let message ← fields.required? "message" Value.text?
  return { code, message }

end KernelError

/-! ## Reports -/

namespace VerifyWarning

def toDocument (warning : VerifyWarning) : Value :=
  .record [("message", .text warning.message), ("node", .nullable NodeId.toDocument warning.node)]

def ofDocument? (value : Value) : Option VerifyWarning := do
  let fields ← value.fields? ["message", "node"]
  let message ← fields.required? "message" Value.text?
  let node ← fields.nullable? "node" NodeId.ofDocument?
  return { message, node }

end VerifyWarning

namespace VerifyReport

/-- A report is written with its summary. -/
def toDocument (report : VerifyReport) : Value :=
  .record [("stages", .listOf .text report.stages),
    ("warnings", .listOf VerifyWarning.toDocument report.warnings),
    ("summary", .text report.summary)]

/-- A report as it is stored, together with the time that the verification took. -/
def toStored (report : VerifyReport) (microseconds : Nat) : Value :=
  .record [("warnings", .listOf VerifyWarning.toDocument report.warnings),
    ("stages", .listOf .text report.stages), ("duration_us", .nat microseconds)]

/-- Reads a stored report, with the time that the verification took. -/
def ofStored? (value : Value) : Option (VerifyReport × Nat) := do
  let fields ← value.fields? ["warnings", "stages", "duration_us"]
  let warnings ← fields.required? "warnings" (Value.list? VerifyWarning.ofDocument?)
  let stages ← fields.required? "stages" (Value.list? Value.text?)
  let microseconds ← fields.required? "duration_us" (Value.word? 64)
  return ({ stages, warnings }, microseconds)

end VerifyReport

end ImageFlow
