import ImageFlow.Data.Constraint
import ImageFlow.Error.Data

/-!
# Verification errors

What keeps a graph from being verified. A graph whose verification fails has no plan.
-/

namespace ImageFlow

/-- A failure of verification. -/
inductive VerifyError
  | unresolvableVirtual (data : DataId) (reason : String)
  | invalidReference (data : DataId)
  | invalidData (data : DataId) (reason : String)
  | invalidDescriptor (reason : String)
  | typeConflict (data : DataId) (existing requested : Descriptor)
  | parameterTypeMismatch (node : NodeId) (index : Nat) (expected : Constraint) (got : Descriptor)
  | invalidParameters (node : NodeId) (kernel message : String)
  | multipleWriters (data : DataId) (writers : List NodeId)
  | cyclicGraph (nodes : List NodeId)
  | noTarget (node : NodeId) (kernel : String)
  | preparationFailed (node : NodeId) (kernel message : String)
  deriving DecidableEq, Repr

namespace VerifyError

def message : VerifyError → String
  | unresolvableVirtual data reason =>
    "Virtual data object " ++ data.label ++ " cannot be resolved: " ++ reason
  | invalidReference data => "Data object " ++ data.label ++ " is not a live object of this graph"
  | invalidData data reason => "Data object " ++ data.label ++ " is unusable: " ++ reason
  | invalidDescriptor reason => "Invalid data descriptor: " ++ reason
  | typeConflict data existing requested =>
    "Type conflict on " ++ data.label ++ ": already " ++ existing.label ++ ", inferred " ++
      requested.label
  | parameterTypeMismatch node index expected got =>
    "Node " ++ node.label ++ " parameter " ++ index.repr ++ " expects " ++ expected.label ++
      ", bound to " ++ got.label
  | invalidParameters node kernel message =>
    "Node " ++ node.label ++ " (" ++ kernel ++ ") rejected its parameters: " ++ message
  | multipleWriters data writers =>
    "Data object " ++ data.label ++ " is written by more than one node: " ++
      Text.listText (writers.map NodeId.describe)
  | cyclicGraph nodes =>
    "Cycle detected in graph involving nodes: " ++ Text.listText (nodes.map NodeId.describe)
  | noTarget node kernel =>
    "No target hosts kernel '" ++ kernel ++ "' for node " ++ node.label
  | preparationFailed node kernel message =>
    "Node " ++ node.label ++ " (" ++ kernel ++ ") failed to initialize: " ++ message

/-- The nodes that an error is about. -/
def affectedNodes : VerifyError → List NodeId
  | parameterTypeMismatch node .. => [node]
  | invalidParameters node .. => [node]
  | noTarget node _ => [node]
  | preparationFailed node .. => [node]
  | multipleWriters _ writers => writers
  | cyclicGraph nodes => nodes
  | _ => []

def data? : VerifyError → Option DataId
  | unresolvableVirtual data _ => some data
  | invalidReference data => some data
  | invalidData data _ => some data
  | typeConflict data .. => some data
  | multipleWriters data _ => some data
  | _ => none

/-- A data error that ends a verification. Only a virtual object can lack a shape to allocate memory
for, so missing memory means that the object could not be resolved. -/
def ofDataError (error : DataError) : VerifyError :=
  match error with
  | .typeConflict data existing requested => typeConflict data existing requested
  | .invalidReference data => invalidReference data
  | .notAllocated data => unresolvableVirtual data error.message
  | .notVirtual data => invalidData data error.message
  | .payloadMismatch data .. => invalidData data error.message
  | .invalidFormat reason => invalidDescriptor reason

end VerifyError

/-- A finding that does not stop verification. -/
structure VerifyWarning where
  message : String
  node : Option NodeId
  deriving DecidableEq, Repr

/-- What a successful verification has to say: the stages that ran and their warnings. -/
structure VerifyReport where
  stages : List String
  warnings : List VerifyWarning
  deriving DecidableEq, Repr

/-- The report of a verification in which nothing had to run. -/
def VerifyReport.empty : VerifyReport := { stages := [], warnings := [] }

def VerifyReport.summary (report : VerifyReport) : String :=
  let stages := "verified in " ++ report.stages.length.repr ++ " stages"
  if report.warnings.isEmpty then stages
  else stages ++ " with " ++ report.warnings.length.repr ++ " warning(s)"

end ImageFlow
