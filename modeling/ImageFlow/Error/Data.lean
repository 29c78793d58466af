import ImageFlow.Data.Descriptor
import ImageFlow.Ident

/-!
# Data errors

What can go wrong when a data object is made, or its payload read or written.
-/

namespace ImageFlow

/-- A failure to make or to use a data object. -/
inductive DataError
  /-- No object of the shape can be made. -/
  | invalidFormat (reason : String)
  /-- The object already has another shape, or one was fixed for it. -/
  | typeConflict (data : DataId) (existing requested : Descriptor)
  | notVirtual (data : DataId)
  /-- The handle belongs to another graph, or its object is gone. -/
  | invalidReference (data : DataId)
  | payloadMismatch (data : DataId) (expected got : String)
  | notAllocated (data : DataId)
  deriving DecidableEq, Repr

def DataError.message : DataError → String
  | invalidFormat reason => "Invalid format: " ++ reason
  | typeConflict data existing requested =>
    "Type conflict on " ++ data.label ++ ": already " ++ existing.label ++ ", cannot become " ++
      requested.label
  | notVirtual data => "Data object " ++ data.label ++ " is not virtual"
  | invalidReference data => "Invalid reference to data object " ++ data.label
  | payloadMismatch data expected got =>
    "Payload mismatch on " ++ data.label ++ ": expected " ++ expected ++ ", got " ++ got
  | notAllocated data => "Data object " ++ data.label ++ " has no backing memory yet"

/-- A shape of which no object can be made. -/
def DataError.ofSizeFault (fault : SizeFault) : DataError :=
  .invalidFormat fault.message

end ImageFlow
