import ImageFlow.Data.Constraint
import ImageFlow.Ident

/-!
# Node errors

What can go wrong when a node is made or edited. A failed edit leaves the graph as it was.
-/

namespace ImageFlow

/-- A failure to make or to edit a node. -/
inductive NodeError
  | kernelNotFound (name : String)
  | parameterCount (kernel : String) (expected got : Nat)
  | parameterTypeMismatch (kernel : String) (index : Nat) (expected : Constraint) (got : String)
  | invalidReference (index : Nat) (data : DataId)
  /-- Two slots share an object and one of them writes it. -/
  | aliasedParameter (data : DataId) (first second : Nat)
  | kernelNotOnTarget (kernel target : String)
  | targetNotFound (name : String)
  | nodeNotFound (node : NodeId)
  deriving DecidableEq, Repr

def NodeError.message : NodeError → String
  | kernelNotFound name => "Kernel '" ++ name ++ "' not found"
  | parameterCount kernel expected got =>
    "Kernel '" ++ kernel ++ "' takes " ++ expected.repr ++ " parameters, got " ++ got.repr
  | parameterTypeMismatch kernel index expected got =>
    "Parameter " ++ index.repr ++ " of '" ++ kernel ++ "' expects " ++ expected.label ++ ", got " ++
      got
  | invalidReference index data =>
    "Parameter " ++ index.repr ++ " refers to an invalid data object " ++ data.label
  | aliasedParameter data first second =>
    "Data object " ++ data.label ++ " is bound to parameters " ++ first.repr ++ " and " ++
      second.repr ++ ", and one of them writes it"
  | kernelNotOnTarget kernel target =>
    "Kernel '" ++ kernel ++ "' is not available on target '" ++ target ++ "'"
  | targetNotFound name => "Target '" ++ name ++ "' not found"
  | nodeNotFound node => "Node " ++ node.label ++ " not found"

end ImageFlow
