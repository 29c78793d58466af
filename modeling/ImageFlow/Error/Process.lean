import ImageFlow.Error.Kernel
import ImageFlow.Error.Verify

/-!
# Processing errors

What can end a run of a graph early. Nodes that completed before keep their effects.
-/

namespace ImageFlow

/-- Lifecycle state of a graph. A structural edit leads back to `unverified`. -/
inductive GraphState
  | unverified
  | verified
  | running
  | completed
  | failed
  deriving DecidableEq, Repr

namespace GraphState

/-- Whether a plan may exist in a state. -/
def hasPlan : GraphState → Bool
  | verified | completed | failed => true
  | unverified | running => false

def label : GraphState → String
  | unverified => "unverified"
  | verified => "verified"
  | running => "running"
  | completed => "completed"
  | failed => "failed"

def constructorName : GraphState → String
  | unverified => "Unverified"
  | verified => "Verified"
  | running => "Running"
  | completed => "Completed"
  | failed => "Failed"

end GraphState

/-- A failure of a run. -/
inductive ProcessError
  | graphNotVerified (state : GraphState)
  | kernel (node : NodeId) (kernel : String) (code : Int) (message : String)
  | abandoned (node : NodeId)
  | binding (node : NodeId) (source : DataError)
  deriving DecidableEq, Repr

namespace ProcessError

def message : ProcessError → String
  | graphNotVerified state => "Graph is not verified (state: " ++ state.label ++ ")"
  | kernel node name code text =>
    "Node " ++ node.label ++ " (" ++ name ++ ") failed with code " ++ code.repr ++ ": " ++ text
  | abandoned node => "Node " ++ node.label ++ " abandoned the graph"
  | binding node source => "Node " ++ node.label ++ " could not bind its data: " ++ source.message

def node? : ProcessError → Option NodeId
  | kernel node .. => some node
  | abandoned node => some node
  | binding node _ => some node
  | graphNotVerified _ => none

/-- Whether running the same plan again may succeed. -/
def isRetryable : ProcessError → Bool
  | kernel .. | abandoned _ => true
  | graphNotVerified _ | binding .. => false

end ProcessError

end ImageFlow
