import ImageFlow.Perf
import ImageFlow.Platform.Registry

/-!
# Nodes

A node binds a kernel to data objects, one for each of the kernel's slots. It may be assigned to a
target, and it may have a callback that is asked after each of its runs whether the graph should go
on.
-/

namespace ImageFlow

/-- What the graph does after a node completed. -/
inductive NodeAction
  | proceed
  /-- The run ends. -/
  | abandon
  deriving DecidableEq, Repr

/-- A callback answers each call by itself; what it answers may depend on how often it was called.
-/
structure Callback where
  /-- The answer to call number `n`, counted from zero. -/
  answer : Nat → NodeAction
  /-- Number of calls so far. -/
  calls : Nat

/-- A kernel bound to data objects. -/
structure Node where
  id : NodeId
  kernel : RegisteredKernel
  /-- The object bound to each slot. -/
  refs : List DataRef
  /-- Index of the target that the node was assigned to. -/
  affinity : Option Nat
  callback : Option Callback
  perf : Perf

/-- A slot of a node with the object bound to it. -/
structure Binding where
  slot : Nat
  ref : DataRef
  direction : Direction
  deriving DecidableEq, Repr

namespace Node

/-- A node that has not run. -/
def fresh (id : NodeId) (kernel : RegisteredKernel) (refs : List DataRef) : Node :=
  { id, kernel, refs, affinity := none, callback := none, perf := .empty }

def kernelName (node : Node) : String := node.kernel.name

def signature (node : Node) : Signature := node.kernel.signature

def bindings (node : Node) : List Binding :=
  (node.refs.zip node.signature.parameters).zipIdx.map fun ((ref, parameter), slot) ↦
    { slot, ref, direction := parameter.direction }

def reads (node : Node) : List DataId :=
  (node.bindings.filter (·.direction.reads)).map (·.ref.id)

def writes (node : Node) : List DataId :=
  (node.bindings.filter (·.direction.writes)).map (·.ref.id)

def describe (node : Node) : String :=
  Text.recordText "Node"
    [("id", node.id.describe), ("kernel", Text.quote node.kernelName),
      ("refs", Text.listText (node.refs.map (·.id.describe))),
      ("affinity", Text.optionText (node.affinity.map Nat.repr)),
      ("callback", Text.optionText (node.callback.map fun _ ↦ Text.quote "<callback>"))]

end Node

end ImageFlow
