import ImageFlow.Ident

/-!
# Execution plans

A successful verification leaves a plan: the order of the nodes, the levels in which they may run
side by side, the target of each, and the memory that the run needs. Targets and bandwidths are kept
in the order in which nodes were first entered.
-/

namespace ImageFlow

/-- Size and lifetime of one data object within a plan. -/
structure MemoryEntry where
  data : DataId
  bytes : Nat
  /-- Position in the order of the first node that uses the object. -/
  firstUse : Nat
  /-- Position in the order of the last node that uses the object. -/
  lastUse : Nat
  deriving DecidableEq, Repr

/-- The memory that a plan needs. -/
structure MemoryPlan where
  entries : List MemoryEntry
  /-- Sum of the sizes of all entries. -/
  totalBytes : Nat
  /-- Bytes that the verification itself allocated. -/
  allocatedBytes : Nat
  deriving DecidableEq, Repr

/-- What a run needs to know. -/
structure Plan where
  order : List NodeId
  /-- Nodes of one level do not depend on each other. -/
  levels : List (List NodeId)
  /-- Index of the target of each node. -/
  targets : List (NodeId × Nat)
  /-- Bytes that each node reads and writes in one run. -/
  bandwidth : List (NodeId × Nat)
  memory : MemoryPlan
  deriving DecidableEq, Repr

/-- Sets the value of a key: in its old place if the key is there, at the end otherwise. -/
def setEntry {κ ν : Type} [DecidableEq κ] (key : κ) (value : ν) : List (κ × ν) → List (κ × ν)
  | [] => [(key, value)]
  | entry :: rest =>
    if entry.1 = key then (key, value) :: rest else entry :: setEntry key value rest

def MemoryPlan.entry? (memory : MemoryPlan) (data : DataId) : Option MemoryEntry :=
  memory.entries.find? (·.data == data)

namespace Plan

/-- The plan of a verification that has not begun. -/
def empty : Plan :=
  { order := []
    levels := []
    targets := []
    bandwidth := []
    memory := { entries := [], totalBytes := 0, allocatedBytes := 0 } }

def position? (plan : Plan) (node : NodeId) : Option Nat := plan.order.findIdx? (· == node)

def target? (plan : Plan) (node : NodeId) : Option Nat := plan.targets.lookup node

end Plan

end ImageFlow
