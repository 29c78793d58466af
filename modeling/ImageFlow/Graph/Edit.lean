import ImageFlow.Graph.Basic

/-!
# Structural edits

Adding and removing nodes, and changing their targets and callbacks. A node can be added if its
handles are live, no written object stands in two of its slots, and every slot takes what is bound
to it. What a virtual object will be is not known yet; its slot must overlap with all slots that it
is bound to already, and with its hint. An edit that fails leaves the graph as it was.
-/

namespace ImageFlow.Graph

/-! ## Adding nodes -/

/-- The objects of a list of handles, or the first handle that is not live with its slot. -/
def liveObjects (arena : Arena) : Nat → List DataRef → Except NodeError (List DataObject)
  | _, [] => .ok []
  | slot, ref :: rest =>
    match arena.get ref with
    | .error _ => .error (.invalidReference slot ref.id)
    | .ok object => (liveObjects arena (slot + 1) rest).map (object :: ·)

/-- The first slot after `first` that shares its object with slot `first` although one of them is
written. -/
def aliasOf? (ref : DataRef) (writes : Bool) : List ((DataRef × Parameter) × Nat) → Option Nat
  | [] => none
  | ((other, parameter), second) :: rest =>
    if ref.id = other.id ∧ (writes ∨ parameter.direction.writes) then some second
    else aliasOf? ref writes rest

/-- The first two slots that share an object of which one writes. -/
def alias? : List ((DataRef × Parameter) × Nat) → Option (DataId × Nat × Nat)
  | [] => none
  | ((ref, parameter), first) :: rest =>
    match aliasOf? ref parameter.direction.writes rest with
    | some second => some (ref.id, first, second)
    | none => alias? rest

/-- The constraint that a hint puts on an object. -/
def hintConstraint (hint : ImageHint) : Constraint :=
  match hint.format with
  | some format => .image format
  | none => .anyImage

/-- What keeps an object from a slot, in words. -/
def bindingFault? (object : DataObject) (constraint : Constraint) : Option String :=
  match object.state with
  | .concrete descriptor =>
    if constraint.accepts descriptor then none else some descriptor.label
  | _ =>
    match object.constraints.find? fun entry ↦ !entry.2.overlaps constraint with
    | some (_, existing) => some ("virtual object constrained to " ++ existing.label)
    | none =>
      match object.hint with
      | some hint =>
        if (hintConstraint hint).overlaps constraint then none
        else some ("virtual " ++ (hintConstraint hint).label)
      | none => none

/-- The first slot that does not take its object. -/
def checkBindings (kernel : String) : List ((DataObject × Parameter) × Nat) → Except NodeError Unit
  | [] => .ok ()
  | ((object, parameter), slot) :: rest =>
    match bindingFault? object parameter.constraint with
    | some got => .error (.parameterTypeMismatch kernel slot parameter.constraint got)
    | none => checkBindings kernel rest

/-- Whether a kernel can be bound to objects. -/
def checkNode (graph : Graph) (signature : Signature) (refs : List DataRef) :
    Except NodeError Unit := do
  if refs.length ≠ signature.parameters.length then
    throw (.parameterCount signature.name signature.parameters.length refs.length)
  let objects ← liveObjects graph.arena 0 refs
  match alias? (refs.zip signature.parameters).zipIdx with
  | some (data, first, second) => throw (.aliasedParameter data first second)
  | none => checkBindings signature.name (objects.zip signature.parameters).zipIdx

/-- Enters one slot of a new node: the object gets one more reference and, if it is virtual, one
more constraint. -/
def bindSlot (node : NodeId) (arena : Arena) (ref : DataRef) (parameter : Parameter) : Arena :=
  arena.modify ref.id fun object ↦
    let held := object.retainSlot
    if held.isVirtual then held.addConstraint node parameter.constraint else held

def bindSlots (node : NodeId) (arena : Arena) (slots : List (DataRef × Parameter)) : Arena :=
  slots.foldl (fun arena (ref, parameter) ↦ bindSlot node arena ref parameter) arena

/-- Enters the objects that a new node writes. -/
def addProducers (node : NodeId) (producers : List (DataId × List NodeId))
    (slots : List (DataRef × Parameter)) : List (DataId × List NodeId) :=
  slots.foldl (fun producers (ref, parameter) ↦
    if parameter.direction.writes then
      Ordered.alter ref.id (fun writers ↦ writers.getD [] ++ [node]) producers
    else producers) producers

def addNodeWithKernel (graph : Graph) (kernel : RegisteredKernel) (refs : List DataRef) :
    Except NodeError (NodeId × Graph) := do
  graph.checkNode kernel.signature refs
  let id : NodeId := ⟨graph.nextNode⟩
  let slots := refs.zip kernel.signature.parameters
  let edited : Graph := { graph with
    arena := bindSlots id graph.arena slots
    nodes := graph.nodes ++ [.fresh id kernel refs]
    nextNode := graph.nextNode + 1
    producers := addProducers id graph.producers slots }
  return (id, edited.invalidate)

/-- Adds a node that binds the kernel of a name to objects. -/
def addNode (graph : Graph) (kernel : String) (refs : List DataRef) :
    Except NodeError (NodeId × Graph) :=
  match graph.context.lookup kernel with
  | .error _ => .error (.kernelNotFound kernel)
  | .ok entry => graph.addNodeWithKernel entry refs

/-! ## Removing nodes -/

/-- Gives back one slot of a removed node: the object loses the constraints of the node and one
reference. -/
def unbindSlot (node : NodeId) (arena : Arena) (ref : DataRef) : Arena :=
  let arena := arena.modify ref.id (·.removeConstraints node)
  match arena.releaseSlot ref with
  | .ok released => released
  | .error _ => arena

def unbindSlots (node : NodeId) (arena : Arena) (refs : List DataRef) : Arena :=
  refs.foldl (unbindSlot node) arena

/-- Forgets that a node writes anything. -/
def removeProducers (node : NodeId) (producers : List (DataId × List NodeId)) :
    List (DataId × List NodeId) :=
  (producers.map fun (data, writers) ↦ (data, writers.filter (· != node))).filter
    fun entry ↦ !entry.2.isEmpty

/-- Removes a node. Objects that only the node held are freed. -/
def removeNode (graph : Graph) (id : NodeId) : Except NodeError Graph := do
  let node ← graph.node id
  let edited : Graph := { graph with
    nodes := graph.nodes.filter (·.id != id)
    arena := unbindSlots id graph.arena node.refs
    producers := removeProducers id graph.producers }
  return edited.invalidate

/-! ## Targets and callbacks -/

/-- Assigns a node to a target that hosts its kernel. -/
def assignTarget (graph : Graph) (id : NodeId) (target : String) : Except NodeError Graph :=
  match graph.context.targetIndex target with
  | .error _ => .error (.targetNotFound target)
  | .ok index => do
    let node ← graph.node id
    if (graph.context.targets[index]?).any (·.supports node.kernelName) then
      return (graph.modifyNode id ({ · with affinity := some index })).invalidate
    else
      throw (.kernelNotOnTarget node.kernelName target)

/-- Leaves the target of a node to the policy again. -/
def clearTarget (graph : Graph) (id : NodeId) : Except NodeError Graph := do
  let _ ← graph.node id
  return (graph.modifyNode id ({ · with affinity := none })).invalidate

def setCallback (graph : Graph) (id : NodeId) (answer : Nat → NodeAction) :
    Except NodeError Graph := do
  let _ ← graph.node id
  return graph.modifyNode id ({ · with callback := some { answer, calls := 0 } })

def clearCallback (graph : Graph) (id : NodeId) : Except NodeError Graph := do
  let _ ← graph.node id
  return graph.modifyNode id ({ · with callback := none })

end ImageFlow.Graph
