import ImageFlow.Data.Constraint
import ImageFlow.Data.Payload
import ImageFlow.Error.Stop
import ImageFlow.Error.Verify

/-!
# Data objects

A data object has a shape, memory and two counts of references: those held by clients and those held
by the nodes it is bound to. A concrete object has its shape and its memory from the start. A
virtual object is given both by verification; until then only the slots it is bound to, and possibly
a hint, say what it may become.
-/

namespace ImageFlow

/-- How much of an object's shape is known. -/
inductive ObjectState
  /-- Made with a full shape. -/
  | concrete (descriptor : Descriptor)
  /-- Virtual, and not resolved. -/
  | pending
  /-- Virtual, and resolved by the last verification. -/
  | resolved (descriptor : Descriptor)
  deriving DecidableEq, Repr

/-- A data object. -/
structure DataObject where
  id : DataId
  state : ObjectState
  /-- What was fixed of the shape of a virtual image. -/
  hint : Option ImageHint
  /-- The constraint of every slot that a virtual object is bound to, with the node of the slot. -/
  constraints : List (NodeId × Constraint)
  /-- References held by clients. -/
  clientRefs : Nat
  /-- References held by slots. -/
  slotRefs : Nat
  payload : Option Payload
  deriving DecidableEq, Repr

namespace DataObject

/-- A concrete object, with memory and one client reference. -/
def concrete (id : DataId) (descriptor : Descriptor) (payload : Payload) : DataObject :=
  { id
    state := .concrete descriptor
    hint := none
    constraints := []
    clientRefs := 1
    slotRefs := 0
    payload := some payload }

/-- A virtual object, with one client reference and no memory. -/
def virtual (id : DataId) (hint : Option ImageHint) : DataObject :=
  { id
    state := .pending
    hint
    constraints := []
    clientRefs := 1
    slotRefs := 0
    payload := none }

/-- Whether the object was made without a full shape. -/
def isVirtual (object : DataObject) : Bool :=
  match object.state with
  | .concrete _ => false
  | .pending | .resolved _ => true

def descriptor? (object : DataObject) : Option Descriptor :=
  match object.state with
  | .concrete descriptor | .resolved descriptor => some descriptor
  | .pending => none

def refCount (object : DataObject) : Nat := object.clientRefs + object.slotRefs

def isAllocated (object : DataObject) : Bool := object.payload.isSome

def retain (object : DataObject) : DataObject :=
  { object with clientRefs := object.clientRefs + 1 }

def retainSlot (object : DataObject) : DataObject :=
  { object with slotRefs := object.slotRefs + 1 }

/-- Gives one client reference back; an error if clients hold none. -/
def release (object : DataObject) : Except DataError DataObject :=
  match object.clientRefs with
  | 0 => .error (.invalidReference object.id)
  | n + 1 => .ok { object with clientRefs := n }

/-- Gives the reference of one slot back; an error if slots hold none. -/
def releaseSlot (object : DataObject) : Except DataError DataObject :=
  match object.slotRefs with
  | 0 => .error (.invalidReference object.id)
  | n + 1 => .ok { object with slotRefs := n }

/-- Gives a virtual object its shape. The shape must be one of which objects can be made, and must
agree with the hint. Giving the same shape again changes nothing, giving another one is a
conflict. -/
def resolve (object : DataObject) (descriptor : Descriptor) : Except DataError DataObject :=
  match object.state with
  | .concrete _ => .error (.notVirtual object.id)
  | .resolved existing =>
    if existing = descriptor then .ok object
    else .error (.typeConflict object.id existing descriptor)
  | .pending =>
    match descriptor.fault? with
    | some fault => .error (.ofSizeFault fault)
    | none =>
      match object.hint with
      | some hint =>
        if hint.agreesWith descriptor then .ok { object with state := .resolved descriptor }
        else .error (.typeConflict object.id hint.shown descriptor)
      | none => .ok { object with state := .resolved descriptor }

/-- Takes shape and memory of a virtual object away again. -/
def reset (object : DataObject) : DataObject :=
  if object.isVirtual then { object with state := .pending, payload := none } else object

/-- Records the constraint of a slot that the object is bound to. -/
def addConstraint (object : DataObject) (node : NodeId) (constraint : Constraint) : DataObject :=
  { object with constraints := object.constraints ++ [(node, constraint)] }

/-- Forgets the constraints of a node's slots. -/
def removeConstraints (object : DataObject) (node : NodeId) : DataObject :=
  { object with constraints := object.constraints.filter (·.1 != node) }

/-- Gives the object zeroed memory if it has none, and tells how many bytes that took. -/
def allocate (object : DataObject) : Except (Stop DataError) (DataObject × Nat) :=
  match object.descriptor? with
  | none => .error (.failed (.notAllocated object.id))
  | some descriptor =>
    match object.payload with
    | some _ => .ok (object, 0)
    | none => do
      let payload ← Stop.need (Payload.allocate? descriptor)
      return ({ object with payload := some payload }, descriptor.byteSize)

def describeState : ObjectState → String
  | .concrete descriptor => Text.applyText "Concrete" [descriptor.describe]
  | .pending => "Pending"
  | .resolved descriptor => Text.applyText "Resolved" [descriptor.describe]

def describe (object : DataObject) : String :=
  Text.recordText "DataObject"
    [("id", object.id.describe), ("state", describeState object.state),
      ("hint", Text.optionText (object.hint.map ImageHint.describe)),
      ("external", object.clientRefs.repr), ("internal", object.slotRefs.repr),
      ("allocated", Text.boolText object.isAllocated)]

end DataObject

end ImageFlow
