import ImageFlow.Data.Constraint

/-!
# Kernel signatures

What is known of a kernel without running it: its name, by which it is registered and found, what it
is for, and the slots that a node binds to data objects.
-/

namespace ImageFlow

/-- One slot of a kernel. -/
structure Parameter where
  name : String
  direction : Direction
  constraint : Constraint
  description : Option String
  deriving DecidableEq, Repr

/-- Name, purpose and slots of a kernel. -/
structure Signature where
  /-- A unique name. It is not taken apart anywhere. -/
  name : String
  description : String
  parameters : List Parameter
  /-- Words to search by. -/
  tags : List String
  deriving DecidableEq, Repr

namespace Parameter

def input (name : String) (constraint : Constraint) : Parameter :=
  { name, direction := .input, constraint, description := none }

def output (name : String) (constraint : Constraint) : Parameter :=
  { name, direction := .output, constraint, description := none }

end Parameter

namespace Signature

def outputSlots (signature : Signature) : List Nat :=
  signature.parameters.zipIdx.filterMap fun (parameter, slot) ↦
    if parameter.direction.writes then some slot else none

end Signature

end ImageFlow
