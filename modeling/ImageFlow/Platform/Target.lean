import ImageFlow.Ordered

/-!
# Targets

A target is a named place where kernels can run, with the set of kernels that it hosts. A policy
chooses the target of a node that was not assigned to one.
-/

namespace ImageFlow

/-- A named place where some kernels can run. -/
structure Target where
  name : String
  /-- The names of the hosted kernels, in order. -/
  kernels : List String
  deriving DecidableEq, Repr

namespace Target

def empty (name : String) : Target := { name, kernels := [] }

/-- Hosts one more kernel. -/
def addKernel (target : Target) (kernel : String) : Target :=
  { target with kernels := Ordered.insert kernel target.kernels }

def supports (target : Target) (kernel : String) : Bool := Ordered.contains kernel target.kernels

/-- Hosts a kernel no longer; whether it was hosted. -/
def removeKernel (target : Target) (kernel : String) : Bool × Target :=
  (target.supports kernel, { target with kernels := Ordered.erase kernel target.kernels })

end Target

/-- The policies that can be configured. -/
inductive TargetPolicy
  /-- The first target that hosts the kernel. -/
  | lowestIndex
  /-- The target of that name, if it hosts the kernel. -/
  | named (target : String)
  deriving DecidableEq, Repr

namespace TargetPolicy

def name : TargetPolicy → String
  | lowestIndex => "lowest_index"
  | named _ => "named"

/-- Index of the target that a policy chooses for a kernel. -/
def assign (policy : TargetPolicy) (kernel : String) (targets : List Target) : Option Nat :=
  match policy with
  | lowestIndex => targets.findIdx? (·.supports kernel)
  | named target =>
    match targets.findIdx? (·.name == target) with
    | some i => if (targets[i]?).any (·.supports kernel) then some i else none
    | none => none

end TargetPolicy

/-- Any rule that chooses a target for a kernel. Its choice is an index into the list of targets,
and is not checked. -/
structure Policy where
  name : String
  assign : String → List Target → Option Nat

/-- A configured policy as a rule. -/
def TargetPolicy.toPolicy (policy : TargetPolicy) : Policy :=
  { name := policy.name, assign := policy.assign }

/-- The rule that makes one choice for every kernel. -/
def Policy.fixed (index : Option Nat) : Policy :=
  { name := "fixed", assign := fun _ _ ↦ index }

end ImageFlow
