import ImageFlow.Kernels.Standard
import ImageFlow.Platform.Registry
import ImageFlow.Platform.Settings

/-!
# Contexts

A context holds what graphs share: the registered kernels, the targets that host them, the policy
that assigns targets, and the default options of runs. The default target comes first, so the policy
that takes the lowest index prefers it.
-/

namespace ImageFlow

/-- What graphs share. -/
structure Context where
  registry : Registry
  targets : List Target
  policy : Policy
  options : RunOptions

/-- Registers kernels one after the other and hosts each on a target, up to the first name that is
taken. Kernels registered before that stay registered and hosted. -/
def Registry.registerAll (registry : Registry) (target : Target) :
    List Kernel → Except RegistryError Unit × Registry × Target
  | [] => (.ok (), registry, target)
  | kernel :: rest =>
    match registry.register kernel with
    | .error e => (.error e, registry, target)
    | .ok (_, registry) => registry.registerAll (target.addKernel kernel.name) rest

/-- What a context is built from. -/
structure ContextSpec where
  /-- Whether the standard kernels are registered. -/
  standardKernels : Bool
  /-- The box filter of the standard kernels. -/
  boxFilter : BoxFilter := .means
  /-- Targets after the default one. -/
  targets : List Target
  /-- Further kernels, each with the name of its target unless that is the default one. -/
  kernels : List (Kernel × Option String)
  policy : Policy
  options : RunOptions

/-- The standard kernels on the default target. -/
def ContextSpec.standard : ContextSpec :=
  { standardKernels := true
    targets := []
    kernels := []
    policy := TargetPolicy.lowestIndex.toPolicy
    options := .standard }

namespace Context

def targetIndexIn (targets : List Target) (name : String) : Except RegistryError Nat :=
  match targets.findIdx? (·.name == name) with
  | some index => .ok index
  | none => .error (.targetNotFound name)

/-- Adds targets one after the other; their names must be new. -/
def addTargets (targets : List Target) : List Target → Except RegistryError (List Target)
  | [] => .ok targets
  | target :: rest =>
    if targets.any (·.name == target.name) then .error (.duplicateTarget target.name)
    else addTargets (targets ++ [target]) rest

/-- Registers kernels one after the other, each hosted on its target. -/
def addKernels (registry : Registry) (targets : List Target) :
    List (Kernel × Option String) → Except RegistryError (Registry × List Target)
  | [] => .ok (registry, targets)
  | (kernel, host) :: rest => do
    let index ← match host with
      | some name => targetIndexIn targets name
      | none => .ok 0
    let (_, registry) ← registry.register kernel
    addKernels registry (targets.modify index (·.addKernel kernel.name)) rest

/-- Builds a context. The standard kernels are registered first, then the targets are added, then
the other kernels registered. -/
def build (spec : ContextSpec) : Except RegistryError Context := do
  let (result, registry, target) := Registry.empty.registerAll (.empty Kernels.defaultTargetName)
    (if spec.standardKernels then Kernels.standard spec.boxFilter else [])
  result
  let targets ← addTargets [target] spec.targets
  let (registry, targets) ← addKernels registry targets spec.kernels
  return { registry, targets, policy := spec.policy, options := spec.options }

/-- Registers a kernel and hosts it on the first target. -/
def register (context : Context) (kernel : Kernel) : Except RegistryError (KernelId × Context) := do
  let (id, registry) ← context.registry.register kernel
  let targets := match context.targets with
    | [] => [(Target.empty Kernels.defaultTargetName).addKernel kernel.name]
    | first :: others => first.addKernel kernel.name :: others
  return (id, { context with registry, targets })

/-- A context with the standard kernels under given settings. -/
def ofSettings (settings : Settings) : Except RegistryError Context :=
  build { ContextSpec.standard with
    policy := settings.policy.toPolicy
    options := settings.options }

def lookup (context : Context) (name : String) : Except RegistryError RegisteredKernel :=
  context.registry.lookup name

def targetIndex (context : Context) (name : String) : Except RegistryError Nat :=
  targetIndexIn context.targets name

/-- The kernels that the target at an index hosts. -/
def kernelsForTarget? (context : Context) (index : Nat) : Option (List String) :=
  (context.targets[index]?).map Target.kernels

/-- The target that the policy chooses for a kernel. -/
def assign (context : Context) (kernel : String) : Option Nat :=
  context.policy.assign kernel context.targets

def describe (context : Context) : String :=
  Text.recordText "Context"
    [("kernels", context.registry.size.repr),
      ("targets", Text.listText (context.targets.map fun target ↦ Text.quote target.name)),
      ("policy", Text.quote context.policy.name), ("options", context.options.describe)]

end Context

end ImageFlow
