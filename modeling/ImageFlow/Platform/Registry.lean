import ImageFlow.Error.Registry
import ImageFlow.Ident
import ImageFlow.Kernel.Basic
import ImageFlow.Ordered
import ImageFlow.Text.LetterCase

/-!
# Kernel registry

Kernels are registered under unique names and enumerated in the order of their names. Every
registration receives a new number, also when a name that was given up is registered again.
-/

namespace ImageFlow

/-- A kernel together with the number of its registration. -/
structure RegisteredKernel where
  id : KernelId
  kernel : Kernel

namespace RegisteredKernel

def name (entry : RegisteredKernel) : String := entry.kernel.signature.name

def signature (entry : RegisteredKernel) : Signature := entry.kernel.signature

def describe (entry : RegisteredKernel) : String :=
  Text.recordText "RegisteredKernel"
    [("id", entry.id.describe), ("name", Text.quote entry.name),
      ("parameters", entry.signature.parameters.length.repr)]

end RegisteredKernel

/-- The available kernels. -/
structure Registry where
  /-- The kernels by name, in the order of the names. -/
  kernels : List (String × RegisteredKernel)
  /-- The number of the next registration. -/
  nextId : Nat

namespace Registry

def empty : Registry := { kernels := [], nextId := 0 }

/-- Registers a kernel under its name, unless the name is taken. -/
def register (registry : Registry) (kernel : Kernel) : Except RegistryError (KernelId × Registry) :=
  match Ordered.find? kernel.name registry.kernels with
  | some _ => .error (.duplicateKernel kernel.name)
  | none =>
    let id : KernelId := ⟨registry.nextId⟩
    .ok (id,
      { kernels := Ordered.set kernel.name { id, kernel } registry.kernels
        nextId := registry.nextId + 1 })

/-- Removes the kernel of a name; whether there was one. Nodes that are bound to it keep it. -/
def unregister (registry : Registry) (name : String) : Bool × Registry :=
  ((Ordered.find? name registry.kernels).isSome,
    { registry with kernels := Ordered.remove name registry.kernels })

def lookup (registry : Registry) (name : String) : Except RegistryError RegisteredKernel :=
  match Ordered.find? name registry.kernels with
  | some entry => .ok entry
  | none => .error (.kernelNotFound name)

def signature? (registry : Registry) (name : String) : Option Signature :=
  (Ordered.find? name registry.kernels).map RegisteredKernel.signature

def contains (registry : Registry) (name : String) : Bool :=
  (Ordered.find? name registry.kernels).isSome

def names (registry : Registry) : List String := registry.kernels.map Prod.fst

def size (registry : Registry) : Nat := registry.kernels.length

/-- Number of slots of the kernel of a name. -/
def parameterCount (registry : Registry) (name : String) : Except RegistryError Nat :=
  (registry.lookup name).map fun entry ↦ entry.signature.parameters.length

/-- Whether a lower-case text occurs in a kernel's name, description or tags, whatever their case.
-/
def mentions (signature : Signature) (text : String) : Bool :=
  ([signature.name, signature.description] ++ signature.tags).any fun field ↦
    Text.contains (Text.lowerCase field) text

/-- The names of the kernels that mention a text, in order. Letter case does not count. -/
def search (registry : Registry) (text : String) : List String :=
  let query := Text.lowerCase text
  (registry.kernels.filter fun entry ↦ mentions entry.2.signature query).map Prod.fst

end Registry

end ImageFlow
