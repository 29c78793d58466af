/-!
# Registry errors

What can go wrong when kernels and targets are registered and looked up.
-/

namespace ImageFlow

/-- A failure of the kernel registry or of the table of targets. -/
inductive RegistryError
  | duplicateKernel (name : String)
  | kernelNotFound (name : String)
  | targetNotFound (name : String)
  | duplicateTarget (name : String)
  deriving DecidableEq, Repr

def RegistryError.message : RegistryError → String
  | duplicateKernel name => "Kernel '" ++ name ++ "' is already registered"
  | kernelNotFound name => "Kernel '" ++ name ++ "' not found"
  | targetNotFound name => "Target '" ++ name ++ "' not found"
  | duplicateTarget name => "Target '" ++ name ++ "' is already registered"

end ImageFlow
