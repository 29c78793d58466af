/-!
# Kernel errors

What a kernel reports when it refuses its parameters or fails to execute: a status code of its own
and a description.
-/

namespace ImageFlow

/-- A failure reported by a kernel. -/
structure KernelError where
  code : Int
  message : String
  deriving DecidableEq, Repr

namespace KernelError

/-- Code of a failure without a more special one. -/
def failureCode : Int := -1

/-- Code for a parameter of the wrong type or shape. -/
def invalidParametersCode : Int := -10

/-- Code for a slot used in a way that its direction does not allow. -/
def invalidAccessCode : Int := -11

def failure (message : String) : KernelError := ⟨failureCode, message⟩

def invalidParameters (message : String) : KernelError := ⟨invalidParametersCode, message⟩

def invalidAccess (message : String) : KernelError := ⟨invalidAccessCode, message⟩

def shown (e : KernelError) : String := "kernel error " ++ e.code.repr ++ ": " ++ e.message

end KernelError

end ImageFlow
