import ImageFlow.Error.Node
import ImageFlow.Error.Process
import ImageFlow.Error.Registry

/-!
# Errors of every phase

One type for callers that do not tell the phases apart. Its wording names the phase first.
-/

namespace ImageFlow

inductive AnyError
  | data (error : DataError)
  | registry (error : RegistryError)
  | node (error : NodeError)
  | verify (error : VerifyError)
  | process (error : ProcessError)
  deriving DecidableEq, Repr

def AnyError.message : AnyError → String
  | data error => "Data error: " ++ error.message
  | registry error => "Registry error: " ++ error.message
  | node error => "Node error: " ++ error.message
  | verify error => "Verification error: " ++ error.message
  | process error => "Processing error: " ++ error.message

end ImageFlow
