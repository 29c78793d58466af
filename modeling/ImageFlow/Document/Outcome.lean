import ImageFlow.Document.Errors

/-!
# Documents of outcomes

What an operation that can fail has to say: either its result, or the kind of the error, its
wording, and all that the error carries.
-/

namespace ImageFlow

/-- Errors that can be reported. -/
class Reported (ε : Type) where
  /-- The kind of an error. -/
  kind : ε → String
  /-- The wording of an error. -/
  wording : ε → String
  /-- All that an error carries. -/
  detail : ε → Document.Value

instance : Reported DataError :=
  ⟨DataError.variantName, DataError.message, DataError.toDocument⟩

instance : Reported RegistryError :=
  ⟨RegistryError.variantName, RegistryError.message, RegistryError.toDocument⟩

instance : Reported NodeError :=
  ⟨NodeError.variantName, NodeError.message, NodeError.toDocument⟩

instance : Reported VerifyError :=
  ⟨VerifyError.variantName, VerifyError.message, VerifyError.toDocument⟩

instance : Reported ProcessError :=
  ⟨ProcessError.variantName, ProcessError.message, ProcessError.toDocument⟩

instance : Reported KernelError :=
  ⟨fun _ ↦ "KernelError", KernelError.shown, KernelError.toDocument⟩

namespace Document

variable {ε α : Type} [Reported ε]

/-- The report of an error. -/
def failure (e : ε) : Value :=
  .record [("error", .text (Reported.kind e)), ("message", .text (Reported.wording e)),
    ("detail", Reported.detail e)]

def success (value : Value) : Value := .record [("ok", value)]

/-- The report of an operation. -/
def outcome (write : α → Value) : Except ε α → Value
  | .ok a => success (write a)
  | .error e => failure e

end Document

end ImageFlow
