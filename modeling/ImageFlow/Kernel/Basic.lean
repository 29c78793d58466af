import ImageFlow.Kernel.Access
import ImageFlow.Kernel.Inspection

/-!
# Kernels

A kernel is the unit of processing that a node binds to data. While a graph is verified the kernel
infers the shapes of virtual outputs, checks its parameters together, and prepares itself once the
plan is fixed; in every run it executes on the payloads. All four are functions of what the kernel
is shown.

Every call of a kernel is an event of the activity that makes it. An event records what the kernel
was shown, and what the kernel noted down.
-/

namespace ImageFlow

/-- What a kernel is asked to do, with what it is shown for it. -/
inductive Activity
  /-- Infer the shape of a slot. -/
  | infer (slot : Nat) (view : Inspection)
  /-- Check the parameters. -/
  | validate (view : Inspection)
  /-- Get ready to run. -/
  | prepare (view : Inspection)
  /-- Run on the payloads. -/
  | execute (access : Access)
  deriving DecidableEq, Repr

/-- A single answer that a kernel got while it worked. -/
inductive Reply
  | nothing
  | count (n : Nat)
  | text (text : String)
  | parameter (parameter : Option Parameter)
  | descriptor (descriptor : Option Descriptor)
  | inputs (inputs : List (Nat × Descriptor))
  | dimensions (width height : Nat)
  | format (format : PixelFormat)
  | value (value : Option ScalarValue)
  | number (n : Int)
  | payload (payload : Payload)
  | payloads (payloads : List Payload)
  | items (items : List ScalarValue)
  | bytes (bytes : Bytes)
  | split (inputs : List Payload) (output : Payload)
  /-- Items refused because of the type of one of them. -/
  | rejected (type : ScalarType)
  deriving DecidableEq, Repr

/-- What a kernel noted down: that it was asked to infer a slot, or a question with its answer. -/
inductive Note
  | inferred (slot : Nat)
  | asked (question : String) (answer : Except KernelError Reply)

/-- The unit of processing that a node binds to data. -/
structure Kernel where
  signature : Signature
  /-- The shape of a written slot, once all shapes that the kernel reads are known. -/
  infer : Nat → Inspection → Option Descriptor
  /-- Checks that go beyond the constraints of single slots. -/
  validate : Inspection → Except KernelError Unit
  /-- Called once, when the plan is fixed. -/
  prepare : Inspection → Except KernelError Unit
  /-- One run on bound data. -/
  execute : Work Unit
  /-- What the kernel notes down of an activity. -/
  journal : Activity → List Note

namespace Kernel

def name (kernel : Kernel) : String := kernel.signature.name

/-- A kernel that infers by the general rule, accepts all parameters, needs no preparation and keeps
no notes. -/
def ofExecute (signature : Signature) (execute : Work Unit) : Kernel :=
  { signature
    infer := fun slot view ↦ view.defaultOutput? slot
    validate := fun _ ↦ .ok ()
    prepare := fun _ ↦ .ok ()
    execute
    journal := fun _ ↦ [] }

end Kernel

/-- A call of a kernel or of a node's callback. -/
inductive Event
  | kernel (node : NodeId) (activity : Activity) (notes : List Note)
  | callback (node : NodeId)

def Kernel.event (kernel : Kernel) (node : NodeId) (activity : Activity) : Event :=
  .kernel node activity (kernel.journal activity)

end ImageFlow
