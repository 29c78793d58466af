import ImageFlow.Data.Payload
import ImageFlow.Error.Kernel
import ImageFlow.Error.Stop
import ImageFlow.Ident

/-!
# Access to bound data

What a kernel sees of a node while the node runs: the payload of the object bound to each slot.
Slots that the kernel only reads cannot be written. A written slot that has memory keeps memory: its
payload can be replaced but not taken away.
-/

namespace ImageFlow

/-- The memory of a slot during a run. -/
structure Slot where
  /-- Whether the kernel may write the slot. -/
  writable : Bool
  payload : Option Payload
  deriving DecidableEq, Repr

/-- The slots of a node during a run. -/
structure Access where
  node : NodeId
  slots : List Slot
  deriving DecidableEq, Repr

/-- An index beyond the last slot. -/
def KernelError.noSuchSlot (slot : Nat) : KernelError :=
  .invalidParameters ("parameter " ++ slot.repr ++ " does not exist")

def KernelError.noMemory (slot : Nat) : KernelError :=
  .failure ("parameter " ++ slot.repr ++ " has no backing memory")

def KernelError.readOnly (slot : Nat) : KernelError :=
  .invalidAccess ("parameter " ++ slot.repr ++ " is read-only")

/-- A slot asked for both ways at once. -/
def KernelError.readAndWritten (slot : Nat) : KernelError :=
  .invalidAccess ("parameter " ++ slot.repr ++ " cannot be read and written at once")

def KernelError.wrongKind (slot : Nat) (expected : String) (payload : Payload) : KernelError :=
  .invalidParameters
    ("parameter " ++ slot.repr ++ " is " ++ payload.kind ++ ", expected " ++ expected)

namespace Slot

/-- The payload of a slot. -/
def read (s : Slot) (slot : Nat) : Except KernelError Payload :=
  match s.payload with
  | some payload => .ok payload
  | none => .error (.noMemory slot)

/-- The payload of a slot that may be written. -/
def readToWrite (s : Slot) (slot : Nat) : Except KernelError Payload :=
  if s.writable then s.read slot else .error (.readOnly slot)

end Slot

namespace Access

def slotCount (access : Access) : Nat := access.slots.length

def slot (access : Access) (slot : Nat) : Except KernelError Slot :=
  match access.slots[slot]? with
  | some s => .ok s
  | none => .error (.noSuchSlot slot)

/-! ## Reading -/

def payload (access : Access) (slot : Nat) : Except KernelError Payload := do
  (← access.slot slot).read slot

/-- The payload of a slot that the kernel writes. -/
def payloadToWrite (access : Access) (slot : Nat) : Except KernelError Payload := do
  (← access.slot slot).readToWrite slot

def imageOf (slot : Nat) (payload : Payload) : Except KernelError ImageBuffer :=
  match payload with
  | .image image => .ok image
  | _ => .error (.wrongKind slot "image" payload)

def arrayOf (slot : Nat) (payload : Payload) : Except KernelError ArrayBuffer :=
  match payload with
  | .array array => .ok array
  | _ => .error (.wrongKind slot "array" payload)

def image (access : Access) (slot : Nat) : Except KernelError ImageBuffer := do
  imageOf slot (← access.payload slot)

/-- The image of a slot that the kernel writes. -/
def imageToWrite (access : Access) (slot : Nat) : Except KernelError ImageBuffer := do
  imageOf slot (← access.payloadToWrite slot)

def scalar (access : Access) (slot : Nat) : Except KernelError ScalarValue := do
  let payload ← access.payload slot
  match payload with
  | .scalar value => return value
  | _ => throw (.wrongKind slot "scalar" payload)

def array (access : Access) (slot : Nat) : Except KernelError ArrayBuffer := do
  arrayOf slot (← access.payload slot)

/-- The array of a slot that the kernel writes. -/
def arrayToWrite (access : Access) (slot : Nat) : Except KernelError ArrayBuffer := do
  arrayOf slot (← access.payloadToWrite slot)

/-! ## Writing -/

def replace (access : Access) (slot : Nat) (payload : Payload) : Access :=
  { access with slots := access.slots.modify slot fun s ↦ { s with payload := some payload } }

/-- Replaces the payload of a slot that the kernel writes. -/
def put (access : Access) (slot : Nat) (payload : Payload) : Except KernelError Access := do
  let _ ← access.payloadToWrite slot
  return access.replace slot payload

/-- Stores a scalar of the type that the slot already holds. -/
def setScalar (access : Access) (slot : Nat) (value : ScalarValue) : Except KernelError Access := do
  let payload ← access.payloadToWrite slot
  match payload with
  | .scalar current =>
    if current.type = value.type then return access.replace slot (.scalar value)
    else throw (.wrongKind slot ("scalar " ++ value.type.label) payload)
  | _ => throw (.wrongKind slot ("scalar " ++ value.type.label) payload)

/-! ## Several slots at once -/

/-- What a pass over the slots has found: for each slot to read, in the order in which they were
asked for, a payload or nothing yet, and the payload of the slot to write. -/
structure Gathered where
  inputs : List (Option Payload)
  output : Option Payload
  deriving DecidableEq, Repr

/-- Nothing has been found yet. -/
def Gathered.nothing (reads : List Nat) : Gathered :=
  { inputs := List.replicate reads.length none, output := none }

/-- The payload of a slot goes to every place that asks for the slot. -/
def Gathered.fill (found : Gathered) (reads : List Nat) (slot : Nat) (payload : Payload) :
    Gathered :=
  let place (read : Nat) (input : Option Payload) : Option Payload :=
    if read = slot then some payload else input
  { found with inputs := List.zipWith place reads found.inputs }

/-- Looks at one slot. -/
def Gathered.visit (found : Gathered) (reads : List Nat) (write : Nat) (s : Slot) (slot : Nat) :
    Except KernelError Gathered := do
  if slot = write then
    return { found with output := some (← s.readToWrite slot) }
  else if reads.contains slot then
    return found.fill reads slot (← s.read slot)
  else
    return found

/-- Looks at one slot after the other; the first of them has the number `slot`. -/
def gather (reads : List Nat) (write : Nat) :
    List Slot → Nat → Gathered → Except KernelError Gathered
  | [], _, found => .ok found
  | s :: slots, slot, found => do
    gather reads write slots (slot + 1) (← found.visit reads write s slot)

/-- Several payloads to read and one to write. No slot may be asked for both ways. -/
def split (access : Access) (reads : List Nat) (write : Nat) :
    Except KernelError (List Payload × Payload) := do
  let count := access.slotCount
  if count ≤ write then
    throw (.noSuchSlot write)
  if let some stranger := reads.find? (count ≤ ·) then
    throw (.noSuchSlot stranger)
  if reads.contains write then
    throw (.readAndWritten write)
  let found ← gather reads write access.slots 0 (.nothing reads)
  match found.output with
  | some output => return (found.inputs.filterMap id, output)
  | none => throw (.noSuchSlot write)

/-- One image to read and one to write. -/
def unaryImage (access : Access) (input output : Nat) :
    Except KernelError (ImageBuffer × ImageBuffer) := do
  let (inputs, out) ← access.split [input] output
  match inputs with
  | [source] => return (← imageOf input source, ← imageOf output out)
  | _ => throw (.noSuchSlot input)

/-- Two images to read and one to write. -/
def binaryImage (access : Access) (a b output : Nat) :
    Except KernelError (ImageBuffer × ImageBuffer × ImageBuffer) := do
  let (inputs, out) ← access.split [a, b] output
  match inputs with
  | [first, second] => return (← imageOf a first, ← imageOf b second, ← imageOf output out)
  | _ => throw (.noSuchSlot a)

end Access

/-- A computation of a kernel on its slots. What it wrote before it ended early stays written. -/
abbrev Work (α : Type) := ExceptT (Stop KernelError) (StateM Access) α

namespace Work

/-- Asks the slots for something; an error ends the computation. -/
def ask {α : Type} (query : Access → Except KernelError α) : Work α := do
  match query (← get) with
  | .ok answer => return answer
  | .error e => throw (.failed e)

/-- Changes the slots; an error ends the computation and leaves them as they are. -/
def change (update : Access → Except KernelError Access) : Work Unit := do
  match update (← get) with
  | .ok access => set access
  | .error e => throw (.failed e)

def fail {α : Type} (error : KernelError) : Work α := throw (.failed error)

/-- A value that must be there; nothing goes on without it. -/
def need {α : Type} (found : Option α) : Work α := ExceptT.mk (pure (Stop.need found))

end Work

end ImageFlow
