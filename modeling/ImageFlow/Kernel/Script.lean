import ImageFlow.Kernel.Basic

/-!
# Scripted kernels

A kernel can be given as data: for each activity a list of calls that it makes, one after the other.
The answer to every call is noted down. A call may be marked as a question whose failure ends the
activity; the failure of any other call is only noted.
-/

namespace ImageFlow

namespace KernelScript

/-- What a script may ask while a node is verified. -/
inductive Query
  | kernelName
  | parameterCount
  | parameter (slot : Nat)
  | descriptor (slot : Nat)
  | inputs
  | firstInputImage
  | dimensions (slot : Nat)
  | format (slot : Nat)
  | scalarValue (slot : Nat)
  | sameDimensions (a b : Nat)
  | defaultOutput (slot : Nat)
  deriving DecidableEq, Repr

/-- What a script may do while a node runs. -/
inductive Command
  | parameterCount
  | payload (slot : Nat)
  | payloadToWrite (slot : Nat)
  | image (slot : Nat)
  | imageToWrite (slot : Nat)
  | scalar (slot : Nat)
  | array (slot : Nat)
  | arrayToWrite (slot : Nat)
  | setScalar (slot : Nat) (value : ScalarValue)
  | sample (slot pixel : Nat)
  | store (slot pixel : Nat) (value : Int)
  /-- Replaces the bytes of an image, whatever their number. -/
  | write (slot : Nat) (data : Bytes)
  /-- Replaces a payload, whatever its kind. -/
  | put (slot : Nat) (payload : Payload)
  | setItems (slot : Nat) (items : List ScalarValue)
  | split (reads : List Nat) (write : Nat)
  | unary (input output : Nat)
  | binary (a b output : Nat)
  deriving DecidableEq, Repr

/-- One line of a script. -/
inductive Call (α : Type)
  /-- Ends the activity with an error. -/
  | fail (error : KernelError)
  /-- Makes a call under a name. If `strict`, its failure ends the activity. -/
  | call (name : String) (strict : Bool) (action : α)

/-- The answer to a query. -/
def Query.answer (view : Inspection) : Query → Except KernelError Reply
  | kernelName => .ok (.text view.signature.name)
  | parameterCount => .ok (.count view.signature.parameters.length)
  | parameter slot => .ok (.parameter (view.parameter? slot))
  | descriptor slot => .ok (.descriptor (view.descriptor? slot))
  | inputs => .ok (.inputs view.inputs)
  | firstInputImage => .ok (.descriptor view.firstInputImage?)
  | dimensions slot => (view.dimensions slot).map fun (width, height) ↦ .dimensions width height
  | format slot => (view.format slot).map .format
  | scalarValue slot => .ok (.value (view.scalarValue? slot))
  | sameDimensions a b => (view.requireSameDimensions a b).map fun () ↦ .nothing
  | defaultOutput slot => .ok (.descriptor (view.defaultOutput? slot))

/-- Runs queries: how the activity ends, and the notes taken. -/
def runQueries (view : Inspection) : List (Call Query) → Except KernelError Unit × List Note
  | [] => (.ok (), [])
  | .fail error :: _ => (.error error, [])
  | .call name strict query :: rest =>
    let answer := query.answer view
    match strict, answer with
    | true, .error e => (.error e, [.asked name answer])
    | _, _ =>
      let (result, notes) := runQueries view rest
      (result, .asked name answer :: notes)

/-- The effect of a command on the slots and its answer; none if a pixel is missing. -/
def Command.perform (access : Access) : Command → Option (Except KernelError (Reply × Access))
  | parameterCount => some (.ok (.count access.slotCount, access))
  | payload slot => some ((access.payload slot).map fun p ↦ (.payload p, access))
  | payloadToWrite slot => some ((access.payloadToWrite slot).map fun p ↦ (.payload p, access))
  | image slot => some ((access.image slot).map fun i ↦ (.payload (.image i), access))
  | imageToWrite slot => some ((access.imageToWrite slot).map fun i ↦ (.payload (.image i), access))
  | scalar slot => some ((access.scalar slot).map fun v ↦ (.value (some v), access))
  | array slot => some ((access.array slot).map fun a ↦ (.items a.items, access))
  | arrayToWrite slot => some ((access.arrayToWrite slot).map fun a ↦ (.items a.items, access))
  | setScalar slot value => some ((access.setScalar slot value).map fun a ↦ (.nothing, a))
  | sample slot pixel =>
    match access.image slot with
    | .error e => some (.error e)
    | .ok buffer => (buffer.sample? pixel).map fun n ↦ .ok (.number n, access)
  | store slot pixel value =>
    match access.imageToWrite slot with
    | .error e => some (.error e)
    | .ok buffer => (buffer.store? pixel value).map fun stored ↦
      .ok (.bytes stored.data, access.replace slot (.image stored))
  | write slot data => some ((access.imageToWrite slot).map fun buffer ↦
      (.nothing, access.replace slot (.image { buffer with data })))
  | put slot replacement => some ((access.put slot replacement).map fun a ↦ (.nothing, a))
  | setItems slot items => some ((access.arrayToWrite slot).map fun buffer ↦
      match buffer.setItems items with
      | .ok filled => (.nothing, access.replace slot (.array filled))
      | .error type => (.rejected type, access))
  | split reads target => some ((access.split reads target).map fun (inputs, output) ↦
      (.split inputs output, access))
  | unary input output => some ((access.unaryImage input output).map fun (source, target) ↦
      (.payloads [.image source, .image target], access))
  | binary a b output => some ((access.binaryImage a b output).map fun (first, second, target) ↦
      (.payloads [.image first, .image second, .image target], access))

/-- Runs commands: how the activity ends, the slots after it, and the notes taken. -/
def runCommands : List (Call Command) → Access → Except (Stop KernelError) Unit × Access × List Note
  | [], access => (.ok (), access, [])
  | .fail error :: _, access => (.error (.failed error), access, [])
  | .call name strict command :: rest, access =>
    match command.perform access with
    | none => (.error .crash, access, [])
    | some (.error e) =>
      if strict then
        (.error (.failed e), access, [.asked name (.error e)])
      else
        let (result, access, notes) := runCommands rest access
        (result, access, .asked name (.error e) :: notes)
    | some (.ok (reply, access)) =>
      let (result, access, notes) := runCommands rest access
      (result, access, .asked name (.ok reply) :: notes)

end KernelScript

/-- A kernel given as data. -/
structure KernelScript where
  signature : Signature
  /-- The shapes of slots that the script decides itself; all others follow the general rule. -/
  outputs : List (Nat × Option Descriptor)
  validate : List (KernelScript.Call KernelScript.Query)
  prepare : List (KernelScript.Call KernelScript.Query)
  execute : List (KernelScript.Call KernelScript.Command)

namespace KernelScript

def infer (script : KernelScript) (slot : Nat) (view : Inspection) : Option Descriptor :=
  match script.outputs.lookup slot with
  | some descriptor => descriptor
  | none => view.defaultOutput? slot

/-- What a script notes down of an activity. -/
def journal (script : KernelScript) : Activity → List Note
  | .infer slot _ => [.inferred slot]
  | .validate view => (runQueries view script.validate).2
  | .prepare view => (runQueries view script.prepare).2
  | .execute access => (runCommands script.execute access).2.2

/-- The kernel that follows a script. -/
def toKernel (script : KernelScript) : Kernel :=
  { signature := script.signature
    infer := script.infer
    validate := fun view ↦ (runQueries view script.validate).1
    prepare := fun view ↦ (runQueries view script.prepare).1
    execute := fun access ↦
      let (result, access, _) := runCommands script.execute access
      (result, access)
    journal := script.journal }

end KernelScript

end ImageFlow
