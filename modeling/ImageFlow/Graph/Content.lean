import ImageFlow.Graph.Basic

/-!
# Content of a graph

Making data objects, holding and giving back references to them, and reading and writing their
payloads. None of this touches the plan of the graph.
-/

namespace ImageFlow.Graph

/-- Makes an object by an operation of the arena. -/
def withNew (graph : Graph) (made : DataRef × Arena) : DataRef × Graph :=
  (made.1, { graph with arena := made.2 })

def create (graph : Graph) (descriptor : Descriptor) :
    Except (Stop DataError) (DataRef × Graph) :=
  (graph.arena.create descriptor).map graph.withNew

def createScalar (graph : Graph) (value : ScalarValue) : DataRef × Graph :=
  graph.withNew (graph.arena.createScalar value)

def createVirtual (graph : Graph) : DataRef × Graph := graph.withNew graph.arena.createVirtual

/-- Makes a virtual image of which some fields are fixed. -/
def createVirtualImage (graph : Graph) (hint : ImageHint) : Except DataError (DataRef × Graph) :=
  (graph.arena.createVirtualImage hint).map graph.withNew

/-- Takes one more client reference; the count after it. -/
def retain (graph : Graph) (ref : DataRef) : Except DataError (Nat × Graph) :=
  (graph.arena.retain ref).map fun (count, arena) ↦ (count, { graph with arena })

/-- Gives one client reference back; the count left. Nodes keep references of their own. -/
def release (graph : Graph) (ref : DataRef) : Except DataError (Nat × Graph) :=
  (graph.arena.release ref).map fun (count, arena) ↦ (count, { graph with arena })

/-- The shape of a live object, as far as it is known. -/
def dataDescriptor (graph : Graph) (ref : DataRef) : Except DataError (Option Descriptor) :=
  (graph.arena.get ref).map DataObject.descriptor?

/-! ## Payloads -/

/-- The payload of a live object that has memory. -/
def payload (graph : Graph) (ref : DataRef) : Except DataError Payload := do
  let object ← graph.arena.get ref
  match object.payload with
  | some payload => return payload
  | none => throw (.notAllocated ref.id)

def setPayload (graph : Graph) (ref : DataRef) (payload : Payload) : Graph :=
  { graph with arena := graph.arena.setPayload ref.id (some payload) }

/-- A payload of another kind than the one asked for. -/
def kindMismatch (ref : DataRef) (expected : String) (payload : Payload) : DataError :=
  .payloadMismatch ref.id expected payload.kind

def readImage (graph : Graph) (ref : DataRef) : Except DataError ImageBuffer := do
  let payload ← graph.payload ref
  match payload with
  | .image image => return image
  | _ => throw (kindMismatch ref "image" payload)

/-- Overwrites the bytes of an image; there must be as many as the image has. -/
def writeImage (graph : Graph) (ref : DataRef) (bytes : Bytes) : Except DataError Graph := do
  let image ← graph.readImage ref
  if image.data.size = bytes.size then
    return graph.setPayload ref (.image { image with data := bytes })
  else
    throw (.payloadMismatch ref.id (image.data.size.repr ++ " bytes") (bytes.size.repr ++ " bytes"))

def readScalar (graph : Graph) (ref : DataRef) : Except DataError ScalarValue := do
  let payload ← graph.payload ref
  match payload with
  | .scalar value => return value
  | _ => throw (kindMismatch ref "scalar" payload)

/-- Stores a scalar of the type that is there. -/
def writeScalar (graph : Graph) (ref : DataRef) (value : ScalarValue) : Except DataError Graph := do
  let current ← graph.readScalar ref
  if current.type = value.type then
    return graph.setPayload ref (.scalar value)
  else
    throw (.payloadMismatch ref.id current.type.label value.type.label)

def readArrayBuffer (graph : Graph) (ref : DataRef) : Except DataError ArrayBuffer := do
  let payload ← graph.payload ref
  match payload with
  | .array array => return array
  | _ => throw (kindMismatch ref "array" payload)

def readArray (graph : Graph) (ref : DataRef) : Except DataError (List ScalarValue) :=
  (graph.readArrayBuffer ref).map ArrayBuffer.items

/-- Replaces the items of an array, as far as its capacity reaches. -/
def writeArray (graph : Graph) (ref : DataRef) (items : List ScalarValue) :
    Except DataError Graph := do
  let array ← graph.readArrayBuffer ref
  match array.setItems items with
  | .ok filled => return graph.setPayload ref (.array filled)
  | .error type => throw (.payloadMismatch ref.id array.item.label type.label)

end ImageFlow.Graph
