import ImageFlow.Data.Object

/-!
# Arenas

An arena owns the data objects of one graph. An object's number is its place in the arena. When the
last reference to an object is given back its place stays behind, empty, so that the number is never
given to another object and an old handle stays invalid for good.
-/

namespace ImageFlow

/-- The data objects of one graph. -/
structure Arena where
  graph : GraphId
  /-- One place for every object ever made; the place of a freed object is empty. -/
  slots : List (Option DataObject)
  deriving DecidableEq, Repr

namespace Arena

def empty (graph : GraphId) : Arena := { graph, slots := [] }

def nextId (arena : Arena) : DataId := ⟨arena.slots.length⟩

def refOf (arena : Arena) (id : DataId) : DataRef := { graph := arena.graph, id }

/-- Adds an object at the next place. -/
def push (arena : Arena) (object : DataObject) : DataRef × Arena :=
  (arena.refOf arena.nextId, { arena with slots := arena.slots ++ [some object] })

/-! ## Making objects -/

/-- Makes a concrete object, if objects of that shape can be made. -/
def create (arena : Arena) (descriptor : Descriptor) : Except (Stop DataError) (DataRef × Arena) :=
  match descriptor.fault? with
  | some fault => .error (.failed (.ofSizeFault fault))
  | none => do
    let payload ← Stop.need (Payload.allocate? descriptor)
    return arena.push (.concrete arena.nextId descriptor payload)

/-- Makes a concrete scalar that holds a value. -/
def createScalar (arena : Arena) (value : ScalarValue) : DataRef × Arena :=
  arena.push (.concrete arena.nextId (.scalar value.type) (.scalar value))

/-- Makes a virtual object of which nothing is known. -/
def createVirtual (arena : Arena) : DataRef × Arena :=
  arena.push (.virtual arena.nextId none)

/-- Makes a virtual image of which some fields are fixed. -/
def createVirtualImage (arena : Arena) (hint : ImageHint) : Except DataError (DataRef × Arena) :=
  match hint.fault? with
  | some fault => .error (.ofSizeFault fault)
  | none => .ok (arena.push (.virtual arena.nextId (some hint)))

/-! ## Looking objects up -/

/-- The live object of a number. -/
def byId? (arena : Arena) (id : DataId) : Option DataObject := arena.slots[id.index]?.join

/-- The live object of a handle. Handles of other graphs are refused, whatever their number. -/
def get (arena : Arena) (ref : DataRef) : Except DataError DataObject :=
  if ref.graph = arena.graph then
    match arena.byId? ref.id with
    | some object => .ok object
    | none => .error (.invalidReference ref.id)
  else
    .error (.invalidReference ref.id)

def handle? (arena : Arena) (id : DataId) : Option DataRef :=
  (arena.byId? id).map fun _ ↦ arena.refOf id

/-- The live objects in the order of their numbers. -/
def objects (arena : Arena) : List DataObject := arena.slots.filterMap id

def size (arena : Arena) : Nat := arena.objects.length

/-! ## Changing objects -/

def set (arena : Arena) (id : DataId) (object : Option DataObject) : Arena :=
  { arena with slots := arena.slots.set id.index object }

def modify (arena : Arena) (id : DataId) (f : DataObject → DataObject) : Arena :=
  { arena with slots := arena.slots.modify id.index (Option.map f) }

def map (arena : Arena) (f : DataObject → DataObject) : Arena :=
  { arena with slots := arena.slots.map (Option.map f) }

/-- Puts an object back into its place, or frees the place if nothing refers to the object. -/
def store (arena : Arena) (object : DataObject) : Arena :=
  arena.set object.id (if object.refCount = 0 then none else some object)

/-- Takes one more client reference; the count of client references after it. -/
def retain (arena : Arena) (ref : DataRef) : Except DataError (Nat × Arena) := do
  let object ← arena.get ref
  let retained := object.retain
  return (retained.clientRefs, arena.set ref.id (some retained))

/-- Gives one client reference back; the count of client references left. -/
def release (arena : Arena) (ref : DataRef) : Except DataError (Nat × Arena) := do
  let object ← arena.get ref
  let released ← object.release
  return (released.clientRefs, arena.store released)

/-- Gives the reference of one slot back. -/
def releaseSlot (arena : Arena) (ref : DataRef) : Except DataError Arena := do
  let object ← arena.get ref
  let released ← object.releaseSlot
  return arena.store released

def resetVirtuals (arena : Arena) : Arena := arena.map DataObject.reset

/-- Gives a virtual object its shape. -/
def resolve (arena : Arena) (ref : DataRef) (descriptor : Descriptor) : Except DataError Arena := do
  let object ← arena.get ref
  let resolved ← object.resolve descriptor
  return arena.set ref.id (some resolved)

def setPayload (arena : Arena) (id : DataId) (payload : Option Payload) : Arena :=
  arena.modify id fun object ↦ { object with payload }

end Arena

end ImageFlow
