import ImageFlow.Graph.Dependencies
import ImageFlow.Graph.Edit

/-!
# Verification

A verification takes a graph through a list of stages. A stage may change the graph, adds to the
plan that is being made, and either has warnings or ends the verification with an error. If all
stages pass, the plan is installed; otherwise all virtual objects are reset and the graph has no
plan.

There are four standard stages. The first gives virtual objects their shapes, the second checks
every slot against its object, the third finds the order of execution, the last assigns targets,
allocates memory and lets kernels prepare themselves.
-/

namespace ImageFlow

/-- A verification under way. -/
structure Draft where
  graph : Graph
  /-- The plan as far as it is made. -/
  plan : Plan
  /-- The calls of kernels so far. -/
  events : List Event

/-- A part of a verification. What it changed before an error stays changed. -/
abbrev Verification (α : Type) := ExceptT (Stop VerifyError) (StateM Draft) α

/-- A named part of a verification, with its warnings. -/
structure Stage where
  name : String
  run : Verification (List VerifyWarning)

/-- A verification that has ended. -/
structure VerificationResult where
  result : Except (Stop VerifyError) VerifyReport
  graph : Graph
  events : List Event

namespace Verification

def emit (event : Event) : Verification Unit :=
  modify fun draft ↦ { draft with events := draft.events ++ [event] }

def fail {α : Type} (error : VerifyError) : Verification α := throw (.failed error)

/-- Ends the verification if something has gone wrong. -/
def require (result : Except VerifyError Unit) : Verification Unit :=
  ExceptT.mk (pure (Stop.ofResult result))

def graph : Verification Graph := return (← get).graph

def modifyPlan (f : Plan → Plan) : Verification Unit :=
  modify fun draft ↦ { draft with plan := f draft.plan }

def setArena (arena : Arena) : Verification Unit :=
  modify fun draft ↦ { draft with graph := { draft.graph with arena } }

/-! ## What kernels are shown -/

/-- The value of a scalar that is known before the run: one that was made concrete and is only
read or both read and written. -/
def knownValue? (graph : Graph) (binding : Binding) : Option ScalarValue :=
  match graph.arena.get binding.ref with
  | .error _ => none
  | .ok object =>
    if binding.direction.reads && !object.isVirtual then object.payload.bind Payload.scalar?
    else none

/-- A node as its kernel sees it. -/
def inspect (graph : Graph) (node : Node) : Inspection :=
  { node := node.id
    signature := node.signature
    descriptors := node.bindings.map fun binding ↦ graph.descriptorOf? binding.ref
    values := node.bindings.map (knownValue? graph) }

/-! ## Giving virtual objects their shapes -/

/-- Whether the shapes of all objects that a node reads are known. -/
def isReady (graph : Graph) (node : Node) : Bool :=
  (node.bindings.filter (·.direction.reads)).all fun binding ↦
    (graph.descriptorOf? binding.ref).isSome

/-- A virtual output of which neither the kernel nor the hint knows the shape. -/
def cannotInfer (node : Node) (binding : Binding) : VerifyError :=
  .unresolvableVirtual binding.ref.id
    (node.kernelName ++ " cannot infer parameter " ++ binding.slot.repr ++ " of node " ++
      node.id.label)

/-- The shape for the object of one slot, if the slot is a pure output and the object lacks a shape.
The kernel is asked first; where it does not know, a complete hint decides. -/
def inferSlot (node : Node) (view : Inspection) (binding : Binding) :
    Verification (Option (DataRef × Descriptor)) := do
  if binding.direction ≠ .output then
    return none
  match (← graph).arena.get binding.ref with
  | .error e => fail (.ofDataError e)
  | .ok object =>
    if !object.isVirtual || object.descriptor?.isSome then
      return none
    emit (node.kernel.kernel.event node.id (.infer binding.slot view))
    match node.kernel.kernel.infer binding.slot view <|> object.hint.bind ImageHint.complete? with
    | some descriptor => return some (binding.ref, descriptor)
    | none => fail (cannotInfer node binding)

/-- The shapes for all slots of a node that need one. -/
def inferSlots (node : Node) (view : Inspection) :
    List Binding → Verification (List (DataRef × Descriptor))
  | [] => return []
  | binding :: rest => do
    let first ← inferSlot node view binding
    let others ← inferSlots node view rest
    return first.toList ++ others

/-- An object that did not take the shape inferred for it. -/
def resolveError (ref : DataRef) : DataError → VerifyError
  | .invalidFormat reason => .invalidData ref.id reason
  | error => .ofDataError error

/-- Gives objects their shapes. -/
def resolveAll : List (DataRef × Descriptor) → Verification Unit
  | [] => return ()
  | (ref, descriptor) :: rest => do
    match (← graph).arena.resolve ref descriptor with
    | .error e => fail (resolveError ref e)
    | .ok arena => setArena arena
    resolveAll rest

/-- Visits nodes in turn and resolves the outputs of those that are ready; the nodes that are not.
-/
def resolvePass : List NodeId → Verification (List NodeId)
  | [] => return []
  | id :: rest => do
    let now ← graph
    match now.node? id with
    | none => return id :: (← resolvePass rest)
    | some node =>
      if isReady now node then
        resolveAll (← inferSlots node (inspect now node) node.bindings)
        resolvePass rest
      else
        return id :: (← resolvePass rest)

/-- Passes over the nodes that are left until a pass resolves nothing, at most `passes` times. -/
def resolvePasses : Nat → List NodeId → Verification Unit
  | 0, _ => return ()
  | passes + 1, left => do
    let still ← resolvePass left
    if still.length < left.length then resolvePasses passes still else return ()

/-- The virtual objects without a shape. -/
def unresolved (graph : Graph) : List DataObject :=
  graph.arena.objects.filter fun object ↦ object.isVirtual && object.descriptor?.isNone

/-- Why a virtual object that is bound to some node has no shape. -/
def stuckError (graph : Graph) (data : DataId) : VerifyError :=
  if (graph.writers data).isEmpty then
    .unresolvableVirtual data "no node produces it"
  else
    match graph.topologicalOrder with
    | .error (.cyclicGraph nodes) => .cyclicGraph nodes
    | _ => .unresolvableVirtual data "its producer never receives all inputs"

/-- A virtual object that no node uses. -/
def unboundWarning (object : DataObject) : VerifyWarning :=
  { message := "virtual " ++ object.id.label ++ " is not bound to any node", node := none }

/-- Gives every virtual object that a node uses its shape, starting afresh. -/
def resolveVirtuals : Verification (List VerifyWarning) := do
  setArena (← graph).arena.resetVirtuals
  let ids := (← graph).nodeIds
  resolvePasses (ids.length + 1) ids
  let shapeless := unresolved (← graph)
  match shapeless.find? fun object ↦ !object.constraints.isEmpty with
  | some object => fail (stuckError (← graph) object.id)
  | none => return shapeless.map unboundWarning

/-! ## Checking slots -/

/-- The first slot of a node whose object it does not take. -/
def checkSlots (graph : Graph) (node : Node) :
    List (Binding × Parameter) → Except VerifyError Unit
  | [] => .ok ()
  | (binding, parameter) :: rest =>
    match graph.descriptorOf? binding.ref with
    | none =>
      .error (.unresolvableVirtual binding.ref.id "unresolved when parameters were checked")
    | some descriptor =>
      if parameter.constraint.accepts descriptor then checkSlots graph node rest
      else .error (.parameterTypeMismatch node.id binding.slot parameter.constraint descriptor)

/-- Checks the slots of each node, then lets its kernel check them together. -/
def checkNodes : List Node → Verification Unit
  | [] => return ()
  | node :: rest => do
    let now ← graph
    require (checkSlots now node (node.bindings.zip node.signature.parameters))
    let view := inspect now node
    emit (node.kernel.kernel.event node.id (.validate view))
    match node.kernel.kernel.validate view with
    | .error e => fail (.invalidParameters node.id node.kernelName e.message)
    | .ok () => checkNodes rest

/-- Checks all nodes in the order in which they were added. -/
def checkParameters : Verification (List VerifyWarning) := do
  checkNodes (← graph).nodes
  return []

/-! ## Finding the order -/

/-- Every object may have one writer at most; then the order and its levels enter the plan. -/
def checkTopology : Verification (List VerifyWarning) := do
  let now ← graph
  require now.checkSingleWriter
  match now.topologicalOrder with
  | .error e => fail e
  | .ok order => modifyPlan ({ · with order, levels := now.levels order })
  if now.nodes.isEmpty then return [{ message := "graph has no nodes", node := none }]
  else return []

/-! ## Planning -/

/-- Enters the target of each node: the one it was assigned to, or the one the policy chooses. -/
def assignTargets : List NodeId → Verification Unit
  | [] => return ()
  | id :: rest => do
    let now ← graph
    match now.node? id with
    | none => assignTargets rest
    | some node =>
      match node.affinity <|> now.context.assign node.kernelName with
      | none => fail (.noTarget id node.kernelName)
      | some target =>
        modifyPlan fun plan ↦ { plan with targets := setEntry id target plan.targets }
        assignTargets rest

/-- First and last position at which the objects of nodes are used, by object. -/
def lifetimes (graph : Graph) (order : List NodeId) : List (DataId × Nat × Nat) :=
  let uses := order.zipIdx.flatMap fun (id, position) ↦
    match graph.node? id with
    | some node => node.refs.map fun ref ↦ (ref.id, position)
    | none => []
  uses.foldl (fun spans (data, position) ↦
    Ordered.alter data (fun span ↦ ((span.map Prod.fst).getD position, position)) spans) []

/-- Allocates the memory of each object and enters it. -/
def planObjects : List (DataId × Nat × Nat) → Verification Unit
  | [] => return ()
  | (data, firstUse, lastUse) :: rest => do
    let arena := (← graph).arena
    match arena.byId? data with
    | none => planObjects rest
    | some object =>
      match object.allocate with
      | .error .crash => throw .crash
      | .error (.failed e) => fail (.ofDataError e)
      | .ok (allocated, fresh) =>
        setArena (arena.set data (some allocated))
        let bytes := (allocated.descriptor?.map Descriptor.byteSize).getD 0
        modifyPlan fun plan ↦
          let memory : MemoryPlan :=
            { entries := plan.memory.entries ++ [{ data, bytes, firstUse, lastUse }]
              totalBytes := plan.memory.totalBytes + bytes
              allocatedBytes := plan.memory.allocatedBytes + fresh }
          { plan with memory }
        planObjects rest

/-- Bytes that a node reads and writes: the sizes of the objects in its slots that have a size. -/
def bandwidthOf (sizes : List (DataId × Nat)) (node : Node) : Nat :=
  (node.refs.filterMap fun ref ↦ Ordered.find? ref.id sizes).foldr (· + ·) 0

/-- Allocates the memory of all objects that the order uses, and enters the bandwidths. -/
def planMemory : Verification Unit := do
  let now ← graph
  let spans := lifetimes now (← get).plan.order
  planObjects spans
  let sizes := spans.filterMap fun (data, _) ↦
    (now.arena.byId? data).map fun object ↦
      (data, (object.descriptor?.map Descriptor.byteSize).getD 0)
  modifyPlan fun plan ↦
    let bandwidth := now.nodes.foldl
      (fun entries node ↦ setEntry node.id (bandwidthOf sizes node) entries) plan.bandwidth
    { plan with bandwidth }

/-- Lets the kernels of nodes prepare themselves. -/
def prepareNodes : List NodeId → Verification Unit
  | [] => return ()
  | id :: rest => do
    let now ← graph
    match now.node? id with
    | none => prepareNodes rest
    | some node =>
      let view := inspect now node
      emit (node.kernel.kernel.event id (.prepare view))
      match node.kernel.kernel.prepare view with
      | .error e => fail (.preparationFailed id node.kernelName e.message)
      | .ok () => prepareNodes rest

/-- Targets, memory and preparation, in this order. -/
def makePlan : Verification (List VerifyWarning) := do
  let order := (← get).plan.order
  assignTargets order
  planMemory
  prepareNodes order
  return []

end Verification

/-! ## Stages -/

namespace Stage

def resolve : Stage := { name := "Resolve Virtuals", run := Verification.resolveVirtuals }

def parameters : Stage := { name := "Parameter Check", run := Verification.checkParameters }

def topology : Stage := { name := "Topology Check", run := Verification.checkTopology }

def planning : Stage := { name := "Planning", run := Verification.makePlan }

/-- The stages of an ordinary verification. -/
def standard : List Stage := [resolve, parameters, topology, planning]

/-- Runs stages one after the other; a stage enters the report when it has passed. -/
def runAll (report : VerifyReport) : List Stage → Verification VerifyReport
  | [] => return report
  | stage :: rest => do
    let warnings ← stage.run
    runAll { stages := report.stages ++ [stage.name], warnings := report.warnings ++ warnings } rest

end Stage

namespace Graph

/-- Takes the traces of a verification out of a graph. -/
def abortVerification (graph : Graph) : Graph :=
  { graph with arena := graph.arena.resetVirtuals }.invalidate

def installPlan (graph : Graph) (plan : Plan) : Graph :=
  { graph with plan := some plan, state := .verified }

/-- Takes a graph through stages. -/
def runStages (graph : Graph) (stages : List Stage) : VerificationResult :=
  let (result, draft) := (Stage.runAll .empty stages).run { graph, plan := .empty, events := [] }
  match result with
  | .ok report =>
    { result := .ok report, graph := draft.graph.installPlan draft.plan, events := draft.events }
  | .error e =>
    { result := .error e, graph := draft.graph.abortVerification, events := draft.events }

/-- Verifies a graph by the standard stages, unless it has a plan already. -/
def verify (graph : Graph) : VerificationResult :=
  if graph.plan.isSome && graph.state.hasPlan then
    { result := .ok .empty, graph, events := [] }
  else
    graph.runStages Stage.standard

/-- Verifies a graph by given stages, after dropping its plan. -/
def verifyWith (graph : Graph) (stages : List Stage) : VerificationResult :=
  graph.invalidate.runStages stages

end Graph

end ImageFlow
