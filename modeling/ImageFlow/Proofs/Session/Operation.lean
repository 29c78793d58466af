import ImageFlow.Graph.Content
import ImageFlow.Graph.Execution
import ImageFlow.Graph.Verification

/-!
# What happens to a graph

An operation is one call of a client on a graph. A failed call leaves what it leaves, most often the
graph as it was. A session is a list of operations on a graph that was empty at first.

Kernels are functions here, and a kernel with a state of its own is none. Within one verification or
one run every kernel is asked each question once for each node, so such a kernel behaves like a
function there, but like another one the next time. Sessions may therefore exchange the functions of
a node's kernel at any point; the signature is fixed.

A verification by stages of a client's own is not a single operation: in the middle of it, the
stages do to the graph what they like. A move is an operation or a part of a verification, so that
such a verification is a list of moves.
-/

namespace ImageFlow

/-- A call of a client on a graph, or a change of a kernel's mind. -/
inductive Operation
  | create (descriptor : Descriptor)
  | createScalar (value : ScalarValue)
  | createVirtual
  | createVirtualImage (hint : ImageHint)
  | retain (ref : DataRef)
  | release (ref : DataRef)
  /-- Reading a payload, or any other look at the graph. -/
  | look
  | writeImage (ref : DataRef) (bytes : Bytes)
  | writeScalar (ref : DataRef) (value : ScalarValue)
  | writeArray (ref : DataRef) (items : List ScalarValue)
  | addNode (kernel : String) (refs : List DataRef)
  | addNodeWithKernel (kernel : RegisteredKernel) (refs : List DataRef)
  | removeNode (node : NodeId)
  | assignTarget (node : NodeId) (target : String)
  | clearTarget (node : NodeId)
  | setCallback (node : NodeId) (answer : Nat → NodeAction)
  | clearCallback (node : NodeId)
  | setOptions (options : RunOptions)
  /-- Verification by the standard stages, unless there is a plan. -/
  | verify
  /-- Verification by the standard stages, after dropping the plan. -/
  | verifyAgain
  | process (watch : Stopwatch)
  /-- A run under options given with it, which leaves the state of the graph alone. -/
  | execute (options : RunOptions) (watch : Stopwatch)
  /-- From now on the kernel of a node computes something else. -/
  | exchange (node : NodeId) (kernel : Kernel)

namespace Graph

variable {ε : Type}

/-- What a call that may fail leaves of a graph. -/
def settle (graph : Graph) : Except ε Graph → Graph
  | .ok changed => changed
  | .error _ => graph

/-- Gives a node other functions for its kernel, under the same signature. -/
def exchangeKernel (graph : Graph) (id : NodeId) (kernel : Kernel) : Graph :=
  graph.modifyNode id fun node ↦
    if kernel.signature = node.signature then
      { node with kernel := { node.kernel with kernel } }
    else node

end Graph

namespace Operation

/-- The graph after an operation. -/
def apply (graph : Graph) : Operation → Graph
  | create descriptor => graph.settle ((graph.create descriptor).map Prod.snd)
  | createScalar value => (graph.createScalar value).2
  | createVirtual => graph.createVirtual.2
  | createVirtualImage hint => graph.settle ((graph.createVirtualImage hint).map Prod.snd)
  | retain ref => graph.settle ((graph.retain ref).map Prod.snd)
  | release ref => graph.settle ((graph.release ref).map Prod.snd)
  | look => graph
  | writeImage ref bytes => graph.settle (graph.writeImage ref bytes)
  | writeScalar ref value => graph.settle (graph.writeScalar ref value)
  | writeArray ref items => graph.settle (graph.writeArray ref items)
  | addNode kernel refs => graph.settle ((graph.addNode kernel refs).map Prod.snd)
  | addNodeWithKernel kernel refs =>
    graph.settle ((graph.addNodeWithKernel kernel refs).map Prod.snd)
  | removeNode node => graph.settle (graph.removeNode node)
  | assignTarget node target => graph.settle (graph.assignTarget node target)
  | clearTarget node => graph.settle (graph.clearTarget node)
  | setCallback node answer => graph.settle (graph.setCallback node answer)
  | clearCallback node => graph.settle (graph.clearCallback node)
  | setOptions options => graph.setOptions options
  | verify => graph.verify.graph
  | verifyAgain => (graph.verifyWith Stage.standard).graph
  | process watch => (graph.process watch).graph
  | execute options watch => (graph.execute options watch).graph
  | exchange node kernel => graph.exchangeKernel node kernel

/-- The graph after a list of operations. -/
def applyAll (graph : Graph) (operations : List Operation) : Graph := operations.foldl apply graph

/-- The graph that a session leaves. -/
def session (id : GraphId) (context : Context) (operations : List Operation) : Graph :=
  applyAll (.empty id context) operations

/-- Whether an operation gives a client one more reference to an object. -/
def retains (graph : Graph) (data : DataId) : Operation → Bool
  | retain ref => ref.id == data && (graph.retain ref).isOk
  | _ => false

/-- Whether an operation takes a reference to an object away from the clients. -/
def releases (graph : Graph) (data : DataId) : Operation → Bool
  | release ref => ref.id == data && (graph.release ref).isOk
  | _ => false

end Operation

/-- An operation, or a part of a verification. -/
inductive Move
  | operation (call : Operation)
  /-- A verification by given stages begins. -/
  | begin
  /-- A standard stage runs, with what was made of the plan so far. -/
  | stage (stage : Stage) (standard : stage ∈ Stage.standard) (plan : Plan) (events : List Event)
  /-- All stages have passed. -/
  | install (plan : Plan)
  /-- A stage has failed. -/
  | abort

namespace Move

/-- The graph after a move. -/
def apply (graph : Graph) : Move → Graph
  | .operation call => call.apply graph
  | .begin => graph.invalidate
  | .stage part _ plan events => (part.run.run { graph, plan, events }).2.graph
  | .install made => graph.installPlan made
  | .abort => graph.abortVerification

/-- The graph after a list of moves. -/
def applyAll (graph : Graph) (moves : List Move) : Graph := moves.foldl apply graph

/-- Whether a move gives a client one more reference to an object. -/
def retains (graph : Graph) (data : DataId) : Move → Bool
  | .operation call => call.retains graph data
  | _ => false

/-- Whether a move takes a reference to an object away from the clients. -/
def releases (graph : Graph) (data : DataId) : Move → Bool
  | .operation call => call.releases graph data
  | _ => false

/-- Number of moves of a list that meet a condition on the graph as they find it. -/
def count (meets : Graph → Move → Bool) (graph : Graph) : List Move → Nat
  | [] => 0
  | move :: rest => (if meets graph move then 1 else 0) + count meets (move.apply graph) rest

end Move

/-- A stage that changes the graph by moves only, such as the stages that clients can write. -/
def Stage.MovesOnly (stage : Stage) : Prop :=
  ∀ draft, ∃ moves, (stage.run.run draft).2.graph = Move.applyAll draft.graph moves

end ImageFlow
