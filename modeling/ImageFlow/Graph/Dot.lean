import ImageFlow.Graph.Dependencies

/-!
# Graphs as drawings

The text of a graph in the language of a common graph drawing program. Nodes carry the names of
their kernels. Either edges join the nodes that depend on each other, or the data objects are drawn
as boxes and edges follow the data.
-/

namespace ImageFlow.Graph

/-- One line of the drawing. -/
def dotLine (text : String) : String := "  " ++ text ++ ";\n"

def dotEdge (source target : String) : String := dotLine (source ++ " -> " ++ target)

def dotNode (node : Node) : String :=
  dotLine (node.id.label ++ " [label=\"" ++ node.id.label ++ "\\n" ++ node.kernelName ++ "\"]")

def dotObject (object : DataObject) : String :=
  let shape := (object.descriptor?.map Descriptor.label).getD "virtual"
  dotLine (object.id.label ++ " [shape=box label=\"" ++ object.id.label ++ "\\n" ++ shape ++ "\"]")

/-- The lines of a slot: data flow into the node, out of it, or both. -/
def dotBinding (node : Node) (binding : Binding) : String :=
  (if binding.direction.reads then dotEdge binding.ref.id.label node.id.label else "") ++
    (if binding.direction.writes then dotEdge node.id.label binding.ref.id.label else "")

/-- The drawing of a graph, with or without its data objects. -/
def dot (graph : Graph) (showData : Bool) : String :=
  let body :=
    if showData then
      graph.arena.objects.map dotObject ++
        graph.nodes.flatMap fun node ↦ node.bindings.map (dotBinding node)
    else
      graph.edges.map fun edge ↦ dotEdge edge.source.label edge.target.label
  "digraph \x7b\n" ++ String.join (graph.nodes.map dotNode ++ body) ++ "\x7d\n"

end ImageFlow.Graph
