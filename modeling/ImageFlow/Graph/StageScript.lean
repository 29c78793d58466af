import ImageFlow.Graph.Verification

/-!
# Scripted stages

A stage of verification can be given as data: it either rejects the graph, or it edits the graph and
the plan in fixed ways and has fixed warnings.
-/

namespace ImageFlow

/-- A stage given as data. -/
structure StageScript where
  name : String
  /-- The error with which the stage ends the verification. -/
  rejection : Option VerifyError
  /-- A node to remove from the graph; it need not be there. -/
  removal : Option NodeId
  /-- An order to put into the plan. -/
  order : Option (List NodeId)
  /-- Levels to put into the plan. -/
  levels : Option (List (List NodeId))
  warnings : List VerifyWarning

namespace StageScript

/-- The graph after the removal that a script asks for. -/
def edit (script : StageScript) (graph : Graph) : Graph :=
  match script.removal with
  | none => graph
  | some node =>
    match graph.removeNode node with
    | .ok edited => edited
    | .error _ => graph

/-- The plan after the replacements that a script asks for. -/
def replan (script : StageScript) (plan : Plan) : Plan :=
  { plan with
    order := script.order.getD plan.order
    levels := script.levels.getD plan.levels }

/-- The stage that follows a script. -/
def toStage (script : StageScript) : Stage :=
  { name := script.name
    run := do
      match script.rejection with
      | some e => throw (.failed e)
      | none =>
        modify fun draft ↦
          { draft with graph := script.edit draft.graph, plan := script.replan draft.plan }
        return script.warnings }

end StageScript

end ImageFlow
