import ImageFlow.Plan.Dispatch
import ImageFlow.Platform.Target

/-!
# Settings

What a configuration can set: the options of runs, and the policy that assigns targets. Every
setting has a default.
-/

namespace ImageFlow

/-- Configured defaults for execution and scheduling. -/
structure Settings where
  options : RunOptions
  policy : TargetPolicy
  deriving DecidableEq, Repr

/-- The settings of an empty configuration. -/
def Settings.standard : Settings := { options := .standard, policy := .lowestIndex }

end ImageFlow
