import ImageFlow.Document.Graph
import ImageFlow.Document.Script
import ImageFlow.Graph.Content
import ImageFlow.Graph.Dot
import ImageFlow.Graph.Execution
import ImageFlow.Graph.StageScript
import ImageFlow.Kernels.Standard
import ImageFlow.Proofs.Books.Accurate
import ImageFlow.Proofs.Books.Bindings
import ImageFlow.Proofs.Books.Bookkeeping
import ImageFlow.Proofs.Books.Edit
import ImageFlow.Proofs.Books.Entries
import ImageFlow.Proofs.Books.Ledger
import ImageFlow.Proofs.Counters
import ImageFlow.Proofs.Cycle
import ImageFlow.Proofs.Data.Arena
import ImageFlow.Proofs.Data.Pixels
import ImageFlow.Proofs.Data.Revision
import ImageFlow.Proofs.Data.Stored
import ImageFlow.Proofs.Drawing
import ImageFlow.Proofs.Execution.Attempts
import ImageFlow.Proofs.Execution.Confirmation
import ImageFlow.Proofs.Execution.Containment
import ImageFlow.Proofs.Execution.Dataflow
import ImageFlow.Proofs.Execution.Dispatch
import ImageFlow.Proofs.Execution.Failure
import ImageFlow.Proofs.Execution.KnownValues
import ImageFlow.Proofs.Execution.Locks
import ImageFlow.Proofs.Execution.Outcomes
import ImageFlow.Proofs.Execution.Reordering
import ImageFlow.Proofs.Execution.Replay
import ImageFlow.Proofs.Execution.Run
import ImageFlow.Proofs.Execution.Scheduling
import ImageFlow.Proofs.Execution.Settled
import ImageFlow.Proofs.Execution.StandardRuns
import ImageFlow.Proofs.Kernels.Checking
import ImageFlow.Proofs.Kernels.Inference
import ImageFlow.Proofs.Kernels.Oblivious
import ImageFlow.Proofs.Kernels.Reliable
import ImageFlow.Proofs.Kernels.Repeating
import ImageFlow.Proofs.Kernels.Slots
import ImageFlow.Proofs.Ordered
import ImageFlow.Proofs.Platform.Hosting
import ImageFlow.Proofs.Platform.Registrations
import ImageFlow.Proofs.Precedence
import ImageFlow.Proofs.Precedence.Components
import ImageFlow.Proofs.Precedence.Depth
import ImageFlow.Proofs.Precedence.LeastOrder
import ImageFlow.Proofs.Session.Arithmetic
import ImageFlow.Proofs.Session.Change
import ImageFlow.Proofs.Session.Compatible
import ImageFlow.Proofs.Session.Counting
import ImageFlow.Proofs.Session.Creation
import ImageFlow.Proofs.Session.Dependencies
import ImageFlow.Proofs.Session.Fitting
import ImageFlow.Proofs.Session.Handles
import ImageFlow.Proofs.Session.Hosts
import ImageFlow.Proofs.Session.InsertionOrder
import ImageFlow.Proofs.Session.Lifecycle
import ImageFlow.Proofs.Session.Operation
import ImageFlow.Proofs.Session.Seats
import ImageFlow.Proofs.Session.Suited
import ImageFlow.Proofs.Session.Undo
import ImageFlow.Proofs.Session.World
import ImageFlow.Proofs.Verification.Blame
import ImageFlow.Proofs.Verification.Criterion
import ImageFlow.Proofs.Verification.CustomStages
import ImageFlow.Proofs.Verification.Defects
import ImageFlow.Proofs.Verification.Frame
import ImageFlow.Proofs.Verification.Hints
import ImageFlow.Proofs.Verification.Inference
import ImageFlow.Proofs.Verification.Lifetimes
import ImageFlow.Proofs.Verification.MemoryPlan
import ImageFlow.Proofs.Verification.Passes
import ImageFlow.Proofs.Verification.PlanValidity
import ImageFlow.Proofs.Verification.Planned
import ImageFlow.Proofs.Verification.Progress
import ImageFlow.Proofs.Verification.Reordering
import ImageFlow.Proofs.Verification.Repetition
import ImageFlow.Proofs.Verification.Resolution
import ImageFlow.Proofs.Verification.Rollback
import ImageFlow.Proofs.Verification.Shapes
import ImageFlow.Proofs.Verification.Stages
import ImageFlow.Proofs.Verification.Targets
import ImageFlow.Proofs.Verification.Views
import ImageFlow.Proofs.Verification.Visits
import ImageFlow.Toml.Configuration
