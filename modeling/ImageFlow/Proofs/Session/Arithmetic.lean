import ImageFlow.Proofs.Kernels.Pixelwise
import ImageFlow.Proofs.Session.Fitting
import ImageFlow.Proofs.Session.InsertionOrder
import ImageFlow.Proofs.Verification.Repetition

/-!
# Arithmetic in verified graphs

Once a graph has been verified, its arithmetic kernels have accepted the shapes of their slots,
whatever other kernels the graph has. Run on any memory with payloads of these shapes, they compute
every pixel exactly. In particular a sum that wraps can be undone.
-/

namespace ImageFlow

namespace Graph

/-- A node of a verified graph is shown slots that fit, on which its kernel has been checked. -/
theorem StandardVerification.exists_fits {graph : Graph} {verified : VerificationResult}
    {report : VerifyReport} {node : Node} {memory : Memory}
    (h : graph.StandardVerification verified) (hsettled : graph.Settled)
    (hbalanced : graph.ledger.Balanced) (hsound : graph.SoundObjects)
    (hpassed : verified.result = .ok report) (hnode : node ∈ verified.graph.nodes)
    (hmemory : verified.graph.Supplies memory node) :
    ∃ shape, node.kernel.kernel.Accepts shape ∧ (node.access memory).Fits shape := by
  cases h.eq hsettled
  have hbalanced' : graph.invalidate.ledger.Balanced := hbalanced
  obtain ⟨shape, hshaped, haccepts⟩ :=
    exists_shaped_of_runStages hbalanced' hsound hpassed hnode
  exact ⟨shape, haccepts, hshaped.fits_of_supplies hmemory⟩

end Graph

namespace Call

open Kernels

variable {verified : VerificationResult} {report : VerifyReport} {node : Node} {memory : Memory}

/-- In a verified graph, sums, differences and distances are exact in every pixel: a policy says how
a sum or a difference is brought into the format of the output, and a distance is clamped to it. If
a sum wraps, and the difference of the sum and the second image wraps as well, all in one format,
then the first image comes back. -/
theorem exact_arithmetic (id : GraphId) (context : Context) (calls : List Call)
    (hverified : (applyAll (.empty id context) calls).StandardVerification verified)
    (hpassed : verified.result = .ok report) (hnode : node ∈ verified.graph.nodes)
    (hmemory : verified.graph.Supplies memory node) :
    let access := node.access memory
    (∀ policy : ConvertPolicy, access.scalar 2 = .ok policy.toValue →
      (node.kernel.kernel = add → ∃ a b c, Blends add access 3
        (fun format x y z ↦ policy.Gives format (x + y) z) a b c) ∧
      (node.kernel.kernel = subtract → ∃ a b c, Blends subtract access 3
        (fun format x y z ↦ policy.Gives format (x - y) z) a b c)) ∧
    (node.kernel.kernel = absDiff → ∃ a b c, Blends absDiff access 2
      (fun format x y z ↦ z = min |x - y| format.maxSample) a b c) ∧
    (node.kernel.kernel = add → ∀ other ∈ verified.graph.nodes,
      other.kernel.kernel = subtract → ∀ memory', verified.graph.Supplies memory' other →
        ∀ format, RoundTrip access (other.access memory') format →
          ∃ a, access.held 0 = some (.image a) ∧
            (subtract.execute.run (other.access memory')).2.held 3 = some (.image a)) := by
  intro access
  have hfits {other : Node} {memory' : Memory} (hother : other ∈ verified.graph.nodes)
      (hmemory' : verified.graph.Supplies memory' other) :
      ∃ shape, other.kernel.kernel.Accepts shape ∧ (other.access memory').Fits shape :=
    hverified.exists_fits (settled_applyAll (settled_empty id context) calls)
      (balanced_applyAll id context calls) (soundObjects_applyAll id context calls) hpassed hother
      hmemory'
  obtain ⟨shape, haccepts, hshown⟩ := hfits hnode hmemory
  refine ⟨fun policy hpolicy ↦ ⟨fun hkernel ↦ ?_, fun hkernel ↦ ?_⟩, fun hkernel ↦ ?_,
    fun hkernel other hother hsubtract memory' hmemory' format htrip ↦ ?_⟩
  · rw [hkernel] at haccepts
    exact exists_blends_policyKernel haccepts hshown hpolicy
  · rw [hkernel] at haccepts
    exact exists_blends_policyKernel haccepts hshown hpolicy
  · rw [hkernel] at haccepts
    exact exists_blends_absDiff haccepts hshown
  · obtain ⟨shape', haccepts', hshown'⟩ := hfits hother hmemory'
    rw [hkernel] at haccepts
    rw [hsubtract] at haccepts'
    obtain ⟨a, b, c, hsum⟩ := exists_blends_policyKernel haccepts hshown htrip.wraps
    obtain ⟨a', b', d, hdifference⟩ := exists_blends_policyKernel haccepts' hshown' htrip.wraps'
    exact ⟨a, hsum.first, htrip.eq hsum hdifference ▸ hdifference.left⟩

/-- Calls that add two images and subtract the second one again; sums and differences wrap. -/
def blending : List Call :=
  let ref (data : Nat) : DataRef := { graph := ⟨0⟩, id := ⟨data⟩ }
  let bind (kernel : Kernel) (refs : List DataRef) : Call :=
    .operation (.addNodeWithKernel { id := ⟨0⟩, kernel } refs)
  [.operation (.create (.image 2 1 .u8)), .operation (.create (.image 2 1 .u8)),
    .operation (.createScalar ConvertPolicy.wrap.toValue), .operation .createVirtual,
    .operation .createVirtual, bind add [ref 0, ref 1, ref 2, ref 3],
    bind subtract [ref 3, ref 1, ref 2, ref 4]]

/-- An image of two pixels. -/
def pair (first second : UInt8) : Payload :=
  .image { width := 2, height := 1, format := .u8, data := .ofArray #[first, second] }

/-- Memory in which the first image holds 200 and 7 and the second one 100 and 9. -/
def blendingMemory : Memory := fun data ↦
  match data.index with
  | 0 => pair 200 7
  | 1 => pair 100 9
  | 2 => some (.scalar ConvertPolicy.wrap.toValue)
  | _ => pair 0 0

/-- The node that adds. -/
def adding : Node :=
  .fresh ⟨0⟩ { id := ⟨0⟩, kernel := add }
    ([0, 1, 2, 3].map fun data ↦ { graph := ⟨0⟩, id := ⟨data⟩ })

/-- The node that subtracts. -/
def subtracting : Node :=
  .fresh ⟨1⟩ { id := ⟨0⟩, kernel := subtract }
    ([3, 1, 2, 4].map fun data ↦ { graph := ⟨0⟩, id := ⟨data⟩ })

theorem nodes_blending : (applyAll (.empty ⟨0⟩ Operation.plainContext) blending).nodes =
    [adding, subtracting] := rfl

/-- The sum of 200 and 100 is 44 modulo 256, from which the difference gets 200 back. -/
theorem exact_arithmetic_blending :
    let start := applyAll (.empty ⟨0⟩ Operation.plainContext) blending
    adding ∈ start.verify.graph.nodes ∧ subtracting ∈ start.verify.graph.nodes ∧
      (∃ a b c, Blends add (adding.access blendingMemory) 3
        (fun format x y z ↦ ConvertPolicy.wrap.Gives format (x + y) z) a b c) ∧
      adding.leave blendingMemory ⟨3⟩ = some (pair 44 16) ∧
      ∃ a, (adding.access blendingMemory).held 0 = some (.image a) ∧
        (subtract.execute.run (subtracting.access (adding.leave blendingMemory))).2.held 3 =
          some (.image a) := by
  intro start
  have hplan : start.plan = none := rfl
  have hok : start.verify.result.isOk = true := by decide +kernel
  obtain ⟨report, hpassed⟩ := exists_of_isOk hok
  have hnodes : start.verify.graph.nodes = [adding, subtracting] :=
    (Graph.nodes_verify start).trans nodes_blending
  have hfirst : adding ∈ start.verify.graph.nodes := by
    rw [hnodes]
    exact .head _
  have hsecond : subtracting ∈ start.verify.graph.nodes := by
    rw [hnodes]
    exact .tail _ (.head _)
  have hverified : start.StandardVerification start.verify := .inr ⟨hplan, rfl⟩
  have hmemory : start.verify.graph.Supplies blendingMemory adding := by decide +kernel
  have hleft : start.verify.graph.Supplies (adding.leave blendingMemory) subtracting := by
    decide +kernel
  have htrip : RoundTrip (adding.access blendingMemory)
      (subtracting.access (adding.leave blendingMemory)) .u8 :=
    { wraps := rfl
      wraps' := by decide +kernel
      formats := by decide +kernel
      formats' := by decide +kernel
      sum := by decide +kernel
      same := by decide +kernel }
  obtain ⟨hblends, -, hback⟩ :=
    exact_arithmetic ⟨0⟩ Operation.plainContext blending hverified hpassed hfirst hmemory
  exact ⟨hfirst, hsecond, (hblends .wrap rfl).1 rfl, by decide +kernel,
    hback rfl subtracting hsecond rfl _ hleft .u8 htrip⟩

end Call

end ImageFlow
