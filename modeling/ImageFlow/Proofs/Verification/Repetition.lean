import ImageFlow.Proofs.Verification.Rollback

/-!
# Verifying a graph again

A verification that has passed leaves shapes, memory and a plan. Asking for it again finds the plan
and does nothing. A verification that drops the plan first starts by taking all that away, so it
finds the graph that the first one found, apart from what sound objects keep anyway, and ends the
same way: with the same report, the same plan and the same objects.
-/

namespace ImageFlow

namespace Graph

variable {graph : Graph}

/-- A settled graph without a plan is verified as if its plan had been dropped. -/
theorem Settled.verify_eq (h : graph.Settled) (hplan : graph.plan = none) :
    graph.verify = graph.verifyWith Stage.standard := by
  rw [verify_of_no_plan hplan, verifyWith, h.invalidate_eq hplan]

/-- What a verification by the standard stages comes to, if it is one that goes through them. -/
def StandardVerification (graph : Graph) (verified : VerificationResult) : Prop :=
  verified = graph.verifyWith Stage.standard ∨ graph.plan = none ∧ verified = graph.verify

theorem StandardVerification.eq {verified : VerificationResult}
    (h : graph.StandardVerification verified) (hsettled : graph.Settled) :
    verified = graph.verifyWith Stage.standard := by
  rcases h with h | ⟨hplan, h⟩
  · exact h
  · exact h.trans (hsettled.verify_eq hplan)

/-- Verification by the standard stages comes to the same if it is repeated. -/
theorem verifyWith_standard (hsound : graph.SoundObjects) :
    (graph.verifyWith Stage.standard).graph.verifyWith Stage.standard =
      graph.verifyWith Stage.standard := by
  have hagain := verifyWith_verifyWith (List.forall_mem_nil Stage.LeavesGraph) hsound
  rw [List.append_nil] at hagain
  exact hagain

end Graph

namespace Call

/-- Once a graph without a plan has been verified, verifying it again passes and does nothing at
all, and a verification by the standard stages that drops the plan first passes with the same report
and leaves the very same graph, with the same plan and the same shape of every object. -/
theorem reverified_applyAll (id : GraphId) (context : Context) (calls : List Call)
    {report : VerifyReport} (hplan : (applyAll (.empty id context) calls).plan = none)
    (hpassed : (applyAll (.empty id context) calls).verify.result = .ok report) :
    let first := (applyAll (.empty id context) calls).verify
    first.graph.verify = { result := .ok .empty, graph := first.graph, events := [] } ∧
      first.graph.verifyWith Stage.standard =
        { result := .ok report, graph := first.graph, events := first.events } ∧
      ∃ plan, first.graph.plan = some plan := by
  have hsound := soundObjects_applyAll id context calls
  have hsettled := settled_applyAll (settled_empty id context) calls
  generalize applyAll (.empty id context) calls = graph at *
  intro first
  have hfirst : first = graph.verifyWith Stage.standard := hsettled.verify_eq hplan
  have hresult : (graph.verifyWith Stage.standard).result = .ok report := hfirst ▸ hpassed
  have hsome : (graph.verifyWith Stage.standard).graph.plan.isSome = true :=
    (Graph.runStages_of_ok hresult).1
  have hstate : (graph.verifyWith Stage.standard).graph.state = .verified :=
    (Graph.runStages_of_ok hresult).2
  rw [hfirst]
  refine ⟨Graph.verify_of_plan hsome (by rw [hstate]; rfl), ?_, Option.isSome_iff_exists.1 hsome⟩
  calc (graph.verifyWith Stage.standard).graph.verifyWith Stage.standard
      = graph.verifyWith Stage.standard := Graph.verifyWith_standard hsound
    _ = { result := .ok report
          graph := (graph.verifyWith Stage.standard).graph
          events := (graph.verifyWith Stage.standard).events } := by rw [← hresult]

/-- Calls that let an image be copied, without a verification. -/
def copying : List Call := (Operation.copies.dropLast).map .operation

theorem reverified_copying :
    let graph := applyAll (.empty ⟨0⟩ Operation.plainContext) copying
    graph.plan = none ∧ ∃ report, graph.verify.result = .ok report ∧
      graph.verify.graph.verifyWith Stage.standard =
        { result := .ok report, graph := graph.verify.graph, events := graph.verify.events } := by
  intro graph
  have hplan : graph.plan = none := rfl
  have hok : graph.verify.result.isOk = true := by decide +kernel
  cases hresult : graph.verify.result with
  | error e =>
    rw [hresult] at hok
    cases hok
  | ok report =>
    exact ⟨hplan, report, rfl,
      (reverified_applyAll ⟨0⟩ Operation.plainContext copying hplan hresult).2.1⟩

end Call

end ImageFlow
