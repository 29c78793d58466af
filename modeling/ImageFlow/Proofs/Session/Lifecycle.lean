import ImageFlow.Graph.StageScript
import ImageFlow.Proofs.Books.Bookkeeping

/-!
# The life of a graph

A graph has a plan or it has none, and its state says which. Only three things take a plan away:
a successful edit of nodes or targets, the beginning of a verification by given stages, and a
verification that fails. In particular a run keeps the plan whatever comes of it, a verification of
a graph that has a plan does nothing, and as long as stages do not verify the graph themselves there
is no plan until all of them have passed.

A call of a client is an operation or a verification by stages of the client's own, in the middle of
which the graph may be edited in any way that clients can edit it.
-/

namespace ImageFlow

/-! ## Calls -/

/-- A call of a client on a graph. Stages that are not standard ones do to the graph what clients
can do, and to the plan what they like. -/
inductive Call
  | operation (operation : Operation)
  | verifyWith (stages : List Stage)
    (moves : ∀ stage ∈ stages, stage ∈ Stage.standard ∨ stage.MovesOnly)

/-- Whether an operation edits nodes or their targets, and succeeds. -/
def Operation.edits (graph : Graph) : Operation → Bool
  | addNode kernel refs => (graph.addNode kernel refs).isOk
  | addNodeWithKernel kernel refs => (graph.addNodeWithKernel kernel refs).isOk
  | removeNode node => (graph.removeNode node).isOk
  | assignTarget node target => (graph.assignTarget node target).isOk
  | clearTarget node => (graph.clearTarget node).isOk
  | _ => false

/-- The verification that an operation comes to, if it is one. -/
def Operation.verification? (graph : Graph) : Operation → Option VerificationResult
  | verify => some graph.verify
  | verifyAgain => some (graph.verifyWith Stage.standard)
  | _ => none

namespace Call

/-- The graph after a call. -/
def apply (graph : Graph) : Call → Graph
  | operation call => call.apply graph
  | verifyWith stages _ => (graph.verifyWith stages).graph

/-- The graph after a list of calls. -/
def applyAll (graph : Graph) (calls : List Call) : Graph := calls.foldl apply graph

/-- Whether a call edits nodes or their targets, and succeeds. -/
def edits (graph : Graph) : Call → Bool
  | operation call => call.edits graph
  | verifyWith .. => false

/-- The verification that a call comes to, if it is one. -/
def verification? (graph : Graph) : Call → Option VerificationResult
  | operation call => call.verification? graph
  | verifyWith stages _ => some (graph.verifyWith stages)

/-- A call is a list of moves. -/
theorem exists_moves (graph : Graph) (call : Call) :
    ∃ moves, call.apply graph = Move.applyAll graph moves := by
  cases call with
  | operation call => exact ⟨[.operation call], rfl⟩
  | verifyWith stages hmoves => exact graph.exists_moves_of_verifyWith hmoves

theorem exists_moves_applyAll (graph : Graph) (calls : List Call) :
    ∃ moves, applyAll graph calls = Move.applyAll graph moves := by
  induction calls generalizing graph with
  | nil => exact ⟨[], rfl⟩
  | cons call rest ih =>
    obtain ⟨first, hfirst⟩ := call.exists_moves graph
    obtain ⟨others, hothers⟩ := ih (call.apply graph)
    refine ⟨first ++ others, ?_⟩
    rw [Move.applyAll_append, ← hfirst, ← hothers]
    rfl

/-- Books stay accurate whatever clients call. -/
theorem exists_accurate_applyAll (id : GraphId) (context : Context) (calls : List Call) :
    ∃ retains releases, (applyAll (.empty id context) calls).Accurate retains releases := by
  obtain ⟨moves, hmoves⟩ := exists_moves_applyAll (.empty id context) calls
  rw [hmoves]
  exact ⟨_, _, Move.accurate_applyAll (Graph.accurate_empty id context) moves⟩

theorem balanced_applyAll (id : GraphId) (context : Context) (calls : List Call) :
    (applyAll (.empty id context) calls).ledger.Balanced := by
  obtain ⟨_, _, haccurate⟩ := exists_accurate_applyAll id context calls
  exact haccurate.balanced

end Call

namespace Graph

variable {graph before after changed : Graph}

/-! ## What happens to state and plan -/

/-- State and plan are as they were. -/
structure SameLife (before after : Graph) : Prop where
  state_eq : after.state = before.state
  plan_eq : after.plan = before.plan

/-- There is no plan, and none is expected. -/
structure Dropped (graph : Graph) : Prop where
  state_eq : graph.state = .unverified
  plan_eq : graph.plan = none

/-- There is a plan exactly in the states that say so, and no run is under way. -/
structure Settled (graph : Graph) : Prop where
  not_running : graph.state ≠ .running
  plan_iff : graph.plan.isSome = true ↔
    graph.state = .verified ∨ graph.state = .completed ∨ graph.state = .failed

theorem SameLife.refl (graph : Graph) : graph.SameLife graph := ⟨rfl, rfl⟩

theorem dropped_invalidate (graph : Graph) : graph.invalidate.Dropped := ⟨rfl, rfl⟩

theorem Dropped.settled (h : graph.Dropped) : graph.Settled := by
  constructor
  · simp [h.state_eq]
  · simp [h.state_eq, h.plan_eq]

theorem SameLife.settled (h : before.SameLife after) (hsettled : before.Settled) :
    after.Settled := by
  constructor
  · rw [h.state_eq]
    exact hsettled.not_running
  · rw [h.state_eq, h.plan_eq]
    exact hsettled.plan_iff

/-- A graph without a plan that is settled looks as if its plan had just been dropped. -/
theorem Settled.invalidate_eq (h : graph.Settled) (hplan : graph.plan = none) :
    graph.invalidate = graph := by
  have hstate : graph.state = .unverified := by
    have hnot := h.not_running
    have hiff := h.plan_iff
    rw [hplan] at hiff
    cases hstate : graph.state <;> simp_all
  rw [invalidate, ← hstate, ← hplan]

theorem Settled.hasPlan (h : graph.Settled) (hplan : graph.plan.isSome = true) :
    graph.state.hasPlan = true := by
  rcases h.plan_iff.1 hplan with hstate | hstate | hstate <;> rw [hstate] <;> rfl

/-! ### Runs -/

theorem Ran.sameLife (h : before.Ran after) : before.SameLife after := by
  constructor <;> rw [h.frame]

theorem process_of_plan (hplan : graph.plan.isSome = true) (hstate : graph.state.hasPlan = true)
    (watch : Stopwatch) :
    (graph.process watch).graph.plan = graph.plan ∧
      ((graph.process watch).graph.state = .completed ∨
        (graph.process watch).graph.state = .failed) := by
  have hrun := (ran_execute { graph with state := .running } graph.runOptions watch).sameLife
  rw [process, if_pos (by rw [hplan, hstate]; rfl)]
  refine ⟨hrun.plan_eq, ?_⟩
  dsimp only
  split
  · exact .inl rfl
  · exact .inr rfl

/-! ### Verification -/

theorem dropped_abortVerification (graph : Graph) : graph.abortVerification.Dropped := ⟨rfl, rfl⟩

theorem runStages_of_error {stages : List Stage} {stop : Stop VerifyError}
    (h : (graph.runStages stages).result = .error stop) :
    (graph.runStages stages).graph.Dropped := by
  unfold runStages at h ⊢
  generalize (Stage.runAll .empty stages).run { graph, plan := .empty, events := [] } = ended
    at h ⊢
  obtain ⟨result, draft⟩ := ended
  cases result with
  | ok report => cases h
  | error e => exact dropped_abortVerification draft.graph

theorem runStages_of_ok {stages : List Stage} {report : VerifyReport}
    (h : (graph.runStages stages).result = .ok report) :
    (graph.runStages stages).graph.plan.isSome = true ∧
      (graph.runStages stages).graph.state = .verified := by
  unfold runStages at h ⊢
  generalize (Stage.runAll .empty stages).run { graph, plan := .empty, events := [] } = ended
    at h ⊢
  obtain ⟨result, draft⟩ := ended
  cases result with
  | ok report => exact ⟨rfl, rfl⟩
  | error e => cases h

theorem settled_runStages (graph : Graph) (stages : List Stage) :
    (graph.runStages stages).graph.Settled := by
  cases h : (graph.runStages stages).result with
  | error stop => exact (runStages_of_error h).settled
  | ok report =>
    obtain ⟨hplan, hstate⟩ := runStages_of_ok h
    constructor
    · simp [hstate]
    · simp [hplan, hstate]

theorem verify_of_plan (hplan : graph.plan.isSome = true) (hstate : graph.state.hasPlan = true) :
    graph.verify = { result := .ok .empty, graph, events := [] } := by
  rw [verify, if_pos (by rw [hplan, hstate]; rfl)]

theorem verify_of_no_plan (hplan : graph.plan = none) :
    graph.verify = graph.runStages Stage.standard := by
  rw [verify, if_neg (by simp [hplan])]

/-- Only a graph without a plan can fail to be verified, and then there is nothing to drop. -/
theorem Settled.verify_eq_of_failed (h : graph.Settled) {stop : Stop VerifyError}
    (hfailed : graph.verify.result = .error stop) :
    graph.verify = graph.verifyWith Stage.standard := by
  have hplan : graph.plan = none := by
    by_contra hsome
    have hisSome : graph.plan.isSome = true := Option.isSome_iff_ne_none.2 hsome
    rw [verify_of_plan hisSome (h.hasPlan hisSome)] at hfailed
    cases hfailed
  rw [verify_of_no_plan hplan, verifyWith, h.invalidate_eq hplan]

/-! ### Clients -/

theorem sameLife_settle {ε : Type} {result : Except ε Graph}
    (h : ∀ changed, result = .ok changed → graph.SameLife changed) :
    graph.SameLife (graph.settle result) :=
  settle_of_ok (.refl graph) h

theorem sameLife_settle_snd {ε α : Type} {result : Except ε (α × Graph)}
    (h : ∀ a changed, result = .ok (a, changed) → graph.SameLife changed) :
    graph.SameLife (graph.settle (result.map Prod.snd)) :=
  settle_map_snd (.refl graph) h

theorem dropped_settle {ε : Type} {result : Except ε Graph} (hok : result.isOk = true)
    (h : ∀ changed, result = .ok changed → changed.Dropped) : (graph.settle result).Dropped := by
  cases result with
  | error e => cases hok
  | ok changed => exact h changed rfl

theorem dropped_settle_snd {ε α : Type} {result : Except ε (α × Graph)} (hok : result.isOk = true)
    (h : ∀ a changed, result = .ok (a, changed) → changed.Dropped) :
    (graph.settle (result.map Prod.snd)).Dropped := by
  cases result with
  | error e => cases hok
  | ok made => exact h made.1 made.2 rfl

theorem settle_of_not_isOk {ε : Type} {result : Except ε Graph} (hok : result.isOk = false) :
    graph.settle result = graph := by
  cases result with
  | error e => rfl
  | ok changed => cases hok

theorem settle_snd_of_not_isOk {ε α : Type} {result : Except ε (α × Graph)}
    (hok : result.isOk = false) : graph.settle (result.map Prod.snd) = graph := by
  cases result with
  | error e => rfl
  | ok made => cases hok

theorem dropped_of_addNodeWithKernel {kernel : RegisteredKernel} {refs : List DataRef} {id : NodeId}
    (h : graph.addNodeWithKernel kernel refs = .ok (id, changed)) : changed.Dropped :=
  have hentered := entered_of_addNodeWithKernel h
  ⟨hentered.state_eq, hentered.plan_eq⟩

theorem dropped_of_removeNode {id : NodeId} (h : graph.removeNode id = .ok changed) :
    changed.Dropped := by
  obtain ⟨node, -, h⟩ := exists_of_bind_eq_ok h
  cases h
  exact ⟨rfl, rfl⟩

end Graph

/-! ## What happens in one operation -/

namespace Operation

variable {graph : Graph}

theorem dropped_of_edits {operation : Operation} (h : operation.edits graph = true) :
    (operation.apply graph).Dropped := by
  cases operation with
  | addNode kernel refs =>
    apply Graph.dropped_settle_snd h
    intro id changed hadd
    obtain ⟨entry, hentry⟩ := Graph.exists_of_addNode hadd
    exact Graph.dropped_of_addNodeWithKernel hentry
  | addNodeWithKernel kernel refs =>
    exact Graph.dropped_settle_snd h fun id changed ↦ Graph.dropped_of_addNodeWithKernel
  | removeNode node => exact Graph.dropped_settle h fun changed ↦ Graph.dropped_of_removeNode
  | assignTarget node target =>
    apply Graph.dropped_settle h
    intro changed hassign
    obtain ⟨index, rfl⟩ := Graph.exists_of_assignTarget hassign
    exact Graph.dropped_invalidate _
  | clearTarget node =>
    apply Graph.dropped_settle h
    intro changed hclear
    rw [Graph.eq_of_clearTarget hclear]
    exact Graph.dropped_invalidate _
  | _ => cases h

/-- What is neither an edit nor a verification keeps the plan, and the state too if it is not a run
of a graph that has a plan. -/
theorem sameLife_or_process {operation : Operation} (hedits : operation.edits graph = false)
    (hverification : operation.verification? graph = none) :
    graph.SameLife (operation.apply graph) ∨
      ∃ watch, operation = .process watch ∧ graph.plan.isSome = true ∧
        graph.state.hasPlan = true := by
  cases operation with
  | create descriptor =>
    refine .inl (Graph.sameLife_settle_snd fun ref changed h ↦ ?_)
    obtain ⟨object, -, rfl⟩ := Graph.exists_of_create h
    exact ⟨rfl, rfl⟩
  | createVirtualImage hint =>
    refine .inl (Graph.sameLife_settle_snd fun ref changed h ↦ ?_)
    obtain ⟨object, -, rfl⟩ := Graph.exists_of_createVirtualImage h
    exact ⟨rfl, rfl⟩
  | retain ref =>
    refine .inl (Graph.sameLife_settle_snd fun count changed h ↦ ?_)
    obtain ⟨object, -, rfl⟩ := Graph.exists_of_retain h
    exact ⟨rfl, rfl⟩
  | release ref =>
    refine .inl (Graph.sameLife_settle_snd fun count changed h ↦ ?_)
    obtain ⟨object, left, -, -, rfl⟩ := Graph.exists_of_release h
    exact ⟨rfl, rfl⟩
  | writeImage ref bytes =>
    refine .inl (Graph.sameLife_settle fun changed h ↦ ?_)
    obtain ⟨image, -, -, rfl⟩ := Graph.exists_of_writeImage h
    exact ⟨rfl, rfl⟩
  | writeScalar ref value =>
    refine .inl (Graph.sameLife_settle fun changed h ↦ ?_)
    obtain ⟨current, -, -, rfl⟩ := Graph.exists_of_writeScalar h
    exact ⟨rfl, rfl⟩
  | writeArray ref items =>
    refine .inl (Graph.sameLife_settle fun changed h ↦ ?_)
    obtain ⟨array, filled, -, -, rfl⟩ := Graph.exists_of_writeArray h
    exact ⟨rfl, rfl⟩
  | addNode kernel refs =>
    rw [apply, Graph.settle_snd_of_not_isOk hedits]
    exact .inl (.refl graph)
  | addNodeWithKernel kernel refs =>
    rw [apply, Graph.settle_snd_of_not_isOk hedits]
    exact .inl (.refl graph)
  | removeNode node =>
    rw [apply, Graph.settle_of_not_isOk hedits]
    exact .inl (.refl graph)
  | assignTarget node target =>
    rw [apply, Graph.settle_of_not_isOk hedits]
    exact .inl (.refl graph)
  | clearTarget node =>
    rw [apply, Graph.settle_of_not_isOk hedits]
    exact .inl (.refl graph)
  | setCallback node answer =>
    refine .inl (Graph.sameLife_settle fun changed h ↦ ?_)
    rw [Graph.eq_of_setCallback h]
    exact ⟨rfl, rfl⟩
  | clearCallback node =>
    refine .inl (Graph.sameLife_settle fun changed h ↦ ?_)
    rw [Graph.eq_of_clearCallback h]
    exact ⟨rfl, rfl⟩
  | execute options watch => exact .inl (Graph.ran_execute graph options watch).sameLife
  | process watch =>
    by_cases hplan : (graph.plan.isSome && graph.state.hasPlan) = true
    · obtain ⟨hplan, hstate⟩ := Bool.and_eq_true_iff.1 hplan
      exact .inr ⟨watch, rfl, hplan, hstate⟩
    · rw [apply, Graph.process, if_neg hplan]
      exact .inl (.refl graph)
  | createScalar value => exact .inl ⟨rfl, rfl⟩
  | createVirtual => exact .inl ⟨rfl, rfl⟩
  | look => exact .inl ⟨rfl, rfl⟩
  | setOptions options => exact .inl ⟨rfl, rfl⟩
  | exchange node kernel => exact .inl ⟨rfl, rfl⟩
  | verify => cases hverification
  | verifyAgain => cases hverification

/-- What is not a verification does not bring a plan back. -/
theorem dropped_apply (h : graph.Dropped) {operation : Operation}
    (hverification : operation.verification? graph = none) : (operation.apply graph).Dropped := by
  cases hedits : operation.edits graph with
  | true => exact dropped_of_edits hedits
  | false =>
    rcases sameLife_or_process hedits hverification with hsame | ⟨watch, -, hplan, -⟩
    · exact ⟨hsame.state_eq.trans h.state_eq, hsame.plan_eq.trans h.plan_eq⟩
    · rw [h.plan_eq] at hplan
      cases hplan

theorem dropped_applyAll (h : graph.Dropped) {operations : List Operation}
    (hoperations : ∀ operation ∈ operations, ∀ graph, operation.verification? graph = none) :
    (applyAll graph operations).Dropped := by
  induction operations generalizing graph with
  | nil => exact h
  | cons operation rest ih =>
    obtain ⟨hfirst, hrest⟩ := List.forall_mem_cons.1 hoperations
    exact ih (dropped_apply h (hfirst graph)) hrest

theorem plan_apply {operation : Operation} (hedits : operation.edits graph = false)
    (hverification : operation.verification? graph = none) :
    (operation.apply graph).plan = graph.plan := by
  rcases sameLife_or_process hedits hverification with hsame | ⟨watch, rfl, hplan, hstate⟩
  · exact hsame.plan_eq
  · exact (Graph.process_of_plan hplan hstate watch).1

theorem settled_apply (h : graph.Settled) (operation : Operation) :
    (operation.apply graph).Settled := by
  cases hedits : operation.edits graph with
  | true => exact (dropped_of_edits hedits).settled
  | false =>
    cases hverification : operation.verification? graph with
    | none =>
      rcases sameLife_or_process hedits hverification with hsame | ⟨watch, rfl, hplan, hstate⟩
      · exact hsame.settled h
      · obtain ⟨hplan', hstate'⟩ := Graph.process_of_plan hplan hstate watch
        exact
          { not_running := by rcases hstate' with hstate' | hstate' <;> simp [apply, hstate']
            plan_iff := by
              rw [apply, hplan']
              rcases hstate' with hstate' | hstate' <;> simp [hplan, hstate'] }
    | some ended =>
      cases operation with
      | verify =>
        by_cases hplan : graph.plan.isSome = true
        · rw [apply, Graph.verify_of_plan hplan (h.hasPlan hplan)]
          exact h
        · rw [apply, Graph.verify_of_no_plan (by simpa using hplan)]
          exact graph.settled_runStages _
      | verifyAgain => exact graph.invalidate.settled_runStages _
      | _ => cases hverification

end Operation

/-! ## What happens while stages run -/

/-- A stage that does to the graph what clients can do, short of verifying it. -/
def Stage.OperatesOnly (stage : Stage) : Prop :=
  ∀ draft, ∃ operations : List Operation,
    (∀ operation ∈ operations, ∀ graph, operation.verification? graph = none) ∧
      (stage.run.run draft).2.graph = Operation.applyAll draft.graph operations

theorem Stage.OperatesOnly.movesOnly {stage : Stage} (h : stage.OperatesOnly) :
    stage.MovesOnly := by
  intro draft
  obtain ⟨operations, -, hgraph⟩ := h draft
  refine ⟨operations.map .operation, ?_⟩
  rw [hgraph, Operation.applyAll, Move.applyAll, List.foldl_map]
  rfl

/-- A stage given as data removes a node at most. -/
theorem StageScript.operatesOnly (script : StageScript) : script.toStage.OperatesOnly := by
  intro draft
  cases hrejection : script.rejection with
  | some e =>
    refine ⟨[], fun operation hoperation ↦ (nomatch hoperation), ?_⟩
    simp only [toStage, hrejection]
    rfl
  | none =>
    have hgraph : (script.toStage.run.run draft).2.graph = script.edit draft.graph := by
      simp only [toStage, hrejection]
      rfl
    rw [hgraph, edit]
    cases script.removal with
    | none => exact ⟨[], fun operation hoperation ↦ (nomatch hoperation), rfl⟩
    | some node =>
      refine ⟨[.removeNode node], List.forall_mem_singleton.2 fun _ ↦ rfl, ?_⟩
      change _ = draft.graph.settle (draft.graph.removeNode node)
      dsimp only
      cases draft.graph.removeNode node <;> rfl

theorem StageScript.movesOnly (script : StageScript) : script.toStage.MovesOnly :=
  script.operatesOnly.movesOnly

/-- Until the last stage has passed there is no plan. -/
theorem Stage.dropped_runAll {stages : List Stage}
    (hstages : ∀ stage ∈ stages, stage ∈ Stage.standard ∨ stage.OperatesOnly)
    (report : VerifyReport) {draft : Draft} (h : draft.graph.Dropped) :
    ((Stage.runAll report stages).run draft).2.graph.Dropped := by
  induction stages generalizing report draft with
  | nil => exact h
  | cons stage rest ih =>
    obtain ⟨hstage, hrest⟩ := List.forall_mem_cons.1 hstages
    have hfirst : draft.graph.Dropped → (stage.run.run draft).2.graph.Dropped := by
      intro hdropped
      rcases hstage with hstandard | hoperates
      · obtain ⟨arena, -, hgraph⟩ := Stage.redrafts_of_mem_standard hstandard draft
        rw [hgraph]
        exact ⟨hdropped.state_eq, hdropped.plan_eq⟩
      · obtain ⟨operations, hoperations, hgraph⟩ := hoperates draft
        rw [hgraph]
        exact Operation.dropped_applyAll hdropped hoperations
    rw [Stage.runAll]
    exact Stateful.rel_bind (R := fun a b : Draft ↦ a.graph.Dropped → b.graph.Dropped)
      (fun _ _ _ hab hbc ha ↦ hbc (hab ha)) hfirst (fun _ _ _ hmid ↦ ih hrest _ hmid) h

namespace Move

variable {graph : Graph}

/-- A stage only redrafts objects, and what begins or ends a verification drops or leaves a plan. -/
theorem settled_apply (h : graph.Settled) (move : Move) : (move.apply graph).Settled := by
  cases move with
  | operation call => exact Operation.settled_apply h call
  | begin => exact (Graph.dropped_invalidate graph).settled
  | stage part hstandard plan events =>
    obtain ⟨arena, -, hgraph⟩ := Stage.redrafts_of_mem_standard hstandard { graph, plan, events }
    have hsame : graph.SameLife (part.run.run { graph, plan, events }).2.graph := by
      rw [hgraph]
      exact ⟨rfl, rfl⟩
    exact hsame.settled h
  | install plan => exact ⟨by simp [apply, Graph.installPlan], by simp [apply, Graph.installPlan]⟩
  | abort => exact (Graph.dropped_abortVerification graph).settled

theorem settled_applyAll (h : graph.Settled) (moves : List Move) :
    (applyAll graph moves).Settled := by
  induction moves generalizing graph with
  | nil => exact h
  | cons move rest ih => exact ih (settled_apply h move)

end Move

/-! ## What happens in one call -/

/-- What a call makes of the plan of a graph. -/
structure Call.Lifecycle (graph : Graph) (call : Call) : Prop where
  /-- A successful edit drops it. -/
  edited : call.edits graph = true →
    (call.apply graph).plan = none ∧ (call.apply graph).state = .unverified
  /-- A verification that fails leaves none. -/
  failed : ∀ ended stop, call.verification? graph = some ended → ended.result = .error stop →
    (call.apply graph).plan = none ∧ (call.apply graph).state = .unverified
  /-- A verification that passes leaves one. -/
  passed : ∀ ended report, call.verification? graph = some ended → ended.result = .ok report →
    (call.apply graph).plan.isSome = true
  /-- Everything else keeps it. -/
  kept : call.edits graph = false → call.verification? graph = none →
    (call.apply graph).plan = graph.plan

namespace Call

variable {graph : Graph}

theorem settled_apply (h : graph.Settled) (call : Call) : (call.apply graph).Settled := by
  cases call with
  | operation call => exact Operation.settled_apply h call
  | verifyWith stages hmoves => exact graph.invalidate.settled_runStages stages

theorem settled_applyAll (h : graph.Settled) (calls : List Call) :
    (applyAll graph calls).Settled := by
  induction calls generalizing graph with
  | nil => exact h
  | cons call rest ih => exact ih (settled_apply h call)

theorem settled_empty (id : GraphId) (context : Context) : (Graph.empty id context).Settled :=
  Graph.Dropped.settled ⟨rfl, rfl⟩

/-- The verification of a settled graph does nothing, or runs stages on the graph without its plan.
-/
theorem verification?_cases (h : graph.Settled) {call : Call} {ended : VerificationResult}
    (hended : call.verification? graph = some ended) :
    call.apply graph = ended.graph ∧
      (graph.plan.isSome = true ∧ ended = { result := .ok .empty, graph, events := [] } ∨
        ∃ stages, ended = graph.invalidate.runStages stages) := by
  cases call with
  | verifyWith stages hmoves =>
    cases hended
    exact ⟨rfl, .inr ⟨stages, rfl⟩⟩
  | operation operation =>
    cases operation with
    | verify =>
      cases hended
      refine ⟨rfl, ?_⟩
      by_cases hplan : graph.plan.isSome = true
      · exact .inl ⟨hplan, Graph.verify_of_plan hplan (h.hasPlan hplan)⟩
      · have hnone : graph.plan = none := by simpa using hplan
        refine .inr ⟨Stage.standard, ?_⟩
        rw [Graph.verify_of_no_plan hnone, h.invalidate_eq hnone]
    | verifyAgain =>
      cases hended
      exact ⟨rfl, .inr ⟨Stage.standard, rfl⟩⟩
    | _ => cases hended

theorem lifecycle (h : graph.Settled) (call : Call) : call.Lifecycle graph where
  edited hedits := by
    cases call with
    | operation operation =>
      have hdropped := Operation.dropped_of_edits hedits
      exact ⟨hdropped.plan_eq, hdropped.state_eq⟩
    | verifyWith stages hmoves => cases hedits
  failed ended stop hended hstop := by
    obtain ⟨happly, ⟨-, rfl⟩ | ⟨stages, rfl⟩⟩ := verification?_cases h hended
    · cases hstop
    · have hdropped := Graph.runStages_of_error hstop
      rw [happly]
      exact ⟨hdropped.plan_eq, hdropped.state_eq⟩
  passed ended report hended hreport := by
    obtain ⟨happly, ⟨hplan, rfl⟩ | ⟨stages, rfl⟩⟩ := verification?_cases h hended
    · rw [happly]
      exact hplan
    · rw [happly]
      exact (Graph.runStages_of_ok hreport).1
  kept hedits hverification := by
    cases call with
    | operation operation => exact Operation.plan_apply hedits hverification
    | verifyWith stages hmoves => cases hverification

/-- Whatever clients do, state and plan go together and no run is left under way. A call treats the
plan as its kind says; a verification of a graph that has a plan does nothing; and a verification by
given stages is one of the graph without its plan, which has no plan either while its stages run. -/
theorem lifecycle_applyAll (id : GraphId) (context : Context) (calls : List Call) :
    let graph := applyAll (.empty id context) calls
    graph.Settled ∧ (∀ call : Call, call.Lifecycle graph) ∧
      (graph.plan.isSome = true → graph.verify = { result := .ok .empty, graph, events := [] }) ∧
      ∀ stages, graph.verifyWith stages = graph.invalidate.runStages stages ∧
        ((∀ stage ∈ stages, stage ∈ Stage.standard ∨ stage.OperatesOnly) →
          ((Stage.runAll .empty stages).run
            { graph := graph.invalidate, plan := .empty, events := [] }).2.graph.Dropped) := by
  intro graph
  have hsettled : graph.Settled := settled_applyAll (settled_empty id context) calls
  refine ⟨hsettled, fun call ↦ lifecycle hsettled call, fun hplan ↦ ?_,
    fun stages ↦ ⟨rfl, fun hstages ↦ ?_⟩⟩
  · exact Graph.verify_of_plan hplan (hsettled.hasPlan hplan)
  · exact Stage.dropped_runAll hstages .empty (Graph.dropped_invalidate graph)

end Call

end ImageFlow
