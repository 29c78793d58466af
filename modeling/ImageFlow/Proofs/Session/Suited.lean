import ImageFlow.Proofs.Session.Soundness

/-!
# Concrete objects suit their slots

A node is added only if every slot takes the concrete object that is bound to it. Neither the shape
of a concrete object nor the constraint of a slot ever changes, so this stays true as long as the
node is there. What a virtual object will be is not known then, and is not covered.
-/

namespace ImageFlow

namespace Graph

variable {graph before after : Graph} {refs : List DataRef}

/-- Every slot accepts the shape of the concrete object bound to it. -/
def Suited (graph : Graph) : Prop :=
  ∀ wiring ∈ graph.ledger.wirings, ∀ slot ∈ wiring.slots, ∀ object descriptor,
    graph.arena.byId? slot.1.id = some object → object.state = .concrete descriptor →
      slot.2.constraint.accepts descriptor = true

/-! ## What keeps objects suited -/

/-- Slots stay suited if there are no new ones and no other shape is bound to them. -/
theorem Suited.of_objects (h : before.Suited)
    (hwirings : after.ledger.wirings ⊆ before.ledger.wirings)
    (hobjects : ∀ wiring ∈ after.ledger.wirings, ∀ slot ∈ wiring.slots, ∀ object descriptor,
      after.arena.byId? slot.1.id = some object → object.state = .concrete descriptor →
        ∃ origin, before.arena.byId? slot.1.id = some origin ∧
          origin.state = .concrete descriptor) : after.Suited := by
  intro wiring hwiring slot hslot object descriptor hobject hstate
  obtain ⟨origin, horigin, hstate'⟩ :=
    hobjects wiring hwiring slot hslot object descriptor hobject hstate
  exact h wiring (hwirings hwiring) slot hslot origin descriptor horigin hstate'

theorem Suited.rebound (h : before.Suited)
    (hwirings : after.ledger.wirings ⊆ before.ledger.wirings)
    (hrebound : before.Rebound after) : after.Suited := by
  refine h.of_objects hwirings fun _ _ slot _ object descriptor hobject hstate ↦ ?_
  obtain ⟨origin, horigin, hrel⟩ := hrebound slot.1.id object hobject
  exact ⟨origin, horigin, hrel.state_eq ▸ hstate⟩

theorem Suited.worked (h : before.Suited) (hworked : before.Worked after) : after.Suited := by
  have hwirings : after.ledger.wirings = before.ledger.wirings := by rw [hworked.ledger_eq]
  refine h.of_objects (fun _ hmem ↦ hwirings ▸ hmem) fun _ _ slot _ object descriptor hobject
    hstate ↦ ?_
  obtain ⟨origin, horigin, hrel⟩ := hworked.arena.of_some hobject
  exact ⟨origin, horigin, hrel.steady.state_eq ▸ hstate⟩

/-- A verification never touches a concrete object that has memory. -/
theorem Suited.redrafted (h : before.Suited) (hsound : before.SoundObjects)
    (hredrafted : before.Revised DataObject.Redrafted after) : after.Suited := by
  have hwirings : after.ledger.wirings = before.ledger.wirings := by
    rw [ledger_eq_of_redrafted hredrafted]
  obtain ⟨arena, harena, rfl⟩ := hredrafted
  refine h.of_objects (fun _ hmem ↦ hwirings ▸ hmem) fun _ _ slot _ object descriptor hobject
    hstate ↦ ?_
  obtain ⟨origin, horigin, hrel⟩ := harena.of_some hobject
  have hconcrete : origin.isVirtual = false :=
    hrel.isVirtual_eq.symm.trans (DataObject.isVirtual_of_concrete hstate)
  obtain rfl : object = origin :=
    hrel.concrete hconcrete ((hsound _ origin horigin).concrete hconcrete).1
  exact ⟨object, horigin, hstate⟩

/-- No node is bound to an object that is only being made. -/
theorem Suited.made (h : before.Suited) (hbalanced : before.ledger.Balanced)
    (object : DataObject) : (before.withNew (before.arena.push object)).2.Suited := by
  refine h.of_objects (List.Subset.refl _) fun wiring hwiring slot hslot made descriptor hmade
    hstate ↦ ⟨made, ?_, hstate⟩
  have hlive := hbalanced.live_of_mem_refs hwiring (List.of_mem_zip hslot).1
  obtain ⟨account, haccount⟩ := Option.isSome_iff_exists.1 hlive
  obtain ⟨bound, hbound, -⟩ := exists_of_account haccount
  have hold : slot.1.id ≠ before.arena.nextId := fun hnew ↦
    absurd (Arena.index_lt_of_byId? hbound) (by rw [hnew]; exact Nat.lt_irrefl _)
  exact (Arena.byId?_push_of_ne hold).symm.trans hmade

theorem Suited.added (h : before.Suited) {kernel : RegisteredKernel} {id : NodeId}
    (hadd : before.addNodeWithKernel kernel refs = .ok (id, after)) : after.Suited := by
  obtain ⟨hcheck, hledger⟩ := ledger_of_addNodeWithKernel hadd
  have hrebound := rebound_added hadd
  intro wiring hwiring slot hslot object descriptor hobject hstate
  obtain ⟨origin, horigin, hrel⟩ := hrebound slot.1.id object hobject
  have hstate' : origin.state = .concrete descriptor := hrel.state_eq ▸ hstate
  rw [hledger] at hwiring
  rcases List.mem_append.1 hwiring with hold | hnew
  · exact h wiring hold slot hslot origin descriptor horigin hstate'
  · rw [List.mem_singleton.1 hnew] at hslot
    have hlegal := checkNode_eq_ok_iff.1 hcheck
    obtain ⟨checked, hchecked⟩ := (of_checkNode hcheck).2.1 slot.1 (List.of_mem_zip hslot).1
    cases (Arena.get_eq_ok_iff.1 hchecked).2.symm.trans horigin
    exact (hlegal.suited slot hslot origin hchecked).concrete descriptor hstate'

theorem Suited.removed (h : before.Suited) (hbalanced : before.ledger.Balanced) {id : NodeId}
    (hremove : before.removeNode id = .ok after) : after.Suited := by
  obtain ⟨node, -, hledger⟩ := ledger_of_removeNode hbalanced hremove
  refine h.rebound ?_ (rebound_removed hbalanced hremove)
  rw [hledger]
  exact List.filter_subset_self _

theorem Suited.runStages (h : before.Suited) (hsound : before.SoundObjects)
    {stages : List Stage} (hstages : ∀ stage ∈ stages, stage.Redrafts) :
    (before.runStages stages).graph.Suited :=
  @Suited.redrafted before.invalidate (before.runStages stages).graph.invalidate h hsound
    (redrafted_runStages hstages before)

theorem Suited.change (h : before.Suited) (hbalanced : before.ledger.Balanced)
    (hsound : before.SoundObjects) {retained released : DataId → Bool}
    (hchange : before.Change retained released after) : after.Suited := by
  cases hchange with
  | worked hworked => exact h.worked hworked
  | made object hfresh => exact h.made hbalanced object
  | retained ref object hobject => exact h.rebound (List.Subset.refl _) (rebound_retained hobject)
  | released ref object left hobject hleft =>
    exact h.rebound (List.Subset.refl _) (rebound_released hbalanced hobject hleft)
  | added kernel refs id hadd => exact h.added hadd
  | removed id hremove => exact h.removed hbalanced hremove
  | retargeted id affinity =>
    have hworked : before.Worked (before.modifyNode id ({ · with affinity })) :=
      worked_modifyNode id (fun _ ↦ rfl) fun _ ↦ rfl
    have hmodified := h.worked hworked
    exact hmodified
  | verified start hstart =>
    rcases hstart with rfl | rfl
    · exact h.runStages hsound fun _ ↦ Stage.redrafts_of_mem_standard
    · exact @Suited.runStages before.invalidate h hsound _ fun _ ↦ Stage.redrafts_of_mem_standard

theorem suited_empty (id : GraphId) (context : Context) : (empty id context).Suited := by
  intro wiring hwiring
  cases hwiring

end Graph

/-! ## Every graph -/

namespace Move

variable {graph : Graph}

theorem suited_apply (h : graph.Suited) (hbalanced : graph.ledger.Balanced)
    (hsound : graph.SoundObjects) (move : Move) : (move.apply graph).Suited := by
  cases move with
  | operation call => exact h.change hbalanced hsound (call.change graph)
  | begin => exact h
  | stage part hstandard plan events =>
    exact h.redrafted hsound (Stage.redrafts_of_mem_standard hstandard { graph, plan, events })
  | install plan => exact h
  | abort =>
    exact @Graph.Suited.redrafted graph.invalidate _ h hsound
      (Graph.redrafted_abortVerification graph)

theorem suited_applyAll {retains releases : DataId → Nat} (h : graph.Suited)
    (hsound : graph.SoundObjects) (haccurate : graph.Accurate retains releases)
    (moves : List Move) : (applyAll graph moves).Suited := by
  induction moves generalizing graph retains releases with
  | nil => exact h
  | cons move rest ih =>
    exact ih (suited_apply h haccurate.balanced hsound move)
      (soundObjects_apply hsound haccurate.balanced move) (haccurate.move move)

end Move

theorem Call.suited_applyAll (id : GraphId) (context : Context) (calls : List Call) :
    (applyAll (.empty id context) calls).Suited := by
  obtain ⟨moves, hmoves⟩ := exists_moves_applyAll (.empty id context) calls
  rw [hmoves]
  exact Move.suited_applyAll (Graph.suited_empty id context) (Graph.soundObjects_empty id context)
    (Graph.accurate_empty id context) moves

end ImageFlow
