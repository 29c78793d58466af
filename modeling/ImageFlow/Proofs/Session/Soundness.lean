import ImageFlow.Proofs.Session.Lifecycle
import ImageFlow.Proofs.Verification.Planned

/-!
# Objects stay sound

A resolved object agrees with its hint, and a concrete object has memory and no hint. Whatever
happens to a graph keeps this: most changes leave shape, hint and memory of an object alone, and a
verification shapes virtual objects in agreement with their hints.
-/

namespace ImageFlow

/-- An object of the same shape and hint, that has not lost its memory. -/
structure DataObject.Steady (before after : DataObject) : Prop where
  state_eq : after.state = before.state
  hint_eq : after.hint = before.hint
  payload : before.payload.isSome = true → after.payload.isSome = true

theorem DataObject.Steady.refl (object : DataObject) : object.Steady object :=
  ⟨rfl, rfl, fun h ↦ h⟩

theorem DataObject.Steady.sound {a b : DataObject} (h : a.Steady b) (hsound : a.Sound) :
    b.Sound where
  agrees descriptor hstate hint hhint := by
    rw [h.state_eq] at hstate
    rw [h.hint_eq] at hhint
    exact hsound.agrees descriptor hstate hint hhint
  concrete hconcrete := by
    have hconcrete' : a.isVirtual = false := by
      rw [isVirtual, ← h.state_eq]
      exact hconcrete
    obtain ⟨hpayload, hhint⟩ := hsound.concrete hconcrete'
    exact ⟨h.payload hpayload, h.hint_eq.trans hhint⟩

theorem DataObject.Overwritten.steady {a b : DataObject} (h : a.Overwritten b) : a.Steady b := by
  rcases h with rfl | ⟨payload, rfl⟩
  · exact .refl b
  · exact ⟨rfl, rfl, fun _ ↦ rfl⟩

/-- An object with other references and constraints. -/
structure DataObject.Rebound (before after : DataObject) : Prop where
  state_eq : after.state = before.state
  hint_eq : after.hint = before.hint
  payload_eq : after.payload = before.payload

theorem DataObject.Rebound.refl (object : DataObject) : object.Rebound object := ⟨rfl, rfl, rfl⟩

theorem DataObject.Rebound.steady {a b : DataObject} (h : a.Rebound b) : a.Steady b where
  state_eq := h.state_eq
  hint_eq := h.hint_eq
  payload hpayload := h.payload_eq ▸ hpayload

theorem DataObject.eq_of_ifHeld {object left : DataObject} (h : object.ifHeld = some left) :
    left = object := by
  unfold ifHeld at h
  split at h
  · cases h
  · exact (Option.some.inj h).symm

namespace Graph

variable {before after : Graph} {P : DataObject → Prop}

/-- A property of all live objects. -/
def EveryObject (P : DataObject → Prop) (graph : Graph) : Prop :=
  ∀ data object, graph.arena.byId? data = some object → P object

/-- Every live object was there before, with the same shape, hint and memory. -/
def Rebound (before after : Graph) : Prop :=
  ∀ data object, after.arena.byId? data = some object →
    ∃ origin, before.arena.byId? data = some origin ∧ origin.Rebound object

/-! ## Properties of all objects -/

theorem EveryObject.rebound (h : before.EveryObject P) (hP : ∀ a b, a.Rebound b → P a → P b)
    (hrebound : before.Rebound after) : after.EveryObject P := by
  intro data object hobject
  obtain ⟨origin, horigin, hrel⟩ := hrebound data object hobject
  exact hP origin object hrel (h data origin horigin)

theorem EveryObject.made (h : before.EveryObject P) {object : DataObject} (hobject : P object) :
    (before.withNew (before.arena.push object)).2.EveryObject P := by
  intro data live hlive
  by_cases hdata : data = before.arena.nextId
  · rw [hdata] at hlive
    cases Arena.byId?_push_self.symm.trans hlive
    exact hobject
  · exact h data live ((Arena.byId?_push_of_ne hdata).symm.trans hlive)

theorem EveryObject.redrafted (h : before.EveryObject P) (hP : ∀ a b, a.Redrafted b → P a → P b)
    (hredrafted : before.Revised DataObject.Redrafted after) : after.EveryObject P := by
  obtain ⟨arena, harena, rfl⟩ := hredrafted
  intro data object hobject
  obtain ⟨origin, horigin, hrel⟩ := harena.of_some hobject
  exact hP origin object hrel (h data origin horigin)

theorem EveryObject.runStages (h : before.EveryObject P) (hP : ∀ a b, a.Redrafted b → P a → P b)
    {stages : List Stage} (hstages : ∀ stage ∈ stages, stage.Redrafts) :
    (before.runStages stages).graph.EveryObject P :=
  @EveryObject.redrafted before.invalidate (before.runStages stages).graph.invalidate P h hP
    (redrafted_runStages hstages before)

theorem everyObject_empty (id : GraphId) (context : Context) :
    (empty id context).EveryObject P := by
  intro data object hobject
  rw [Arena.byId?_eq_none_of_length_le (Nat.zero_le _)] at hobject
  cases hobject

/-! ## References come and go -/

/-- Setting the place of an object to the object with other references, or freeing it. -/
theorem rebound_set {ref : DataRef} {object : DataObject}
    (hobject : before.arena.get ref = .ok object) {entry : Option DataObject}
    (hentry : ∀ left, entry = some left → object.Rebound left) :
    before.Rebound { before with arena := before.arena.set ref.id entry } := by
  have hlive := (Arena.get_eq_ok_iff.1 hobject).2
  intro data left hleft
  have hset := (Arena.byId?_set (Arena.index_lt_of_byId? hlive) entry).symm.trans hleft
  split at hset
  · next hdata => exact ⟨object, hdata ▸ hlive, hentry left hset⟩
  · exact ⟨left, hset, .refl left⟩

theorem rebound_retained {ref : DataRef} {object : DataObject}
    (hobject : before.arena.get ref = .ok object) :
    before.Rebound { before with arena := before.arena.set ref.id (some object.retain) } := by
  refine rebound_set hobject fun left hleft ↦ ?_
  cases hleft
  exact ⟨rfl, rfl, rfl⟩

theorem rebound_released (hbalanced : before.ledger.Balanced) {ref : DataRef}
    {object left : DataObject} (hobject : before.arena.get ref = .ok object)
    (hleft : object.release = .ok left) :
    before.Rebound { before with arena := before.arena.store left } := by
  obtain ⟨clients, -, rfl⟩ := DataObject.exists_of_release hleft
  have hid : object.id = ref.id :=
    hbalanced.placed ref.id _ (account_of_byId? (Arena.get_eq_ok_iff.1 hobject).2)
  have hstore : before.arena.store { object with clientRefs := clients } =
      before.arena.set ref.id (DataObject.ifHeld { object with clientRefs := clients }) := by
    rw [← hid]
    rfl
  rw [hstore]
  refine rebound_set hobject fun kept hkept ↦ ?_
  rw [DataObject.eq_of_ifHeld hkept]
  exact ⟨rfl, rfl, rfl⟩

theorem rebound_added {kernel : RegisteredKernel} {refs : List DataRef} {id : NodeId}
    (hadd : before.addNodeWithKernel kernel refs = .ok (id, after)) : before.Rebound after := by
  intro data object hobject
  rw [(entered_of_addNodeWithKernel hadd).objects] at hobject
  obtain ⟨origin, horigin, rfl⟩ := Option.map_eq_some_iff.1 hobject
  exact ⟨origin, horigin, rfl, rfl, rfl⟩

theorem rebound_removed (hbalanced : before.ledger.Balanced) {id : NodeId}
    (hremove : before.removeNode id = .ok after) : before.Rebound after := by
  obtain ⟨node, -, -, hafter, hslots⟩ := exists_of_removeNode hbalanced hremove
  intro data object hobject
  rw [hslots] at hobject
  split at hobject
  · exact ⟨object, hobject, .refl object⟩
  · obtain ⟨origin, horigin, hleft⟩ := Option.bind_eq_some_iff.1 hobject
    rw [DataObject.eq_of_ifHeld hleft]
    exact ⟨origin, horigin, rfl, rfl, rfl⟩

/-! ## Soundness -/

theorem SoundObjects.rebound (h : before.SoundObjects) (hrebound : before.Rebound after) :
    after.SoundObjects :=
  EveryObject.rebound h (fun _ _ hrel ↦ hrel.steady.sound) hrebound

theorem SoundObjects.worked (h : before.SoundObjects) (hworked : before.Worked after) :
    after.SoundObjects := by
  intro data object hobject
  obtain ⟨origin, horigin, hrel⟩ := hworked.arena.of_some hobject
  exact hrel.steady.sound (h data origin horigin)

theorem SoundObjects.runStages (h : before.SoundObjects) {stages : List Stage}
    (hstages : ∀ stage ∈ stages, stage.Redrafts) :
    (before.runStages stages).graph.SoundObjects :=
  EveryObject.runStages h (fun _ _ hrel ↦ hrel.sound) hstages

theorem SoundObjects.change (h : before.SoundObjects) (hbalanced : before.ledger.Balanced)
    {retained released : DataId → Bool} (hchange : before.Change retained released after) :
    after.SoundObjects := by
  cases hchange with
  | worked hworked => exact h.worked hworked
  | made object hfresh => exact EveryObject.made h hfresh.sound
  | retained ref object hobject => exact h.rebound (rebound_retained hobject)
  | released ref object left hobject hleft =>
    exact h.rebound (rebound_released hbalanced hobject hleft)
  | added kernel refs id hadd => exact h.rebound (rebound_added hadd)
  | removed id hremove => exact h.rebound (rebound_removed hbalanced hremove)
  | retargeted id affinity => exact h
  | verified start hstart =>
    rcases hstart with rfl | rfl
    · exact h.runStages fun _ ↦ Stage.redrafts_of_mem_standard
    · exact @SoundObjects.runStages before.invalidate h _ fun _ ↦ Stage.redrafts_of_mem_standard

theorem soundObjects_empty (id : GraphId) (context : Context) : (empty id context).SoundObjects :=
  everyObject_empty id context

end Graph

namespace Move

variable {graph : Graph}

theorem soundObjects_apply (h : graph.SoundObjects) (hbalanced : graph.ledger.Balanced)
    (move : Move) : (move.apply graph).SoundObjects := by
  cases move with
  | operation call => exact h.change hbalanced (call.change graph)
  | begin => exact h
  | stage part hstandard plan events =>
    exact h.of_redrafted (Stage.redrafts_of_mem_standard hstandard { graph, plan, events })
  | install plan => exact h
  | abort =>
    exact @Graph.SoundObjects.of_redrafted graph.invalidate _ h
      (Graph.redrafted_abortVerification graph)

theorem soundObjects_applyAll {retains releases : DataId → Nat} (h : graph.SoundObjects)
    (haccurate : graph.Accurate retains releases) (moves : List Move) :
    (applyAll graph moves).SoundObjects := by
  induction moves generalizing graph retains releases with
  | nil => exact h
  | cons move rest ih =>
    exact ih (soundObjects_apply h haccurate.balanced move) (haccurate.move move)

end Move

namespace Call

theorem soundObjects_applyAll (id : GraphId) (context : Context) (calls : List Call) :
    (applyAll (.empty id context) calls).SoundObjects := by
  obtain ⟨moves, hmoves⟩ := exists_moves_applyAll (.empty id context) calls
  rw [hmoves]
  exact Move.soundObjects_applyAll (Graph.soundObjects_empty id context)
    (Graph.accurate_empty id context) moves

end Call

end ImageFlow
