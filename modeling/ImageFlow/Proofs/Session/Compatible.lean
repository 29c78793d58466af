import ImageFlow.Proofs.Data.Overlap
import ImageFlow.Proofs.Session.Lifecycle
import ImageFlow.Proofs.Verification.PlanValidity

/-!
# Constraints recorded on virtual objects

A virtual object is bound to a slot only if the constraint of the slot overlaps with what is already
recorded on the object and with its hint. All slots of a new node are checked before any of them is
recorded. The constraints of different nodes therefore always overlap, but not those of one node: a
node that reads an object through two slots which exclude each other is not turned away. That is
the only way in which recorded constraints come to be incompatible.
-/

namespace ImageFlow

namespace Constraint

/-- Any two constraints of a list overlap, whichever of them is asked. -/
def Overlapping (constraints : List Constraint) : Prop :=
  constraints.Pairwise fun a b ↦ a.overlaps b = true ∧ b.overlaps a = true

theorem overlapping_iff {constraints : List Constraint} :
    Overlapping constraints ↔ constraints.Pairwise fun a b ↦ a.overlaps b = true := by
  refine List.Pairwise.iff fun a b ↦ ?_
  rw [overlaps_comm b a, and_self]

end Constraint

/-! ## What is recorded of an object -/

/-- The constraints recorded on an object overlap with its hint, and those of different nodes with
each other. -/
structure Account.Agreeing (account : Account) : Prop where
  hinted : ∀ hint, account.hint = some hint → ∀ entry ∈ account.constraints,
    (Graph.hintConstraint hint).overlaps entry.2 = true
  apart : account.constraints.Pairwise fun a b ↦ a.1 ≠ b.1 → a.2.overlaps b.2 = true

namespace Account.Agreeing

variable {account other : Account}

theorem of_constraints_eq_nil (h : account.constraints = []) : account.Agreeing where
  hinted hint _ entry hentry := by
    rw [h] at hentry
    cases hentry
  apart := h ▸ List.Pairwise.nil

/-- Nothing that is forgotten can do harm. -/
theorem of_sublist (h : account.Agreeing) (hhint : other.hint = account.hint)
    (hconstraints : other.constraints.Sublist account.constraints) : other.Agreeing where
  hinted hint hsome entry hentry :=
    h.hinted hint (hhint ▸ hsome) entry (hconstraints.subset hentry)
  apart := h.apart.sublist hconstraints

/-- A new node may hold an object through slots that overlap with the hint and with everything that
is recorded; whether they overlap with each other is not asked. -/
theorem bound (h : account.Agreeing) {node : NodeId} {slots : List Parameter}
    (hhint : account.isVirtual = true → ∀ hint, account.hint = some hint → ∀ slot ∈ slots,
      (Graph.hintConstraint hint).overlaps slot.constraint = true)
    (hslots : account.isVirtual = true → ∀ entry ∈ account.constraints, ∀ slot ∈ slots,
      entry.2.overlaps slot.constraint = true) : (account.bound node slots).Agreeing := by
  cases hvirtual : account.isVirtual with
  | false =>
    have hsame : (account.bound node slots).constraints = account.constraints := by
      simp [Account.bound, hvirtual]
    exact h.of_sublist rfl (hsame ▸ List.Sublist.refl _)
  | true =>
    have hconstraints : (account.bound node slots).constraints =
        account.constraints ++ slots.map fun slot ↦ (node, slot.constraint) := by
      simp [Account.bound, hvirtual]
    refine ⟨fun hint hsome entry hentry ↦ ?_, ?_⟩
    · rw [hconstraints] at hentry
      rcases List.mem_append.1 hentry with hold | hnew
      · exact h.hinted hint hsome entry hold
      · obtain ⟨slot, hslot, rfl⟩ := List.mem_map.1 hnew
        exact hhint hvirtual hint hsome slot hslot
    · rw [hconstraints]
      refine List.pairwise_append.2 ⟨h.apart, ?_, fun entry hentry new hnew _ ↦ ?_⟩
      · -- The new constraints are all of one node.
        exact List.pairwise_map.2 (List.pairwise_of_forall fun _ _ hne ↦ absurd rfl hne)
      · obtain ⟨slot, hslot, rfl⟩ := List.mem_map.1 hnew
        exact hslots hvirtual entry hentry slot hslot

end Account.Agreeing

/-- What is recorded of every live object agrees. -/
def Ledger.Agreeing (ledger : Ledger) : Prop :=
  ∀ data account, ledger.account data = some account → account.Agreeing

namespace Graph

variable {before after : Graph} {data : DataId}

/-! ## What keeps the records in agreement -/

theorem agreeing_made (h : before.ledger.Agreeing) {object : DataObject}
    (hfresh : object.Fresh before.arena.nextId) :
    (before.withNew (before.arena.push object)).2.ledger.Agreeing := by
  rw [ledger_push]
  intro data account haccount
  by_cases hdata : data = before.arena.nextId
  · rw [hdata, Ledger.account_opened_self] at haccount
    cases haccount
    exact .of_constraints_eq_nil hfresh.constraints_eq
  · rw [Ledger.account_opened_of_ne hdata] at haccount
    exact h data account haccount

theorem agreeing_withClients {ledger : Ledger} (h : ledger.Agreeing) {id : DataId} {clients : Nat}
    {held : Account} (hheld : ledger.account id = some held) :
    (ledger.withClients id clients).Agreeing := by
  intro data account haccount
  by_cases hdata : data = id
  · rw [hdata, Ledger.account_withClients_self hheld] at haccount
    obtain ⟨-, rfl⟩ := Account.of_withClients haccount
    exact (h id held hheld).of_sublist rfl (List.Sublist.refl _)
  · rw [Ledger.account_withClients_of_ne hdata] at haccount
    exact h data account haccount

theorem agreeing_added (h : before.ledger.Agreeing) {kernel : RegisteredKernel}
    {refs : List DataRef} {id : NodeId}
    (hadd : before.addNodeWithKernel kernel refs = .ok (id, after)) : after.ledger.Agreeing := by
  obtain ⟨hcheck, hledger⟩ := ledger_of_addNodeWithKernel hadd
  have hlegal := checkNode_eq_ok_iff.1 hcheck
  rw [hledger]
  intro data account haccount
  obtain ⟨origin, horigin, rfl⟩ := Option.map_eq_some_iff.1 haccount
  obtain ⟨object, hobject, rfl⟩ := exists_of_account horigin
  -- Every slot on the object has been checked against the object as it was.
  have hsuits (slot : Parameter)
      (hslot : slot ∈ slotsOn data (before.newWiring kernel refs).slots) :
      object.Suits slot.constraint := by
    obtain ⟨entry, hentry, rfl⟩ := List.mem_map.1 hslot
    obtain ⟨hentry, hdata⟩ := List.mem_filter.1 hentry
    have href := (List.of_mem_zip hentry).1
    obtain ⟨checked, hchecked⟩ := (of_checkNode hcheck).2.1 entry.1 href
    have hlive := (Arena.get_eq_ok_iff.1 hchecked).2
    rw [of_decide_eq_true hdata] at hlive
    cases hlive.symm.trans hobject
    exact hlegal.suited entry hentry object hchecked
  refine (h data _ horigin).bound ?_ ?_
  · intro hvirtual hint hhint slot hslot
    exact (hsuits slot hslot).hint hvirtual hint hhint
  · intro hvirtual entry hentry slot hslot
    exact (hsuits slot hslot).constraints hvirtual entry hentry

theorem agreeing_removed (h : before.ledger.Agreeing) (hbalanced : before.ledger.Balanced)
    {id : NodeId} (hremove : before.removeNode id = .ok after) : after.ledger.Agreeing := by
  obtain ⟨node, -, hledger⟩ := ledger_of_removeNode hbalanced hremove
  rw [hledger]
  intro data account haccount
  simp only [Ledger.remove] at haccount
  split at haccount
  · exact h data account haccount
  · obtain ⟨origin, horigin, hleft⟩ := Option.bind_eq_some_iff.1 haccount
    unfold Account.unbound at hleft
    split at hleft
    · cases hleft
    · cases hleft
      exact (h data origin horigin).of_sublist rfl List.filter_sublist

theorem agreeing_change (h : before.ledger.Agreeing) (hbalanced : before.ledger.Balanced)
    {retained released : DataId → Bool} (hchange : before.Change retained released after) :
    after.ledger.Agreeing := by
  cases hchange with
  | worked hworked => exact hworked.ledger_eq ▸ h
  | made object hfresh => exact agreeing_made h hfresh
  | retained ref object hobject =>
    rw [ledger_retained hobject]
    exact agreeing_withClients h (account_of_byId? (Arena.get_eq_ok_iff.1 hobject).2)
  | released ref object left hobject hleft =>
    obtain ⟨clients, -, hledger⟩ := ledger_released hbalanced hobject hleft
    rw [hledger]
    exact agreeing_withClients h (account_of_byId? (Arena.get_eq_ok_iff.1 hobject).2)
  | added kernel refs id hadd => exact agreeing_added h hadd
  | removed id hremove => exact agreeing_removed h hbalanced hremove
  | retargeted id affinity =>
    have hworked : before.Worked (before.modifyNode id ({ · with affinity })) :=
      worked_modifyNode id (fun _ ↦ rfl) fun _ ↦ rfl
    have hledger : (before.modifyNode id ({ · with affinity })).invalidate.ledger =
        before.ledger := hworked.ledger_eq
    exact hledger ▸ h
  | verified start hstart =>
    have hsame : start.ledger = before.ledger := by rcases hstart with rfl | rfl <;> rfl
    rw [ledger_runStages (fun _ ↦ Stage.redrafts_of_mem_standard), hsame]
    exact h

theorem agreeing_empty (id : GraphId) (context : Context) :
    (empty id context).ledger.Agreeing := by
  intro data account haccount
  cases haccount

end Graph

/-! ## Every graph -/

namespace Move

variable {graph : Graph}

theorem agreeing_apply (h : graph.ledger.Agreeing) (hbalanced : graph.ledger.Balanced)
    (move : Move) : (move.apply graph).ledger.Agreeing := by
  cases move with
  | operation call => exact Graph.agreeing_change h hbalanced (call.change graph)
  | begin => exact h
  | stage part hstandard plan events =>
    have hledger := Graph.ledger_eq_of_redrafted
      (Stage.redrafts_of_mem_standard hstandard { graph, plan, events })
    exact hledger ▸ h
  | install plan => exact h
  | abort => exact (Graph.ledger_abortVerification graph).symm ▸ h

theorem agreeing_applyAll {retains releases : DataId → Nat} (h : graph.ledger.Agreeing)
    (haccurate : graph.Accurate retains releases) (moves : List Move) :
    (applyAll graph moves).ledger.Agreeing := by
  induction moves generalizing graph retains releases with
  | nil => exact h
  | cons move rest ih =>
    exact ih (agreeing_apply h haccurate.balanced move) (haccurate.move move)

end Move

/-- A node holds an object through slots whose constraints overlap. -/
def Node.Consistent (node : Node) (data : DataId) : Prop :=
  Constraint.Overlapping ((Graph.slotsOn data node.wiring.slots).map Parameter.constraint)

/-- Constraints that agree overlap throughout if those of each single node do. -/
theorem Graph.overlapping_iff {graph : Graph} (hbalanced : graph.ledger.Balanced) {data : DataId}
    {object : DataObject} (hobject : graph.arena.byId? data = some object)
    (hvirtual : object.isVirtual = true) (hagreeing : object.account.Agreeing) :
    Constraint.Overlapping (object.constraints.map Prod.snd) ↔
      ∀ node ∈ graph.nodes, node.Consistent data := by
  have hrecorded : object.constraints = graph.ledger.wirings.flatMap fun wiring ↦
      (slotsOn data wiring.slots).map fun slot ↦ (wiring.id, slot.constraint) := by
    have hconstraints : object.constraints = if object.isVirtual then _ else [] :=
      hbalanced.recorded data _ (account_of_byId? hobject)
    rw [hvirtual, if_pos rfl, Ledger.slotsOn, List.map_flatMap] at hconstraints
    simp only [Wiring.slotsOn, List.map_map] at hconstraints
    exact hconstraints
  have hnodes : (∀ node ∈ graph.nodes, node.Consistent data) ↔
      ∀ wiring ∈ graph.ledger.wirings, (slotsOn data wiring.slots).Pairwise
        fun a b ↦ a.constraint.overlaps b.constraint = true := by
    rw [show graph.ledger.wirings = graph.nodes.map Node.wiring from rfl, List.forall_mem_map]
    refine forall₂_congr fun node _ ↦ ?_
    rw [Node.Consistent, Constraint.overlapping_iff, List.pairwise_map]
  rw [hnodes, Constraint.overlapping_iff, List.pairwise_map]
  constructor
  · intro hall wiring hwiring
    rw [hrecorded, List.pairwise_flatMap] at hall
    exact List.pairwise_map.1 (hall.1 wiring hwiring)
  · intro hwithin
    have hsame : object.constraints.Pairwise fun a b ↦ a.1 = b.1 → a.2.overlaps b.2 = true := by
      rw [hrecorded, List.pairwise_flatMap]
      refine ⟨fun wiring hwiring ↦ ?_, ?_⟩
      · refine List.pairwise_map.2 ((hwithin wiring hwiring).imp ?_)
        intro a b hoverlaps _
        exact hoverlaps
      · refine (List.pairwise_map.1 hbalanced.nodup).imp fun hne a ha b hb hid ↦ ?_
        obtain ⟨_, -, rfl⟩ := List.mem_map.1 ha
        obtain ⟨_, -, rfl⟩ := List.mem_map.1 hb
        exact absurd hid hne
    refine (hagreeing.apart.and hsame).imp fun {a b} h ↦ ?_
    by_cases hid : a.1 = b.1
    · exact h.2 hid
    · exact h.1 hid

namespace Call

theorem agreeing_applyAll (id : GraphId) (context : Context) (calls : List Call) :
    (applyAll (.empty id context) calls).ledger.Agreeing := by
  obtain ⟨moves, hmoves⟩ := exists_moves_applyAll (.empty id context) calls
  rw [hmoves]
  exact Move.agreeing_applyAll (Graph.agreeing_empty id context) (Graph.accurate_empty id context)
    moves

/-- Whatever has been done to a graph, the constraints recorded on a live virtual object overlap
with its hint, those of different nodes overlap, and any two overlap precisely if no single node
holds the object through slots that exclude each other. -/
theorem compatible_applyAll (id : GraphId) (context : Context) (calls : List Call) {data : DataId}
    {object : DataObject}
    (hobject : (applyAll (.empty id context) calls).arena.byId? data = some object)
    (hvirtual : object.isVirtual = true) :
    (∀ hint, object.hint = some hint → ∀ entry ∈ object.constraints,
      (Graph.hintConstraint hint).overlaps entry.2 = true) ∧
    (∀ a ∈ object.constraints, ∀ b ∈ object.constraints, a.1 ≠ b.1 → a.2.overlaps b.2 = true) ∧
    (Constraint.Overlapping (object.constraints.map Prod.snd) ↔
      ∀ node ∈ (applyAll (.empty id context) calls).nodes, node.Consistent data) := by
  have hagreeing : object.account.Agreeing :=
    agreeing_applyAll id context calls data _ (Graph.account_of_byId? hobject)
  refine ⟨hagreeing.hinted, fun a ha b hb hne ↦ ?_,
    Graph.overlapping_iff (balanced_applyAll id context calls) hobject hvirtual hagreeing⟩
  have hforth : object.constraints.Pairwise fun a b ↦ a.1 ≠ b.1 → a.2.overlaps b.2 = true :=
    hagreeing.apart
  have hback : object.constraints.Pairwise fun a b ↦ b.1 ≠ a.1 → b.2.overlaps a.2 = true :=
    hforth.imp fun h hne ↦ (Constraint.overlaps_comm _ _).trans (h hne.symm)
  exact List.Pairwise.forall_of_forall_of_flip (fun _ _ hne ↦ absurd rfl hne) hforth hback ha hb hne

/-- A kernel that reads two slots. -/
def reader (first second : Constraint) : Kernel :=
  let slot (name : String) (constraint : Constraint) : Parameter :=
    { name, direction := .input, constraint, description := none }
  Kernel.ofExecute
    { name := "reader"
      description := ""
      parameters := [slot "first" first, slot "second" second]
      tags := [] }
    (pure ())

/-- Calls that let a node read a new virtual image of a format through two slots. -/
def readTwice (hint : ImageHint) (first second : Constraint) : List Call :=
  let image : DataRef := { graph := ⟨0⟩, id := ⟨0⟩ }
  [.operation (.createVirtualImage hint),
    .operation (.addNodeWithKernel { id := ⟨0⟩, kernel := reader first second } [image, image])]

/-- The virtual image that is left, with what was recorded. -/
def imageRead (hint : ImageHint) (first second : Constraint) : DataObject :=
  { DataObject.virtual ⟨0⟩ (some hint) with
    constraints := [(⟨0⟩, first), (⟨0⟩, second)]
    slotRefs := 2 }

/-- Slots for any image and for images of one format overlap. -/
theorem compatible_readTwice :
    let hint : ImageHint := { format := some .u8, width := none, height := none }
    let object := imageRead hint .anyImage (.image .u8)
    (applyAll (.empty ⟨0⟩ Operation.plainContext)
        (readTwice hint .anyImage (.image .u8))).arena.byId? ⟨0⟩ = some object ∧
      object.isVirtual = true ∧ (Graph.hintConstraint hint).overlaps (.image .u8) = true ∧
      Constraint.Overlapping (object.constraints.map Prod.snd) := by
  intro hint object
  have hobject : (applyAll (.empty ⟨0⟩ Operation.plainContext)
      (readTwice hint .anyImage (.image .u8))).arena.byId? ⟨0⟩ = some object := rfl
  obtain ⟨hhinted, -, hoverlapping⟩ := compatible_applyAll _ _ _ hobject rfl
  refine ⟨hobject, rfl, hhinted hint rfl (⟨0⟩, .image .u8) (by decide), hoverlapping.2 ?_⟩
  unfold Node.Consistent Constraint.Overlapping
  decide

/-- Slots for images of two formats exclude each other. The node is added nevertheless, as its
object was bound to nothing before. -/
theorem incompatible_readTwice :
    let hint : ImageHint := { format := none, width := none, height := none }
    let object := imageRead hint (.image .u8) (.image .u16)
    (applyAll (.empty ⟨0⟩ Operation.plainContext)
        (readTwice hint (.image .u8) (.image .u16))).arena.byId? ⟨0⟩ = some object ∧
      object.isVirtual = true ∧ ¬Constraint.Overlapping (object.constraints.map Prod.snd) := by
  intro hint object
  refine ⟨rfl, rfl, ?_⟩
  unfold Constraint.Overlapping
  decide

end Call

end ImageFlow
