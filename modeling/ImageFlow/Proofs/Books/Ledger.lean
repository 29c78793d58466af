import ImageFlow.Proofs.Data.Arena
import ImageFlow.Proofs.Ordered
import Mathlib.Data.List.Nodup

/-!
# The books of a graph

A graph keeps several records of which node is bound to which object: the handles of the nodes, the
two reference counts and the constraints of the objects, and the map of producers. The books of a
graph are what these records hold, without payloads, shapes, counters and what kernels compute. They
are balanced when the records agree with the handles of the nodes. Everything that leaves the books
alone keeps them balanced; the lemmas here treat what changes them.
-/

namespace ImageFlow

/-- How a node is connected. -/
structure Wiring where
  id : NodeId
  refs : List DataRef
  signature : Signature

/-- What an object records of its holders. -/
structure Account where
  id : DataId
  isVirtual : Bool
  hint : Option ImageHint
  constraints : List (NodeId × Constraint)
  clientRefs : Nat
  slotRefs : Nat

/-- The books of a graph. -/
structure Ledger where
  scope : GraphId
  /-- Number of objects ever made. -/
  created : Nat
  account : DataId → Option Account
  wirings : List Wiring
  nextNode : Nat
  producers : List (DataId × List NodeId)

def Node.wiring (node : Node) : Wiring :=
  { id := node.id, refs := node.refs, signature := node.signature }

def DataObject.account (object : DataObject) : Account :=
  { id := object.id
    isVirtual := object.isVirtual
    hint := object.hint
    constraints := object.constraints
    clientRefs := object.clientRefs
    slotRefs := object.slotRefs }

def Graph.ledger (graph : Graph) : Ledger :=
  { scope := graph.arena.graph
    created := graph.arena.slots.length
    account := fun data ↦ (graph.arena.byId? data).map DataObject.account
    wirings := graph.nodes.map Node.wiring
    nextNode := graph.nextNode
    producers := graph.producers }

theorem Graph.account_of_byId? {graph : Graph} {data : DataId} {object : DataObject}
    (h : graph.arena.byId? data = some object) :
    graph.ledger.account data = some object.account := by
  simp [ledger, h]

theorem Graph.exists_of_account {graph : Graph} {data : DataId} {account : Account}
    (h : graph.ledger.account data = some account) :
    ∃ object, graph.arena.byId? data = some object ∧ object.account = account :=
  Option.map_eq_some_iff.1 h

theorem Graph.id_of_node? {graph : Graph} {id : NodeId} {node : Node}
    (h : graph.node? id = some node) : node.id = id := by
  simpa using List.find?_some h

namespace Wiring

/-- The handles of a node with the slots they are bound to. -/
def slots (wiring : Wiring) : List (DataRef × Parameter) :=
  wiring.refs.zip wiring.signature.parameters

/-- The objects that the node reads. -/
def reads (wiring : Wiring) : List DataId :=
  (wiring.slots.filter (·.2.direction.reads)).map (·.1.id)

/-- Whether the node writes an object. -/
def writes (wiring : Wiring) (data : DataId) : Bool :=
  wiring.slots.any fun slot ↦ slot.1.id == data && slot.2.direction.writes

/-- The slots of the node that are bound to an object, each with the node. -/
def slotsOn (wiring : Wiring) (data : DataId) : List (NodeId × Parameter) :=
  (Graph.slotsOn data wiring.slots).map fun slot ↦ (wiring.id, slot)

end Wiring

namespace Node

/-- The bindings of a node, as far as their numbers do not matter, are its slots. -/
theorem ids_bindings (node : Node) (p : Direction → Bool) :
    (node.bindings.filter (p ·.direction)).map (·.ref.id) =
      (node.wiring.slots.filter (p ·.2.direction)).map (·.1.id) := by
  have hslots : node.wiring.slots = node.wiring.slots.zipIdx.map Prod.fst :=
    (List.zipIdx_map_fst 0 _).symm
  rw [hslots, bindings]
  simp only [List.filter_map, List.map_map]
  rfl

theorem getElem?_bindings (node : Node) (slot : Nat) :
    node.bindings[slot]? = (node.wiring.slots[slot]?).map fun (ref, parameter) ↦
      { slot, ref, direction := parameter.direction } := by
  change ((node.wiring.slots.zipIdx).map _)[slot]? = _
  rw [List.getElem?_map, List.getElem?_zipIdx]
  cases node.wiring.slots[slot]? <;> simp

/-- Every slot of a node has a binding that stands beside the slot's parameter. -/
theorem exists_mem_zip_bindings {node : Node} {entry : DataRef × Parameter}
    (h : entry ∈ node.wiring.slots) :
    ∃ binding, (binding, entry.2) ∈ node.bindings.zip node.signature.parameters ∧
      binding.ref = entry.1 := by
  obtain ⟨slot, hslot⟩ := List.getElem?_of_mem h
  have hbinding := node.getElem?_bindings slot
  rw [hslot, Option.map_some] at hbinding
  have hparameter : node.signature.parameters[slot]? = some entry.2 :=
    (List.getElem?_zip_eq_some.1 hslot).2
  refine ⟨_, List.mem_of_getElem? (List.getElem?_zip_eq_some.2 ⟨hbinding, hparameter⟩), rfl⟩

theorem exists_slot_of_mem_bindings {node : Node} {binding : Binding}
    (h : binding ∈ node.bindings) :
    ∃ parameter, (binding.ref, parameter) ∈ node.wiring.slots ∧
      parameter.direction = binding.direction := by
  obtain ⟨⟨⟨ref, parameter⟩, slot⟩, hmem, rfl⟩ := List.mem_map.1 h
  exact ⟨parameter, List.fst_mem_of_mem_zipIdx hmem, rfl⟩

theorem ref_mem_of_mem_bindings {node : Node} {binding : Binding} (h : binding ∈ node.bindings) :
    binding.ref ∈ node.refs := by
  obtain ⟨parameter, hslot, -⟩ := exists_slot_of_mem_bindings h
  exact (List.of_mem_zip hslot).1

theorem reads_eq (node : Node) : node.reads = node.wiring.reads :=
  node.ids_bindings Direction.reads

theorem mem_writes_iff {node : Node} {data : DataId} :
    data ∈ node.writes ↔ node.wiring.writes data = true := by
  have hids : node.writes =
      (node.wiring.slots.filter (·.2.direction.writes)).map (·.1.id) :=
    node.ids_bindings Direction.writes
  simp only [hids, List.mem_map, List.mem_filter, Wiring.writes, List.any_eq_true,
    Bool.and_eq_true, beq_iff_eq]
  constructor
  · rintro ⟨slot, ⟨hslot, hwrites⟩, hdata⟩
    exact ⟨slot, hslot, hdata, hwrites⟩
  · rintro ⟨slot, hslot, hdata, hwrites⟩
    exact ⟨slot, ⟨hslot, hwrites⟩, hdata⟩

end Node

theorem Direction.eq_output_of_not_reads {direction : Direction} (h : ¬direction.reads = true) :
    direction = .output := by
  cases direction with
  | output => rfl
  | input => exact absurd rfl h
  | bidirectional => exact absurd rfl h

/-- No two slots share an object that one of them writes. -/
def Unaliased (slots : List (DataRef × Parameter)) : Prop :=
  slots.Pairwise fun a b ↦
    a.1.id = b.1.id → a.2.direction.writes = false ∧ b.2.direction.writes = false

/-- Slots on one object are either all written or all read only. -/
theorem Unaliased.writes_eq {slots : List (DataRef × Parameter)} (h : Unaliased slots)
    {a b : DataRef × Parameter} (ha : a ∈ slots) (hb : b ∈ slots) (hid : a.1.id = b.1.id) :
    a.2.direction.writes = b.2.direction.writes := by
  have hforth : slots.Pairwise fun a b ↦
      a.1.id = b.1.id → a.2.direction.writes = b.2.direction.writes := by
    apply h.imp
    intro a b hab hid
    rw [(hab hid).1, (hab hid).2]
  have hback : slots.Pairwise fun a b ↦
      b.1.id = a.1.id → b.2.direction.writes = a.2.direction.writes :=
    hforth.imp fun hab hid ↦ (hab hid.symm).symm
  exact List.Pairwise.forall_of_forall_of_flip (fun _ _ _ ↦ rfl) hforth hback ha hb hid

/-- Two different slots do not share an object if one of them is written. -/
theorem Unaliased.writes_eq_false {slots : List (DataRef × Parameter)} (h : Unaliased slots)
    {a b : DataRef × Parameter} (ha : a ∈ slots) (hb : b ∈ slots) (hne : a ≠ b)
    (hid : a.1.id = b.1.id) : b.2.direction.writes = false := by
  have hforth : slots.Pairwise fun a b ↦
      a ≠ b → a.1.id = b.1.id → b.2.direction.writes = false :=
    h.imp fun hab _ hid ↦ (hab hid).2
  have hback : slots.Pairwise fun a b ↦
      b ≠ a → b.1.id = a.1.id → a.2.direction.writes = false :=
    h.imp fun hab _ hid ↦ (hab hid.symm).1
  exact List.Pairwise.forall_of_forall_of_flip (fun _ _ hne ↦ absurd rfl hne) hforth hback ha hb
    hne hid

namespace Account

/-- An account that clients hold so many references to; none if nothing is left. -/
def withClients (clients : Nat) (account : Account) : Option Account :=
  if clients + account.slotRefs = 0 then none else some { account with clientRefs := clients }

theorem of_withClients {clients : Nat} {account left : Account}
    (h : account.withClients clients = some left) :
    0 < clients + account.slotRefs ∧ left = { account with clientRefs := clients } := by
  unfold withClients at h
  split at h
  · cases h
  · next hheld =>
    cases h
    exact ⟨Nat.pos_of_ne_zero hheld, rfl⟩

end Account

namespace Ledger

/-- The slots of all nodes that are bound to an object, in node then slot order. -/
def slotsOn (ledger : Ledger) (data : DataId) : List (NodeId × Parameter) :=
  ledger.wirings.flatMap (·.slotsOn data)

/-- The nodes that write an object, oldest first. -/
def writersOf (ledger : Ledger) (data : DataId) : List NodeId :=
  (ledger.wirings.filter (·.writes data)).map Wiring.id

/-- All records agree with the handles of the nodes. -/
structure Balanced (ledger : Ledger) : Prop where
  increasing : (ledger.wirings.map Wiring.id).Pairwise (· < ·)
  below : ∀ wiring ∈ ledger.wirings, wiring.id.index < ledger.nextNode
  complete : ∀ wiring ∈ ledger.wirings, wiring.refs.length = wiring.signature.parameters.length
  own : ∀ wiring ∈ ledger.wirings, ∀ ref ∈ wiring.refs, ref.graph = ledger.scope
  unaliased : ∀ wiring ∈ ledger.wirings, Unaliased wiring.slots
  placed : ∀ data account, ledger.account data = some account → account.id = data
  held : ∀ data account, ledger.account data = some account →
    0 < account.clientRefs + account.slotRefs
  counted : ∀ data account, ledger.account data = some account →
    account.slotRefs = (ledger.slotsOn data).length
  live : ∀ data, ledger.slotsOn data ≠ [] → (ledger.account data).isSome
  recorded : ∀ data account, ledger.account data = some account →
    account.constraints =
      if account.isVirtual then (ledger.slotsOn data).map fun (node, slot) ↦ (node, slot.constraint)
      else []
  sorted : Ordered.Sorted (ledger.producers.map Prod.fst)
  produced : ∀ data, Ordered.find? data ledger.producers =
    if ledger.writersOf data = [] then none else some (ledger.writersOf data)

theorem Balanced.slotsOn_eq_nil {ledger : Ledger} (h : ledger.Balanced) {data : DataId}
    (hnone : ledger.account data = none) : ledger.slotsOn data = [] := by
  by_contra hbound
  have hsome := h.live data hbound
  rw [hnone] at hsome
  cases hsome

/-- The map of producers has no entry without a writer. -/
theorem Balanced.ne_nil_of_mem_producers {ledger : Ledger} (h : ledger.Balanced)
    {entry : DataId × List NodeId} (hentry : entry ∈ ledger.producers) : entry.2 ≠ [] := by
  intro hempty
  have hfound := (Ordered.find?_eq_some_iff h.sorted).2 hentry
  have hproduced := h.produced entry.1
  rw [hfound, hempty] at hproduced
  split at hproduced
  · cases hproduced
  · next hnonempty => exact hnonempty (Option.some.inj hproduced).symm

/-! ## Clients -/

/-- Clients make objects, and take and give back references of their own. What nodes hold stays. -/
theorem Balanced.of_clients {ledger ledger' : Ledger} (h : ledger.Balanced)
    (hscope : ledger'.scope = ledger.scope) (hwirings : ledger'.wirings = ledger.wirings)
    (hnext : ledger'.nextNode = ledger.nextNode) (hproducers : ledger'.producers = ledger.producers)
    (haccount : ∀ data account, ledger'.account data = some account →
      account.id = data ∧ 0 < account.clientRefs + account.slotRefs ∧
        ((∃ before, ledger.account data = some before ∧ account.slotRefs = before.slotRefs ∧
            account.constraints = before.constraints ∧ account.isVirtual = before.isVirtual) ∨
          ledger.account data = none ∧ account.slotRefs = 0 ∧ account.constraints = []))
    (hlive : ∀ data account, ledger.account data = some account → 0 < account.slotRefs →
      (ledger'.account data).isSome) : ledger'.Balanced := by
  have hslots (data : DataId) : ledger'.slotsOn data = ledger.slotsOn data := by
    rw [slotsOn, slotsOn, hwirings]
  have hwriters (data : DataId) : ledger'.writersOf data = ledger.writersOf data := by
    rw [writersOf, writersOf, hwirings]
  exact
    { increasing := by
        rw [hwirings]
        exact h.increasing
      below := by
        rw [hwirings, hnext]
        exact h.below
      complete := by
        rw [hwirings]
        exact h.complete
      own := by
        rw [hwirings, hscope]
        exact h.own
      unaliased := by
        rw [hwirings]
        exact h.unaliased
      placed := fun data account hsome ↦ (haccount data account hsome).1
      held := fun data account hsome ↦ (haccount data account hsome).2.1
      counted := by
        intro data account hsome
        rw [hslots]
        rcases (haccount data account hsome).2.2 with
          ⟨before, hbefore, hrefs, -⟩ | ⟨hnone, hrefs, -⟩
        · rw [hrefs]
          exact h.counted data before hbefore
        · rw [hrefs, h.slotsOn_eq_nil hnone]
          rfl
      live := by
        intro data hbound
        rw [hslots] at hbound
        obtain ⟨before, hbefore⟩ := Option.isSome_iff_exists.1 (h.live data hbound)
        apply hlive data before hbefore
        rw [h.counted data before hbefore]
        exact List.length_pos_iff.2 hbound
      recorded := by
        intro data account hsome
        rw [hslots]
        rcases (haccount data account hsome).2.2 with
          ⟨before, hbefore, -, hconstraints, hvirtual⟩ | ⟨hnone, -, hconstraints⟩
        · rw [hconstraints, hvirtual]
          exact h.recorded data before hbefore
        · rw [hconstraints, h.slotsOn_eq_nil hnone]
          simp
      sorted := by
        rw [hproducers]
        exact h.sorted
      produced := by
        intro data
        rw [hproducers, hwriters]
        exact h.produced data }

/-- The books after an object has been made. -/
def opened (ledger : Ledger) (id : DataId) (account : Account) : Ledger :=
  { ledger with
    created := ledger.created + 1
    account := fun data ↦ if data = id then some account else ledger.account data }

/-- The books after clients have come to hold so many references to an object. -/
def withClients (ledger : Ledger) (id : DataId) (clients : Nat) : Ledger :=
  { ledger with
    account := fun data ↦
      if data = id then (ledger.account data).bind (Account.withClients clients)
      else ledger.account data }

variable {ledger : Ledger} {id data : DataId} {account : Account} {clients : Nat}

theorem account_opened_self : (ledger.opened id account).account id = some account := if_pos rfl

theorem account_opened_of_ne (h : data ≠ id) :
    (ledger.opened id account).account data = ledger.account data := if_neg h

theorem account_withClients_self (haccount : ledger.account id = some account) :
    (ledger.withClients id clients).account id = account.withClients clients := by
  rw [withClients]
  simp [haccount]

theorem account_withClients_of_ne (h : data ≠ id) :
    (ledger.withClients id clients).account data = ledger.account data := if_neg h

/-- An object in a place of its own, held by clients only, keeps the books balanced. -/
theorem Balanced.opened (h : ledger.Balanced) (hnone : ledger.account id = none)
    (hid : account.id = id) (hclients : 0 < account.clientRefs) (hslots : account.slotRefs = 0)
    (hconstraints : account.constraints = []) : (ledger.opened id account).Balanced := by
  refine h.of_clients rfl rfl rfl rfl ?_ ?_
  · intro data found hfound
    by_cases hdata : data = id
    · rw [hdata, account_opened_self] at hfound
      cases hfound
      rw [hdata]
      exact ⟨hid, Nat.add_pos_left hclients _, .inr ⟨hnone, hslots, hconstraints⟩⟩
    · rw [account_opened_of_ne hdata] at hfound
      exact ⟨h.placed data found hfound, h.held data found hfound,
        .inl ⟨found, hfound, rfl, rfl, rfl⟩⟩
  · intro data found hfound _
    have hdata : data ≠ id := by
      rintro rfl
      rw [hnone] at hfound
      cases hfound
    rw [account_opened_of_ne hdata, hfound]
    rfl

/-- Clients may hold as many references to an object as they like: if they hold none, it stays for
the nodes that hold it. -/
theorem Balanced.withClients (h : ledger.Balanced) (haccount : ledger.account id = some account) :
    (ledger.withClients id clients).Balanced := by
  refine h.of_clients rfl rfl rfl rfl ?_ ?_
  · intro data left hleft
    by_cases hdata : data = id
    · rw [hdata, account_withClients_self haccount] at hleft
      obtain ⟨hheld, rfl⟩ := Account.of_withClients hleft
      rw [hdata]
      exact ⟨h.placed id account haccount, hheld, .inl ⟨account, haccount, rfl, rfl, rfl⟩⟩
    · rw [account_withClients_of_ne hdata] at hleft
      exact ⟨h.placed data left hleft, h.held data left hleft, .inl ⟨left, hleft, rfl, rfl, rfl⟩⟩
  · intro data kept hkept hheld
    by_cases hdata : data = id
    · rw [hdata, haccount] at hkept
      cases hkept
      rw [hdata, account_withClients_self haccount, Account.withClients, if_neg (by omega)]
      rfl
    · rw [account_withClients_of_ne hdata, hkept]
      rfl

end Ledger

end ImageFlow
