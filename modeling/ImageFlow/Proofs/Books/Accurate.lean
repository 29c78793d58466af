import ImageFlow.Proofs.Books.Entries

/-!
# Accurate books

The books of a graph are accurate if they are balanced and if the counts held by clients are those
that the history of successful calls makes them. No operation makes them inaccurate, and neither
does any part of a verification.
-/

namespace ImageFlow

/-! ## References of clients -/

theorem DataObject.exists_of_release {object left : DataObject} (h : object.release = .ok left) :
    ∃ clients, object.clientRefs = clients + 1 ∧ left = { object with clientRefs := clients } := by
  unfold release at h
  split at h
  · cases h
  · next clients hclients =>
    cases h
    exact ⟨clients, hclients, rfl⟩

/-- The client counts agree with the history, given by how often each object has been retained and
released. An object that has been freed has been released once more than it was retained. -/
structure Ledger.Tallied (ledger : Ledger) (retains releases : DataId → Nat) : Prop where
  outstanding : ∀ data account, ledger.account data = some account →
    account.clientRefs + releases data = 1 + retains data
  freed : ∀ data, data.index < ledger.created → ledger.account data = none →
    releases data = 1 + retains data
  fresh : ∀ data, ledger.created ≤ data.index →
    ledger.account data = none ∧ retains data = 0 ∧ releases data = 0

/-- The books say what they should. -/
structure Graph.Accurate (graph : Graph) (retains releases : DataId → Nat) : Prop where
  balanced : graph.ledger.Balanced
  tallied : graph.ledger.Tallied retains releases

/-- A history with some objects counted once more. -/
def recount (counts : DataId → Nat) (more : DataId → Bool) (data : DataId) : Nat :=
  counts data + if more data then 1 else 0

theorem recount_none (counts : DataId → Nat) : recount counts (fun _ ↦ false) = counts := by
  funext data
  simp [recount]

namespace Ledger

variable {ledger ledger' : Ledger} {retains releases : DataId → Nat}

/-- No object is released more often than clients hold it. -/
theorem Tallied.releases_le (h : ledger.Tallied retains releases) {data : DataId}
    (hlt : data.index < ledger.created) : releases data ≤ 1 + retains data := by
  cases haccount : ledger.account data with
  | none => exact Nat.le_of_eq (h.freed data hlt haccount)
  | some account =>
    have houtstanding := h.outstanding data account haccount
    omega

/-- Objects may be freed that no client holds, and all others keep their clients. -/
theorem Tallied.of_same_clients (h : ledger.Tallied retains releases)
    (hcreated : ledger'.created = ledger.created)
    (hsome : ∀ data account, ledger'.account data = some account →
      ∃ before, ledger.account data = some before ∧ account.clientRefs = before.clientRefs)
    (hnone : ∀ data before, ledger'.account data = none → ledger.account data = some before →
      before.clientRefs = 0) : ledger'.Tallied retains releases where
  outstanding data account haccount := by
    obtain ⟨before, hbefore, hclients⟩ := hsome data account haccount
    rw [hclients]
    exact h.outstanding data before hbefore
  freed data hlt haccount := by
    rw [hcreated] at hlt
    cases hbefore : ledger.account data with
    | none => exact h.freed data hlt hbefore
    | some before =>
      have houtstanding := h.outstanding data before hbefore
      rw [hnone data before haccount hbefore, Nat.zero_add] at houtstanding
      exact houtstanding
  fresh data hle := by
    rw [hcreated] at hle
    obtain ⟨hbefore, hcounts⟩ := h.fresh data hle
    refine ⟨?_, hcounts⟩
    cases hafter : ledger'.account data with
    | none => rfl
    | some account =>
      obtain ⟨before, hsome, -⟩ := hsome data account hafter
      rw [hbefore] at hsome
      cases hsome

/-- The first reference to a new object counts for neither a retain nor a release. -/
theorem Tallied.opened (h : ledger.Tallied retains releases) {id : DataId}
    {account : Account} (hid : id.index = ledger.created) (hclients : account.clientRefs = 1) :
    (ledger.opened id account).Tallied retains releases where
  outstanding data found hfound := by
    by_cases hdata : data = id
    · rw [hdata, account_opened_self] at hfound
      cases hfound
      obtain ⟨-, hretains, hreleases⟩ := h.fresh id (Nat.le_of_eq hid.symm)
      rw [hdata, hclients, hretains, hreleases]
    · rw [account_opened_of_ne hdata] at hfound
      exact h.outstanding data found hfound
  freed data hlt hnone := by
    have hdata : data ≠ id := by
      rintro rfl
      rw [account_opened_self] at hnone
      cases hnone
    rw [account_opened_of_ne hdata] at hnone
    have hne : data.index ≠ id.index := fun hindex ↦ hdata (Arena.index_eq_iff.1 hindex)
    have hlt' : data.index < ledger.created + 1 := hlt
    exact h.freed data (by omega) hnone
  fresh data hle := by
    have hle' : ledger.created + 1 ≤ data.index := hle
    have hdata : data ≠ id := by
      rintro rfl
      omega
    rw [account_opened_of_ne hdata]
    exact h.fresh data (by omega)

theorem Tallied.withClients (h : ledger.Tallied retains releases) {id : DataId}
    {account : Account} {clients : Nat} (haccount : ledger.account id = some account)
    {retains' releases' : DataId → Nat} (hcount : clients + releases' id = 1 + retains' id)
    (hother : ∀ data, data ≠ id → retains' data = retains data ∧ releases' data = releases data) :
    (ledger.withClients id clients).Tallied retains' releases' where
  outstanding data left hleft := by
    by_cases hdata : data = id
    · rw [hdata, account_withClients_self haccount] at hleft
      obtain ⟨-, rfl⟩ := Account.of_withClients hleft
      rw [hdata]
      exact hcount
    · rw [account_withClients_of_ne hdata] at hleft
      rw [(hother data hdata).1, (hother data hdata).2]
      exact h.outstanding data left hleft
  freed data hlt hnone := by
    by_cases hdata : data = id
    · rw [hdata, account_withClients_self haccount, Account.withClients] at hnone
      have hzero : clients + account.slotRefs = 0 := by simpa using hnone
      rw [hdata]
      omega
    · rw [account_withClients_of_ne hdata] at hnone
      rw [(hother data hdata).1, (hother data hdata).2]
      exact h.freed data hlt hnone
  fresh data hle := by
    obtain ⟨hnone, hcounts⟩ := h.fresh data hle
    have hdata : data ≠ id := by
      rintro rfl
      rw [hnone] at haccount
      cases haccount
    rw [account_withClients_of_ne hdata, (hother data hdata).1, (hother data hdata).2]
    exact ⟨hnone, hcounts⟩

end Ledger

namespace Graph

variable {before after : Graph} {retains releases : DataId → Nat}

/-- The books after an object has been put into a new place. -/
theorem ledger_push (object : DataObject) :
    (before.withNew (before.arena.push object)).2.ledger =
      before.ledger.opened before.arena.nextId object.account := by
  have haccount (data : DataId) :
      ((before.arena.push object).2.byId? data).map DataObject.account =
        (before.ledger.opened before.arena.nextId object.account).account data := by
    by_cases hdata : data = before.arena.nextId
    · rw [hdata, Arena.byId?_push_self, Ledger.account_opened_self]
      rfl
    · rw [Arena.byId?_push_of_ne hdata, Ledger.account_opened_of_ne hdata]
      rfl
  simp only [ledger, withNew, haccount]
  simp [Ledger.opened, Arena.push]

theorem Accurate.made (h : before.Accurate retains releases) {object : DataObject}
    (hfresh : object.Fresh before.arena.nextId) :
    (before.withNew (before.arena.push object)).2.Accurate retains releases := by
  have hclients : object.account.clientRefs = 1 := hfresh.clientRefs_eq
  have hnone : before.ledger.account before.arena.nextId = none :=
    (h.tallied.fresh before.arena.nextId (Nat.le_refl _)).1
  constructor
  · rw [ledger_push]
    apply h.balanced.opened hnone hfresh.id_eq _ hfresh.slotRefs_eq hfresh.constraints_eq
    omega
  · rw [ledger_push]
    exact h.tallied.opened rfl hclients

/-- The books after the place of an object has been set. -/
theorem ledger_set {id : DataId} {object : DataObject} {entry : Option DataObject} {clients : Nat}
    (hobject : before.arena.byId? id = some object)
    (hentry : entry.map DataObject.account = object.account.withClients clients) :
    ledger { before with arena := before.arena.set id entry } =
      before.ledger.withClients id clients := by
  have haccount (data : DataId) :
      ((before.arena.set id entry).byId? data).map DataObject.account =
        (before.ledger.withClients id clients).account data := by
    rw [Arena.byId?_set (Arena.index_lt_of_byId? hobject), Ledger.withClients]
    by_cases hdata : data = id
    · rw [hdata, if_pos rfl, hentry]
      simp [account_of_byId? hobject]
    · simp [hdata, ledger]
  simp only [ledger, haccount, Arena.graph_set, Arena.length_slots_set]
  rfl

/-- The books after a client has come to hold one more reference. -/
theorem ledger_retained {ref : DataRef} {object : DataObject}
    (hobject : before.arena.get ref = .ok object) :
    ledger { before with arena := before.arena.set ref.id (some object.retain) } =
      before.ledger.withClients ref.id (object.clientRefs + 1) := by
  refine ledger_set (Arena.get_eq_ok_iff.1 hobject).2 ?_
  rw [Account.withClients, if_neg (by omega)]
  rfl

/-- The books after a client has given back a reference. -/
theorem ledger_released (hbalanced : before.ledger.Balanced) {ref : DataRef}
    {object left : DataObject} (hobject : before.arena.get ref = .ok object)
    (hleft : object.release = .ok left) :
    ∃ clients, object.clientRefs = clients + 1 ∧
      ledger { before with arena := before.arena.store left } =
        before.ledger.withClients ref.id clients := by
  have hlive := (Arena.get_eq_ok_iff.1 hobject).2
  have hid : object.id = ref.id := hbalanced.placed ref.id _ (account_of_byId? hlive)
  obtain ⟨clients, hclients, rfl⟩ := DataObject.exists_of_release hleft
  refine ⟨clients, hclients, ?_⟩
  have hstore : before.arena.store { object with clientRefs := clients } =
      before.arena.set ref.id (DataObject.ifHeld { object with clientRefs := clients }) := by
    rw [← hid]
    rfl
  rw [hstore]
  refine ledger_set hlive ?_
  unfold DataObject.ifHeld
  change _ = if clients + object.slotRefs = 0 then none else _
  rw [DataObject.refCount]
  split <;> rfl

theorem Accurate.retained (h : before.Accurate retains releases) {ref : DataRef}
    {object : DataObject} (hobject : before.arena.get ref = .ok object) :
    Accurate { before with arena := before.arena.set ref.id (some object.retain) }
      (recount retains (ref.id == ·)) releases := by
  have haccount := account_of_byId? (Arena.get_eq_ok_iff.1 hobject).2
  have hledger := ledger_retained hobject
  constructor
  · rw [hledger]
    exact h.balanced.withClients haccount
  rw [hledger]
  apply h.tallied.withClients haccount
  · have houtstanding : object.clientRefs + releases ref.id = 1 + retains ref.id :=
      h.tallied.outstanding ref.id _ haccount
    simp [recount]
    omega
  · intro data hdata
    simp [recount, Ne.symm hdata]

theorem Accurate.released (h : before.Accurate retains releases) {ref : DataRef}
    {object left : DataObject} (hobject : before.arena.get ref = .ok object)
    (hleft : object.release = .ok left) :
    Accurate { before with arena := before.arena.store left }
      retains (recount releases (ref.id == ·)) := by
  have haccount := account_of_byId? (Arena.get_eq_ok_iff.1 hobject).2
  obtain ⟨clients, hclients, hledger⟩ := ledger_released h.balanced hobject hleft
  constructor
  · rw [hledger]
    exact h.balanced.withClients haccount
  rw [hledger]
  apply h.tallied.withClients haccount
  · have houtstanding : object.clientRefs + releases ref.id = 1 + retains ref.id :=
      h.tallied.outstanding ref.id _ haccount
    simp [recount]
    omega
  · intro data hdata
    simp [recount, Ne.symm hdata]

/-! ## Every operation -/

theorem Accurate.added (h : before.Accurate retains releases) {kernel : RegisteredKernel}
    {refs : List DataRef} {id : NodeId}
    (hadd : before.addNodeWithKernel kernel refs = .ok (id, after)) :
    after.Accurate retains releases := by
  obtain ⟨hcheck, hledger⟩ := ledger_of_addNodeWithKernel hadd
  obtain ⟨hlength, hlive, haliases⟩ := of_checkNode hcheck
  constructor
  · rw [hledger]
    refine h.balanced.add rfl hlength ?_ haliases ?_
    · intro ref href
      obtain ⟨object, hobject⟩ := hlive ref href
      exact (Arena.get_eq_ok_iff.1 hobject).1
    · intro ref href
      obtain ⟨object, hobject⟩ := hlive ref href
      rw [account_of_byId? (Arena.get_eq_ok_iff.1 hobject).2]
      rfl
  · rw [hledger]
    refine h.tallied.of_same_clients rfl ?_ ?_
    · intro data account haccount
      obtain ⟨origin, horigin, rfl⟩ := Option.map_eq_some_iff.1 haccount
      exact ⟨origin, horigin, rfl⟩
    · intro data origin hnone horigin
      have hsome : (before.ledger.add (before.newWiring kernel refs)).account data =
          (before.ledger.account data).map _ := rfl
      rw [hsome, horigin] at hnone
      cases hnone

theorem Accurate.removed (h : before.Accurate retains releases) {id : NodeId}
    (hremove : before.removeNode id = .ok after) : after.Accurate retains releases := by
  obtain ⟨node, hnode, hledger⟩ := ledger_of_removeNode h.balanced hremove
  have hmem : node.wiring ∈ before.ledger.wirings := List.mem_map_of_mem hnode
  constructor
  · rw [hledger]
    exact h.balanced.remove hmem
  · rw [hledger]
    refine h.tallied.of_same_clients rfl ?_ ?_
    · intro data account haccount
      rw [Ledger.remove] at haccount
      dsimp only at haccount
      split at haccount
      · exact ⟨account, haccount, rfl⟩
      · obtain ⟨origin, horigin, hleft⟩ := Option.bind_eq_some_iff.1 haccount
        unfold Account.unbound at hleft
        split at hleft
        · cases hleft
        · cases hleft
          exact ⟨origin, horigin, rfl⟩
    · intro data origin hnone horigin
      rw [Ledger.remove] at hnone
      dsimp only at hnone
      rw [horigin] at hnone
      split at hnone
      · cases hnone
      · have hfreed :
            origin.clientRefs + (origin.slotRefs - holdsOf data node.wiring.refs) = 0 := by
          simpa [Account.unbound] using hnone
        omega

/-- What leaves the books alone and concerns no reference of a client. -/
theorem Accurate.quiet (h : before.Accurate retains releases)
    (hledger : after.ledger = before.ledger) :
    after.Accurate (recount retains fun _ ↦ false) (recount releases fun _ ↦ false) := by
  rw [recount_none, recount_none]
  constructor
  · rw [hledger]
    exact h.balanced
  · rw [hledger]
    exact h.tallied

theorem Accurate.change (h : before.Accurate retains releases) {retained released : DataId → Bool}
    (hchange : before.Change retained released after) :
    after.Accurate (recount retains retained) (recount releases released) := by
  cases hchange with
  | worked hworked => exact h.quiet hworked.ledger_eq
  | made object hfresh =>
    rw [recount_none, recount_none]
    exact h.made hfresh
  | retained ref object hobject =>
    rw [recount_none]
    exact h.retained hobject
  | released ref object left hobject hleft =>
    rw [recount_none]
    exact h.released hobject hleft
  | added kernel refs id hadd =>
    rw [recount_none, recount_none]
    exact h.added hadd
  | removed id hremove =>
    rw [recount_none, recount_none]
    exact h.removed hremove
  | retargeted id affinity =>
    have hworked : before.Worked (before.modifyNode id ({ · with affinity })) :=
      worked_modifyNode id (fun _ ↦ rfl) fun _ ↦ rfl
    exact h.quiet hworked.ledger_eq
  | verified start hstart =>
    have hsame : start.ledger = before.ledger := by rcases hstart with rfl | rfl <;> rfl
    exact h.quiet ((ledger_runStages (fun _ ↦ Stage.redrafts_of_mem_standard) start).trans hsame)

theorem accurate_empty (id : GraphId) (context : Context) :
    (empty id context).Accurate (fun _ ↦ 0) (fun _ ↦ 0) := by
  have hnone (data : DataId) : (empty id context).ledger.account data = none := rfl
  constructor
  · constructor
    · exact List.Pairwise.nil
    · simp [ledger, empty]
    · simp [ledger, empty]
    · simp [ledger, empty]
    · simp [ledger, empty]
    · simp [hnone]
    · simp [hnone]
    · simp [hnone]
    · simp [ledger, empty, Ledger.slotsOn]
    · simp [hnone]
    · exact List.Pairwise.nil
    · simp [ledger, empty, Ledger.writersOf, Ordered.find?]
  · constructor
    · simp [hnone]
    · simp [ledger, empty, Arena.empty]
    · simp [hnone]

theorem Accurate.move {graph : Graph} (h : graph.Accurate retains releases) (move : Move) :
    (move.apply graph).Accurate (recount retains fun data ↦ move.retains graph data)
      (recount releases fun data ↦ move.releases graph data) := by
  cases move with
  | operation call => exact h.change (call.change graph)
  | begin => exact h.quiet rfl
  | stage part hstandard plan events =>
    exact h.quiet
      (ledger_eq_of_redrafted (Stage.redrafts_of_mem_standard hstandard { graph, plan, events }))
  | install plan => exact h.quiet rfl
  | abort => exact h.quiet (ledger_abortVerification graph)

end Graph

namespace Move

/-- How often the moves of a list retain an object for a client. -/
def retained (graph : Graph) (moves : List Move) (data : DataId) : Nat :=
  count (fun now move ↦ move.retains now data) graph moves

/-- How often the moves of a list take a client's reference to an object away. -/
def released (graph : Graph) (moves : List Move) (data : DataId) : Nat :=
  count (fun now move ↦ move.releases now data) graph moves

theorem accurate_applyAll {graph : Graph} {retains releases : DataId → Nat}
    (h : graph.Accurate retains releases) (moves : List Move) :
    (applyAll graph moves).Accurate (fun data ↦ retains data + retained graph moves data)
      (fun data ↦ releases data + released graph moves data) := by
  induction moves generalizing graph retains releases with
  | nil => exact h
  | cons move rest ih =>
    have hrest := ih (h.move move)
    have hcount (counts : DataId → Nat) (meets : DataId → Graph → Move → Bool) :
        (fun data ↦ recount counts (fun data ↦ meets data graph move) data +
          count (meets data) (move.apply graph) rest) =
        fun data ↦ counts data + count (meets data) graph (move :: rest) := by
      funext data
      rw [recount, count, Nat.add_assoc]
    have hretained := hcount retains fun data now move ↦ move.retains now data
    have hreleased := hcount releases fun data now move ↦ move.releases now data
    unfold retained released at hrest ⊢
    rw [← hretained, ← hreleased]
    exact hrest

end Move

end ImageFlow
