import ImageFlow.Proofs.Books.Ledger

/-!
# Nodes enter and leave the books

A new node is entered behind all others, and a removed one is struck out everywhere. Both keep the
books balanced: what a slot adds to an account, to the constraints and to the map of producers when
its node is added is what the removal takes away again.
-/

namespace ImageFlow

/-! ## The map of producers -/

namespace Graph

variable {node : NodeId} {producers : List (DataId × List NodeId)} {data : DataId}

theorem addProducers_cons (slot : DataRef × Parameter) (rest : List (DataRef × Parameter)) :
    addProducers node producers (slot :: rest) =
      addProducers node
        (if slot.2.direction.writes then
          Ordered.alter slot.1.id (fun writers ↦ writers.getD [] ++ [node]) producers
        else producers) rest :=
  rfl

theorem sorted_addProducers (slots : List (DataRef × Parameter))
    (h : Ordered.Sorted (producers.map Prod.fst)) :
    Ordered.Sorted ((addProducers node producers slots).map Prod.fst) := by
  induction slots generalizing producers with
  | nil => exact h
  | cons slot rest ih =>
    rw [addProducers_cons]
    split
    · exact ih (Ordered.sorted_alter h)
    · exact ih h

theorem find?_addProducers (slots : List (DataRef × Parameter)) (hslots : Unaliased slots)
    (h : Ordered.Sorted (producers.map Prod.fst)) :
    Ordered.find? data (addProducers node producers slots) =
      if slots.any fun slot ↦ slot.1.id == data && slot.2.direction.writes then
        some ((Ordered.find? data producers).getD [] ++ [node])
      else Ordered.find? data producers := by
  induction slots generalizing producers with
  | nil => simp [addProducers]
  | cons slot rest ih =>
    obtain ⟨hslot, hrest⟩ := List.pairwise_cons.1 hslots
    rw [addProducers_cons, List.any_cons]
    cases hwrites : slot.2.direction.writes with
    | false =>
      rw [Bool.and_false, Bool.false_or]
      exact ih hrest h
    | true =>
      rw [Bool.and_true, if_pos rfl, ih hrest (Ordered.sorted_alter h)]
      by_cases hdata : slot.1.id = data
      · -- The object is written here, so no later slot may carry it.
        have hnone :
            (rest.any fun slot ↦ slot.1.id == data && slot.2.direction.writes) = false := by
          rw [List.any_eq_false]
          intro other hother hboth
          obtain ⟨hsame, -⟩ := Bool.and_eq_true_iff.1 hboth
          have hfree := hslot other hother (hdata.trans (beq_iff_eq.1 hsame).symm)
          rw [hwrites] at hfree
          cases hfree.1
        rw [hnone, hdata, Ordered.find?_alter_self h]
        simp
      · rw [Ordered.find?_alter_of_ne (Ne.symm hdata), beq_eq_false_iff_ne.2 hdata, Bool.false_or]

theorem sorted_removeProducers (h : Ordered.Sorted (producers.map Prod.fst)) :
    Ordered.Sorted ((removeProducers node producers).map Prod.fst) := by
  refine List.Pairwise.sublist ?_ h
  have hkeys : producers.map Prod.fst = (producers.map fun entry : DataId × List NodeId ↦
      (entry.1, entry.2.filter (· != node))).map Prod.fst := by
    rw [List.map_map]
    rfl
  rw [hkeys, removeProducers]
  exact List.filter_sublist.map _

theorem find?_removeProducers (h : Ordered.Sorted (producers.map Prod.fst)) :
    Ordered.find? data (removeProducers node producers) =
      (Ordered.find? data producers).bind fun writers ↦
        if writers.filter (· != node) = [] then none else some (writers.filter (· != node)) := by
  induction producers with
  | nil => rfl
  | cons entry rest ih =>
    obtain ⟨key, writers⟩ := entry
    obtain ⟨hkey, hrest⟩ := List.pairwise_cons.1 h
    have hstep : removeProducers node ((key, writers) :: rest) =
        if writers.filter (· != node) = [] then removeProducers node rest
        else (key, writers.filter (· != node)) :: removeProducers node rest := by
      simp only [removeProducers, List.map_cons, List.filter_cons]
      cases writers.filter (· != node) <;> simp
    by_cases hdata : data = key
    · have habsent : Ordered.find? data rest = none := by
        refine Ordered.find?_eq_none_of_forall_ne fun other hother heq ↦ ?_
        have hlt := hkey other.1 (List.mem_map_of_mem hother)
        rw [heq, hdata, Std.ReflOrd.compare_self] at hlt
        cases hlt
      have hfound : Ordered.find? data ((key, writers) :: rest) = some writers := by
        simp [Ordered.find?, hdata]
      rw [hstep, hfound, Option.bind_some]
      by_cases hempty : writers.filter (· != node) = []
      · rw [if_pos hempty, if_pos hempty, ih hrest, habsent]
        rfl
      · rw [if_neg hempty, if_neg hempty]
        simp [Ordered.find?, hdata]
    · have hne : compare data key ≠ .eq := fun heq ↦ hdata (Std.LawfulEqOrd.eq_of_compare heq)
      rw [hstep]
      split <;> simp [Ordered.find?, hne, ih hrest]

end Graph

/-! ## Adding and removing nodes -/

namespace Account

/-- An account after a node has been bound to the object in some slots. -/
def bound (node : NodeId) (slots : List Parameter) (account : Account) : Account :=
  { account with
    slotRefs := account.slotRefs + slots.length
    constraints := account.constraints ++
      if account.isVirtual then slots.map fun slot ↦ (node, slot.constraint) else [] }

/-- An account after a node has given back some of its slots; none if nothing is left. -/
def unbound (node : NodeId) (slots : Nat) (account : Account) : Option Account :=
  if account.clientRefs + (account.slotRefs - slots) = 0 then none
  else some { account with
    slotRefs := account.slotRefs - slots
    constraints := account.constraints.filter (·.1 != node) }

end Account

namespace Ledger

/-- The books after a node has been added. -/
def add (ledger : Ledger) (wiring : Wiring) : Ledger :=
  { ledger with
    account := fun data ↦
      (ledger.account data).map (Account.bound wiring.id (Graph.slotsOn data wiring.slots))
    wirings := ledger.wirings ++ [wiring]
    nextNode := ledger.nextNode + 1
    producers := Graph.addProducers wiring.id ledger.producers wiring.slots }

/-- The books after a node has been removed. -/
def remove (ledger : Ledger) (wiring : Wiring) : Ledger :=
  { ledger with
    account := fun data ↦
      if Graph.holdsOf data wiring.refs = 0 then ledger.account data
      else (ledger.account data).bind (Account.unbound wiring.id (Graph.holdsOf data wiring.refs))
    wirings := ledger.wirings.filter (·.id != wiring.id)
    producers := Graph.removeProducers wiring.id ledger.producers }

variable {ledger : Ledger} {wiring : Wiring} {data : DataId}

theorem slotsOn_add :
    (ledger.add wiring).slotsOn data = ledger.slotsOn data ++ wiring.slotsOn data := by
  simp [slotsOn, add]

theorem writersOf_add : (ledger.add wiring).writersOf data =
    ledger.writersOf data ++ if wiring.writes data then [wiring.id] else [] := by
  simp only [writersOf, add, List.filter_append, List.map_append]
  cases h : wiring.writes data <;> simp [h]

theorem forall_wirings_add {p : Wiring → Prop} :
    (∀ other ∈ (ledger.add wiring).wirings, p other) ↔
      (∀ other ∈ ledger.wirings, p other) ∧ p wiring := by
  simp [add, or_imp, forall_and]

theorem find?_producers_add (h : ledger.Balanced) (haliases : Unaliased wiring.slots)
    (data : DataId) : Ordered.find? data (ledger.add wiring).producers =
      if (ledger.add wiring).writersOf data = [] then none
      else some ((ledger.add wiring).writersOf data) := by
  rw [writersOf_add, Ledger.add]
  simp only
  rw [Graph.find?_addProducers wiring.slots haliases h.sorted, h.produced data]
  change (if wiring.writes data then _ else _) = _
  cases wiring.writes data with
  | false => simp
  | true =>
    have hne : ledger.writersOf data ++ [wiring.id] ≠ [] :=
      List.append_ne_nil_of_right_ne_nil _ (List.cons_ne_nil _ _)
    simp only [if_true, if_neg hne]
    by_cases hnone : ledger.writersOf data = [] <;> simp [hnone]

/-- A new node keeps the books balanced if its handles fit its slots, and are handles to live
objects none of which it writes through one slot and uses through another. -/
theorem Balanced.add (h : ledger.Balanced) (hid : wiring.id = ⟨ledger.nextNode⟩)
    (hcomplete : wiring.refs.length = wiring.signature.parameters.length)
    (hown : ∀ ref ∈ wiring.refs, ref.graph = ledger.scope) (haliases : Unaliased wiring.slots)
    (hlive : ∀ ref ∈ wiring.refs, (ledger.account ref.id).isSome) :
    (ledger.add wiring).Balanced := by
  exact
    { increasing := by
        simp only [Ledger.add, List.map_append, List.map_cons, List.map_nil]
        apply List.pairwise_append.2 ⟨h.increasing, List.pairwise_singleton _ _, ?_⟩
        intro a ha b hb
        obtain ⟨other, hother, rfl⟩ := List.mem_map.1 ha
        rw [List.mem_singleton.1 hb, hid]
        exact h.below other hother
      below := by
        change ∀ other ∈ (ledger.add wiring).wirings, other.id.index < ledger.nextNode + 1
        rw [forall_wirings_add]
        constructor
        · intro other hother
          exact Nat.lt_succ_of_lt (h.below other hother)
        · rw [hid]
          exact Nat.lt_succ_self _
      complete := forall_wirings_add.2 ⟨h.complete, hcomplete⟩
      own := forall_wirings_add.2 ⟨h.own, hown⟩
      unaliased := forall_wirings_add.2 ⟨h.unaliased, haliases⟩
      placed := by
        intro data account hsome
        obtain ⟨before, hbefore, rfl⟩ := Option.map_eq_some_iff.1 hsome
        exact h.placed data before hbefore
      held := by
        intro data account hsome
        obtain ⟨before, hbefore, rfl⟩ := Option.map_eq_some_iff.1 hsome
        have hheld := h.held data before hbefore
        simp only [Account.bound]
        omega
      counted := by
        intro data account hsome
        obtain ⟨before, hbefore, rfl⟩ := Option.map_eq_some_iff.1 hsome
        rw [slotsOn_add, List.length_append, ← h.counted data before hbefore]
        simp [Account.bound, Wiring.slotsOn]
      live := by
        intro data hbound
        rw [slotsOn_add] at hbound
        rw [Ledger.add, Option.isSome_map]
        by_cases hbefore : ledger.slotsOn data = []
        · rw [hbefore, List.nil_append] at hbound
          obtain ⟨⟨node, slot⟩, hslot⟩ := List.exists_mem_of_ne_nil _ hbound
          obtain ⟨slot, hslot, -⟩ := List.mem_map.1 hslot
          obtain ⟨⟨ref, parameter⟩, hpair, -⟩ := List.mem_map.1 hslot
          obtain ⟨hpair, hdata⟩ := List.mem_filter.1 hpair
          rw [← of_decide_eq_true hdata]
          exact hlive ref (List.of_mem_zip hpair).1
        · exact h.live data hbefore
      recorded := by
        intro data account hsome
        obtain ⟨before, hbefore, rfl⟩ := Option.map_eq_some_iff.1 hsome
        have hrecorded := h.recorded data before hbefore
        rw [slotsOn_add]
        cases hvirtual : before.isVirtual with
        | false => simpa [Account.bound, hvirtual] using hrecorded
        | true =>
          rw [hvirtual, if_pos rfl] at hrecorded
          simp [Account.bound, hvirtual, hrecorded, Wiring.slotsOn]
      sorted := Graph.sorted_addProducers wiring.slots h.sorted
      produced := find?_producers_add h haliases }

/-! The slots that are left once a node is gone. -/

theorem fst_of_mem_slotsOn {entry : NodeId × Parameter} (h : entry ∈ wiring.slotsOn data) :
    entry.1 = wiring.id := by
  obtain ⟨slot, -, rfl⟩ := List.mem_map.1 h
  rfl

theorem slotsOn_remove : (ledger.remove wiring).slotsOn data =
    (ledger.slotsOn data).filter (·.1 != wiring.id) := by
  simp only [slotsOn, remove]
  induction ledger.wirings with
  | nil => rfl
  | cons first rest ih =>
    rw [List.filter_cons, List.flatMap_cons, List.filter_append, ← ih]
    cases hsame : first.id != wiring.id with
    | false =>
      have hnone : (first.slotsOn data).filter (·.1 != wiring.id) = [] := by
        apply List.filter_eq_nil_iff.2
        intro entry hentry
        rw [fst_of_mem_slotsOn hentry, hsame]
        exact Bool.false_ne_true
      simp [hnone]
    | true =>
      have hall : (first.slotsOn data).filter (·.1 != wiring.id) = first.slotsOn data :=
        List.filter_eq_self.2 fun entry hentry ↦ by rw [fst_of_mem_slotsOn hentry, hsame]
      simp [hall]

theorem writersOf_remove : (ledger.remove wiring).writersOf data =
    (ledger.writersOf data).filter (· != wiring.id) := by
  simp only [writersOf, remove, List.filter_map, List.filter_filter]
  congr 1
  apply List.filter_congr
  intro other _
  rw [Bool.and_comm]
  rfl

theorem length_slotsOn_wiring
    (hcomplete : wiring.refs.length = wiring.signature.parameters.length) :
    (wiring.slotsOn data).length = Graph.holdsOf data wiring.refs := by
  have hrefs : wiring.slots.map Prod.fst = wiring.refs :=
    List.map_fst_zip (Nat.le_of_eq hcomplete)
  rw [Wiring.slotsOn, Graph.slotsOn, List.length_map, List.length_map,
    ← List.countP_eq_length_filter,
    Graph.holdsOf, ← hrefs, List.countP_map]
  rfl

theorem length_slotsOn_remove (hnodup : (ledger.wirings.map Wiring.id).Nodup)
    (hmem : wiring ∈ ledger.wirings) :
    ((ledger.remove wiring).slotsOn data).length + (wiring.slotsOn data).length =
      (ledger.slotsOn data).length := by
  obtain ⟨before, after, heq⟩ := List.append_of_mem hmem
  rw [heq, List.map_append, List.map_cons, List.nodup_middle, List.nodup_cons, List.mem_append,
    not_or] at hnodup
  have hkept {others : List Wiring} (h : wiring.id ∉ others.map Wiring.id) :
      others.filter (·.id != wiring.id) = others := by
    refine List.filter_eq_self.2 fun other hother ↦ bne_iff_ne.2 fun hsame ↦ h ?_
    rw [← hsame]
    exact List.mem_map_of_mem hother
  simp only [slotsOn, remove, heq, List.filter_append, List.filter_cons, hkept hnodup.1.1,
    hkept hnodup.1.2, List.flatMap_append, List.flatMap_cons, List.length_append]
  simp
  omega

theorem Balanced.nodup (h : ledger.Balanced) : (ledger.wirings.map Wiring.id).Nodup :=
  h.increasing.imp fun hlt heq ↦ Nat.ne_of_lt hlt (congrArg NodeId.index heq)

/-- No node holds an object more often than the object counts. -/
theorem Balanced.holdsOf_le (h : ledger.Balanced) (hmem : wiring ∈ ledger.wirings)
    {account : Account} (hsome : ledger.account data = some account) :
    Graph.holdsOf data wiring.refs ≤ account.slotRefs := by
  calc Graph.holdsOf data wiring.refs
      = (wiring.slotsOn data).length := (length_slotsOn_wiring (h.complete wiring hmem)).symm
    _ ≤ ((ledger.remove wiring).slotsOn data).length + (wiring.slotsOn data).length :=
      Nat.le_add_left _ _
    _ = (ledger.slotsOn data).length := length_slotsOn_remove h.nodup hmem
    _ = account.slotRefs := (h.counted data account hsome).symm

/-- Every object that a node holds is live. -/
theorem Balanced.live_of_mem_refs (h : ledger.Balanced) (hmem : wiring ∈ ledger.wirings)
    {ref : DataRef} (href : ref ∈ wiring.refs) : (ledger.account ref.id).isSome = true := by
  apply h.live ref.id
  intro hnone
  have hlength := @length_slotsOn_remove ledger wiring ref.id h.nodup hmem
  rw [hnone, length_slotsOn_wiring (h.complete wiring hmem), List.length_nil] at hlength
  have hholds : 0 < Graph.holdsOf ref.id wiring.refs :=
    List.countP_pos_iff.2 ⟨ref, href, decide_eq_true rfl⟩
  omega

theorem length_slotsOn_remove_add (h : ledger.Balanced) (hmem : wiring ∈ ledger.wirings)
    (data : DataId) :
    ((ledger.remove wiring).slotsOn data).length + Graph.holdsOf data wiring.refs =
      (ledger.slotsOn data).length := by
  rw [← length_slotsOn_wiring (h.complete wiring hmem)]
  exact length_slotsOn_remove h.nodup hmem

/-- An object that the node does not hold keeps its account, and all slots bound to it. -/
theorem account_remove_of_not_held (h : ledger.Balanced) (hmem : wiring ∈ ledger.wirings)
    (hnone : Graph.holdsOf data wiring.refs = 0) :
    (ledger.remove wiring).account data = ledger.account data ∧
      (ledger.remove wiring).slotsOn data = ledger.slotsOn data := by
  refine ⟨if_pos hnone, ?_⟩
  have heq := length_slotsOn_remove_add h hmem data
  rw [hnone, Nat.add_zero, slotsOn_remove] at heq
  rw [slotsOn_remove]
  exact List.filter_sublist.eq_of_length heq

theorem account_remove_of_held (hsome : Graph.holdsOf data wiring.refs ≠ 0) :
    (ledger.remove wiring).account data = (ledger.account data).bind
      (Account.unbound wiring.id (Graph.holdsOf data wiring.refs)) := if_neg hsome

/-- What is left of an account once the node is gone. -/
theorem exists_of_account_remove (h : ledger.Balanced) (hmem : wiring ∈ ledger.wirings)
    {account : Account} (hsome : (ledger.remove wiring).account data = some account) :
    ∃ before, ledger.account data = some before ∧ account.id = before.id ∧
      account.isVirtual = before.isVirtual ∧ 0 < account.clientRefs + account.slotRefs ∧
      account.slotRefs = before.slotRefs - Graph.holdsOf data wiring.refs ∧
      account.constraints = before.constraints.filter (·.1 != wiring.id) := by
  by_cases hnone : Graph.holdsOf data wiring.refs = 0
  · obtain ⟨haccount, hslots⟩ := account_remove_of_not_held h hmem hnone
    rw [haccount] at hsome
    refine ⟨account, hsome, rfl, rfl, h.held data account hsome, by rw [hnone, Nat.sub_zero], ?_⟩
    rw [h.recorded data account hsome, ← hslots, slotsOn_remove]
    split
    · rw [List.filter_map, List.filter_filter]
      simp
    · rfl
  · rw [account_remove_of_held hnone] at hsome
    obtain ⟨before, hbefore, hafter⟩ := Option.bind_eq_some_iff.1 hsome
    unfold Account.unbound at hafter
    split at hafter
    · cases hafter
    · next hheld =>
      cases hafter
      exact ⟨before, hbefore, rfl, rfl, Nat.pos_of_ne_zero hheld, rfl, rfl⟩

/-- An object that is bound to a slot of another node outlives the node. -/
theorem isSome_account_remove (h : ledger.Balanced) (hmem : wiring ∈ ledger.wirings)
    (hslots : (ledger.remove wiring).slotsOn data ≠ []) :
    ((ledger.remove wiring).account data).isSome = true := by
  have hpositive := List.length_pos_iff.2 hslots
  have heq := length_slotsOn_remove_add h hmem data
  have hbound : ledger.slotsOn data ≠ [] := by
    apply List.length_pos_iff.1
    omega
  obtain ⟨before, hbefore⟩ := Option.isSome_iff_exists.1 (h.live data hbound)
  have hcounted := h.counted data before hbefore
  by_cases hnone : Graph.holdsOf data wiring.refs = 0
  · rw [(account_remove_of_not_held h hmem hnone).1, hbefore]
    rfl
  · rw [account_remove_of_held hnone, hbefore, Option.bind_some, Account.unbound,
      if_neg (by omega)]
    rfl

theorem Balanced.remove (h : ledger.Balanced) (hmem : wiring ∈ ledger.wirings) :
    (ledger.remove wiring).Balanced := by
  have hsublist : (ledger.remove wiring).wirings.Sublist ledger.wirings := List.filter_sublist
  exact
    { increasing := h.increasing.sublist (hsublist.map _)
      below := fun other hother ↦ h.below other (hsublist.subset hother)
      complete := fun other hother ↦ h.complete other (hsublist.subset hother)
      own := fun other hother ↦ h.own other (hsublist.subset hother)
      unaliased := fun other hother ↦ h.unaliased other (hsublist.subset hother)
      placed := by
        intro data account hsome
        obtain ⟨before, hbefore, hid, -⟩ := exists_of_account_remove h hmem hsome
        rw [hid]
        exact h.placed data before hbefore
      held := by
        intro data account hsome
        obtain ⟨_, _, _, _, hheld, _⟩ := exists_of_account_remove h hmem hsome
        exact hheld
      counted := by
        intro data account hsome
        obtain ⟨before, hbefore, -, -, -, hrefs, -⟩ := exists_of_account_remove h hmem hsome
        have hcounted := h.counted data before hbefore
        have heq := length_slotsOn_remove_add h hmem data
        omega
      live := fun data hslots ↦ isSome_account_remove h hmem hslots
      recorded := by
        intro data account hsome
        obtain ⟨before, hbefore, -, hvirtual, -, -, hconstraints⟩ :=
          exists_of_account_remove h hmem hsome
        rw [hconstraints, hvirtual, h.recorded data before hbefore, slotsOn_remove]
        split
        · rw [List.filter_map]
          rfl
        · rfl
      sorted := Graph.sorted_removeProducers h.sorted
      produced := by
        intro data
        rw [writersOf_remove, Ledger.remove]
        simp only
        rw [Graph.find?_removeProducers h.sorted, h.produced data]
        by_cases hnone : ledger.writersOf data = []
        · simp [hnone]
        · rw [if_neg hnone, Option.bind_some] }

end Ledger

end ImageFlow
