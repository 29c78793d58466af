import ImageFlow.Proofs.Execution.Locks
import ImageFlow.Proofs.Kernels.Repeating

/-!
# Nodes that have settled

A node has settled in a memory if running it once more changes nothing and comes to a known end.
No two slots of a node share an object that one of them writes, so right after a node has run its
kernel would be shown what it has left behind; if the kernel repeats itself, the node has settled.
It stays so as long as nobody writes what it is bound to, and in a run of a plan nobody does that
any more. So when a run ends, early or not, every node that has run has settled.
-/

namespace ImageFlow

/-! ## Putting back -/

namespace Memory

variable {memory : Memory} {binding : Binding} {bindings : List Binding} {after : Slot}
  {afters : List Slot}

theorem slot_putBack (h : (memory.slot binding).Kept after) :
    (memory.putBack binding (memory.slot binding) after).slot binding = after := by
  obtain ⟨writable, payload⟩ := after
  obtain ⟨hwritable, hpayload, hsome⟩ := h
  dsimp only [slot] at hwritable hpayload hsome
  subst hwritable
  cases hheld : memory binding.ref.id with
  | none =>
    obtain rfl : payload = none := by simpa [hheld] using hsome
    simp [slot, putBack, hheld]
  | some held =>
    obtain ⟨left, rfl⟩ := Option.isSome_iff_exists.1 (hsome.trans (congrArg _ hheld))
    cases hwrites : binding.direction.writes with
    | false => simp [slot, putBack, hheld, hwrites, hpayload hwrites]
    | true => simp [slot, putBack, hheld, hwrites]

/-- If no two bindings share an object that one of them writes, the slots show afterwards what has
been put back. -/
theorem map_slot_putBackAll (hapart : Binding.Apart bindings)
    (hkept : List.Forall₂ Slot.Kept (bindings.map memory.slot) afters) :
    bindings.map (memory.putBackAll bindings (bindings.map memory.slot) afters).slot = afters := by
  induction bindings generalizing memory afters with
  | nil =>
    cases hkept
    rfl
  | cons binding rest ih =>
    obtain ⟨hfirst, hrest⟩ := List.pairwise_cons.1 hapart
    cases hkept with
    | @cons _ after _ afters hhead htail =>
      have hsame : rest.map memory.slot =
          rest.map (memory.putBack binding (memory.slot binding) after).slot := by
        apply List.map_congr_left
        intro other hother
        have hother : binding.direction.writes = true → binding.ref.id ≠ other.ref.id := by
          intro hwrites hdata
          rw [(hfirst other hother hdata).1] at hwrites
          cases hwrites
        rw [slot, slot, putBack_of_not_writes hother]
      rw [List.map_cons, List.map_cons, putBackAll, hsame]
      refine congrArg₂ List.cons ?_ (ih hrest (hsame ▸ htail))
      -- The later bindings do not write the object of the first one.
      have hothers : ∀ other ∈ rest, other.direction.writes = true →
          other.ref.id ≠ binding.ref.id := by
        intro other hother hwrites hdata
        rw [(hfirst other hother hdata.symm).2] at hwrites
        cases hwrites
      rw [slot, putBackAll_of_not_writes hothers]
      exact slot_putBack hhead

/-- Nothing changes if the slots are put back as they are. -/
theorem putBackAll_self (memory : Memory) (bindings : List Binding) :
    memory.putBackAll bindings (bindings.map memory.slot) (bindings.map memory.slot) = memory := by
  induction bindings with
  | nil => rfl
  | cons binding rest ih =>
    have hsame : memory.putBack binding (memory.slot binding) (memory.slot binding) = memory := by
      cases hheld : memory binding.ref.id with
      | none => simp [slot, putBack, hheld]
      | some held =>
        have hupdate : Function.update memory binding.ref.id (some held) = memory := by
          rw [← hheld, Function.update_eq_self]
        simp [slot, putBack, hheld, hupdate]
    rw [List.map_cons, putBackAll, hsame, ih]

end Memory

/-! ## Settled nodes -/

namespace Node

variable {node : Node} {memory memory' : Memory} {result : Except (Stop ProcessError) Unit}

/-- A node that changes nothing when it runs, and of which it is known how its run ends. -/
structure Settled (node : Node) (memory : Memory) (result : Except (Stop ProcessError) Unit) :
    Prop where
  leave_eq : node.leave memory = memory
  outcome_eq : node.outcome (node.access memory) = result

/-- What a kernel has left of its slots is what it would be shown if it ran again. -/
theorem access_leave (hapart : Binding.Apart node.bindings)
    (hkept : (node.access memory).Kept (node.kernel.kernel.execute (node.access memory)).2) :
    node.access (node.leave memory) = (node.kernel.kernel.execute (node.access memory)).2 := by
  obtain ⟨hnode, hkept⟩ := hkept
  have hslots : (node.access (node.leave memory)).slots =
      (node.kernel.kernel.execute (node.access memory)).2.slots :=
    Memory.map_slot_putBackAll hapart hkept
  generalize (node.kernel.kernel.execute (node.access memory)).2 = after at hnode hslots
  obtain ⟨id, slots⟩ := after
  rw [← show node.id = id from hnode.symm, ← show _ = slots from hslots]
  rfl

/-- A node whose kernel repeats itself has settled as soon as it has run. -/
theorem settled_leave (hapart : Binding.Apart node.bindings)
    (hkernel : node.kernel.kernel.Repeating) (memory : Memory) :
    node.Settled (node.leave memory) (node.outcome (node.access memory)) := by
  have hshown := access_leave hapart (hkernel.kept (node.access memory))
  have hagain : node.kernel.kernel.execute (node.access (node.leave memory)) =
      node.kernel.kernel.execute (node.access memory) := by
    rw [hshown, hkernel.again]
  constructor
  · rw [leave, hagain, ← hshown]
    exact Memory.putBackAll_self _ _
  · rw [outcome, outcome, hagain]

/-- A node stays settled as long as nobody writes what it is bound to. -/
theorem Settled.congr (h : node.Settled memory result)
    (hsame : ∀ binding ∈ node.bindings, memory binding.ref.id = memory' binding.ref.id) :
    node.Settled memory' result := by
  constructor
  · funext data
    by_cases hdata : data ∈ node.writes
    · obtain ⟨binding, hbinding, rfl⟩ := mem_bindings_of_mem_writes hdata
      have hpayload := hsame binding hbinding
      rw [← leave_congr hsame hpayload, h.leave_eq, hpayload]
    · exact leave_of_not_mem_writes hdata
  · rw [← access_congr hsame]
    exact h.outcome_eq

end Node

namespace Graph

variable {graph start : Graph} {plan : Plan} {run : RunState}

/-- When some nodes have run, in an order that respects the edges, each of them has settled. -/
theorem Underway.settled {pending : List NodeId} (h : start.Underway pending run)
    (hvalid : start.PlanValid plan) (hbalanced : start.ledger.Balanced)
    (hkernels : ∀ node ∈ start.nodes, node.kernel.kernel.Repeating)
    (hids : pending ⊆ start.nodeIds) (hnodup : pending.Nodup)
    (hrespects : Precedence.Respects start.edges pending) (options : RunOptions)
    (watch : Stopwatch) :
    let attempted := Dispatch.attempt (executeNode options watch) pending run
    ∀ entry ∈ attempted.1, ∃ node, start.node? entry.1 = some node ∧
      node.Settled attempted.2.graph.arena.memory entry.2 := by
  induction pending generalizing run with
  | nil => exact fun _ hnone ↦ nomatch hnone
  | cons id pending ih =>
    obtain ⟨hnew, hdistinct⟩ := List.nodup_cons.1 hnodup
    obtain ⟨hid, hpending⟩ := List.cons_subset.1 hids
    obtain ⟨hlater, hrest⟩ := List.pairwise_cons.1 hrespects
    obtain ⟨node, hnode, hexecuted, hnext⟩ := h.step hbalanced hid hnew options watch
    obtain ⟨found, hfound, hlive⟩ := exists_node hbalanced h.ledger_eq hid
    obtain rfl : found = node :=
      Option.some.inj (hfound.symm.trans ((h.nodes id List.mem_cons_self).trans hnode))
    have hresult := (tried_executeNode options watch hfound hlive).result_eq
    obtain rfl : found.id = id := id_of_node? hfound
    have hmem : found ∈ start.nodes := List.mem_of_find?_eq_some hnode
    refine List.forall_mem_cons.2 ⟨⟨found, hnode, ?_⟩, ih hnext hpending hdistinct hrest⟩
    have hsettled := Node.settled_leave (apart_bindings hbalanced hmem) (hkernels found hmem)
      run.graph.arena.memory
    rw [← hexecuted.memory_eq, ← hresult] at hsettled
    -- No node that runs later writes what this one is bound to.
    apply hsettled.congr
    intro binding hbinding
    refine ((hnext.attempted hbalanced hpending hdistinct options watch).unwritten _ ?_).symm
    exact not_mem_writes_of_later hvalid hbalanced hmem hnew hlater hbinding

end Graph

end ImageFlow
