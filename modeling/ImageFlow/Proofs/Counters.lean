import ImageFlow.Graph.Execution
import Mathlib.Algebra.GroupWithZero.Nat
import Mathlib.Order.Bounds.Basic

/-!
# Counters over a series of runs

One more run makes the number of runs larger by one, is the latest run, and can be the shortest or
the longest so far. By induction on the runs, counters that have been begun at nothing sum up the
series: how many runs there were, the latest, the shortest and the longest of them, and what they
took together and on average. The sum stops at the largest 64-bit word, and the average follows it.
The counters of a graph and of its nodes are such counters as long as nothing but runs is recorded.
-/

namespace ImageFlow

namespace Perf

/-- What one more run of some duration makes of counters. -/
structure Counts (before after : Perf) (ns : Nat) : Prop where
  num_eq : after.num = before.num + 1
  last_eq : after.last = ns
  min_eq : after.min = if before.num = 0 then ns else Min.min before.min ns
  max_eq : after.max = Max.max before.max ns
  sum_eq : after.sum = Min.min (before.sum + ns) (Nat.pow 2 64 - 1)
  avg_eq : after.avg = after.sum / after.num

/-- What counters say of the durations of some runs, from the first to the latest. -/
structure SumsUp (perf : Perf) (durations : List Nat) : Prop where
  empty_eq : durations = [] → perf = empty
  num_eq : perf.num = durations.length
  last_eq : ∀ ns ∈ durations.getLast?, perf.last = ns
  min_isLeast : durations ≠ [] → IsLeast { ns | ns ∈ durations } perf.min
  max_isGreatest : durations ≠ [] → IsGreatest { ns | ns ∈ durations } perf.max
  sum_eq : perf.sum = Min.min durations.sum (Nat.pow 2 64 - 1)
  avg_eq : perf.avg = perf.sum / perf.num

variable {before after : Perf} {ns : Nat} {durations : List Nat}

theorem counts_record (perf : Perf) (ns : Nat) : perf.Counts (perf.record ns) ns :=
  ⟨rfl, rfl, rfl, rfl, rfl, rfl⟩

theorem counts_or_eq (perf : Perf) (counts : Bool) (ns : Nat) :
    if counts then perf.Counts (if counts then perf.record ns else perf) ns
    else (if counts then perf.record ns else perf) = perf := by
  cases counts with
  | true => exact counts_record perf ns
  | false => rfl

theorem sumsUp_empty : empty.SumsUp [] where
  empty_eq _ := rfl
  num_eq := rfl
  last_eq _ hns := nomatch hns
  min_isLeast hne := absurd rfl hne
  max_isGreatest hne := absurd rfl hne
  sum_eq := rfl
  avg_eq := rfl

/-- One more run is summed up together with those before. -/
theorem Counts.sumsUp (h : before.Counts after ns) (hbefore : before.SumsUp durations) :
    after.SumsUp (durations ++ [ns]) := by
  have hset : { other | other ∈ durations ++ [ns] } = insert ns { other | other ∈ durations } := by
    ext other
    simp [or_comm]
  refine
    { empty_eq := fun hnil ↦ absurd hnil (by simp)
      num_eq := by rw [h.num_eq, hbefore.num_eq, List.length_append, List.length_singleton]
      last_eq := ?_
      min_isLeast := fun _ ↦ ?_
      max_isGreatest := fun _ ↦ ?_
      sum_eq := ?_
      avg_eq := h.avg_eq }
  · intro other hother
    rw [List.getLast?_concat] at hother
    rw [h.last_eq, Option.some.inj hother]
  · rw [h.min_eq, hset]
    split
    · next hnum =>
      obtain rfl : durations = [] := List.length_eq_zero_iff.1 (hbefore.num_eq.symm.trans hnum)
      simp
    · next hnum =>
      have hsome : durations ≠ [] := by
        rintro rfl
        exact hnum hbefore.num_eq
      rw [Nat.min_comm]
      exact (hbefore.min_isLeast hsome).insert ns
  · rw [h.max_eq, hset]
    by_cases hnone : durations = []
    · rw [hbefore.empty_eq hnone, hnone]
      simp [empty]
    · rw [Nat.max_comm]
      exact (hbefore.max_isGreatest hnone).insert ns
  · rw [h.sum_eq, hbefore.sum_eq, List.sum_append, List.sum_singleton]
    omega

end Perf

/-! ## The counters of a graph -/

/-- All counters of a graph sum up some series of runs. -/
structure Graph.SumsUp (graph : Graph) : Prop where
  total : ∃ durations, graph.perf.SumsUp durations
  nodes : ∀ node ∈ graph.nodes, ∃ durations, node.perf.SumsUp durations

namespace Graph

variable {graph before after : Graph}

theorem sumsUp_empty (id : GraphId) (context : Context) : (empty id context).SumsUp :=
  ⟨⟨[], Perf.sumsUp_empty⟩, fun _ hnode ↦ nomatch hnode⟩

/-- What leaves the counters alone keeps them. -/
theorem SumsUp.of_perf_eq (h : before.SumsUp) (hperf : after.perf = before.perf)
    (hnodes : after.nodes.map Node.perf ⊆ before.nodes.map Node.perf) : after.SumsUp where
  total := hperf ▸ h.total
  nodes node hnode := by
    obtain ⟨origin, horigin, hsame⟩ := List.mem_map.1 (hnodes (List.mem_map_of_mem hnode))
    rw [← hsame]
    exact h.nodes origin horigin

theorem SumsUp.invalidate (h : graph.SumsUp) : graph.invalidate.SumsUp := ⟨h.total, h.nodes⟩

theorem SumsUp.modifyNode (h : graph.SumsUp) (id : NodeId) {f : Node → Node}
    (hf : ∀ node durations, node.perf.SumsUp durations → ∃ more, (f node).perf.SumsUp more) :
    (graph.modifyNode id f).SumsUp where
  total := h.total
  nodes node hnode := by
    obtain ⟨origin, horigin, rfl⟩ := List.mem_map.1 hnode
    obtain ⟨durations, hdurations⟩ := h.nodes origin horigin
    split
    · exact hf origin durations hdurations
    · exact ⟨durations, hdurations⟩

theorem SumsUp.record (h : graph.SumsUp) (ns : Nat) :
    SumsUp { graph with perf := graph.perf.record ns } where
  total := by
    obtain ⟨durations, hdurations⟩ := h.total
    exact ⟨_, (Perf.counts_record graph.perf ns).sumsUp hdurations⟩
  nodes := h.nodes

theorem SumsUp.recordNode (h : graph.SumsUp) (options : RunOptions) (watch : Stopwatch)
    (id : NodeId) : (recordNode options watch id graph).SumsUp := by
  unfold Graph.recordNode
  split
  · exact h.modifyNode id fun node durations hdurations ↦
      ⟨_, (Perf.counts_record node.perf _).sumsUp hdurations⟩
  · exact h

end Graph

end ImageFlow
