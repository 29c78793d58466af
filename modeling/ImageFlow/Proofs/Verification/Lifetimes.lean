import ImageFlow.Proofs.Verification.Planned
import Mathlib.Data.List.Induction
import Mathlib.Order.Bounds.Defs

/-!
# Lifetimes of objects

The order of execution uses an object wherever a node stands that holds it. Going through the order,
the last stage of a verification notes down for every object where it is used first, and overwrites
where it was used last. Since it goes forward, these are the least and the greatest of all positions
at which the object is used, and the objects come out in the order of their numbers.
-/

namespace ImageFlow

namespace Graph

/-- Some node that holds an object has a position in an order. -/
def UsedAt (graph : Graph) (order : List NodeId) (data : DataId) (position : Nat) : Prop :=
  ∃ node ∈ graph.nodes, order[position]? = some node.id ∧ ∃ ref ∈ node.refs, ref.id = data

end Graph

namespace Verification

variable {graph : Graph} {order : List NodeId} {data : DataId} {position first last : Nat}

/-- The objects that the node at a position holds, slot by slot. -/
def usesAt (graph : Graph) (place : NodeId × Nat) : List (DataId × Nat) :=
  match graph.node? place.1 with
  | some node => node.refs.map fun ref ↦ (ref.id, place.2)
  | none => []

/-- All objects that an order uses, with the positions. -/
def uses (graph : Graph) (order : List NodeId) : List (DataId × Nat) :=
  order.zipIdx.flatMap (usesAt graph)

/-- The first and the last position with which each object occurs. -/
def spans (uses : List (DataId × Nat)) : List (DataId × Nat × Nat) :=
  uses.foldl (fun spans (data, position) ↦
    Ordered.alter data (fun span ↦ ((span.map Prod.fst).getD position, position)) spans) []

theorem lifetimes_eq (graph : Graph) (order : List NodeId) :
    lifetimes graph order = spans (uses graph order) := rfl

/-- The positions with which an object occurs. -/
def positionsOf (data : DataId) (uses : List (DataId × Nat)) : List Nat :=
  (uses.filter (·.1 = data)).map Prod.snd

theorem spans_concat (uses : List (DataId × Nat)) (use : DataId × Nat) :
    spans (uses ++ [use]) =
      Ordered.alter use.1 (fun span ↦ ((span.map Prod.fst).getD use.2, use.2)) (spans uses) := by
  rw [spans, List.foldl_append]
  rfl

theorem sorted_spans (uses : List (DataId × Nat)) :
    Ordered.Sorted ((spans uses).map Prod.fst) := by
  induction uses using List.reverseRecOn with
  | nil => exact List.Pairwise.nil
  | append_singleton uses use ih =>
    rw [spans_concat]
    exact Ordered.sorted_alter ih

theorem find?_spans (uses : List (DataId × Nat)) (data : DataId) :
    Ordered.find? data (spans uses) = (positionsOf data uses).head?.map fun first ↦
      (first, (positionsOf data uses).getLast?.getD first) := by
  induction uses using List.reverseRecOn with
  | nil => rfl
  | append_singleton uses use ih =>
    rw [spans_concat, positionsOf, List.filter_append, List.map_append, ← positionsOf]
    by_cases hsame : use.1 = data
    · rw [← hsame, Ordered.find?_alter_self (sorted_spans uses), hsame, ih]
      cases hfirst : (positionsOf data uses).head? <;> simp [hsame, List.head?_append, hfirst]
    · rw [Ordered.find?_alter_of_ne (Ne.symm hsame), ih]
      simp [hsame]

theorem mem_usesAt_iff {place : NodeId × Nat} : (data, position) ∈ usesAt graph place ↔
    place.2 = position ∧
      ∃ node, graph.node? place.1 = some node ∧ ∃ ref ∈ node.refs, ref.id = data := by
  rw [usesAt]
  cases graph.node? place.1 with
  | none => simp
  | some node =>
    constructor
    · intro h
      obtain ⟨ref, href, heq⟩ := List.mem_map.1 h
      cases heq
      exact ⟨rfl, node, rfl, ref, href, rfl⟩
    · rintro ⟨rfl, other, hother, ref, href, rfl⟩
      cases hother
      exact List.mem_map.2 ⟨ref, href, rfl⟩

theorem mem_uses_iff (hnodup : graph.nodeIds.Nodup) :
    (data, position) ∈ uses graph order ↔ graph.UsedAt order data position := by
  simp only [uses, List.mem_flatMap, mem_usesAt_iff, Graph.UsedAt]
  constructor
  · rintro ⟨⟨id, place⟩, hplace, rfl, node, hnode, hdata⟩
    obtain ⟨hmem, rfl⟩ := (Graph.node?_eq_some_iff hnodup).1 hnode
    exact ⟨node, hmem, List.mk_mem_zipIdx_iff_getElem?.1 hplace, hdata⟩
  · rintro ⟨node, hnode, hplace, hdata⟩
    exact ⟨(node.id, position), List.mk_mem_zipIdx_iff_getElem?.2 hplace, rfl, node,
      (Graph.node?_eq_some_iff hnodup).2 ⟨hnode, rfl⟩, hdata⟩

/-- Positions only grow along the uses. -/
theorem pairwise_uses (graph : Graph) (order : List NodeId) :
    (uses graph order).Pairwise fun earlier later ↦ earlier.2 ≤ later.2 := by
  have hindices : (order.zipIdx.map Prod.snd).Pairwise (· < ·) := by
    rw [List.zipIdx_map_snd]
    exact List.pairwise_lt_range'
  refine List.pairwise_flatMap.2 ⟨fun place _ ↦ ?_, ?_⟩
  · refine List.pairwise_of_forall_mem_list fun use huse other hother ↦ ?_
    rw [← (mem_usesAt_iff.1 huse).1, ← (mem_usesAt_iff.1 hother).1]
  · refine (List.pairwise_map.1 hindices).imp fun hlt use huse other hother ↦ ?_
    rw [← (mem_usesAt_iff.1 huse).1, ← (mem_usesAt_iff.1 hother).1]
    exact Nat.le_of_lt hlt

theorem mem_positionsOf_iff (hnodup : graph.nodeIds.Nodup) :
    position ∈ positionsOf data (uses graph order) ↔ graph.UsedAt order data position := by
  rw [← mem_uses_iff hnodup, positionsOf]
  simp

/-- What is noted down for an object is where it is used first and where it is used last. -/
theorem bounds_of_mem_lifetimes (hnodup : graph.nodeIds.Nodup)
    (hspan : (data, first, last) ∈ lifetimes graph order) :
    IsLeast {position | graph.UsedAt order data position} first ∧
      IsGreatest {position | graph.UsedAt order data position} last := by
  have hused : {position | graph.UsedAt order data position} =
      {position | position ∈ positionsOf data (uses graph order)} :=
    Set.ext fun _ ↦ (mem_positionsOf_iff hnodup).symm
  have hsorted : (positionsOf data (uses graph order)).Pairwise (· ≤ ·) :=
    List.pairwise_map.2 ((pairwise_uses graph order).sublist List.filter_sublist)
  rw [lifetimes_eq] at hspan
  have hfind := (Ordered.find?_eq_some_iff (sorted_spans _)).2 hspan
  rw [find?_spans] at hfind
  obtain ⟨_, hfirst, hbounds⟩ := Option.map_eq_some_iff.1 hfind
  cases hbounds
  rw [hused]
  generalize positionsOf data (uses graph order) = positions at *
  obtain ⟨rest, rfl⟩ := List.head?_eq_some_iff.1 hfirst
  refine ⟨⟨List.mem_cons_self, fun position hposition ↦ ?_⟩, ?_⟩
  · rcases List.mem_cons.1 hposition with rfl | hlater
    · exact Nat.le_refl _
    · exact (List.pairwise_cons.1 hsorted).1 position hlater
  · obtain ⟨before, hbefore⟩ :=
      List.getLast?_eq_some_iff.1 (List.getLast?_cons (a := first) (l := rest))
    rw [List.getLast?_cons, Option.getD_some]
    rw [hbefore] at hsorted ⊢
    refine ⟨List.mem_append_right before List.mem_cons_self, fun position hposition ↦ ?_⟩
    rcases List.mem_append.1 hposition with hearlier | hlast
    · exact (List.pairwise_append.1 hsorted).2.2 position hearlier _ List.mem_cons_self
    · rw [List.mem_singleton.1 hlast]

end Verification

end ImageFlow
