import ImageFlow.Proofs.Execution.Failure
import ImageFlow.Proofs.Precedence.Depth

/-!
# Locks

While a node runs it holds a lock on every object that it is bound to: one that nobody else may hold
beside it on what it writes, and one that others may share on what it only reads. It takes its locks
slot by slot, and the nodes of a level take theirs at the same time. No two slots of a node share an
object that one of them writes, and neither of two nodes of a level writes what the other is bound
to. So all locks that the nodes of a level ever want can be held together, and no node waits for a
lock, however the turns of the nodes are mixed.
-/

namespace ImageFlow

/-- A lock on an object, held alone by who writes the object. -/
structure Lock where
  data : DataId
  exclusive : Bool
  deriving DecidableEq, Repr

/-- Two locks that can be held at the same time. -/
def Lock.Compatible (first second : Lock) : Prop :=
  first.data = second.data → first.exclusive = false ∧ second.exclusive = false

theorem Lock.Compatible.symm {first second : Lock} (h : first.Compatible second) :
    second.Compatible first :=
  fun hdata ↦ (h hdata.symm).symm

/-- The lock that a slot asks for. -/
def Binding.lock (binding : Binding) : Lock :=
  { data := binding.ref.id, exclusive := binding.direction.writes }

/-- The locks of a node, in the order in which it takes them. -/
def Node.locks (node : Node) : List Lock := node.bindings.map Binding.lock

/-! ## Taking locks side by side -/

/-- A party that takes locks one after the other, and gives none back before it has them all. -/
structure Holder where
  held : List Lock
  wanted : List Lock

namespace Holder

variable {holders later : List Holder}

/-- All locks that a party holds or still wants. -/
def locks (holder : Holder) : List Lock := holder.held ++ holder.wanted

/-- A turn of one party among several. It takes the next lock that it wants, which no lock that is
held may rule out, or it has got all of its locks and gives some of them back. -/
inductive Turn : List Holder → List Holder → Prop
  | take {before after : List Holder} {held rest : List Lock} {next : Lock}
      (free : ∀ holder ∈ before ++ ⟨held, next :: rest⟩ :: after, ∀ lock ∈ holder.held,
        next.Compatible lock) :
      Turn (before ++ ⟨held, next :: rest⟩ :: after) (before ++ ⟨next :: held, rest⟩ :: after)
  | give {before after : List Holder} {held left : List Lock} (fewer : left.Sublist held) :
      Turn (before ++ ⟨held, []⟩ :: after) (before ++ ⟨left, []⟩ :: after)

/-- However turns follow on each other, the next lock that a party wants can be taken at once. -/
def NeverWait (holders : List Holder) : Prop :=
  ∀ later, Relation.ReflTransGen Turn holders later → ∀ waiting ∈ later, ∀ next rest,
    waiting.wanted = next :: rest → ∀ holder ∈ later, ∀ lock ∈ holder.held, next.Compatible lock

/-- All locks that are held or wanted can be held together. -/
def Apart (holders : List Holder) : Prop := (holders.flatMap locks).Pairwise Lock.Compatible

theorem Apart.turn (h : Apart holders) (hturn : Turn holders later) : Apart later := by
  cases hturn with
  | @take before after held rest next _ =>
    have hperm : List.Perm ((before ++ ⟨held, next :: rest⟩ :: after).flatMap locks)
        ((before ++ ⟨next :: held, rest⟩ :: after).flatMap locks) := by
      simp only [List.flatMap_append, List.flatMap_cons, locks]
      exact (List.perm_middle.append_right _).append_left _
    exact (hperm.pairwise_iff Lock.Compatible.symm).1 h
  | @give before after held left hfewer =>
    have hsublist : List.Sublist ((before ++ ⟨left, []⟩ :: after).flatMap locks)
        ((before ++ ⟨held, []⟩ :: after).flatMap locks) := by
      simp only [List.flatMap_append, List.flatMap_cons, locks]
      exact ((hfewer.append_right _).append_right _).append_left _
    exact h.sublist hsublist

theorem apart_of_turns (h : Apart holders) (hturns : Relation.ReflTransGen Turn holders later) :
    Apart later := by
  induction hturns with
  | refl => exact h
  | tail _ hturn ih => exact ih.turn hturn

/-- What a party wants goes with what all parties hold. -/
theorem Apart.compatible (h : Apart holders) {waiting holder : Holder}
    (hwaiting : waiting ∈ holders) (hholder : holder ∈ holders) {next lock : Lock}
    (hnext : next ∈ waiting.wanted) (hlock : lock ∈ holder.held) : next.Compatible lock := by
  obtain ⟨hinside, hacross⟩ := List.pairwise_flatMap.1 h
  have hself : ∀ holder ∈ holders, ∀ next ∈ holder.wanted, ∀ lock ∈ holder.held,
      next.Compatible lock := by
    intro holder hholder next hnext lock hlock
    exact ((List.pairwise_append.1 (hinside holder hholder)).2.2 lock hlock next hnext).symm
  have hforth : holders.Pairwise fun a b ↦ ∀ next ∈ a.wanted, ∀ lock ∈ b.held,
      next.Compatible lock :=
    hacross.imp fun hpair next hnext lock hlock ↦
      hpair next (List.mem_append_right _ hnext) lock (List.mem_append_left _ hlock)
  have hback : holders.Pairwise fun a b ↦ ∀ next ∈ b.wanted, ∀ lock ∈ a.held,
      next.Compatible lock :=
    hacross.imp fun hpair next hnext lock hlock ↦
      (hpair lock (List.mem_append_left _ hlock) next (List.mem_append_right _ hnext)).symm
  exact hforth.forall_of_forall_of_flip hself hback hwaiting hholder next hnext lock hlock

/-- If all locks can be held together, no party waits. -/
theorem Apart.neverWait (h : Apart holders) : NeverWait holders := by
  intro later hturns waiting hwaiting next rest hnext holder hholder lock hlock
  have hwanted : next ∈ waiting.wanted := hnext ▸ List.mem_cons_self
  exact (apart_of_turns h hturns).compatible hwaiting hholder hwanted hlock

end Holder

/-! ## The nodes of a level -/

namespace Graph

variable {graph : Graph} {plan : Plan} {node : Node}

/-- The locks of the node with some number; none if there is no such node. -/
def locks (graph : Graph) (id : NodeId) : List Lock := (graph.node? id).elim [] Node.locks

/-- The nodes of a level before any of them has taken a lock. -/
def holders (graph : Graph) (level : List NodeId) : List Holder :=
  level.map fun id ↦ { held := [], wanted := graph.locks id }

/-- No two slots of a node are bound to an object that one of them writes. -/
def SlotsApart (graph : Graph) : Prop :=
  ∀ node ∈ graph.nodes, node.bindings.Pairwise fun first second ↦
    first.ref.id = second.ref.id → first.direction.writes = false ∧ second.direction.writes = false

/-- Neither of two nodes in one level of a plan writes what the other is bound to. -/
structure LevelsApart (graph : Graph) (plan : Plan) : Prop where
  found : ∀ level ∈ plan.levels, ∀ id ∈ level, ∃ node ∈ graph.nodes, node.id = id
  independent : ∀ level ∈ plan.levels, ∀ first ∈ graph.nodes, ∀ second ∈ graph.nodes,
    first.id ∈ level → second.id ∈ level → first.id ≠ second.id → first.Independent second
  neverWait : ∀ level ∈ plan.levels, Holder.NeverWait (graph.holders level)

theorem slotsApart (hbalanced : graph.ledger.Balanced) : graph.SlotsApart :=
  fun _ ↦ apart_bindings hbalanced

theorem exists_of_mem_locks {id : NodeId} {lock : Lock} (h : lock ∈ graph.locks id) :
    ∃ node, graph.node? id = some node ∧ lock ∈ node.locks := by
  rw [locks] at h
  cases hnode : graph.node? id with
  | none => simp [hnode] at h
  | some node => exact ⟨node, rfl, by simpa [hnode] using h⟩

theorem SlotsApart.locks (h : graph.SlotsApart) (id : NodeId) :
    (graph.locks id).Pairwise Lock.Compatible := by
  rw [Graph.locks]
  cases hnode : graph.node? id with
  | none => exact List.Pairwise.nil
  | some node => exact List.pairwise_map.2 (h node (List.mem_of_find?_eq_some hnode))

/-- The nodes of a level can hold all of their locks together if they are independent. -/
theorem SlotsApart.apart (h : graph.SlotsApart) {level : List NodeId}
    (hlevel : level.Pairwise fun id other ↦ ∀ lock ∈ graph.locks id, ∀ lock' ∈ graph.locks other,
      lock.Compatible lock') : Holder.Apart (graph.holders level) := by
  have hlocks : (graph.holders level).flatMap Holder.locks = level.flatMap graph.locks := by
    simp [holders, Holder.locks, List.flatMap_map]
  rw [Holder.Apart, hlocks]
  exact List.pairwise_flatMap.2 ⟨fun id _ ↦ h.locks id, hlevel⟩

theorem independent_of_mem_level (h : graph.Planned plan) (hbalanced : graph.ledger.Balanced)
    {level : List NodeId} (hlevel : level ∈ plan.levels) {first second : Node}
    (hfirst : first ∈ graph.nodes) (hsecond : second ∈ graph.nodes) (hmem : first.id ∈ level)
    (hmem' : second.id ∈ level) (hne : first.id ≠ second.id) : first.Independent second := by
  have hvalid := h.planValid hbalanced
  obtain ⟨hperm, hrespects⟩ := order_spec h.order_eq
  -- An edge leads to a deeper level.
  have hnone {source target : NodeId} (hsource : source ∈ level) (htarget : target ∈ level) :
      ⟨source, target⟩ ∉ graph.edges := by
    intro hedge
    rw [h.levels_eq] at hlevel
    obtain ⟨depth, hdepth⟩ := List.getElem?_of_mem hlevel
    have hlt : depth < depth := Precedence.lt_of_inLevel (simple hbalanced) hperm hrespects hedge
      ⟨level, hdepth, hsource⟩ ⟨level, hdepth, htarget⟩
    exact Nat.lt_irrefl depth hlt
  constructor
  · intro binding hbinding
    exact not_mem_writes_of_no_edge hvalid hbalanced hfirst hsecond hne (hnone hmem hmem') hbinding
  · intro binding hbinding
    exact not_mem_writes_of_no_edge hvalid hbalanced hsecond hfirst hne.symm (hnone hmem' hmem)
      hbinding

/-- The locks of independent nodes can be held together. -/
theorem compatible_of_independent {first second : Node} (h : first.Independent second) :
    ∀ lock ∈ first.locks, ∀ other ∈ second.locks, lock.Compatible other := by
  have hread {node : Node} {binding : Binding} (hbinding : binding ∈ node.bindings)
      (hwrites : binding.ref.id ∉ node.writes) : binding.direction.writes = false := by
    by_contra hwritten
    exact hwrites (List.mem_map.2 ⟨binding, List.mem_filter.2 ⟨hbinding, by simpa using hwritten⟩,
      rfl⟩)
  simp only [Node.locks, List.forall_mem_map]
  intro binding hbinding other hother hdata
  have hsame : binding.ref.id = other.ref.id := hdata
  exact ⟨hread hbinding (hsame ▸ h.left other hother),
    hread hother (hsame ▸ h.right binding hbinding)⟩

theorem Planned.levelsApart (h : graph.Planned plan) (hbalanced : graph.ledger.Balanced) :
    graph.LevelsApart plan := by
  have hvalid := h.planValid hbalanced
  have hnodup : plan.order.Nodup := hvalid.order_perm.nodup_iff.2 hvalid.ids_nodup
  have hsublist : ∀ level ∈ plan.levels, level.Sublist plan.order := by
    rw [h.levels_eq]
    exact fun level ↦ Precedence.sublist_of_mem_levels
  exact
    { found := fun level hlevel id hid ↦
        List.mem_map.1 (hvalid.order_perm.subset ((hsublist level hlevel).subset hid))
      independent := fun level hlevel first hfirst second hsecond hmem hmem' hne ↦
        independent_of_mem_level h hbalanced hlevel hfirst hsecond hmem hmem' hne
      neverWait := by
        intro level hlevel
        refine ((slotsApart hbalanced).apart ?_).neverWait
        refine (hnodup.sublist (hsublist level hlevel)).pairwise_of_forall_ne ?_
        intro id hid other hother hne lock hlock lock' hlock'
        obtain ⟨first, hfound, hmine⟩ := exists_of_mem_locks hlock
        obtain ⟨second, hfound', htheirs⟩ := exists_of_mem_locks hlock'
        obtain ⟨hfirst, rfl⟩ := (node?_eq_some_iff hvalid.ids_nodup).1 hfound
        obtain ⟨hsecond, rfl⟩ := (node?_eq_some_iff hvalid.ids_nodup).1 hfound'
        have hindependent :=
          independent_of_mem_level h hbalanced hlevel hfirst hsecond hid hother hne
        exact compatible_of_independent hindependent lock hmine lock' htheirs }

end Graph

namespace Call

/-- No lock that a node takes meets a lock that it has taken already. In every plan that the
standard stages have made, no lock that a node of a level takes meets one of another node of that
level; so however the nodes of the level come to take their locks, none of them ever waits. -/
theorem locksApart_applyAll (id : GraphId) (context : Context) (calls : List Call) :
    let graph := applyAll (.empty id context) calls
    graph.SlotsApart ∧
    (∀ id, Holder.NeverWait (graph.holders [id])) ∧
    ∀ operations plan, (Operation.applyAll graph.invalidate operations).plan = some plan →
      (Operation.applyAll graph.invalidate operations).LevelsApart plan := by
  intro graph
  have hapart : graph.SlotsApart := Graph.slotsApart (balanced_applyAll id context calls)
  refine ⟨hapart, fun id ↦ (hapart.apart (List.pairwise_singleton _ id)).neverWait, ?_⟩
  intro operations plan hplan
  have hhealthy : (Operation.applyAll graph.invalidate operations).Healthy :=
    healthy_applyAll_invalidate id context calls operations
  exact (hhealthy.planned plan hplan).2.levelsApart hhealthy.balanced

/-- Two nodes that copy the same image run side by side. -/
theorem locksApart_copies :
    let graph := Operation.applyAll (.empty ⟨0⟩ Operation.plainContext) Operation.copies
    ∃ plan, graph.plan = some plan ∧ plan.levels = [[⟨1⟩, ⟨2⟩], [⟨0⟩]] ∧
      graph.LevelsApart plan := by
  intro graph
  have hlevels : graph.plan.map Plan.levels = some [[⟨1⟩, ⟨2⟩], [⟨0⟩]] := by decide +kernel
  obtain ⟨plan, hplan, hplanLevels⟩ := Option.map_eq_some_iff.1 hlevels
  refine ⟨plan, hplan, hplanLevels, ?_⟩
  exact (locksApart_applyAll ⟨0⟩ Operation.plainContext []).2.2 Operation.copies plan hplan

end Call

end ImageFlow
