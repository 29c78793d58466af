import ImageFlow.Proofs.Verification.Visits

/-!
# Passes over the nodes that are left

The first stage of a verification passes over the nodes, visits those that are ready, and begins
again with the others until a pass visits none. The loop itself has no bound. It ends because a pass
that is followed by another one has visited some node, so one pass more than there are nodes is
always enough, and the bound that the stage gives to it is never what ends it.

What single visits keep, passes keep. And once the loop has ended without an error, no node that is
left is ready.
-/

namespace ImageFlow

open Stateful ImageFlow.Graph

namespace Verification

variable {I : Graph → List NodeId → Prop} {draft mid last : Draft} {passes : Nat}
  {ids left skipped still : List NodeId}

/-! ## What visits keep -/

/-- A relation between a graph and the nodes that wait which does not depend on the order in which
they wait, and which the visit of a ready node keeps when that node waits no longer. -/
structure KeptByVisits (I : Graph → List NodeId → Prop) : Prop where
  perm : ∀ now waiting waiting', waiting.Perm waiting' → I now waiting → I now waiting'
  visit : ∀ draft mid after node waiting shapes, I draft.graph (node.id :: waiting) →
    node ∈ draft.graph.nodes → isReady draft.graph node = true →
    (inferSlots node (inspect draft.graph node) node.bindings).run draft = (.ok shapes, mid) →
    (resolveAll shapes).run mid = (.ok (), after) → I after.graph waiting

/-- A pass keeps what visits keep; the nodes that it skips go on waiting. -/
theorem KeptByVisits.resolvePass (hkept : KeptByVisits I) (h : I draft.graph (ids ++ skipped))
    (hrun : (Verification.resolvePass ids).run draft = (.ok still, last)) :
    I last.graph (still ++ skipped) ∧ still.Sublist ids := by
  induction ids generalizing draft still skipped with
  | nil =>
    cases hrun
    exact ⟨h, .refl []⟩
  | cons id rest ih =>
    have hskip {others : List NodeId}
        (hothers : (Verification.resolvePass rest).run draft = (.ok others, last)) :
        I last.graph (id :: others ++ skipped) ∧ (id :: others).Sublist (id :: rest) := by
      obtain ⟨hlast, hsublist⟩ := ih (hkept.perm _ _ _ List.perm_middle.symm h) hothers
      exact ⟨hkept.perm _ _ _ List.perm_middle hlast, hsublist.cons_cons id⟩
    rw [Verification.resolvePass, run_bind, run_graph] at hrun
    dsimp only at hrun
    split at hrun
    · obtain ⟨others, _, hothers, hpure⟩ := bind_ok_iff.1 hrun
      cases hpure
      exact hskip hothers
    · next node hfound =>
      obtain rfl : node.id = id := id_of_node? hfound
      split at hrun
      · next hready =>
        obtain ⟨shapes, mid, hinfer, hrun⟩ := bind_ok_iff.1 hrun
        obtain ⟨_, visited, hresolve, hrun⟩ := bind_ok_iff.1 hrun
        have hnext := hkept.visit draft mid visited node (rest ++ skipped) shapes h
          (List.mem_of_find?_eq_some hfound) hready hinfer hresolve
        obtain ⟨hlast, hsublist⟩ := ih hnext hrun
        exact ⟨hlast, hsublist.cons _⟩
      · obtain ⟨others, _, hothers, hpure⟩ := bind_ok_iff.1 hrun
        cases hpure
        exact hskip hothers

theorem sublist_of_resolvePass
    (hrun : (Verification.resolvePass ids).run draft = (.ok still, last)) : still.Sublist ids := by
  have hkept : KeptByVisits fun _ _ ↦ True :=
    { perm := fun _ _ _ _ _ ↦ trivial
      visit := fun _ _ _ _ _ _ _ _ _ _ _ ↦ trivial }
  exact (@KeptByVisits.resolvePass _ draft last ids [] still hkept trivial hrun).2

theorem keptByVisits_redrafted (start : Graph) :
    KeptByVisits fun now _ ↦ start.Revised DataObject.Redrafted now where
  perm _ _ _ _ h := h
  visit draft mid _ node _ shapes h _ _ hinfer hresolve := by
    have hmid := (kept_inferSlots node (inspect draft.graph node) node.bindings draft).graph_eq
    have hlast := (redrafted_resolveAll shapes mid).graph
    rw [hinfer] at hmid
    rw [hresolve, hmid] at hlast
    exact h.trans DataObject.Redrafted.trans hlast

/-! ## The end of the loop -/

/-- No node that waits is ready. -/
def Idle (now : Graph) (waiting : List NodeId) : Prop :=
  ∀ id ∈ waiting, ∀ node, now.node? id = some node → isReady now node = false

/-- A pass that skips all nodes changes nothing, and has found none of them ready. -/
theorem idle_of_resolvePass (hrun : (Verification.resolvePass ids).run draft = (.ok still, last))
    (hlength : ids.length ≤ still.length) : last = draft ∧ Idle draft.graph ids := by
  induction ids generalizing still with
  | nil =>
    cases hrun
    exact ⟨rfl, fun id hid ↦ absurd hid List.not_mem_nil⟩
  | cons id rest ih =>
    have hskip {others : List NodeId} (hstill : still = id :: others)
        (hothers : (Verification.resolvePass rest).run draft = (.ok others, last))
        (hid : ∀ node, draft.graph.node? id = some node → isReady draft.graph node = false) :
        last = draft ∧ Idle draft.graph (id :: rest) := by
      rw [hstill] at hlength
      obtain ⟨hlast, hidle⟩ := ih hothers (Nat.le_of_succ_le_succ hlength)
      exact ⟨hlast, List.forall_mem_cons.2 ⟨hid, hidle⟩⟩
    rw [Verification.resolvePass, run_bind, run_graph] at hrun
    dsimp only at hrun
    split at hrun
    · next hnone =>
      obtain ⟨others, _, hothers, hpure⟩ := bind_ok_iff.1 hrun
      cases hpure
      exact hskip rfl hothers fun node hnode ↦
        absurd (hnode.symm.trans hnone) (Option.some_ne_none node)
    · next node hfound =>
      split at hrun
      · -- A visited node would be missing among the nodes that are left.
        obtain ⟨_, _, -, hrun⟩ := bind_ok_iff.1 hrun
        obtain ⟨_, _, -, hrun⟩ := bind_ok_iff.1 hrun
        have hshorter := (sublist_of_resolvePass hrun).length_le
        exact absurd (Nat.le_trans hlength hshorter) (Nat.not_succ_le_self _)
      · next hunready =>
        obtain ⟨others, _, hothers, hpure⟩ := bind_ok_iff.1 hrun
        cases hpure
        refine hskip rfl hothers fun other hother ↦ ?_
        obtain rfl : node = other := Option.some.inj (hfound.symm.trans hother)
        exact Bool.eq_false_iff.2 hunready

/-- The loop keeps what visits keep. If its bound leaves room for one pass more than there are
nodes, no node that is left is ready when it ends. -/
theorem KeptByVisits.resolvePasses (hkept : KeptByVisits I) (h : I draft.graph left)
    (hrun : (Verification.resolvePasses passes left).run draft = (.ok (), last)) :
    ∃ still, still.Sublist left ∧ I last.graph still ∧
      (left.length < passes → Idle last.graph still) := by
  induction passes generalizing draft left with
  | zero =>
    cases hrun
    exact ⟨left, .refl left, h, fun hroom ↦ absurd hroom (Nat.not_lt_zero _)⟩
  | succ passes ih =>
    rw [Verification.resolvePasses] at hrun
    obtain ⟨still, mid, hpass, hrun⟩ := bind_ok_iff.1 hrun
    rw [← List.append_nil left] at h
    obtain ⟨hmid, hsublist⟩ := hkept.resolvePass h hpass
    rw [List.append_nil] at hmid
    split at hrun
    · next hshorter =>
      obtain ⟨rest, hrest, hlast, hidle⟩ := ih hmid hrun
      exact ⟨rest, hrest.trans hsublist, hlast, fun hroom ↦ hidle (by omega)⟩
    · next hlength =>
      cases hrun
      obtain ⟨rfl, hidle⟩ := idle_of_resolvePass hpass (Nat.le_of_not_lt hlength)
      rw [hsublist.eq_of_length_le (Nat.le_of_not_lt hlength)] at hmid
      exact ⟨left, .refl left, hmid, fun _ ↦ hidle⟩

/-! ## The number of passes -/

/-- The loop without a bound: how many passes it takes over the nodes that are left, and what comes
of it. A pass that ends with an error is the last one, and so is a pass that visits no node. -/
inductive Settles : Nat → List NodeId → Draft → Except (Stop VerifyError) Unit × Draft → Prop
  | failed {left : List NodeId} {draft last : Draft} {stop : Stop VerifyError}
      (hpass : (resolvePass left).run draft = (.error stop, last)) :
      Settles 1 left draft (.error stop, last)
  | idle {left still : List NodeId} {draft last : Draft}
      (hpass : (resolvePass left).run draft = (.ok still, last))
      (hlength : ¬still.length < left.length) : Settles 1 left draft (.ok (), last)
  | again {passes : Nat} {left still : List NodeId} {draft mid : Draft}
      {outcome : Except (Stop VerifyError) Unit × Draft}
      (hpass : (resolvePass left).run draft = (.ok still, mid))
      (hlength : still.length < left.length) (hrest : Settles passes still mid outcome) :
      Settles (passes + 1) left draft outcome

/-- The loop ends after one pass more than there are nodes at the latest, and any bound that leaves
room for so many passes makes no difference to it. -/
theorem settles_resolvePasses (draft : Draft) (hroom : left.length < passes) :
    ∃ taken ≤ left.length + 1,
      Settles taken left draft ((Verification.resolvePasses passes left).run draft) := by
  induction passes generalizing draft left with
  | zero => exact absurd hroom (Nat.not_lt_zero _)
  | succ passes ih =>
    rw [Verification.resolvePasses, run_bind]
    cases hpass : (Verification.resolvePass left).run draft with
    | mk result mid =>
      cases result with
      | error stop => exact ⟨1, by omega, .failed hpass⟩
      | ok still =>
        dsimp only
        split
        · next hshorter =>
          obtain ⟨taken, hle, hrest⟩ := @ih still mid (by omega)
          exact ⟨taken + 1, by omega, .again hpass hshorter hrest⟩
        · next hlength => exact ⟨1, by omega, .idle hpass hlength⟩

end Verification

end ImageFlow
