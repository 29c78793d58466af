import ImageFlow.Plan.Dispatch

/-!
# Runs of a plan

However the nodes of a plan are dispatched, what every single run of a node keeps is kept by the
whole, and the whole fails in no other way than a single node does. A run that succeeds has run
every node, one after the other, so running by levels then is running the levels in a row.
-/

namespace ImageFlow.Dispatch

variable {σ ε : Type} {P : σ → Prop} {Q : ε → Prop} {step : NodeId → σ → Except ε Unit × σ}

/-- An action that keeps a property of states, and whose failures all have a property. -/
def Keeps (P : σ → Prop) (Q : ε → Prop) (action : σ → Except ε Unit × σ) : Prop :=
  ∀ s, P s → P (action s).2 ∧ ∀ e, (action s).1 = .error e → Q e

theorem keeps_inOrder {ids : List NodeId} (h : ∀ id ∈ ids, Keeps P Q (step id)) :
    Keeps P Q (inOrder step ids) := by
  induction ids with
  | nil => exact fun s hs ↦ ⟨hs, fun e he ↦ (nomatch he)⟩
  | cons id rest ih =>
    obtain ⟨hid, hrest⟩ := List.forall_mem_cons.1 h
    intro s hs
    have hfirst := hid s hs
    rw [inOrder]
    generalize step id s = first at hfirst ⊢
    obtain ⟨result, s'⟩ := first
    cases result with
    | error e => exact hfirst
    | ok _ => exact ih hrest s' hfirst.1

theorem keeps_level {ids : List NodeId} (h : ∀ id ∈ ids, Keeps P Q (step id)) :
    Keeps P Q (level step ids) := by
  induction ids with
  | nil => exact fun s hs ↦ ⟨hs, fun e he ↦ (nomatch he)⟩
  | cons id rest ih =>
    obtain ⟨hid, hrest⟩ := List.forall_mem_cons.1 h
    intro s hs
    have hfirst := hid s hs
    have hothers := ih hrest (step id s).2 hfirst.1
    rw [level]
    generalize step id s = first at hfirst hothers ⊢
    obtain ⟨result, s'⟩ := first
    cases result with
    | error e => exact ⟨hothers.1, hfirst.2⟩
    | ok _ => exact hothers

theorem keeps_byLevel {levels : List (List NodeId)}
    (h : ∀ ids ∈ levels, ∀ id ∈ ids, Keeps P Q (step id)) : Keeps P Q (byLevel step levels) := by
  induction levels with
  | nil => exact fun s hs ↦ ⟨hs, fun e he ↦ (nomatch he)⟩
  | cons ids rest ih =>
    obtain ⟨hids, hrest⟩ := List.forall_mem_cons.1 h
    intro s hs
    have hfirst := keeps_level hids s hs
    rw [byLevel]
    generalize level step ids s = first at hfirst ⊢
    obtain ⟨result, s'⟩ := first
    cases result with
    | error e => exact hfirst
    | ok _ => exact ih hrest s' hfirst.1

/-- The nodes that a run of a plan runs if none of them fails, in order. -/
def sequence (options : RunOptions) (plan : Plan) : List NodeId :=
  if options.parallel then plan.levels.flatten else plan.order

theorem keeps_run {options : RunOptions} {plan : Plan}
    (h : ∀ id ∈ sequence options plan, Keeps P Q (step id)) :
    Keeps P Q (run options plan step) := by
  intro s hs
  unfold sequence at h
  unfold run
  split
  · next hparallel =>
    rw [if_pos hparallel] at h
    apply keeps_byLevel ?_ s hs
    intro ids hids id hid
    exact h id (List.mem_flatten.2 ⟨ids, hids, hid⟩)
  · next hsequential =>
    rw [if_neg hsequential] at h
    exact keeps_inOrder h s hs

/-! ## Success -/

variable {s s' : σ}

theorem inOrder_append (first second : List NodeId) (s : σ) :
    inOrder step (first ++ second) s =
      match inOrder step first s with
      | (.ok (), s) => inOrder step second s
      | (.error e, s) => (.error e, s) := by
  induction first generalizing s with
  | nil => rfl
  | cons id rest ih =>
    rw [List.cons_append, inOrder, inOrder]
    generalize step id s = outcome
    obtain ⟨result, s'⟩ := outcome
    cases result with
    | error e => rfl
    | ok _ => exact ih s'

theorem level_eq_ok_iff {ids : List NodeId} :
    level step ids s = (.ok (), s') ↔ inOrder step ids s = (.ok (), s') := by
  induction ids generalizing s with
  | nil => rfl
  | cons id rest ih =>
    rw [level, inOrder]
    generalize step id s = outcome
    obtain ⟨result, middle⟩ := outcome
    cases result with
    | error e => simp
    | ok _ => exact ih

theorem byLevel_eq_ok_iff {levels : List (List NodeId)} :
    byLevel step levels s = (.ok (), s') ↔ inOrder step levels.flatten s = (.ok (), s') := by
  induction levels generalizing s with
  | nil => rfl
  | cons ids rest ih =>
    rw [byLevel, List.flatten_cons, inOrder_append]
    cases hlevel : level step ids s with
    | mk result middle =>
      cases result with
      | ok _ =>
        rw [level_eq_ok_iff.1 hlevel]
        exact ih
      | error e =>
        -- The level has failed, so its nodes do not all succeed in a row either.
        cases hrow : inOrder step ids s with
        | mk result' middle' =>
          cases result' with
          | ok _ =>
            rw [level_eq_ok_iff.2 hrow] at hlevel
            cases hlevel
          | error e' => simp

theorem run_eq_ok_iff {options : RunOptions} {plan : Plan} :
    run options plan step s = (.ok (), s') ↔
      inOrder step (sequence options plan) s = (.ok (), s') := by
  unfold run sequence
  split
  · exact byLevel_eq_ok_iff
  · rfl

theorem isOk_run (options : RunOptions) (plan : Plan) (step : NodeId → σ → Except ε Unit × σ)
    (s : σ) :
    (run options plan step s).1.isOk = (inOrder step (sequence options plan) s).1.isOk := by
  have hiff (s' : σ) := @run_eq_ok_iff _ _ step s s' options plan
  generalize run options plan step s = ran at hiff ⊢
  generalize inOrder step (sequence options plan) s = ended at hiff ⊢
  obtain ⟨result, last⟩ := ran
  obtain ⟨result', last'⟩ := ended
  cases result with
  | ok _ =>
    cases (hiff last).1 rfl
    rfl
  | error e =>
    cases result' with
    | ok _ => cases (hiff last').2 rfl
    | error e' => rfl

theorem run_eq_of_isOk {options : RunOptions} {plan : Plan}
    (h : (inOrder step (sequence options plan) s).1.isOk = true) :
    run options plan step s = inOrder step (sequence options plan) s := by
  cases hended : inOrder step (sequence options plan) s with
  | mk result last =>
    cases result with
    | ok _ => exact run_eq_ok_iff.2 hended
    | error e =>
      rw [hended] at h
      cases h

end ImageFlow.Dispatch
