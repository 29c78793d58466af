import ImageFlow.Proofs.Execution.Dispatch
import ImageFlow.Proofs.Precedence

/-!
# Attempts

What the nodes of a plan have come to when a run ends. One at a time, a run that fails has run the
nodes of a first part of the order, all of them well, and then the one that failed. By levels, it
has run the nodes of the first levels, all well, and then every node of one more level; of the
failures there the one that stands first in the level is reported.

The nodes of a level run side by side, so the order in which they come to their ends is not that of
the level. A schedule gives one order for each level. The failure that is reported is still the
first one of the level.
-/

namespace ImageFlow.Dispatch

variable {σ ε : Type} {P : σ → Prop} {step : NodeId → σ → Except ε Unit × σ} {s s' : σ} {e : ε}
  {ids taken level : List NodeId} {id : NodeId} {schedule levels : List (List NodeId)}
  {results : List (NodeId × Except ε Unit)}

/-! ## Running whatever fails -/

/-- Runs every node, and keeps what each of them came to. -/
def attempt (step : NodeId → σ → Except ε Unit × σ) :
    List NodeId → σ → List (NodeId × Except ε Unit) × σ
  | [], s => ([], s)
  | id :: rest, s =>
    let others := attempt step rest (step id s).2
    ((id, (step id s).1) :: others.1, others.2)

/-- Nodes that have all ended well. -/
def passed (ids : List NodeId) : List (NodeId × Except ε Unit) := ids.map (·, .ok ())

theorem attempt_append (first second : List NodeId) (s : σ) :
    attempt step (first ++ second) s =
      ((attempt step first s).1 ++ (attempt step second (attempt step first s).2).1,
        (attempt step second (attempt step first s).2).2) := by
  induction first generalizing s with
  | nil => rfl
  | cons id rest ih =>
    rw [List.cons_append, attempt, attempt, ih]
    rfl

theorem map_fst_attempt (ids : List NodeId) (s : σ) :
    (attempt step ids s).1.map Prod.fst = ids := by
  induction ids generalizing s with
  | nil => rfl
  | cons id rest ih =>
    rw [attempt]
    exact congrArg (id :: ·) (ih (step id s).2)

theorem map_fst_of_attempt (h : attempt step ids s = (results, s')) :
    results.map Prod.fst = ids := by
  have hkeys : (attempt step ids s).1.map Prod.fst = ids := map_fst_attempt ids s
  rwa [h] at hkeys

theorem eq_passed (h : ∀ entry ∈ results, entry.2 = .ok ()) :
    results = passed (results.map Prod.fst) := by
  have hsame : results.map id = results.map ((·, .ok ()) ∘ Prod.fst) :=
    List.map_congr_left fun entry hentry ↦ Prod.ext rfl (h entry hentry)
  rw [passed, List.map_map, ← hsame, List.map_id]

theorem passed_append (first second : List NodeId) :
    (passed (first ++ second) : List (NodeId × Except ε Unit)) = passed first ++ passed second :=
  List.map_append

/-! ## One at a time -/

theorem attempt_of_inOrder_ok (h : inOrder step ids s = (.ok (), s')) :
    attempt step ids s = (passed ids, s') := by
  induction ids generalizing s with
  | nil =>
    cases h
    rfl
  | cons id rest ih =>
    rw [inOrder] at h
    rw [attempt]
    generalize step id s = first at h ⊢
    obtain ⟨result, middle⟩ := first
    cases result with
    | error e => cases h
    | ok _ =>
      dsimp only
      rw [ih h]
      rfl

theorem exists_attempt_of_inOrder_error (h : inOrder step ids s = (.error e, s')) :
    ∃ done id rest, ids = done ++ id :: rest ∧
      attempt step (done ++ [id]) s = (passed done ++ [(id, .error e)], s') := by
  induction ids generalizing s with
  | nil => cases h
  | cons id rest ih =>
    rw [inOrder] at h
    cases hstep : step id s with
    | mk result middle =>
      rw [hstep] at h
      cases result with
      | error e' =>
        cases h
        refine ⟨[], id, rest, rfl, ?_⟩
        rw [List.nil_append, attempt, hstep]
        rfl
      | ok _ =>
        obtain ⟨done, failing, others, rfl, hattempt⟩ := ih h
        refine ⟨id :: done, failing, others, rfl, ?_⟩
        rw [List.cons_append, attempt, hstep]
        dsimp only
        rw [hattempt]
        rfl

/-- A row does not succeed if one of its nodes fails whatever the nodes before it do. -/
theorem isOk_inOrder_eq_false (hkeeps : ∀ id s, P s → P (step id s).2)
    (hid : id ∈ ids) (hfails : ∀ s, P s → (step id s).1.isOk = false) (hs : P s) :
    (inOrder step ids s).1.isOk = false := by
  induction ids generalizing s with
  | nil => cases hid
  | cons first rest ih =>
    have hnext := hkeeps first s hs
    have hhead (heq : id = first) : (step first s).1.isOk = false := heq ▸ hfails s hs
    rw [inOrder]
    generalize step first s = outcome at hnext hhead ⊢
    obtain ⟨result, middle⟩ := outcome
    cases result with
    | error e => rfl
    | ok _ =>
      refine ih ?_ hnext
      rcases List.mem_cons.1 hid with heq | hrest
      · cases hhead heq
      · exact hrest

/-! ## By levels -/

/-- The first failure of some nodes, in the order in which they are listed. -/
def verdict (results : List (NodeId × Except ε Unit)) : List NodeId → Except ε Unit
  | [] => .ok ()
  | id :: rest =>
    match results.lookup id with
    | some (.error e) => .error e
    | _ => verdict results rest

/-- Runs the nodes of a level in another order, then reports the first failure of the level. -/
def levelIn (step : NodeId → σ → Except ε Unit × σ) (taken level : List NodeId) (s : σ) :
    Except ε Unit × σ :=
  let attempted := attempt step taken s
  (verdict attempted.1 level, attempted.2)

/-- Runs levels one after the other, each in an order of its own, and stops after the first that
fails. -/
def byLevelIn (step : NodeId → σ → Except ε Unit × σ) :
    List (List NodeId) → List (List NodeId) → σ → Except ε Unit × σ
  | taken :: others, level :: rest, s =>
    match levelIn step taken level s with
    | (.ok (), s) => byLevelIn step others rest s
    | (.error e, s) => (.error e, s)
  | _, _, s => (.ok (), s)

/-- Runs a plan under the given options, the nodes of its levels as a schedule says. -/
def runIn (schedule : List (List NodeId)) (options : RunOptions) (plan : Plan)
    (step : NodeId → σ → Except ε Unit × σ) (s : σ) : Except ε Unit × σ :=
  if options.parallel then byLevelIn step schedule plan.levels s else inOrder step plan.order s

theorem verdict_cons_of_not_mem (h : id ∉ ids) (result : Except ε Unit) :
    verdict ((id, result) :: results) ids = verdict results ids := by
  induction ids with
  | nil => rfl
  | cons first rest ih =>
    obtain ⟨hne, hrest⟩ := List.ne_and_not_mem_of_not_mem_cons h
    have hother : (first == id) = false := beq_eq_false_iff_ne.2 hne.symm
    rw [verdict, verdict, List.lookup_cons, hother, ih hrest]

theorem level_eq_levelIn (hnodup : ids.Nodup) (s : σ) :
    Dispatch.level step ids s = levelIn step ids ids s := by
  induction ids generalizing s with
  | nil => rfl
  | cons id rest ih =>
    obtain ⟨hnew, hnodup⟩ := List.nodup_cons.1 hnodup
    rw [Dispatch.level, levelIn, attempt]
    generalize step id s = first
    obtain ⟨result, middle⟩ := first
    dsimp only
    rw [ih hnodup, verdict, List.lookup_cons_self, verdict_cons_of_not_mem hnew]
    cases result <;> rfl

theorem byLevel_eq_byLevelIn (hnodup : ∀ level ∈ levels, level.Nodup) (s : σ) :
    byLevel step levels s = byLevelIn step levels levels s := by
  induction levels generalizing s with
  | nil => rfl
  | cons level rest ih =>
    obtain ⟨hlevel, hrest⟩ := List.forall_mem_cons.1 hnodup
    rw [byLevel, byLevelIn, level_eq_levelIn hlevel]
    generalize levelIn step level level s = ended
    obtain ⟨result, middle⟩ := ended
    cases result with
    | error e => rfl
    | ok _ => exact ih hrest middle

/-- Taking the nodes of each level as the plan lists them is running the plan. -/
theorem runIn_levels {plan : Plan} (hnodup : ∀ level ∈ plan.levels, level.Nodup)
    (options : RunOptions) (s : σ) :
    runIn plan.levels options plan step s = run options plan step s := by
  rw [runIn, run, byLevel_eq_byLevelIn hnodup]

/-- A failure that is reported is one of the results, and no node before it has failed. -/
structure Reports (results : List (NodeId × Except ε Unit)) (level : List NodeId) (id : NodeId)
    (e : ε) : Prop where
  mem : (id, .error e) ∈ results
  first : ∃ before after, level = before ++ id :: after ∧
    ∀ other ∈ before, ∀ e', (other, .error e') ∉ results

theorem verdict_eq_ok (hnodup : (results.map Prod.fst).Nodup) (h : verdict results ids = .ok ()) :
    ∀ entry ∈ results, entry.1 ∈ ids → entry.2 = .ok () := by
  induction ids with
  | nil => exact fun _ _ hmem ↦ nomatch hmem
  | cons id rest ih =>
    rw [verdict] at h
    intro entry hentry hmem
    split at h
    · cases h
    · next hlookup =>
      rcases List.mem_cons.1 hmem with heq | hrest
      · cases hresult : entry.2 with
        | ok _ => rfl
        | error e =>
          have hfound : (id, Except.error e) ∈ results := by
            rw [← heq, ← hresult]
            exact hentry
          exact absurd (Precedence.lookup_of_mem hnodup hfound) (hlookup e)
      · exact ih h entry hentry hrest

theorem exists_reports_of_verdict (hnodup : (results.map Prod.fst).Nodup)
    (h : verdict results ids = .error e) : ∃ id, Reports results ids id e := by
  induction ids with
  | nil => cases h
  | cons id rest ih =>
    rw [verdict] at h
    split at h
    · next e' hlookup =>
      cases h
      exact ⟨id, Precedence.mem_of_lookup hlookup, [], rest, rfl, fun _ hnone ↦ nomatch hnone⟩
    · next hlookup =>
      obtain ⟨failing, hmem, before, after, rfl, hbefore⟩ := ih h
      refine ⟨failing, hmem, id :: before, after, rfl, List.forall_mem_cons.2 ⟨?_, hbefore⟩⟩
      intro e' hfound
      exact hlookup e' (Precedence.lookup_of_mem hnodup hfound)

theorem attempt_of_levelIn_ok (hperm : taken.Perm level) (hnodup : level.Nodup)
    (h : levelIn step taken level s = (.ok (), s')) :
    attempt step taken s = (passed taken, s') := by
  have hkeys : (attempt step taken s).1.map Prod.fst = taken := map_fst_attempt taken s
  rw [levelIn] at h
  generalize attempt step taken s = attempted at h hkeys ⊢
  obtain ⟨results, last⟩ := attempted
  obtain ⟨hverdict, rfl⟩ := Prod.mk.inj h
  have hall : ∀ entry ∈ results, entry.2 = .ok () := by
    intro entry hentry
    refine verdict_eq_ok ?_ hverdict entry hentry ?_
    · rw [hkeys]
      exact hperm.nodup_iff.2 hnodup
    · rw [← hperm.mem_iff, ← hkeys]
      exact List.mem_map_of_mem hentry
  rw [eq_passed hall, hkeys]

theorem exists_attempt_of_levelIn_error (hperm : taken.Perm level) (hnodup : level.Nodup)
    (h : levelIn step taken level s = (.error e, s')) :
    ∃ results id, attempt step taken s = (results, s') ∧ Reports results level id e := by
  have hkeys : (attempt step taken s).1.map Prod.fst = taken := map_fst_attempt taken s
  rw [levelIn] at h
  generalize attempt step taken s = attempted at h hkeys ⊢
  obtain ⟨results, last⟩ := attempted
  obtain ⟨hverdict, rfl⟩ := Prod.mk.inj h
  obtain ⟨id, hreports⟩ := exists_reports_of_verdict
    (by rw [hkeys]; exact hperm.nodup_iff.2 hnodup) hverdict
  exact ⟨results, id, rfl, hreports⟩

theorem attempt_of_byLevelIn_ok (hschedule : List.Forall₂ List.Perm schedule levels)
    (hnodup : ∀ level ∈ levels, level.Nodup) (h : byLevelIn step schedule levels s = (.ok (), s')) :
    attempt step schedule.flatten s = (passed schedule.flatten, s') := by
  induction hschedule generalizing s with
  | nil =>
    cases h
    rfl
  | @cons taken level others rest hperm hrest ih =>
    obtain ⟨hlevel, hnodup⟩ := List.forall_mem_cons.1 hnodup
    rw [byLevelIn] at h
    cases hended : levelIn step taken level s with
    | mk result middle =>
      rw [hended] at h
      cases result with
      | error e => cases h
      | ok _ =>
        rw [List.flatten_cons, attempt_append, attempt_of_levelIn_ok hperm hlevel hended]
        dsimp only
        rw [ih hnodup h, passed_append]

/-- A run by levels that fails has run the levels before one of them, all well, and that one. -/
theorem exists_attempt_of_byLevelIn_error (hschedule : List.Forall₂ List.Perm schedule levels)
    (hnodup : ∀ level ∈ levels, level.Nodup)
    (h : byLevelIn step schedule levels s = (.error e, s')) :
    ∃ earlier level later before taken after, levels = earlier ++ level :: later ∧
      schedule = before ++ taken :: after ∧ List.Forall₂ List.Perm before earlier ∧
      taken.Perm level ∧ ∃ results id, attempt step (before.flatten ++ taken) s =
          (passed before.flatten ++ results, s') ∧
        results.map Prod.fst = taken ∧ Reports results level id e := by
  induction hschedule generalizing s with
  | nil => cases h
  | @cons first level others rest hperm hrest ih =>
    obtain ⟨hlevel, hnodup⟩ := List.forall_mem_cons.1 hnodup
    rw [byLevelIn] at h
    cases hended : levelIn step first level s with
    | mk result middle =>
      rw [hended] at h
      cases result with
      | error e' =>
        cases h
        obtain ⟨results, id, hattempt, hreports⟩ :=
          exists_attempt_of_levelIn_error hperm hlevel hended
        exact ⟨[], level, rest, [], first, others, rfl, rfl, .nil, hperm, results, id, hattempt,
          map_fst_of_attempt hattempt, hreports⟩
      | ok _ =>
        obtain ⟨earlier, failed, later, before, taken, after, rfl, rfl, hbefore, htaken, results,
          id, hattempt, hkeys, hreports⟩ := ih hnodup h
        refine ⟨level :: earlier, failed, later, first :: before, taken, after, rfl, rfl,
          .cons hperm hbefore, htaken, results, id, ?_, hkeys, hreports⟩
        rw [List.flatten_cons, List.append_assoc, attempt_append,
          attempt_of_levelIn_ok hperm hlevel hended]
        dsimp only
        rw [hattempt, passed_append, List.append_assoc]

/-! ## How a run of a plan ends -/

/-- Nodes that run in a row: all of them well, or a first part well and then one that fails. -/
def StopsInRow {α : Type} (order : List NodeId) (result : Except ε α)
    (results : List (NodeId × Except ε Unit)) : Prop :=
  match result with
  | .ok _ => results = passed order
  | .error e => ∃ done id rest, order = done ++ id :: rest ∧
      results = passed done ++ [(id, .error e)]

/-- Nodes that run by levels: all of them well, or the first levels well and then one level of which
every node runs and some fail. -/
def StopsByLevel {α : Type} (levels : List (List NodeId)) (result : Except ε α)
    (results : List (NodeId × Except ε Unit)) : Prop :=
  match result with
  | .ok _ => ∃ all : List NodeId, all.Perm levels.flatten ∧ results = passed all
  | .error e => ∃ earlier level later, levels = earlier ++ level :: later ∧
      ∃ (done : List NodeId) (last : List (NodeId × Except ε Unit)) (id : NodeId),
        done.Perm earlier.flatten ∧ results = passed done ++ last ∧
          (last.map Prod.fst).Perm level ∧ Reports last level id e

/-- A run of a plan comes to what attempting the first of its nodes comes to. -/
theorem exists_attempt_of_runIn {plan : Plan} {options : RunOptions}
    (hschedule : List.Forall₂ List.Perm schedule plan.levels)
    (hnodup : ∀ level ∈ plan.levels, level.Nodup) {result : Except ε Unit}
    (h : runIn schedule options plan step s = (result, s')) :
    ∃ ids results, attempt step ids s = (results, s') ∧
      ids <+: (if options.parallel then schedule.flatten else plan.order) ∧
      (options.parallel = false → StopsInRow plan.order result results) ∧
      (options.parallel = true → StopsByLevel plan.levels result results) := by
  unfold runIn at h
  cases hparallel : options.parallel with
  | false =>
    rw [hparallel, if_neg Bool.false_ne_true] at h
    rw [if_neg Bool.false_ne_true]
    cases result with
    | ok _ =>
      exact ⟨plan.order, _, attempt_of_inOrder_ok h, List.prefix_rfl, fun _ ↦ rfl,
        fun h ↦ nomatch h⟩
    | error e =>
      obtain ⟨done, id, rest, horder, hattempt⟩ := exists_attempt_of_inOrder_error h
      refine ⟨_, _, hattempt, ⟨rest, ?_⟩, fun _ ↦ ⟨done, id, rest, horder, rfl⟩, fun h ↦ nomatch h⟩
      rw [horder, List.append_assoc]
      rfl
  | true =>
    rw [hparallel, if_pos rfl] at h
    rw [if_pos rfl]
    cases result with
    | ok _ =>
      refine ⟨_, _, attempt_of_byLevelIn_ok hschedule hnodup h, List.prefix_rfl,
        fun h ↦ (nomatch h), fun _ ↦ ?_⟩
      exact ⟨_, List.Perm.flatten_congr hschedule, rfl⟩
    | error e =>
      obtain ⟨earlier, level, later, before, taken, after, hlevels, rfl, hbefore, htaken, results,
        id, hattempt, hkeys, hreports⟩ := exists_attempt_of_byLevelIn_error hschedule hnodup h
      refine ⟨_, _, hattempt, ⟨after.flatten, by simp⟩, fun h ↦ (nomatch h), fun _ ↦ ?_⟩
      exact ⟨earlier, level, later, hlevels, before.flatten, results, id,
        List.Perm.flatten_congr hbefore, rfl, hkeys ▸ htaken, hreports⟩

/-! ### What has run -/

variable {α : Type} {order : List NodeId} {result : Except ε α}

theorem map_fst_passed (ids : List NodeId) :
    (passed ids : List (NodeId × Except ε Unit)).map Prod.fst = ids := by
  induction ids with
  | nil => rfl
  | cons id rest ih => exact congrArg (id :: ·) ih

theorem error_not_mem_passed (ids : List NodeId) (e : ε) :
    (id, Except.error e) ∉ passed ids := by
  intro hmem
  obtain ⟨_, -, heq⟩ := List.mem_map.1 hmem
  cases heq

/-- Of two nodes of an order, one stands before the other if they form a part of it. -/
theorem exists_le_of_sublist (hnodup : order.Nodup) {other : NodeId} (hid : id ∈ order)
    (h : other = id ∨ [id, other].Sublist order) :
    ∃ first second, order.findIdx? (· == id) = some first ∧
      order.findIdx? (· == other) = some second ∧ first ≤ second := by
  have hfind {part : List NodeId} {node : NodeId} (hmem : node ∈ part) :
      ∃ place, part.findIdx? (· == node) = some place := by
    rw [← Option.isSome_iff_exists, List.findIdx?_isSome]
    exact List.any_eq_true.2 ⟨node, hmem, beq_self_eq_true node⟩
  rcases h with rfl | hsublist
  · obtain ⟨place, hplace⟩ := hfind hid
    exact ⟨place, place, hplace, hplace, Nat.le_refl place⟩
  · obtain ⟨before, after, rfl, hbefore, hafter⟩ := List.cons_sublist_iff.1 hsublist
    have hother : other ∉ before := fun hmem ↦
      List.disjoint_of_nodup_append hnodup hmem (List.singleton_sublist.1 hafter)
    obtain ⟨first, hfirst⟩ := hfind hbefore
    obtain ⟨second, hsecond⟩ := hfind (List.singleton_sublist.1 hafter)
    have hnone : before.findIdx? (· == other) = none :=
      List.findIdx?_eq_none_iff.2 fun node hnode ↦ by
        rw [beq_eq_false_iff_ne]
        rintro rfl
        exact hother hnode
    refine ⟨first, second + before.length, ?_, ?_, ?_⟩
    · rw [List.findIdx?_append, hfirst, Option.some_or]
    · rw [List.findIdx?_append, hnone, Option.none_or, hsecond, Option.map_some]
    · have hlt := (List.findIdx?_eq_some_iff_getElem.1 hfirst).1
      omega

/-- A failure is reported of a node that has failed, and no node that has failed stands before it in
the order. -/
def Earliest (order : List NodeId) (results : List (NodeId × Except ε Unit)) (id : NodeId)
    (e : ε) : Prop :=
  (id, .error e) ∈ results ∧ ∀ other e', (other, .error e') ∈ results →
    ∃ first second, order.findIdx? (· == id) = some first ∧
      order.findIdx? (· == other) = some second ∧ first ≤ second

theorem StopsInRow.exists_earliest (hnodup : order.Nodup)
    (h : StopsInRow order (.error e : Except ε α) results) : ∃ id, Earliest order results id e := by
  obtain ⟨done, id, rest, rfl, rfl⟩ := h
  refine ⟨id, by simp, fun other e' hmem ↦ ?_⟩
  apply exists_le_of_sublist hnodup (by simp)
  rcases List.mem_append.1 hmem with hpassed | hlast
  · exact absurd hpassed (error_not_mem_passed done e')
  · exact .inl (Prod.mk.inj (List.mem_singleton.1 hlast)).1

theorem StopsByLevel.exists_earliest (hnodup : order.Nodup)
    (hlevels : ∀ level ∈ levels, level.Sublist order)
    (h : StopsByLevel levels (.error e : Except ε α) results) :
    ∃ id, Earliest order results id e := by
  obtain ⟨earlier, level, later, rfl, done, last, id, -, rfl, hkeys, hmem, before, after, rfl,
    hbefore⟩ := h
  have hsublist := hlevels _ (List.mem_append_right earlier List.mem_cons_self)
  refine ⟨id, List.mem_append_right _ hmem, fun other e' hother ↦ ?_⟩
  apply exists_le_of_sublist hnodup (hsublist.subset (by simp))
  rcases List.mem_append.1 hother with hpassed | hlast
  · exact absurd hpassed (error_not_mem_passed done e')
  · have hlevel : other ∈ before ++ id :: after :=
      hkeys.subset (List.mem_map.2 ⟨_, hlast, rfl⟩)
    rcases List.mem_append.1 hlevel with hearly | hlate
    · exact absurd hlast (hbefore other hearly e')
    · rcases List.mem_cons.1 hlate with heq | hafter
      · exact .inl heq
      · refine .inr (.trans ?_ ((List.sublist_append_right before _).trans hsublist))
        exact (List.singleton_sublist.2 hafter).cons_cons id

end ImageFlow.Dispatch
