/-!
# Computations with a state and errors

A computation changes a state and ends with an answer or with an error; the state is kept in both
cases. Stages of a verification are such computations, and so are the runs of kernels. What clients
call has no state of its own, and only ends in one of two ways.
-/

namespace ImageFlow

section Results

variable {ε α β : Type}

theorem exists_of_bind_eq_ok {result : Except ε α} {next : α → Except ε β} {b : β}
    (h : (result >>= next) = .ok b) : ∃ a, result = .ok a ∧ next a = .ok b := by
  cases result with
  | error e => cases h
  | ok a => exact ⟨a, rfl, h⟩

theorem exists_of_isOk {result : Except ε α} (h : result.isOk = true) : ∃ a, result = .ok a := by
  cases result with
  | error e => cases h
  | ok a => exact ⟨a, rfl⟩

theorem exists_of_map_eq_ok {result : Except ε α} {f : α → β} {b : β}
    (h : result.map f = .ok b) : ∃ a, result = .ok a ∧ f a = b := by
  cases result with
  | error e => cases h
  | ok a => exact ⟨a, rfl, Except.ok.inj h⟩

end Results

namespace Stateful

variable {σ ε α β : Type} {s s' : σ}

theorem run_bind (first : ExceptT ε (StateM σ) α) (next : α → ExceptT ε (StateM σ) β) (s : σ) :
    (first >>= next).run s =
      match first.run s with
      | (.ok a, s') => (next a).run s'
      | (.error e, s') => (.error e, s') := by
  change (first.run >>= ExceptT.bindCont next) s = _
  cases h : first.run s with
  | mk result s' =>
    have hstep : (first.run >>= ExceptT.bindCont next) s = ExceptT.bindCont next result s' := by
      change (match first.run s with
        | (result, s') => ExceptT.bindCont next result s') = _
      rw [h]
    rw [hstep]
    cases result <;> rfl

/-- What two computations do one after the other is what the first does, and then the second if the
first has passed. -/
theorem rel_bind {R : σ → σ → Prop} (htrans : ∀ a b c, R a b → R b c → R a c)
    {first : ExceptT ε (StateM σ) α} {next : α → ExceptT ε (StateM σ) β}
    (h : R s (first.run s).2)
    (hnext : ∀ a s', first.run s = (.ok a, s') → R s' ((next a).run s').2) :
    R s ((first >>= next).run s).2 := by
  rw [run_bind]
  cases hrun : first.run s with
  | mk result s' =>
    rw [hrun] at h
    cases result with
    | error e => exact h
    | ok a => exact htrans _ _ _ h (hnext a s' hrun)

/-- What the first of two computations leaves true, and the second does not make false, holds after
both. -/
theorem holds_bind {P : σ → Prop} {first : ExceptT ε (StateM σ) α}
    {next : α → ExceptT ε (StateM σ) β} (h : P (first.run s).2)
    (hnext : ∀ a s', first.run s = (.ok a, s') → P s' → P ((next a).run s').2) :
    P ((first >>= next).run s).2 := by
  rw [run_bind]
  cases hrun : first.run s with
  | mk result s' =>
    rw [hrun] at h
    cases result with
    | error e => exact h
    | ok a => exact hnext a s' hrun h

/-- Two computations pass one after the other if the first passes, and the second from where the
first ended. -/
theorem bind_ok_iff {first : ExceptT ε (StateM σ) α} {next : α → ExceptT ε (StateM σ) β} {b : β} :
    (first >>= next).run s = (.ok b, s') ↔
      ∃ a mid, first.run s = (.ok a, mid) ∧ (next a).run mid = (.ok b, s') := by
  rw [run_bind]
  constructor
  · intro h
    cases hrun : first.run s with
    | mk result mid =>
      rw [hrun] at h
      cases result with
      | error e => cases h
      | ok a => exact ⟨a, mid, rfl, h⟩
  · rintro ⟨a, mid, hrun, hnext⟩
    rw [hrun]
    exact hnext

theorem isOk_iff {outcome : Except ε α × σ} :
    outcome.1.isOk = true ↔ ∃ a last, outcome = (.ok a, last) := by
  obtain ⟨result, last⟩ := outcome
  cases result with
  | error e => simp [Except.isOk, Except.toBool]
  | ok a => simp [Except.isOk, Except.toBool]

theorem isOk_bind_iff {first : ExceptT ε (StateM σ) α} {next : α → ExceptT ε (StateM σ) β} :
    ((first >>= next).run s).1.isOk = true ↔
      ∃ a mid, first.run s = (.ok a, mid) ∧ ((next a).run mid).1.isOk = true := by
  constructor
  · intro h
    obtain ⟨b, last, hrun⟩ := isOk_iff.1 h
    obtain ⟨a, mid, hfirst, hnext⟩ := bind_ok_iff.1 hrun
    exact ⟨a, mid, hfirst, isOk_iff.2 ⟨b, last, hnext⟩⟩
  · rintro ⟨a, mid, hfirst, h⟩
    obtain ⟨b, last, hnext⟩ := isOk_iff.1 h
    exact isOk_iff.2 ⟨b, last, bind_ok_iff.2 ⟨a, mid, hfirst, hnext⟩⟩

end Stateful

end ImageFlow
