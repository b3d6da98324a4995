/-! Computations that can fail: one after the other, and step by step over a list. -/

namespace AlloyGrade

variable {ε σ τ α β : Type}

theorem bind_eq_ok_iff {x : Except ε α} {g : α → Except ε β} {b : β} :
    (x >>= g) = .ok b ↔ ∃ a, x = .ok a ∧ g a = .ok b := by
  cases x with
  | error e => simp [bind, Except.bind]
  | ok a => simp [bind, Except.bind]

theorem bind_eq_error_iff {x : Except ε α} {g : α → Except ε β} {e : ε} :
    (x >>= g) = .error e ↔ x = .error e ∨ ∃ a, x = .ok a ∧ g a = .error e := by
  cases x with
  | error e => simp [bind, Except.bind]
  | ok a => simp [bind, Except.bind]

theorem map_eq_bind (x : Except ε α) (k : α → σ) : x.map k = x >>= fun a => pure (k a) := by
  cases x <;> rfl

theorem map_bind_pure (x : Except ε α) (k : α → σ) (φ : σ → τ) :
    (x >>= fun a => pure (k a)).map φ = x >>= fun a => pure (φ (k a)) := by
  cases x <;> rfl

variable {f : σ → α → Except ε σ} {xs : List α} {g g' : σ}

/-- A change of the state that commutes with every step commutes with the steps one after the other. -/
theorem foldlM_map {φ : σ → σ} (h : ∀ x ∈ xs, ∀ g, f (φ g) x = (f g x).map φ) (g : σ) :
    xs.foldlM f (φ g) = (xs.foldlM f g).map φ := by
  induction xs generalizing g with
  | nil => rfl
  | cons x xs ih =>
    rw [List.foldlM_cons, List.foldlM_cons, h x (.head _) g]
    cases f g x with
    | error e => rfl
    | ok next => exact ih (fun y hy => h y (.tail _ hy)) next

/-- What every step does to a view of the state, the steps do one after the other. -/
theorem view_of_foldlM (view : σ → τ) (step : τ → α → τ)
    (h : ∀ {g x g'}, f g x = .ok g' → view g' = step (view g) x) (hfold : xs.foldlM f g = .ok g') :
    view g' = xs.foldl step (view g) := by
  induction xs generalizing g with
  | nil =>
    cases hfold
    rfl
  | cons x xs ih =>
    rw [List.foldlM_cons] at hfold
    obtain ⟨next, hstep, hrest⟩ := bind_eq_ok_iff.mp hfold
    rw [ih hrest, h hstep, List.foldl_cons]

/-- If the steps fail, one of them does. -/
theorem step_of_foldlM_error {e : ε} (h : xs.foldlM f g = .error e) : ∃ x ∈ xs, ∃ g, f g x = .error e := by
  induction xs generalizing g with
  | nil => cases h
  | cons x xs ih =>
    rw [List.foldlM_cons] at h
    rcases bind_eq_error_iff.mp h with hx | ⟨next, -, hrest⟩
    · exact ⟨x, .head _, g, hx⟩
    · obtain ⟨y, hy, hstep⟩ := ih hrest
      exact ⟨y, .tail _ hy, hstep⟩

end AlloyGrade
