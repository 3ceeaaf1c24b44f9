/-!
# Computations with failures and a state

Rendering and compiling may fail, and keep the state they had reached. `exec` runs them, and has
laws for doing one thing after another.
-/

namespace Mdx

/-- What a computation that starts in a state ends with. -/
def exec {ε σ α : Type} (m : ExceptT ε (StateM σ) α) (s : σ) : Except ε α × σ :=
  m.run.run s

section

variable {ε σ α β : Type} {m : ExceptT ε (StateM σ) α} {f : α → ExceptT ε (StateM σ) β} {s s' : σ}

theorem exec_pure (a : α) (s : σ) :
    exec (pure a : ExceptT ε (StateM σ) α) s = (.ok a, s) := rfl

/-- A result that was there already. -/
theorem exec_lift (a : α) (s : σ) :
    exec (liftM (.ok a : Except ε α) : ExceptT ε (StateM σ) α) s = (.ok a, s) := rfl

theorem exec_bind_of_ok {a : α} (h : exec m s = (.ok a, s')) :
    exec (m >>= f) s = exec (f a) s' := by
  rw [exec] at h
  rw [exec, ExceptT.run_bind, StateT.run_bind, h]
  rfl

theorem exec_bind_of_error {e : ε} (h : exec m s = (.error e, s')) :
    exec (m >>= f) s = (.error e, s') := by
  rw [exec] at h
  rw [exec, ExceptT.run_bind, StateT.run_bind, h]
  rfl

/-- If one thing after another succeeds, so do both. -/
theorem exec_bind_eq_ok {b : β} (h : exec (m >>= f) s = (.ok b, s')) :
    ∃ a s₁, exec m s = (.ok a, s₁) ∧ exec (f a) s₁ = (.ok b, s') := by
  match hm : exec m s with
  | (.ok a, s₁) =>
      rw [exec_bind_of_ok hm] at h
      exact ⟨a, s₁, rfl, h⟩
  | (.error e, s₁) =>
      rw [exec_bind_of_error hm] at h
      cases h

end

end Mdx
