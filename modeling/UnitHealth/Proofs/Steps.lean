import Mathlib.Data.List.Basic

/-!
# Steps that can fail

Documents and command lines are read step by step, and a step that fails ends the reading. A reading
that comes through has come through each of its steps, so what every step keeps holds at the end
when it holds at the start.
-/

namespace UnitHealth.Steps

variable {ε ε' σ τ α : Type}

theorem bind_eq_ok_iff {x : Except ε σ} {f : σ → Except ε τ} {t : τ} :
    x >>= f = .ok t ↔ ∃ s, x = .ok s ∧ f s = .ok t := by
  cases x <;> simp [bind, Except.bind]

theorem map_eq_ok_iff {x : Except ε σ} {f : σ → τ} {t : τ} :
    x.map f = .ok t ↔ ∃ s, x = .ok s ∧ f s = t := by
  cases x <;> simp [Except.map]

theorem mapError_eq_ok_iff {x : Except ε σ} {f : ε → ε'} {s : σ} :
    x.mapError f = .ok s ↔ x = .ok s := by
  cases x <;> simp [Except.mapError]

/-- What every step keeps is kept by all of them one after the other. -/
theorem keeps_foldlM {P : σ → Prop} {step : σ → α → Except ε σ}
    (kept : ∀ s a s', P s → step s a = .ok s' → P s') {as : List α} {s s' : σ} (start : P s)
    (done : as.foldlM step s = .ok s') : P s' := by
  induction as generalizing s with
  | nil =>
      obtain rfl : s = s' := Except.ok.inj done
      exact start
  | cons a as ih =>
      rw [List.foldlM_cons, bind_eq_ok_iff] at done
      obtain ⟨next, first, rest⟩ := done
      exact ih (kept s a next start first) rest

end UnitHealth.Steps
