import Mathlib.Tactic

/-!
# Loops that break

`while True` with a `break`: the body yields the next state, or nothing where
it breaks.  The loop is given a number of rounds, and one rule says how many
are enough and what holds at the end.
-/

namespace BreakingLoop

variable {σ : Type*}

/-- There is no result if `rounds` are not enough. -/
def loop (body : σ → Option σ) : ℕ → σ → Option σ
  | 0, _ => none
  | rounds + 1, s =>
      match body s with
      | none => some s
      | some t => loop body rounds t

/-- A body that keeps an invariant and lowers a measure breaks in the end. -/
theorem loop_ends {body : σ → Option σ} {invariant : σ → Prop}
    (measure : σ → ℕ)
    (hbody : ∀ s t, invariant s → body s = some t →
      invariant t ∧ measure t < measure s)
    {rounds : ℕ} {s : σ} (hs : invariant s) (hrounds : measure s < rounds) :
    ∃ t, loop body rounds s = some t ∧ invariant t ∧ body t = none := by
  induction rounds generalizing s with
  | zero => omega
  | succ rounds ih =>
      unfold loop
      cases hnext : body s with
      | none => exact ⟨s, rfl, hs, hnext⟩
      | some t =>
          rcases hbody s t hs hnext with ⟨ht, hlower⟩
          exact ih ht (by omega)

end BreakingLoop
