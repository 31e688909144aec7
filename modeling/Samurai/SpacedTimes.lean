import Mathlib.Tactic

/-!
# Spaced times

Times are spaced by `p` when each comes at least `p` after the one before it.
A window then holds few of them: one, and one more for every `p` of its
length.
-/

def Spaced (p : ℤ) (times : List ℤ) : Prop :=
  times.IsChain fun a b => a + p ≤ b

namespace Spaced

variable {p q a b now : ℤ} {times : List ℤ}

theorem nil : Spaced p [] :=
  List.isChain_nil

/-- A new time is spaced if it is spaced from the last one. -/
theorem concat (hspaced : Spaced p times)
    (hlast : ∀ last ∈ times.getLast?, last + p ≤ now) :
    Spaced p (times ++ [now]) := by
  unfold Spaced
  rw [List.isChain_append]
  refine ⟨hspaced, List.isChain_singleton _, ?_⟩
  intro last hmem first hfirst
  have hnow : first = now := by simpa [eq_comm] using hfirst
  rw [hnow]
  exact hlast last hmem

theorem pairwise (hp : 0 ≤ p) (hspaced : Spaced p times) :
    times.Pairwise fun a b => a + p ≤ b := by
  have htrans : IsTrans ℤ fun a b => a + p ≤ b :=
    ⟨fun a b c hab hbc => by omega⟩
  exact List.isChain_iff_pairwise.mp hspaced

theorem length_of_bounds (hp : 0 ≤ p) (hab : a ≤ b)
    (hspaced : times.Pairwise fun a b => a + p ≤ b)
    (hbounds : ∀ t ∈ times, a ≤ t ∧ t ≤ b) :
    ((times.length : ℤ) - 1) * p ≤ b - a := by
  induction times generalizing a with
  | nil =>
      simp only [List.length_nil, Nat.cast_zero, zero_sub, neg_mul, one_mul]
      omega
  | cons t rest ih =>
      rw [List.pairwise_cons] at hspaced
      have ht := hbounds t (by simp)
      by_cases hroom : t + p ≤ b
      · have hrest : ((rest.length : ℤ) - 1) * p ≤ b - (t + p) := by
          apply ih hroom hspaced.2
          intro u hu
          exact ⟨hspaced.1 u hu, (hbounds u (by simp [hu])).2⟩
        have hlength : (((t :: rest).length : ℤ) - 1) * p =
            ((rest.length : ℤ) - 1) * p + p := by
          simp only [List.length_cons, Nat.cast_add, Nat.cast_one]
          ring
        omega
      · have hnil : rest = [] := by
          apply List.eq_nil_iff_forall_not_mem.mpr
          intro u hu
          have hlow := hspaced.1 u hu
          have hhigh := (hbounds u (by simp [hu])).2
          omega
        simp only [hnil, List.length_singleton, Nat.cast_one, sub_self, zero_mul]
        omega

/-- A window of length `b - a` holds at most one time more than the number of
gaps that fit into it. -/
theorem length_window (hp : 0 ≤ p) (hab : a ≤ b) (hspaced : Spaced p times) :
    (((times.filter fun t => a ≤ t ∧ t ≤ b).length : ℤ) - 1) * p ≤ b - a := by
  apply length_of_bounds hp hab
  · exact (hspaced.pairwise hp).filter _
  · intro t ht
    simpa using (List.mem_filter.mp ht).2

end Spaced
