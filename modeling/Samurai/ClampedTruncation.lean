import Mathlib.Tactic

/-!
# Truncation before a clamp

A number is truncated to a signed word of `2 * m` values and then clamped to
bounds that fit in the word.  The result is the clamp of the number itself
exactly if truncation keeps the number on the side of the bounds it is on.
-/

def clamp {α : Type*} [LT α] [DecidableLT α] (v lo hi : α) : α :=
  if v < lo then lo else if hi < v then hi else v

namespace ClampedTruncation

variable {m : ℕ} {lo hi x : ℤ}

/-- The number fits, or what is left of it lies beyond the same bound, or there
is nothing to choose. -/
def KeepsSide (m : ℕ) (lo hi x : ℤ) : Prop :=
  lo = hi ∨ (-m ≤ x ∧ x < m) ∨ (m ≤ x ∧ hi ≤ x.bmod (2 * m)) ∨
    (x < -m ∧ x.bmod (2 * m) ≤ lo)

instance : Decidable (KeepsSide m lo hi x) := by
  unfold KeepsSide
  infer_instance

theorem clamp_eq (hle : lo ≤ hi) : clamp x lo hi = max lo (min x hi) := by
  unfold clamp
  split_ifs
  · omega
  · omega
  · omega

theorem bmod_eq_self (hlo : -m ≤ x) (hhi : x < m) : x.bmod (2 * m) = x := by
  apply Int.bmod_eq_of_le
  · omega
  · omega

theorem clamp_bmod_eq_iff (hlo : -m ≤ lo) (hle : lo ≤ hi) (hhi : hi < m) :
    clamp (x.bmod (2 * m)) lo hi = clamp x lo hi ↔ KeepsSide m lo hi x := by
  rw [clamp_eq hle, clamp_eq hle]
  unfold KeepsSide
  by_cases hfits : -m ≤ x ∧ x < m
  · rw [bmod_eq_self hfits.1 hfits.2]
    simp [hfits]
  · rcases lt_or_ge x (-m) with hbelow | habove
    · have hclamp : max lo (min x hi) = lo := by omega
      rw [hclamp]
      omega
    · have hclamp : max lo (min x hi) = hi := by omega
      rw [hclamp]
      omega

/-- A number past the word by the lower bound comes out below the upper
bound. -/
theorem clamp_bmod_lt (hlo : -m ≤ lo) (hlt : lo < hi) (hhi : hi < m) :
    clamp ((lo + 2 * m).bmod (2 * m)) lo hi <
      clamp (hi.bmod (2 * m)) lo hi := by
  have hwrap : (lo + 2 * m).bmod (2 * m) = lo := by
    have hadd := Int.add_bmod_right lo (2 * m)
    push_cast at hadd
    rw [hadd, bmod_eq_self hlo (by omega)]
  rw [hwrap, bmod_eq_self (by omega) hhi, clamp_eq hlt.le, clamp_eq hlt.le]
  omega

end ClampedTruncation
