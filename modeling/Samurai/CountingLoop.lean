import Mathlib.Algebra.BigOperators.Fin
import Mathlib.Tactic

/-!
# Counting loops

`for (int i = 0; i < bound; i++)` over an unsigned 32-bit bound is a fold over
the numbers below the bound.  Two quantities are followed through such a fold:
an unsigned sum, which is exact modulo `2 ^ 32`, and a list that grows.
-/

namespace CountingLoop

variable {σ : Type*}

/-- The loop from `i` on. -/
def countFrom (bound : UInt32) (body : Int32 → σ → σ) (i : Int32) (s : σ) : σ :=
  if i.toUInt32 < bound then countFrom bound body (i + 1) (body i s) else s
termination_by bound.toNat - i.toUInt32.toNat
decreasing_by
  rename_i hlt
  have hnext : (i + 1).toUInt32 = i.toUInt32 + 1 := Int32.toUInt32_add i 1
  have hbound := bound.toNat_lt
  rw [UInt32.lt_iff_toNat_lt] at hlt
  rw [hnext, UInt32.toNat_add]
  have hone : (1 : UInt32).toNat = 1 := rfl
  rw [hone, Nat.mod_eq_of_lt (by omega)]
  omega

def count (bound : UInt32) (body : Int32 → σ → σ) (s : σ) : σ :=
  countFrom bound body 0 s

theorem index_lt_iff {bound : UInt32} {i : ℕ} (hi : i ≤ bound.toNat) :
    (Int32.ofNat i).toUInt32 < bound ↔ i < bound.toNat := by
  have hbound := bound.toNat_lt
  have hindex : (Int32.ofNat i).toUInt32.toNat = i := by
    rw [Int32.toUInt32_ofNat', UInt32.toNat_ofNat']
    exact Nat.mod_eq_of_lt (by omega)
  rw [UInt32.lt_iff_toNat_lt, hindex]

theorem countFrom_eq_foldl (bound : UInt32) (body : Int32 → σ → σ)
    (remaining i : ℕ) (hend : i + remaining = bound.toNat) (s : σ) :
    countFrom bound body (Int32.ofNat i) s =
      (List.range' i remaining).foldl (fun s k => body (Int32.ofNat k) s) s := by
  have htest : (Int32.ofNat i).toUInt32 < bound ↔ i < bound.toNat :=
    index_lt_iff (by omega)
  induction remaining generalizing i s with
  | zero =>
      have hstop : ¬ (Int32.ofNat i).toUInt32 < bound := by
        rw [htest]
        omega
      unfold countFrom
      rw [if_neg hstop]
      rfl
  | succ remaining ih =>
      have hgo : (Int32.ofNat i).toUInt32 < bound := by
        rw [htest]
        omega
      have hnext : Int32.ofNat i + 1 = Int32.ofNat (i + 1) :=
        (Int32.ofNat_add i 1).symm
      unfold countFrom
      rw [if_pos hgo, hnext, List.range'_succ, List.foldl_cons]
      exact ih (i + 1) (by omega) _ (index_lt_iff (by omega))

theorem count_eq_foldl (bound : UInt32) (body : Int32 → σ → σ) (s : σ) :
    count bound body s =
      (List.range bound.toNat).foldl (fun s k => body (Int32.ofNat k) s) s := by
  rw [List.range_eq_range']
  exact countFrom_eq_foldl bound body bound.toNat 0 (Nat.zero_add _) s

/-- A sum to which iteration `k` adds `f k`, modulo `2 ^ 32`. -/
theorem count_sum {bound : UInt32} {body : Int32 → σ → σ} {sum : σ → UInt32}
    {f : ℕ → ℕ}
    (hbody : ∀ k s, k < bound.toNat →
      sum (body (Int32.ofNat k) s) = sum s + UInt32.ofNat (f k)) (s : σ) :
    sum (count bound body s) =
      sum s + UInt32.ofNat (∑ k ∈ Finset.range bound.toNat, f k) := by
  have hfold : ∀ n ≤ bound.toNat,
      sum ((List.range n).foldl (fun s k => body (Int32.ofNat k) s) s) =
        sum s + UInt32.ofNat (∑ k ∈ Finset.range n, f k) := by
    intro n hn
    induction n with
    | zero => simp
    | succ n ih =>
        rw [List.range_succ, List.foldl_append, List.foldl_cons, List.foldl_nil,
          hbody n _ hn, ih (by omega), Finset.sum_range_succ,
          UInt32.ofNat_add, UInt32.add_assoc]
  rw [count_eq_foldl]
  exact hfold bound.toNat (le_refl _)

/-- A list to which iteration `k` adds the elements `x` with `P k x`. -/
theorem mem_count {α : Type*} {bound : UInt32} {body : Int32 → σ → σ} {x : α}
    (list : σ → List α) (P : ℕ → α → Prop)
    (hbody : ∀ k s, k < bound.toNat →
      (x ∈ list (body (Int32.ofNat k) s) ↔ x ∈ list s ∨ P k x)) (s : σ) :
    x ∈ list (count bound body s) ↔
      x ∈ list s ∨ ∃ k < bound.toNat, P k x := by
  have hfold : ∀ n ≤ bound.toNat,
      (x ∈ list ((List.range n).foldl (fun s k => body (Int32.ofNat k) s) s) ↔
        x ∈ list s ∨ ∃ k < n, P k x) := by
    intro n hn
    induction n with
    | zero => simp
    | succ n ih =>
        rw [List.range_succ, List.foldl_append, List.foldl_cons, List.foldl_nil,
          hbody n _ hn, ih (by omega)]
        constructor
        · rintro ((hx | ⟨k, hk, hx⟩) | hx)
          · exact Or.inl hx
          · exact Or.inr ⟨k, by omega, hx⟩
          · exact Or.inr ⟨n, by omega, hx⟩
        · rintro (hx | ⟨k, hk, hx⟩)
          · exact Or.inl (Or.inl hx)
          · rcases Nat.lt_succ_iff_lt_or_eq.mp hk with hlt | rfl
            · exact Or.inl (Or.inr ⟨k, hlt, hx⟩)
            · exact Or.inr hx
  rw [count_eq_foldl]
  exact hfold bound.toNat (le_refl _)

end CountingLoop
