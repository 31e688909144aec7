import Mathlib.Tactic

/-!
# Rewriting with a carried state

A loop over a list replaces the entries one by one and hands a state on from
each entry to the next.  The list keeps its length, and an entry is rewritten
in the state that the entries before it lead to.  Where only some entries set
the state, that is what the nearest of them set.
-/

namespace CarriedState

variable {σ α β : Type*}

def rewrite (step : σ → α → α × σ) : σ → List α → List α
  | _, [] => []
  | s, a :: l => (step s a).1 :: rewrite step (step s a).2 l

/-- The state after the entries of a list. -/
def carried (step : σ → α → α × σ) : σ → List α → σ
  | s, [] => s
  | s, a :: l => carried step (step s a).2 l

/-- The last entry before place `i` that satisfies `p` satisfies `q`. -/
def Latest (p q : α → Prop) (l : List α) (i : ℕ) : Prop :=
  ∃ j a, j < i ∧ l[j]? = some a ∧ p a ∧ q a ∧
    ∀ k b, j < k → k < i → l[k]? = some b → ¬ p b

variable {step : σ → α → α × σ} {s : σ} {l : List α}

theorem length_rewrite (step : σ → α → α × σ) (s : σ) (l : List α) :
    (rewrite step s l).length = l.length := by
  induction l generalizing s with
  | nil => rfl
  | cons a l ih =>
      rw [rewrite, List.length_cons, ih, List.length_cons]

theorem getElem?_rewrite (step : σ → α → α × σ) (s : σ) (l : List α) (i : ℕ) :
    (rewrite step s l)[i]? =
      l[i]?.map fun a => (step (carried step s (l.take i)) a).1 := by
  induction l generalizing s i with
  | nil => rfl
  | cons a l ih =>
      cases i with
      | zero => rfl
      | succ i =>
          rw [rewrite, List.getElem?_cons_succ, ih, List.getElem?_cons_succ,
            List.take_succ_cons, carried]

/-- Nothing more is rewritten if no entry is rewritten twice. -/
theorem rewrite_rewrite (hstep : ∀ s a, step s (step s a).1 = step s a)
    (s : σ) (l : List α) :
    rewrite step s (rewrite step s l) = rewrite step s l := by
  induction l generalizing s with
  | nil => rfl
  | cons a l ih =>
      rw [rewrite, rewrite, hstep, ih]

theorem map_rewrite {g : α → β}
    (hstep : ∀ a ∈ l, ∀ s, g (step s a).1 = g a) (s : σ) :
    (rewrite step s l).map g = l.map g := by
  induction l generalizing s with
  | nil => rfl
  | cons a l ih =>
      have ih := ih fun b hb => hstep b (List.mem_cons_of_mem a hb)
      rw [rewrite, List.map_cons, ih, hstep a (by simp), List.map_cons]

theorem forall_mem_rewrite {p : α → Prop} (hstep : ∀ s a, p a → p (step s a).1)
    (s : σ) (hl : ∀ a ∈ l, p a) : ∀ a ∈ rewrite step s l, p a := by
  induction l generalizing s with
  | nil => exact hl
  | cons a l ih =>
      have ih := ih (step s a).2 fun b hb => hl b (List.mem_cons_of_mem a hb)
      intro b hb
      rcases List.mem_cons.mp hb with rfl | hb
      · exact hstep s a (hl a (by simp))
      · exact ih b hb

theorem carried_append (step : σ → α → α × σ) (s : σ) (l l' : List α) :
    carried step s (l ++ l') = carried step (carried step s l) l' := by
  induction l generalizing s with
  | nil => rfl
  | cons a l ih =>
      rw [List.cons_append, carried, ih, carried]

/-! ## The nearest entry that sets the state -/

section Latest

variable {p q : α → Prop} {a : α} {i : ℕ}

theorem not_latest_zero : ¬ Latest p q l 0 := by
  rintro ⟨j, a, hj, -⟩
  omega

theorem latest_succ_of_pos (ha : l[i]? = some a) (hp : p a) :
    Latest p q l (i + 1) ↔ q a := by
  constructor
  · rintro ⟨j, b, hj, hb, hpb, hqb, hlast⟩
    have hji : j = i := by
      by_contra hne
      exact hlast i a (by omega) (by omega) ha hp
    subst hji
    rw [ha] at hb
    cases hb
    exact hqb
  · intro hq
    refine ⟨i, a, by omega, ha, hp, hq, ?_⟩
    intro k b hik hki
    omega

theorem latest_succ_of_neg (ha : l[i]? = some a) (hp : ¬ p a) :
    Latest p q l (i + 1) ↔ Latest p q l i := by
  constructor
  · rintro ⟨j, b, hj, hb, hpb, hqb, hlast⟩
    have hji : j ≠ i := by
      rintro rfl
      rw [ha] at hb
      cases hb
      exact hp hpb
    exact ⟨j, b, by omega, hb, hpb, hqb,
      fun k c hjk hki => hlast k c hjk (by omega)⟩
  · rintro ⟨j, b, hj, hb, hpb, hqb, hlast⟩
    refine ⟨j, b, by omega, hb, hpb, hqb, ?_⟩
    intro k c hjk hki hc
    by_cases hk : k = i
    · subst hk
      rw [ha] at hc
      cases hc
      exact hp
    · exact hlast k c hjk (by omega) hc

/-- A flag that the entries with `p` set to whether they have `q`. -/
theorem carried_eq_true_iff {step : Bool → α → α × Bool}
    (hset : ∀ s a, p a → ((step s a).2 = true ↔ q a))
    (hkeep : ∀ s a, ¬ p a → (step s a).2 = s) (hi : i ≤ l.length) :
    carried step false (l.take i) = true ↔ Latest p q l i := by
  induction i with
  | zero =>
      rw [List.take_zero, carried]
      exact iff_of_false Bool.false_ne_true not_latest_zero
  | succ i ih =>
      have ih := ih (by omega)
      have ha : l[i]? = some l[i] := List.getElem?_eq_getElem hi
      rw [List.take_add_one, ha, Option.toList_some, carried_append]
      simp only [carried]
      by_cases hp : p l[i]
      · rw [hset _ _ hp, latest_succ_of_pos ha hp]
      · rw [hkeep _ _ hp, ih, latest_succ_of_neg ha hp]

end Latest

end CarriedState
