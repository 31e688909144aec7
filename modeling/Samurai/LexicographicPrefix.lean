import Mathlib.Data.List.Lex
import Mathlib.Tactic

/-!
# Prefixes and the lexicographic order

Two lists diverge if neither is a prefix of the other.  Where they diverge
their order is decided, whatever follows them.
-/

variable {α : Type*}

structure Diverge (a b : List α) : Prop where
  left : ¬ a <+: b
  right : ¬ b <+: a

theorem Diverge.symm {a b : List α} (h : Diverge a b) : Diverge b a :=
  ⟨h.right, h.left⟩

theorem Diverge.exists_ne {a b : List α} (h : Diverge a b) :
    ∃ p x y u v, x ≠ y ∧ a = p ++ x :: u ∧ b = p ++ y :: v := by
  induction a generalizing b with
  | nil => exact absurd List.nil_prefix h.left
  | cons c a ih =>
      cases b with
      | nil => exact absurd List.nil_prefix h.right
      | cons d b =>
          by_cases hcd : c = d
          · subst hcd
            have hrest : Diverge a b := by
              constructor
              · intro hab
                exact h.left (List.cons_prefix_cons.mpr ⟨rfl, hab⟩)
              · intro hba
                exact h.right (List.cons_prefix_cons.mpr ⟨rfl, hba⟩)
            rcases ih hrest with ⟨p, x, y, u, v, hxy, rfl, rfl⟩
            exact ⟨c :: p, x, y, u, v, hxy, rfl, rfl⟩
          · exact ⟨[], c, d, a, b, hcd, rfl, rfl⟩

theorem diverge_of_ne {p u v : List α} {x y : α} (hxy : x ≠ y) :
    Diverge (p ++ x :: u) (p ++ y :: v) := by
  constructor
  · intro h
    rw [List.prefix_append_right_inj, List.cons_prefix_cons] at h
    exact hxy h.1
  · intro h
    rw [List.prefix_append_right_inj, List.cons_prefix_cons] at h
    exact hxy h.1.symm

variable [LinearOrder α] {a b p q u v : List α} {x y : α}

theorem append_lt_append_iff : p ++ u < p ++ v ↔ u < v := by
  induction p with
  | nil => rfl
  | cons x p ih => simpa [List.cons_lt_cons_iff] using ih

theorem append_cons_lt_iff (hxy : x ≠ y) :
    p ++ x :: u < p ++ y :: v ↔ x < y := by
  rw [append_lt_append_iff, List.cons_lt_cons_iff]
  constructor
  · rintro (h | ⟨h, _⟩)
    · exact h
    · exact absurd h hxy
  · exact Or.inl

theorem lt_append_cons : p < p ++ x :: u := by
  have h : p ++ [] < p ++ x :: u := by
    rw [append_lt_append_iff]
    exact List.nil_lt_cons x u
  rwa [List.append_nil] at h

theorem Diverge.append_lt_iff (h : Diverge a b) (u v : List α) :
    a ++ u < b ++ v ↔ a < b := by
  rcases h.exists_ne with ⟨p, x, y, s, t, hxy, rfl, rfl⟩
  rw [List.append_assoc, List.append_assoc, List.cons_append, List.cons_append,
    append_cons_lt_iff hxy, append_cons_lt_iff hxy]

/-- What lies between a list and a list it begins, begins with it. -/
theorem prefix_of_between (hpq : p ≤ q) (hqp : q < p ++ u) : p <+: q := by
  by_contra hnot
  by_cases hback : q <+: p
  · rcases hback with ⟨t, rfl⟩
    cases t with
    | nil => exact hnot (by simp)
    | cons x t => exact absurd hpq (not_le.mpr lt_append_cons)
  · have hdiverge : Diverge p q := ⟨hnot, hback⟩
    have hlt : p < q := by
      apply lt_of_le_of_ne hpq
      rintro rfl
      exact hnot List.prefix_rfl
    have happend : p ++ u < q ++ [] := (hdiverge.append_lt_iff u []).mpr hlt
    rw [List.append_nil] at happend
    exact lt_asymm hqp happend
