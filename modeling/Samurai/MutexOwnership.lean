import Mathlib.Tactic

/-!
# Ownership of a mutex

A mutex is the name of its owner, if it has one.  A program is disciplined
when the threads whose program counter lies between an acquisition and the
matching release are exactly the recorded owner, so that at most one thread
is inside.  The lemmas keep this through the three things a step can do:
acquire, release, or leave every thread on the side it was on.
-/

/-- The threads inside the critical sections are exactly the owner. -/
def Owned {τ : Type*} (owner : Option τ) (inside : τ → Prop) : Prop :=
  ∀ thread, inside thread ↔ owner = some thread

namespace Owned

variable {τ : Type*} {owner : Option τ} {inside inside' : τ → Prop}
  {thread other : τ}

theorem eq_some (howned : Owned owner inside) (hin : inside thread) :
    owner = some thread :=
  (howned thread).mp hin

theorem unique (howned : Owned owner inside)
    (hthread : inside thread) (hother : inside other) : thread = other := by
  have hfirst := howned.eq_some hthread
  have hsecond := howned.eq_some hother
  exact Option.some.inj (hfirst.symm.trans hsecond)

theorem not_inside_of_free (howned : Owned none inside) (thread : τ) :
    ¬ inside thread := by
  intro hin
  exact absurd (howned.eq_some hin) (by simp)

theorem congr (howned : Owned owner inside)
    (hsame : ∀ u, inside' u ↔ inside u) : Owned owner inside' := by
  intro u
  rw [hsame u]
  exact howned u

theorem acquire (howned : Owned none inside) (henter : inside' thread)
    (hsame : ∀ u, u ≠ thread → (inside' u ↔ inside u)) :
    Owned (some thread) inside' := by
  intro u
  by_cases hu : u = thread
  · subst hu
    simp [henter]
  · have hout := howned.not_inside_of_free u
    simp [hsame u hu, hout, Ne.symm hu]

theorem release (howned : Owned (some thread) inside)
    (hleave : ¬ inside' thread)
    (hsame : ∀ u, u ≠ thread → (inside' u ↔ inside u)) :
    Owned none inside' := by
  intro u
  by_cases hu : u = thread
  · subst hu
    simp [hleave]
  · have hout : ¬ inside u := by
      intro hin
      exact hu (Option.some.inj (howned.eq_some hin)).symm
    simp [hsame u hu, hout]

end Owned
