import Mathlib.Tactic

/-!
# The obligations of a wake-up protocol

A thread blocks because there is nothing to do and relies on others to wake
it.  While it is blocked, one of three things must hold: there is still
nothing to do, a signal has arrived, or somebody who made work has yet to
send one.  A step keeps this if it meets four obligations: whoever blocks has
looked, whoever makes work owes a signal, signals are not lost, and a debt
ends only in a signal.
-/

section Wakeup

variable {σ : Type*}

/-- While `blocked`, the thread is not `ready` to go on, or a signal has
arrived or is owed. -/
def Covered (blocked ready signalled owed : σ → Prop) (s : σ) : Prop :=
  blocked s → ¬ ready s ∨ signalled s ∨ owed s

theorem Covered.step {blocked ready signalled owed : σ → Prop} {s t : σ}
    (hcovered : Covered blocked ready signalled owed s)
    (hlook : ¬ blocked s → blocked t → ¬ ready t)
    (howe : blocked s → ¬ ready s → ready t → owed t)
    (hkeep : blocked s → blocked t → signalled s → signalled t)
    (hpay : owed s → blocked t → owed t ∨ signalled t) :
    Covered blocked ready signalled owed t := by
  intro hblocked
  by_cases hbefore : blocked s
  · rcases hcovered hbefore with hidle | hsignal | hdebt
    · by_cases hready : ready t
      · exact .inr (.inr (howe hbefore hidle hready))
      · exact .inl hready
    · exact .inr (.inl (hkeep hbefore hblocked hsignal))
    · rcases hpay hdebt hblocked with hdebt | hsignal
      · exact .inr (.inr hdebt)
      · exact .inr (.inl hsignal)
  · exact .inl (hlook hbefore hblocked)

end Wakeup
