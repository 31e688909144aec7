import Mathlib.Data.Finset.Card
import Mathlib.Tactic

/-!
# Outstanding debts

Members of a group commit themselves to one payment each and pay later, in any
order, into a pot of bounded size.  If a member commits itself only while what
is in the pot and what is owed are together below the bound, there is room for
every payment when it is made.  No count of the debtors is needed for that:
it is enough to bound every finite set of them.
-/

namespace OutstandingDebts

variable {ι : Type*}

/-- The pot and any set of debtors are together below the bound. -/
def Within (bound paid : ℕ) (owes : ι → Prop) : Prop :=
  ∀ debtors : Finset ι, (∀ c ∈ debtors, owes c) → paid + debtors.card < bound

variable {bound paid paid' : ℕ} {owes owes' : ι → Prop} {c : ι}

theorem within_of_no_debt (hnone : ∀ c, ¬ owes c) (hpaid : paid < bound) :
    Within bound paid owes := by
  intro debtors hdebtors
  have hempty : debtors = ∅ := by
    apply Finset.eq_empty_of_forall_notMem
    intro c hc
    exact hnone c (hdebtors c hc)
  rw [hempty, Finset.card_empty]
  exact hpaid

namespace Within

theorem mono (h : Within bound paid owes) (hpaid : paid' ≤ paid)
    (howes : ∀ c, owes' c → owes c) : Within bound paid' owes' := by
  intro debtors hdebtors
  have hold := h debtors fun c hc => howes c (hdebtors c hc)
  omega

theorem lt_of_owes (h : Within bound paid owes) (hc : owes c) :
    paid + 1 < bound := by
  simpa [hc] using h {c}

variable [DecidableEq ι]

/-- A new debt needs one more place. -/
theorem commit (h : Within bound paid owes)
    (howes : ∀ d, owes' d → d = c ∨ owes d) :
    Within (bound + 1) paid owes' := by
  intro debtors hdebtors
  have hold : paid + (debtors.erase c).card < bound := by
    apply h
    intro d hd
    have hdc := Finset.mem_erase.mp hd
    exact (howes d (hdebtors d hdc.2)).resolve_left hdc.1
  have hcard := Finset.pred_card_le_card_erase (s := debtors) (a := c)
  omega

/-- A payment takes the place of the debt. -/
theorem pay (h : Within bound paid owes) (hc : owes c) (hsettled : ¬ owes' c)
    (howes : ∀ d, owes' d → owes d) : Within bound (paid + 1) owes' := by
  intro debtors hdebtors
  have hnot : c ∉ debtors := by
    intro hmem
    exact hsettled (hdebtors c hmem)
  have hold := h (insert c debtors) (by
    intro d hd
    rcases Finset.mem_insert.mp hd with rfl | hd
    · exact hc
    · exact howes d (hdebtors d hd))
  rw [Finset.card_insert_of_notMem hnot] at hold
  omega

end Within

end OutstandingDebts
