import Mathlib.Data.List.Sort
import Mathlib.Tactic

/-!
# Sorting by a comparator

A three-way comparator may be lawful on the elements of one list and not on
others.  A stable sort driven by it always permutes its input; where the
comparator is lawful its result is in order, and tied elements keep theirs.
The result is then determined by the input, and up to ties by its elements.
-/

variable {α : Type*}

structure LawfulOn (cmp : α → α → ℤ) (l : List α) : Prop where
  sign : ∀ a ∈ l, ∀ b ∈ l, (cmp a b).sign = -(cmp b a).sign
  trans : ∀ a ∈ l, ∀ b ∈ l, ∀ c ∈ l,
    cmp a b ≤ 0 → cmp b c ≤ 0 → cmp a c ≤ 0

structure StableSort (cmp : α → α → ℤ) where
  sort : List α → List α
  perm : ∀ l, (sort l).Perm l
  sorted : ∀ l, LawfulOn cmp l → (sort l).Pairwise fun a b => cmp a b ≤ 0
  stable : ∀ l, LawfulOn cmp l → ∀ a ∈ l,
    ((sort l).filter fun b => cmp a b = 0) = l.filter fun b => cmp a b = 0

namespace LawfulOn

variable {cmp : α → α → ℤ} {l l' : List α} {a b c : α}

theorem subset (hl : LawfulOn cmp l) (hsubset : ∀ a ∈ l', a ∈ l) :
    LawfulOn cmp l' where
  sign a ha b hb := hl.sign a (hsubset a ha) b (hsubset b hb)
  trans a ha b hb c hc :=
    hl.trans a (hsubset a ha) b (hsubset b hb) c (hsubset c hc)

theorem self (hl : LawfulOn cmp l) (ha : a ∈ l) : cmp a a = 0 := by
  have hsign := hl.sign a ha a ha
  apply Int.sign_eq_zero_iff_zero.mp
  omega

theorem pos_iff (hl : LawfulOn cmp l) (ha : a ∈ l) (hb : b ∈ l) :
    0 < cmp a b ↔ cmp b a < 0 := by
  have hsign := hl.sign a ha b hb
  rw [← Int.sign_eq_one_iff_pos, ← Int.sign_eq_neg_one_iff_neg]
  omega

theorem zero_iff (hl : LawfulOn cmp l) (ha : a ∈ l) (hb : b ∈ l) :
    cmp a b = 0 ↔ cmp b a = 0 := by
  have hab := hl.pos_iff ha hb
  have hba := hl.pos_iff hb ha
  omega

theorem not_le (hl : LawfulOn cmp l) (ha : a ∈ l) (hb : b ∈ l) :
    ¬ cmp a b ≤ 0 ↔ cmp b a < 0 := by
  rw [Int.not_le, hl.pos_iff ha hb]

theorem le_total (hl : LawfulOn cmp l) (ha : a ∈ l) (hb : b ∈ l) :
    cmp a b ≤ 0 ∨ cmp b a ≤ 0 := by
  have hab := hl.pos_iff ha hb
  omega

theorem lt_of_lt_of_le (hl : LawfulOn cmp l) (ha : a ∈ l) (hb : b ∈ l)
    (hc : c ∈ l) (hab : cmp a b < 0) (hbc : cmp b c ≤ 0) : cmp a c < 0 := by
  rw [← hl.not_le hc ha]
  intro hca
  have hba := hl.trans b hb c hc a ha hbc hca
  have hpos := hl.pos_iff hb ha
  omega

/-! ## Ranks -/

/-- The number of elements of the list before `a`. -/
def rank (cmp : α → α → ℤ) (l : List α) (a : α) : ℕ :=
  l.countP fun b => cmp b a < 0

theorem rank_le (hl : LawfulOn cmp l) (ha : a ∈ l) (hb : b ∈ l)
    (hab : cmp a b ≤ 0) : rank cmp l a ≤ rank cmp l b := by
  apply List.countP_mono_left
  intro c hc hca
  simp only [decide_eq_true_eq] at hca ⊢
  exact hl.lt_of_lt_of_le hc ha hb hca hab

theorem rank_lt (hl : LawfulOn cmp l) (ha : a ∈ l) (hb : b ∈ l)
    (hab : cmp a b < 0) : rank cmp l a < rank cmp l b := by
  have hself : ¬ cmp a a < 0 := by
    rw [hl.self ha]
    exact lt_irrefl 0
  rcases List.append_of_mem ha with ⟨u, v, hsplit⟩
  have hcount (w : List α) (hw : ∀ c ∈ w, c ∈ l) :
      (w.countP fun c => cmp c a < 0) ≤ w.countP fun c => cmp c b < 0 := by
    apply List.countP_mono_left
    intro c hc hca
    simp only [decide_eq_true_eq] at hca ⊢
    exact hl.lt_of_lt_of_le (hw c hc) ha hb hca hab.le
  have hu := hcount u fun c hc => by simp [hsplit, hc]
  have hv := hcount v fun c hc => by simp [hsplit, hc]
  unfold rank
  rw [hsplit]
  simp only [List.countP_append, List.countP_cons, hself, hab, decide_false,
    decide_true, Bool.false_eq_true, if_false, if_true]
  omega

theorem zero_of_rank_eq (hl : LawfulOn cmp l) (ha : a ∈ l) (hb : b ∈ l)
    (hrank : rank cmp l a = rank cmp l b) : cmp a b = 0 := by
  rcases lt_trichotomy (cmp a b) 0 with hlt | heq | hgt
  · exact absurd hrank (hl.rank_lt ha hb hlt).ne
  · exact heq
  · have hlt := (hl.pos_iff ha hb).mp hgt
    exact absurd hrank (hl.rank_lt hb ha hlt).ne'

/-- Two orderly lists of the same elements agree up to ties. -/
theorem forall₂_of_perm (hl : LawfulOn cmp l) (hperm : l.Perm l')
    (hsorted : l.Pairwise fun a b => cmp a b ≤ 0)
    (hsorted' : l'.Pairwise fun a b => cmp a b ≤ 0) :
    List.Forall₂ (fun a b => cmp a b = 0) l l' := by
  have hmem : ∀ a ∈ l', a ∈ l := fun a ha => hperm.mem_iff.mpr ha
  have hranks : (l.map (rank cmp l)).Pairwise (· ≤ ·) := by
    rw [List.pairwise_map]
    exact hsorted.imp_of_mem fun ha hb hab => hl.rank_le ha hb hab
  have hranks' : (l'.map (rank cmp l)).Pairwise (· ≤ ·) := by
    rw [List.pairwise_map]
    exact hsorted'.imp_of_mem fun ha hb hab =>
      hl.rank_le (hmem _ ha) (hmem _ hb) hab
  have hequal : l.map (rank cmp l) = l'.map (rank cmp l) :=
    (hperm.map _).eq_of_pairwise' hranks hranks'
  rw [List.forall₂_iff_get]
  refine ⟨hperm.length_eq, ?_⟩
  intro i hi hi'
  have hrank : rank cmp l l[i] = rank cmp l l'[i] := by
    have hindex := congrArg (·[i]?) hequal
    simpa [hi, hi'] using hindex
  exact hl.zero_of_rank_eq (List.getElem_mem hi)
    (hmem _ (List.getElem_mem hi')) hrank

/-- An orderly list is determined by its elements and the order of those that
are tied. -/
theorem eq_of_perm (hl : LawfulOn cmp l) (hperm : l.Perm l')
    (hsorted : l.Pairwise fun a b => cmp a b ≤ 0)
    (hsorted' : l'.Pairwise fun a b => cmp a b ≤ 0)
    (hties : ∀ a ∈ l, (l.filter fun b => cmp a b = 0) =
      l'.filter fun b => cmp a b = 0) : l = l' := by
  induction l generalizing l' with
  | nil => exact hperm.nil_eq
  | cons a l ih =>
      cases l' with
      | nil => exact absurd hperm.symm.nil_eq (by simp)
      | cons b l' =>
          have ha : a ∈ a :: l := List.mem_cons_self
          have hhead : cmp a b = 0 := by
            have hall := hl.forall₂_of_perm hperm hsorted hsorted'
            exact (List.forall₂_cons.mp hall).1
          have hab : a = b := by
            have hties := hties a ha
            simp only [List.filter_cons, hl.self ha, hhead, decide_true,
              if_true, List.cons.injEq] at hties
            exact hties.1
          subst hab
          have htail : LawfulOn cmp l := hl.subset fun c hc => by simp [hc]
          have hrest : l = l' := by
            apply ih htail hperm.cons_inv hsorted.of_cons hsorted'.of_cons
            intro c hc
            have hties := hties c (by simp [hc])
            simp only [List.filter_cons] at hties
            split_ifs at hties with hca
            · exact (List.cons.inj hties).2
            · exact hties
          rw [hrest]

end LawfulOn

namespace StableSort

variable {cmp : α → α → ℤ} {l l' : List α}

/-- What is in order already is not changed. -/
theorem sort_eq_self (σ : StableSort cmp) (hl : LawfulOn cmp l)
    (hsorted : l.Pairwise fun a b => cmp a b ≤ 0) : σ.sort l = l := by
  have hperm := σ.perm l
  have hmem : ∀ a ∈ σ.sort l, a ∈ l := fun a ha => hperm.mem_iff.mp ha
  apply (hl.subset hmem).eq_of_perm hperm (σ.sorted l hl) hsorted
  intro a ha
  exact σ.stable l hl a (hmem a ha)

/-- The order of the input decides only about ties. -/
theorem forall₂_sort (σ : StableSort cmp) (hl : LawfulOn cmp l)
    (hperm : l.Perm l') :
    List.Forall₂ (fun a b => cmp a b = 0) (σ.sort l) (σ.sort l') := by
  have hl' : LawfulOn cmp l' :=
    hl.subset fun a ha => hperm.mem_iff.mpr ha
  have hsort : LawfulOn cmp (σ.sort l) :=
    hl.subset fun a ha => (σ.perm l).mem_iff.mp ha
  exact hsort.forall₂_of_perm
    ((σ.perm l).trans (hperm.trans (σ.perm l').symm))
    (σ.sorted l hl) (σ.sorted l' hl')

/-! ## Merge sort -/

def mergeSorted (cmp : α → α → ℤ) (l : List α) : List α :=
  l.mergeSort fun a b => cmp a b ≤ 0

/-- Sorting the elements with the proof that they are in the list. -/
theorem mergeSorted_attach (l : List α) :
    mergeSorted cmp l =
      (l.attach.mergeSort fun a b => cmp a.1 b.1 ≤ 0).map Subtype.val := by
  have hmap := List.map_mergeSort (l := l.attach) (f := Subtype.val)
    (r := fun a b => decide (cmp a.1 b.1 ≤ 0))
    (s := fun a b => decide (cmp a b ≤ 0)) fun _ _ _ _ => rfl
  rw [List.attach_map_subtype_val] at hmap
  exact hmap.symm

/-- The comparator as a preorder on the elements of a list it is lawful on. -/
theorem attach_trans (hl : LawfulOn cmp l) (a b c : {a // a ∈ l})
    (hab : decide (cmp a.1 b.1 ≤ 0) = true)
    (hbc : decide (cmp b.1 c.1 ≤ 0) = true) :
    decide (cmp a.1 c.1 ≤ 0) = true := by
  simp only [decide_eq_true_eq] at hab hbc ⊢
  exact hl.trans a.1 a.2 b.1 b.2 c.1 c.2 hab hbc

theorem attach_total (hl : LawfulOn cmp l) (a b : {a // a ∈ l}) :
    (decide (cmp a.1 b.1 ≤ 0) || decide (cmp b.1 a.1 ≤ 0)) = true := by
  simpa using hl.le_total a.2 b.2

theorem mergeSorted_sorted (hl : LawfulOn cmp l) :
    (mergeSorted cmp l).Pairwise fun a b => cmp a b ≤ 0 := by
  rw [mergeSorted_attach, List.pairwise_map]
  have hsorted := List.pairwise_mergeSort (attach_trans hl) (attach_total hl)
    l.attach
  simpa using hsorted

theorem mergeSorted_stable (hl : LawfulOn cmp l) {a : α} (ha : a ∈ l) :
    ((mergeSorted cmp l).filter fun b => cmp a b = 0) =
      l.filter fun b => cmp a b = 0 := by
  let tied : {a // a ∈ l} → Bool := fun b => cmp a b.1 = 0
  have htied : (l.attach.filter tied).Pairwise
      fun b c => decide (cmp b.1 c.1 ≤ 0) = true := by
    apply List.pairwise_of_forall_mem_list
    intro b hb c hc
    simp only [List.mem_filter, tied, decide_eq_true_eq] at hb hc ⊢
    have hba := (hl.zero_iff ha b.2).mp hb.2
    exact hl.trans b.1 b.2 a ha c.1 c.2 hba.le hc.2.le
  have hsublist := List.sublist_mergeSort (attach_trans hl) (attach_total hl)
    htied List.filter_sublist
  have hfiltered : l.attach.filter tied =
      (l.attach.mergeSort fun b c => cmp b.1 c.1 ≤ 0).filter tied := by
    have hsame := hsublist.filter tied
    simp only [List.filter_filter, Bool.and_self] at hsame
    apply hsame.eq_of_length
    exact ((List.mergeSort_perm l.attach _).filter tied).length_eq.symm
  rw [mergeSorted_attach, List.filter_map]
  have hmap := congrArg (List.map Subtype.val) hfiltered
  have hattach : (l.attach.filter tied).map Subtype.val =
      l.filter fun b => cmp a b = 0 := by
    conv_rhs => rw [← List.attach_map_subtype_val l]
    rw [List.filter_map]
    rfl
  rw [hattach] at hmap
  exact hmap.symm

/-- Merge sort is stable, and lawful comparators make it sort. -/
def merge (cmp : α → α → ℤ) : StableSort cmp where
  sort := mergeSorted cmp
  perm l := List.mergeSort_perm l _
  sorted _ hl := mergeSorted_sorted hl
  stable _ hl _ ha := mergeSorted_stable hl ha

end StableSort
