import Mathlib.Tactic

/-!
# Runs of a labelled machine

A machine has initial states and, for every label, a partial step.  A label
names who moves: a thread, a caller, the environment.  An interleaving is
then a list of labels, and a statement about every interleaving is a
statement about every list.

Statements about runs come in three forms here: a condition on the steps
taken (`Along`), a condition on the states passed (`Always`), and the number
of steps of one kind (`count`).  Each has a rule which reduces it to a single
step.
-/

structure Machine (σ α : Type*) where
  Initial : σ → Prop
  step : σ → α → Option σ

namespace Machine

variable {σ α : Type*} (M : Machine σ α)

def run : σ → List α → Option σ
  | s, [] => some s
  | s, a :: as => (M.step s a).bind fun t => run t as

/-- Every step the run takes meets `P`. -/
def Along (P : σ → α → Prop) : σ → List α → Prop
  | _, [] => True
  | s, a :: as => P s a ∧ ∀ t, M.step s a = some t → Along P t as

/-- Every state the run passes, the first and the last included, meets `Q`. -/
def Always (Q : σ → Prop) : σ → List α → Prop
  | s, [] => Q s
  | s, a :: as => Q s ∧ ∀ t, M.step s a = some t → Always Q t as

/-- The states of the runs all of whose steps meet `P`. -/
inductive ReachableUnder (P : σ → α → Prop) : σ → Prop
  | initial {s : σ} : M.Initial s → ReachableUnder P s
  | step {s t : σ} {a : α} :
      ReachableUnder P s → P s a → M.step s a = some t → ReachableUnder P t

def Reachable : σ → Prop :=
  M.ReachableUnder fun _ _ => True

def checkAlong (p : σ → α → Bool) : σ → List α → Bool
  | _, [] => true
  | s, a :: as => p s a && ((M.step s a).map fun t => checkAlong p t as).getD true

def checkAlways (q : σ → Bool) : σ → List α → Bool
  | s, [] => q s
  | s, a :: as =>
      q s && ((M.step s a).map fun t => checkAlways q t as).getD true

/-- How many of the steps taken are of the kind `p`. -/
def count (p : σ → α → Bool) : σ → List α → ℕ
  | _, [] => 0
  | s, a :: as =>
      (p s a).toNat + ((M.step s a).map fun t => count p t as).getD 0

/-- A state that meets `Q` is reached by steps of the kind `ok` whose costs
add up to `n` at most. -/
def Reaches (ok : α → Prop) (cost : α → ℕ) (n : ℕ) (Q : σ → Prop)
    (s : σ) : Prop :=
  ∃ as t, (∀ a ∈ as, ok a) ∧ (as.map cost).sum ≤ n ∧
    M.run s as = some t ∧ Q t

variable {M} {P P' : σ → α → Prop} {Q I : σ → Prop} {s t u : σ} {a : α}
  {as bs : List α}

/-! ## Runs -/

@[simp] theorem run_nil : M.run s [] = some s := rfl

theorem run_cons_eq_some :
    M.run s (a :: as) = some u ↔
      ∃ t, M.step s a = some t ∧ M.run t as = some u := by
  simp [run, Option.bind_eq_some_iff]

theorem run_cons (hstep : M.step s a = some t) :
    M.run s (a :: as) = M.run t as := by
  simp [run, hstep]

theorem run_append_eq_some :
    M.run s (as ++ bs) = some u ↔
      ∃ t, M.run s as = some t ∧ M.run t bs = some u := by
  induction as generalizing s with
  | nil => simp
  | cons a as ih =>
      rw [List.cons_append, run_cons_eq_some]
      constructor
      · rintro ⟨r, hr, hrest⟩
        obtain ⟨t, hrt, htu⟩ := ih.mp hrest
        exact ⟨t, run_cons_eq_some.mpr ⟨r, hr, hrt⟩, htu⟩
      · rintro ⟨t, hst, htu⟩
        obtain ⟨r, hr, hrt⟩ := run_cons_eq_some.mp hst
        exact ⟨r, hr, ih.mpr ⟨t, hrt, htu⟩⟩

theorem run_singleton : M.run s [a] = M.step s a := by
  simp [run]

/-! ## Conditions on the steps taken -/

@[simp] theorem along_nil : M.Along P s [] := trivial

theorem along_cons (hstep : M.step s a = some t) :
    M.Along P s (a :: as) ↔ P s a ∧ M.Along P t as := by
  simp [Along, hstep]

theorem always_cons (hstep : M.step s a = some t) :
    M.Always Q s (a :: as) ↔ Q s ∧ M.Always Q t as := by
  simp [Always, hstep]

theorem along_of_check
    {p : σ → α → Bool} (hp : ∀ s a, p s a = true → P s a)
    (hcheck : M.checkAlong p s as = true) : M.Along P s as := by
  induction as generalizing s with
  | nil => trivial
  | cons a as ih =>
      simp only [checkAlong, Bool.and_eq_true] at hcheck
      constructor
      · exact hp s a hcheck.1
      · intro t hstep
        apply ih
        simpa [hstep] using hcheck.2

theorem along_of_forall {p : α → Prop} (hall : ∀ a ∈ as, p a) :
    M.Along (fun _ a => p a) s as := by
  induction as generalizing s with
  | nil => trivial
  | cons a as ih =>
      exact ⟨hall a (by simp), fun t _ => ih fun b hb => hall b (by simp [hb])⟩

theorem Along.mono
    (hmono : ∀ s a, P s a → P' s a) (halong : M.Along P s as) :
    M.Along P' s as := by
  induction as generalizing s with
  | nil => trivial
  | cons a as ih =>
      exact ⟨hmono s a halong.1, fun t hstep => ih (halong.2 t hstep)⟩

theorem Along.and (hP : M.Along P s as) (hP' : M.Along P' s as) :
    M.Along (fun s a => P s a ∧ P' s a) s as := by
  induction as generalizing s with
  | nil => trivial
  | cons a as ih =>
      exact ⟨⟨hP.1, hP'.1⟩,
        fun t hstep => ih (hP.2 t hstep) (hP'.2 t hstep)⟩

/-- A run that reaches its end took every step. -/
theorem along_enabled (hrun : M.run s as = some t) :
    M.Along (fun s a => ∃ t, M.step s a = some t) s as := by
  induction as generalizing s with
  | nil => trivial
  | cons a as ih =>
      obtain ⟨r, hstep, hrest⟩ := run_cons_eq_some.mp hrun
      rw [along_cons hstep]
      exact ⟨⟨r, hstep⟩, ih hrest⟩

/-- A property kept by every step that meets `P` survives a whole run. -/
theorem Along.invariant
    (hkeep : ∀ s a t, I s → P s a → M.step s a = some t → I t)
    (hs : I s) (halong : M.Along P s as) (hrun : M.run s as = some t) :
    I t := by
  induction as generalizing s with
  | nil =>
      have heq : s = t := by simpa using hrun
      exact heq ▸ hs
  | cons a as ih =>
      obtain ⟨r, hstep, hrest⟩ := run_cons_eq_some.mp hrun
      exact ih (hkeep s a r hs halong.1 hstep) (halong.2 r hstep) hrest

/-- The same property holds in every state passed. -/
theorem Along.always
    (hkeep : ∀ s a t, I s → P s a → M.step s a = some t → I t)
    (hs : I s) (halong : M.Along P s as) :
    M.Always I s as := by
  induction as generalizing s with
  | nil => exact hs
  | cons a as ih =>
      exact ⟨hs, fun t hstep =>
        ih (hkeep s a t hs halong.1 hstep) (halong.2 t hstep)⟩

/-- Conditions which agree on the steps out of invariant states agree on the
runs from them. -/
theorem along_congr
    (hkeep : ∀ s a t, I s → M.step s a = some t → I t)
    (hagree : ∀ s a t, I s → M.step s a = some t → (P s a ↔ P' s a))
    (hs : I s) (hrun : M.run s as = some t) :
    M.Along P s as ↔ M.Along P' s as := by
  induction as generalizing s with
  | nil => exact Iff.rfl
  | cons a as ih =>
      obtain ⟨r, hstep, hrest⟩ := run_cons_eq_some.mp hrun
      rw [along_cons hstep, along_cons hstep, hagree s a r hs hstep,
        ih (hkeep s a r hs hstep) hrest]

theorem Always.head (halways : M.Always Q s as) : Q s := by
  cases as with
  | nil => exact halways
  | cons a as => exact halways.1

theorem Always.along (halways : M.Always Q s as) :
    M.Along (fun s _ => Q s) s as := by
  induction as generalizing s with
  | nil => trivial
  | cons a as ih =>
      exact ⟨halways.1, fun t hstep => ih (halways.2 t hstep)⟩

theorem Always.mono {Q' : σ → Prop} (hmono : ∀ s, Q s → Q' s)
    (halways : M.Always Q s as) : M.Always Q' s as := by
  induction as generalizing s with
  | nil => exact hmono s halways
  | cons a as ih =>
      exact ⟨hmono s halways.1, fun t hstep => ih (halways.2 t hstep)⟩

theorem checkAlways_iff {q : σ → Bool} :
    M.checkAlways q s as = true ↔ M.Always (fun s => q s = true) s as := by
  induction as generalizing s with
  | nil => rfl
  | cons a as ih =>
      cases hstep : M.step s a with
      | none => simp [checkAlways, Always, hstep]
      | some t => simp [checkAlways, Always, hstep, ih]

theorem Always.drop (halways : M.Always Q s (as ++ bs))
    (hrun : M.run s as = some t) : M.Always Q t bs := by
  induction as generalizing s with
  | nil =>
      have heq : s = t := by simpa using hrun
      exact heq ▸ halways
  | cons a as ih =>
      obtain ⟨r, hstep, hrest⟩ := run_cons_eq_some.mp hrun
      exact ih (halways.2 r hstep) hrest

theorem Always.last (halways : M.Always Q s as)
    (hrun : M.run s as = some t) : Q t := by
  have hnil : M.Always Q s (as ++ []) := by
    rw [List.append_nil]
    exact halways
  exact hnil.drop hrun

theorem Always.append (halways : M.Always Q s as)
    (hrun : M.run s as = some t) (hrest : M.Always Q t bs) :
    M.Always Q s (as ++ bs) := by
  induction as generalizing s with
  | nil =>
      have heq : s = t := by simpa using hrun
      exact heq ▸ hrest
  | cons a as ih =>
      obtain ⟨r, hstep, hrun'⟩ := run_cons_eq_some.mp hrun
      rw [List.cons_append, always_cons hstep]
      exact ⟨halways.1, ih (halways.2 r hstep) hrun'⟩

/-- What a run cannot regain and has at its end, it never lost. -/
theorem always_of_last
    (hlost : ∀ s a t, ¬ Q s → P s a → M.step s a = some t → ¬ Q t)
    (halong : M.Along P s as) (hrun : M.run s as = some t) (ht : Q t) :
    M.Always Q s as := by
  induction as generalizing s with
  | nil =>
      have heq : s = t := by simpa using hrun
      exact heq ▸ ht
  | cons a as ih =>
      obtain ⟨r, hstep, hrest⟩ := run_cons_eq_some.mp hrun
      have htail : M.Always Q r as := ih (halong.2 r hstep) hrest
      have hs : Q s := by
        by_contra hs
        exact hlost s a r hs halong.1 hstep htail.head
      exact (always_cons hstep).mpr ⟨hs, htail⟩

/-- Exactness.  Where one step from a good state ends in a good state if and
only if the step meets `P`, a whole run stays good if and only if all its
steps meet `P`. -/
theorem always_iff_along
    (hexact : ∀ s a t, Q s → P' s a → M.step s a = some t → (Q t ↔ P s a))
    (henabled : ∀ s a, P' s a → ∃ t, M.step s a = some t)
    (hs : Q s) (hok : M.Along P' s as) :
    M.Always Q s as ↔ M.Along P s as := by
  induction as generalizing s with
  | nil => exact ⟨fun _ => trivial, fun _ => hs⟩
  | cons a as ih =>
      obtain ⟨t, hstep⟩ := henabled s a hok.1
      have hiff : Q t ↔ P s a := hexact s a t hs hok.1 hstep
      have hoktail : M.Along P' t as := hok.2 t hstep
      rw [along_cons hstep, always_cons hstep]
      constructor
      · intro halways
        have ht : Q t := halways.2.head
        exact ⟨hiff.mp ht, (ih ht hoktail).mp halways.2⟩
      · intro halong
        have ht : Q t := hiff.mpr halong.1
        exact ⟨hs, (ih ht hoktail).mpr halong.2⟩

/-! ## Reachable states -/

/-- The invariant rule: true at the start and kept by every step that meets
`P`, hence true in every state such a run reaches.  The step may use that its
first state is reached, and so every invariant proved before. -/
theorem ReachableUnder.invariant
    (hinit : ∀ s, M.Initial s → I s)
    (hkeep : ∀ s a t, M.ReachableUnder P s → I s → P s a →
      M.step s a = some t → I t)
    (hs : M.ReachableUnder P s) : I s := by
  induction hs with
  | initial h => exact hinit _ h
  | step hs hP hstep ih => exact hkeep _ _ _ hs ih hP hstep

theorem ReachableUnder.mono (hmono : ∀ s a, P s a → P' s a)
    (hs : M.ReachableUnder P s) : M.ReachableUnder P' s := by
  induction hs with
  | initial h => exact .initial h
  | step _ hP hstep ih => exact .step ih (hmono _ _ hP) hstep

theorem ReachableUnder.run
    (hs : M.ReachableUnder P s) (halong : M.Along P s as)
    (hrun : M.run s as = some t) : M.ReachableUnder P t :=
  Along.invariant (I := M.ReachableUnder P)
    (fun _ _ _ hr hP hstep => .step hr hP hstep) hs halong hrun

theorem reachableUnder_of_run (hs : M.Initial s) (halong : M.Along P s as)
    (hrun : M.run s as = some t) : M.ReachableUnder P t :=
  (ReachableUnder.initial hs).run halong hrun

theorem along_true : M.Along (fun _ _ => True) s as := by
  induction as generalizing s with
  | nil => trivial
  | cons a as ih => exact ⟨trivial, fun _ _ => ih⟩

theorem reachable_of_run (hs : M.Initial s) (hrun : M.run s as = some t) :
    M.Reachable t :=
  reachableUnder_of_run hs along_true hrun

/-! ## Progress -/

section Progress

variable {ok : α → Prop} {cost : α → ℕ} {m n : ℕ} {Q' : σ → Prop}

theorem Reaches.now (hs : Q s) : M.Reaches ok cost n Q s :=
  ⟨[], s, by simp, Nat.zero_le n, rfl, hs⟩

theorem Reaches.step (hstep : M.step s a = some t) (hok : ok a)
    (ht : M.Reaches ok cost n Q t) :
    M.Reaches ok cost (cost a + n) Q s := by
  obtain ⟨as, u, hall, hcost, hrun, hu⟩ := ht
  refine ⟨a :: as, u, ?_, ?_, ?_, hu⟩
  · intro b hb
    rcases List.mem_cons.mp hb with rfl | hmem
    · exact hok
    · exact hall b hmem
  · rw [List.map_cons, List.sum_cons]
    exact Nat.add_le_add_left hcost (cost a)
  · rw [run_cons hstep, hrun]

theorem Reaches.trans (hs : M.Reaches ok cost m Q s)
    (hrest : ∀ t, Q t → M.Reaches ok cost n Q' t) :
    M.Reaches ok cost (m + n) Q' s := by
  obtain ⟨as, t, hall, hcost, hrun, ht⟩ := hs
  obtain ⟨bs, u, hall', hcost', hrun', hu⟩ := hrest t ht
  refine ⟨as ++ bs, u, ?_, ?_, run_append_eq_some.mpr ⟨t, hrun, hrun'⟩, hu⟩
  · intro b hb
    rcases List.mem_append.mp hb with hmem | hmem
    · exact hall b hmem
    · exact hall' b hmem
  · rw [List.map_append, List.sum_append]
    exact Nat.add_le_add hcost hcost'

theorem Reaches.mono (hs : M.Reaches ok cost m Q s) (hle : m ≤ n) :
    M.Reaches ok cost n Q s := by
  obtain ⟨as, t, hall, hcost, hrun, ht⟩ := hs
  exact ⟨as, t, hall, hcost.trans hle, hrun, ht⟩

end Progress

/-! ## Counting steps -/

theorem count_cons {p : σ → α → Bool} (hstep : M.step s a = some t) :
    M.count p s (a :: as) = (p s a).toNat + M.count p t as := by
  simp [count, hstep]

/-- A quantity that only the steps of kind `p` raise, and those by at most
one, grows over a run by at most their number. -/
theorem le_add_count
    {p : σ → α → Bool} {f : σ → ℕ}
    (hgrow : ∀ s a t, M.step s a = some t → f t ≤ f s + (p s a).toNat)
    (hrun : M.run s as = some t) :
    f t ≤ f s + M.count p s as := by
  induction as generalizing s with
  | nil =>
      have heq : s = t := by simpa using hrun
      simp [count, heq]
  | cons a as ih =>
      obtain ⟨r, hstep, hrest⟩ := run_cons_eq_some.mp hrun
      have hhead := hgrow s a r hstep
      have htail := ih hrest
      rw [count_cons hstep]
      omega

/-- If `Q` fails before a run and holds after it, and only steps of the kind
`P` can establish `Q`, then the run takes such a step. -/
theorem exists_step_of_change
    (hcause : ∀ s a t, ¬ Q s → M.step s a = some t → Q t → P s a)
    (hrun : M.run s as = some t) (hs : ¬ Q s) (ht : Q t) :
    ∃ before a after r,
      as = before ++ a :: after ∧ M.run s before = some r ∧ P r a := by
  induction as generalizing s with
  | nil =>
      have heq : s = t := by simpa using hrun
      exact absurd (heq ▸ ht) hs
  | cons a as ih =>
      obtain ⟨r, hstep, hrest⟩ := run_cons_eq_some.mp hrun
      by_cases hr : Q r
      · exact ⟨[], a, as, s, rfl, rfl, hcause s a r hs hstep hr⟩
      · obtain ⟨before, b, after, q, rfl, hbefore, hb⟩ := ih hrest hr
        exact ⟨a :: before, b, after, q, rfl,
          run_cons_eq_some.mpr ⟨r, hstep, hbefore⟩, hb⟩

end Machine
