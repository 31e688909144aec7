import Samurai.LabelledRuns

/-!
# Forward simulation along a view

A view reads the state of an abstract machine off the state of a concrete one.
Every concrete step either takes effect as one abstract step or does not show
in the view; a concrete run is then an abstract run of the effects.
-/

namespace Machine

variable {σ τ α β : Type*} {C : Machine σ α} {A : Machine τ β}
  {P : σ → α → Prop} {effect : σ → α → Option β} {view : σ → τ}
  {I : σ → Prop} {s t : σ} {as : List α}

/-- The effects of a run, in order. -/
def effects (C : Machine σ α) (effect : σ → α → Option β) :
    σ → List α → List β
  | _, [] => []
  | s, a :: as =>
      (effect s a).toList ++
        ((C.step s a).map fun t => effects C effect t as).getD []

theorem effects_cons {a : α} (hstep : C.step s a = some t) :
    C.effects effect s (a :: as) =
      (effect s a).toList ++ C.effects effect t as := by
  simp [effects, hstep]

/-- Steps with an effect are abstract steps and the others leave the view
alone, wherever the invariant holds and the step meets `P`. -/
structure Simulates (C : Machine σ α) (A : Machine τ β) (P : σ → α → Prop)
    (effect : σ → α → Option β) (view : σ → τ) (I : σ → Prop) : Prop where
  keeps : ∀ s a t, I s → P s a → C.step s a = some t → I t
  visible : ∀ s a t b, I s → P s a → C.step s a = some t →
    effect s a = some b → A.step (view s) b = some (view t)
  hidden : ∀ s a t, I s → P s a → C.step s a = some t → effect s a = none →
    view t = view s

theorem Simulates.run (hsim : Simulates C A P effect view I) (hs : I s)
    (halong : C.Along P s as) (hrun : C.run s as = some t) :
    A.run (view s) (C.effects effect s as) = some (view t) := by
  induction as generalizing s with
  | nil =>
      have heq : s = t := by simpa using hrun
      simp [effects, heq]
  | cons a as ih =>
      obtain ⟨r, hstep, hrest⟩ := run_cons_eq_some.mp hrun
      obtain ⟨hP, hafter⟩ := halong
      have htail := ih (hsim.keeps s a r hs hP hstep) (hafter r hstep) hrest
      rw [effects_cons hstep]
      cases heffect : effect s a with
      | none =>
          rw [hsim.hidden s a r hs hP hstep heffect] at htail
          simpa using htail
      | some b =>
          have hhead := hsim.visible s a r b hs hP hstep heffect
          rw [Option.toList_some, List.singleton_append]
          exact run_cons_eq_some.mpr ⟨view r, hhead, htail⟩

/-- What holds of every step with an effect holds along the abstract run. -/
theorem Simulates.along {Q : τ → β → Prop}
    (hsim : Simulates C A P effect view I) (hs : I s)
    (halong : C.Along P s as) (hrun : C.run s as = some t)
    (hmeets : ∀ s a b, I s → P s a → effect s a = some b → Q (view s) b) :
    A.Along Q (view s) (C.effects effect s as) := by
  induction as generalizing s with
  | nil => trivial
  | cons a as ih =>
      obtain ⟨r, hstep, hrest⟩ := run_cons_eq_some.mp hrun
      obtain ⟨hP, hafter⟩ := halong
      have htail := ih (hsim.keeps s a r hs hP hstep) (hafter r hstep) hrest
      rw [effects_cons hstep]
      cases heffect : effect s a with
      | none =>
          rw [hsim.hidden s a r hs hP hstep heffect] at htail
          simpa using htail
      | some b =>
          have hhead := hsim.visible s a r b hs hP hstep heffect
          rw [Option.toList_some, List.singleton_append, along_cons hhead]
          exact ⟨hmeets s a b hs hP heffect, htail⟩

/-- Another invariant may be added, with the condition it needs. -/
theorem Simulates.strengthen {R : σ → α → Prop} {J : σ → Prop}
    (hsim : Simulates C A P effect view I)
    (hkeep : ∀ s a t, I s → J s → R s a → C.step s a = some t → J t) :
    Simulates C A (fun s a => P s a ∧ R s a) effect view
      fun s => I s ∧ J s where
  keeps := fun s a t hs hP hstep =>
    ⟨hsim.keeps s a t hs.1 hP.1 hstep, hkeep s a t hs.1 hs.2 hP.2 hstep⟩
  visible := fun s a t b hs hP => hsim.visible s a t b hs.1 hP.1
  hidden := fun s a t hs hP => hsim.hidden s a t hs.1 hP.1

end Machine
