import Samurai.UdfpsSensorSteps

/-!
# The one-shot discipline

The sensor is armed while `mIsEnabled` is set or while the worker, having
seen it set, is on its way through `poll`.  A post disarms the sensor, and
nothing but an `activate(true)` that finds it disabled arms it again.  Posted
events and armings are therefore in the balance `posted + armed ≤ enabled`,
whatever stale bytes, mode switches and repeated notifications pile up.
-/

namespace Samurai

/-- The worker has seen the sensor enabled and has not yet taken its branch. -/
def WorkerPc.watching : WorkerPc → Bool
  | .unlock | .poll | .relock _ | .branch _ => true
  | _ => false

namespace UdfpsSensor

def armed (s : UdfpsSensor) : Bool :=
  s.mIsEnabled || s.worker.watching

def enables (s : UdfpsSensor) : SensorAction → Bool
  | .caller c => s.caller c = .activateTest true && !s.mIsEnabled
  | _ => false

variable {capacity : ℕ} {s t : UdfpsSensor} {a : SensorAction}

/-! ## The balance of posts and armings -/

theorem notifyAll_watching :
    s.notifyAll.worker.watching = s.worker.watching := by
  unfold notifyAll
  split_ifs with hwaiting
  · rw [hwaiting]
    rfl
  · rfl

theorem armed_balance_of_quiet
    (hposted : t.posted = s.posted) (henabled : t.mIsEnabled = s.mIsEnabled)
    (hwatching : t.worker.watching = true → s.worker.watching = true) :
    t.posted.length + t.armed.toNat ≤
      s.posted.length + s.armed.toNat + (s.enables a).toNat := by
  have harmed : t.armed.toNat ≤ s.armed.toNat := by
    unfold armed
    rw [henabled]
    cases hwatch : t.worker.watching with
    | false => cases hflag : s.mIsEnabled <;> simp
    | true => simp [hwatching hwatch]
  rw [hposted]
  omega

theorem armed_balance (hstep : SensorStep capacity s a t) :
    t.posted.length + t.armed.toNat ≤
      s.posted.length + s.armed.toNat + (s.enables a).toNat := by
  cases hstep
  case watch hworker _ hidle =>
      have henabled : s.mIsEnabled = true := by
        cases hflag : s.mIsEnabled <;> simp [idle, hflag] at hidle ⊢
      simp [armed, henabled]
  case post hworker _ =>
      simp [armed, hworker, WorkerPc.watching]
  case activateChange c enable hcaller hchange =>
      cases enable with
      | false =>
          have henabled : s.mIsEnabled = true := by simpa using hchange
          cases hwatch : s.worker.watching <;>
            simp [armed, goto, henabled, hwatch]
          omega
      | true =>
          have hdisabled : s.mIsEnabled = false := by simpa using hchange
          simp [armed, goto, enables, hcaller, hdisabled]
  case destroyStop c hcaller =>
      cases hwatch : s.worker.watching <;>
        simp [armed, goto, hwatch]
      omega
  case activateNotify | modeNotify | destroyNotify =>
      apply armed_balance_of_quiet
      · rfl
      · rfl
      · intro hwatch
        exact notifyAll_watching ▸ hwatch
  all_goals
    apply armed_balance_of_quiet
    · rfl
    · rfl
    · simp [*, WorkerPc.watching, goto]

/-! ## What a post finds and leaves -/

theorem posted_cases (hstep : SensorStep capacity s a t) :
    t.posted = s.posted ∨
      ∃ pipe x y, a = .worker ∧ s.worker = .branch (.ready pipe true) ∧
        readFpState s.fpState s.mScreenX s.mScreenY = (true, x, y) ∧
        t.posted = s.posted ++ [s.postedEvent x y] ∧
        t.mIsEnabled = false ∧ t.worker = .check := by
  cases hstep
  case post pipe x y hworker hread =>
      exact .inr ⟨pipe, x, y, rfl, hworker, hread, rfl, rfl, rfl⟩
  all_goals exact .inl rfl

theorem posted_of_ne (hstep : SensorStep capacity s a t)
    (hpost : t.posted ≠ s.posted) :
    ∃ pipe x y, a = .worker ∧ s.worker = .branch (.ready pipe true) ∧
      readFpState s.fpState s.mScreenX s.mScreenY = (true, x, y) ∧
      t.posted = s.posted ++ [s.postedEvent x y] ∧
      t.mIsEnabled = false ∧ t.worker = .check := by
  rcases posted_cases hstep with hsame | hcase
  · exact absurd hsame hpost
  · exact hcase

theorem armed_before_post (hstep : SensorStep capacity s a t)
    (hpost : t.posted ≠ s.posted) : s.armed = true := by
  obtain ⟨pipe, x, y, _, hworker, _⟩ := posted_of_ne hstep hpost
  simp [armed, hworker, WorkerPc.watching]

theorem not_armed_after_post (hstep : SensorStep capacity s a t)
    (hpost : t.posted ≠ s.posted) : t.armed = false := by
  obtain ⟨pipe, x, y, _, _, _, _, henabled, hworker⟩ :=
    posted_of_ne hstep hpost
  simp [armed, henabled, hworker, WorkerPc.watching]

theorem enables_of_armed (hstep : SensorStep capacity s a t)
    (hbefore : s.armed ≠ true) (hafter : t.armed = true) :
    s.enables a = true := by
  have hbalance := armed_balance hstep
  have hlength : s.posted.length ≤ t.posted.length := by
    rcases posted_cases hstep with hsame | ⟨_, x, y, _, _, _, happend, _⟩
    · rw [hsame]
    · simp [happend]
  have hdisarmed : s.armed = false := by simpa using hbefore
  rw [hafter, hdisarmed, Bool.toNat_true, Bool.toNat_false] at hbalance
  cases henables : s.enables a with
  | false =>
      rw [henables, Bool.toNat_false] at hbalance
      omega
  | true => rfl

/-! ## Whole runs -/

theorem disabled_after_post (hstep : SensorStep capacity s a t)
    (hpost : t.posted ≠ s.posted) :
    t.posted.length = s.posted.length + 1 ∧ t.mIsEnabled = false := by
  obtain ⟨_, x, y, _, _, _, happend, henabled, _⟩ := posted_of_ne hstep hpost
  have hlength : t.posted.length = s.posted.length + 1 := by
    rw [happend, List.length_append]
    rfl
  exact ⟨hlength, henabled⟩

theorem enabled_between_posts {first second : UdfpsSensor}
    {b : SensorAction} {as : List SensorAction}
    (hfirst : SensorStep capacity s a first) (hpost : first.posted ≠ s.posted)
    (hrun : (machine capacity).run first as = some second)
    (hsecond : SensorStep capacity second b t)
    (hpost' : t.posted ≠ second.posted) :
    ∃ before c after r, as = before ++ .caller c :: after ∧
      (machine capacity).run first before = some r ∧
      r.caller c = .activateTest true ∧ r.mIsEnabled = false := by
  have hbefore : first.armed ≠ true := by
    simp [not_armed_after_post hfirst hpost]
  have hafter : second.armed = true := armed_before_post hsecond hpost'
  obtain ⟨before, e, after, r, has, hr, henables⟩ :=
    Machine.exists_step_of_change (Q := fun s => s.armed = true)
      (P := fun s a => s.enables a = true)
      (fun s a t hs hstep ht => enables_of_armed (step_cases hstep) hs ht)
      hrun hbefore hafter
  cases e with
  | caller c =>
      have hboth : r.caller c = .activateTest true ∧
          r.mIsEnabled = false := by
        simpa [enables] using henables
      exact ⟨before, c, after, r, has, hr, hboth.1, hboth.2⟩
  | _ => simp [enables] at henables

theorem posted_le_count_enables {as : List SensorAction}
    (hinit : (machine capacity).Initial s)
    (hrun : (machine capacity).run s as = some t) :
    t.posted.length ≤ (machine capacity).count enables s as := by
  rcases hinit with ⟨handle, fp, x, y, rfl⟩
  have hgrow := Machine.le_add_count (p := enables)
    (f := fun s : UdfpsSensor => s.posted.length + s.armed.toNat)
    (fun s a t hstep => armed_balance (step_cases hstep)) hrun
  have hstart : (initial handle fp x y).posted.length +
      (initial handle fp x y).armed.toNat = 0 := rfl
  simp only [hstart] at hgrow
  omega

/-- After every event the sensor is disabled, between two events an
`activate(true)` found it disabled, and no run posts more events than such
calls were made in it. -/
theorem one_shot_discipline (capacity : ℕ) :
    (∀ s a t, (machine capacity).Reachable s →
      (machine capacity).step s a = some t → t.posted ≠ s.posted →
        t.posted.length = s.posted.length + 1 ∧ t.mIsEnabled = false) ∧
    (∀ s a first as second b t, (machine capacity).Reachable s →
      (machine capacity).step s a = some first → first.posted ≠ s.posted →
      (machine capacity).run first as = some second →
      (machine capacity).step second b = some t →
      t.posted ≠ second.posted →
        ∃ before c after r, as = before ++ .caller c :: after ∧
          (machine capacity).run first before = some r ∧
          r.caller c = .activateTest true ∧ r.mIsEnabled = false) ∧
    (∀ s as t, (machine capacity).Initial s →
      (machine capacity).run s as = some t →
        t.posted.length ≤ (machine capacity).count enables s as) := by
  constructor
  · intro s a t _ hstep hpost
    exact disabled_after_post (step_cases hstep) hpost
  constructor
  · intro s a first as second b t _ hfirst hpost hrun hsecond hpost'
    exact enabled_between_posts (step_cases hfirst) hpost hrun
      (step_cases hsecond) hpost'
  · intro s as t hinit hrun
    exact posted_le_count_enables hinit hrun

end UdfpsSensor

end Samurai
