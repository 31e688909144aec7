import Samurai.UdfpsSensorOneShot

/-!
# Events after deactivation

The worker looks at `mIsEnabled` and `mMode` before it gives `mRunMutex` up
for `poll`, and does not look again when it has taken it back.  A call that
disables the sensor meanwhile interrupts `poll` through the pipe, but when the
finger is reported by the same `poll` the branch for the finger comes first:
the event is posted although the sensor is disabled.

That relock is the only way.  In runs where the worker never takes the mutex
back, with the finger reported, to find the sensor disabled, every event is
posted by an enabled sensor in normal mode, and from any state where it is
about to do so the stale event is two steps away.
-/

namespace Samurai.UdfpsSensor

variable {capacity : ℕ} {s t : UdfpsSensor} {a : SensorAction}

/-- Where the worker takes `mRunMutex` back from a `poll` that reported the
finger, no disabling call is in force. -/
def RelockFresh (s : UdfpsSensor) (a : SensorAction) : Prop :=
  a = .worker → s.mRunMutex = none →
    ∀ pipe, s.worker = .relock (.ready pipe true) →
      s.mIsEnabled = true ∧ s.mMode = .normal

def PostsWhileEnabled
    (capacity : ℕ) (ok : UdfpsSensor → SensorAction → Prop) : Prop :=
  ∀ s a t, (machine capacity).ReachableUnder ok s → ok s a →
    (machine capacity).step s a = some t → t.posted ≠ s.posted →
      s.mIsEnabled = true ∧ s.mMode = .normal

/-- From the statement of `disable` that changes the flag on, whether its
call has returned or not, nothing is posted before a call gets to the
statement of `enable`. -/
def QuietBetween
    (capacity : ℕ) (ok : UdfpsSensor → SensorAction → Prop)
    (disable enable : CallerPc) : Prop :=
  ∀ s c t as u, (machine capacity).ReachableUnder ok s →
    s.caller c = disable → ok s (.caller c) →
    (machine capacity).step s (.caller c) = some t →
    (machine capacity).Along
      (fun s a => ok s a ∧ ∀ d, a = .caller d → s.caller d ≠ enable) t as →
    (machine capacity).run t as = some u → u.posted = t.posted

/-! ## Who changes the flags -/

theorem Disciplined.caller_outside {c : ℕ} (hs : s.Disciplined)
    (hworker : s.worker.inside = true) : (s.caller c).inside = false := by
  cases hcaller : (s.caller c).inside with
  | false => rfl
  | true =>
      have hsame : SensorThread.worker = .caller c :=
        Owned.unique hs hworker hcaller
      contradiction

theorem mIsEnabled_cause (hstep : SensorStep capacity s a t)
    (hafter : t.mIsEnabled = true) :
    s.mIsEnabled = true ∨
      ∃ c, a = .caller c ∧ s.caller c = .activateTest true := by
  cases hstep
  case activateChange c enable hcaller hchange =>
      have henable : enable = true := hafter
      subst henable
      exact .inr ⟨c, rfl, hcaller⟩
  case post => simp at hafter
  case destroyStop => simp [goto] at hafter
  all_goals exact .inl hafter

theorem mMode_cause (hstep : SensorStep capacity s a t)
    (hafter : t.mMode = .normal) :
    s.mMode = .normal ∨
      ∃ c, a = .caller c ∧ s.caller c = .modeTest .normal := by
  cases hstep
  case modeChange c mode hcaller hchange =>
      have hmode : mode = .normal := hafter
      subst hmode
      exact .inr ⟨c, rfl, hcaller⟩
  all_goals exact .inl hafter

theorem flags_of_inside (hs : s.Disciplined)
    (hstep : SensorStep capacity s a t) (hworker : s.worker.inside = true)
    (ha : a ≠ .worker) :
    t.mIsEnabled = s.mIsEnabled ∧ t.mMode = s.mMode := by
  have hout : ∀ c, (s.caller c).inside = false :=
    fun c => hs.caller_outside hworker
  cases hstep
  case activateChange c enable hcaller hchange =>
      have hc := hout c
      rw [hcaller] at hc
      contradiction
  case modeChange c mode hcaller hchange =>
      have hc := hout c
      rw [hcaller] at hc
      contradiction
  case destroyStop c hcaller =>
      have hc := hout c
      rw [hcaller] at hc
      contradiction
  all_goals first
    | exact absurd rfl ha
    | exact ⟨rfl, rfl⟩

/-! ## The branch is fresh -/

def BranchFresh (s : UdfpsSensor) : Prop :=
  ∀ pipe, s.worker = .branch (.ready pipe true) →
    s.mIsEnabled = true ∧ s.mMode = .normal

theorem branch_before (hstep : SensorStep capacity s a t)
    {result : PollResult} (hafter : t.worker = .branch result) :
    (a = .worker ∧ s.worker = .relock result ∧ s.mRunMutex = none ∧
        t.mIsEnabled = s.mIsEnabled ∧ t.mMode = s.mMode) ∨
      (a ≠ .worker ∧ s.worker = .branch result) := by
  cases hstep
  case relock result' hworker hfree =>
      have hresult : result' = result := by simpa using hafter
      subst hresult
      exact .inl ⟨rfl, hworker, hfree, rfl, rfl⟩
  case activateNotify | modeNotify | destroyNotify =>
      refine .inr ⟨by simp, ?_⟩
      simp only [goto, notifyAll] at hafter
      split_ifs at hafter
      exact hafter
  all_goals first
    | contradiction
    | exact .inr ⟨by simp, hafter⟩

theorem BranchFresh.step (hs : s.BranchFresh) (hdisc : s.Disciplined)
    (hok : RelockFresh s a) (hstep : SensorStep capacity s a t) :
    t.BranchFresh := by
  intro pipe hafter
  rcases branch_before hstep hafter with
    ⟨ha, hworker, hfree, henabled, hmode⟩ | ⟨ha, hworker⟩
  · rw [henabled, hmode]
    exact hok ha hfree pipe hworker
  · have hinside : s.worker.inside = true := by
      rw [hworker]
      rfl
    obtain ⟨henabled, hmode⟩ := flags_of_inside hdisc hstep hinside ha
    rw [henabled, hmode]
    exact hs pipe hworker

theorem reachable_branchFresh
    (hs : (machine capacity).ReachableUnder RelockFresh s) :
    s.BranchFresh := by
  apply Machine.ReachableUnder.invariant _ _ hs
  · intro s hs
    rcases hs with ⟨handle, fp, x, y, rfl⟩
    intro pipe hworker
    contradiction
  · intro s a t hs hfresh hok hstep
    exact hfresh.step (reachable_disciplined hs) hok (step_cases hstep)

/-! ## The events of fresh runs -/

theorem postsWhileEnabled_fresh (capacity : ℕ) :
    PostsWhileEnabled capacity RelockFresh := by
  intro s a t hs _ hstep hpost
  obtain ⟨pipe, _, _, _, hworker, _⟩ := posted_of_ne (step_cases hstep) hpost
  exact reachable_branchFresh hs pipe hworker

/-- Where events need a flag, a call that takes the flag away silences the
sensor until the flag is given back. -/
theorem quietBetween_of_flag
    {ok : UdfpsSensor → SensorAction → Prop} {disable enable : CallerPc}
    (flag : UdfpsSensor → Prop)
    (hoff : ∀ s c t, s.caller c = disable →
      SensorStep capacity s (.caller c) t → ¬ flag t ∧ t.posted = s.posted)
    (hcause : ∀ s a t, SensorStep capacity s a t → flag t →
      flag s ∨ ∃ c, a = .caller c ∧ s.caller c = enable)
    (hneeds : ∀ s a t, (machine capacity).ReachableUnder ok s → ok s a →
      (machine capacity).step s a = some t → t.posted ≠ s.posted → flag s) :
    QuietBetween capacity ok disable enable := by
  intro s c t as u hs hcaller hok hstep halong hrun
  have ht : (machine capacity).ReachableUnder ok t := hs.step hok hstep
  have hstart : ¬ flag t := (hoff s c t hcaller (step_cases hstep)).1
  have hinv : (machine capacity).ReachableUnder ok u ∧ ¬ flag u ∧
      u.posted = t.posted := by
    apply Machine.Along.invariant
      (I := fun v => (machine capacity).ReachableUnder ok v ∧ ¬ flag v ∧
        v.posted = t.posted)
      _ ⟨ht, hstart, rfl⟩ halong hrun
    intro v b w hv hokv hvw
    rcases hv with ⟨hv, hflag, hposted⟩
    have hwflag : ¬ flag w := by
      intro hw
      rcases hcause v b w (step_cases hvw) hw with hflagv | ⟨d, hb, hd⟩
      · exact hflag hflagv
      · exact hokv.2 d hb hd
    have hwposted : w.posted = t.posted := by
      by_contra hpost
      rw [← hposted] at hpost
      exact hflag (hneeds v b w hv hokv.1 hvw hpost)
    exact ⟨hv.step hokv.1 hvw, hwflag, hwposted⟩
  exact hinv.2.2

theorem quietBetween_activate (capacity : ℕ) :
    QuietBetween capacity RelockFresh
      (.activateTest false) (.activateTest true) := by
  apply quietBetween_of_flag (fun s => s.mIsEnabled = true)
  · intro s c t hcaller hstep
    cases hstep <;> simp_all [goto]
  · intro s a t hstep hafter
    exact mIsEnabled_cause hstep hafter
  · intro s a t hs hok hstep hpost
    exact (postsWhileEnabled_fresh capacity s a t hs hok hstep hpost).1

theorem quietBetween_mode (capacity : ℕ) :
    QuietBetween capacity RelockFresh
      (.modeTest .dataInjection) (.modeTest .normal) := by
  apply quietBetween_of_flag (fun s => s.mMode = .normal)
  · intro s c t hcaller hstep
    cases hstep <;> simp_all [goto]
  · intro s a t hstep hafter
    exact mMode_cause hstep hafter
  · intro s a t hs hok hstep hpost
    exact (postsWhileEnabled_fresh capacity s a t hs hok hstep hpost).2

/-- From a stale relock the worker's own two statements post a stale event,
once `fp_state` holds a touch. -/
theorem stale_relock_posts {pipe : Bool} {x y state : ℤ}
    (hworker : s.worker = .relock (.ready pipe true))
    (hfree : s.mRunMutex = none) (hstate : 0 < state)
    (hstale : ¬ (s.mIsEnabled = true ∧ s.mMode = .normal)) :
    ∃ u v, (machine capacity).run s
        [.fpNotify ⟨true, [x, y, state]⟩, .worker] = some u ∧
      (machine capacity).step u .worker = some v ∧
      v.posted = s.posted ++ [s.postedEvent x y] ∧
      ¬ (u.mIsEnabled = true ∧ u.mMode = .normal) := by
  let u : UdfpsSensor :=
    { s with
      fpState := ⟨true, [x, y, state]⟩
      fpNotified := true
      mRunMutex := some .worker
      worker := .branch (.ready pipe true) }
  have hrun : (machine capacity).run s
      [.fpNotify ⟨true, [x, y, state]⟩, .worker] = some u := by
    simp [Machine.run, machine, step, workerStep, lock, hworker, hfree, u]
  have hread : readFpState u.fpState u.mScreenX u.mScreenY = (true, x, y) := by
    simp [readFpState, u, hstate]
  exact ⟨u, _, hrun, step_post rfl hread, rfl, hstale⟩

/-- In runs whose relocks are fresh every event comes from an enabled sensor
in normal mode, and a disabling call silences the sensor; from every other
relock a stale event follows. -/
theorem events_of_fresh_relocks (capacity : ℕ) :
    PostsWhileEnabled capacity RelockFresh ∧
    QuietBetween capacity RelockFresh
      (.activateTest false) (.activateTest true) ∧
    QuietBetween capacity RelockFresh
      (.modeTest .dataInjection) (.modeTest .normal) ∧
    (∀ s a x y state, ¬ RelockFresh s a → 0 < state →
      ∃ u v, (machine capacity).run s
          [.fpNotify ⟨true, [x, y, state]⟩, .worker] = some u ∧
        (machine capacity).step u .worker = some v ∧
        v.posted = s.posted ++ [s.postedEvent x y] ∧
        ¬ (u.mIsEnabled = true ∧ u.mMode = .normal)) := by
  refine ⟨postsWhileEnabled_fresh capacity, quietBetween_activate capacity,
    quietBetween_mode capacity, ?_⟩
  intro s a x y state hstale hstate
  simp only [RelockFresh, Classical.not_imp, not_forall] at hstale
  obtain ⟨_, hfree, pipe, hworker, hoff⟩ := hstale
  exact stale_relock_posts hworker hfree hstate hoff

/-! ## Two runs -/

def enabledRun : List SensorAction :=
  [.construct true true, .call 0 (.activate true), .caller 0, .caller 0,
    .caller 0, .caller 0, .caller 0, .worker, .worker, .worker]

/-- `activate(false)` up to the statement that changes the flag. -/
def disableRun : List SensorAction :=
  [.call 0 (.activate false), .caller 0]

/-- The rest of `activate(false)`; then a touch, which `poll` reports together
with the byte of that call. -/
def staleRun : List SensorAction :=
  [.caller 0, .caller 0, .caller 0, .fpNotify ⟨true, [540, 1800, 1]⟩,
    .pollReturn (.ready true true), .worker]

/-- The callers stay away from a statement. -/
def avoids (pc : CallerPc) (s : UdfpsSensor) : SensorAction → Bool
  | .caller d => s.caller d ≠ pc
  | _ => true

/-- A worker that locks again after a touch finds the sensor enabled. -/
def relocksEnabled (s : UdfpsSensor) (a : SensorAction) : Bool :=
  match a, s.worker with
  | .worker, .relock (.ready _ true) => s.mIsEnabled && s.mMode = .normal
  | _, _ => true

def startState : UdfpsSensor := initial 1 ⟨true, [0, 0, 0]⟩ 0 0

theorem startState_initial (capacity : ℕ) :
    (machine capacity).Initial startState :=
  ⟨1, ⟨true, [0, 0, 0]⟩, 0, 0, rfl⟩

theorem stale_event_posted :
    ¬ PostsWhileEnabled 65536 (fun _ _ => True) ∧
    ¬ QuietBetween 65536 (fun _ _ => True)
      (.activateTest false) (.activateTest true) := by
  constructor
  · intro hclaim
    obtain ⟨s, hrun, hoff, t, hstep, hpost⟩ :
        ∃ s, (machine 65536).run startState
            (enabledRun ++ disableRun ++ .caller 0 :: staleRun) = some s ∧
          s.mIsEnabled = false ∧
          ∃ t, (machine 65536).step s .worker = some t ∧
            t.posted ≠ s.posted :=
      ⟨_, rfl, rfl, _, rfl, by decide⟩
    have hs := Machine.reachable_of_run (startState_initial 65536) hrun
    have hon := (hclaim s .worker t hs trivial hstep hpost).1
    rw [hoff] at hon
    contradiction
  · intro hclaim
    obtain ⟨s, hrun, hcaller, t, hstep, u, hrest, halong, hpost⟩ :
        ∃ s, (machine 65536).run startState (enabledRun ++ disableRun) =
            some s ∧ s.caller 0 = .activateTest false ∧
          ∃ t, (machine 65536).step s (.caller 0) = some t ∧
          ∃ u, (machine 65536).run t (staleRun ++ [.worker]) = some u ∧
            (machine 65536).checkAlong (avoids (.activateTest true)) t
              (staleRun ++ [.worker]) = true ∧
            u.posted ≠ t.posted :=
      ⟨_, rfl, rfl, _, rfl, _, rfl, rfl, by decide⟩
    have hs := Machine.reachable_of_run (startState_initial 65536) hrun
    apply hpost
    apply hclaim s 0 t _ u hs hcaller trivial hstep _ hrest
    apply Machine.along_of_check _ halong
    intro s a ha
    constructor
    · trivial
    · intro d hd
      subst hd
      simpa [avoids] using ha

def touchRun : List SensorAction :=
  enabledRun ++ [.pollReturn (.ready true false), .worker, .worker, .worker,
    .worker, .fpNotify ⟨true, [540, 1800, 1]⟩, .pollReturn (.ready false true),
    .worker]

theorem events_of_fresh_relocks_touch :
    ∃ s t, (machine 65536).ReachableUnder RelockFresh s ∧
      (machine 65536).step s .worker = some t ∧
      t.posted = [s.postedEvent 540 1800] ∧
      s.mIsEnabled = true ∧ s.mMode = .normal := by
  obtain ⟨s, hrun, hcheck, hworker, t, hstep, hposted, hnone⟩ :
      ∃ s, (machine 65536).run startState touchRun = some s ∧
        (machine 65536).checkAlong relocksEnabled startState touchRun = true ∧
        s.worker = .branch (.ready false true) ∧
        ∃ t, (machine 65536).step s .worker = some t ∧
          t.posted = [s.postedEvent 540 1800] ∧ s.posted = [] :=
    ⟨_, rfl, rfl, rfl, _, rfl, rfl, rfl⟩
  have halong : (machine 65536).Along RelockFresh startState touchRun := by
    apply Machine.along_of_check _ hcheck
    intro s a ha hthread _ pipe hworker
    subst hthread
    simpa [relocksEnabled, hworker] using ha
  have hs := Machine.reachableUnder_of_run
    (startState_initial 65536) halong hrun
  have hok : RelockFresh s .worker := by
    intro _ _ pipe hrelock
    rw [hworker] at hrelock
    contradiction
  have hpost : t.posted ≠ s.posted := by
    rw [hposted, hnone]
    simp
  exact ⟨s, t, hs, hstep, hposted,
    (events_of_fresh_relocks 65536).1 s .worker t hs hok hstep hpost⟩

end Samurai.UdfpsSensor
