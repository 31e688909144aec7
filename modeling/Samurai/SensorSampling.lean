import Samurai.SensorSamplingSteps
import Samurai.SensorsSubHalBatch
import Samurai.SpacedTimes
import Samurai.WakeupObligations

/-!
# When a sampling sensor samples

`Sensor::run` keeps the mutex from the test of the flags to the post, so a
sample is posted only while the sensor is enabled and in normal operation.
Its clock may be set back, yet the samples keep their distance: each is taken
against the time of the last.  What can be lost is the notification of
`batch`, which does not take the mutex.
-/

namespace Samurai

/-- On the way to `mIsEnabled`. -/
def SamplingCallerPc.enabling : SamplingCallerPc → Bool
  | .activateLock true | .activateTest true => true
  | _ => false

def SamplingCallerPc.requests : SamplingCallerPc → Option ℤ
  | .batchTest samplingPeriodNs | .batchWrite samplingPeriodNs =>
      some samplingPeriodNs
  | _ => none

namespace SamplingSensor

variable {s t : SamplingSensor} {a : SamplingAction}

/-! ## The flags while the worker holds the mutex -/

def active (s : SamplingSensor) : Bool :=
  s.mIsEnabled && s.mMode = .normal && !s.mStopThread

def KnowsFlags (s : SamplingSensor) : Prop :=
  s.worker.sampling = true → s.active = true

theorem inside_of_sampling (hsampling : s.worker.sampling = true) :
    s.worker.inside = true := by
  cases hworker : s.worker <;>
    simp [hworker, SamplingPc.sampling, SamplingPc.inside] at hsampling ⊢

/-- No caller is inside while the worker samples. -/
theorem Disciplined.caller_outside (hs : s.Disciplined)
    (hsampling : s.worker.sampling = true) (c : ℕ) :
    (s.caller c).inside = false := by
  cases hin : (s.caller c).inside with
  | false => rfl
  | true =>
      have hworker : s.inside .worker := inside_of_sampling hsampling
      have hcaller : s.inside (.caller c) := hin
      have hsame := Owned.unique hs hworker hcaller
      contradiction

theorem notifyAll_sampling :
    s.notifyAll.worker.sampling = s.worker.sampling := by
  unfold notifyAll
  cases hworker : s.worker <;> simp [atRun, hworker, SamplingPc.sampling]

theorem active_of_flags (hstop : s.mStopThread = false)
    (hidle : s.idle = false) : s.active = true := by
  cases henabled : s.mIsEnabled with
  | false => simp [idle, henabled] at hidle
  | true =>
      cases hmode : s.mMode with
      | dataInjection => simp [idle, hmode] at hidle
      | normal => simp [active, henabled, hmode, hstop]

theorem KnowsFlags.step (hs : s.KnowsFlags) (hdisciplined : s.Disciplined)
    (hstep : SamplingStep s a t) : t.KnowsFlags := by
  cases hstep
  case active hw hstop hidle =>
      intro _
      exact active_of_flags hstop hidle
  case activateChange c enable hc _ | modeChange c mode hc _
      | destroyStop c hc =>
      intro hsampling
      have houtside := hdisciplined.caller_outside hsampling c
      rw [hc] at houtside
      contradiction
  case notify hc | batchNotify hc | destroyNotify hc =>
      intro hsampling
      have hsame : s.worker.sampling = true := by
        rw [← notifyAll_sampling]
        exact hsampling
      simpa [active, goto] using hs hsame
  case clock hw | due hw _ | notDue hw _ | post hw =>
      intro _
      exact hs (by rw [hw]; rfl)
  all_goals first
    | exact hs
    | exact fun hsampling => absurd hsampling (by simp [atRun, SamplingPc.sampling])

theorem reachable_knowsFlags (hs : machine.Reachable s) :
    s.Disciplined ∧ s.KnowsFlags := by
  apply Machine.ReachableUnder.invariant (I := fun s =>
    s.Disciplined ∧ s.KnowsFlags) _ _ hs
  · rintro s ⟨info, rfl⟩
    exact ⟨initial_disciplined, fun hsampling => by contradiction⟩
  · intro s a t _ hinv _ hstep
    have hcase := step_cases hstep
    exact ⟨hinv.1.step hcase, hinv.2.step hinv.1 hcase⟩

/-! ## Samples and flags -/

theorem sampleTimes_cases (hstep : SamplingStep s a t) :
    t.sampleTimes = s.sampleTimes ∨
      ∃ now, a = .worker ∧ s.worker = .post now ∧ t = s.post now := by
  cases hstep
  case post now hw => exact .inr ⟨now, rfl, hw, rfl⟩
  case notify | batchNotify | destroyNotify => exact .inl notifyAll_sampleTimes
  all_goals exact .inl rfl

/-- A step that could end a period of inactivity: the test of a flag with the
argument that sets it right. -/
def mayActivate (s : SamplingSensor) : SamplingAction → Prop
  | .caller c =>
      s.caller c = .activateTest true ∨ s.caller c = .modeTest .normal
  | _ => False

theorem inactive_step (hinactive : s.active = false)
    (hquiet : ¬ s.mayActivate a) (hstep : SamplingStep s a t) :
    t.active = false := by
  cases hstep
  case activateChange c enable hc hchange =>
      cases enable with
      | true => exact absurd (.inl hc) hquiet
      | false => simp [active, goto]
  case modeChange c mode hc hchange =>
      cases mode with
      | normal => exact absurd (.inr hc) hquiet
      | dataInjection => simp [active, goto]
  case destroyStop => simp [active, goto]
  case notify | batchNotify | destroyNotify =>
      simpa [active, goto] using hinactive
  all_goals exact hinactive

/-- The period is at least `p` where the clock is compared with it. -/
def ComparedWith (p : ℤ) (s : SamplingSensor) : SamplingAction → Prop
  | .worker => ∀ now, s.worker = .compare now → p ≤ s.mSamplingPeriodNs
  | _ => True

/-- The samples are spaced, and `mLastSampleTimeNs` is the time of the last
one, or already that of the one about to be posted. -/
structure KeepsDistance (p : ℤ) (s : SamplingSensor) : Prop where
  spaced : Spaced p s.sampleTimes
  due : ∀ now, s.worker = .post now → s.mLastSampleTimeNs = now ∧
    ∀ last ∈ s.sampleTimes.getLast?, last + p ≤ now
  last : (∀ now, s.worker ≠ .post now) →
    ∀ last ∈ s.sampleTimes.getLast?, last = s.mLastSampleTimeNs

theorem KeepsDistance.congr {p : ℤ} (hs : s.KeepsDistance p)
    (htimes : t.sampleTimes = s.sampleTimes)
    (hlast : t.mLastSampleTimeNs = s.mLastSampleTimeNs)
    (hpc : ∀ now, t.worker = .post now ↔ s.worker = .post now) :
    t.KeepsDistance p where
  spaced := htimes ▸ hs.spaced
  due := by
    intro now hw
    rw [htimes, hlast]
    exact hs.due now ((hpc now).mp hw)
  last := by
    intro hw
    rw [htimes, hlast]
    exact hs.last fun now h => hw now ((hpc now).mpr h)

theorem notifyAll_post (now : ℤ) :
    s.notifyAll.worker = .post now ↔ s.worker = .post now := by
  unfold notifyAll
  cases hworker : s.worker <;> simp [atRun, hworker]

theorem KeepsDistance.step {p : ℤ} (hs : s.KeepsDistance p)
    (hperiod : ComparedWith p s a) (hstep : SamplingStep s a t) :
    t.KeepsDistance p := by
  cases hstep
  case due now hw hdue =>
      have hp := hperiod now hw
      have hlast := hs.last (by simp [hw])
      constructor
      · exact hs.spaced
      · rintro now' ⟨⟩
        refine ⟨rfl, ?_⟩
        intro last hmem
        have heq := hlast last hmem
        omega
      · intro hw'
        exact absurd rfl (hw' now)
  case post now hw =>
      rcases hs.due now hw with ⟨htime, hfar⟩
      constructor
      · exact hs.spaced.concat hfar
      · rintro now' ⟨⟩
      · intro _ last hmem
        have hnow : now = last := by simpa [SamplingSensor.post] using hmem
        rw [← hnow]
        exact htime.symm
  case notify | batchNotify | destroyNotify =>
      apply KeepsDistance.congr hs
      · exact notifyAll_sampleTimes
      · exact notifyAll_mLastSampleTimeNs
      · exact notifyAll_post
  all_goals
    apply KeepsDistance.congr hs
    · rfl
    · rfl
    · simp [*, atRun, goto, postEvents]

theorem initial_keepsDistance {info : SensorInfo} (p : ℤ) :
    (initial info).KeepsDistance p where
  spaced := Spaced.nil
  due := by
    intro now hw
    contradiction
  last := by
    intro _ last hmem
    contradiction

theorem run_keepsDistance {p : ℤ} {info : SensorInfo}
    {as : List SamplingAction}
    (hperiod : machine.Along (ComparedWith p) (initial info) as)
    (hrun : machine.run (initial info) as = some t) : t.KeepsDistance p :=
  Machine.Along.invariant (I := KeepsDistance p)
    (fun _ _ _ hs hP hstep => hs.step hP (step_cases hstep))
    (initial_keepsDistance p) hperiod hrun

/-! ## The period in force -/

/-- The sensor is enabled only after a `batch`. -/
def AfterBatch (s : SamplingSensor) : SamplingAction → Prop
  | .call _ call =>
      call = .activate true → s.mSensorInfo.minDelay * 1000 ≤ s.mSamplingPeriodNs
  | _ => True

structure Batched (info : SensorInfo) (s : SamplingSensor) : Prop where
  sensorInfo : s.mSensorInfo = info
  requests : ∀ c, ∀ p ∈ (s.caller c).requests,
    info.minDelay * 1000 ≤ p
  period : (s.mIsEnabled = true ∨
      ∃ c, (s.caller c).enabling = true) →
    info.minDelay * 1000 ≤ s.mSamplingPeriodNs

theorem le_clampPeriod {info : SensorInfo} (hfit : SensorsSubHal.DelaysFit info)
    (samplingPeriodNs : Int32) :
    info.minDelay * 1000 ≤ info.clampPeriod samplingPeriodNs := by
  have hordered := hfit.ordered
  have hmin := toInt_delay hfit.minFits
    (lt_of_le_of_lt (by linarith) hfit.maxFits)
  have hmax := toInt_delay (le_trans hfit.minFits (by linarith)) hfit.maxFits
  unfold SensorInfo.clampPeriod
  rw [toInt_clamp, hmin, hmax, ClampedTruncation.clamp_eq (by linarith)]
  exact le_max_left _ _

theorem Batched.goto {info : SensorInfo} {c : ℕ} {pc : SamplingCallerPc}
    (hs : s.Batched info)
    (hrequests : ∀ p ∈ pc.requests, info.minDelay * 1000 ≤ p)
    (henabling : pc.enabling = true →
      info.minDelay * 1000 ≤ s.mSamplingPeriodNs) :
    (s.goto c pc).Batched info where
  sensorInfo := hs.sensorInfo
  requests := by
    intro d
    by_cases hd : d = c
    · subst hd
      rw [goto_caller_self]
      exact hrequests
    · rw [goto_caller_of_ne hd]
      exact hs.requests d
  period := by
    rintro (henabled | ⟨d, hd⟩)
    · exact hs.period (.inl henabled)
    · by_cases hdc : d = c
      · subst hdc
        rw [goto_caller_self] at hd
        exact henabling hd
      · rw [goto_caller_of_ne hdc] at hd
        exact hs.period (.inr ⟨d, hd⟩)

theorem Batched.notifyAll {info : SensorInfo} (hs : s.Batched info) :
    s.notifyAll.Batched info := by
  rw [notifyAll_eq]
  exact ⟨hs.sensorInfo, hs.requests, hs.period⟩

theorem Batched.step {info : SensorInfo}
    (hfit : SensorsSubHal.DelaysFit info) (hs : s.Batched info)
    (hok : AfterBatch s a) (hstep : SamplingStep s a t) : t.Batched info := by
  cases hstep
  case call c call hidle =>
      apply hs.goto
      · intro p hp
        cases call with
        | batch samplingPeriodNs =>
            have hclamp : s.mSensorInfo.clampPeriod samplingPeriodNs = p := by
              simpa [entry, SamplingCallerPc.requests] using hp
            rw [← hclamp, hs.sensorInfo]
            exact le_clampPeriod hfit samplingPeriodNs
        | _ => simp [entry, SamplingCallerPc.requests] at hp
      · intro henabling
        cases call with
        | activate enable =>
            cases enable with
            | true =>
                rw [← hs.sensorInfo]
                exact hok rfl
            | false => contradiction
        | _ => contradiction
  case activateLock c enable hc hfree =>
      have hlocked : Batched info { s with mRunMutex := some (.caller c) } :=
        ⟨hs.sensorInfo, hs.requests, hs.period⟩
      apply hlocked.goto
      · simp [SamplingCallerPc.requests]
      · intro henabling
        apply hs.period (.inr ⟨c, ?_⟩)
        rw [hc]
        cases enable with
        | true => rfl
        | false => contradiction
  case activateChange c enable hc _ =>
      have hwritten : Batched info { s with mIsEnabled := enable } := by
        refine ⟨hs.sensorInfo, hs.requests, ?_⟩
        rintro (henabled | hother)
        · have htrue : enable = true := henabled
          apply hs.period (.inr ⟨c, ?_⟩)
          rw [hc, htrue]
          rfl
        · exact hs.period (.inr hother)
      exact hwritten.goto (by simp [SamplingCallerPc.requests])
        (by simp [SamplingCallerPc.enabling])
  case batchChange c p hc _ =>
      apply hs.goto
      · intro q hq
        apply hs.requests c q
        rw [hc]
        exact hq
      · simp [SamplingCallerPc.enabling]
  case batchWrite c p hc =>
      have hp : info.minDelay * 1000 ≤ p :=
        hs.requests c p (by rw [hc]; rfl)
      have hwritten : Batched info { s with mSamplingPeriodNs := p } :=
        ⟨hs.sensorInfo, hs.requests, fun _ => hp⟩
      exact hwritten.goto (by simp [SamplingCallerPc.requests])
        (by simp [SamplingCallerPc.enabling])
  case destroyStop c hc =>
      have hwritten : Batched info
          { s with mStopThread := true, mIsEnabled := false } := by
        refine ⟨hs.sensorInfo, hs.requests, ?_⟩
        rintro (henabled | hother)
        · contradiction
        · exact hs.period (.inr hother)
      exact hwritten.goto (by simp [SamplingCallerPc.requests])
        (by simp [SamplingCallerPc.enabling])
  case notify | batchNotify | destroyNotify =>
      exact hs.notifyAll.goto (by simp [SamplingCallerPc.requests])
        (by simp [SamplingCallerPc.enabling])
  all_goals first
    | exact ⟨hs.sensorInfo, hs.requests, hs.period⟩
    | exact Batched.goto ⟨hs.sensorInfo, hs.requests, hs.period⟩
        (by simp [SamplingCallerPc.requests])
        (by simp [SamplingCallerPc.enabling])

theorem initial_batched (info : SensorInfo) : (initial info).Batched info where
  sensorInfo := rfl
  requests := by
    intro c p hp
    simp [initial, SamplingCallerPc.requests] at hp
  period := by
    rintro (henabled | ⟨c, hc⟩)
    · contradiction
    · contradiction

/-- Sensors enabled after a `batch` are compared with a period that is not
below the least. -/
theorem comparedWith_of_afterBatch {info : SensorInfo}
    {as : List SamplingAction} (hfit : SensorsSubHal.DelaysFit info)
    (hbatch : machine.Along AfterBatch (initial info) as) :
    machine.Along (ComparedWith (info.minDelay * 1000)) (initial info) as := by
  have halways : machine.Always
      (fun s => machine.Reachable s ∧ s.Batched info) (initial info) as := by
    apply Machine.Along.always _ _ hbatch
    · intro s a t hs hok hstep
      exact ⟨.step hs.1 trivial hstep, hs.2.step hfit hok (step_cases hstep)⟩
    · exact ⟨.initial ⟨info, rfl⟩, initial_batched info⟩
  apply halways.along.mono
  intro s a hs
  cases a with
  | worker =>
      intro now hw
      have hactive := (reachable_knowsFlags hs.1).2 (by rw [hw]; rfl)
      simp only [active, Bool.and_eq_true] at hactive
      exact hs.2.period (.inl hactive.1.1)
  | _ => trivial

/-- However the clock is set and whatever calls arrive, a window of the clock
holds at most one sample more than there are periods in it: periods as short
as any the clock was compared with, and, where the sensor is enabled after a
`batch`, periods of the least delay. -/
theorem sample_rate (info : SensorInfo) (as : List SamplingAction)
    (t : SamplingSensor) (hrun : machine.run (initial info) as = some t) :
    (∀ p, 0 ≤ p → machine.Along (ComparedWith p) (initial info) as →
      ∀ a b, a ≤ b →
        (((t.sampleTimes.filter fun u => a ≤ u ∧ u ≤ b).length : ℤ) - 1) * p ≤
          b - a) ∧
    (SensorsSubHal.DelaysFit info → 0 ≤ info.minDelay →
      machine.Along AfterBatch (initial info) as →
      ∀ a b, a ≤ b →
        (((t.sampleTimes.filter fun u => a ≤ u ∧ u ≤ b).length : ℤ) - 1) *
            (info.minDelay * 1000) ≤ b - a) := by
  constructor
  · intro p hp hperiod a b hab
    exact (run_keepsDistance hperiod hrun).spaced.length_window hp hab
  · intro hfit hdelay hbatch a b hab
    have hperiod := comparedWith_of_afterBatch hfit hbatch
    have hspaced := (run_keepsDistance hperiod hrun).spaced
    exact hspaced.length_window (by linarith) hab

/-- A sensor with a least delay of 20 ms and a greatest of 200 ms. -/
def timedInfo : SensorInfo where
  sensorHandle := 1
  type := 1
  minDelay := 20000
  maxDelay := 200000
  flags := 0

/-- `batch` for 20 ms, then `activate`; the worker samples, and the clock is
set back by 5 ms before it looks again. -/
def timedRun : List SamplingAction :=
  [.call 0 (.batch 20000000), .caller 0, .caller 0, .caller 0,
    .call 0 (.activate true), .caller 0, .caller 0, .caller 0, .caller 0,
    .worker, .worker, .clock 100000000, .worker, .worker, .worker, .wakeUp,
    .worker, .worker, .clock 95000000, .worker, .worker, .wakeUp,
    .worker, .worker, .clock 120000000, .worker, .worker]

theorem timedInfo_fits : SensorsSubHal.DelaysFit timedInfo where
  ordered := by decide
  minFits := by decide
  maxFits := by decide

def checkAfterBatch (s : SamplingSensor) : SamplingAction → Bool
  | .call _ call =>
      call ≠ .activate true ||
        s.mSensorInfo.minDelay * 1000 ≤ s.mSamplingPeriodNs
  | _ => true

theorem afterBatch_of_check {s : SamplingSensor} {a : SamplingAction}
    (hcheck : s.checkAfterBatch a = true) : AfterBatch s a := by
  cases a with
  | call c call =>
      simp only [checkAfterBatch, Bool.or_eq_true, decide_eq_true_eq] at hcheck
      intro hcall
      exact hcheck.resolve_left fun hne => hne hcall
  | _ => trivial

theorem sample_rate_timedRun :
    ∃ t, machine.run (initial timedInfo) timedRun = some t ∧
      t.sampleTimes = [100000000, 120000000] ∧
      (((t.sampleTimes.filter
          fun u => 100000000 ≤ u ∧ u ≤ 120000000).length : ℤ) - 1) *
        (timedInfo.minDelay * 1000) ≤ 120000000 - 100000000 := by
  obtain ⟨t, hrun, hsamples⟩ :
      ∃ t, machine.run (initial timedInfo) timedRun = some t ∧
        t.sampleTimes = [100000000, 120000000] := ⟨_, rfl, rfl⟩
  have hbatch : machine.Along AfterBatch (initial timedInfo) timedRun :=
    Machine.along_of_check (fun _ _ => afterBatch_of_check) (by decide)
  exact ⟨t, hrun, hsamples, (sample_rate timedInfo timedRun t hrun).2
    timedInfo_fits (by decide) hbatch _ _ (by decide)⟩

end SamplingSensor

end Samurai
