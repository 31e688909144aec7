import Samurai.MutexOwnership
import Samurai.SensorSamplingModel

/-!
# What one step of a sampling sensor can do

`SamplingStep` lists the steps of the machine, one constructor for every way a
statement of the source can go.  The first invariants read off it are the
discipline of `mRunMutex` and what the worker knows of the flags while it
holds the mutex: between the test of the flags and the wait they do not
change.
-/

namespace Samurai

def SamplingPc.inside : SamplingPc → Bool
  | .check | .predicate | .readClock | .compare _ | .post _
  | .waitFor _ _ => true
  | _ => false

def SamplingCallerPc.inside : SamplingCallerPc → Bool
  | .activateTest _ | .modeTest _ | .notify | .unlock | .destroyStop
  | .destroyNotify | .destroyUnlock => true
  | _ => false

/-- The worker has tested the flags and not yet let the mutex go. -/
def SamplingPc.sampling : SamplingPc → Bool
  | .readClock | .compare _ | .post _ | .waitFor _ _ => true
  | _ => false

namespace SamplingSensor

inductive SamplingStep :
    SamplingSensor → SamplingAction → SamplingSensor → Prop
  | call {s : SamplingSensor} {c : ℕ} {call : SamplingCall} :
      s.caller c = .idle →
      SamplingStep s (.call c call) (s.goto c (entry s.mSensorInfo call))
  | clock {s : SamplingSensor} {now : ℤ} :
      s.worker = .readClock →
      SamplingStep s (.clock now) (s.atRun (.compare now))
  | wakeWaiting {s : SamplingSensor} :
      s.worker = .waiting → SamplingStep s .wakeUp (s.atRun .notified)
  | wakeTimed {s : SamplingSensor} {nextSampleTime now : ℤ} :
      s.worker = .timedWaiting nextSampleTime now →
      SamplingStep s .wakeUp (s.atRun .timedNotified)
  -- the worker
  | start {s : SamplingSensor} :
      s.worker = .start → s.mRunMutex = none →
      SamplingStep s .worker
        ({ s with mRunMutex := some .worker }.atRun .check)
  | stop {s : SamplingSensor} :
      s.worker = .check → s.mStopThread = true →
      SamplingStep s .worker ({ s with mRunMutex := none }.atRun .exited)
  | sleep {s : SamplingSensor} :
      s.worker = .check → s.mStopThread = false → s.idle = true →
      SamplingStep s .worker (s.atRun .predicate)
  | active {s : SamplingSensor} :
      s.worker = .check → s.mStopThread = false → s.idle = false →
      SamplingStep s .worker (s.atRun .readClock)
  | proceed {s : SamplingSensor} :
      s.worker = .predicate → s.waitPredicate = true →
      SamplingStep s .worker (s.atRun .check)
  | block {s : SamplingSensor} :
      s.worker = .predicate → s.waitPredicate = false →
      SamplingStep s .worker ({ s with mRunMutex := none }.atRun .waiting)
  | wake {s : SamplingSensor} :
      s.worker = .notified → s.mRunMutex = none →
      SamplingStep s .worker
        ({ s with mRunMutex := some .worker }.atRun .predicate)
  | due {s : SamplingSensor} {now : ℤ} :
      s.worker = .compare now →
      s.mLastSampleTimeNs + s.mSamplingPeriodNs ≤ now →
      SamplingStep s .worker
        ({ s with mLastSampleTimeNs := now }.atRun (.post now))
  | notDue {s : SamplingSensor} {now : ℤ} :
      s.worker = .compare now →
      now < s.mLastSampleTimeNs + s.mSamplingPeriodNs →
      SamplingStep s .worker
        (s.atRun
          (.waitFor (s.mLastSampleTimeNs + s.mSamplingPeriodNs) now))
  | post {s : SamplingSensor} {now : ℤ} :
      s.worker = .post now → SamplingStep s .worker (s.post now)
  | doze {s : SamplingSensor} {nextSampleTime now : ℤ} :
      s.worker = .waitFor nextSampleTime now →
      SamplingStep s .worker
        ({ s with mRunMutex := none }.atRun (.timedWaiting nextSampleTime now))
  | resume {s : SamplingSensor} :
      s.worker = .timedNotified → s.mRunMutex = none →
      SamplingStep s .worker
        ({ s with mRunMutex := some .worker }.atRun .check)
  -- `activate` and `setOperationMode`
  | activateLock {s : SamplingSensor} {c : ℕ} {enable : Bool} :
      s.caller c = .activateLock enable → s.mRunMutex = none →
      SamplingStep s (.caller c)
        ({ s with mRunMutex := some (.caller c) }.goto c (.activateTest enable))
  | activateChange {s : SamplingSensor} {c : ℕ} {enable : Bool} :
      s.caller c = .activateTest enable → s.mIsEnabled ≠ enable →
      SamplingStep s (.caller c)
        ({ s with mIsEnabled := enable }.goto c .notify)
  | activateSame {s : SamplingSensor} {c : ℕ} {enable : Bool} :
      s.caller c = .activateTest enable → s.mIsEnabled = enable →
      SamplingStep s (.caller c) (s.goto c .unlock)
  | modeLock {s : SamplingSensor} {c : ℕ} {mode : OperationMode} :
      s.caller c = .modeLock mode → s.mRunMutex = none →
      SamplingStep s (.caller c)
        ({ s with mRunMutex := some (.caller c) }.goto c (.modeTest mode))
  | modeChange {s : SamplingSensor} {c : ℕ} {mode : OperationMode} :
      s.caller c = .modeTest mode → s.mMode ≠ mode →
      SamplingStep s (.caller c) ({ s with mMode := mode }.goto c .notify)
  | modeSame {s : SamplingSensor} {c : ℕ} {mode : OperationMode} :
      s.caller c = .modeTest mode → s.mMode = mode →
      SamplingStep s (.caller c) (s.goto c .unlock)
  | notify {s : SamplingSensor} {c : ℕ} :
      s.caller c = .notify →
      SamplingStep s (.caller c) (s.notifyAll.goto c .unlock)
  | unlock {s : SamplingSensor} {c : ℕ} :
      s.caller c = .unlock →
      SamplingStep s (.caller c) ({ s with mRunMutex := none }.goto c .idle)
  -- `batch` and `flush`
  | batchChange {s : SamplingSensor} {c : ℕ} {samplingPeriodNs : ℤ} :
      s.caller c = .batchTest samplingPeriodNs →
      s.mSamplingPeriodNs ≠ samplingPeriodNs →
      SamplingStep s (.caller c) (s.goto c (.batchWrite samplingPeriodNs))
  | batchSame {s : SamplingSensor} {c : ℕ} {samplingPeriodNs : ℤ} :
      s.caller c = .batchTest samplingPeriodNs →
      s.mSamplingPeriodNs = samplingPeriodNs →
      SamplingStep s (.caller c) (s.goto c .idle)
  | batchWrite {s : SamplingSensor} {c : ℕ} {samplingPeriodNs : ℤ} :
      s.caller c = .batchWrite samplingPeriodNs →
      SamplingStep s (.caller c)
        ({ s with mSamplingPeriodNs := samplingPeriodNs }.goto c .batchNotify)
  | batchNotify {s : SamplingSensor} {c : ℕ} :
      s.caller c = .batchNotify →
      SamplingStep s (.caller c) (s.notifyAll.goto c .idle)
  | flushEnabled {s : SamplingSensor} {c : ℕ} :
      s.caller c = .flushTest → s.mIsEnabled = true →
      SamplingStep s (.caller c) (s.goto c .flushPost)
  | flushDisabled {s : SamplingSensor} {c : ℕ} :
      s.caller c = .flushTest → s.mIsEnabled = false →
      SamplingStep s (.caller c) (s.goto c .idle)
  | flushPost {s : SamplingSensor} {c : ℕ} :
      s.caller c = .flushPost →
      SamplingStep s (.caller c) ((s.postEvents s.flushComplete).goto c .idle)
  -- the destructor
  | destroyLock {s : SamplingSensor} {c : ℕ} :
      s.caller c = .destroyLock → s.mRunMutex = none →
      SamplingStep s (.caller c)
        ({ s with mRunMutex := some (.caller c) }.goto c .destroyStop)
  | destroyStop {s : SamplingSensor} {c : ℕ} :
      s.caller c = .destroyStop →
      SamplingStep s (.caller c)
        ({ s with mStopThread := true, mIsEnabled := false }.goto c
          .destroyNotify)
  | destroyNotify {s : SamplingSensor} {c : ℕ} :
      s.caller c = .destroyNotify →
      SamplingStep s (.caller c) (s.notifyAll.goto c .destroyUnlock)
  | destroyUnlock {s : SamplingSensor} {c : ℕ} :
      s.caller c = .destroyUnlock →
      SamplingStep s (.caller c)
        ({ s with mRunMutex := none }.goto c .destroyJoin)
  | destroyJoin {s : SamplingSensor} {c : ℕ} :
      s.caller c = .destroyJoin → s.worker = .exited →
      SamplingStep s (.caller c) (s.goto c .destroyed)

variable {s t : SamplingSensor} {a : SamplingAction}

/-! ## Inversion of `step` -/

theorem lock_map_eq_some {thread : SensorThread}
    {f : SamplingSensor → SamplingSensor} :
    (s.lock thread).map f = some t ↔
      s.mRunMutex = none ∧ t = f { s with mRunMutex := some thread } := by
  unfold lock
  split_ifs with hfree
  · simp [hfree, eq_comm]
  · simp [hfree]

private theorem samplingWorker_cases (hstep : s.workerStep = some t) :
    SamplingStep s .worker t := by
  unfold workerStep at hstep
  cases hworker : s.worker with
  | start =>
      rw [hworker, lock_map_eq_some] at hstep
      obtain ⟨hfree, rfl⟩ := hstep
      exact .start hworker hfree
  | check =>
      simp only [hworker] at hstep
      split_ifs at hstep with hstop hidle
      · cases hstep
        exact .stop hworker hstop
      · cases hstep
        exact .sleep hworker (by simpa using hstop) hidle
      · cases hstep
        exact .active hworker (by simpa using hstop) (by simpa using hidle)
  | predicate =>
      simp only [hworker] at hstep
      split_ifs at hstep with hpredicate
      · cases hstep
        exact .proceed hworker hpredicate
      · cases hstep
        exact .block hworker (by simpa using hpredicate)
  | notified =>
      rw [hworker, lock_map_eq_some] at hstep
      obtain ⟨hfree, rfl⟩ := hstep
      exact .wake hworker hfree
  | compare now =>
      simp only [hworker, compare, Option.some.injEq] at hstep
      split_ifs at hstep with hdue
      · cases hstep
        exact .due hworker hdue
      · cases hstep
        exact .notDue hworker (not_le.mp hdue)
  | post now =>
      simp only [hworker] at hstep
      cases hstep
      exact .post hworker
  | waitFor nextSampleTime now =>
      simp only [hworker] at hstep
      cases hstep
      exact .doze hworker
  | timedNotified =>
      rw [hworker, lock_map_eq_some] at hstep
      obtain ⟨hfree, rfl⟩ := hstep
      exact .resume hworker hfree
  | waiting => simp [hworker] at hstep
  | readClock => simp [hworker] at hstep
  | timedWaiting nextSampleTime now => simp [hworker] at hstep
  | exited => simp [hworker] at hstep

private theorem samplingCaller_cases {c : ℕ}
    (hstep : s.callerStep c = some t) : SamplingStep s (.caller c) t := by
  unfold callerStep at hstep
  cases hcaller : s.caller c with
  | idle => simp [hcaller] at hstep
  | activateLock enable =>
      rw [hcaller, lock_map_eq_some] at hstep
      obtain ⟨hfree, rfl⟩ := hstep
      exact .activateLock hcaller hfree
  | activateTest enable =>
      simp only [hcaller] at hstep
      split_ifs at hstep with hchange
      · cases hstep
        exact .activateChange hcaller hchange
      · cases hstep
        exact .activateSame hcaller (not_not.mp hchange)
  | modeLock mode =>
      rw [hcaller, lock_map_eq_some] at hstep
      obtain ⟨hfree, rfl⟩ := hstep
      exact .modeLock hcaller hfree
  | modeTest mode =>
      simp only [hcaller] at hstep
      split_ifs at hstep with hchange
      · cases hstep
        exact .modeChange hcaller hchange
      · cases hstep
        exact .modeSame hcaller (not_not.mp hchange)
  | notify =>
      simp only [hcaller] at hstep
      cases hstep
      exact .notify hcaller
  | unlock =>
      simp only [hcaller] at hstep
      cases hstep
      exact .unlock hcaller
  | batchTest samplingPeriodNs =>
      simp only [hcaller] at hstep
      split_ifs at hstep with hchange
      · cases hstep
        exact .batchChange hcaller hchange
      · cases hstep
        exact .batchSame hcaller (not_not.mp hchange)
  | batchWrite samplingPeriodNs =>
      simp only [hcaller] at hstep
      cases hstep
      exact .batchWrite hcaller
  | batchNotify =>
      simp only [hcaller] at hstep
      cases hstep
      exact .batchNotify hcaller
  | flushTest =>
      simp only [hcaller] at hstep
      split_ifs at hstep with henabled
      · cases hstep
        exact .flushEnabled hcaller henabled
      · cases hstep
        exact .flushDisabled hcaller (by simpa using henabled)
  | flushPost =>
      simp only [hcaller] at hstep
      cases hstep
      exact .flushPost hcaller
  | destroyLock =>
      rw [hcaller, lock_map_eq_some] at hstep
      obtain ⟨hfree, rfl⟩ := hstep
      exact .destroyLock hcaller hfree
  | destroyStop =>
      simp only [hcaller] at hstep
      cases hstep
      exact .destroyStop hcaller
  | destroyNotify =>
      simp only [hcaller] at hstep
      cases hstep
      exact .destroyNotify hcaller
  | destroyUnlock =>
      simp only [hcaller] at hstep
      cases hstep
      exact .destroyUnlock hcaller
  | destroyJoin =>
      simp only [hcaller] at hstep
      split_ifs at hstep with hexited
      cases hstep
      exact .destroyJoin hcaller hexited
  | destroyed => simp [hcaller] at hstep

theorem step_cases (hstep : machine.step s a = some t) :
    SamplingStep s a t := by
  cases a with
  | call c call =>
      simp only [machine, step, SamplingSensor.call] at hstep
      split_ifs at hstep with hidle
      cases hstep
      exact .call hidle
  | caller c => exact samplingCaller_cases hstep
  | worker => exact samplingWorker_cases hstep
  | clock now =>
      simp only [machine, step, clock] at hstep
      split_ifs at hstep with hworker
      cases hstep
      exact .clock hworker
  | wakeUp =>
      simp only [machine, step, wakeUp] at hstep
      cases hworker : s.worker with
      | waiting =>
          simp only [hworker] at hstep
          cases hstep
          exact .wakeWaiting hworker
      | timedWaiting nextSampleTime now =>
          simp only [hworker] at hstep
          cases hstep
          exact .wakeTimed hworker
      | _ => simp [hworker] at hstep

/-! ## The primitives -/

@[simp] theorem goto_caller_self {c : ℕ} {pc : SamplingCallerPc} :
    (s.goto c pc).caller c = pc := by
  simp [goto]

theorem goto_caller_of_ne {c d : ℕ} {pc : SamplingCallerPc} (hne : d ≠ c) :
    (s.goto c pc).caller d = s.caller d := by
  simp [goto, Function.update_of_ne hne]

theorem notifyAll_eq (s : SamplingSensor) :
    s.notifyAll = { s with worker := s.notifyAll.worker } := by
  unfold notifyAll
  split <;> rfl

@[simp] theorem notifyAll_caller : s.notifyAll.caller = s.caller := by
  rw [notifyAll_eq]

@[simp] theorem notifyAll_mIsEnabled :
    s.notifyAll.mIsEnabled = s.mIsEnabled := by
  rw [notifyAll_eq]

@[simp] theorem notifyAll_mMode : s.notifyAll.mMode = s.mMode := by
  rw [notifyAll_eq]

@[simp] theorem notifyAll_mStopThread :
    s.notifyAll.mStopThread = s.mStopThread := by
  rw [notifyAll_eq]

@[simp] theorem notifyAll_mRunMutex :
    s.notifyAll.mRunMutex = s.mRunMutex := by
  rw [notifyAll_eq]

@[simp] theorem notifyAll_mSamplingPeriodNs :
    s.notifyAll.mSamplingPeriodNs = s.mSamplingPeriodNs := by
  rw [notifyAll_eq]

@[simp] theorem notifyAll_mLastSampleTimeNs :
    s.notifyAll.mLastSampleTimeNs = s.mLastSampleTimeNs := by
  rw [notifyAll_eq]

@[simp] theorem notifyAll_sampleTimes :
    s.notifyAll.sampleTimes = s.sampleTimes := by
  rw [notifyAll_eq]

theorem notifyAll_inside :
    s.notifyAll.worker.inside = s.worker.inside := by
  unfold notifyAll
  cases hworker : s.worker <;> simp [atRun, hworker, SamplingPc.inside]

/-! ## The discipline of `mRunMutex` -/

def inside (s : SamplingSensor) : SensorThread → Prop
  | .worker => s.worker.inside = true
  | .caller c => (s.caller c).inside = true

def Disciplined (s : SamplingSensor) : Prop :=
  Owned s.mRunMutex s.inside

theorem inside_goto_of_ne {c : ℕ} {pc : SamplingCallerPc} {u : SensorThread}
    (hne : u ≠ .caller c) : (s.goto c pc).inside u ↔ s.inside u := by
  cases u with
  | worker => rfl
  | caller d =>
      have hd : d ≠ c := by
        rintro rfl
        exact hne rfl
      simp only [inside, goto_caller_of_ne hd]

theorem inside_atRun_of_ne {pc : SamplingPc} {u : SensorThread}
    (hne : u ≠ .worker) : (s.atRun pc).inside u ↔ s.inside u := by
  cases u with
  | worker => exact absurd rfl hne
  | caller d => rfl

theorem Disciplined.goto {c : ℕ} {pc : SamplingCallerPc} (hs : s.Disciplined)
    (hside : pc.inside = (s.caller c).inside) :
    (s.goto c pc).Disciplined := by
  apply Owned.congr hs
  intro u
  by_cases hu : u = .caller c
  · subst hu
    simp [inside, hside]
  · exact inside_goto_of_ne hu

theorem Disciplined.gotoLock {c : ℕ} {pc : SamplingCallerPc}
    (hs : s.Disciplined) (hfree : s.mRunMutex = none)
    (hin : pc.inside = true) :
    ({ s with mRunMutex := some (.caller c) }.goto c pc).Disciplined := by
  have hnone : Owned none s.inside := hfree ▸ hs
  exact hnone.acquire (by simpa [inside] using hin)
    fun u hu => inside_goto_of_ne hu

theorem Disciplined.gotoUnlock {c : ℕ} {pc : SamplingCallerPc}
    (hs : s.Disciplined) (hin : (s.caller c).inside = true)
    (hout : pc.inside = false) :
    ({ s with mRunMutex := none }.goto c pc).Disciplined := by
  have howner : s.mRunMutex = some (.caller c) := hs.eq_some hin
  have hsome : Owned (some (.caller c)) s.inside := howner ▸ hs
  exact hsome.release (by simp [inside, hout])
    fun u hu => inside_goto_of_ne hu

theorem Disciplined.atRun {pc : SamplingPc} (hs : s.Disciplined)
    (hside : pc.inside = s.worker.inside) : (s.atRun pc).Disciplined := by
  apply Owned.congr hs
  intro u
  by_cases hu : u = .worker
  · subst hu
    simp [inside, SamplingSensor.atRun, hside]
  · exact inside_atRun_of_ne hu

theorem Disciplined.atRunLock {pc : SamplingPc} (hs : s.Disciplined)
    (hfree : s.mRunMutex = none) (hin : pc.inside = true) :
    ({ s with mRunMutex := some .worker }.atRun pc).Disciplined := by
  have hnone : Owned none s.inside := hfree ▸ hs
  exact hnone.acquire hin fun u hu => inside_atRun_of_ne hu

theorem Disciplined.atRunUnlock {pc : SamplingPc} (hs : s.Disciplined)
    (hin : s.worker.inside = true) (hout : pc.inside = false) :
    ({ s with mRunMutex := none }.atRun pc).Disciplined := by
  have howner : s.mRunMutex = some .worker := hs.eq_some hin
  have hsome : Owned (some .worker) s.inside := howner ▸ hs
  exact hsome.release (by simp [inside, SamplingSensor.atRun, hout])
    fun u hu => inside_atRun_of_ne hu

theorem Disciplined.notifyAll (hs : s.Disciplined) :
    s.notifyAll.Disciplined := by
  rw [notifyAll_eq]
  exact Disciplined.atRun hs notifyAll_inside

theorem Disciplined.step (hs : s.Disciplined) (hstep : SamplingStep s a t) :
    t.Disciplined := by
  cases hstep with
  | @call _ call hidle =>
      apply hs.goto
      rw [hidle]
      cases call <;> rfl
  | clock hw | wakeWaiting hw | wakeTimed hw =>
      exact hs.atRun (by rw [hw]; rfl)
  | start _ hfree | wake _ hfree | resume _ hfree =>
      exact hs.atRunLock hfree rfl
  | stop hw _ | block hw _ | doze hw =>
      exact hs.atRunUnlock (by rw [hw]; rfl) rfl
  | sleep hw _ _ | active hw _ _ | proceed hw _ | notDue hw _ =>
      exact hs.atRun (by rw [hw]; rfl)
  | @due now hw _ =>
      have hside : (SamplingPc.post now).inside = s.worker.inside := by
        rw [hw]
        rfl
      exact hs.atRun hside
  | @post now hw =>
      have hside : (SamplingPc.waitFor
          (s.mLastSampleTimeNs + s.mSamplingPeriodNs) now).inside =
            s.worker.inside := by
        rw [hw]
        rfl
      exact hs.atRun hside
  | activateLock _ hfree | modeLock _ hfree | destroyLock _ hfree =>
      exact hs.gotoLock hfree rfl
  | notify hc | batchNotify hc | destroyNotify hc =>
      exact hs.notifyAll.goto (by rw [notifyAll_caller, hc]; rfl)
  | unlock hc | destroyUnlock hc =>
      exact hs.gotoUnlock (by rw [hc]; rfl) rfl
  | activateChange hc _ | activateSame hc _ | modeChange hc _
  | modeSame hc _ | batchChange hc _ | batchSame hc _ | batchWrite hc
  | flushEnabled hc _ | flushDisabled hc _ | flushPost hc | destroyStop hc
  | destroyJoin hc _ => exact hs.goto (by rw [hc]; rfl)

theorem initial_disciplined {info : SensorInfo} :
    (initial info).Disciplined := by
  intro thread
  cases thread <;>
    simp [inside, initial, SamplingPc.inside, SamplingCallerPc.inside]

end SamplingSensor

end Samurai
