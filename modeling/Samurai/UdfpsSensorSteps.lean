import Samurai.MutexOwnership
import Samurai.UdfpsSensorModel

/-!
# What one step of the sensor can do

`SensorStep` lists the steps of the sensor machine, one constructor for every
way a statement of the source can go, with its guard and its result.  All
invariants below are case analyses of it; none unfolds `step` again.

The first of them is the discipline of `mRunMutex`: a thread is between its
`lock` and its `unlock` if and only if the mutex records it as the owner.
-/

namespace Samurai

def WorkerPc.inside : WorkerPc → Bool
  | .check | .predicate | .unlock | .branch _ => true
  | _ => false

def CallerPc.inside : CallerPc → Bool
  | .activateTest _ | .activatePipe _ | .activateNotify _
  | .activateUnlock _ | .modeTest _ | .modeNotify _ | .modeUnlock _ _
  | .destroyStop | .destroyNotify | .destroyUnlock => true
  | _ => false

namespace UdfpsSensor

/-- The event of a finger: its coordinates, unless the destructor of the class
that reports them has ended. -/
def postedEvent (s : UdfpsSensor) (x y : ℤ) : PostedEvent where
  event :=
    { sensorHandle := s.mSensorInfo.sensorHandle
      sensorType := s.mSensorInfo.type
      data0 := if s.destructed then 0 else floatOf x
      data1 := if s.destructed then 0 else floatOf y }
  wakeup := s.isWakeUpSensor

inductive SensorStep (capacity : ℕ) :
    UdfpsSensor → SensorAction → UdfpsSensor → Prop
  | construct {s : UdfpsSensor} {pipeOk pollOk : Bool} :
      s.constructed = false →
      SensorStep capacity s (.construct pipeOk pollOk)
        { s with
          constructed := true
          pipeOpen := pipeOk
          mStopThread := s.mStopThread || !(pipeOk && pollOk) }
  | call {s : UdfpsSensor} {c : ℕ} {call : SensorCall} :
      s.constructed = true → s.caller c = .idle →
      SensorStep capacity s (.call c call) (s.goto c call.entry)
  | fpNotify {s : UdfpsSensor} {fp : FpState} :
      SensorStep capacity s (.fpNotify fp)
        { s with fpState := fp, fpNotified := true }
  | spuriousWake {s : UdfpsSensor} :
      s.worker = .waiting →
      SensorStep capacity s .spuriousWake { s with worker := .notified }
  | pollReturn {s : UdfpsSensor} {result : PollResult} :
      s.worker = .poll →
      (∀ pipe finger, result = .ready pipe finger →
        (pipe = true → 0 < s.unread) ∧
          (finger = true → s.fpNotified = true) ∧ (pipe || finger) = true) →
      SensorStep capacity s (.pollReturn result)
        { s with worker := .relock result }
  -- the worker
  | start {s : UdfpsSensor} :
      s.worker = .start → s.mRunMutex = none →
      SensorStep capacity s .worker
        { s with mRunMutex := some .worker, worker := .check }
  | stop {s : UdfpsSensor} :
      s.worker = .check → s.mStopThread = true →
      SensorStep capacity s .worker
        { s with mRunMutex := none, worker := .exited }
  | sleep {s : UdfpsSensor} :
      s.worker = .check → s.mStopThread = false → s.idle = true →
      SensorStep capacity s .worker { s with worker := .predicate }
  | watch {s : UdfpsSensor} :
      s.worker = .check → s.mStopThread = false → s.idle = false →
      SensorStep capacity s .worker { s with worker := .unlock }
  | proceed {s : UdfpsSensor} :
      s.worker = .predicate → s.waitPredicate = true →
      SensorStep capacity s .worker { s with worker := .check }
  | block {s : UdfpsSensor} :
      s.worker = .predicate → s.waitPredicate = false →
      SensorStep capacity s .worker
        { s with mRunMutex := none, worker := .waiting }
  | wake {s : UdfpsSensor} :
      s.worker = .notified → s.mRunMutex = none →
      SensorStep capacity s .worker
        { s with mRunMutex := some .worker, worker := .predicate }
  | unlock {s : UdfpsSensor} :
      s.worker = .unlock →
      SensorStep capacity s .worker
        { s with mRunMutex := none, worker := .poll }
  | relock {s : UdfpsSensor} {result : PollResult} :
      s.worker = .relock result → s.mRunMutex = none →
      SensorStep capacity s .worker
        { s with mRunMutex := some .worker, worker := .branch result }
  | pollFailed {s : UdfpsSensor} :
      s.worker = .branch .failed →
      SensorStep capacity s .worker
        { s with mStopThread := true, worker := .check }
  | post {s : UdfpsSensor} {pipe : Bool} {x y : ℤ} :
      s.worker = .branch (.ready pipe true) →
      readFpState s.fpState s.mScreenX s.mScreenY = (true, x, y) →
      SensorStep capacity s .worker
        { s with
          mIsEnabled := false
          fpNotified := s.fpNotified && !s.fpState.readable
          mScreenX := x
          mScreenY := y
          posted := s.posted ++ [s.postedEvent x y]
          worker := .check }
  | missFinger {s : UdfpsSensor} {pipe : Bool} {x y : ℤ} :
      s.worker = .branch (.ready pipe true) →
      readFpState s.fpState s.mScreenX s.mScreenY = (false, x, y) →
      (pipe = true → 0 < s.unread) →
      SensorStep capacity s .worker
        { s with
          fpNotified := s.fpNotified && !s.fpState.readable
          mScreenX := x
          mScreenY := y
          unread := s.unread - pipe.toNat
          worker := .check }
  | noFinger {s : UdfpsSensor} {pipe : Bool} :
      s.worker = .branch (.ready pipe false) → (pipe = true → 0 < s.unread) →
      SensorStep capacity s .worker
        { s with unread := s.unread - pipe.toNat, worker := .check }
  -- `activate`
  | activateLock {s : UdfpsSensor} {c : ℕ} {enable : Bool} :
      s.caller c = .activateLock enable → s.mRunMutex = none →
      SensorStep capacity s (.caller c)
        ({ s with mRunMutex := some (.caller c) }.goto c (.activateTest enable))
  | activateChange {s : UdfpsSensor} {c : ℕ} {enable : Bool} :
      s.caller c = .activateTest enable → s.mIsEnabled ≠ enable →
      SensorStep capacity s (.caller c)
        ({ s with mIsEnabled := enable }.goto c (.activatePipe enable))
  | activateSame {s : UdfpsSensor} {c : ℕ} {enable : Bool} :
      s.caller c = .activateTest enable → s.mIsEnabled = enable →
      SensorStep capacity s (.caller c) (s.goto c (.activateUnlock enable))
  | activatePipe {s : UdfpsSensor} {c : ℕ} {enable : Bool} :
      s.caller c = .activatePipe enable →
      (s.pipeOpen = true → s.unread < capacity) →
      SensorStep capacity s (.caller c)
        ({ s with unread := s.unread + s.pipeOpen.toNat }.goto c
          (.activateNotify enable))
  | activateNotify {s : UdfpsSensor} {c : ℕ} {enable : Bool} :
      s.caller c = .activateNotify enable →
      SensorStep capacity s (.caller c)
        (s.notifyAll.goto c (.activateUnlock enable))
  | activateUnlock {s : UdfpsSensor} {c : ℕ} {enable : Bool} :
      s.caller c = .activateUnlock enable →
      SensorStep capacity s (.caller c)
        ({ s with mRunMutex := none }.goto c .idle)
  -- `setOperationMode`
  | modeLock {s : UdfpsSensor} {c : ℕ} {mode : OperationMode} :
      s.caller c = .modeLock mode → s.mRunMutex = none →
      SensorStep capacity s (.caller c)
        ({ s with mRunMutex := some (.caller c) }.goto c (.modeTest mode))
  | modeChange {s : UdfpsSensor} {c : ℕ} {mode : OperationMode} :
      s.caller c = .modeTest mode → s.mMode ≠ mode →
      SensorStep capacity s (.caller c)
        ({ s with mMode := mode }.goto c (.modeNotify mode))
  | modeSame {s : UdfpsSensor} {c : ℕ} {mode : OperationMode} :
      s.caller c = .modeTest mode → s.mMode = mode →
      SensorStep capacity s (.caller c) (s.goto c (.modeUnlock mode false))
  | modeNotify {s : UdfpsSensor} {c : ℕ} {mode : OperationMode} :
      s.caller c = .modeNotify mode →
      SensorStep capacity s (.caller c)
        (s.notifyAll.goto c (.modeUnlock mode true))
  | modeUnlock {s : UdfpsSensor} {c : ℕ} {mode : OperationMode}
      {changed : Bool} :
      s.caller c = .modeUnlock mode changed →
      SensorStep capacity s (.caller c)
        ({ s with mRunMutex := none }.goto c (.modePipe mode changed))
  | modePipe {s : UdfpsSensor} {c : ℕ} {mode : OperationMode}
      {changed : Bool} :
      s.caller c = .modePipe mode changed →
      (s.pipeOpen = true → s.unread < capacity) →
      SensorStep capacity s (.caller c)
        ({ s with unread := s.unread + s.pipeOpen.toNat }.goto c .idle)
  -- the destructors
  | destroyPipe {s : UdfpsSensor} {c : ℕ} :
      s.caller c = .destroyPipe → (s.pipeOpen = true → s.unread < capacity) →
      SensorStep capacity s (.caller c)
        ({ s with
            unread := s.unread + s.pipeOpen.toNat
            destructed := true }.goto c .destroyLock)
  | destroyLock {s : UdfpsSensor} {c : ℕ} :
      s.caller c = .destroyLock → s.mRunMutex = none →
      SensorStep capacity s (.caller c)
        ({ s with mRunMutex := some (.caller c) }.goto c .destroyStop)
  | destroyStop {s : UdfpsSensor} {c : ℕ} :
      s.caller c = .destroyStop →
      SensorStep capacity s (.caller c)
        ({ s with mStopThread := true, mIsEnabled := false }.goto c
          .destroyNotify)
  | destroyNotify {s : UdfpsSensor} {c : ℕ} :
      s.caller c = .destroyNotify →
      SensorStep capacity s (.caller c) (s.notifyAll.goto c .destroyUnlock)
  | destroyUnlock {s : UdfpsSensor} {c : ℕ} :
      s.caller c = .destroyUnlock →
      SensorStep capacity s (.caller c)
        ({ s with mRunMutex := none }.goto c .destroyJoin)
  | destroyJoin {s : UdfpsSensor} {c : ℕ} :
      s.caller c = .destroyJoin → s.worker = .exited →
      SensorStep capacity s (.caller c) (s.goto c .destroyed)

variable {capacity : ℕ} {s t : UdfpsSensor} {a : SensorAction}

/-! ## Inversion of `step` -/

theorem lock_map_eq_some
    {thread : SensorThread} {f : UdfpsSensor → UdfpsSensor} :
    (s.lock thread).map f = some t ↔
      s.mRunMutex = none ∧ t = f { s with mRunMutex := some thread } := by
  unfold lock
  split_ifs with hfree
  · simp [hfree, eq_comm]
  · simp [hfree]

theorem interruptPoll_map_eq_some {f : UdfpsSensor → UdfpsSensor} :
    (s.interruptPoll capacity).map f = some t ↔
      (s.pipeOpen = true → s.unread < capacity) ∧
        t = f { s with unread := s.unread + s.pipeOpen.toNat } := by
  unfold interruptPoll
  by_cases hopen : s.pipeOpen = true
  · rw [if_pos hopen, hopen, Bool.toNat_true]
    split_ifs with hroom
    · simp [hroom, eq_comm]
    · simp [hroom]
  · have hbytes : s.unread + s.pipeOpen.toNat = s.unread := by
      simp [hopen]
    rw [if_neg hopen, hbytes, Option.map_some, Option.some.injEq]
    constructor
    · rintro rfl
      exact ⟨fun h => absurd h hopen, rfl⟩
    · rintro ⟨_, rfl⟩
      rfl

theorem drainPipe_map_eq_some
    {pipe : Bool} {f : UdfpsSensor → UdfpsSensor} :
    (s.drainPipe pipe).map f = some t ↔
      (pipe = true → 0 < s.unread) ∧
        t = f { s with unread := s.unread - pipe.toNat } := by
  unfold drainPipe
  cases pipe with
  | false =>
      simp [eq_comm]
  | true =>
      simp only [if_true, true_imp_iff, Bool.toNat_true]
      split_ifs with hbyte
      · simp [hbyte, eq_comm]
      · simp [hbyte]

theorem readEvents_eq (s : UdfpsSensor) :
    s.readEvents = [(s.postedEvent s.mScreenX s.mScreenY).event] := by
  unfold readEvents Sensor.readEvents postedEvent
  cases s.destructed with
  | false => rfl
  | true => rfl

private theorem branch_cases {result : PollResult}
    (hworker : s.worker = .branch result)
    (hstep : (s.branch result).map (fun s => { s with worker := .check }) =
      some t) :
    SensorStep capacity s .worker t := by
  cases result with
  | failed =>
      cases hstep
      exact .pollFailed hworker
  | ready pipe finger =>
      cases finger with
      | false =>
          simp only [branch, Bool.false_eq_true, if_false,
            drainPipe_map_eq_some] at hstep
          obtain ⟨hbyte, rfl⟩ := hstep
          exact .noFinger hworker hbyte
      | true =>
          rcases hread : readFpState s.fpState s.mScreenX s.mScreenY with
            ⟨found, x, y⟩
          cases found with
          | false =>
              simp only [branch, readNode, hread, if_true, Bool.false_eq_true,
                if_false, drainPipe_map_eq_some] at hstep
              obtain ⟨hbyte, rfl⟩ := hstep
              exact .missFinger hworker hread hbyte
          | true =>
              simp only [branch, readNode, hread, if_true, readEvents_eq] at hstep
              cases hstep
              exact .post hworker hread

private theorem workerStep_cases (hstep : s.workerStep = some t) :
    SensorStep capacity s .worker t := by
  unfold workerStep at hstep
  cases hworker : s.worker with
  | start =>
      rw [hworker, lock_map_eq_some] at hstep
      obtain ⟨hfree, rfl⟩ := hstep
      exact .start hworker hfree
  | check =>
      simp only [hworker] at hstep
      split_ifs at hstep with hstop hidle
      · cases hstep
        exact .stop hworker hstop
      · cases hstep
        exact .sleep hworker (by simpa using hstop) hidle
      · cases hstep
        exact .watch hworker (by simpa using hstop) (by simpa using hidle)
  | predicate =>
      simp only [hworker] at hstep
      split_ifs at hstep with hpredicate
      · cases hstep
        exact .proceed hworker hpredicate
      · cases hstep
        exact .block hworker (by simpa using hpredicate)
  | waiting => simp [hworker] at hstep
  | notified =>
      rw [hworker, lock_map_eq_some] at hstep
      obtain ⟨hfree, rfl⟩ := hstep
      exact .wake hworker hfree
  | unlock =>
      simp only [hworker] at hstep
      cases hstep
      exact .unlock hworker
  | poll => simp [hworker] at hstep
  | relock result =>
      simp only [hworker, lock_map_eq_some] at hstep
      obtain ⟨hfree, rfl⟩ := hstep
      exact .relock hworker hfree
  | branch result =>
      rw [hworker] at hstep
      exact branch_cases hworker hstep
  | exited => simp [hworker] at hstep

private theorem callerStep_cases {c : ℕ}
    (hstep : s.callerStep capacity c = some t) :
    SensorStep capacity s (.caller c) t := by
  unfold callerStep at hstep
  cases hcaller : s.caller c with
  | idle => simp [hcaller] at hstep
  | activateLock enable =>
      rw [hcaller, lock_map_eq_some] at hstep
      obtain ⟨hfree, rfl⟩ := hstep
      exact .activateLock hcaller hfree
  | activateTest enable =>
      simp only [hcaller] at hstep
      split_ifs at hstep with hchange
      · cases hstep
        exact .activateChange hcaller hchange
      · cases hstep
        exact .activateSame hcaller (not_not.mp hchange)
  | activatePipe enable =>
      rw [hcaller, interruptPoll_map_eq_some] at hstep
      obtain ⟨hroom, rfl⟩ := hstep
      exact .activatePipe hcaller hroom
  | activateNotify enable =>
      simp only [hcaller] at hstep
      cases hstep
      exact .activateNotify hcaller
  | activateUnlock enable =>
      simp only [hcaller] at hstep
      cases hstep
      exact .activateUnlock hcaller
  | modeLock mode =>
      rw [hcaller, lock_map_eq_some] at hstep
      obtain ⟨hfree, rfl⟩ := hstep
      exact .modeLock hcaller hfree
  | modeTest mode =>
      simp only [hcaller] at hstep
      split_ifs at hstep with hchange
      · cases hstep
        exact .modeChange hcaller hchange
      · cases hstep
        exact .modeSame hcaller (not_not.mp hchange)
  | modeNotify mode =>
      simp only [hcaller] at hstep
      cases hstep
      exact .modeNotify hcaller
  | modeUnlock mode changed =>
      simp only [hcaller] at hstep
      cases hstep
      exact .modeUnlock hcaller
  | modePipe mode changed =>
      rw [hcaller, interruptPoll_map_eq_some] at hstep
      obtain ⟨hroom, rfl⟩ := hstep
      exact .modePipe hcaller hroom
  | destroyPipe =>
      rw [hcaller, interruptPoll_map_eq_some] at hstep
      obtain ⟨hroom, rfl⟩ := hstep
      exact .destroyPipe hcaller hroom
  | destroyLock =>
      rw [hcaller, lock_map_eq_some] at hstep
      obtain ⟨hfree, rfl⟩ := hstep
      exact .destroyLock hcaller hfree
  | destroyStop =>
      simp only [hcaller] at hstep
      cases hstep
      exact .destroyStop hcaller
  | destroyNotify =>
      simp only [hcaller] at hstep
      cases hstep
      exact .destroyNotify hcaller
  | destroyUnlock =>
      simp only [hcaller] at hstep
      cases hstep
      exact .destroyUnlock hcaller
  | destroyJoin =>
      simp only [hcaller] at hstep
      split_ifs at hstep with hexited
      cases hstep
      exact .destroyJoin hcaller hexited
  | destroyed => simp [hcaller] at hstep

private theorem pollReturn_cases {result : PollResult}
    (hstep : s.pollReturn result = some t) :
    SensorStep capacity s (.pollReturn result) t := by
  unfold pollReturn at hstep
  split_ifs at hstep with hworker
  cases result with
  | failed =>
      cases hstep
      exact .pollReturn hworker (by simp)
  | ready pipe finger =>
      simp only at hstep
      split_ifs at hstep with hready
      cases hstep
      apply SensorStep.pollReturn hworker
      intro pipe' finger' heq
      cases heq
      exact hready

theorem step_cases (hstep : (machine capacity).step s a = some t) :
    SensorStep capacity s a t := by
  cases a with
  | construct pipeOk pollOk =>
      simp only [machine, step, construct] at hstep
      split_ifs at hstep with hdone
      cases hstep
      exact .construct (by simpa using hdone)
  | call c call =>
      simp only [machine, step, UdfpsSensor.call] at hstep
      split_ifs at hstep with hready
      cases hstep
      exact .call hready.1 hready.2
  | caller c => exact callerStep_cases hstep
  | worker => exact workerStep_cases hstep
  | pollReturn result => exact pollReturn_cases hstep
  | spuriousWake =>
      simp only [machine, step] at hstep
      split_ifs at hstep with hwaiting
      cases hstep
      exact .spuriousWake hwaiting
  | fpNotify fp =>
      cases hstep
      exact .fpNotify

theorem step_post {pipe : Bool} {x y : ℤ}
    (hworker : s.worker = .branch (.ready pipe true))
    (hread : readFpState s.fpState s.mScreenX s.mScreenY = (true, x, y)) :
    (machine capacity).step s .worker =
      some { s with
        mIsEnabled := false
        fpNotified := s.fpNotified && !s.fpState.readable
        mScreenX := x
        mScreenY := y
        posted := s.posted ++ [s.postedEvent x y]
        worker := .check } := by
  simp only [machine, step, workerStep, hworker, branch, readNode, hread,
    if_true, readEvents_eq]
  rfl

/-! ## The discipline of `mRunMutex` -/

/-- The thread is between its `lock` and its `unlock` of `mRunMutex`. -/
def inside (s : UdfpsSensor) : SensorThread → Prop
  | .worker => s.worker.inside = true
  | .caller c => (s.caller c).inside = true

def Disciplined (s : UdfpsSensor) : Prop :=
  Owned s.mRunMutex s.inside

@[simp] theorem notifyAll_caller : s.notifyAll.caller = s.caller := rfl

@[simp] theorem goto_caller_self {c : ℕ} {pc : CallerPc} :
    (s.goto c pc).caller c = pc := by
  simp [goto]

theorem goto_caller_of_ne {c d : ℕ} {pc : CallerPc} (hne : d ≠ c) :
    (s.goto c pc).caller d = s.caller d := by
  simp [goto, Function.update_of_ne hne]

theorem inside_goto_of_ne {c : ℕ} {pc : CallerPc} {u : SensorThread}
    (hne : u ≠ .caller c) : (s.goto c pc).inside u ↔ s.inside u := by
  cases u with
  | worker => rfl
  | caller d =>
      have hd : d ≠ c := by
        rintro rfl
        exact hne rfl
      simp only [inside, goto_caller_of_ne hd]

theorem inside_worker_of_ne {pc : WorkerPc} {u : SensorThread}
    (hne : u ≠ .worker) : { s with worker := pc }.inside u ↔ s.inside u := by
  cases u with
  | worker => exact absurd rfl hne
  | caller d => rfl

theorem Disciplined.goto {c : ℕ} {pc : CallerPc} (hs : s.Disciplined)
    (hside : pc.inside = (s.caller c).inside) :
    (s.goto c pc).Disciplined := by
  apply Owned.congr hs
  intro u
  by_cases hu : u = .caller c
  · subst hu
    simp [inside, hside]
  · exact inside_goto_of_ne hu

theorem Disciplined.gotoLock {c : ℕ} {pc : CallerPc} (hs : s.Disciplined)
    (hfree : s.mRunMutex = none) (hin : pc.inside = true) :
    ({ s with mRunMutex := some (.caller c) }.goto c pc).Disciplined := by
  have hnone : Owned none s.inside := hfree ▸ hs
  exact hnone.acquire (by simpa [inside] using hin)
    fun u hu => inside_goto_of_ne hu

theorem Disciplined.gotoUnlock {c : ℕ} {pc : CallerPc} (hs : s.Disciplined)
    (hin : (s.caller c).inside = true) (hout : pc.inside = false) :
    ({ s with mRunMutex := none }.goto c pc).Disciplined := by
  have howner : s.mRunMutex = some (.caller c) := hs.eq_some hin
  have hsome : Owned (some (.caller c)) s.inside := howner ▸ hs
  exact hsome.release (by simp [inside, hout])
    fun u hu => inside_goto_of_ne hu

theorem Disciplined.worker {pc : WorkerPc} (hs : s.Disciplined)
    (hside : pc.inside = s.worker.inside) :
    { s with worker := pc }.Disciplined := by
  apply Owned.congr hs
  intro u
  by_cases hu : u = .worker
  · subst hu
    simp [inside, hside]
  · exact inside_worker_of_ne hu

theorem Disciplined.workerLock {pc : WorkerPc} (hs : s.Disciplined)
    (hfree : s.mRunMutex = none) (hin : pc.inside = true) :
    { s with mRunMutex := some .worker, worker := pc }.Disciplined := by
  have hnone : Owned none s.inside := hfree ▸ hs
  exact hnone.acquire (by simpa [inside] using hin)
    fun u hu => inside_worker_of_ne hu

theorem Disciplined.workerUnlock {pc : WorkerPc} (hs : s.Disciplined)
    (hin : s.worker.inside = true) (hout : pc.inside = false) :
    { s with mRunMutex := none, worker := pc }.Disciplined := by
  have howner : s.mRunMutex = some .worker := hs.eq_some hin
  have hsome : Owned (some .worker) s.inside := howner ▸ hs
  exact hsome.release (by simp [inside, hout])
    fun u hu => inside_worker_of_ne hu

theorem Disciplined.notifyAll (hs : s.Disciplined) :
    s.notifyAll.Disciplined := by
  apply Disciplined.worker hs
  split_ifs with hwaiting
  · rw [hwaiting]
    rfl
  · rfl

theorem Disciplined.step
    (hs : s.Disciplined) (hstep : SensorStep capacity s a t) :
    t.Disciplined := by
  cases hstep with
  | construct _ => exact hs
  | @call _ call _ hidle =>
      apply hs.goto
      rw [hidle]
      cases call <;> rfl
  | fpNotify => exact hs
  | spuriousWake hw => exact hs.worker (by rw [hw]; rfl)
  | pollReturn hw _ => exact hs.worker (by rw [hw]; rfl)
  | start _ hfree => exact hs.workerLock hfree rfl
  | stop hw _ => exact hs.workerUnlock (by rw [hw]; rfl) rfl
  | sleep hw _ _ => exact hs.worker (by rw [hw]; rfl)
  | watch hw _ _ => exact hs.worker (by rw [hw]; rfl)
  | proceed hw _ => exact hs.worker (by rw [hw]; rfl)
  | block hw _ => exact hs.workerUnlock (by rw [hw]; rfl) rfl
  | wake _ hfree => exact hs.workerLock hfree rfl
  | unlock hw => exact hs.workerUnlock (by rw [hw]; rfl) rfl
  | relock _ hfree => exact hs.workerLock hfree rfl
  | pollFailed hw =>
      have hside : WorkerPc.check.inside = s.worker.inside := by
        rw [hw]
        rfl
      exact hs.worker hside
  | post hw _ =>
      have hside : WorkerPc.check.inside = s.worker.inside := by
        rw [hw]
        rfl
      exact hs.worker hside
  | missFinger hw _ _ =>
      have hside : WorkerPc.check.inside = s.worker.inside := by
        rw [hw]
        rfl
      exact hs.worker hside
  | noFinger hw _ =>
      have hside : WorkerPc.check.inside = s.worker.inside := by
        rw [hw]
        rfl
      exact hs.worker hside
  | activateLock _ hfree => exact hs.gotoLock hfree rfl
  | activateChange hc _ => exact hs.goto (by rw [hc]; rfl)
  | activateSame hc _ => exact hs.goto (by rw [hc]; rfl)
  | activatePipe hc _ => exact hs.goto (by rw [hc]; rfl)
  | activateNotify hc => exact hs.notifyAll.goto (by rw [notifyAll_caller, hc]; rfl)
  | activateUnlock hc => exact hs.gotoUnlock (by rw [hc]; rfl) rfl
  | modeLock _ hfree => exact hs.gotoLock hfree rfl
  | modeChange hc _ => exact hs.goto (by rw [hc]; rfl)
  | modeSame hc _ => exact hs.goto (by rw [hc]; rfl)
  | modeNotify hc => exact hs.notifyAll.goto (by rw [notifyAll_caller, hc]; rfl)
  | modeUnlock hc => exact hs.gotoUnlock (by rw [hc]; rfl) rfl
  | modePipe hc _ => exact hs.goto (by rw [hc]; rfl)
  | destroyPipe hc _ => exact hs.goto (by rw [hc]; rfl)
  | destroyLock _ hfree => exact hs.gotoLock hfree rfl
  | destroyStop hc => exact hs.goto (by rw [hc]; rfl)
  | destroyNotify hc => exact hs.notifyAll.goto (by rw [notifyAll_caller, hc]; rfl)
  | destroyUnlock hc => exact hs.gotoUnlock (by rw [hc]; rfl) rfl
  | destroyJoin hc _ => exact hs.goto (by rw [hc]; rfl)

theorem initial_disciplined {handle x y : ℤ} {fp : FpState} :
    (initial handle fp x y).Disciplined := by
  intro thread
  cases thread <;> simp [inside, initial, WorkerPc.inside, CallerPc.inside]

theorem reachable_disciplined {P : UdfpsSensor → SensorAction → Prop}
    (hs : (machine capacity).ReachableUnder P s) : s.Disciplined := by
  apply Machine.ReachableUnder.invariant _ _ hs
  · intro s hs
    rcases hs with ⟨handle, fp, x, y, rfl⟩
    exact initial_disciplined
  · intro s a t _ hdisc _ hstep
    exact hdisc.step (step_cases hstep)

end UdfpsSensor

end Samurai
