import Samurai.ClampedTruncation
import Samurai.UdfpsSensorModel

/-!
# A sensor that samples on a timer

`Sensor::run` is the loop of a sensor that is not one-shot: while the sensor
is enabled it reads the clock, posts a sample when one is due and waits for
the time of the next.  The mutex is held from the test of the flags to the
wait, but `batch` changes the period and notifies without it, and `flush`
looks at the flag without it.

Every statement that touches shared state is a step.  The clock is the one of
the wall, so a reading of it may be any number; the end of a timed wait and a
spurious wake-up are one action.
-/

namespace Samurai

/-- Where the worker is in `Sensor::run`, with its local variables. -/
inductive SamplingPc where
  | start
  | check
  | predicate
  | waiting
  | notified
  | readClock
  | compare (now : ℤ)
  | post (now : ℤ)
  | waitFor (nextSampleTime now : ℤ)
  | timedWaiting (nextSampleTime now : ℤ)
  | timedNotified
  | exited
  deriving DecidableEq, Repr

/-- Where a calling thread is.  `activate` and `setOperationMode` end alike,
in `notify` and `unlock`. -/
inductive SamplingCallerPc where
  | idle
  | activateLock (enable : Bool)
  | activateTest (enable : Bool)
  | modeLock (mode : OperationMode)
  | modeTest (mode : OperationMode)
  | notify
  | unlock
  | batchTest (samplingPeriodNs : ℤ)
  | batchWrite (samplingPeriodNs : ℤ)
  | batchNotify
  | flushTest
  | flushPost
  | destroyLock
  | destroyStop
  | destroyNotify
  | destroyUnlock
  | destroyJoin
  | destroyed
  deriving DecidableEq, Repr

/-- An object whose `run` is that of `Sensor`.  `sampleTimes` are the readings
of the clock at which a sample was posted. -/
structure SamplingSensor where
  mSensorInfo : SensorInfo
  mIsEnabled : Bool
  mMode : OperationMode
  mStopThread : Bool
  mRunMutex : Option SensorThread
  mSamplingPeriodNs : ℤ
  mLastSampleTimeNs : ℤ
  posted : List PostedEvent
  sampleTimes : List ℤ
  worker : SamplingPc
  caller : ℕ → SamplingCallerPc

inductive SamplingCall where
  | activate (enable : Bool)
  | setOperationMode (mode : OperationMode)
  | batch (samplingPeriodNs : Int32)
  | flush
  | destroy
  deriving DecidableEq

inductive SamplingAction where
  | call (thread : ℕ) (call : SamplingCall)
  | caller (thread : ℕ)
  | worker
  | clock (now : ℤ)
  | wakeUp
  deriving DecidableEq

/-- What `batch` makes of the period it is given. -/
def SensorInfo.clampPeriod (info : SensorInfo) (samplingPeriodNs : Int32) : ℤ :=
  (clamp samplingPeriodNs (Int32.ofInt info.minDelay * 1000)
    (Int32.ofInt info.maxDelay * 1000)).toInt

namespace SamplingSensor

def entry (info : SensorInfo) : SamplingCall → SamplingCallerPc
  | .activate enable => .activateLock enable
  | .setOperationMode mode => .modeLock mode
  | .batch samplingPeriodNs => .batchTest (info.clampPeriod samplingPeriodNs)
  | .flush => .flushTest
  | .destroy => .destroyLock

/-! ## Primitives -/

def lock (thread : SensorThread) (s : SamplingSensor) : Option SamplingSensor :=
  if s.mRunMutex = none then some { s with mRunMutex := some thread } else none

def unlock (s : SamplingSensor) : SamplingSensor :=
  { s with mRunMutex := none }

def goto (thread : ℕ) (pc : SamplingCallerPc) (s : SamplingSensor) :
    SamplingSensor :=
  { s with caller := Function.update s.caller thread pc }

def atRun (pc : SamplingPc) (s : SamplingSensor) : SamplingSensor :=
  { s with worker := pc }

def notifyAll (s : SamplingSensor) : SamplingSensor :=
  match s.worker with
  | .waiting => s.atRun .notified
  | .timedWaiting _ _ => s.atRun .timedNotified
  | _ => s

def isWakeUpSensor (s : SamplingSensor) : Bool :=
  s.mSensorInfo.flags &&& SensorFlagBits.wakeUp ≠ 0

def postEvents (events : List Event) (s : SamplingSensor) : SamplingSensor :=
  { s with
    posted := s.posted ++ events.map fun event => ⟨event, s.isWakeUpSensor⟩ }

/-- `Sensor::readEvents`. -/
def readEvents (s : SamplingSensor) : List Event :=
  [{ sensorHandle := s.mSensorInfo.sensorHandle
     sensorType := s.mSensorInfo.type
     data0 := 0
     data1 := 0 }]

/-- `META_DATA` is 0 and `META_DATA_FLUSH_COMPLETE` is 1. -/
def flushComplete (s : SamplingSensor) : List Event :=
  [{ sensorHandle := s.mSensorInfo.sensorHandle
     sensorType := 0
     data0 := 1
     data1 := 0 }]

/-! ## The worker -/

def idle (s : SamplingSensor) : Bool :=
  !s.mIsEnabled || s.mMode = .dataInjection

def waitPredicate (s : SamplingSensor) : Bool :=
  (s.mIsEnabled && s.mMode = .normal) || s.mStopThread

/-- The comparison of the clock with the time of the next sample. -/
def compare (now : ℤ) (s : SamplingSensor) : SamplingSensor :=
  let nextSampleTime := s.mLastSampleTimeNs + s.mSamplingPeriodNs
  if nextSampleTime ≤ now then
    { s with mLastSampleTimeNs := now, worker := .post now }
  else s.atRun (.waitFor nextSampleTime now)

/-- The period is read once more for the time of the next sample. -/
def post (now : ℤ) (s : SamplingSensor) : SamplingSensor :=
  let nextSampleTime := s.mLastSampleTimeNs + s.mSamplingPeriodNs
  let s := s.postEvents s.readEvents
  { s with
    sampleTimes := s.sampleTimes ++ [now]
    worker := .waitFor nextSampleTime now }

/-- One statement of `Sensor::run`; the clock is read by `clock`. -/
def workerStep (s : SamplingSensor) : Option SamplingSensor :=
  match s.worker with
  | .start => (s.lock .worker).map (atRun .check)
  | .check =>
      if s.mStopThread then some (s.unlock.atRun .exited)
      else if s.idle then some (s.atRun .predicate)
      else some (s.atRun .readClock)
  | .predicate =>
      if s.waitPredicate then some (s.atRun .check)
      else some (s.unlock.atRun .waiting)
  | .notified => (s.lock .worker).map (atRun .predicate)
  | .compare now => some (s.compare now)
  | .post now => some (s.post now)
  | .waitFor nextSampleTime now =>
      some (s.unlock.atRun (.timedWaiting nextSampleTime now))
  | .timedNotified => (s.lock .worker).map (atRun .check)
  | .waiting | .readClock | .timedWaiting _ _ | .exited => none

def clock (now : ℤ) (s : SamplingSensor) : Option SamplingSensor :=
  if s.worker = .readClock then some (s.atRun (.compare now)) else none

def wakeUp (s : SamplingSensor) : Option SamplingSensor :=
  match s.worker with
  | .waiting => some (s.atRun .notified)
  | .timedWaiting _ _ => some (s.atRun .timedNotified)
  | _ => none

/-! ## The callers -/

def callerStep (thread : ℕ) (s : SamplingSensor) : Option SamplingSensor :=
  match s.caller thread with
  | .idle => none
  | .activateLock enable =>
      (s.lock (.caller thread)).map (goto thread (.activateTest enable))
  | .activateTest enable =>
      if s.mIsEnabled ≠ enable then
        some ({ s with mIsEnabled := enable }.goto thread .notify)
      else some (s.goto thread .unlock)
  | .modeLock mode =>
      (s.lock (.caller thread)).map (goto thread (.modeTest mode))
  | .modeTest mode =>
      if s.mMode ≠ mode then some ({ s with mMode := mode }.goto thread .notify)
      else some (s.goto thread .unlock)
  | .notify => some (s.notifyAll.goto thread .unlock)
  | .unlock => some (s.unlock.goto thread .idle)
  | .batchTest samplingPeriodNs =>
      if s.mSamplingPeriodNs ≠ samplingPeriodNs then
        some (s.goto thread (.batchWrite samplingPeriodNs))
      else some (s.goto thread .idle)
  | .batchWrite samplingPeriodNs =>
      some ({ s with mSamplingPeriodNs := samplingPeriodNs }.goto thread
        .batchNotify)
  | .batchNotify => some (s.notifyAll.goto thread .idle)
  | .flushTest =>
      if s.mIsEnabled then some (s.goto thread .flushPost)
      else some (s.goto thread .idle)
  | .flushPost => some ((s.postEvents s.flushComplete).goto thread .idle)
  | .destroyLock => (s.lock (.caller thread)).map (goto thread .destroyStop)
  | .destroyStop =>
      some ({ s with mStopThread := true, mIsEnabled := false }.goto thread
        .destroyNotify)
  | .destroyNotify => some (s.notifyAll.goto thread .destroyUnlock)
  | .destroyUnlock => some (s.unlock.goto thread .destroyJoin)
  | .destroyJoin =>
      if s.worker = .exited then some (s.goto thread .destroyed) else none
  | .destroyed => none

/-! ## The machine -/

def call (thread : ℕ) (call : SamplingCall) (s : SamplingSensor) :
    Option SamplingSensor :=
  if s.caller thread = .idle then
    some (s.goto thread (entry s.mSensorInfo call))
  else none

def step (s : SamplingSensor) : SamplingAction → Option SamplingSensor
  | .call thread call => s.call thread call
  | .caller thread => s.callerStep thread
  | .worker => s.workerStep
  | .clock now => s.clock now
  | .wakeUp => s.wakeUp

/-- The object with what its constructors wrote to `mSensorInfo`. -/
def initial (info : SensorInfo) : SamplingSensor where
  mSensorInfo := info
  mIsEnabled := false
  mMode := .normal
  mStopThread := false
  mRunMutex := none
  mSamplingPeriodNs := 0
  mLastSampleTimeNs := 0
  posted := []
  sampleTimes := []
  worker := .start
  caller := fun _ => .idle

def machine : Machine SamplingSensor SamplingAction where
  Initial s := ∃ info, s = initial info
  step := step

end SamplingSensor

end Samurai
