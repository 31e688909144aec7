import Samurai.BinaryRounding
import Samurai.LabelledRuns

/-!
# The under-display fingerprint sensor

`UdfpsSensor` runs a worker thread next to the binder threads that call
`activate` and `setOperationMode`.  The two sides share two flags under
`mRunMutex`, a condition variable and a pipe whose bytes interrupt `poll`.

Every statement of the source that touches shared state is one step, so the
model has the interleavings of the source: the worker gives the mutex up
around `poll`, `activate` writes the pipe under the mutex, and
`setOperationMode` writes it afterwards.  The branch which follows `poll` runs
under the mutex and is one step.

The `fp_state` node is kept as what a read of it hands to `sscanf`: the
numbers it converts.  The pipe has a capacity, and a write to a full pipe
blocks.

The worker of this machine has called `run` after the constructor of
`UdfpsSensor` was entered, so that the call goes to `UdfpsSensor::run`; a call
that comes too early goes to `Sensor::run` for good.
-/

namespace Samurai

open BinaryRounding

inductive OperationMode where
  | normal
  | dataInjection
  deriving DecidableEq, Repr

structure SensorInfo where
  sensorHandle : ℤ
  type : ℤ
  minDelay : ℤ
  maxDelay : ℤ
  flags : ℕ
  deriving DecidableEq, Repr

namespace SensorFlagBits

def wakeUp : ℕ := 1
def oneShotMode : ℕ := 4
def dataInjection : ℕ := 0x10

end SensorFlagBits

def devicePrivateBase : ℤ := 0x10000

/-- `mSensorInfo` as the constructor of `Sensor` leaves it; `type` and
`minDelay` are not written there. -/
def Sensor.sensorInfo (sensorHandle : ℤ) : SensorInfo where
  sensorHandle := sensorHandle
  type := 0
  minDelay := 0
  maxDelay := 1000 * 1000
  flags := 0

def OneShotSensor.sensorInfo (sensorHandle : ℤ) : SensorInfo :=
  let info := Sensor.sensorInfo sensorHandle
  { info with
    minDelay := -1
    maxDelay := 0
    flags := info.flags ||| SensorFlagBits.oneShotMode }

def UdfpsSensor.sensorInfo (sensorHandle : ℤ) : SensorInfo :=
  let info := OneShotSensor.sensorInfo sensorHandle
  { info with
    type := devicePrivateBase + 1
    flags := info.flags ||| SensorFlagBits.wakeUp }

/-- `data0` and `data1` are the first two numbers of `u.data`, which are
`float`, as the rationals they are. -/
structure Event where
  sensorHandle : ℤ
  sensorType : ℤ
  data0 : ℚ
  data1 : ℚ
  deriving DecidableEq, Repr

/-- The conversion of an `int` to `float`. -/
def floatOf (n : ℤ) : ℚ :=
  rounded 24 n

structure PostedEvent where
  event : Event
  wakeup : Bool
  deriving DecidableEq, Repr

/-- What `fp_state` yields: whether the seek and the read succeed, and the
numbers `"%d,%d,%d"` converts, in order. -/
structure FpState where
  readable : Bool
  numbers : List ℤ
  deriving DecidableEq, Repr

/-- The result of `readFpState` and the two coordinates it leaves behind;
`sscanf` stores the numbers it converts even when it stops early. -/
def readFpState (fp : FpState) (screenX screenY : ℤ) : Bool × ℤ × ℤ :=
  if fp.readable then
    match fp.numbers with
    | [] => (false, screenX, screenY)
    | [x] => (false, x, screenY)
    | [x, y] => (false, x, y)
    | x :: y :: state :: _ => (decide (0 < state), x, y)
  else (false, screenX, screenY)

/-- The value of `poll` with the two descriptors that may be reported;
`pipe` and `finger` say that `revents` equals `events`. -/
inductive PollResult where
  | failed
  | ready (pipe finger : Bool)
  deriving DecidableEq, Repr

inductive WorkerPc where
  | start
  | check
  | predicate
  | waiting
  | notified
  | unlock
  | poll
  | relock (result : PollResult)
  | branch (result : PollResult)
  | exited
  deriving DecidableEq, Repr

/-- Where a calling thread is.  The `modeUnlock` and `modePipe` positions
remember whether `Sensor::setOperationMode` changed the mode. -/
inductive CallerPc where
  | idle
  | activateLock (enable : Bool)
  | activateTest (enable : Bool)
  | activatePipe (enable : Bool)
  | activateNotify (enable : Bool)
  | activateUnlock (enable : Bool)
  | modeLock (mode : OperationMode)
  | modeTest (mode : OperationMode)
  | modeNotify (mode : OperationMode)
  | modeUnlock (mode : OperationMode) (changed : Bool)
  | modePipe (mode : OperationMode) (changed : Bool)
  | destroyPipe
  | destroyLock
  | destroyStop
  | destroyNotify
  | destroyUnlock
  | destroyJoin
  | destroyed
  deriving DecidableEq, Repr

inductive SensorThread where
  | worker
  | caller (thread : ℕ)
  deriving DecidableEq, Repr

/-- The sensor object, its kernel nodes and the threads running on it.
`unread` counts the bytes in `mWaitPipeFd`; `fpNotified` says that `fp_state`
was notified since it was last read, and `destructed` that the body of
`~UdfpsSensor` has ended. -/
structure UdfpsSensor where
  mSensorInfo : SensorInfo
  mIsEnabled : Bool
  mMode : OperationMode
  mStopThread : Bool
  mRunMutex : Option SensorThread
  constructed : Bool
  destructed : Bool
  pipeOpen : Bool
  unread : ℕ
  fpState : FpState
  fpNotified : Bool
  mScreenX : ℤ
  mScreenY : ℤ
  posted : List PostedEvent
  worker : WorkerPc
  caller : ℕ → CallerPc

inductive SensorCall where
  | activate (enable : Bool)
  | setOperationMode (mode : OperationMode)
  | destroy
  deriving DecidableEq, Repr

def SensorCall.entry : SensorCall → CallerPc
  | .activate enable => .activateLock enable
  | .setOperationMode mode => .modeLock mode
  | .destroy => .destroyPipe

/-- Who moves: the constructor's body, a new call, a caller's next statement,
the worker's next statement, `poll` returning, a spurious wake-up, or the
kernel changing and notifying `fp_state`. -/
inductive SensorAction where
  | construct (pipeOk pollOk : Bool)
  | call (thread : ℕ) (call : SensorCall)
  | caller (thread : ℕ)
  | worker
  | pollReturn (result : PollResult)
  | spuriousWake
  | fpNotify (fp : FpState)
  deriving DecidableEq, Repr

/-- `Sensor::readEvents`. -/
def Sensor.readEvents (s : UdfpsSensor) : List Event :=
  [{ sensorHandle := s.mSensorInfo.sensorHandle
     sensorType := s.mSensorInfo.type
     data0 := 0
     data1 := 0 }]

namespace UdfpsSensor

/-! ## Primitives -/

def lock (thread : SensorThread) (s : UdfpsSensor) : Option UdfpsSensor :=
  if s.mRunMutex = none then some { s with mRunMutex := some thread } else none

def unlock (s : UdfpsSensor) : UdfpsSensor :=
  { s with mRunMutex := none }

def goto (thread : ℕ) (pc : CallerPc) (s : UdfpsSensor) : UdfpsSensor :=
  { s with caller := Function.update s.caller thread pc }

/-- `mWaitCV.notify_all()`: the worker is the only thread that waits. -/
def notifyAll (s : UdfpsSensor) : UdfpsSensor :=
  { s with worker := if s.worker = .waiting then .notified else s.worker }

def interruptPoll (capacity : ℕ) (s : UdfpsSensor) : Option UdfpsSensor :=
  if s.pipeOpen then
    if s.unread < capacity then some { s with unread := s.unread + 1 } else none
  else some s

def isWakeUpSensor (s : UdfpsSensor) : Bool :=
  s.mSensorInfo.flags &&& SensorFlagBits.wakeUp ≠ 0

/-- The virtual `readEvents`: once `~UdfpsSensor` has ended the object is a
`Sensor` that is being destroyed. -/
def readEvents (s : UdfpsSensor) : List Event :=
  if s.destructed then Sensor.readEvents s
  else
    [{ sensorHandle := s.mSensorInfo.sensorHandle
       sensorType := s.mSensorInfo.type
       data0 := floatOf s.mScreenX
       data1 := floatOf s.mScreenY }]

def postEvents (events : List Event) (wakeup : Bool) (s : UdfpsSensor) :
    UdfpsSensor :=
  { s with posted := s.posted ++ events.map fun event => ⟨event, wakeup⟩ }

/-! ## The worker -/

def idle (s : UdfpsSensor) : Bool :=
  !s.mIsEnabled || s.mMode = .dataInjection

def waitPredicate (s : UdfpsSensor) : Bool :=
  (s.mIsEnabled && s.mMode = .normal) || s.mStopThread

/-- `readFpState(mPollFd, mScreenX, mScreenY)`: reading the node also takes
its notification back. -/
def readNode (s : UdfpsSensor) : Bool × UdfpsSensor :=
  let (found, x, y) := readFpState s.fpState s.mScreenX s.mScreenY
  (found, { s with
    mScreenX := x
    mScreenY := y
    fpNotified := s.fpNotified && !s.fpState.readable })

/-- The `else if` of the branch: one byte is read when the pipe was reported.
A read of an empty pipe would block. -/
def drainPipe (pipe : Bool) (s : UdfpsSensor) : Option UdfpsSensor :=
  if pipe then
    if 0 < s.unread then some { s with unread := s.unread - 1 } else none
  else some s

def branch (result : PollResult) (s : UdfpsSensor) : Option UdfpsSensor :=
  match result with
  | .failed => some { s with mStopThread := true }
  | .ready pipe finger =>
      if finger then
        let (found, s) := s.readNode
        if found then
          let s := { s with mIsEnabled := false }
          some (s.postEvents s.readEvents s.isWakeUpSensor)
        else s.drainPipe pipe
      else s.drainPipe pipe

/-- One statement of `UdfpsSensor::run`.  A worker blocked in `poll` or in
`mWaitCV.wait` makes no step of its own. -/
def workerStep (s : UdfpsSensor) : Option UdfpsSensor :=
  match s.worker with
  | .start => (s.lock .worker).map fun s => { s with worker := .check }
  | .check =>
      if s.mStopThread then some { s.unlock with worker := .exited }
      else if s.idle then some { s with worker := .predicate }
      else some { s with worker := .unlock }
  | .predicate =>
      if s.waitPredicate then some { s with worker := .check }
      else some { s.unlock with worker := .waiting }
  | .waiting => none
  | .notified => (s.lock .worker).map fun s => { s with worker := .predicate }
  | .unlock => some { s.unlock with worker := .poll }
  | .poll => none
  | .relock result =>
      (s.lock .worker).map fun s => { s with worker := .branch result }
  | .branch result => (s.branch result).map fun s => { s with worker := .check }
  | .exited => none

/-- `poll` may return an error at any time.  A report needs a descriptor that
is ready; since the descriptors are looked at one after the other, one that
became ready meanwhile may be missing from it. -/
def pollReturn (result : PollResult) (s : UdfpsSensor) : Option UdfpsSensor :=
  if s.worker = .poll then
    match result with
    | .failed => some { s with worker := .relock .failed }
    | .ready pipe finger =>
        if (pipe → 0 < s.unread) ∧ (finger → s.fpNotified) ∧ (pipe || finger)
        then some { s with worker := .relock (.ready pipe finger) }
        else none
  else none

/-! ## The callers -/

/-- One statement of `UdfpsSensor::activate`, of
`UdfpsSensor::setOperationMode` or of the two destructors. -/
def callerStep (capacity : ℕ) (thread : ℕ) (s : UdfpsSensor) :
    Option UdfpsSensor :=
  match s.caller thread with
  | .idle => none
  | .activateLock enable =>
      (s.lock (.caller thread)).map (goto thread (.activateTest enable))
  | .activateTest enable =>
      if s.mIsEnabled ≠ enable then
        some ({ s with mIsEnabled := enable }.goto thread (.activatePipe enable))
      else some (s.goto thread (.activateUnlock enable))
  | .activatePipe enable =>
      (s.interruptPoll capacity).map (goto thread (.activateNotify enable))
  | .activateNotify enable =>
      some (s.notifyAll.goto thread (.activateUnlock enable))
  | .activateUnlock _ => some (s.unlock.goto thread .idle)
  | .modeLock mode =>
      (s.lock (.caller thread)).map (goto thread (.modeTest mode))
  | .modeTest mode =>
      if s.mMode ≠ mode then
        some ({ s with mMode := mode }.goto thread (.modeNotify mode))
      else some (s.goto thread (.modeUnlock mode false))
  | .modeNotify mode =>
      some (s.notifyAll.goto thread (.modeUnlock mode true))
  | .modeUnlock mode changed =>
      some (s.unlock.goto thread (.modePipe mode changed))
  | .modePipe _ _ => (s.interruptPoll capacity).map (goto thread .idle)
  | .destroyPipe =>
      (s.interruptPoll capacity).map fun s =>
        { s with destructed := true }.goto thread .destroyLock
  | .destroyLock => (s.lock (.caller thread)).map (goto thread .destroyStop)
  | .destroyStop =>
      some ({ s with mStopThread := true, mIsEnabled := false }.goto thread
        .destroyNotify)
  | .destroyNotify => some (s.notifyAll.goto thread .destroyUnlock)
  | .destroyUnlock => some (s.unlock.goto thread .destroyJoin)
  | .destroyJoin =>
      if s.worker = .exited then some (s.goto thread .destroyed) else none
  | .destroyed => none

/-! ## The machine -/

/-- The body of the constructor of `UdfpsSensor`, after the worker was
started by the constructor of `Sensor`. -/
def construct (pipeOk pollOk : Bool) (s : UdfpsSensor) : Option UdfpsSensor :=
  if s.constructed then none
  else some { s with
    constructed := true
    pipeOpen := pipeOk
    mStopThread := s.mStopThread || !(pipeOk && pollOk) }

def call (thread : ℕ) (call : SensorCall) (s : UdfpsSensor) :
    Option UdfpsSensor :=
  if s.constructed ∧ s.caller thread = .idle then
    some (s.goto thread call.entry)
  else none

def step (capacity : ℕ) (s : UdfpsSensor) : SensorAction → Option UdfpsSensor
  | .construct pipeOk pollOk => s.construct pipeOk pollOk
  | .call thread call => s.call thread call
  | .caller thread => s.callerStep capacity thread
  | .worker => s.workerStep
  | .pollReturn result => s.pollReturn result
  | .spuriousWake =>
      if s.worker = .waiting then some { s with worker := .notified } else none
  | .fpNotify fp => some { s with fpState := fp, fpNotified := true }

/-- The object when the constructor of `Sensor` has started the worker. -/
def initial (sensorHandle : ℤ) (fp : FpState) (screenX screenY : ℤ) :
    UdfpsSensor where
  mSensorInfo := sensorInfo sensorHandle
  mIsEnabled := false
  mMode := .normal
  mStopThread := false
  mRunMutex := none
  constructed := false
  destructed := false
  pipeOpen := false
  unread := 0
  fpState := fp
  fpNotified := false
  mScreenX := screenX
  mScreenY := screenY
  posted := []
  worker := .start
  caller := fun _ => .idle

def machine (capacity : ℕ) : Machine UdfpsSensor SensorAction where
  Initial s := ∃ handle fp x y, s = initial handle fp x y
  step := step capacity

end UdfpsSensor

end Samurai
