import Samurai.UdfpsSensorModel

/-!
# The start of the worker

The constructor of `Sensor` starts the thread that calls the virtual `run`,
before the constructors of `OneShotSensor` and `UdfpsSensor` have begun.  The
call goes to the class whose constructor is executing at that moment: to
`Sensor::run` until the body of `UdfpsSensor`'s constructor is entered.

The object, its callers and `UdfpsSensor::run` are those of the sensor
machine.  `Sensor::run` is the same loop with another branch for an enabled
sensor, which samples on a timer.  The object is not destroyed here.
-/

namespace Samurai

/-- The class whose constructor is executing or was the last to. -/
inductive SensorClass where
  | sensor
  | oneShotSensor
  | udfpsSensor
  deriving DecidableEq, Repr

/-- Where the worker is in `Sensor::run`. -/
inductive SensorRunPc where
  | start
  | check
  | predicate
  | waiting
  | notified
  | sample
  | waitFor
  | timedWaiting
  | timedNotified
  | exited
  deriving DecidableEq, Repr

/-- The loop that the call of `run` went to. -/
inductive RunLoop where
  | sensor (pc : SensorRunPc)
  | udfpsSensor
  deriving DecidableEq, Repr

/-- What the worker does to the outside. -/
inductive SensorAccess where
  | readFpState (fp : FpState)
  | postEvent (posted : PostedEvent)
  deriving DecidableEq, Repr

/-- `loop` is unset while the thread has not called `run`. -/
structure StartingSensor where
  sensor : UdfpsSensor
  dynamicClass : SensorClass
  loop : Option RunLoop
  mSamplingPeriodNs : ℤ
  mLastSampleTimeNs : ℤ
  accesses : List SensorAccess

/-- Who moves: the next constructor is entered, the body of the last one ends,
the worker calls `run`, a binder thread, the worker, the clock, the kernel. -/
inductive StartupAction where
  | enterConstructor
  | construct
  | dispatch
  | activate (thread : ℕ) (enable : Bool)
  | setOperationMode (thread : ℕ) (mode : OperationMode)
  | caller (thread : ℕ)
  | worker
  | sample (now : ℤ)
  | pollReturn (result : PollResult)
  | wakeUp
  | fpNotify (fp : FpState)
  deriving DecidableEq, Repr

/-- `notify_all` where the worker waits in `Sensor::run`. -/
def SensorRunPc.notify : SensorRunPc → SensorRunPc
  | .waiting => .notified
  | .timedWaiting => .timedNotified
  | pc => pc

def RunLoop.notify : RunLoop → RunLoop
  | .sensor pc => .sensor pc.notify
  | .udfpsSensor => .udfpsSensor

/-- The caller's next statement is its `notify_all`. -/
def CallerPc.notifies : CallerPc → Bool
  | .activateNotify _ | .modeNotify _ => true
  | _ => false

namespace StartingSensor

/-! ## Construction -/

def enterConstructor (s : StartingSensor) : Option StartingSensor :=
  match s.dynamicClass with
  | .sensor =>
      let info := OneShotSensor.sensorInfo s.sensor.mSensorInfo.sensorHandle
      some { s with
        dynamicClass := .oneShotSensor
        sensor := { s.sensor with mSensorInfo := info } }
  | .oneShotSensor => some { s with dynamicClass := .udfpsSensor }
  | .udfpsSensor => none

/-- The body of `UdfpsSensor`'s constructor, both descriptors opening. -/
def construct (s : StartingSensor) : Option StartingSensor :=
  match s.dynamicClass with
  | .udfpsSensor =>
      let info := UdfpsSensor.sensorInfo s.sensor.mSensorInfo.sensorHandle
      ({ s.sensor with mSensorInfo := info }.construct true true).map
        fun sensor => { s with sensor := sensor }
  | _ => none

/-- The virtual call in `Sensor::startThread`. -/
def dispatch (s : StartingSensor) : Option StartingSensor :=
  match s.loop with
  | none =>
      let loop := match s.dynamicClass with
        | .sensor | .oneShotSensor => RunLoop.sensor .start
        | .udfpsSensor => RunLoop.udfpsSensor
      some { s with loop := some loop }
  | some _ => none

/-! ## `Sensor::run` -/

/-- The virtual `readEvents`. -/
def readEvents (s : StartingSensor) : List Event :=
  match s.dynamicClass with
  | .sensor | .oneShotSensor => Sensor.readEvents s.sensor
  | .udfpsSensor => s.sensor.readEvents

def postEvents (events : List Event) (wakeup : Bool) (s : StartingSensor) :
    StartingSensor :=
  { s with
    sensor := s.sensor.postEvents events wakeup
    accesses := s.accesses ++
      events.map fun event => .postEvent ⟨event, wakeup⟩ }

def atRun (pc : SensorRunPc) (s : StartingSensor) : StartingSensor :=
  { s with loop := some (.sensor pc) }

def lockRun (pc : SensorRunPc) (s : StartingSensor) : Option StartingSensor :=
  (s.sensor.lock .worker).map fun sensor =>
    { s with sensor := sensor }.atRun pc

def unlockRun (pc : SensorRunPc) (s : StartingSensor) : StartingSensor :=
  { s with sensor := s.sensor.unlock }.atRun pc

/-- One statement of `Sensor::run`; the clock is read by `sample`. -/
def runStep (pc : SensorRunPc) (s : StartingSensor) : Option StartingSensor :=
  match pc with
  | .start => s.lockRun .check
  | .check =>
      if s.sensor.mStopThread then
        let s := s.unlockRun .exited
        some { s with sensor := { s.sensor with worker := .exited } }
      else if s.sensor.idle then some (s.atRun .predicate)
      else some (s.atRun .sample)
  | .predicate =>
      if s.sensor.waitPredicate then some (s.atRun .check)
      else some (s.unlockRun .waiting)
  | .notified => s.lockRun .predicate
  | .waitFor => some (s.unlockRun .timedWaiting)
  | .timedNotified => s.lockRun .check
  | .waiting | .sample | .timedWaiting | .exited => none

def sample (now : ℤ) (s : StartingSensor) : StartingSensor :=
  let nextSampleTime := s.mLastSampleTimeNs + s.mSamplingPeriodNs
  let s := if nextSampleTime ≤ now then
      let s := { s with mLastSampleTimeNs := now }
      s.postEvents s.readEvents s.sensor.isWakeUpSensor
    else s
  s.atRun .waitFor

/-! ## `UdfpsSensor::run` -/

/-- The call of `readFpState` in the next statement, if there is one. -/
def nodeRead (s : UdfpsSensor) : List SensorAccess :=
  match s.worker with
  | .branch (.ready _ true) => [.readFpState s.fpState]
  | _ => []

def newPosts (before after : UdfpsSensor) : List SensorAccess :=
  (after.posted.drop before.posted.length).map .postEvent

def udfpsRunStep (s : StartingSensor) : Option StartingSensor :=
  s.sensor.workerStep.map fun sensor =>
    { s with
      sensor := sensor
      accesses := s.accesses ++ nodeRead s.sensor ++ newPosts s.sensor sensor }

/-! ## The machine -/

def onSensor (s : StartingSensor) (sensor : Option UdfpsSensor) :
    Option StartingSensor :=
  sensor.map fun sensor => { s with sensor := sensor }

def step (capacity : ℕ) (s : StartingSensor) :
    StartupAction → Option StartingSensor
  | .enterConstructor => s.enterConstructor
  | .construct => s.construct
  | .dispatch => s.dispatch
  | .activate thread enable =>
      s.onSensor (s.sensor.call thread (.activate enable))
  | .setOperationMode thread mode =>
      s.onSensor (s.sensor.call thread (.setOperationMode mode))
  | .caller thread =>
      let loop := if (s.sensor.caller thread).notifies
        then s.loop.map RunLoop.notify else s.loop
      { s with loop := loop }.onSensor (s.sensor.callerStep capacity thread)
  | .worker =>
      match s.loop with
      | none => none
      | some (.sensor pc) => s.runStep pc
      | some .udfpsSensor => s.udfpsRunStep
  | .sample now =>
      if s.loop = some (.sensor .sample) then some (s.sample now) else none
  | .pollReturn result => s.onSensor (s.sensor.pollReturn result)
  | .wakeUp =>
      match s.loop with
      | some (.sensor .waiting) => some (s.atRun .notified)
      | some (.sensor .timedWaiting) => some (s.atRun .timedNotified)
      | some .udfpsSensor =>
          s.onSensor (s.sensor.step capacity .spuriousWake)
      | _ => none
  | .fpNotify fp => s.onSensor (s.sensor.step capacity (.fpNotify fp))

/-- The constructor of `Sensor` has started the thread. -/
def initial (sensorHandle : ℤ) (fp : FpState) (screenX screenY : ℤ) :
    StartingSensor where
  sensor :=
    { UdfpsSensor.initial sensorHandle fp screenX screenY with
      mSensorInfo := Sensor.sensorInfo sensorHandle }
  dynamicClass := .sensor
  loop := none
  mSamplingPeriodNs := 0
  mLastSampleTimeNs := 0
  accesses := []

def machine (capacity : ℕ) : Machine StartingSensor StartupAction where
  Initial s := ∃ handle fp x y, s = initial handle fp x y
  step := step capacity

end StartingSensor

end Samurai
