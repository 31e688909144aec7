import Samurai.SensorStartupAtomic
import Samurai.SensorsSubHalEvents

/-!
# The sub-HAL as shipped

The sub-HAL of the device has one sensor, behind handle 1.  A thread that calls
its `activate` or `setOperationMode` executes the statements of the sensor, and
between any two of them the worker, the other threads and the kernel can move.
The worker was started by the constructor of the sensor; what it posts goes to
the proxy through `mCallback`, which may still be null.

The reply to a call is recorded where the call takes effect.
-/

namespace Samurai

/-- Where a calling thread is; inside a call of the sensor the sensor has its
next statement. -/
inductive ShippedPc where
  | idle
  | activate (enabled : Bool)
  | setOperationMode (call : SubHalCall) (mode : OperationMode)
  | modeWrite (call : SubHalCall) (mode : OperationMode)
  deriving DecidableEq

structure ShippedSubHal where
  sensor : StartingSensor
  mCallback : Option ℕ
  mCurrentOperationMode : OperationMode
  posted : List SubHalPost
  nullPosts : ℕ
  replies : List (SubHalCall × SensorsResult)
  caller : ℕ → ShippedPc

/-- A call, the next statement of a caller, or a step of the sensor that is
none of its callers'. -/
inductive ShippedAction where
  | call (thread : ℕ) (call : SubHalCall)
  | caller (thread : ℕ)
  | sensor (action : StartupAction)
  deriving DecidableEq

def StartupAction.ofCaller : StartupAction → Bool
  | .activate _ _ | .setOperationMode _ _ | .caller _ => true
  | _ => false

namespace ShippedSubHal

/-- `mNextHandle` as `AddSensor` finds it. -/
def handle : ℤ := 1

def goto (thread : ℕ) (pc : ShippedPc) (s : ShippedSubHal) : ShippedSubHal :=
  { s with caller := Function.update s.caller thread pc }

def reply (call : SubHalCall) (result : SensorsResult) (s : ShippedSubHal) :
    ShippedSubHal :=
  { s with replies := s.replies ++ [(call, result)] }

def postEvents (source : PostSource) (posts : List PostedEvent)
    (s : ShippedSubHal) : ShippedSubHal :=
  match s.mCallback with
  | some proxy =>
      { s with posted := s.posted ++ posts.map fun p => ⟨proxy, source, p⟩ }
  | none => { s with nullPosts := s.nullPosts + posts.length }

/-- The sensor's step, with what it posts. -/
def sensorStep (capacity : ℕ) (action : StartupAction) (s : ShippedSubHal) :
    Option ShippedSubHal :=
  (s.sensor.step capacity action).map fun sensor =>
    { s with sensor := sensor }.postEvents .sample
      (sensor.sensor.posted.drop s.sensor.sensor.posted.length)

def registered (v : AtomicSensor) : RegisteredSensor :=
  { v with
    dynamicClass := .udfpsSensor
    mSamplingPeriodNs := 0
    wakeUps := 0 }

/-! ## Calls -/

def setOperationMode (capacity thread : ℕ) (call : SubHalCall)
    (mode : OperationMode) (s : ShippedSubHal) : Option ShippedSubHal :=
  (s.sensorStep capacity (.setOperationMode thread mode)).map
    (goto thread (.setOperationMode call mode))

def activate (capacity thread : ℕ) (sensorHandle : ℤ) (enabled : Bool)
    (s : ShippedSubHal) : Option ShippedSubHal :=
  if sensorHandle = handle then
    (s.sensorStep capacity (.activate thread enabled)).map
      (goto thread (.activate enabled))
  else some (s.reply (.activate sensorHandle enabled) .BAD_VALUE)

/-- `OneShotSensor::batch` does nothing. -/
def batch (sensorHandle : ℤ) (samplingPeriodNs maxReportLatencyNs : Int64)
    (s : ShippedSubHal) : ShippedSubHal :=
  s.reply (.batch sensorHandle samplingPeriodNs maxReportLatencyNs)
    (if sensorHandle = handle then .OK else .BAD_VALUE)

/-- `OneShotSensor::flush` posts nothing. -/
def flush (sensorHandle : ℤ) (s : ShippedSubHal) : ShippedSubHal :=
  s.reply (.flush sensorHandle)
    (if sensorHandle = handle then
      OneShotSensor.flush (registered s.sensor.sensor.view)
    else .BAD_VALUE)

def injectSensorData (event : Event) (s : ShippedSubHal) : ShippedSubHal :=
  if event.sensorHandle = handle then
    let sensor := registered s.sensor.sensor.view
    let (result, posts) := sensor.injectEvent event
    let s := if posts then
        s.postEvents .injected [⟨event, sensor.isWakeUpSensor⟩]
      else s
    s.reply (.injectSensorData event) result
  else s.reply (.injectSensorData event) .BAD_VALUE

def enter (capacity thread : ℕ) (s : ShippedSubHal) :
    SubHalCall → Option ShippedSubHal
  | .setOperationMode mode =>
      s.setOperationMode capacity thread (.setOperationMode mode) mode
  | .activate sensorHandle enabled =>
      s.activate capacity thread sensorHandle enabled
  | .batch sensorHandle samplingPeriodNs maxReportLatencyNs =>
      some (s.batch sensorHandle samplingPeriodNs maxReportLatencyNs)
  | .flush sensorHandle => some (s.flush sensorHandle)
  | .injectSensorData event => some (s.injectSensorData event)
  | .registerDirectChannel =>
      some (s.reply .registerDirectChannel .INVALID_OPERATION)
  | .unregisterDirectChannel channelHandle =>
      some (s.reply (.unregisterDirectChannel channelHandle)
        .INVALID_OPERATION)
  | .configDirectReport sensorHandle channelHandle =>
      some (s.reply (.configDirectReport sensorHandle channelHandle)
        .INVALID_OPERATION)
  | .initializeHal halProxyCallback =>
      { s with mCallback := some halProxyCallback }.setOperationMode capacity
        thread (.initializeHal halProxyCallback) .normal

/-- The sub-HAL can be called once its constructor has ended. -/
def call (capacity thread : ℕ) (call : SubHalCall) (s : ShippedSubHal) :
    Option ShippedSubHal :=
  if s.sensor.sensor.constructed ∧ s.caller thread = .idle then
    s.enter capacity thread call
  else none

/-- A statement of the sensor, until it returns, or of the sub-HAL. -/
def callerStep (capacity thread : ℕ) (s : ShippedSubHal) :
    Option ShippedSubHal :=
  match s.caller thread, s.sensor.sensor.caller thread with
  | .idle, _ => none
  | .activate _, .idle => some (s.goto thread .idle)
  | .activate enabled, .activateTest _ =>
      (s.sensorStep capacity (.caller thread)).map
        (reply (.activate handle enabled) .OK)
  | .activate _, _ => s.sensorStep capacity (.caller thread)
  | .setOperationMode call mode, .idle =>
      some (s.goto thread (.modeWrite call mode))
  | .setOperationMode _ _, _ => s.sensorStep capacity (.caller thread)
  | .modeWrite call mode, _ =>
      some ({ s with mCurrentOperationMode := mode }.reply call .OK
        |>.goto thread .idle)

/-! ## The machine -/

def step (capacity : ℕ) (s : ShippedSubHal) :
    ShippedAction → Option ShippedSubHal
  | .call thread call => s.call capacity thread call
  | .caller thread => s.callerStep capacity thread
  | .sensor action =>
      if action.ofCaller then none else s.sensorStep capacity action

/-- The constructor of the sub-HAL is adding the sensor. -/
def initial (fp : FpState) (screenX screenY : ℤ) : ShippedSubHal where
  sensor := StartingSensor.initial handle fp screenX screenY
  mCallback := none
  mCurrentOperationMode := .normal
  posted := []
  nullPosts := 0
  replies := []
  caller := fun _ => .idle

def machine (capacity : ℕ) : Machine ShippedSubHal ShippedAction where
  Initial s := ∃ fp x y, s = initial fp x y
  step := step capacity

end ShippedSubHal

end Samurai
