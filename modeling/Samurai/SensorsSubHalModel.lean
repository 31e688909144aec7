import Samurai.OrderedMap
import Samurai.SensorsSubHalBatch
import Samurai.UdfpsSensorAtomic

/-!
# The sub-HAL

`SensorsSubHal` keeps its sensors in a map from handles, passes the calls of
the framework's proxy on to them and their events on to the proxy.

Seen from here a sensor is an atomic object, as its own threads make it once
its worker has called the `run` of its class.  The loop of `setOperationMode`
takes no lock of the sub-HAL, and the posts of `flush` and `injectEvent` take
none of the sensor, so that other calls come in between; every other call is
one step.  The reply to each call and the posts made through a null `mCallback`
are recorded.
-/

namespace Samurai

inductive SensorsResult where
  | OK
  | BAD_VALUE
  | INVALID_OPERATION
  deriving DecidableEq, Repr

/-- `SensorType`. -/
def metaData : ℤ := 0
def additionalInfo : ℤ := 33

/-- `META_DATA_FLUSH_COMPLETE`. -/
def metaDataFlushComplete : ℤ := 1

/-- A sensor with its class; `wakeUps` counts the `notify_all` of `batch`. -/
structure RegisteredSensor extends AtomicSensor where
  dynamicClass : SensorClass
  mSamplingPeriodNs : Int64
  wakeUps : ℕ

inductive PostSource where
  | sample
  | flushComplete
  | injected
  deriving DecidableEq, Repr

structure SubHalPost where
  proxy : ℕ
  source : PostSource
  post : PostedEvent
  deriving DecidableEq, Repr

inductive SubHalCall where
  | setOperationMode (mode : OperationMode)
  | activate (sensorHandle : ℤ) (enabled : Bool)
  | batch (sensorHandle : ℤ) (samplingPeriodNs maxReportLatencyNs : Int64)
  | flush (sensorHandle : ℤ)
  | injectSensorData (event : Event)
  | registerDirectChannel
  | unregisterDirectChannel (channelHandle : ℤ)
  | configDirectReport (sensorHandle channelHandle : ℤ)
  | initializeHal (halProxyCallback : ℕ)
  deriving DecidableEq

/-- Where a calling thread is; the first argument is the call it is in. -/
inductive SubHalPc where
  | idle
  | modeLoop (call : SubHalCall) (mode : OperationMode) (rest : List ℤ)
  | modeWrite (call : SubHalCall) (mode : OperationMode)
  | flushPost (sensorHandle : ℤ)
  | injectPost (event : Event)
  deriving DecidableEq

structure SubHal where
  mSensors : List (ℤ × RegisteredSensor)
  mCallback : Option ℕ
  mCurrentOperationMode : OperationMode
  mNextHandle : ℤ
  posted : List SubHalPost
  nullPosts : ℕ
  replies : List (SubHalCall × SensorsResult)
  caller : ℕ → SubHalPc

/-- A call, the next step of a caller, or a sensor's worker. -/
inductive SubHalAction where
  | call (thread : ℕ) (call : SubHalCall)
  | caller (thread : ℕ)
  | sample (sensorHandle : ℤ)
  | worker (sensorHandle : ℤ) (action : AtomicAction)
  deriving DecidableEq

/-! ## The sensors -/

/-- `Sensor::flush` up to its post. -/
def Sensor.flush (r : RegisteredSensor) : SensorsResult :=
  if !r.mIsEnabled then .BAD_VALUE else .OK

def OneShotSensor.flush (_ : RegisteredSensor) : SensorsResult :=
  .BAD_VALUE

namespace RegisteredSensor

def activate (enable : Bool) (r : RegisteredSensor) : RegisteredSensor :=
  { r with mIsEnabled := enable }

def setOperationMode (mode : OperationMode) (r : RegisteredSensor) :
    RegisteredSensor :=
  { r with mMode := mode }

def subHalSensor (r : RegisteredSensor) : SubHalSensor where
  dynamicClass := r.dynamicClass
  mSensorInfo := r.mSensorInfo
  mSamplingPeriodNs := r.mSamplingPeriodNs
  wakeUps := r.wakeUps

def batch (samplingPeriodNs : Int64) (r : RegisteredSensor) :
    RegisteredSensor :=
  let sensor := r.subHalSensor.batch samplingPeriodNs.toInt32
  { r with
    mSamplingPeriodNs := sensor.mSamplingPeriodNs
    wakeUps := sensor.wakeUps }

def isWakeUpSensor (r : RegisteredSensor) : Bool :=
  r.mSensorInfo.flags &&& SensorFlagBits.wakeUp ≠ 0

def supportsDataInjection (r : RegisteredSensor) : Bool :=
  r.mSensorInfo.flags &&& SensorFlagBits.dataInjection ≠ 0

/-- The virtual `flush`. -/
def flush (r : RegisteredSensor) : SensorsResult :=
  match r.dynamicClass with
  | .sensor => Sensor.flush r
  | .oneShotSensor | .udfpsSensor => OneShotSensor.flush r

/-- The reply of `injectEvent`, and whether it posts the event. -/
def injectEvent (event : Event) (r : RegisteredSensor) : SensorsResult × Bool :=
  if event.sensorType = additionalInfo then (.OK, false)
  else if !r.supportsDataInjection then (.INVALID_OPERATION, false)
  else if r.mMode = .dataInjection then (.OK, true)
  else (.BAD_VALUE, false)

/-- A step of the atomic object, if it can be taken. -/
def take (action : AtomicAction) (r : RegisteredSensor) : RegisteredSensor :=
  { r with toAtomicSensor := (r.toAtomicSensor.step action).getD r.toAtomicSensor }

def append (post : PostedEvent) (r : RegisteredSensor) : RegisteredSensor :=
  { r with posted := r.posted ++ [post] }

def flushEvent (r : RegisteredSensor) : PostedEvent where
  event :=
    { sensorHandle := r.mSensorInfo.sensorHandle
      sensorType := metaData
      data0 := metaDataFlushComplete
      data1 := 0 }
  wakeup := r.isWakeUpSensor

end RegisteredSensor

namespace SubHal

/-! ## Construction -/

def empty : SubHal where
  mSensors := []
  mCallback := none
  mCurrentOperationMode := .normal
  mNextHandle := 1
  posted := []
  nullPosts := 0
  replies := []
  caller := fun _ => .idle

def AddSensor (dynamicClass : SensorClass) (sensorInfo : ℤ → SensorInfo)
    (s : SubHal) : SubHal :=
  let sensor : RegisteredSensor :=
    { mSensorInfo := sensorInfo s.mNextHandle
      mIsEnabled := false
      mMode := .normal
      destructed := false
      watching := false
      posted := []
      dynamicClass := dynamicClass
      mSamplingPeriodNs := 0
      wakeUps := 0 }
  { s with
    mSensors := OrderedMap.insert sensor.mSensorInfo.sensorHandle sensor
      s.mSensors
    mNextHandle := s.mNextHandle + 1 }

/-- A sub-HAL whose constructor adds these sensors. -/
def constructed (sensors : List (SensorClass × (ℤ → SensorInfo))) : SubHal :=
  sensors.foldl (fun s p => s.AddSensor p.1 p.2) empty

def shipped : SubHal :=
  constructed [(.udfpsSensor, UdfpsSensor.sensorInfo)]

/-! ## Calls -/

def goto (thread : ℕ) (pc : SubHalPc) (s : SubHal) : SubHal :=
  { s with caller := Function.update s.caller thread pc }

def reply (call : SubHalCall) (result : SensorsResult) (s : SubHal) : SubHal :=
  { s with replies := s.replies ++ [(call, result)] }

def update (sensorHandle : ℤ) (f : RegisteredSensor → RegisteredSensor)
    (s : SubHal) : SubHal :=
  { s with mSensors := OrderedMap.modify sensorHandle f s.mSensors }

def postEvents (source : PostSource) (post : PostedEvent) (s : SubHal) :
    SubHal :=
  match s.mCallback with
  | some proxy => { s with posted := s.posted ++ [⟨proxy, source, post⟩] }
  | none => { s with nullPosts := s.nullPosts + 1 }

def getSensorsList (s : SubHal) : List SensorInfo :=
  s.mSensors.map fun sensor => sensor.2.mSensorInfo

def setOperationMode (thread : ℕ) (call : SubHalCall) (mode : OperationMode)
    (s : SubHal) : SubHal :=
  s.goto thread (.modeLoop call mode (OrderedMap.keys s.mSensors))

def activate (sensorHandle : ℤ) (enabled : Bool) (s : SubHal) :
    SensorsResult × SubHal :=
  match OrderedMap.find sensorHandle s.mSensors with
  | some _ => (.OK, s.update sensorHandle (·.activate enabled))
  | none => (.BAD_VALUE, s)

def batch (sensorHandle : ℤ) (samplingPeriodNs _maxReportLatencyNs : Int64)
    (s : SubHal) : SensorsResult × SubHal :=
  match OrderedMap.find sensorHandle s.mSensors with
  | some _ => (.OK, s.update sensorHandle (·.batch samplingPeriodNs))
  | none => (.BAD_VALUE, s)

/-- The post of a flush that succeeds is the caller's next step. -/
def flush (thread : ℕ) (sensorHandle : ℤ) (s : SubHal) : SubHal :=
  match OrderedMap.find sensorHandle s.mSensors with
  | some sensor =>
      if sensor.flush = .OK then s.goto thread (.flushPost sensorHandle)
      else s.reply (.flush sensorHandle) sensor.flush
  | none => s.reply (.flush sensorHandle) .BAD_VALUE

def injectSensorData (thread : ℕ) (event : Event) (s : SubHal) : SubHal :=
  match OrderedMap.find event.sensorHandle s.mSensors with
  | some sensor =>
      if (sensor.injectEvent event).2 then s.goto thread (.injectPost event)
      else s.reply (.injectSensorData event) (sensor.injectEvent event).1
  | none => s.reply (.injectSensorData event) .BAD_VALUE

/-- `SensorsSubHal::initialize`. -/
def initializeHal (thread : ℕ) (halProxyCallback : ℕ) (s : SubHal) : SubHal :=
  { s with mCallback := some halProxyCallback }.setOperationMode thread
    (.initializeHal halProxyCallback) .normal

def answer (call : SubHalCall) (r : SensorsResult × SubHal) : SubHal :=
  r.2.reply call r.1

def enter (thread : ℕ) (s : SubHal) : SubHalCall → SubHal
  | .setOperationMode mode =>
      s.setOperationMode thread (.setOperationMode mode) mode
  | .activate sensorHandle enabled =>
      answer (.activate sensorHandle enabled) (s.activate sensorHandle enabled)
  | .batch sensorHandle samplingPeriodNs maxReportLatencyNs =>
      answer (.batch sensorHandle samplingPeriodNs maxReportLatencyNs)
        (s.batch sensorHandle samplingPeriodNs maxReportLatencyNs)
  | .flush sensorHandle => s.flush thread sensorHandle
  | .injectSensorData event => s.injectSensorData thread event
  | .registerDirectChannel => s.reply .registerDirectChannel .INVALID_OPERATION
  | .unregisterDirectChannel channelHandle =>
      s.reply (.unregisterDirectChannel channelHandle) .INVALID_OPERATION
  | .configDirectReport sensorHandle channelHandle =>
      s.reply (.configDirectReport sensorHandle channelHandle)
        .INVALID_OPERATION
  | .initializeHal halProxyCallback => s.initializeHal thread halProxyCallback

def call (thread : ℕ) (call : SubHalCall) (s : SubHal) : Option SubHal :=
  if s.caller thread = .idle then some (s.enter thread call) else none

/-- The rest of a call, a sensor or a statement at a time. -/
def callerStep (thread : ℕ) (s : SubHal) : Option SubHal :=
  match s.caller thread with
  | .idle => none
  | .modeLoop call mode (sensorHandle :: rest) =>
      some ((s.update sensorHandle (·.setOperationMode mode)).goto thread
        (.modeLoop call mode rest))
  | .modeLoop call mode [] => some (s.goto thread (.modeWrite call mode))
  | .modeWrite call mode =>
      some (({ s with mCurrentOperationMode := mode }.reply call .OK).goto
        thread .idle)
  | .flushPost sensorHandle =>
      match OrderedMap.find sensorHandle s.mSensors with
      | some sensor =>
          some (((s.postEvents .flushComplete sensor.flushEvent).reply
            (.flush sensorHandle) .OK).goto thread .idle)
      | none => none
  | .injectPost event =>
      match OrderedMap.find event.sensorHandle s.mSensors with
      | some sensor =>
          some (((s.postEvents .injected ⟨event, sensor.isWakeUpSensor⟩).reply
            (.injectSensorData event) .OK).goto thread .idle)
      | none => none

/-! ## Workers -/

/-- A round of `Sensor::run` that posts. -/
def sample (sensorHandle : ℤ) (s : SubHal) : Option SubHal :=
  match OrderedMap.find sensorHandle s.mSensors with
  | some sensor =>
      if sensor.dynamicClass ≠ .udfpsSensor ∧ sensor.mIsEnabled = true ∧
          sensor.mMode = .normal then
        let post := sensor.event 0 0
        some ((s.update sensorHandle (·.append post)).postEvents .sample post)
      else none
  | none => none

/-- A step of the worker in `UdfpsSensor::run`, as the atomic object has it. -/
def worker (sensorHandle : ℤ) (action : AtomicAction) (s : SubHal) :
    Option SubHal :=
  match OrderedMap.find sensorHandle s.mSensors with
  | some sensor =>
      if sensor.dynamicClass = .udfpsSensor ∧ action.ofWorker = true ∧
          (sensor.toAtomicSensor.step action).isSome = true then
        let s := s.update sensorHandle (·.take action)
        match action with
        | .finger x y => some (s.postEvents .sample (sensor.event x y))
        | _ => some s
      else none
  | none => none

/-! ## The machine -/

def step (s : SubHal) : SubHalAction → Option SubHal
  | .call thread call => s.call thread call
  | .caller thread => s.callerStep thread
  | .sample sensorHandle => s.sample sensorHandle
  | .worker sensorHandle action => s.worker sensorHandle action

/-- Every sensor stores the handle it is given. -/
def KeepHandles (sensors : List (SensorClass × (ℤ → SensorInfo))) : Prop :=
  ∀ p ∈ sensors, ∀ handle, (p.2 handle).sensorHandle = handle

def machine : Machine SubHal SubHalAction where
  Initial s := ∃ sensors, KeepHandles sensors ∧ s = constructed sensors
  step := step

end SubHal

end Samurai
