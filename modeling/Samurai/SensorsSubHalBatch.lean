import Samurai.ClampedTruncation
import Samurai.SensorStartupModel

/-!
# Sampling periods

`SensorsSubHal::batch` takes a period of 64 bits and passes it on as one of 32
bits to the sensor, which clamps what arrives to its delays.
-/

namespace Samurai

inductive Result where
  | OK
  | BAD_VALUE
  deriving DecidableEq, Repr

/-- A sensor as far as `batch` goes; `wakeUps` counts its `notify_all`. -/
structure SubHalSensor where
  dynamicClass : SensorClass
  mSensorInfo : SensorInfo
  mSamplingPeriodNs : Int64
  wakeUps : ℕ

structure SensorsSubHal where
  mSensors : ℤ → Option SubHalSensor
  mNextHandle : ℤ

/-! ## The sensors -/

def Sensor.batch (samplingPeriodNs : Int32) (s : SubHalSensor) : SubHalSensor :=
  let samplingPeriodNs := clamp samplingPeriodNs
    (Int32.ofInt s.mSensorInfo.minDelay * 1000)
    (Int32.ofInt s.mSensorInfo.maxDelay * 1000)
  if s.mSamplingPeriodNs ≠ samplingPeriodNs.toInt64 then
    { s with
      mSamplingPeriodNs := samplingPeriodNs.toInt64
      wakeUps := s.wakeUps + 1 }
  else s

def OneShotSensor.batch (_ : Int32) (s : SubHalSensor) : SubHalSensor :=
  s

/-- The virtual `batch`. -/
def SubHalSensor.batch (samplingPeriodNs : Int32) (s : SubHalSensor) :
    SubHalSensor :=
  match s.dynamicClass with
  | .sensor => Sensor.batch samplingPeriodNs s
  | .oneShotSensor | .udfpsSensor => OneShotSensor.batch samplingPeriodNs s

namespace SensorsSubHal

def AddSensor (dynamicClass : SensorClass) (sensorInfo : ℤ → SensorInfo)
    (hal : SensorsSubHal) : SensorsSubHal :=
  let sensor : SubHalSensor :=
    { dynamicClass := dynamicClass
      mSensorInfo := sensorInfo hal.mNextHandle
      mSamplingPeriodNs := 0
      wakeUps := 0 }
  { mSensors := Function.update hal.mSensors sensor.mSensorInfo.sensorHandle
      (some sensor)
    mNextHandle := hal.mNextHandle + 1 }

def constructed : SensorsSubHal :=
  AddSensor .udfpsSensor UdfpsSensor.sensorInfo
    { mSensors := fun _ => none, mNextHandle := 1 }

def batch (sensorHandle : ℤ) (samplingPeriodNs _maxReportLatencyNs : Int64)
    (hal : SensorsSubHal) : Result × SensorsSubHal :=
  match hal.mSensors sensorHandle with
  | some sensor =>
      (.OK, { hal with
        mSensors := Function.update hal.mSensors sensorHandle
          (some (sensor.batch samplingPeriodNs.toInt32)) })
  | none => (.BAD_VALUE, hal)

/-! ## The period a request leads to -/

/-- The period of a sensor after a request. -/
def periodAfter (hal : SensorsSubHal) (sensorHandle : ℤ)
    (samplingPeriodNs maxReportLatencyNs : Int64) : Option ℤ :=
  ((hal.batch sensorHandle samplingPeriodNs maxReportLatencyNs).2.mSensors
    sensorHandle).map fun sensor => sensor.mSamplingPeriodNs.toInt

/-- The sensor is registered and `batch` is that of `Sensor`. -/
structure InheritsBatch (hal : SensorsSubHal) (sensorHandle : ℤ)
    (sensor : SubHalSensor) : Prop where
  registered : hal.mSensors sensorHandle = some sensor
  inherits : sensor.dynamicClass = .sensor

/-- The delays are bounds whose nanoseconds fit in 32 bits. -/
structure DelaysFit (info : SensorInfo) : Prop where
  ordered : info.minDelay ≤ info.maxDelay
  minFits : -2 ^ 31 ≤ info.minDelay * 1000
  maxFits : info.maxDelay * 1000 < 2 ^ 31

/-- The request fits in 32 bits, or its low half lies beyond the same bound. -/
def KeepsSide (info : SensorInfo) (samplingPeriodNs : Int64) : Prop :=
  ClampedTruncation.KeepsSide (2 ^ 31) (info.minDelay * 1000)
    (info.maxDelay * 1000) samplingPeriodNs.toInt

instance (info : SensorInfo) (samplingPeriodNs : Int64) :
    Decidable (KeepsSide info samplingPeriodNs) :=
  inferInstanceAs (Decidable (ClampedTruncation.KeepsSide (2 ^ 31)
    (info.minDelay * 1000) (info.maxDelay * 1000) samplingPeriodNs.toInt))

end SensorsSubHal

theorem toInt_clamp (v lo hi : Int32) :
    (clamp v lo hi).toInt = clamp v.toInt lo.toInt hi.toInt := by
  unfold clamp
  simp only [Int32.lt_iff_toInt_lt]
  split_ifs
  · rfl
  · rfl
  · rfl

theorem toInt_delay {delay : ℤ} (hmin : -2 ^ 31 ≤ delay * 1000)
    (hmax : delay * 1000 < 2 ^ 31) :
    (Int32.ofInt delay * 1000).toInt = delay * 1000 := by
  have hmul : Int32.ofInt delay * 1000 = Int32.ofInt (delay * 1000) :=
    (Int32.ofInt_mul delay 1000).symm
  rw [hmul, Int32.toInt_ofInt_of_le hmin hmax]

namespace SensorsSubHal

variable {hal : SensorsSubHal} {sensorHandle : ℤ} {sensor : SubHalSensor}

theorem batch_mSamplingPeriodNs (samplingPeriodNs : Int32)
    (sensor : SubHalSensor) :
    (Sensor.batch samplingPeriodNs sensor).mSamplingPeriodNs =
      (clamp samplingPeriodNs
        (Int32.ofInt sensor.mSensorInfo.minDelay * 1000)
        (Int32.ofInt sensor.mSensorInfo.maxDelay * 1000)).toInt64 := by
  unfold Sensor.batch
  simp only
  split_ifs with hchanged
  · rfl
  · exact not_ne_iff.mp hchanged

/-- The one sensor of the sub-HAL has the `batch` that does nothing. -/
theorem batch_constructed (sensorHandle : ℤ)
    (samplingPeriodNs maxReportLatencyNs : Int64) :
    (constructed.batch sensorHandle samplingPeriodNs maxReportLatencyNs).2 =
      constructed := by
  unfold batch
  cases hfind : constructed.mSensors sensorHandle with
  | none => rfl
  | some sensor =>
      have hsensor : sensorHandle = 1 ∧ sensor.dynamicClass = .udfpsSensor := by
        by_cases hone : sensorHandle = 1
        · subst hone
          cases hfind
          exact ⟨rfl, rfl⟩
        · simp [constructed, AddSensor, UdfpsSensor.sensorInfo,
            OneShotSensor.sensorInfo, Sensor.sensorInfo, hone] at hfind
      have hsame : sensor.batch samplingPeriodNs.toInt32 = sensor := by
        unfold SubHalSensor.batch
        rw [hsensor.2]
        rfl
      simp only [hsame, ← hfind, Function.update_eq_self]

/-- What is clamped is the low half of the request. -/
theorem periodAfter_eq (hsensor : hal.InheritsBatch sensorHandle sensor)
    (hfit : DelaysFit sensor.mSensorInfo)
    (samplingPeriodNs maxReportLatencyNs : Int64) :
    hal.periodAfter sensorHandle samplingPeriodNs maxReportLatencyNs =
      some (clamp (samplingPeriodNs.toInt.bmod (2 ^ 32))
        (sensor.mSensorInfo.minDelay * 1000)
        (sensor.mSensorInfo.maxDelay * 1000)) := by
  have hmin := toInt_delay hfit.minFits
    (lt_of_le_of_lt (by linarith [hfit.ordered]) hfit.maxFits)
  have hmax := toInt_delay
    (le_trans hfit.minFits (by linarith [hfit.ordered])) hfit.maxFits
  have hperiod := batch_mSamplingPeriodNs samplingPeriodNs.toInt32 sensor
  unfold periodAfter batch
  simp only [hsensor.registered, Function.update_self, Option.map_some,
    SubHalSensor.batch, hsensor.inherits]
  rw [hperiod, Int32.toInt_toInt64, toInt_clamp, Int64.toInt_toInt32, hmin, hmax]

theorem word_eq : (2 : ℕ) ^ 32 = 2 * 2 ^ 31 := by norm_num

theorem periodAfter_eq_iff (hsensor : hal.InheritsBatch sensorHandle sensor)
    (hfit : DelaysFit sensor.mSensorInfo)
    (samplingPeriodNs maxReportLatencyNs : Int64) :
    hal.periodAfter sensorHandle samplingPeriodNs maxReportLatencyNs =
        some (max (sensor.mSensorInfo.minDelay * 1000)
          (min samplingPeriodNs.toInt (sensor.mSensorInfo.maxDelay * 1000))) ↔
      KeepsSide sensor.mSensorInfo samplingPeriodNs := by
  have hordered : sensor.mSensorInfo.minDelay * 1000 ≤
      sensor.mSensorInfo.maxDelay * 1000 := by
    linarith [hfit.ordered]
  rw [periodAfter_eq hsensor hfit, Option.some.injEq,
    ← ClampedTruncation.clamp_eq hordered, word_eq]
  apply ClampedTruncation.clamp_bmod_eq_iff
  · exact_mod_cast hfit.minFits
  · exact hordered
  · exact_mod_cast hfit.maxFits

theorem periodAfter_mono (hsensor : hal.InheritsBatch sensorHandle sensor)
    (hfit : DelaysFit sensor.mSensorInfo) {p p' : Int64}
    (maxReportLatencyNs : Int64) (hle : p.toInt ≤ p'.toInt)
    (hp : KeepsSide sensor.mSensorInfo p)
    (hp' : KeepsSide sensor.mSensorInfo p') :
    ∃ q q', hal.periodAfter sensorHandle p maxReportLatencyNs = some q ∧
      hal.periodAfter sensorHandle p' maxReportLatencyNs = some q' ∧
      q ≤ q' := by
  refine ⟨_, _, (periodAfter_eq_iff hsensor hfit p _).mpr hp,
    (periodAfter_eq_iff hsensor hfit p' _).mpr hp', ?_⟩
  omega

/-- Requests in order can lead to periods that are not, unless there is only
one period. -/
theorem exists_periodAfter_lt (hsensor : hal.InheritsBatch sensorHandle sensor)
    (hfit : DelaysFit sensor.mSensorInfo)
    (hlt : sensor.mSensorInfo.minDelay < sensor.mSensorInfo.maxDelay)
    (maxReportLatencyNs : Int64) :
    ∃ p p' : Int64, p.toInt ≤ p'.toInt ∧
      ∃ q q', hal.periodAfter sensorHandle p maxReportLatencyNs = some q ∧
        hal.periodAfter sensorHandle p' maxReportLatencyNs = some q' ∧
        q' < q := by
  have hminFits := hfit.minFits
  have hmaxFits := hfit.maxFits
  have hp : (Int64.ofInt (sensor.mSensorInfo.maxDelay * 1000)).toInt =
      sensor.mSensorInfo.maxDelay * 1000 :=
    Int64.toInt_ofInt_of_le (by omega) (by omega)
  have hp' : (Int64.ofInt (sensor.mSensorInfo.minDelay * 1000 + 2 ^ 32)).toInt =
      sensor.mSensorInfo.minDelay * 1000 + 2 ^ 32 :=
    Int64.toInt_ofInt_of_le (by omega) (by omega)
  refine ⟨Int64.ofInt (sensor.mSensorInfo.maxDelay * 1000),
    Int64.ofInt (sensor.mSensorInfo.minDelay * 1000 + 2 ^ 32), ?_, _, _,
    periodAfter_eq hsensor hfit _ _, periodAfter_eq hsensor hfit _ _, ?_⟩
  · rw [hp, hp']
    omega
  · have hshift : (2 : ℤ) ^ 32 = 2 * ((2 ^ 31 : ℕ) : ℤ) := by norm_num
    rw [hp, hp', word_eq, hshift]
    apply ClampedTruncation.clamp_bmod_lt
    · exact_mod_cast hminFits
    · omega
    · exact_mod_cast hmaxFits

/-- A request is clamped exactly if its low half keeps the side; such requests
lead to periods in their order, and all requests do only if the delays are
equal. -/
theorem period_clamped_iff (hal : SensorsSubHal) (sensorHandle : ℤ)
    (sensor : SubHalSensor) (hsensor : hal.InheritsBatch sensorHandle sensor)
    (hfit : DelaysFit sensor.mSensorInfo) (maxReportLatencyNs : Int64) :
    (∀ samplingPeriodNs : Int64,
      hal.periodAfter sensorHandle samplingPeriodNs maxReportLatencyNs =
          some (max (sensor.mSensorInfo.minDelay * 1000)
            (min samplingPeriodNs.toInt
              (sensor.mSensorInfo.maxDelay * 1000))) ↔
        KeepsSide sensor.mSensorInfo samplingPeriodNs) ∧
    (∀ p p' : Int64, p.toInt ≤ p'.toInt →
      KeepsSide sensor.mSensorInfo p → KeepsSide sensor.mSensorInfo p' →
      ∃ q q', hal.periodAfter sensorHandle p maxReportLatencyNs = some q ∧
        hal.periodAfter sensorHandle p' maxReportLatencyNs = some q' ∧
        q ≤ q') ∧
    ((∀ p p' : Int64, ∀ q q', p.toInt ≤ p'.toInt →
      hal.periodAfter sensorHandle p maxReportLatencyNs = some q →
      hal.periodAfter sensorHandle p' maxReportLatencyNs = some q' →
      q ≤ q') ↔
      sensor.mSensorInfo.minDelay = sensor.mSensorInfo.maxDelay) := by
  refine ⟨fun p => periodAfter_eq_iff hsensor hfit p _,
    fun p p' hle hp hp' => periodAfter_mono hsensor hfit _ hle hp hp', ?_⟩
  constructor
  · intro hmono
    by_contra hne
    have hlt := lt_of_le_of_ne hfit.ordered hne
    rcases exists_periodAfter_lt hsensor hfit hlt maxReportLatencyNs with
      ⟨p, p', hle, q, q', hq, hq', hwrong⟩
    exact absurd (hmono p p' q q' hle hq hq') (not_le.mpr hwrong)
  · intro heq p p' q q' hle hq hq'
    have hkeeps (r : Int64) : KeepsSide sensor.mSensorInfo r :=
      Or.inl (by rw [heq])
    rcases periodAfter_mono hsensor hfit maxReportLatencyNs hle (hkeeps p)
      (hkeeps p') with ⟨r, r', hr, hr', hrr'⟩
    rw [hr] at hq
    rw [hr'] at hq'
    rwa [← Option.some.inj hq, ← Option.some.inj hq']

/-- A plain sensor, which has no least delay. -/
def plainSensor : SensorsSubHal :=
  AddSensor .sensor Sensor.sensorInfo
    { mSensors := fun _ => none, mNextHandle := 1 }

theorem plainSensor_inherits :
    plainSensor.InheritsBatch 1 ⟨.sensor, Sensor.sensorInfo 1, 0, 0⟩ :=
  ⟨rfl, rfl⟩

theorem plainSensor_fits : DelaysFit (Sensor.sensorInfo 1) where
  ordered := by decide
  minFits := by decide
  maxFits := by decide

theorem period_clamped_iff_plainSensor :
    plainSensor.periodAfter 1 20000 0 =
      some (max (0 * 1000) (min (20000 : Int64).toInt (1000 * 1000 * 1000))) :=
  ((period_clamped_iff plainSensor 1 _ plainSensor_inherits plainSensor_fits
    0).1 20000).mpr (by decide)

theorem period_wrapped :
    ¬ ∀ (hal : SensorsSubHal) (sensorHandle : ℤ) (sensor : SubHalSensor)
      (samplingPeriodNs maxReportLatencyNs : Int64),
      hal.InheritsBatch sensorHandle sensor → DelaysFit sensor.mSensorInfo →
        hal.periodAfter sensorHandle samplingPeriodNs maxReportLatencyNs =
          some (max (sensor.mSensorInfo.minDelay * 1000)
            (min samplingPeriodNs.toInt
              (sensor.mSensorInfo.maxDelay * 1000))) := by
  intro hclaim
  have hclamped := hclaim plainSensor 1 _ 4294967301 0 plainSensor_inherits
    plainSensor_fits
  have hperiod : plainSensor.periodAfter 1 4294967301 0 = some 5 := by decide
  rw [hperiod] at hclamped
  exact absurd hclamped (by decide)

end SensorsSubHal

end Samurai
