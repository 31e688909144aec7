import Samurai.SensorStartup
import Samurai.UdfpsSensorAtomic

/-!
# A worker that starts late

Once the worker's call of `run` has gone to `UdfpsSensor::run` the sensor, from
its construction on, is the atomic object.  Before the body of its constructor
nothing can be seen of it.
-/

namespace Samurai

namespace UdfpsSensor

variable {capacity : ℕ} {s t : UdfpsSensor} {a : SensorAction}

theorem mSensorInfo_step (hstep : SensorStep capacity s a t) :
    t.mSensorInfo = s.mSensorInfo := by
  cases hstep with
  | _ => rfl

/-- Nobody has called, and the worker has not seen the sensor enabled. -/
structure Asleep (s : UdfpsSensor) : Prop where
  disabled : s.mIsEnabled = false
  unwatched : s.worker.watching = false
  uncalled : ∀ c, s.caller c = .idle

theorem Asleep.effect_eq_none (hs : s.Asleep) (a : SensorAction) :
    s.effect a = none := by
  have hunwatched := hs.unwatched
  cases a with
  | caller c => simp [effect, hs.uncalled c]
  | worker =>
      cases hworker : s.worker with
      | check => simp [effect, hworker, idle, hs.disabled]
      | branch result =>
          rw [hworker] at hunwatched
          contradiction
      | _ => simp [effect, hworker]
  | _ => rfl

/-- An object without callers stays asleep until it is constructed. -/
theorem Asleep.step (hs : s.Asleep) (hstep : SensorStep capacity s a t)
    (hunborn : s.constructed = false) : t.Asleep := by
  obtain ⟨hdisabled, hunwatched, hcaller⟩ := hs
  cases hstep with
  | construct | fpNotify => exact ⟨hdisabled, hunwatched, hcaller⟩
  | call hborn => simp [hunborn] at hborn
  | watch _ _ hidle => simp [idle, hdisabled] at hidle
  | spuriousWake | start | stop | sleep | proceed | block | wake =>
      exact ⟨hdisabled, rfl, hcaller⟩
  | pollReturn hworker | unlock hworker | relock hworker | pollFailed hworker
  | post hworker | missFinger hworker | noFinger hworker =>
      rw [hworker] at hunwatched
      contradiction
  | activateLock hc | activateChange hc | activateSame hc | activatePipe hc
  | activateNotify hc | activateUnlock hc | modeLock hc | modeChange hc
  | modeSame hc | modeNotify hc | modeUnlock hc | modePipe hc | destroyPipe hc
  | destroyLock hc | destroyStop hc | destroyNotify hc | destroyUnlock hc
  | destroyJoin hc =>
      rw [hcaller] at hc
      contradiction

theorem constructed_step (hstep : SensorStep capacity s a t)
    (ha : ∀ pipeOk pollOk, a ≠ .construct pipeOk pollOk) :
    t.constructed = s.constructed := by
  cases hstep with
  | construct => exact absurd rfl (ha _ _)
  | _ => rfl

end UdfpsSensor

namespace StartingSensor

variable {capacity : ℕ} {s t : StartingSensor} {a : StartupAction}

/-- The step of the sensor machine that a step is, other than of construction
and of `Sensor::run`. -/
def sensorAction : StartupAction → Option SensorAction
  | .activate thread enable => some (.call thread (.activate enable))
  | .setOperationMode thread mode =>
      some (.call thread (.setOperationMode mode))
  | .caller thread => some (.caller thread)
  | .worker => some .worker
  | .pollReturn result => some (.pollReturn result)
  | .wakeUp => some .spuriousWake
  | .fpNotify fp => some (.fpNotify fp)
  | .enterConstructor | .construct | .dispatch | .sample _ => none

/-- What the constructors still have to write is taken as written. -/
def view (s : StartingSensor) : AtomicSensor :=
  { s.sensor.view with
    mSensorInfo := UdfpsSensor.sensorInfo s.sensor.mSensorInfo.sensorHandle }

def effect (s : StartingSensor) (a : StartupAction) : Option AtomicAction :=
  (sensorAction a).bind s.sensor.effect

/-- Outside `Sensor::run` a step is one of the sensor machine, or enters or
runs a constructor, or calls `run`. -/
inductive LateStep (capacity : ℕ) (s : StartingSensor) :
    StartupAction → StartingSensor → Prop
  | sensor {a : StartupAction} {b : SensorAction} {t : StartingSensor} :
      sensorAction a = some b →
      UdfpsSensor.SensorStep capacity s.sensor b t.sensor →
      t.dynamicClass = s.dynamicClass → t.loop = s.loop → LateStep capacity s a t
  | enterOneShotSensor {t : StartingSensor} : s.dynamicClass = .sensor →
      t.sensor = { s.sensor with
        mSensorInfo :=
          OneShotSensor.sensorInfo s.sensor.mSensorInfo.sensorHandle } →
      t.loop = s.loop → LateStep capacity s .enterConstructor t
  | enterUdfpsSensor {t : StartingSensor} : s.dynamicClass = .oneShotSensor →
      t.sensor = s.sensor → t.loop = s.loop →
      LateStep capacity s .enterConstructor t
  | construct {t : StartingSensor} : s.dynamicClass = .udfpsSensor →
      s.sensor.constructed = false →
      t.sensor = { s.sensor with
        mSensorInfo :=
          UdfpsSensor.sensorInfo s.sensor.mSensorInfo.sensorHandle
        constructed := true
        pipeOpen := true } →
      t.dynamicClass = s.dynamicClass → t.loop = s.loop →
      LateStep capacity s .construct t
  | dispatch {t : StartingSensor} : s.loop = none → t.sensor = s.sensor →
      t.dynamicClass = s.dynamicClass →
      (s.dynamicClass = .udfpsSensor → t.loop = some .udfpsSensor) →
      LateStep capacity s .dispatch t

theorem late_onSensor {b : SensorAction} {u : Option UdfpsSensor}
    (hb : sensorAction a = some b)
    (hu : (UdfpsSensor.machine capacity).step s.sensor b = u)
    (hstep : s.onSensor u = some t) : LateStep capacity s a t := by
  rcases onSensor_eq_some.mp hstep with ⟨v, rfl, rfl⟩
  exact .sensor hb (UdfpsSensor.step_cases hu) rfl rfl

theorem late_cases (hs : s.OutsideSensorRun)
    (hstep : (machine capacity).step s a = some t) :
    LateStep capacity s a t := by
  cases a with
  | enterConstructor =>
      simp only [machine, step, enterConstructor] at hstep
      split at hstep
      case h_1 hclass =>
          cases hstep
          exact .enterOneShotSensor hclass rfl rfl
      case h_2 hclass =>
          cases hstep
          exact .enterUdfpsSensor hclass rfl rfl
      case h_3 => contradiction
  | construct =>
      simp only [machine, step, construct] at hstep
      split at hstep
      case h_1 hclass =>
          rcases Option.map_eq_some_iff.mp hstep with ⟨u, hu, rfl⟩
          unfold UdfpsSensor.construct at hu
          split_ifs at hu with hborn
          cases hu
          refine .construct hclass (by simpa using hborn) ?_ rfl rfl
          simp
      case h_2 => contradiction
  | dispatch =>
      have hclass := (dispatch_eq_some hstep).2.2.2
      refine .dispatch (dispatch_eq_some hstep).1 (dispatch_eq_some hstep).2.1
        ?_ hclass
      simp only [machine, step, dispatch] at hstep
      split at hstep
      · cases hstep
        rfl
      · contradiction
  | activate | setOperationMode | pollReturn | fpNotify =>
      exact late_onSensor rfl rfl hstep
  | caller thread =>
      simp only [machine, step, loop_notify_outside hs] at hstep
      exact late_onSensor rfl rfl hstep
  | worker =>
      simp only [machine, step] at hstep
      split at hstep
      · contradiction
      · rename_i hloop
        exact absurd hloop (hs _)
      · rcases Option.map_eq_some_iff.mp hstep with ⟨u, hu, rfl⟩
        exact .sensor rfl (UdfpsSensor.step_cases (a := .worker) hu) rfl rfl
  | sample now =>
      simp only [machine, step] at hstep
      split_ifs at hstep with hloop
      exact absurd hloop (hs _)
  | wakeUp =>
      simp only [machine, step] at hstep
      split at hstep
      · rename_i hloop
        exact absurd hloop (hs _)
      · rename_i hloop
        exact absurd hloop (hs _)
      · exact late_onSensor rfl rfl hstep
      · contradiction

/-- The worker is not in `Sensor::run`, and the object is asleep until it is
constructed. -/
structure StartsLate (s : StartingSensor) : Prop where
  outside : s.OutsideSensorRun
  asleep : s.sensor.constructed = false → s.sensor.Asleep
  complete : s.sensor.constructed = true →
    s.dynamicClass = .udfpsSensor ∧ s.sensor.mSensorInfo =
      UdfpsSensor.sensorInfo s.sensor.mSensorInfo.sensorHandle

theorem OutsideSensorRun.congr (hs : s.OutsideSensorRun)
    (hloop : t.loop = s.loop) : t.OutsideSensorRun := by
  rw [OutsideSensorRun, hloop]
  exact hs

theorem sensorAction_ne_construct {b : SensorAction}
    (hb : sensorAction a = some b) (pipeOk pollOk : Bool) :
    b ≠ .construct pipeOk pollOk := by
  rintro rfl
  cases a with
  | _ => simp [sensorAction] at hb

theorem StartsLate.step (hs : s.StartsLate) (hlate : s.DispatchesLate a)
    (hstep : LateStep capacity s a t) : t.StartsLate := by
  obtain ⟨houtside, hasleep, hcomplete⟩ := hs
  cases hstep with
  | sensor hb hsensor hclass hloop =>
      have hborn := UdfpsSensor.constructed_step hsensor
        (sensorAction_ne_construct hb)
      have hinfo := UdfpsSensor.mSensorInfo_step hsensor
      refine ⟨houtside.congr hloop, ?_, ?_⟩
      · intro hunborn
        rw [hborn] at hunborn
        exact (hasleep hunborn).step hsensor hunborn
      · rw [hborn, hclass, hinfo]
        exact hcomplete
  | enterOneShotSensor hclass hsensor hloop =>
      have hunborn : s.sensor.constructed = false := by
        by_contra hborn
        rw [Bool.not_eq_false] at hborn
        rw [(hcomplete hborn).1] at hclass
        contradiction
      have hquiet := hasleep hunborn
      refine ⟨houtside.congr hloop, ?_, ?_⟩
      · intro _
        rw [hsensor]
        exact ⟨hquiet.disabled, hquiet.unwatched, hquiet.uncalled⟩
      · intro hborn
        rw [hsensor] at hborn
        exact absurd hborn (by simp [hunborn])
  | enterUdfpsSensor hclass hsensor hloop =>
      refine ⟨houtside.congr hloop, ?_, ?_⟩
      · rw [hsensor]
        exact hasleep
      · intro hborn
        rw [hsensor] at hborn
        rw [(hcomplete hborn).1] at hclass
        contradiction
  | construct hclass hunborn hsensor hsame hloop =>
      refine ⟨houtside.congr hloop, ?_, ?_⟩
      · intro h
        simp [hsensor] at h
      · intro _
        rw [hsame, hsensor]
        exact ⟨hclass, rfl⟩
  | dispatch hnone hsensor hclass hloop =>
      refine ⟨?_, ?_, ?_⟩
      · intro pc hpc
        rw [hloop (hlate rfl hnone)] at hpc
        cases hpc
      · rw [hsensor]
        exact hasleep
      · rw [hsensor, hclass]
        exact hcomplete

theorem initial_startsLate (hs : (machine capacity).Initial s) :
    s.StartsLate := by
  rcases hs with ⟨handle, fp, x, y, rfl⟩
  refine ⟨?_, ?_, ?_⟩
  · intro pc hpc
    cases hpc
  · intro _
    exact ⟨rfl, rfl, fun _ => rfl⟩
  · intro hborn
    cases hborn

theorem view_of_complete
    (hinfo : s.sensor.mSensorInfo =
      UdfpsSensor.sensorInfo s.sensor.mSensorInfo.sensorHandle) :
    s.view = s.sensor.view := by
  simp only [view, ← hinfo]
  rfl

theorem late_visible {b : AtomicAction} (hs : s.StartsLate)
    (hstep : LateStep capacity s a t) (heffect : s.effect a = some b) :
    AtomicSensor.machine.step s.view b = some t.view := by
  cases hstep with
  | sensor hb hsensor hclass hloop =>
      rw [effect, hb, Option.bind_some] at heffect
      have hborn : s.sensor.constructed = true := by
        by_contra hunborn
        rw [Bool.not_eq_true] at hunborn
        rw [(hs.asleep hunborn).effect_eq_none] at heffect
        contradiction
      have hinfo := (hs.complete hborn).2
      have hsame := UdfpsSensor.mSensorInfo_step hsensor
      rw [view_of_complete hinfo, view_of_complete (by rw [hsame, ← hinfo])]
      exact UdfpsSensor.effect_visible hsensor heffect
  | _ => simp [effect, sensorAction] at heffect

theorem late_hidden (hstep : LateStep capacity s a t)
    (heffect : s.effect a = none) : t.view = s.view := by
  cases hstep with
  | sensor hb hsensor hclass hloop =>
      rw [effect, hb, Option.bind_some] at heffect
      have hview := UdfpsSensor.effect_hidden hsensor heffect
      have hsame := UdfpsSensor.mSensorInfo_step hsensor
      simp only [view, hview, hsame]
  | enterOneShotSensor _ hsensor _ | enterUdfpsSensor _ hsensor _
  | construct _ _ hsensor _ _ | dispatch _ hsensor _ _ =>
      rw [view, hsensor]
      rfl

/-- Runs that call `run` late are runs of the atomic object. -/
theorem simulates_atomic (capacity : ℕ) :
    Machine.Simulates (machine capacity) AtomicSensor.machine DispatchesLate
      effect view StartsLate where
  keeps := fun _ _ _ hs hlate hstep => hs.step hlate (late_cases hs.outside hstep)
  visible := fun _ _ _ _ hs _ hstep heffect =>
    late_visible hs (late_cases hs.outside hstep) heffect
  hidden := fun _ _ _ hs _ hstep heffect =>
    late_hidden (late_cases hs.outside hstep) heffect

end StartingSensor

end Samurai
