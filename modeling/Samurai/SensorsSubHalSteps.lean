import Samurai.SensorsSubHalModel

/-!
# What one step of the sub-HAL can do

A call is refused with a reply and no other effect, or does its work at once,
or is carried on by its caller; the workers post.  No step changes which
sensors there are, their classes or what they say about themselves.
-/

namespace Samurai

/-- The handle a call names. -/
def SubHalCall.target : SubHalCall → Option ℤ
  | .activate sensorHandle _ | .batch sensorHandle _ _ | .flush sensorHandle =>
      some sensorHandle
  | .injectSensorData event => some event.sensorHandle
  | _ => none

namespace SubHal

/-- The calls that are answered at once and do nothing. -/
inductive Refused (s : SubHal) : SubHalCall → SensorsResult → Prop
  | missing {call : SubHalCall} {handle : ℤ} :
      call.target = some handle → OrderedMap.find handle s.mSensors = none →
      Refused s call .BAD_VALUE
  | flush {handle : ℤ} {r : RegisteredSensor} :
      OrderedMap.find handle s.mSensors = some r → r.flush ≠ .OK →
      Refused s (.flush handle) r.flush
  | injectSensorData {event : Event} {r : RegisteredSensor} :
      OrderedMap.find event.sensorHandle s.mSensors = some r →
      (r.injectEvent event).2 = false →
      Refused s (.injectSensorData event) (r.injectEvent event).1
  | registerDirectChannel :
      Refused s .registerDirectChannel .INVALID_OPERATION
  | unregisterDirectChannel {channelHandle : ℤ} :
      Refused s (.unregisterDirectChannel channelHandle) .INVALID_OPERATION
  | configDirectReport {sensorHandle channelHandle : ℤ} :
      Refused s (.configDirectReport sensorHandle channelHandle)
        .INVALID_OPERATION

inductive SubHalStep : SubHal → SubHalAction → SubHal → Prop
  | refuse {s : SubHal} {c : ℕ} {call : SubHalCall} {result : SensorsResult} :
      s.caller c = .idle → Refused s call result →
      SubHalStep s (.call c call) (s.reply call result)
  | activate {s : SubHal} {c : ℕ} {handle : ℤ} {enabled : Bool}
      {r : RegisteredSensor} :
      s.caller c = .idle → OrderedMap.find handle s.mSensors = some r →
      SubHalStep s (.call c (.activate handle enabled))
        ((s.update handle (·.activate enabled)).reply
          (.activate handle enabled) .OK)
  | batch {s : SubHal} {c : ℕ} {handle : ℤ} {period latency : Int64}
      {r : RegisteredSensor} :
      s.caller c = .idle → OrderedMap.find handle s.mSensors = some r →
      SubHalStep s (.call c (.batch handle period latency))
        ((s.update handle (·.batch period)).reply
          (.batch handle period latency) .OK)
  | flush {s : SubHal} {c : ℕ} {handle : ℤ} {r : RegisteredSensor} :
      s.caller c = .idle → OrderedMap.find handle s.mSensors = some r →
      r.flush = .OK →
      SubHalStep s (.call c (.flush handle)) (s.goto c (.flushPost handle))
  | inject {s : SubHal} {c : ℕ} {event : Event} {r : RegisteredSensor} :
      s.caller c = .idle →
      OrderedMap.find event.sensorHandle s.mSensors = some r →
      (r.injectEvent event).2 = true →
      SubHalStep s (.call c (.injectSensorData event))
        (s.goto c (.injectPost event))
  | setMode {s : SubHal} {c : ℕ} {mode : OperationMode} :
      s.caller c = .idle →
      SubHalStep s (.call c (.setOperationMode mode))
        (s.setOperationMode c (.setOperationMode mode) mode)
  | initializeHal {s : SubHal} {c proxy : ℕ} :
      s.caller c = .idle →
      SubHalStep s (.call c (.initializeHal proxy)) (s.initializeHal c proxy)
  | modeSensor {s : SubHal} {c : ℕ} {call : SubHalCall} {mode : OperationMode}
      {handle : ℤ} {rest : List ℤ} :
      s.caller c = .modeLoop call mode (handle :: rest) →
      SubHalStep s (.caller c)
        ((s.update handle (·.setOperationMode mode)).goto c
          (.modeLoop call mode rest))
  | modeEnd {s : SubHal} {c : ℕ} {call : SubHalCall} {mode : OperationMode} :
      s.caller c = .modeLoop call mode [] →
      SubHalStep s (.caller c) (s.goto c (.modeWrite call mode))
  | modeWrite {s : SubHal} {c : ℕ} {call : SubHalCall}
      {mode : OperationMode} :
      s.caller c = .modeWrite call mode →
      SubHalStep s (.caller c)
        (({ s with mCurrentOperationMode := mode }.reply call .OK).goto c
          .idle)
  | flushPost {s : SubHal} {c : ℕ} {handle : ℤ} {r : RegisteredSensor} :
      s.caller c = .flushPost handle →
      OrderedMap.find handle s.mSensors = some r →
      SubHalStep s (.caller c)
        (((s.postEvents .flushComplete r.flushEvent).reply
          (.flush handle) .OK).goto c .idle)
  | injectPost {s : SubHal} {c : ℕ} {event : Event} {r : RegisteredSensor} :
      s.caller c = .injectPost event →
      OrderedMap.find event.sensorHandle s.mSensors = some r →
      SubHalStep s (.caller c)
        (((s.postEvents .injected ⟨event, r.isWakeUpSensor⟩).reply
          (.injectSensorData event) .OK).goto c .idle)
  | sample {s : SubHal} {handle : ℤ} {r : RegisteredSensor} :
      OrderedMap.find handle s.mSensors = some r →
      r.dynamicClass ≠ .udfpsSensor → r.mIsEnabled = true →
      r.mMode = .normal →
      SubHalStep s (.sample handle)
        ((s.update handle (·.append (r.event 0 0))).postEvents .sample
          (r.event 0 0))
  | worker {s : SubHal} {handle : ℤ} {action : AtomicAction}
      {r : RegisteredSensor} {next : AtomicSensor} :
      OrderedMap.find handle s.mSensors = some r →
      r.dynamicClass = .udfpsSensor → action.ofWorker = true →
      (∀ x y, action ≠ .finger x y) →
      r.toAtomicSensor.step action = some next →
      SubHalStep s (.worker handle action) (s.update handle (·.take action))
  | finger {s : SubHal} {handle x y : ℤ} {r : RegisteredSensor} :
      OrderedMap.find handle s.mSensors = some r →
      r.dynamicClass = .udfpsSensor → r.watching = true →
      SubHalStep s (.worker handle (.finger x y))
        ((s.update handle (·.take (.finger x y))).postEvents .sample
          (r.event x y))

variable {s t : SubHal} {a : SubHalAction}

/-! ## Inversion of `step` -/

private theorem call_cases {c : ℕ} {call : SubHalCall}
    (hidle : s.caller c = .idle) :
    SubHalStep s (.call c call) (s.enter c call) := by
  cases call with
  | setOperationMode mode => exact .setMode hidle
  | initializeHal proxy => exact .initializeHal hidle
  | registerDirectChannel => exact .refuse hidle .registerDirectChannel
  | unregisterDirectChannel channelHandle =>
      exact .refuse hidle .unregisterDirectChannel
  | configDirectReport sensorHandle channelHandle =>
      exact .refuse hidle .configDirectReport
  | activate handle enabled =>
      simp only [enter, answer, SubHal.activate]
      cases hfind : OrderedMap.find handle s.mSensors with
      | none => exact .refuse hidle (.missing rfl hfind)
      | some r => exact .activate hidle hfind
  | batch handle period latency =>
      simp only [enter, answer, SubHal.batch]
      cases hfind : OrderedMap.find handle s.mSensors with
      | none => exact .refuse hidle (.missing rfl hfind)
      | some r => exact .batch hidle hfind
  | flush handle =>
      simp only [enter, SubHal.flush]
      cases hfind : OrderedMap.find handle s.mSensors with
      | none => exact .refuse hidle (.missing rfl hfind)
      | some r =>
          simp only
          split_ifs with hok
          · exact .flush hidle hfind hok
          · exact .refuse hidle (.flush hfind hok)
  | injectSensorData event =>
      simp only [enter, SubHal.injectSensorData]
      cases hfind : OrderedMap.find event.sensorHandle s.mSensors with
      | none => exact .refuse hidle (.missing rfl hfind)
      | some r =>
          simp only
          split_ifs with hposts
          · exact .inject hidle hfind hposts
          · exact .refuse hidle (.injectSensorData hfind (by simpa using hposts))

private theorem subHalCaller_cases {c : ℕ}
    (hstep : s.callerStep c = some t) : SubHalStep s (.caller c) t := by
  unfold callerStep at hstep
  cases hcaller : s.caller c with
  | idle => simp [hcaller] at hstep
  | modeLoop call mode rest =>
      cases rest with
      | nil =>
          simp only [hcaller] at hstep
          cases hstep
          exact .modeEnd hcaller
      | cons handle rest =>
          simp only [hcaller] at hstep
          cases hstep
          exact .modeSensor hcaller
  | modeWrite call mode =>
      simp only [hcaller] at hstep
      cases hstep
      exact .modeWrite hcaller
  | flushPost handle =>
      simp only [hcaller] at hstep
      cases hfind : OrderedMap.find handle s.mSensors with
      | none => simp [hfind] at hstep
      | some r =>
          simp only [hfind] at hstep
          cases hstep
          exact .flushPost hcaller hfind
  | injectPost event =>
      simp only [hcaller] at hstep
      cases hfind : OrderedMap.find event.sensorHandle s.mSensors with
      | none => simp [hfind] at hstep
      | some r =>
          simp only [hfind] at hstep
          cases hstep
          exact .injectPost hcaller hfind

private theorem subHalWorker_cases {handle : ℤ} {action : AtomicAction}
    (hstep : s.worker handle action = some t) :
    SubHalStep s (.worker handle action) t := by
  unfold worker at hstep
  cases hfind : OrderedMap.find handle s.mSensors with
  | none => simp [hfind] at hstep
  | some r =>
      simp only [hfind] at hstep
      split_ifs at hstep with hguard
      obtain ⟨hclass, hworker, henabled⟩ := hguard
      obtain ⟨next, hnext⟩ := Option.isSome_iff_exists.mp henabled
      cases action with
      | finger x y =>
          cases hstep
          apply SubHalStep.finger hfind hclass
          by_contra hwatching
          simp [AtomicSensor.step, hwatching] at hnext
      | watch | unwatch =>
          cases hstep
          exact .worker hfind hclass rfl (by simp) hnext
      | setEnabled _ | setOperationMode _ | destruct => contradiction

theorem step_cases (hstep : machine.step s a = some t) :
    SubHalStep s a t := by
  cases a with
  | call c call =>
      simp only [machine, step, SubHal.call] at hstep
      split_ifs at hstep with hidle
      cases hstep
      exact call_cases hidle
  | caller c => exact subHalCaller_cases hstep
  | worker handle action => exact subHalWorker_cases hstep
  | sample handle =>
      simp only [machine, step, SubHal.sample] at hstep
      cases hfind : OrderedMap.find handle s.mSensors with
      | none => simp [hfind] at hstep
      | some r =>
          simp only [hfind] at hstep
          split_ifs at hstep with hguard
          cases hstep
          exact .sample hfind hguard.1 hguard.2.1 hguard.2.2

/-! ## Updates of one sensor -/

theorem find_update {handle h : ℤ} {f : RegisteredSensor → RegisteredSensor}
    {r' : RegisteredSensor}
    (hfind : OrderedMap.find h (s.update handle f).mSensors = some r') :
    (h ≠ handle ∧ OrderedMap.find h s.mSensors = some r') ∨
      ∃ r, h = handle ∧ OrderedMap.find h s.mSensors = some r ∧ r' = f r := by
  by_cases hne : h = handle
  · subst hne
    rw [update, OrderedMap.find_modify_self] at hfind
    obtain ⟨r, hold, hnew⟩ := Option.map_eq_some_iff.mp hfind
    exact .inr ⟨r, rfl, hold, hnew.symm⟩
  · left
    refine ⟨hne, ?_⟩
    rwa [update, OrderedMap.find_modify_of_ne hne] at hfind

/-- What every sensor satisfied before it satisfies after an update that
keeps it. -/
theorem forall_update {handle : ℤ} {f : RegisteredSensor → RegisteredSensor}
    {P : ℤ → RegisteredSensor → Prop}
    (hs : ∀ h r, OrderedMap.find h s.mSensors = some r → P h r)
    (hf : ∀ r, P handle r → P handle (f r)) :
    ∀ h r, OrderedMap.find h (s.update handle f).mSensors = some r → P h r := by
  intro h r' hfind
  rcases find_update hfind with ⟨_, hold⟩ | ⟨r, rfl, hold, rfl⟩
  · exact hs h r' hold
  · exact hf r (hs h r hold)

end SubHal

end Samurai
