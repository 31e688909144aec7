import Samurai.SensorsSubHalShipped

/-!
# The sub-HAL as shipped is a sub-HAL

Where the worker calls `run` late, every run of the shipped sub-HAL and of the
threads in its sensor is a run of the sub-HAL whose one sensor is the atomic
object.  The calls, the replies and the posts are the same, and so are the
results about that sub-HAL.
-/

namespace Samurai

/-! ## The callers of the sensor -/

/-- The call a thread is in. -/
def CallerPc.request : CallerPc → Option SensorCall
  | .idle => none
  | .activateLock enable | .activateTest enable | .activatePipe enable
  | .activateNotify enable | .activateUnlock enable => some (.activate enable)
  | .modeLock mode | .modeTest mode | .modeNotify mode | .modeUnlock mode _
  | .modePipe mode _ => some (.setOperationMode mode)
  | .destroyPipe | .destroyLock | .destroyStop | .destroyNotify
  | .destroyUnlock | .destroyJoin | .destroyed => some .destroy

/-- The sensor has yet to see the mode. -/
def CallerPc.asks : CallerPc → Bool
  | .modeLock _ | .modeTest _ => true
  | _ => false

theorem CallerPc.request_eq_none {pc : CallerPc} :
    pc.request = none ↔ pc = .idle := by
  cases pc with
  | _ => simp [request]

namespace UdfpsSensor

variable {capacity : ℕ} {s t : UdfpsSensor} {a : SensorAction} {c : ℕ}

theorem caller_step (hstep : SensorStep capacity s (.caller c) t) :
    ∃ pc, t.caller = Function.update s.caller c pc ∧
      (pc = .idle ∨ pc.request = (s.caller c).request) ∧
      ((∀ mode, s.caller c ≠ .modeTest mode) → pc.asks = (s.caller c).asks) ∧
      (∀ mode, s.caller c = .modeTest mode → pc.asks = false) := by
  cases hstep with
  | activateLock hc | activateChange hc | activateSame hc | activatePipe hc
  | activateNotify hc | activateUnlock hc | modeLock hc | modeChange hc
  | modeSame hc | modeNotify hc | modeUnlock hc | modePipe hc | destroyPipe hc
  | destroyLock hc | destroyStop hc | destroyNotify hc | destroyUnlock hc
  | destroyJoin hc =>
      exact ⟨_, rfl, by simp [CallerPc.request, hc],
        by simp [CallerPc.asks, hc], by simp [CallerPc.asks, hc]⟩

theorem call_step {call : SensorCall}
    (hstep : SensorStep capacity s (.call c call) t) :
    t.caller = Function.update s.caller c call.entry := by
  cases hstep with
  | call => rfl

theorem caller_same (hstep : SensorStep capacity s a t)
    (hcall : ∀ c call, a ≠ .call c call) (hcaller : ∀ c, a ≠ .caller c) :
    t.caller = s.caller := by
  cases hstep with
  | call => exact absurd rfl (hcall _ _)
  | construct | fpNotify | spuriousWake | pollReturn | start | stop | sleep
  | watch | proceed | block | wake | unlock | relock | pollFailed | post
  | missFinger | noFinger => rfl
  | _ => exact absurd rfl (hcaller _)

theorem caller_effect_ne_finger (s : UdfpsSensor) (c : ℕ) (x y : ℤ) :
    s.effect (.caller c) ≠ some (.finger x y) := by
  rw [effect]
  split
  all_goals simp

theorem caller_effect_eq_none (hrequest : (s.caller c).request ≠ some .destroy)
    (hactivate : ∀ enable, s.caller c ≠ .activateTest enable)
    (hmode : ∀ mode, s.caller c ≠ .modeTest mode) :
    s.effect (.caller c) = none := by
  cases hc : s.caller c with
  | activateTest enable => exact absurd hc (hactivate enable)
  | modeTest mode => exact absurd hc (hmode mode)
  | destroyPipe | destroyStop => simp [hc, CallerPc.request] at hrequest
  | _ => simp [effect, hc]

end UdfpsSensor

namespace ShippedSubHal

/-! ## The view -/

/-- Where the sub-HAL sees a caller that is at `pc`, and in the sensor at
`inside`; a call of `activate` is not seen before it takes effect, nor after. -/
def seen (pc : ShippedPc) (inside : CallerPc) : SubHalPc :=
  match pc with
  | .idle | .activate _ => .idle
  | .setOperationMode call mode =>
      .modeLoop call mode (if inside.asks then [handle] else [])
  | .modeWrite call mode => .modeWrite call mode

def view (s : ShippedSubHal) : SubHal where
  mSensors := [(handle, registered s.sensor.view)]
  mCallback := s.mCallback
  mCurrentOperationMode := s.mCurrentOperationMode
  mNextHandle := handle + 1
  posted := s.posted
  nullPosts := s.nullPosts
  replies := s.replies
  caller := fun c => seen (s.caller c) (s.sensor.sensor.caller c)

def effect (s : ShippedSubHal) : ShippedAction → Option SubHalAction
  | .call thread (.activate sensorHandle enabled) =>
      if sensorHandle = handle then none
      else some (.call thread (.activate sensorHandle enabled))
  | .call thread call => some (.call thread call)
  | .caller thread =>
      match s.caller thread, s.sensor.sensor.caller thread with
      | .activate enabled, .activateTest _ =>
          some (.call thread (.activate handle enabled))
      | .setOperationMode _ _, .modeTest _ | .setOperationMode _ _, .idle
      | .modeWrite _ _, _ => some (.caller thread)
      | _, _ => none
  | .sensor action => (s.sensor.effect action).map (.worker handle)

end ShippedSubHal

/-- The call of the sensor a thread is in. -/
def ShippedPc.request : ShippedPc → Option SensorCall
  | .activate enabled => some (.activate enabled)
  | .setOperationMode _ mode => some (.setOperationMode mode)
  | .idle | .modeWrite _ _ => none

namespace ShippedSubHal

variable {capacity : ℕ} {s t : ShippedSubHal} {a : ShippedAction} {c : ℕ}

/-- The worker has called `run` late if at all, and the sensor executes what
its callers have called. -/
structure Follows (s : ShippedSubHal) : Prop where
  late : s.sensor.StartsLate
  serves : ∀ c, s.sensor.sensor.caller c = .idle ∨
    (s.sensor.sensor.caller c).request = (s.caller c).request

def DispatchesLate (s : ShippedSubHal) (a : ShippedAction) : Prop :=
  ∀ action, a = .sensor action → s.sensor.DispatchesLate action

/-! ## Steps of the sensor -/

/-- What the sensor posts with an effect. -/
def postsOf (v : AtomicSensor) : Option AtomicAction → List PostedEvent
  | some (.finger x y) => [v.event x y]
  | _ => []

theorem posted_step {v w : AtomicSensor} {b : AtomicAction}
    (hstep : AtomicSensor.machine.step v b = some w) :
    w.posted = v.posted ++ postsOf v (some b) := by
  cases b with
  | setEnabled | setOperationMode | destruct | unwatch =>
      cases hstep
      simp [postsOf]
  | watch =>
      obtain ⟨_, hw⟩ := Option.ite_none_right_eq_some.mp hstep
      rw [← Option.some.inj hw]
      simp [postsOf]
  | finger x y =>
      obtain ⟨_, hw⟩ := Option.ite_none_right_eq_some.mp hstep
      rw [← Option.some.inj hw]
      rfl

theorem sensorStep_cases {action : StartupAction} (hs : s.sensor.StartsLate)
    (hstep : s.sensorStep capacity action = some t) :
    ∃ r, StartingSensor.LateStep capacity s.sensor action r ∧
      t = { s with sensor := r }.postEvents .sample
        (postsOf s.sensor.view (s.sensor.effect action)) := by
  obtain ⟨r, hr, rfl⟩ := Option.map_eq_some_iff.mp hstep
  have hlate := StartingSensor.late_cases hs.outside hr
  refine ⟨r, hlate, ?_⟩
  have hposted : r.view.posted =
      s.sensor.view.posted ++ postsOf s.sensor.view (s.sensor.effect action) := by
    cases heffect : s.sensor.effect action with
    | none =>
        rw [StartingSensor.late_hidden hlate heffect]
        simp [postsOf]
    | some b =>
        exact posted_step (StartingSensor.late_visible hs hlate heffect)
  have hdrop : r.sensor.posted.drop s.sensor.sensor.posted.length =
      postsOf s.sensor.view (s.sensor.effect action) := by
    have hsame : r.sensor.posted = s.sensor.sensor.posted ++
      postsOf s.sensor.view (s.sensor.effect action) := hposted
    rw [hsame, List.drop_left]
  rw [hdrop]

@[simp] theorem postEvents_nil {source : PostSource} :
    s.postEvents source [] = s := by
  unfold postEvents
  split
  · simp
  · simp

theorem quiet_sensorStep {action : StartupAction} (hs : s.sensor.StartsLate)
    (hstep : s.sensorStep capacity action = some t)
    (hquiet : ∀ x y, s.sensor.effect action ≠ some (.finger x y)) :
    ∃ r, StartingSensor.LateStep capacity s.sensor action r ∧
      t = { s with sensor := r } := by
  obtain ⟨r, hlate, rfl⟩ := sensorStep_cases hs hstep
  refine ⟨r, hlate, ?_⟩
  have hnone : postsOf s.sensor.view (s.sensor.effect action) = [] := by
    unfold postsOf
    split
    · rename_i x y heffect
      exact absurd heffect (hquiet x y)
    · rfl
  rw [hnone, postEvents_nil]

/-! ## Calls -/

theorem view_goto (pc : ShippedPc) {inside : CallerPc} {r : StartingSensor}
    (hcaller : r.sensor.caller =
      Function.update s.sensor.sensor.caller c inside) :
    ({ s with sensor := r }.goto c pc).view =
      { s.view with
        mSensors := [(handle, registered r.view)]
        caller := Function.update s.view.caller c (seen pc inside) } := by
  have hseen : (fun d =>
      seen (Function.update s.caller c pc d) (r.sensor.caller d)) =
        Function.update s.view.caller c (seen pc inside) := by
    funext d
    rw [hcaller]
    by_cases hd : d = c
    · subst hd
      simp
    · simp [Function.update_of_ne hd, view]
  simp only [goto, view, hseen]

theorem serves_update (pc : ShippedPc) {inside : CallerPc} {r : StartingSensor}
    (hs : s.Follows)
    (hcaller : r.sensor.caller =
      Function.update s.sensor.sensor.caller c inside)
    (hinside : inside = .idle ∨ inside.request = pc.request) (d : ℕ) :
    r.sensor.caller d = .idle ∨
      (r.sensor.caller d).request =
        (Function.update s.caller c pc d).request := by
  rw [hcaller]
  by_cases hd : d = c
  · subst hd
    simpa using hinside
  · simpa [Function.update_of_ne hd] using hs.serves d

/-- What a step does is what the sub-HAL does. -/
def Shows (s : ShippedSubHal) (a : ShippedAction) (t : ShippedSubHal) : Prop :=
  match s.effect a with
  | some b => SubHal.machine.step s.view b = some t.view
  | none => t.view = s.view

theorem shows_of_visible {b : SubHalAction} (heffect : s.effect a = some b)
    (hstep : SubHal.machine.step s.view b = some t.view) : s.Shows a t := by
  rw [Shows, heffect]
  exact hstep

theorem shows_of_hidden (heffect : s.effect a = none)
    (hview : t.view = s.view) : s.Shows a t := by
  rw [Shows, heffect]
  exact hview

theorem sensor_of_call {call : SensorCall} {action : StartupAction}
    {r : StartingSensor} (haction : StartingSensor.sensorAction action =
      some (.call c call))
    (hlate : StartingSensor.LateStep capacity s.sensor action r) :
    r.sensor.caller =
        Function.update s.sensor.sensor.caller c call.entry ∧
      r.view = s.sensor.view := by
  have heffect : s.sensor.effect action = none := by
    rw [StartingSensor.effect, haction]
    rfl
  refine ⟨?_, StartingSensor.late_hidden hlate heffect⟩
  cases hlate with
  | sensor hb hsensor _ _ =>
      rw [haction, Option.some_inj] at hb
      subst hb
      exact UdfpsSensor.call_step hsensor
  | _ => simp [StartingSensor.sensorAction] at haction

theorem call_sensorStep {call : SensorCall} {action : StartupAction}
    (hs : s.Follows)
    (haction : StartingSensor.sensorAction action = some (.call c call))
    (hstep : s.sensorStep capacity action = some t) :
    ∃ r, t = { s with sensor := r } ∧ r.StartsLate ∧
      r.sensor.caller =
        Function.update s.sensor.sensor.caller c call.entry ∧
      r.view = s.sensor.view := by
  have heffect : s.sensor.effect action = none := by
    rw [StartingSensor.effect, haction]
    rfl
  obtain ⟨r, hlate, rfl⟩ := quiet_sensorStep hs.late hstep (by simp [heffect])
  have hdispatch : s.sensor.DispatchesLate action := by
    rintro rfl
    contradiction
  obtain ⟨hcaller, hview⟩ := sensor_of_call haction hlate
  exact ⟨r, rfl, hs.late.step hdispatch hlate, hcaller, hview⟩

theorem setOperationMode_follows {call : SubHalCall} {mode : OperationMode}
    (hs : s.Follows)
    (hstep : s.setOperationMode capacity c call mode = some t) :
    t.Follows ∧ t.view = s.view.setOperationMode c call mode := by
  obtain ⟨u, hsensor, rfl⟩ := Option.map_eq_some_iff.mp hstep
  obtain ⟨r, rfl, hlate, hcaller, hview⟩ := call_sensorStep hs rfl hsensor
  have hserves := serves_update (.setOperationMode call mode) hs hcaller
    (.inr rfl)
  refine ⟨⟨hlate, hserves⟩, ?_⟩
  rw [view_goto _ hcaller, hview]
  rfl

theorem activate_follows {enabled : Bool} (hs : s.Follows)
    (hidle : s.caller c = .idle)
    (hstep : s.activate capacity c handle enabled = some t) :
    t.Follows ∧ t.view = s.view := by
  rw [activate, if_pos rfl] at hstep
  obtain ⟨u, hsensor, rfl⟩ := Option.map_eq_some_iff.mp hstep
  obtain ⟨r, rfl, hlate, hcaller, hview⟩ := call_sensorStep hs rfl hsensor
  have hserves := serves_update (.activate enabled) hs hcaller (.inr rfl)
  refine ⟨⟨hlate, hserves⟩, ?_⟩
  have hsame : Function.update s.view.caller c
      (seen (.activate enabled) (SensorCall.activate enabled).entry) =
        s.view.caller := by
    rw [Function.update_eq_self_iff]
    simp [view, seen, hidle]
  rw [view_goto _ hcaller, hview, hsame]
  rfl

theorem find_handle :
    OrderedMap.find handle s.view.mSensors =
      some (registered s.sensor.view) :=
  if_pos rfl

theorem find_of_ne {sensorHandle : ℤ} (hne : sensorHandle ≠ handle) :
    OrderedMap.find sensorHandle s.view.mSensors = none :=
  if_neg hne.symm

/-- What the calls are told about is the constructed sensor. -/
theorem registered_view (hs : s.Follows)
    (hborn : s.sensor.sensor.constructed = true) :
    registered s.sensor.sensor.view = registered s.sensor.view := by
  rw [StartingSensor.view_of_complete (hs.late.complete hborn).2]

theorem view_enter {call : SubHalCall} (hidle : s.caller c = .idle) :
    SubHal.machine.step s.view (.call c call) = some (s.view.enter c call) := by
  have hseen : s.view.caller c = .idle := by
    simp [view, seen, hidle]
  exact if_pos hseen

/-- The sensor cannot inject: only additional information is answered `OK`, and
nothing is posted. -/
theorem injectEvent_snd (event : Event) :
    ((registered s.sensor.view).injectEvent event).2 = false := by
  have hflags : (registered s.sensor.view).mSensorInfo.flags =
      0 ||| SensorFlagBits.oneShotMode ||| SensorFlagBits.wakeUp := rfl
  have hnot : (registered s.sensor.view).supportsDataInjection = false := by
    rw [RegisteredSensor.supportsDataInjection, hflags]
    decide
  rw [RegisteredSensor.injectEvent, hnot]
  split_ifs
  · rfl
  · rfl
  · contradiction
  · contradiction

theorem injectSensorData_eq {event : Event} (hs : s.Follows)
    (hborn : s.sensor.sensor.constructed = true) :
    s.injectSensorData event = s.reply (.injectSensorData event)
      (if event.sensorHandle = handle then
        ((registered s.sensor.view).injectEvent event).1
      else .BAD_VALUE) := by
  rw [injectSensorData, registered_view hs hborn]
  split_ifs with hhandle
  · simp [injectEvent_snd]
  · rfl

theorem reply_follows {call : SubHalCall} {result : SensorsResult}
    (hs : s.Follows)
    (heffect : s.effect (.call c call) = some (.call c call))
    (hidle : s.caller c = .idle)
    (henter : s.view.enter c call = s.view.reply call result) :
    (s.reply call result).Follows ∧
      s.Shows (.call c call) (s.reply call result) := by
  refine ⟨⟨hs.late, hs.serves⟩, shows_of_visible heffect ?_⟩
  rw [view_enter hidle, henter]
  rfl

theorem call_follows {call : SubHalCall} (hs : s.Follows)
    (hstep : s.call capacity c call = some t) :
    t.Follows ∧ s.Shows (.call c call) t := by
  obtain ⟨⟨hborn, hidle⟩, hstep⟩ := Option.ite_none_right_eq_some.mp hstep
  cases call with
  | setOperationMode mode =>
      obtain ⟨ht, hshows⟩ := setOperationMode_follows hs hstep
      refine ⟨ht, shows_of_visible rfl ?_⟩
      rw [view_enter hidle, hshows]
      rfl
  | initializeHal proxy =>
      have hset : { s with mCallback := some proxy }.Follows :=
        ⟨hs.late, hs.serves⟩
      obtain ⟨ht, hshows⟩ := setOperationMode_follows hset hstep
      refine ⟨ht, shows_of_visible rfl ?_⟩
      rw [view_enter hidle, hshows]
      rfl
  | activate sensorHandle enabled =>
      by_cases hhandle : sensorHandle = handle
      · subst hhandle
        obtain ⟨ht, hshows⟩ := activate_follows hs hidle hstep
        exact ⟨ht, shows_of_hidden (by rw [effect, if_pos rfl]) hshows⟩
      · rw [enter, activate, if_neg hhandle, Option.some_inj] at hstep
        subst hstep
        apply reply_follows hs (by rw [effect, if_neg hhandle]) hidle
        simp [SubHal.enter, SubHal.answer, SubHal.activate, find_of_ne hhandle]
  | batch sensorHandle period latency =>
      cases hstep
      apply reply_follows hs rfl hidle
      by_cases hhandle : sensorHandle = handle
      · subst hhandle
        rw [if_pos rfl, SubHal.enter, SubHal.answer, SubHal.batch, find_handle]
        rfl
      · rw [if_neg hhandle, SubHal.enter, SubHal.answer, SubHal.batch,
          find_of_ne hhandle]
  | flush sensorHandle =>
      cases hstep
      apply reply_follows hs rfl hidle
      by_cases hhandle : sensorHandle = handle
      · subst hhandle
        rw [if_pos rfl, SubHal.enter, SubHal.flush, find_handle]
        rfl
      · rw [if_neg hhandle, SubHal.enter, SubHal.flush, find_of_ne hhandle]
  | injectSensorData event =>
      rw [enter, injectSensorData_eq hs hborn, Option.some_inj] at hstep
      subst hstep
      apply reply_follows hs rfl hidle
      by_cases hhandle : event.sensorHandle = handle
      · rw [if_pos hhandle, SubHal.enter, SubHal.injectSensorData, hhandle,
          find_handle]
        simp [injectEvent_snd]
      · rw [if_neg hhandle, SubHal.enter, SubHal.injectSensorData,
          find_of_ne hhandle]
  | registerDirectChannel | unregisterDirectChannel | configDirectReport =>
      cases hstep
      exact reply_follows hs rfl hidle rfl

/-! ## Callers inside the sensor -/

/-- A thread's statement inside the sensor. -/
structure InsideStep (s : ShippedSubHal) (c : ℕ) (r : StartingSensor)
    (inside : CallerPc) : Prop where
  late : r.StartsLate
  caller : r.sensor.caller = Function.update s.sensor.sensor.caller c inside
  request : inside = .idle ∨
    inside.request = (s.sensor.sensor.caller c).request
  asks : (∀ mode, s.sensor.sensor.caller c ≠ .modeTest mode) →
    inside.asks = (s.sensor.sensor.caller c).asks
  told : ∀ mode, s.sensor.sensor.caller c = .modeTest mode →
    inside.asks = false
  hidden : s.sensor.sensor.effect (.caller c) = none →
    r.view = s.sensor.view
  visible : ∀ b, s.sensor.sensor.effect (.caller c) = some b →
    AtomicSensor.machine.step s.sensor.view b = some r.view

theorem inside_cases (hs : s.Follows)
    (hstep : s.sensorStep capacity (.caller c) = some t) :
    ∃ r inside, t = { s with sensor := r } ∧ s.InsideStep c r inside := by
  obtain ⟨r, hlate, rfl⟩ := quiet_sensorStep hs.late hstep
    (UdfpsSensor.caller_effect_ne_finger s.sensor.sensor c)
  have hdispatch : s.sensor.DispatchesLate (.caller c) := by
    intro h
    contradiction
  have hkept := hs.late.step hdispatch hlate
  have hvisible := fun b => StartingSensor.late_visible (b := b) hs.late hlate
  have hhidden := StartingSensor.late_hidden hlate
  cases hlate with
  | sensor hb hsensor _ _ =>
      cases hb
      obtain ⟨inside, hcaller, hrequest, hasks, htold⟩ :=
        UdfpsSensor.caller_step hsensor
      exact ⟨r, inside, rfl, hkept, hcaller, hrequest, hasks, htold, hhidden,
        hvisible⟩

theorem goto_caller {r : StartingSensor} :
    { s with sensor := r }.goto c (s.caller c) = { s with sensor := r } := by
  simp [goto]

namespace InsideStep

variable {r : StartingSensor} {inside : CallerPc}

theorem follows (h : s.InsideStep c r inside) (hs : s.Follows) :
    { s with sensor := r }.Follows := by
  have hrequest : inside = .idle ∨ inside.request = (s.caller c).request := by
    rcases h.request with hidle | hsame
    · exact .inl hidle
    · rcases hs.serves c with hidle | hserves
      · rw [hidle] at hsame
        exact .inl (CallerPc.request_eq_none.mp hsame)
      · exact .inr (hsame.trans hserves)
  refine ⟨h.late, ?_⟩
  have hserves := serves_update (s.caller c) hs h.caller hrequest
  simpa using hserves

theorem view_eq (h : s.InsideStep c r inside) :
    { s with sensor := r }.view =
      { s.view with
        mSensors := [(handle, registered r.view)]
        caller := Function.update s.view.caller c
          (seen (s.caller c) inside) } := by
  rw [← view_goto (s.caller c) h.caller, goto_caller]

/-- Nothing of a statement shows that the atomic object does not see, and that
does not tell it the mode. -/
theorem view_same (h : s.InsideStep c r inside)
    (heffect : s.sensor.sensor.effect (.caller c) = none)
    (hasks : inside.asks = (s.sensor.sensor.caller c).asks) :
    { s with sensor := r }.view = s.view := by
  have hseen : seen (s.caller c) inside = s.view.caller c := by
    simp only [view, seen, hasks]
  rw [h.view_eq, h.hidden heffect, hseen, Function.update_eq_self]
  rfl

end InsideStep

/-- The sub-HAL destroys no sensor. -/
theorem Follows.not_destroying (hs : s.Follows) (c : ℕ) :
    (s.sensor.sensor.caller c).request ≠ some .destroy := by
  rcases hs.serves c with hidle | hserves
  · simp [hidle, CallerPc.request]
  · rw [hserves]
    cases s.caller c with
    | _ => simp [ShippedPc.request]

/-- The rest of a statement inside the sensor does not show. -/
theorem inside_follows (hs : s.Follows)
    (hstep : s.sensorStep capacity (.caller c) = some t)
    (hactivate : ∀ enable, s.sensor.sensor.caller c ≠ .activateTest enable)
    (hmode : ∀ mode, s.sensor.sensor.caller c ≠ .modeTest mode)
    (heffect : s.effect (.caller c) = none) :
    t.Follows ∧ s.Shows (.caller c) t := by
  have hnone := UdfpsSensor.caller_effect_eq_none (hs.not_destroying c) hactivate
    hmode
  obtain ⟨r, inside, rfl, h⟩ := inside_cases hs hstep
  refine ⟨h.follows hs, shows_of_hidden heffect ?_⟩
  exact h.view_same hnone (h.asks hmode)

theorem activate_returns {enabled : Bool} (hs : s.Follows)
    (hc : s.caller c = .activate enabled)
    (hinside : s.sensor.sensor.caller c = .idle) :
    (s.goto c .idle).Follows ∧ s.Shows (.caller c) (s.goto c .idle) := by
  have hcaller : s.sensor.sensor.caller =
      Function.update s.sensor.sensor.caller c .idle := by
    rw [← hinside, Function.update_eq_self]
  refine ⟨⟨hs.late, serves_update .idle hs hcaller (.inl rfl)⟩, ?_⟩
  refine shows_of_hidden (by simp [effect, hc, hinside]) ?_
  have hseen : seen .idle .idle = s.view.caller c := by
    simp [view, seen, hc]
  have hview := view_goto .idle hcaller
  rw [hseen, Function.update_eq_self] at hview
  exact hview

theorem activate_takes_effect {enabled e : Bool} (hs : s.Follows)
    (hc : s.caller c = .activate enabled)
    (hinside : s.sensor.sensor.caller c = .activateTest e)
    (hstep : s.sensorStep capacity (.caller c) = some t) :
    (t.reply (.activate handle enabled) .OK).Follows ∧
      s.Shows (.caller c) (t.reply (.activate handle enabled) .OK) := by
  have henabled : e = enabled := by
    have hserves := hs.serves c
    simpa [hc, hinside, CallerPc.request, ShippedPc.request] using hserves
  subst henabled
  obtain ⟨r, inside, rfl, h⟩ := inside_cases hs hstep
  have hfollows := h.follows hs
  refine ⟨⟨hfollows.late, hfollows.serves⟩, ?_⟩
  have hr := h.visible (.setEnabled e) (by simp [UdfpsSensor.effect, hinside])
  have hview : r.view = { s.sensor.view with mIsEnabled := e } :=
    (Option.some.inj hr).symm
  have hseen : seen (s.caller c) inside = s.view.caller c := by
    simp [view, seen, hc]
  have hidle : s.view.caller c = .idle := by
    simp [view, seen, hc]
  apply shows_of_visible (b := .call c (.activate handle e))
  · simp [effect, hc, hinside]
  · have hafter := h.view_eq
    rw [hview, hseen, Function.update_eq_self] at hafter
    have henter : SubHal.machine.step s.view (.call c (.activate handle e)) =
        some (s.view.enter c (.activate handle e)) := if_pos hidle
    have hreply (u : ShippedSubHal) (call : SubHalCall) :
        (u.reply call .OK).view = u.view.reply call .OK := rfl
    rw [henter, hreply, hafter, SubHal.enter, SubHal.answer, SubHal.activate,
      find_handle]
    rfl

/-- A caller of `activate` is inside the sensor. -/
theorem activate_inside {enabled : Bool} (hs : s.Follows)
    (hc : s.caller c = .activate enabled)
    (hstep : s.callerStep capacity c = some t) :
    t.Follows ∧ s.Shows (.caller c) t := by
  have hserves := hs.serves c
  rw [hc] at hserves
  cases hinside : s.sensor.sensor.caller c with
  | idle =>
      simp only [callerStep, hc, hinside, Option.some_inj] at hstep
      subst hstep
      exact activate_returns hs hc hinside
  | activateTest e =>
      simp only [callerStep, hc, hinside] at hstep
      obtain ⟨u, hu, rfl⟩ := Option.map_eq_some_iff.mp hstep
      exact activate_takes_effect hs hc hinside hu
  | _ =>
      simp only [callerStep, hc, hinside] at hstep
      have hmode : ∀ mode, s.sensor.sensor.caller c ≠ .modeTest mode := by
        intro mode hmode
        simp [hmode, CallerPc.request, ShippedPc.request] at hserves
      apply inside_follows hs hstep (by simp [hinside]) hmode
      simp [effect, hc, hinside]

theorem mode_returns {call : SubHalCall} {mode : OperationMode}
    (hs : s.Follows) (hc : s.caller c = .setOperationMode call mode)
    (hinside : s.sensor.sensor.caller c = .idle) :
    (s.goto c (.modeWrite call mode)).Follows ∧
      s.Shows (.caller c) (s.goto c (.modeWrite call mode)) := by
  have hcaller : s.sensor.sensor.caller =
      Function.update s.sensor.sensor.caller c .idle := by
    rw [← hinside, Function.update_eq_self]
  refine ⟨⟨hs.late, serves_update _ hs hcaller (.inl rfl)⟩, ?_⟩
  apply shows_of_visible (b := .caller c)
  · simp [effect, hc, hinside]
  · have hloop : s.view.caller c = .modeLoop call mode [] := by
      simp [view, seen, hc, hinside, CallerPc.asks]
    have hview := view_goto (.modeWrite call mode) hcaller
    simp only [SubHal.machine, SubHal.step, SubHal.callerStep, hloop]
    exact congrArg some hview.symm

theorem mode_tells {call : SubHalCall} {mode m : OperationMode}
    (hs : s.Follows) (hc : s.caller c = .setOperationMode call mode)
    (hinside : s.sensor.sensor.caller c = .modeTest m)
    (hstep : s.sensorStep capacity (.caller c) = some t) :
    t.Follows ∧ s.Shows (.caller c) t := by
  have hmode : m = mode := by
    have hserves := hs.serves c
    simpa [hc, hinside, CallerPc.request, ShippedPc.request] using hserves
  subst hmode
  obtain ⟨r, inside, rfl, h⟩ := inside_cases hs hstep
  refine ⟨h.follows hs, ?_⟩
  have hr := h.visible (.setOperationMode m)
    (by simp [UdfpsSensor.effect, hinside])
  have hview : r.view = { s.sensor.view with mMode := m } :=
    (Option.some.inj hr).symm
  have hseen : seen (s.caller c) inside = .modeLoop call m [] := by
    simp [seen, hc, h.told m hinside]
  have hloop : s.view.caller c = .modeLoop call m [handle] := by
    simp [view, seen, hc, hinside, CallerPc.asks]
  apply shows_of_visible (b := .caller c)
  · simp [effect, hc, hinside]
  · rw [h.view_eq, hview, hseen]
    simp only [SubHal.machine, SubHal.step, SubHal.callerStep, hloop]
    rfl

theorem mode_inside {call : SubHalCall} {mode : OperationMode}
    (hs : s.Follows) (hc : s.caller c = .setOperationMode call mode)
    (hstep : s.callerStep capacity c = some t) :
    t.Follows ∧ s.Shows (.caller c) t := by
  have hserves := hs.serves c
  rw [hc] at hserves
  cases hinside : s.sensor.sensor.caller c with
  | idle =>
      simp only [callerStep, hc, hinside, Option.some_inj] at hstep
      subst hstep
      exact mode_returns hs hc hinside
  | modeTest m =>
      simp only [callerStep, hc, hinside] at hstep
      exact mode_tells hs hc hinside hstep
  | _ =>
      simp only [callerStep, hc, hinside] at hstep
      have hactivate : ∀ enable,
          s.sensor.sensor.caller c ≠ .activateTest enable := by
        intro enable hactivate
        simp [hactivate, CallerPc.request, ShippedPc.request] at hserves
      apply inside_follows hs hstep hactivate (by simp [hinside])
      simp [effect, hc, hinside]

theorem modeWrite_follows {call : SubHalCall} {mode : OperationMode}
    (hs : s.Follows) (hc : s.caller c = .modeWrite call mode)
    (hstep : s.callerStep capacity c = some t) :
    t.Follows ∧ s.Shows (.caller c) t := by
  have hinside : s.sensor.sensor.caller c = .idle := by
    rcases hs.serves c with hidle | hserves
    · exact hidle
    · rw [hc] at hserves
      exact CallerPc.request_eq_none.mp hserves
  have hcaller : s.sensor.sensor.caller =
      Function.update s.sensor.sensor.caller c .idle := by
    rw [← hinside, Function.update_eq_self]
  simp only [callerStep, hc, Option.some_inj] at hstep
  subst hstep
  have hserves := serves_update .idle hs hcaller (.inl rfl)
  refine ⟨⟨hs.late, hserves⟩, ?_⟩
  apply shows_of_visible (b := .caller c)
  · simp [effect, hc]
  · have hwrite : s.view.caller c = .modeWrite call mode := by
      simp [view, seen, hc]
    let u : ShippedSubHal :=
      { s with mCurrentOperationMode := mode }.reply call .OK
    have hview : (u.goto c .idle).view = _ :=
      view_goto (s := u) .idle hcaller
    simp only [SubHal.machine, SubHal.step, SubHal.callerStep, hwrite]
    exact congrArg some hview.symm

theorem caller_follows (hs : s.Follows)
    (hstep : s.callerStep capacity c = some t) :
    t.Follows ∧ s.Shows (.caller c) t := by
  cases hc : s.caller c with
  | idle => simp [callerStep, hc] at hstep
  | activate enabled => exact activate_inside hs hc hstep
  | setOperationMode call mode => exact mode_inside hs hc hstep
  | modeWrite call mode => exact modeWrite_follows hs hc hstep

/-! ## Steps of the worker -/

theorem late_caller_same {action : StartupAction} {r : StartingSensor}
    (hours : action.ofCaller = false)
    (hlate : StartingSensor.LateStep capacity s.sensor action r) :
    r.sensor.caller = s.sensor.sensor.caller := by
  cases hlate with
  | sensor hb hsensor _ _ =>
      apply UdfpsSensor.caller_same hsensor
      · rintro c call rfl
        cases action with
        | activate | setOperationMode => contradiction
        | _ => simp [StartingSensor.sensorAction] at hb
      · rintro c rfl
        cases action with
        | caller => contradiction
        | _ => simp [StartingSensor.sensorAction] at hb
  | enterOneShotSensor _ hsensor _ | enterUdfpsSensor _ hsensor _
  | construct _ _ hsensor _ _ | dispatch _ hsensor _ _ => rw [hsensor]

theorem effect_ofWorker {action : StartupAction} {b : AtomicAction}
    (hours : action.ofCaller = false)
    (heffect : s.sensor.effect action = some b) : b.ofWorker = true := by
  cases action with
  | worker =>
      have hworker : s.sensor.sensor.effect .worker = some b := heffect
      rw [UdfpsSensor.effect] at hworker
      split at hworker
      · split_ifs at hworker
        cases hworker
        rfl
      · dsimp only at hworker
        split_ifs at hworker
        · cases hworker
          rfl
        · cases hworker
          rfl
      · cases hworker
        rfl
      · contradiction
  | activate | setOperationMode | caller => contradiction
  | _ => simp [StartingSensor.effect, StartingSensor.sensorAction,
      UdfpsSensor.effect] at heffect

theorem view_sensor {r : StartingSensor}
    (hcaller : r.sensor.caller = s.sensor.sensor.caller) :
    { s with sensor := r }.view =
      { s.view with mSensors := [(handle, registered r.view)] } := by
  simp only [view, hcaller]

theorem view_postEvents {source : PostSource} {post : PostedEvent} :
    (s.postEvents source [post]).view = s.view.postEvents source post := by
  cases hcallback : s.mCallback with
  | none => simp [view, postEvents, SubHal.postEvents, hcallback]
  | some proxy => simp [view, postEvents, SubHal.postEvents, hcallback]

@[simp] theorem postEvents_sensor {source : PostSource}
    {posts : List PostedEvent} :
    (s.postEvents source posts).sensor = s.sensor := by
  unfold postEvents
  split
  · rfl
  · rfl

@[simp] theorem postEvents_caller {source : PostSource}
    {posts : List PostedEvent} :
    (s.postEvents source posts).caller = s.caller := by
  unfold postEvents
  split
  · rfl
  · rfl

theorem update_view {f : RegisteredSensor → RegisteredSensor} :
    s.view.update handle f =
      { s.view with mSensors := [(handle, f (registered s.sensor.view))] } := by
  simp [SubHal.update, OrderedMap.modify, view]

theorem view_worker {b : AtomicAction} {r : StartingSensor}
    (hcaller : r.sensor.caller = s.sensor.sensor.caller)
    (hworker : b.ofWorker = true)
    (hb : AtomicSensor.machine.step s.sensor.view b = some r.view) :
    SubHal.machine.step s.view (.worker handle b) =
      some ({ s with sensor := r }.postEvents .sample
        (postsOf s.sensor.view (some b))).view := by
  have hstep : (registered s.sensor.view).toAtomicSensor.step b =
      some r.view := hb
  have htake : (registered s.sensor.view).take b = registered r.view := by
    rw [RegisteredSensor.take, hstep]
    rfl
  have hguard : (registered s.sensor.view).dynamicClass = .udfpsSensor ∧
      b.ofWorker = true ∧
      ((registered s.sensor.view).toAtomicSensor.step b).isSome = true :=
    ⟨rfl, hworker, by rw [hstep]; rfl⟩
  simp only [SubHal.machine, SubHal.step, SubHal.worker, find_handle]
  rw [if_pos hguard, update_view, htake, ← view_sensor hcaller]
  cases b with
  | finger x y => exact congrArg some view_postEvents.symm
  | watch | unwatch => exact congrArg (some ∘ view) postEvents_nil.symm
  | setEnabled | setOperationMode | destruct => contradiction

theorem sensor_follows {action : StartupAction} (hs : s.Follows)
    (hlate : s.sensor.DispatchesLate action)
    (hours : action.ofCaller = false)
    (hstep : s.sensorStep capacity action = some t) :
    t.Follows ∧ s.Shows (.sensor action) t := by
  obtain ⟨r, hr, rfl⟩ := sensorStep_cases hs.late hstep
  have hcaller := late_caller_same hours hr
  constructor
  · refine ⟨?_, ?_⟩
    · rw [postEvents_sensor]
      exact hs.late.step hlate hr
    · simpa [hcaller] using hs.serves
  · cases heffect : s.sensor.effect action with
    | none =>
        have hview := StartingSensor.late_hidden hr heffect
        apply shows_of_hidden
        · rw [effect, heffect, Option.map_none]
        · have hnone : postsOf s.sensor.view none = [] := rfl
          rw [hnone, postEvents_nil, view_sensor hcaller, hview]
          rfl
    | some b =>
        have hb := StartingSensor.late_visible hs.late hr heffect
        apply shows_of_visible (b := .worker handle b)
        · rw [effect, heffect, Option.map_some]
        · exact view_worker hcaller (effect_ofWorker hours heffect) hb

/-! ## Runs -/

theorem step_follows (hs : s.Follows) (hlate : s.DispatchesLate a)
    (hstep : (machine capacity).step s a = some t) :
    t.Follows ∧ s.Shows a t := by
  cases a with
  | call c call => exact call_follows hs hstep
  | caller c => exact caller_follows hs hstep
  | sensor action =>
      obtain ⟨hours, hsensor⟩ := Option.ite_none_left_eq_some.mp hstep
      exact sensor_follows hs (hlate action rfl) (by simpa using hours) hsensor

theorem simulates_subHal (capacity : ℕ) :
    Machine.Simulates (machine capacity) SubHal.machine DispatchesLate effect
      view Follows where
  keeps := fun _ _ _ hs hlate hstep => (step_follows hs hlate hstep).1
  visible := by
    intro s a t b hs hlate hstep heffect
    have hshows := (step_follows hs hlate hstep).2
    rw [Shows, heffect] at hshows
    exact hshows
  hidden := by
    intro s a t hs hlate hstep heffect
    have hshows := (step_follows hs hlate hstep).2
    rw [Shows, heffect] at hshows
    exact hshows

theorem initial_follows (hs : (machine capacity).Initial s) : s.Follows := by
  obtain ⟨fp, x, y, rfl⟩ := hs
  have hsensor : (StartingSensor.machine capacity).Initial
      (initial fp x y).sensor := ⟨handle, fp, x, y, rfl⟩
  exact ⟨StartingSensor.initial_startsLate hsensor, fun _ => .inl rfl⟩

theorem initial_view (hs : (machine capacity).Initial s) :
    s.view = SubHal.shipped := by
  obtain ⟨fp, x, y, rfl⟩ := hs
  rfl

end ShippedSubHal

end Samurai
