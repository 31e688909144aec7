import Samurai.SensorsSubHalDispatch

/-!
# Every event once

`postEvents` hands an event to the proxy through `mCallback`, which is null
until `initialize`.  If the proxy initializes the sub-HAL before any other
call, no event is lost and none is sent twice: a sensor's events arrive in the
order it raised them, a flush that succeeds is completed once, and an event is
injected for each injection that succeeds, other than of additional
information.
-/

namespace Samurai

namespace SubHal

variable {s t : SubHal} {a : SubHalAction}

/-- The proxy's first call is `initialize`. -/
def InitializedFirst (s : SubHal) : SubHalAction → Prop
  | .call _ call =>
      s.mCallback = none → ∃ proxy, call = .initializeHal proxy
  | _ => True

/-! ## Logs -/

def samplesOf (handle : ℤ) (posted : List SubHalPost) : List PostedEvent :=
  (posted.filter fun p =>
    p.source = .sample ∧ p.post.event.sensorHandle = handle).map (·.post)

def flushesOf (handle : ℤ) (posted : List SubHalPost) : ℕ :=
  posted.countP fun p =>
    p.source = .flushComplete ∧ p.post.event.sensorHandle = handle

def injections (posted : List SubHalPost) : List Event :=
  (posted.filter fun p => p.source = .injected).map (·.post.event)

def flushesAnswered (handle : ℤ) (replies : List (SubHalCall × SensorsResult)) :
    ℕ :=
  replies.countP fun r => r = (.flush handle, .OK)

/-- The event an answer says was injected: one with additional information is
answered `OK`, but it is for the device and goes no further. -/
def injectedBy : SubHalCall × SensorsResult → Option Event
  | (.injectSensorData event, .OK) =>
      if event.sensorType = additionalInfo then none else some event
  | _ => none

def injectionsAnswered (replies : List (SubHalCall × SensorsResult)) :
    List Event :=
  replies.filterMap injectedBy

/-- The log of the proxy agrees with what the sensors raised and with what the
callers were told. -/
structure Accounts (s : SubHal) : Prop where
  samples : ∀ handle r, OrderedMap.find handle s.mSensors = some r →
    samplesOf handle s.posted = r.posted
  flushes : ∀ handle,
    flushesOf handle s.posted = flushesAnswered handle s.replies
  injections : injections s.posted = injectionsAnswered s.replies
  complete : s.nullPosts = 0

/-- Before `initialize` nothing can raise an event. -/
def Dormant (s : SubHal) : Prop :=
  s.mCallback = none → (∀ c, s.caller c = .idle) ∧
    ∀ handle r, OrderedMap.find handle s.mSensors = some r →
      r.mIsEnabled = false ∧ r.watching = false

/-! ## Steps of a sensor -/

theorem take_posted {action : AtomicAction} {r : RegisteredSensor}
    (hquiet : ∀ x y, action ≠ .finger x y) :
    (r.take action).posted = r.posted := by
  unfold RegisteredSensor.take
  cases action with
  | finger x y => exact absurd rfl (hquiet x y)
  | watch =>
      simp only [AtomicSensor.step]
      split_ifs <;> rfl
  | setEnabled _ | setOperationMode _ | destruct | unwatch => rfl

theorem take_finger {r : RegisteredSensor} {x y : ℤ}
    (hwatching : r.watching = true) :
    r.take (.finger x y) =
      { r with
        mIsEnabled := false
        watching := false
        posted := r.posted ++ [r.event x y] } := by
  simp [RegisteredSensor.take, AtomicSensor.step, hwatching]

/-! ## Dormancy -/

theorem Dormant.callback_of_caller (hs : s.Dormant) (c : ℕ)
    (hbusy : s.caller c ≠ .idle) : ∃ proxy, s.mCallback = some proxy := by
  cases hcallback : s.mCallback with
  | some proxy => exact ⟨proxy, rfl⟩
  | none => exact absurd ((hs hcallback).1 c) hbusy

theorem Dormant.callback_of_sensor (hs : s.Dormant) {handle : ℤ}
    {r : RegisteredSensor} (hfind : OrderedMap.find handle s.mSensors = some r)
    (hawake : r.mIsEnabled = true ∨ r.watching = true) :
    ∃ proxy, s.mCallback = some proxy := by
  cases hcallback : s.mCallback with
  | some proxy => exact ⟨proxy, rfl⟩
  | none =>
      have hoff := (hs hcallback).2 handle r hfind
      rcases hawake with henabled | hwatching
      · rw [hoff.1] at henabled
        contradiction
      · rw [hoff.2] at hwatching
        contradiction

theorem postEvents_some {proxy : ℕ} {source : PostSource} {post : PostedEvent}
    (hcallback : s.mCallback = some proxy) :
    s.postEvents source post =
      { s with posted := s.posted ++ [⟨proxy, source, post⟩] } := by
  simp [postEvents, hcallback]

theorem postEvents_mCallback {source : PostSource} {post : PostedEvent} :
    (s.postEvents source post).mCallback = s.mCallback := by
  unfold postEvents
  cases s.mCallback <;> rfl

/-- Once there is a proxy there is one for good. -/
theorem dormant_of_callback {proxy : ℕ} (hcallback : s.mCallback = some proxy) :
    s.Dormant := by
  intro hnone
  rw [hcallback] at hnone
  contradiction

theorem not_initialized {c : ℕ} {call : SubHalCall}
    (hok : InitializedFirst s (.call c call))
    (hcall : ∀ proxy, call ≠ .initializeHal proxy) :
    ∃ proxy, s.mCallback = some proxy := by
  cases hcallback : s.mCallback with
  | some proxy => exact ⟨proxy, rfl⟩
  | none =>
      obtain ⟨proxy, hproxy⟩ := hok hcallback
      exact absurd hproxy (hcall proxy)

theorem target_ne_initializeHal {call : SubHalCall} {result : SensorsResult}
    (hrefused : Refused s call result) (proxy : ℕ) :
    call ≠ .initializeHal proxy := by
  rintro rfl
  cases hrefused
  contradiction

theorem Dormant.step (hs : s.Dormant) (hok : InitializedFirst s a)
    (hstep : SubHalStep s a t) : t.Dormant := by
  cases hstep
  case refuse hrefused =>
      obtain ⟨proxy, hcallback⟩ :=
        not_initialized hok (target_ne_initializeHal hrefused)
      exact dormant_of_callback hcallback
  case activate | batch | flush | inject | setMode =>
      obtain ⟨proxy, hcallback⟩ := not_initialized hok (by simp)
      exact dormant_of_callback hcallback
  case initializeHal => exact dormant_of_callback rfl
  case modeSensor c _ _ _ _ hc | modeEnd c _ _ hc | modeWrite c _ _ hc =>
      obtain ⟨proxy, hcallback⟩ := hs.callback_of_caller c (by simp [hc])
      exact dormant_of_callback hcallback
  case flushPost c _ _ hc _ | injectPost c _ _ hc _ =>
      obtain ⟨proxy, hcallback⟩ := hs.callback_of_caller c (by simp [hc])
      exact dormant_of_callback (postEvents_mCallback.trans hcallback)
  case sample hfind _ henabled _ =>
      obtain ⟨proxy, hcallback⟩ := hs.callback_of_sensor hfind (.inl henabled)
      exact dormant_of_callback (postEvents_mCallback.trans hcallback)
  case finger hfind _ hwatching =>
      obtain ⟨proxy, hcallback⟩ := hs.callback_of_sensor hfind (.inr hwatching)
      exact dormant_of_callback (postEvents_mCallback.trans hcallback)
  case worker handle action r next hfind _ hworker _ hnext =>
      intro hcallback
      refine ⟨(hs hcallback).1, ?_⟩
      apply forall_update (hs hcallback).2
      intro r' hoff
      cases action with
      | unwatch => exact ⟨hoff.1, rfl⟩
      | watch =>
          simp [RegisteredSensor.take, AtomicSensor.step, hoff.1, hoff.2]
      | finger _ _ =>
          simp [RegisteredSensor.take, AtomicSensor.step, hoff.1, hoff.2]
      | setEnabled _ | setOperationMode _ | destruct => contradiction

/-! ## Accounts -/

theorem samples_postEvents {proxy : ℕ} {handle : ℤ} {posted : List SubHalPost}
    {source : PostSource} {post : PostedEvent} :
    samplesOf handle (posted ++ [⟨proxy, source, post⟩]) =
      samplesOf handle posted ++
        if source = .sample ∧ post.event.sensorHandle = handle then [post]
        else [] := by
  unfold samplesOf
  rw [List.filter_append, List.map_append]
  by_cases hpost : source = .sample ∧ post.event.sensorHandle = handle
  · simp [hpost]
  · rw [if_neg hpost, List.filter_cons_of_neg (by simpa using hpost)]
    rfl

theorem flushes_postEvents {proxy : ℕ} {handle : ℤ} {posted : List SubHalPost}
    {source : PostSource} {post : PostedEvent} :
    flushesOf handle (posted ++ [⟨proxy, source, post⟩]) =
      flushesOf handle posted +
        if source = .flushComplete ∧ post.event.sensorHandle = handle then 1
        else 0 := by
  simp [flushesOf, List.countP_append, List.countP_cons]

theorem injections_postEvents {proxy : ℕ} {posted : List SubHalPost}
    {source : PostSource} {post : PostedEvent} :
    injections (posted ++ [⟨proxy, source, post⟩]) =
      injections posted ++
        if source = .injected then [post.event] else [] := by
  unfold injections
  rw [List.filter_append, List.map_append]
  cases source <;> simp

theorem flushes_reply {handle : ℤ} {call : SubHalCall} {result : SensorsResult}
    {replies : List (SubHalCall × SensorsResult)} :
    flushesAnswered handle (replies ++ [(call, result)]) =
      flushesAnswered handle replies +
        if call = .flush handle ∧ result = .OK then 1 else 0 := by
  simp [flushesAnswered, List.countP_append, List.countP_cons]

theorem injections_reply {call : SubHalCall} {result : SensorsResult}
    {replies : List (SubHalCall × SensorsResult)} :
    injectionsAnswered (replies ++ [(call, result)]) =
      injectionsAnswered replies ++ (injectedBy (call, result)).toList := by
  simp [injectionsAnswered, List.filterMap_append, List.filterMap_cons]
  cases injectedBy (call, result) <;> rfl

/-- A refusal is neither a flush nor an injection that succeeds. -/
theorem quiet_of_refused {call : SubHalCall} {result : SensorsResult}
    (hrefused : Refused s call result) :
    (∀ handle, ¬ (call = .flush handle ∧ result = .OK)) ∧
      injectedBy (call, result) = none := by
  cases hrefused
  case missing => exact ⟨by simp, by cases call <;> rfl⟩
  case flush r _ hnot =>
      refine ⟨fun handle h => hnot h.2, rfl⟩
  case injectSensorData event r hfind hposts =>
      refine ⟨by simp, ?_⟩
      unfold RegisteredSensor.injectEvent at hposts ⊢
      split_ifs at hposts ⊢ with htype hsupports hmode <;>
        simp_all [injectedBy]
  case registerDirectChannel | unregisterDirectChannel | configDirectReport =>
      exact ⟨by simp, rfl⟩

theorem Accounts.refuse (hs : s.Accounts) {call : SubHalCall}
    {result : SensorsResult} (hrefused : Refused s call result) :
    (s.reply call result).Accounts := by
  have hquiet := quiet_of_refused hrefused
  constructor
  · exact hs.samples
  · intro handle
    rw [reply, flushes_reply, if_neg (hquiet.1 handle)]
    exact hs.flushes handle
  · rw [reply, injections_reply, hquiet.2]
    simpa using hs.injections
  · exact hs.complete

/-- The reply to a call that is neither a flush nor an injection. -/
theorem Accounts.reply (hs : s.Accounts) {call : SubHalCall}
    {result : SensorsResult} (hflush : ∀ handle, call ≠ .flush handle)
    (hinject : ∀ event, call ≠ .injectSensorData event) :
    (s.reply call result).Accounts := by
  constructor
  · exact hs.samples
  · intro h
    rw [SubHal.reply, flushes_reply, if_neg fun hcall => hflush h hcall.1]
    exact hs.flushes h
  · have hnone : injectedBy (call, result) = none := by
      cases call with
      | injectSensorData event => exact absurd rfl (hinject event)
      | _ => rfl
    rw [SubHal.reply, injections_reply, hnone, Option.toList_none,
      List.append_nil]
    exact hs.injections
  · exact hs.complete

/-- A sensor raises an event, which is sent. -/
theorem Accounts.raise (hs : s.Accounts) {proxy : ℕ} {handle : ℤ}
    {f : RegisteredSensor → RegisteredSensor} {r : RegisteredSensor}
    {post : PostedEvent} (hcallback : s.mCallback = some proxy)
    (hfind : OrderedMap.find handle s.mSensors = some r)
    (hhandle : post.event.sensorHandle = handle)
    (hf : (f r).posted = r.posted ++ [post]) :
    ((s.update handle f).postEvents .sample post).Accounts := by
  have hsent : (s.update handle f).postEvents .sample post =
      { s.update handle f with
        posted := s.posted ++ [⟨proxy, .sample, post⟩] } :=
    postEvents_some hcallback
  rw [hsent]
  constructor
  · intro h r' hfind'
    rw [samples_postEvents]
    rcases find_update hfind' with ⟨hne, hold⟩ | ⟨r'', rfl, hold, rfl⟩
    · have hother : post.event.sensorHandle ≠ h := by
        rw [hhandle]
        exact Ne.symm hne
      rw [if_neg fun hpost => hother hpost.2, List.append_nil]
      exact hs.samples h r' hold
    · have hsame : r'' = r := Option.some.inj (hold.symm.trans hfind)
      rw [if_pos ⟨rfl, hhandle⟩, hsame, hf, hs.samples h r hfind]
  · intro h
    rw [flushes_postEvents]
    exact hs.flushes h
  · rw [injections_postEvents, if_neg (by simp), List.append_nil]
    exact hs.injections
  · exact hs.complete

theorem Accounts.flushed (hs : s.Accounts) {proxy : ℕ} {handle : ℤ}
    {post : PostedEvent} (hcallback : s.mCallback = some proxy)
    (hhandle : post.event.sensorHandle = handle) :
    ((s.postEvents .flushComplete post).reply (.flush handle) .OK).Accounts := by
  rw [postEvents_some hcallback]
  constructor
  · intro h r hfind
    simp only [SubHal.reply]
    rw [samples_postEvents]
    simpa using hs.samples h r hfind
  · intro h
    simp only [SubHal.reply]
    rw [flushes_postEvents, flushes_reply, hs.flushes h, hhandle]
    simp
  · simp only [SubHal.reply]
    rw [injections_postEvents, injections_reply]
    simpa [injectedBy] using hs.injections
  · exact hs.complete

theorem Accounts.injected (hs : s.Accounts) {proxy : ℕ} {event : Event}
    {wakeup : Bool} (hcallback : s.mCallback = some proxy)
    (htype : event.sensorType ≠ additionalInfo) :
    ((s.postEvents .injected ⟨event, wakeup⟩).reply
      (.injectSensorData event) .OK).Accounts := by
  rw [postEvents_some hcallback]
  constructor
  · intro h r hfind
    simp only [SubHal.reply]
    rw [samples_postEvents]
    simpa using hs.samples h r hfind
  · intro h
    simp only [SubHal.reply]
    rw [flushes_postEvents, flushes_reply]
    simpa using hs.flushes h
  · simp only [SubHal.reply]
    rw [injections_postEvents, injections_reply]
    simp [injectedBy, htype, hs.injections]
  · exact hs.complete

theorem Accounts.goto (hs : s.Accounts) {c : ℕ} {pc : SubHalPc} :
    (s.goto c pc).Accounts :=
  ⟨hs.samples, hs.flushes, hs.injections, hs.complete⟩

theorem Accounts.update (hs : s.Accounts) {handle : ℤ}
    {f : RegisteredSensor → RegisteredSensor}
    (hf : ∀ r, (f r).posted = r.posted) : (s.update handle f).Accounts := by
  constructor
  · apply forall_update hs.samples
    intro r hr
    rw [hf]
    exact hr
  · exact hs.flushes
  · exact hs.injections
  · exact hs.complete

theorem Accounts.step (hs : s.Accounts) (htraceable : s.Traceable)
    (hdormant : s.Dormant) (hstep : SubHalStep s a t) : t.Accounts := by
  cases hstep
  case refuse hrefused => exact hs.refuse hrefused
  case activate | batch =>
      apply Accounts.reply
      · exact hs.update fun _ => rfl
      · simp
      · simp
  case flush | inject | setMode | modeEnd => exact hs.goto
  case initializeHal =>
      exact ⟨hs.samples, hs.flushes, hs.injections, hs.complete⟩
  case modeSensor =>
      apply Accounts.goto
      exact hs.update fun _ => rfl
  case modeWrite c call mode hc =>
      have hallowed := htraceable.callers c
      rw [hc] at hallowed
      apply Accounts.goto
      have hwritten : Accounts { s with mCurrentOperationMode := mode } :=
        ⟨hs.samples, hs.flushes, hs.injections, hs.complete⟩
      apply hwritten.reply
      · rintro handle rfl
        contradiction
      · rintro event rfl
        contradiction
  case flushPost c handle r hc hfind =>
      obtain ⟨proxy, hcallback⟩ := hdormant.callback_of_caller c (by simp [hc])
      exact (hs.flushed hcallback (htraceable.entry hfind).2).goto
  case injectPost c event r hc hfind =>
      obtain ⟨proxy, hcallback⟩ := hdormant.callback_of_caller c (by simp [hc])
      have hallowed := htraceable.callers c
      rw [hc] at hallowed
      obtain ⟨_, _, _, _, htype⟩ := hallowed
      exact (hs.injected hcallback htype).goto
  case sample hfind _ henabled _ =>
      obtain ⟨proxy, hcallback⟩ :=
        hdormant.callback_of_sensor hfind (.inl henabled)
      exact hs.raise hcallback hfind (htraceable.entry hfind).2 rfl
  case finger hfind _ hwatching =>
      obtain ⟨proxy, hcallback⟩ :=
        hdormant.callback_of_sensor hfind (.inr hwatching)
      apply hs.raise hcallback hfind (htraceable.entry hfind).2
      rw [take_finger hwatching]
  case worker hquiet _ => exact hs.update fun _ => take_posted hquiet

/-! ## Whole runs -/

theorem Fresh.dormant (hs : s.Fresh) : s.Dormant := by
  intro _
  refine ⟨hs.callers, ?_⟩
  intro handle r hfind
  have hoff := hs.sensors _ (OrderedMap.mem_of_find hfind)
  exact ⟨hoff.1, hoff.2.2.1⟩

theorem Fresh.accounts (hs : s.Fresh) : s.Accounts := by
  constructor
  · intro handle r hfind
    have hoff := hs.sensors _ (OrderedMap.mem_of_find hfind)
    rw [hs.posted, hoff.2.2.2]
    rfl
  · intro handle
    rw [hs.posted, hs.replies]
    rfl
  · rw [hs.posted, hs.replies]
    rfl
  · exact hs.nullPosts

theorem run_accounts {sensors : List (SensorClass × (ℤ → SensorInfo))}
    {as : List SubHalAction} (hkeep : KeepHandles sensors)
    (hfirst : machine.Along InitializedFirst (constructed sensors) as)
    (hrun : machine.run (constructed sensors) as = some t) : t.Accounts := by
  have hfresh := constructed_fresh sensors
  have hinv := Machine.Along.invariant
    (I := fun s => s.Traceable ∧ s.Dormant ∧ s.Accounts)
    (fun s a t hs hok hstep =>
      have hcase := step_cases hstep
      ⟨hs.1.step hcase, hs.2.1.step hok hcase,
        hs.2.2.step hs.1 hs.2.1 hcase⟩)
    ⟨constructed_traceable hkeep, hfresh.dormant, hfresh.accounts⟩ hfirst hrun
  exact hinv.2.2

def checkInitializedFirst (s : SubHal) : SubHalAction → Bool
  | .call _ (.initializeHal _) => true
  | .call _ _ => s.mCallback.isSome
  | _ => true

theorem initializedFirst_of_check {s : SubHal} {a : SubHalAction}
    (hcheck : s.checkInitializedFirst a = true) : InitializedFirst s a := by
  cases a with
  | call c call =>
      intro hnone
      cases call with
      | initializeHal proxy => exact ⟨proxy, rfl⟩
      | _ => simp [checkInitializedFirst, hnone] at hcheck
  | _ => trivial

end SubHal

end Samurai
