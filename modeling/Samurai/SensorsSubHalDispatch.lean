import Samurai.SensorsSubHalSteps

/-!
# Handles and events

The constructor gives the handles 1, 2, … in the order of its sensors, and
what is registered under them never changes.  So a call with another handle is
refused, and every event that reaches the proxy names a registered sensor and
is marked as that sensor's wake-up flag has it.
-/

namespace Samurai

/-- What an event of each source says about the sensor it comes from. -/
def PostSource.Fits (dynamicClass : SensorClass) (info : SensorInfo)
    (event : Event) : PostSource → Prop
  | .sample => event.sensorType = info.type
  | .flushComplete =>
      dynamicClass = .sensor ∧ event.sensorType = metaData ∧
        event.data0 = metaDataFlushComplete
  | .injected =>
      info.flags &&& SensorFlagBits.dataInjection ≠ 0 ∧
        event.sensorType ≠ additionalInfo

namespace SubHal

variable {s t : SubHal} {a : SubHalAction}

/-- What is registered: the handles, classes and infos, in their order. -/
def listing (s : SubHal) : List (ℤ × SensorClass × SensorInfo) :=
  s.mSensors.map fun e => (e.1, e.2.dynamicClass, e.2.mSensorInfo)

/-! ## Construction -/

theorem constructed_concat (sensors : List (SensorClass × (ℤ → SensorInfo)))
    (p : SensorClass × (ℤ → SensorInfo)) :
    constructed (sensors ++ [p]) = (constructed sensors).AddSensor p.1 p.2 := by
  simp [constructed]

/-- Nothing has happened yet. -/
structure Fresh (s : SubHal) : Prop where
  sensors : ∀ e ∈ s.mSensors, e.2.mIsEnabled = false ∧
    e.2.mMode = .normal ∧ e.2.watching = false ∧ e.2.posted = []
  mode : s.mCurrentOperationMode = .normal
  callers : ∀ c, s.caller c = .idle
  posted : s.posted = []
  nullPosts : s.nullPosts = 0
  replies : s.replies = []

theorem constructed_fresh (sensors : List (SensorClass × (ℤ → SensorInfo))) :
    (constructed sensors).Fresh := by
  induction sensors using List.reverseRecOn with
  | nil => exact ⟨by simp [constructed, empty], rfl, fun _ => rfl, rfl, rfl, rfl⟩
  | append_singleton sensors p ih =>
      rw [constructed_concat]
      refine ⟨?_, ih.mode, ih.callers, ih.posted, ih.nullPosts, ih.replies⟩
      intro e he
      rcases OrderedMap.mem_insert he with rfl | hold
      · exact ⟨rfl, rfl, rfl, rfl⟩
      · exact ih.sensors e hold

/-- The entries of the sensors in the order they are added. -/
def expected (sensors : List (SensorClass × (ℤ → SensorInfo))) :
    List (ℤ × SensorClass × SensorInfo) :=
  sensors.mapIdx fun i p => ((i : ℤ) + 1, p.1, p.2 (i + 1))

theorem expected_lt {sensors : List (SensorClass × (ℤ → SensorInfo))}
    {e : ℤ × SensorClass × SensorInfo} (he : e ∈ expected sensors) :
    1 ≤ e.1 ∧ e.1 ≤ sensors.length := by
  unfold expected at he
  rw [List.mem_mapIdx] at he
  obtain ⟨i, hi, rfl⟩ := he
  constructor
  · simp
  · simp only
    omega

theorem constructed_listing {sensors : List (SensorClass × (ℤ → SensorInfo))}
    (hkeep : KeepHandles sensors) :
    (constructed sensors).listing = expected sensors ∧
      (constructed sensors).mNextHandle = sensors.length + 1 := by
  induction sensors using List.reverseRecOn with
  | nil => exact ⟨rfl, rfl⟩
  | append_singleton sensors p ih =>
      obtain ⟨hlisting, hnext⟩ := ih fun q hq => hkeep q (by simp [hq])
      have hhandle := hkeep p (by simp) (constructed sensors).mNextHandle
      have habove : ∀ e ∈ (constructed sensors).mSensors,
          e.1 < (p.2 (constructed sensors).mNextHandle).sensorHandle := by
        intro e he
        have hmem : (e.1, e.2.dynamicClass, e.2.mSensorInfo) ∈
            expected sensors := by
          rw [← hlisting]
          exact List.mem_map_of_mem he
        have hbound := (expected_lt hmem).2
        rw [hhandle, hnext]
        simp only at hbound
        omega
      rw [constructed_concat]
      constructor
      · simp only [listing, AddSensor,
          OrderedMap.insert_of_forall_lt habove, List.map_append]
        rw [← listing, hlisting]
        simp [expected, hnext, hkeep p (by simp)]
      · simp [AddSensor, hnext]

/-! ## Steps -/

@[simp] theorem reply_mSensors {call : SubHalCall} {result : SensorsResult} :
    (s.reply call result).mSensors = s.mSensors := rfl

@[simp] theorem goto_mSensors {c : ℕ} {pc : SubHalPc} :
    (s.goto c pc).mSensors = s.mSensors := rfl

@[simp] theorem postEvents_mSensors {source : PostSource} {post : PostedEvent} :
    (s.postEvents source post).mSensors = s.mSensors := by
  unfold postEvents
  cases s.mCallback <;> rfl

theorem take_static (action : AtomicAction) (r : RegisteredSensor) :
    (r.take action).mSensorInfo = r.mSensorInfo ∧
      (r.take action).dynamicClass = r.dynamicClass := by
  unfold RegisteredSensor.take
  constructor
  · cases action with
    | watch | finger _ _ =>
        simp only [AtomicSensor.step]
        split_ifs <;> rfl
    | setEnabled _ | setOperationMode _ | destruct | unwatch => rfl
  · rfl

theorem listing_update {handle : ℤ} {f : RegisteredSensor → RegisteredSensor}
    (hf : ∀ r, (f r).mSensorInfo = r.mSensorInfo ∧
      (f r).dynamicClass = r.dynamicClass) :
    (s.update handle f).listing = s.listing := by
  apply OrderedMap.map_modify
  intro k r
  simp only [(hf r).1, (hf r).2]

theorem listing_step (hstep : SubHalStep s a t) : t.listing = s.listing := by
  cases hstep
  case activate | batch | modeSensor =>
      exact listing_update fun r => ⟨rfl, rfl⟩
  case worker action _ _ _ _ _ _ => exact listing_update (take_static _)
  case sample | finger =>
      simp only [listing, postEvents_mSensors]
      first
        | exact listing_update fun r => ⟨rfl, rfl⟩
        | exact listing_update (take_static _)
  case flushPost | injectPost =>
      simp only [listing, goto_mSensors, reply_mSensors, postEvents_mSensors]
  all_goals rfl

theorem run_listing {as : List SubHalAction} (hrun : machine.run s as = some t) :
    t.listing = s.listing := by
  have hkept := Machine.Along.invariant (I := fun u => u.listing = s.listing)
    (fun u a v hu _ hstep => (listing_step (step_cases hstep)).trans hu)
    rfl Machine.along_true hrun
  exact hkept

/-! ## Posts -/

theorem find_listing (s : SubHal) (handle : ℤ) :
    OrderedMap.find handle s.listing =
      (OrderedMap.find handle s.mSensors).map
        fun r => (r.dynamicClass, r.mSensorInfo) :=
  OrderedMap.find_map
    (fun r : RegisteredSensor => (r.dynamicClass, r.mSensorInfo)) s.mSensors
    handle

/-- The post names a sensor of the list, has its wake-up flag and fits it. -/
def Attributed (listing : List (ℤ × SensorClass × SensorInfo))
    (p : SubHalPost) : Prop :=
  ∃ dynamicClass info,
    OrderedMap.find p.post.event.sensorHandle listing =
      some (dynamicClass, info) ∧
    p.post.wakeup = decide (info.flags &&& SensorFlagBits.wakeUp ≠ 0) ∧
    p.source.Fits dynamicClass info p.post.event

/-- A caller about to post was let through by its sensor, and one that goes
through all sensors is in a call that names none. -/
def Allowed (listing : List (ℤ × SensorClass × SensorInfo)) : SubHalPc → Prop
  | .modeLoop call _ _ | .modeWrite call _ => call.target = none
  | .flushPost handle => ∃ info, OrderedMap.find handle listing =
      some (.sensor, info)
  | .injectPost event => ∃ dynamicClass info,
      OrderedMap.find event.sensorHandle listing = some (dynamicClass, info) ∧
        info.flags &&& SensorFlagBits.dataInjection ≠ 0 ∧
          event.sensorType ≠ additionalInfo
  | .idle => True

structure Traceable (s : SubHal) : Prop where
  handles : ∀ e ∈ s.listing, e.2.2.sensorHandle = e.1
  posts : ∀ p ∈ s.posted, Attributed s.listing p
  callers : ∀ c, Allowed s.listing (s.caller c)

theorem class_of_flush {r : RegisteredSensor} (hok : r.flush = .OK) :
    r.dynamicClass = .sensor := by
  cases hclass : r.dynamicClass with
  | sensor => rfl
  | oneShotSensor | udfpsSensor =>
      simp [RegisteredSensor.flush, hclass, OneShotSensor.flush] at hok

theorem supports_of_inject {r : RegisteredSensor} {event : Event}
    (hposts : (r.injectEvent event).2 = true) :
    r.mSensorInfo.flags &&& SensorFlagBits.dataInjection ≠ 0 ∧
      event.sensorType ≠ additionalInfo ∧ r.mMode = .dataInjection ∧
      (r.injectEvent event).1 = .OK := by
  unfold RegisteredSensor.injectEvent at hposts ⊢
  split_ifs at hposts ⊢ with htype hsupports hmode
  have hflag : r.supportsDataInjection = true := by simpa using hsupports
  exact ⟨by simpa [RegisteredSensor.supportsDataInjection] using hflag, htype,
    hmode, rfl⟩

theorem postEvents_posted (source : PostSource) (post : PostedEvent) :
    (s.postEvents source post).posted = s.posted ∨
      ∃ proxy, s.mCallback = some proxy ∧
        (s.postEvents source post).posted =
          s.posted ++ [⟨proxy, source, post⟩] := by
  unfold postEvents
  cases hcallback : s.mCallback with
  | none => exact .inl rfl
  | some proxy => exact .inr ⟨proxy, rfl, rfl⟩

/-- A new post keeps the log attributed if it is attributed itself. -/
theorem posts_postEvents {listing : List (ℤ × SensorClass × SensorInfo)}
    {source : PostSource} {post : PostedEvent}
    (hposts : ∀ p ∈ s.posted, Attributed listing p)
    (hnew : ∀ proxy, Attributed listing ⟨proxy, source, post⟩) :
    ∀ p ∈ (s.postEvents source post).posted, Attributed listing p := by
  rcases postEvents_posted (s := s) source post with hsame | ⟨proxy, _, happend⟩
  · rw [hsame]
    exact hposts
  · rw [happend]
    intro p hp
    rcases List.mem_append.mp hp with hold | hlast
    · exact hposts p hold
    · rw [List.mem_singleton.mp hlast]
      exact hnew proxy

@[simp] theorem postEvents_caller {source : PostSource} {post : PostedEvent} :
    (s.postEvents source post).caller = s.caller := by
  unfold postEvents
  cases s.mCallback <;> rfl

theorem Traceable.entry (hs : s.Traceable) {handle : ℤ} {r : RegisteredSensor}
    (hfind : OrderedMap.find handle s.mSensors = some r) :
    OrderedMap.find handle s.listing = some (r.dynamicClass, r.mSensorInfo) ∧
      r.mSensorInfo.sensorHandle = handle := by
  have hentry : OrderedMap.find handle s.listing =
      some (r.dynamicClass, r.mSensorInfo) := by
    rw [find_listing, hfind]
    rfl
  exact ⟨hentry, hs.handles _ (OrderedMap.mem_of_find hentry)⟩

theorem allowed_goto {listing : List (ℤ × SensorClass × SensorInfo)} {c : ℕ}
    {pc : SubHalPc} (hcallers : ∀ d, Allowed listing (s.caller d))
    (hpc : Allowed listing pc) (d : ℕ) :
    Allowed listing ((s.goto c pc).caller d) := by
  by_cases hd : d = c
  · subst hd
    simpa [goto] using hpc
  · simpa [goto, Function.update_of_ne hd] using hcallers d

theorem Traceable.posts_step (hs : s.Traceable) (hstep : SubHalStep s a t) :
    ∀ p ∈ t.posted, Attributed s.listing p := by
  cases hstep
  case flushPost c handle r hc hfind =>
      apply posts_postEvents hs.posts
      intro proxy
      obtain ⟨hentry, hhandle⟩ := hs.entry hfind
      have hclass : r.dynamicClass = .sensor := by
        have hallowed := hs.callers c
        rw [hc] at hallowed
        obtain ⟨info, hinfo⟩ := hallowed
        rw [hentry] at hinfo
        exact congrArg Prod.fst (Option.some.inj hinfo)
      refine ⟨r.dynamicClass, r.mSensorInfo, ?_, rfl, hclass, rfl, rfl⟩
      simp only [RegisteredSensor.flushEvent, hhandle, hentry]
  case injectPost c event r hc hfind =>
      apply posts_postEvents hs.posts
      intro proxy
      have hallowed := hs.callers c
      rw [hc] at hallowed
      obtain ⟨dynamicClass, info, hinfo, hsupports⟩ := hallowed
      rw [(hs.entry hfind).1] at hinfo
      have hsame : r.mSensorInfo = info :=
        congrArg Prod.snd (Option.some.inj hinfo)
      rw [← hsame] at hsupports
      exact ⟨r.dynamicClass, r.mSensorInfo, (hs.entry hfind).1, rfl, hsupports⟩
  case sample handle r hfind _ _ _ | finger handle x y r hfind _ _ =>
      apply posts_postEvents (s := s.update handle _) hs.posts
      intro proxy
      obtain ⟨hentry, hhandle⟩ := hs.entry hfind
      refine ⟨r.dynamicClass, r.mSensorInfo, ?_, rfl, rfl⟩
      simp only [AtomicSensor.event, hhandle, hentry]
  all_goals exact hs.posts

theorem Traceable.callers_step (hs : s.Traceable) (hstep : SubHalStep s a t) :
    ∀ c, Allowed s.listing (t.caller c) := by
  cases hstep
  case flush c handle r _ hfind hok =>
      apply allowed_goto hs.callers
      refine ⟨r.mSensorInfo, ?_⟩
      rw [(hs.entry hfind).1, class_of_flush hok]
  case inject c event r _ hfind hposts =>
      apply allowed_goto hs.callers
      have hsupports := supports_of_inject hposts
      exact ⟨_, _, (hs.entry hfind).1, hsupports.1, hsupports.2.1⟩
  case flushPost | injectPost =>
      apply allowed_goto
      · intro d
        simpa [reply] using hs.callers d
      · trivial
  case sample | finger =>
      intro d
      rw [postEvents_caller]
      exact hs.callers d
  case setMode | initializeHal => exact allowed_goto hs.callers rfl
  case modeSensor c _ _ _ _ hc | modeEnd c _ _ hc =>
      apply allowed_goto hs.callers
      have hallowed := hs.callers c
      rw [hc] at hallowed
      exact hallowed
  all_goals first
    | exact hs.callers
    | exact allowed_goto hs.callers trivial

theorem Traceable.step (hs : s.Traceable) (hstep : SubHalStep s a t) :
    t.Traceable := by
  have hlisting := listing_step hstep
  constructor
  · rw [hlisting]
    exact hs.handles
  · rw [hlisting]
    exact hs.posts_step hstep
  · rw [hlisting]
    exact hs.callers_step hstep

/-! ## Whole runs -/

theorem constructed_traceable
    {sensors : List (SensorClass × (ℤ → SensorInfo))}
    (hkeep : KeepHandles sensors) : (constructed sensors).Traceable := by
  have hfresh := constructed_fresh sensors
  constructor
  · intro e he
    rw [(constructed_listing hkeep).1, expected, List.mem_mapIdx] at he
    obtain ⟨i, hi, rfl⟩ := he
    exact hkeep _ (List.getElem_mem hi) _
  · intro p hp
    rw [hfresh.posted] at hp
    contradiction
  · intro c
    rw [hfresh.callers c]
    trivial

theorem run_traceable {as : List SubHalAction} (hs : s.Traceable)
    (hrun : machine.run s as = some t) : t.Traceable :=
  Machine.Along.invariant (I := Traceable)
    (fun _ _ _ hu _ hstep => hu.step (step_cases hstep)) hs
    Machine.along_true hrun

theorem find_eq_none {sensors : List (SensorClass × (ℤ → SensorInfo))}
    {handle : ℤ} (hlisting : s.listing = expected sensors)
    (hunknown : handle < 1 ∨ (sensors.length : ℤ) < handle) :
    OrderedMap.find handle s.mSensors = none := by
  cases hfind : OrderedMap.find handle s.mSensors with
  | none => rfl
  | some r =>
      have hentry : OrderedMap.find handle (expected sensors) =
          some (r.dynamicClass, r.mSensorInfo) := by
        rw [← hlisting, find_listing, hfind]
        rfl
      have hbounds := expected_lt (OrderedMap.mem_of_find hentry)
      omega

theorem call_unknown {c : ℕ} {call : SubHalCall} {handle : ℤ}
    (htarget : call.target = some handle)
    (hfind : OrderedMap.find handle s.mSensors = none)
    (hidle : s.caller c = .idle) :
    machine.step s (.call c call) = some (s.reply call .BAD_VALUE) := by
  have henter : s.enter c call = s.reply call .BAD_VALUE := by
    cases call with
    | activate _ _ | batch _ _ _ =>
        cases htarget
        simp only [enter, answer, SubHal.activate, SubHal.batch, hfind]
    | flush _ | injectSensorData _ =>
        cases htarget
        simp only [enter, SubHal.flush, SubHal.injectSensorData, hfind]
    | setOperationMode _ | registerDirectChannel | unregisterDirectChannel _
    | configDirectReport _ _ | initializeHal _ => contradiction
  simp only [machine, step, SubHal.call, hidle, if_true, henter]

theorem run_expected {sensors : List (SensorClass × (ℤ → SensorInfo))}
    {as : List SubHalAction} (hkeep : KeepHandles sensors)
    (hrun : machine.run (constructed sensors) as = some t) :
    t.listing = expected sensors :=
  (run_listing hrun).trans (constructed_listing hkeep).1

theorem run_attributed {sensors : List (SensorClass × (ℤ → SensorInfo))}
    {as : List SubHalAction} (hkeep : KeepHandles sensors)
    (hrun : machine.run (constructed sensors) as = some t) :
    ∀ p ∈ t.posted, Attributed (expected sensors) p := by
  have htraceable := run_traceable (constructed_traceable hkeep) hrun
  rw [← run_expected hkeep hrun]
  exact htraceable.posts

/-- In every run of a sub-HAL the sensors it lists are those its constructor
added, under 1, 2, …; every event it has sent names one of them, carries its
wake-up flag and fits its source; and a call with another handle gets
`BAD_VALUE` and changes nothing. -/
theorem dispatch_integrity (sensors : List (SensorClass × (ℤ → SensorInfo)))
    (hkeep : KeepHandles sensors) (as : List SubHalAction) (t : SubHal)
    (hrun : machine.run (constructed sensors) as = some t) :
    t.getSensorsList = sensors.mapIdx (fun i p => p.2 (i + 1)) ∧
    (∀ p ∈ t.posted, Attributed (expected sensors) p) ∧
    (∀ c call handle, SubHalCall.target call = some handle →
      handle < 1 ∨ (sensors.length : ℤ) < handle → t.caller c = .idle →
        machine.step t (.call c call) = some (t.reply call .BAD_VALUE)) := by
  have hlisting := run_expected hkeep hrun
  refine ⟨?_, run_attributed hkeep hrun, ?_⟩
  · have hinfos : t.getSensorsList = t.listing.map fun e => e.2.2 := by
      simp [getSensorsList, listing]
    rw [hinfos, hlisting, expected]
    apply List.ext_getElem
    · simp
    · intro i h h'
      simp
  · intro c call handle htarget hunknown hidle
    exact call_unknown htarget (find_eq_none hlisting hunknown) hidle

/-- The fingerprint sensor after one on a timer that takes injected data. -/
def twoSensors : List (SensorClass × (ℤ → SensorInfo)) :=
  [(.sensor, fun handle =>
      { Sensor.sensorInfo handle with
        flags := SensorFlagBits.dataInjection }),
    (.udfpsSensor, UdfpsSensor.sensorInfo)]

theorem twoSensors_keepHandles : KeepHandles twoSensors := by
  intro p hp handle
  simp only [twoSensors, List.mem_cons, List.not_mem_nil, or_false] at hp
  rcases hp with rfl | rfl
  · rfl
  · rfl

/-- Both sensors are enabled; one samples and is flushed, the other is
touched; then an event is injected. -/
def twoRun : List SubHalAction :=
  [.call 0 (.initializeHal 7), .caller 0, .caller 0, .caller 0, .caller 0,
    .call 0 (.activate 1 true), .call 0 (.activate 2 true), .sample 1,
    .worker 2 .watch, .call 0 (.flush 1), .worker 2 (.finger 540 1800),
    .caller 0, .call 1 (.setOperationMode .dataInjection), .caller 1,
    .call 0 (.injectSensorData ⟨1, 5, 3, 4⟩), .caller 0]

theorem dispatch_integrity_twoRun :
    ∃ t, machine.run (constructed twoSensors) twoRun = some t ∧
      t.posted.length = 4 ∧
      (∀ p ∈ t.posted, Attributed (expected twoSensors) p) ∧
      machine.step t (.call 0 (.flush 3)) =
        some (t.reply (.flush 3) .BAD_VALUE) := by
  obtain ⟨t, hrun, hposted, hidle⟩ :
      ∃ t, machine.run (constructed twoSensors) twoRun = some t ∧
        t.posted.length = 4 ∧ t.caller 0 = .idle := ⟨_, rfl, rfl, rfl⟩
  have hall := dispatch_integrity twoSensors twoSensors_keepHandles twoRun t
    hrun
  exact ⟨t, hrun, hposted, hall.2.1,
    hall.2.2 0 (.flush 3) 3 rfl (.inr (by decide)) hidle⟩

end SubHal

end Samurai
