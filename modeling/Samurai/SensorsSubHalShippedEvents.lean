import Samurai.SensorsSubHalRefinement

/-!
# What the shipped sub-HAL sends

If the proxy initializes the shipped sub-HAL before any other call, the events
of the atomic object reach it, each once and in order.  Before `initialize`
they go through the null callback.
-/

namespace Samurai

namespace ShippedSubHal

variable {capacity : ℕ} {s t : ShippedSubHal} {a : ShippedAction} {c : ℕ}

/-! ## Initialization -/

/-- The proxy's first call is `initialize`. -/
def InitializedFirst (s : ShippedSubHal) : ShippedAction → Prop
  | .call _ call =>
      s.mCallback = none → ∃ proxy, call = .initializeHal proxy
  | _ => True

/-- Before `initialize` nobody is inside a call. -/
def Uncalled (s : ShippedSubHal) : Prop :=
  s.mCallback = none → ∀ c, s.caller c = .idle

@[simp] theorem postEvents_mCallback {source : PostSource}
    {posts : List PostedEvent} :
    (s.postEvents source posts).mCallback = s.mCallback := by
  unfold postEvents
  split
  · simp_all
  · simp_all

theorem sensorStep_mCallback {action : StartupAction}
    (hstep : s.sensorStep capacity action = some t) :
    t.mCallback = s.mCallback ∧ t.caller = s.caller := by
  obtain ⟨r, _, rfl⟩ := Option.map_eq_some_iff.mp hstep
  exact ⟨postEvents_mCallback, postEvents_caller⟩

theorem setOperationMode_mCallback {call : SubHalCall} {mode : OperationMode}
    (hstep : s.setOperationMode capacity c call mode = some t) :
    t.mCallback = s.mCallback := by
  obtain ⟨u, hu, rfl⟩ := Option.map_eq_some_iff.mp hstep
  exact (sensorStep_mCallback hu).1

theorem initialized_of_call {call : SubHalCall}
    (hok : s.InitializedFirst (.call c call))
    (hstep : s.call capacity c call = some t) : t.mCallback ≠ none := by
  obtain ⟨_, hstep⟩ := Option.ite_none_right_eq_some.mp hstep
  by_cases hinit : ∃ proxy, call = .initializeHal proxy
  · obtain ⟨proxy, rfl⟩ := hinit
    rw [setOperationMode_mCallback hstep]
    simp
  · have hbefore : s.mCallback ≠ none := fun hnone => hinit (hok hnone)
    cases call with
    | initializeHal proxy => exact absurd ⟨proxy, rfl⟩ hinit
    | setOperationMode mode =>
        rwa [setOperationMode_mCallback hstep]
    | activate sensorHandle enabled =>
        simp only [enter, activate] at hstep
        split_ifs at hstep
        · obtain ⟨u, hu, rfl⟩ := Option.map_eq_some_iff.mp hstep
          rwa [goto, (sensorStep_mCallback hu).1]
        · cases hstep
          exact hbefore
    | injectSensorData event =>
        cases hstep
        simp only [injectSensorData]
        split_ifs
        · rwa [reply, postEvents_mCallback]
        · exact hbefore
        · exact hbefore
    | _ =>
        cases hstep
        exact hbefore

theorem callerStep_mCallback (hstep : s.callerStep capacity c = some t) :
    t.mCallback = s.mCallback := by
  unfold callerStep at hstep
  split at hstep
  · contradiction
  · cases hstep
    rfl
  · obtain ⟨u, hu, rfl⟩ := Option.map_eq_some_iff.mp hstep
    exact (sensorStep_mCallback hu).1
  · exact (sensorStep_mCallback hstep).1
  · cases hstep
    rfl
  · exact (sensorStep_mCallback hstep).1
  · cases hstep
    rfl

theorem Uncalled.step (hs : s.Uncalled) (hok : s.InitializedFirst a)
    (hstep : (machine capacity).step s a = some t) : t.Uncalled := by
  intro hnone
  cases a with
  | call c call => exact absurd hnone (initialized_of_call hok hstep)
  | caller c =>
      have hidle := hs ((callerStep_mCallback hstep).symm.trans hnone) c
      simp [machine, step, callerStep, hidle] at hstep
  | sensor action =>
      obtain ⟨_, hsensor⟩ := Option.ite_none_left_eq_some.mp hstep
      obtain ⟨hcallback, hcaller⟩ := sensorStep_mCallback hsensor
      rw [hcaller]
      exact hs (hcallback.symm.trans hnone)

theorem initializedFirst_view {b : SubHalAction} (hs : s.Uncalled)
    (hok : s.InitializedFirst a) (heffect : s.effect a = some b) :
    s.view.InitializedFirst b := by
  cases b with
  | call d call =>
      intro hnone
      cases a with
      | call c before =>
          have hbefore := hok hnone
          cases before with
          | activate sensorHandle enabled =>
              obtain ⟨proxy, hcall⟩ := hbefore
              contradiction
          | _ =>
              cases heffect
              exact hbefore
      | caller c =>
          have hidle := hs hnone c
          simp [effect, hidle] at heffect
      | sensor action => simp [effect] at heffect
  | caller | worker | sample => trivial

theorem initial_uncalled (hs : (machine capacity).Initial s) : s.Uncalled := by
  obtain ⟨fp, x, y, rfl⟩ := hs
  exact fun _ _ => rfl

/-! ## Posts -/

theorem shippedSensors_keepHandles :
    SubHal.KeepHandles [(.udfpsSensor, UdfpsSensor.sensorInfo)] := by
  intro p hp handle
  rw [List.mem_singleton.mp hp]
  rfl

/-- A post of the only sensor is one of its events. -/
theorem sample_of_attributed {p : SubHalPost}
    (hp : SubHal.Attributed
      (SubHal.expected [(.udfpsSensor, UdfpsSensor.sensorInfo)]) p) :
    p.source = .sample ∧ p.post.event.sensorHandle = handle := by
  obtain ⟨dynamicClass, info, hfind, _, hfits⟩ := hp
  have hmem := OrderedMap.mem_of_find hfind
  have hentry : p.post.event.sensorHandle = 1 ∧
      dynamicClass = .udfpsSensor ∧ info = UdfpsSensor.sensorInfo 1 := by
    simpa [SubHal.expected] using hmem
  obtain ⟨hhandle, rfl, rfl⟩ := hentry
  cases hsource : p.source with
  | sample => exact ⟨rfl, hhandle⟩
  | flushComplete =>
      rw [hsource] at hfits
      exact absurd hfits.1 (by decide)
  | injected =>
      rw [hsource] at hfits
      exact absurd hfits.1 (by decide)

theorem posted_eq_samples {posted : List SubHalPost}
    (hsamples : ∀ p ∈ posted,
      p.source = .sample ∧ p.post.event.sensorHandle = handle) :
    posted.map (·.post) = SubHal.samplesOf handle posted := by
  unfold SubHal.samplesOf
  rw [List.filter_eq_self.mpr]
  intro p hp
  simpa using hsamples p hp

/-- What the sub-HAL sends is what its sensor has posted, and all of it. -/
theorem posted_of_initialized {as : List ShippedAction}
    (hs : (machine capacity).Initial s)
    (hlate : (machine capacity).Along DispatchesLate s as)
    (hfirst : (machine capacity).Along InitializedFirst s as)
    (hrun : (machine capacity).run s as = some t) :
    t.nullPosts = 0 ∧
      t.posted.map (·.post) = t.sensor.sensor.posted := by
  have hsim := (simulates_subHal capacity).strengthen (J := Uncalled)
    (R := InitializedFirst)
    fun _ _ _ _ hs hok hstep => hs.step hok hstep
  have hinv := And.intro (initial_follows hs) (initial_uncalled hs)
  have hboth := hlate.and hfirst
  have hinitialized := hsim.along (Q := SubHal.InitializedFirst) hinv hboth hrun
    fun s a b hs hok heffect => initializedFirst_view hs.2 hok.2 heffect
  have habstract := hsim.run hinv hboth hrun
  rw [initial_view hs] at hinitialized habstract
  have haccounts := SubHal.run_accounts shippedSensors_keepHandles hinitialized
    habstract
  have hposts := SubHal.run_attributed shippedSensors_keepHandles habstract
  have hsamples := posted_eq_samples fun p hp =>
    sample_of_attributed (hposts p hp)
  exact ⟨haccounts.complete,
    hsamples.trans (haccounts.samples handle _ find_handle)⟩

/-! ## The shipped sub-HAL -/

/-- The constructors end and the worker calls `run`. -/
def startUp : List ShippedAction :=
  [.sensor .enterConstructor, .sensor .enterConstructor, .sensor .construct,
    .sensor .dispatch]

def initialization (proxy : ℕ) : List ShippedAction :=
  [.call 0 (.initializeHal proxy), .caller 0, .caller 0, .caller 0, .caller 0,
    .caller 0, .caller 0]

/-- The sensor is enabled and touched. -/
def touch : List ShippedAction :=
  [.call 0 (.activate 1 true), .caller 0, .caller 0, .caller 0, .caller 0,
    .caller 0, .caller 0, .sensor .worker, .sensor .worker, .sensor .worker,
    .sensor (.fpNotify ⟨true, [540, 1800, 1]⟩),
    .sensor (.pollReturn (.ready false true)), .sensor .worker, .sensor .worker]

def checkLate (s : ShippedSubHal) : ShippedAction → Bool
  | .sensor .dispatch => s.sensor.dynamicClass = .udfpsSensor
  | _ => true

theorem dispatchesLate_of_check {s : ShippedSubHal} {a : ShippedAction}
    (hcheck : s.checkLate a = true) : s.DispatchesLate a := by
  rintro action rfl rfl _
  exact of_decide_eq_true hcheck

def checkInitializedFirst (s : ShippedSubHal) : ShippedAction → Bool
  | .call _ (.initializeHal _) => true
  | .call _ _ => s.mCallback.isSome
  | _ => true

theorem initializedFirst_of_check {s : ShippedSubHal} {a : ShippedAction}
    (hcheck : s.checkInitializedFirst a = true) : s.InitializedFirst a := by
  cases a with
  | call c call =>
      intro hnone
      cases call with
      | initializeHal proxy => exact ⟨proxy, rfl⟩
      | _ => simp [checkInitializedFirst, hnone] at hcheck
  | caller | sensor => trivial

/-- Where the worker calls `run` late, the sub-HAL with the threads in its
sensor is the sub-HAL whose one sensor is the atomic object: a run of it is a
run of that sub-HAL by the effects of its steps, with the same calls, replies
and posts.  Initialized before any other call, it sends its proxy what its
sensor posts, in order, and nothing else.  Without `initialize` an event can be
posted through the null callback. -/
theorem shipped_refines_subHal (capacity : ℕ) :
    (∀ s as t, (machine capacity).Initial s →
      (machine capacity).Along DispatchesLate s as →
      (machine capacity).run s as = some t →
        s.view = SubHal.shipped ∧
        SubHal.machine.run SubHal.shipped
          ((machine capacity).effects effect s as) = some t.view ∧
        ((machine capacity).Along InitializedFirst s as →
          t.nullPosts = 0 ∧
          t.posted.map (·.post) = t.sensor.sensor.posted)) ∧
    (∃ s as t, (machine 65536).Initial s ∧
      (machine 65536).Along DispatchesLate s as ∧
      (machine 65536).run s as = some t ∧ 0 < t.nullPosts) := by
  constructor
  · intro s as t hs hlate hrun
    have habstract := (simulates_subHal capacity).run (initial_follows hs) hlate
      hrun
    rw [initial_view hs] at habstract
    exact ⟨initial_view hs, habstract,
      fun hfirst => posted_of_initialized hs hlate hfirst hrun⟩
  · refine ⟨initial ⟨true, [0, 0, 0]⟩ 0 0, startUp ++ touch, _,
      ⟨_, _, _, rfl⟩, ?_, rfl, Nat.one_pos⟩
    exact Machine.along_of_check (fun _ _ => dispatchesLate_of_check)
      (by decide)

theorem shipped_refines_subHal_touch :
    ∃ t, (machine 65536).run (initial ⟨true, [0, 0, 0]⟩ 0 0)
        (startUp ++ initialization 7 ++ touch) = some t ∧
      t.posted.length = 1 ∧
      t.posted.map (·.post) = t.sensor.sensor.posted := by
  obtain ⟨t, hrun, hlength⟩ :
      ∃ t, (machine 65536).run (initial ⟨true, [0, 0, 0]⟩ 0 0)
          (startUp ++ initialization 7 ++ touch) = some t ∧
        t.posted.length = 1 := ⟨_, rfl, rfl⟩
  have hlate : (machine 65536).Along DispatchesLate
      (initial ⟨true, [0, 0, 0]⟩ 0 0)
      (startUp ++ initialization 7 ++ touch) :=
    Machine.along_of_check (fun _ _ => dispatchesLate_of_check) (by decide)
  have hfirst : (machine 65536).Along InitializedFirst
      (initial ⟨true, [0, 0, 0]⟩ 0 0)
      (startUp ++ initialization 7 ++ touch) :=
    Machine.along_of_check (fun _ _ => initializedFirst_of_check) (by decide)
  have hrefines := (shipped_refines_subHal 65536).1 _ _ _ ⟨_, _, _, rfl⟩ hlate
    hrun
  exact ⟨t, hrun, hlength, (hrefines.2.2 hfirst).2⟩

end ShippedSubHal

end Samurai
