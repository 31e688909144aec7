import Samurai.EventSources
import Samurai.SensorStartupModel
import Samurai.UdfpsSensorSteps

/-!
# Events of the two loops

`UdfpsSensor::run` posts only what it has read from `fp_state` in the same
statement.  `Sensor::run` reads nothing: an enabled sensor is sampled, and the
virtual `readEvents` reports coordinates that no read has set.  So every event
has a read of its own if and only if the worker calls `run` after the body of
`UdfpsSensor`'s constructor was entered.

The coordinates of an event are `float`: it carries those of the record if they
have 24 binary digits, as those of a screen do.
-/

namespace Samurai

/-- The coordinates of a finger are numbers that `float` has. -/
def FpState.Exact (fp : FpState) : Prop :=
  ∀ x y state rest, fp.numbers = x :: y :: state :: rest → 0 < state →
    floatOf x = x ∧ floatOf y = y

/-- Coordinates of less than 24 binary digits are exact. -/
theorem floatOf_eq {n : ℤ} (hn : |n| < 2 ^ 24) : floatOf n = n :=
  BinaryRounding.rounded_intCast hn

namespace SensorAccess

def IsPost : SensorAccess → Prop
  | .postEvent _ => True
  | .readFpState _ => False

/-- The read found a finger, and the event carries its coordinates. -/
def Feeds : SensorAccess → SensorAccess → Prop
  | .readFpState fp, .postEvent posted =>
      fp.readable = true ∧ ∃ x y state rest,
        fp.numbers = x :: y :: state :: rest ∧ 0 < state ∧
          posted.event.data0 = x ∧ posted.event.data1 = y
  | _, _ => False

end SensorAccess

open SensorAccess

namespace StartingSensor

/-- Every event posted so far has a read of its own which found its finger. -/
def NoSpuriousEvents (s : StartingSensor) : Prop :=
  OwnSources IsPost Feeds s.accesses

/-- The worker calls `run` when the constructor of `UdfpsSensor` was
entered. -/
def DispatchesLate (s : StartingSensor) (a : StartupAction) : Prop :=
  a = .dispatch → s.loop = none → s.dynamicClass = .udfpsSensor

/-- A finger that `UdfpsSensor::run` reads has exact coordinates. -/
def ReadsExact (s : StartingSensor) (a : StartupAction) : Prop :=
  a = .worker → s.loop = some .udfpsSensor →
    ∀ fp, .readFpState fp ∈ nodeRead s.sensor → fp.Exact

variable {capacity : ℕ} {s t : StartingSensor} {a : StartupAction}

/-! ## `UdfpsSensor::run` -/

theorem readFpState_true {fp : FpState} {screenX screenY x y : ℤ}
    (hread : readFpState fp screenX screenY = (true, x, y)) :
    fp.readable = true ∧ ∃ state rest,
      fp.numbers = x :: y :: state :: rest ∧ 0 < state := by
  unfold readFpState at hread
  split_ifs at hread with hreadable
  · refine ⟨hreadable, ?_⟩
    split at hread
    · simp at hread
    · simp at hread
    · simp at hread
    · rename_i u v state rest hnumbers
      simp only [Prod.mk.injEq, decide_eq_true_eq] at hread
      rcases hread with ⟨hstate, rfl, rfl⟩
      exact ⟨state, rest, hnumbers, hstate⟩
  · simp at hread

theorem newPosts_of_posted_eq {before after : UdfpsSensor}
    (hposted : after.posted = before.posted) : newPosts before after = [] := by
  simp [newPosts, hposted]

/-- What a read of a finger has to do with the event posted for it. -/
theorem feeds_iff_exact {s : UdfpsSensor} {x y : ℤ}
    (hdestructed : s.destructed = false)
    (hread : readFpState s.fpState s.mScreenX s.mScreenY = (true, x, y)) :
    Feeds (.readFpState s.fpState) (.postEvent (s.postedEvent x y)) ↔
      s.fpState.Exact := by
  rcases readFpState_true hread with ⟨hreadable, state, rest, hnumbers, hstate⟩
  have hevent : (s.postedEvent x y).event.data0 = floatOf x ∧
      (s.postedEvent x y).event.data1 = floatOf y := by
    simp [UdfpsSensor.postedEvent, hdestructed]
  constructor
  · rintro ⟨_, x', y', state', rest', hnumbers', _, hx, hy⟩
    intro x'' y'' state'' rest'' hnumbers'' _
    rw [hnumbers, List.cons.injEq, List.cons.injEq] at hnumbers' hnumbers''
    obtain ⟨rfl, rfl, _⟩ := hnumbers'
    obtain ⟨rfl, rfl, _⟩ := hnumbers''
    exact ⟨hevent.1.symm.trans hx, hevent.2.symm.trans hy⟩
  · intro hexact
    have hcoordinates := hexact x y state rest hnumbers hstate
    exact ⟨hreadable, x, y, state, rest, hnumbers, hstate,
      hevent.1.trans hcoordinates.1, hevent.2.trans hcoordinates.2⟩

/-- A statement of the loop reads nothing, or reads the node, or reads it and
posts what it read. -/
theorem nodeRead_newPosts {before after : UdfpsSensor}
    (hdestructed : before.destructed = false)
    (hstep : before.workerStep = some after) :
    (nodeRead before = [] ∧ newPosts before after = []) ∨
      ∃ fp, nodeRead before = [.readFpState fp] ∧
        (newPosts before after = [] ∨
          ∃ posted, newPosts before after = [.postEvent posted] ∧
            (Feeds (.readFpState fp) (.postEvent posted) ↔ fp.Exact)) := by
  have hcases : UdfpsSensor.SensorStep 0 before .worker after :=
    UdfpsSensor.step_cases hstep
  cases hcases
  case post pipe x y hworker hread =>
      right
      refine ⟨before.fpState, by simp [nodeRead, hworker], Or.inr ?_⟩
      exact ⟨before.postedEvent x y, by simp [newPosts],
        feeds_iff_exact hdestructed hread⟩
  case missFinger pipe x y hworker _ hread =>
      right
      exact ⟨before.fpState, by simp [nodeRead, hworker],
        Or.inl (newPosts_of_posted_eq rfl)⟩
  all_goals
    left
    exact ⟨by simp [nodeRead, *], newPosts_of_posted_eq rfl⟩

/-- Nobody destroys the object. -/
def Undestroyed (s : UdfpsSensor) : Prop :=
  s.destructed = false ∧ ∀ c, s.caller c ≠ .destroyPipe

theorem Undestroyed.goto {s : UdfpsSensor} {c : ℕ} {pc : CallerPc}
    (hs : Undestroyed s) (hpc : pc ≠ .destroyPipe) : Undestroyed (s.goto c pc) := by
  refine ⟨hs.1, fun d => ?_⟩
  by_cases hd : d = c
  · subst hd
    simpa [UdfpsSensor.goto] using hpc
  · simpa [UdfpsSensor.goto, Function.update_of_ne hd] using hs.2 d

theorem Undestroyed.step {capacity : ℕ} {s t : UdfpsSensor} {a : SensorAction}
    (hs : Undestroyed s) (ha : ∀ c, a ≠ .call c .destroy)
    (hstep : UdfpsSensor.SensorStep capacity s a t) : Undestroyed t := by
  cases hstep with
  | @call c call _ _ =>
      apply hs.goto
      cases call with
      | destroy => exact absurd rfl (ha c)
      | _ => simp [SensorCall.entry]
  | destroyPipe hc _ => exact absurd hc (hs.2 _)
  | construct | fpNotify | spuriousWake | pollReturn | start | stop | sleep
  | watch | proceed | block | wake | unlock | relock | pollFailed | post
  | missFinger | noFinger => exact hs
  | _ =>
      apply Undestroyed.goto
      · exact hs
      · simp

theorem noSpuriousEvents_udfpsRunStep (hs : s.NoSpuriousEvents)
    (hundestroyed : Undestroyed s.sensor)
    (hexact : ∀ fp, .readFpState fp ∈ nodeRead s.sensor → fp.Exact)
    (hstep : s.udfpsRunStep = some t) : t.NoSpuriousEvents := by
  unfold udfpsRunStep at hstep
  rcases Option.map_eq_some_iff.mp hstep with ⟨sensor, hworker, rfl⟩
  unfold NoSpuriousEvents
  rw [List.append_assoc]
  rcases nodeRead_newPosts hundestroyed.1 hworker with
    ⟨hread, hposts⟩ | ⟨fp, hread, hposts | ⟨posted, hposts, hfeeds⟩⟩
  · rw [hread, hposts, List.append_nil, List.append_nil]
    exact hs
  · rw [hread, hposts, List.append_nil]
    exact hs.concat id
  · have hfed := hfeeds.mpr (hexact fp (by simp [hread]))
    rw [hread, hposts]
    exact hs.concat_fed id hfed

/-! ## Which loop runs -/

/-- The worker is not in `Sensor::run`. -/
def OutsideSensorRun (s : StartingSensor) : Prop :=
  ∀ pc, s.loop ≠ some (.sensor pc)

theorem onSensor_eq_some {sensor : Option UdfpsSensor} :
    s.onSensor sensor = some t ↔
      ∃ u, sensor = some u ∧ t = { s with sensor := u } := by
  simp [onSensor, eq_comm]

theorem loop_notify_outside {loop : Option RunLoop} {notifies : Bool}
    (hloop : ∀ pc, loop ≠ some (.sensor pc)) :
    (if notifies then loop.map RunLoop.notify else loop) = loop := by
  cases loop with
  | none => simp
  | some loop =>
      cases loop with
      | sensor pc => exact absurd rfl (hloop pc)
      | udfpsSensor => simp [RunLoop.notify]

/-- Outside `Sensor::run` a step calls `run`, or is a statement of
`UdfpsSensor::run`, or leaves the loop and the accesses. -/
theorem step_outside (hs : s.OutsideSensorRun)
    (hstep : (machine capacity).step s a = some t) :
    (a = .dispatch ∧ s.dispatch = some t) ∨
      (a = .worker ∧ s.loop = some .udfpsSensor ∧ s.udfpsRunStep = some t ∧
        t.loop = s.loop) ∨
      (t.loop = s.loop ∧ t.accesses = s.accesses ∧
        (s.dynamicClass = .udfpsSensor → t.dynamicClass = .udfpsSensor)) := by
  cases a with
  | dispatch => exact Or.inl ⟨rfl, hstep⟩
  | worker =>
      simp only [machine, step] at hstep
      cases hloop : s.loop with
      | none => simp [hloop] at hstep
      | some loop =>
          cases loop with
          | sensor pc => exact absurd hloop (hs pc)
          | udfpsSensor =>
              rw [hloop] at hstep
              rcases Option.map_eq_some_iff.mp hstep with ⟨u, _, ht⟩
              exact Or.inr (Or.inl ⟨rfl, rfl, hstep, by rw [← ht, hloop]⟩)
  | enterConstructor =>
      simp only [machine, step, enterConstructor] at hstep
      split at hstep
      · cases hstep
        exact Or.inr (Or.inr ⟨rfl, rfl, fun h => by simp_all⟩)
      · cases hstep
        exact Or.inr (Or.inr ⟨rfl, rfl, fun _ => rfl⟩)
      · contradiction
  | construct =>
      simp only [machine, step, construct] at hstep
      split at hstep
      · rcases Option.map_eq_some_iff.mp hstep with ⟨u, _, rfl⟩
        exact Or.inr (Or.inr ⟨rfl, rfl, id⟩)
      · contradiction
  | sample now =>
      simp only [machine, step] at hstep
      split_ifs at hstep with hloop
      exact absurd hloop (hs _)
  | wakeUp =>
      simp only [machine, step] at hstep
      split at hstep
      · rename_i hloop
        exact absurd hloop (hs _)
      · rename_i hloop
        exact absurd hloop (hs _)
      · rcases onSensor_eq_some.mp hstep with ⟨u, _, rfl⟩
        exact Or.inr (Or.inr ⟨rfl, rfl, id⟩)
      · contradiction
  | caller thread =>
      simp only [machine, step, loop_notify_outside hs] at hstep
      rcases onSensor_eq_some.mp hstep with ⟨u, _, rfl⟩
      exact Or.inr (Or.inr ⟨rfl, rfl, id⟩)
  | activate | setOperationMode | pollReturn | fpNotify =>
      simp only [machine, step] at hstep
      rcases onSensor_eq_some.mp hstep with ⟨u, _, rfl⟩
      exact Or.inr (Or.inr ⟨rfl, rfl, id⟩)

theorem dispatch_eq_some (hstep : s.dispatch = some t) :
    s.loop = none ∧ t.sensor = s.sensor ∧ t.accesses = s.accesses ∧
      (s.dynamicClass = .udfpsSensor → t.loop = some .udfpsSensor) := by
  unfold dispatch at hstep
  cases hloop : s.loop with
  | some loop => simp [hloop] at hstep
  | none =>
      rw [hloop] at hstep
      cases hstep
      refine ⟨rfl, rfl, rfl, ?_⟩
      intro hclass
      rw [hclass]

theorem dispatch_loop (hstep : s.dispatch = some t) :
    ∃ loop, t.loop = some loop := by
  unfold dispatch at hstep
  cases hloop : s.loop with
  | some loop => simp [hloop] at hstep
  | none =>
      rw [hloop] at hstep
      cases hstep
      exact ⟨_, rfl⟩

theorem Undestroyed.congr {s t : UdfpsSensor} (hs : Undestroyed s)
    (hdestructed : t.destructed = s.destructed) (hcaller : t.caller = s.caller) :
    Undestroyed t := by
  refine ⟨hdestructed.trans hs.1, ?_⟩
  rw [hcaller]
  exact hs.2

theorem runStep_undestroyed {pc : SensorRunPc} (hs : Undestroyed s.sensor)
    (hstep : s.runStep pc = some t) : Undestroyed t.sensor := by
  have hlock : ∀ pc, s.lockRun pc = some t → Undestroyed t.sensor := by
    intro pc hlock
    rcases Option.map_eq_some_iff.mp hlock with ⟨u, hu, rfl⟩
    unfold UdfpsSensor.lock at hu
    split_ifs at hu
    cases hu
    exact hs.congr rfl rfl
  cases pc with
  | start | notified | timedNotified => exact hlock _ hstep
  | check =>
      simp only [runStep] at hstep
      split_ifs at hstep <;> cases hstep <;> exact hs.congr rfl rfl
  | predicate =>
      simp only [runStep] at hstep
      split_ifs at hstep <;> cases hstep <;> exact hs.congr rfl rfl
  | waitFor =>
      cases hstep
      exact hs.congr rfl rfl
  | waiting | sample | timedWaiting | exited => cases hstep

theorem sample_undestroyed {now : ℤ} (hs : Undestroyed s.sensor) :
    Undestroyed (s.sample now).sensor := by
  unfold sample
  dsimp only
  split_ifs
  · exact hs.congr rfl rfl
  · exact hs

theorem step_undestroyed (hs : Undestroyed s.sensor)
    (hstep : (machine capacity).step s a = some t) : Undestroyed t.sensor := by
  have hsensor : ∀ {u : Option UdfpsSensor} {r : StartingSensor}
      (b : SensorAction), (∀ c, b ≠ .call c .destroy) →
      (UdfpsSensor.machine capacity).step s.sensor b = u →
      r.onSensor u = some t → Undestroyed t.sensor := by
    intro u r b hb hu honSensor
    rcases onSensor_eq_some.mp honSensor with ⟨v, rfl, rfl⟩
    exact hs.step hb (UdfpsSensor.step_cases hu)
  cases a with
  | enterConstructor =>
      simp only [machine, step, enterConstructor] at hstep
      split at hstep <;> cases hstep
      · exact hs.congr rfl rfl
      · exact hs
  | construct =>
      simp only [machine, step, construct] at hstep
      split at hstep
      · rcases Option.map_eq_some_iff.mp hstep with ⟨u, hu, rfl⟩
        unfold UdfpsSensor.construct at hu
        split_ifs at hu
        cases hu
        exact hs.congr rfl rfl
      · contradiction
  | dispatch =>
      have hsame := (dispatch_eq_some hstep).2.1
      rw [hsame]
      exact hs
  | activate thread enable =>
      exact hsensor (.call thread (.activate enable)) (by simp) rfl hstep
  | setOperationMode thread mode =>
      exact hsensor (.call thread (.setOperationMode mode)) (by simp) rfl
        hstep
  | caller thread =>
      simp only [machine, step] at hstep
      exact hsensor (.caller thread) (by simp) rfl hstep
  | worker =>
      simp only [machine, step] at hstep
      split at hstep
      · contradiction
      · exact runStep_undestroyed hs hstep
      · rcases Option.map_eq_some_iff.mp hstep with ⟨u, hu, rfl⟩
        have hworker : UdfpsSensor.SensorStep capacity s.sensor .worker u :=
          UdfpsSensor.step_cases hu
        exact hs.step (by simp) hworker
  | sample now =>
      simp only [machine, step] at hstep
      split_ifs at hstep
      cases hstep
      exact sample_undestroyed hs
  | pollReturn result => exact hsensor (.pollReturn result) (by simp) rfl hstep
  | wakeUp =>
      simp only [machine, step] at hstep
      split at hstep
      · cases hstep
        exact hs
      · cases hstep
        exact hs
      · exact hsensor .spuriousWake (by simp) rfl hstep
      · contradiction
  | fpNotify fp => exact hsensor (.fpNotify fp) (by simp) rfl hstep

theorem reachable_undestroyed (hs : (machine capacity).Reachable s) :
    Undestroyed s.sensor := by
  apply Machine.ReachableUnder.invariant _ _ hs
  · rintro s ⟨handle, fp, x, y, rfl⟩
    exact ⟨rfl, fun c => by simp [initial, UdfpsSensor.initial]⟩
  · intro s a t _ hs _ hstep
    exact step_undestroyed hs hstep

/-- Outside `Sensor::run`, and every event so far has its read. -/
structure Quiet (s : StartingSensor) : Prop where
  undestroyed : Undestroyed s.sensor
  outside : s.OutsideSensorRun
  events : s.NoSpuriousEvents

theorem Quiet.step (hs : s.Quiet) (hlate : s.DispatchesLate a)
    (hexact : s.ReadsExact a)
    (hstep : (machine capacity).step s a = some t) : t.Quiet := by
  have hundestroyed := step_undestroyed hs.undestroyed hstep
  rcases step_outside hs.outside hstep with
    ⟨ha, hdispatch⟩ | ⟨ha, hloop, hrun, hsame⟩ | ⟨hsame, haccesses, _⟩
  · rcases dispatch_eq_some hdispatch with ⟨hnone, _, haccesses, hclass⟩
    refine ⟨hundestroyed, ?_, ?_⟩
    · intro pc hpc
      rw [hclass (hlate ha hnone)] at hpc
      cases hpc
    · unfold NoSpuriousEvents
      rw [haccesses]
      exact hs.events
  · refine ⟨hundestroyed, ?_, ?_⟩
    · intro pc
      rw [hsame]
      exact hs.outside pc
    · exact noSpuriousEvents_udfpsRunStep hs.events hs.undestroyed
        (hexact ha hloop) hrun
  · refine ⟨hundestroyed, ?_, ?_⟩
    · intro pc
      rw [hsame]
      exact hs.outside pc
    · unfold NoSpuriousEvents
      rw [haccesses]
      exact hs.events

theorem initial_quiet (hs : (machine capacity).Initial s) : s.Quiet := by
  have hundestroyed := reachable_undestroyed (Machine.ReachableUnder.initial hs)
  rcases hs with ⟨handle, fp, x, y, rfl⟩
  refine ⟨hundestroyed, ?_, OwnSources.nil⟩
  intro pc hpc
  cases hpc

theorem noSpuriousEvents_of_late {as : List StartupAction} (hs : s.Quiet)
    (hmeets : (machine capacity).Along
      (fun s a => s.DispatchesLate a ∧ s.ReadsExact a) s as) :
    (machine capacity).Always NoSpuriousEvents s as := by
  have hquiet : (machine capacity).Always Quiet s as :=
    hmeets.always
      (fun _ _ _ hs hmeets hstep => hs.step hmeets.1 hmeets.2 hstep) hs
  exact hquiet.mono fun _ hs => hs.events

/-- Once the call went to `UdfpsSensor::run` it does not come too early. -/
theorem Quiet.dispatched (hs : s.Quiet) (hloop : s.loop = some .udfpsSensor)
    {as : List StartupAction} (hexact : (machine capacity).Along ReadsExact s as) :
    (machine capacity).Always NoSpuriousEvents s as := by
  have hquiet : (machine capacity).Always
      (fun s => s.Quiet ∧ s.loop = some .udfpsSensor) s as := by
    apply hexact.always _ ⟨hs, hloop⟩
    rintro s a t ⟨hs, hloop⟩ hexact hstep
    have hlate : s.DispatchesLate a := by
      intro _ hnone
      rw [hloop] at hnone
      cases hnone
    refine ⟨hs.step hlate hexact hstep, ?_⟩
    rcases step_outside hs.outside hstep with
      ⟨_, hdispatch⟩ | ⟨_, _, _, hsame⟩ | ⟨hsame, _⟩
    · have hnone := (dispatch_eq_some hdispatch).1
      rw [hloop] at hnone
      cases hnone
    · rw [hsame, hloop]
    · rw [hsame, hloop]
  exact hquiet.mono fun _ hs => hs.1.events

/-! ## Before `run` is called -/

/-- The object while the worker has not called `run` and the body of the last
constructor was not entered. -/
def unborn (dynamicClass : SensorClass) (info : SensorInfo) (fp : FpState)
    (notified : Bool) (x y : ℤ) : StartingSensor where
  sensor :=
    { UdfpsSensor.initial info.sensorHandle fp x y with
      mSensorInfo := info
      fpNotified := notified }
  dynamicClass := dynamicClass
  loop := none
  mSamplingPeriodNs := 0
  mLastSampleTimeNs := 0
  accesses := []

/-- Before `run` is called nothing was accessed, and before the last
constructor is entered nothing has happened to the object. -/
def BeforeRun (s : StartingSensor) : Prop :=
  s.loop = none → s.accesses = [] ∧
    (s.dynamicClass ≠ .udfpsSensor →
      ∃ dynamicClass info fp notified x y,
        s = unborn dynamicClass info fp notified x y)

theorem unborn_step {dynamicClass : SensorClass} {info : SensorInfo}
    {fp : FpState} {notified : Bool} {x y : ℤ}
    (hstep : (machine capacity).step
      (unborn dynamicClass info fp notified x y) a = some t)
    (hloop : t.loop = none) (hclass : t.dynamicClass ≠ .udfpsSensor) :
    ∃ dynamicClass info fp notified x y,
      t = unborn dynamicClass info fp notified x y := by
  cases a with
  | enterConstructor =>
      cases dynamicClass with
      | sensor =>
          cases hstep
          exact ⟨.oneShotSensor, OneShotSensor.sensorInfo info.sensorHandle, fp,
            notified, x, y, rfl⟩
      | oneShotSensor =>
          cases hstep
          exact absurd rfl hclass
      | udfpsSensor => cases hstep
  | fpNotify fp =>
      cases hstep
      exact ⟨dynamicClass, info, fp, true, x, y, rfl⟩
  | dispatch =>
      cases hstep
      cases hloop
  | construct =>
      cases dynamicClass with
      | sensor => cases hstep
      | oneShotSensor => cases hstep
      | udfpsSensor =>
          cases hstep
          exact absurd rfl hclass
  | caller thread => cases hstep
  | pollReturn result => cases hstep
  | activate | setOperationMode | worker | sample | wakeUp => cases hstep

theorem runStep_loop {pc : SensorRunPc} (hstep : s.runStep pc = some t) :
    ∃ pc, t.loop = some (.sensor pc) := by
  cases pc with
  | start | notified | timedNotified =>
      rcases Option.map_eq_some_iff.mp hstep with ⟨u, _, rfl⟩
      exact ⟨_, rfl⟩
  | check =>
      simp only [runStep] at hstep
      split_ifs at hstep <;> cases hstep <;> exact ⟨_, rfl⟩
  | predicate =>
      simp only [runStep] at hstep
      split_ifs at hstep <;> cases hstep <;> exact ⟨_, rfl⟩
  | waitFor =>
      cases hstep
      exact ⟨_, rfl⟩
  | waiting | sample | timedWaiting | exited => cases hstep

/-- The worker does not leave the loop it has entered for the other one. -/
theorem sensorRun_step {pc : SensorRunPc}
    (hs : s.loop = some (.sensor pc))
    (hstep : (machine capacity).step s a = some t) :
    ∃ pc, t.loop = some (.sensor pc) := by
  cases a with
  | dispatch => simp [machine, step, dispatch, hs] at hstep
  | worker =>
      simp only [machine, step, hs] at hstep
      exact runStep_loop hstep
  | enterConstructor =>
      simp only [machine, step, enterConstructor] at hstep
      split at hstep <;> cases hstep <;> exact ⟨pc, hs⟩
  | construct =>
      simp only [machine, step, construct] at hstep
      split at hstep
      · rcases Option.map_eq_some_iff.mp hstep with ⟨u, _, rfl⟩
        exact ⟨pc, hs⟩
      · contradiction
  | sample now =>
      simp only [machine, step] at hstep
      split_ifs at hstep
      cases hstep
      exact ⟨.waitFor, rfl⟩
  | wakeUp =>
      simp only [machine, step, hs] at hstep
      split at hstep
      · cases hstep
        exact ⟨.notified, rfl⟩
      · cases hstep
        exact ⟨.timedNotified, rfl⟩
      · rename_i hloop
        cases hloop
      · contradiction
  | caller thread =>
      simp only [machine, step, hs] at hstep
      rcases onSensor_eq_some.mp hstep with ⟨u, _, rfl⟩
      dsimp only
      split_ifs
      · exact ⟨pc.notify, rfl⟩
      · exact ⟨pc, rfl⟩
  | activate | setOperationMode | pollReturn | fpNotify =>
      simp only [machine, step] at hstep
      rcases onSensor_eq_some.mp hstep with ⟨u, _, rfl⟩
      exact ⟨pc, hs⟩

theorem BeforeRun.step (hs : s.BeforeRun)
    (hstep : (machine capacity).step s a = some t) : t.BeforeRun := by
  intro hloop
  have houtside : s.OutsideSensorRun := by
    intro pc hpc
    rcases sensorRun_step hpc hstep with ⟨pc', hpc'⟩
    rw [hloop] at hpc'
    cases hpc'
  rcases step_outside houtside hstep with
    ⟨_, hdispatch⟩ | ⟨_, hrun, _, hsame⟩ | ⟨hsame, haccesses, hclass⟩
  · rcases dispatch_loop hdispatch with ⟨loop, hsome⟩
    rw [hloop] at hsome
    cases hsome
  · rw [hloop, hrun] at hsame
    cases hsame
  · rw [hloop] at hsame
    rcases hs hsame.symm with ⟨hempty, hunborn⟩
    refine ⟨haccesses.trans hempty, ?_⟩
    intro hbefore
    rcases hunborn fun h => hbefore (hclass h) with
      ⟨dynamicClass, info, fp, notified, x, y, rfl⟩
    exact unborn_step hstep hloop hbefore

theorem reachable_beforeRun (hs : (machine capacity).Reachable s) :
    s.BeforeRun := by
  apply Machine.ReachableUnder.invariant _ _ hs
  · rintro s ⟨handle, fp, x, y, rfl⟩ _
    refine ⟨rfl, fun _ => ?_⟩
    exact ⟨.sensor, Sensor.sensorInfo handle, fp, false, x, y, rfl⟩
  · intro s a t _ hs _ hstep
    exact hs.step hstep

/-! ## `Sensor::run` -/

/-- The constructors end, the sensor is activated, and the worker takes its
first sample. -/
def firstSample : List StartupAction :=
  [.construct, .activate 0 true, .caller 0, .caller 0, .caller 0, .caller 0,
    .caller 0, .worker, .worker, .sample 0]

def enterConstructors : SensorClass → List StartupAction
  | .sensor => [.enterConstructor, .enterConstructor]
  | .oneShotSensor => [.enterConstructor]
  | .udfpsSensor => []

theorem firstSample_posts (capacity : ℕ) (dynamicClass : SensorClass)
    (info : SensorInfo) (fp : FpState) (notified : Bool) (x y : ℤ) :
    ∃ u event,
      (machine (capacity + 1)).run
          { unborn dynamicClass info fp notified x y with
            loop := some (.sensor .start) }
          (enterConstructors dynamicClass ++ firstSample) = some u ∧
        u.accesses = [.postEvent event] := by
  cases dynamicClass with
  | sensor => exact ⟨_, _, rfl, rfl⟩
  | oneShotSensor => exact ⟨_, _, rfl, rfl⟩
  | udfpsSensor => exact ⟨_, _, rfl, rfl⟩

/-- In `Sensor::run` no record is read. -/
theorem readsExact_of_sensorRun (hs : ∃ pc, s.loop = some (.sensor pc))
    (as : List StartupAction) : (machine capacity).Along ReadsExact s as := by
  induction as generalizing s with
  | nil => trivial
  | cons a as ih =>
      obtain ⟨pc, hloop⟩ := hs
      constructor
      · intro _ hudfps
        rw [hloop] at hudfps
        cases hudfps
      · intro t hstep
        exact ih (sensorRun_step hloop hstep)

/-- If the call went to `Sensor::run`, an event that was not read can
follow. -/
theorem spurious_of_early (hcapacity : 0 < capacity)
    (hs : (machine capacity).Reachable s)
    (hearly : s.dynamicClass ≠ .udfpsSensor)
    (hstep : (machine capacity).step s .dispatch = some t) :
    ∃ as, (machine capacity).Along ReadsExact t as ∧
      ¬ (machine capacity).Always NoSpuriousEvents t as := by
  have hnone := (dispatch_eq_some hstep).1
  rcases (reachable_beforeRun hs hnone).2 hearly with
    ⟨dynamicClass, info, fp, notified, x, y, rfl⟩
  rcases Nat.exists_eq_succ_of_ne_zero hcapacity.ne' with ⟨room, rfl⟩
  have ht : t = { unborn dynamicClass info fp notified x y with
      loop := some (.sensor .start) } := by
    cases dynamicClass with
    | sensor =>
        cases hstep
        rfl
    | oneShotSensor =>
        cases hstep
        rfl
    | udfpsSensor => exact absurd rfl hearly
  rcases firstSample_posts room dynamicClass info fp notified x y
    with ⟨u, event, hrun, haccesses⟩
  rw [ht]
  refine ⟨enterConstructors dynamicClass ++ firstSample,
    readsExact_of_sensorRun ⟨.start, rfl⟩ _, ?_⟩
  intro halways
  have hu : u.NoSpuriousEvents := halways.last hrun
  unfold NoSpuriousEvents at hu
  rw [haccesses] at hu
  exact hu.head trivial

/-- The event of a statement that reads a finger. -/
theorem feeds_of_read (hs : (machine capacity).Reachable s)
    (hloop : s.loop = some .udfpsSensor)
    (hstep : (machine capacity).step s .worker = some t) {fp : FpState}
    {posted : PostedEvent}
    (haccesses : t.accesses =
      s.accesses ++ [.readFpState fp, .postEvent posted]) :
    Feeds (.readFpState fp) (.postEvent posted) ↔ fp.Exact := by
  simp only [machine, step, hloop] at hstep
  rcases Option.map_eq_some_iff.mp hstep with ⟨sensor, hworker, rfl⟩
  simp only [List.append_assoc, List.append_cancel_left_eq] at haccesses
  rcases nodeRead_newPosts (reachable_undestroyed hs).1 hworker with
    ⟨hread, hposts⟩ | ⟨fp', hread, hposts | ⟨posted', hposts, hfeeds⟩⟩
  · simp [hread, hposts] at haccesses
  · simp [hread, hposts] at haccesses
  · simp only [hread, hposts, List.cons_append, List.nil_append, List.cons.injEq,
      SensorAccess.readFpState.injEq, SensorAccess.postEvent.injEq,
      and_true] at haccesses
    obtain ⟨rfl, rfl⟩ := haccesses
    exact hfeeds

/-- Runs that call `run` late and read exact coordinates have no spurious
events.  From any call of `run` on there are none in any run with exact
coordinates if and only if it was late, and the event posted with a read
carries the coordinates of its record if and only if they are exact. -/
theorem noSpuriousEvents_iff_late (hcapacity : 0 < capacity) :
    (∀ s as, (machine capacity).Initial s →
      (machine capacity).Along
        (fun s a => s.DispatchesLate a ∧ s.ReadsExact a) s as →
        (machine capacity).Always NoSpuriousEvents s as) ∧
    (∀ s t, (machine capacity).Reachable s →
      (machine capacity).step s .dispatch = some t →
        ((∀ as, (machine capacity).Along ReadsExact t as →
          (machine capacity).Always NoSpuriousEvents t as) ↔
            s.dynamicClass = .udfpsSensor)) ∧
    (∀ s t fp posted, (machine capacity).Reachable s →
      s.loop = some .udfpsSensor →
      (machine capacity).step s .worker = some t →
      t.accesses = s.accesses ++ [.readFpState fp, .postEvent posted] →
        (Feeds (.readFpState fp) (.postEvent posted) ↔ fp.Exact)) := by
  refine ⟨?_, ?_, ?_⟩
  · intro s as hs hmeets
    exact noSpuriousEvents_of_late (initial_quiet hs) hmeets
  · intro s t hs hstep
    constructor
    · intro hall
      by_contra hearly
      rcases spurious_of_early hcapacity hs hearly hstep with
        ⟨as, hexact, hspurious⟩
      exact hspurious (hall as hexact)
    · intro hclass as hexact
      rcases dispatch_eq_some hstep with ⟨hnone, _, haccesses, hloop⟩
      have hquiet : t.Quiet := by
        refine ⟨step_undestroyed (reachable_undestroyed hs) hstep, ?_, ?_⟩
        · intro pc hpc
          rw [hloop hclass] at hpc
          cases hpc
        · unfold NoSpuriousEvents
          rw [haccesses, (reachable_beforeRun hs hnone).1]
          exact OwnSources.nil
      exact hquiet.dispatched (hloop hclass) hexact
  · intro s t fp posted hs hloop hstep haccesses
    exact feeds_of_read hs hloop hstep haccesses

/-- The constructors end, `run` is called, the sensor is enabled and touched. -/
def lateTouch : List StartupAction :=
  [.enterConstructor, .enterConstructor, .construct, .dispatch,
    .activate 0 true, .caller 0, .caller 0, .caller 0, .caller 0, .caller 0,
    .worker, .worker, .worker, .fpNotify ⟨true, [540, 1800, 1]⟩,
    .pollReturn (.ready false true), .worker, .worker]

theorem eq_of_mem_nodeRead {s : UdfpsSensor} {fp : FpState}
    (hfp : .readFpState fp ∈ nodeRead s) : fp = s.fpState := by
  unfold nodeRead at hfp
  split at hfp
  · simpa using hfp
  · cases hfp

theorem screen_exact : FpState.Exact ⟨true, [540, 1800, 1]⟩ := by
  rintro x y state rest hnumbers _
  simp only [List.cons.injEq] at hnumbers
  obtain ⟨rfl, rfl, _⟩ := hnumbers
  exact ⟨floatOf_eq (by decide), floatOf_eq (by decide)⟩

def checkTouch (s : StartingSensor) (a : StartupAction) : Bool :=
  (a ≠ .dispatch || s.dynamicClass = .udfpsSensor) &&
    (a ≠ .worker || nodeRead s.sensor = [] ||
      s.sensor.fpState = ⟨true, [540, 1800, 1]⟩)

theorem meets_of_check {s : StartingSensor} {a : StartupAction}
    (hcheck : s.checkTouch a = true) : s.DispatchesLate a ∧ s.ReadsExact a := by
  simp only [checkTouch, Bool.and_eq_true, Bool.or_eq_true,
    decide_eq_true_eq] at hcheck
  constructor
  · intro ha _
    exact hcheck.1.resolve_left fun hne => hne ha
  · intro ha _ fp hfp
    rcases hcheck.2 with (hne | hnone) | hscreen
    · exact absurd ha hne
    · rw [hnone] at hfp
      cases hfp
    · rw [eq_of_mem_nodeRead hfp, hscreen]
      exact screen_exact

theorem noSpuriousEvents_iff_late_pipe : 0 < 65536 ∧
    (∃ t, (machine 65536).run (initial 1 ⟨true, [0, 0, 0]⟩ 0 0) lateTouch =
      some t ∧ t.sensor.posted.length = 1) ∧
    (machine 65536).Always NoSpuriousEvents
      (initial 1 ⟨true, [0, 0, 0]⟩ 0 0) lateTouch := by
  refine ⟨by decide, ⟨_, rfl, rfl⟩, ?_⟩
  exact (noSpuriousEvents_iff_late (by decide)).1 _ _
    ⟨1, ⟨true, [0, 0, 0]⟩, 0, 0, rfl⟩
    (Machine.along_of_check (fun _ _ => meets_of_check) (by decide))

/-- `run` is called while the constructor of `Sensor` is executing. -/
theorem sample_not_read :
    ¬ ∀ capacity s as, (machine capacity).Initial s →
      (machine capacity).Always NoSpuriousEvents s as := by
  intro hclaim
  have halways := hclaim 65536 (initial 1 ⟨true, [0, 0, 0]⟩ 0 0)
    (.dispatch :: enterConstructors .sensor ++ firstSample)
    ⟨1, ⟨true, [0, 0, 0]⟩, 0, 0, rfl⟩
  obtain ⟨u, hrun, event, haccesses⟩ :
      ∃ u, (machine 65536).run (initial 1 ⟨true, [0, 0, 0]⟩ 0 0)
          (.dispatch :: enterConstructors .sensor ++ firstSample) = some u ∧
        ∃ event, u.accesses = [.postEvent event] :=
    ⟨_, rfl, _, rfl⟩
  have hu : u.NoSpuriousEvents := halways.last hrun
  unfold NoSpuriousEvents at hu
  rw [haccesses] at hu
  exact hu.head trivial

end StartingSensor

end Samurai
