import Samurai.ForwardSimulation
import Samurai.UdfpsSensorOneShot
import Samurai.UdfpsSensorStaleEvent

/-!
# The sensor as an atomic object

What the threads, the mutex, the condition variable and the pipe amount to is
an object with six operations: calls set the flags at once; the worker starts
to watch while the sensor is enabled and in normal operation, stops watching,
or posts an event, which disables the sensor.  It posts only while it watches,
but calls may come in between.  Once the object is being destroyed its events
have no coordinates.

The worker executes `UdfpsSensor::run`.
-/

namespace Samurai

structure AtomicSensor where
  mSensorInfo : SensorInfo
  mIsEnabled : Bool
  mMode : OperationMode
  destructed : Bool
  watching : Bool
  posted : List PostedEvent
  deriving DecidableEq, Repr

inductive AtomicAction where
  | setEnabled (enable : Bool)
  | setOperationMode (mode : OperationMode)
  | destruct
  | watch
  | unwatch
  | finger (x y : ℤ)
  deriving DecidableEq, Repr

def AtomicAction.ofWorker : AtomicAction → Bool
  | .watch | .unwatch | .finger _ _ => true
  | _ => false

namespace AtomicSensor

def event (v : AtomicSensor) (x y : ℤ) : PostedEvent where
  event :=
    { sensorHandle := v.mSensorInfo.sensorHandle
      sensorType := v.mSensorInfo.type
      data0 := if v.destructed then 0 else floatOf x
      data1 := if v.destructed then 0 else floatOf y }
  wakeup := v.mSensorInfo.flags &&& SensorFlagBits.wakeUp ≠ 0

def step (v : AtomicSensor) : AtomicAction → Option AtomicSensor
  | .setEnabled enable => some { v with mIsEnabled := enable }
  | .setOperationMode mode => some { v with mMode := mode }
  | .destruct => some { v with destructed := true }
  | .watch =>
      if v.mIsEnabled ∧ v.mMode = .normal then some { v with watching := true }
      else none
  | .unwatch => some { v with watching := false }
  | .finger x y =>
      if v.watching then
        some { v with
          mIsEnabled := false
          watching := false
          posted := v.posted ++ [v.event x y] }
      else none

def machine : Machine AtomicSensor AtomicAction where
  Initial v := v.mIsEnabled = false ∧ v.mMode = .normal ∧
    v.destructed = false ∧ v.watching = false ∧ v.posted = []
  step := step

end AtomicSensor

namespace UdfpsSensor

variable {capacity : ℕ} {s t : UdfpsSensor} {a : SensorAction}

def view (s : UdfpsSensor) : AtomicSensor where
  mSensorInfo := s.mSensorInfo
  mIsEnabled := s.mIsEnabled
  mMode := s.mMode
  destructed := s.destructed
  watching := s.worker.watching
  posted := s.posted

/-- A call takes effect where it looks at its flag, the worker where it has
looked at the flags or at `fp_state`. -/
def effect (s : UdfpsSensor) : SensorAction → Option AtomicAction
  | .caller c =>
      match s.caller c with
      | .activateTest enable => some (.setEnabled enable)
      | .modeTest mode => some (.setOperationMode mode)
      | .destroyPipe => some .destruct
      | .destroyStop => some (.setEnabled false)
      | _ => none
  | .worker =>
      match s.worker with
      | .check => if s.mStopThread || s.idle then none else some .watch
      | .branch (.ready _ true) =>
          let (found, x, y) := readFpState s.fpState s.mScreenX s.mScreenY
          if found then some (.finger x y) else some .unwatch
      | .branch _ => some .unwatch
      | _ => none
  | _ => none

theorem view_notifyAll : s.notifyAll.view = s.view := by
  have hwatching : s.notifyAll.worker.watching = s.worker.watching :=
    notifyAll_watching
  simp only [view, hwatching]
  rfl

theorem view_watch (hidle : s.idle = false) :
    AtomicSensor.machine.step s.view .watch =
      some { s with worker := .unlock }.view := by
  have henabled : s.mIsEnabled = true := by
    cases hflag : s.mIsEnabled <;> simp [idle, hflag] at hidle ⊢
  have hmode : s.mMode = .normal := by
    cases hmode : s.mMode <;> simp [idle, hmode] at hidle ⊢
  simp [AtomicSensor.machine, AtomicSensor.step, view, henabled, hmode,
    WorkerPc.watching]

theorem effect_visible {b : AtomicAction} (hstep : SensorStep capacity s a t)
    (heffect : s.effect a = some b) :
    AtomicSensor.machine.step s.view b = some t.view := by
  cases hstep
  case stop hw hstop => simp [effect, hw, hstop] at heffect
  case sleep hw hstop hidle => simp [effect, hw, hidle] at heffect
  case watch hw hstop hidle =>
      simp only [effect, hw, hstop, hidle, Bool.or_self, Bool.false_eq_true,
        if_false, Option.some.injEq] at heffect
      subst heffect
      exact view_watch hidle
  case pollFailed hw =>
      simp only [effect, hw, Option.some.injEq] at heffect
      subst heffect
      rfl
  case post pipe x y hw hread =>
      simp only [effect, hw, hread, if_true, Option.some.injEq] at heffect
      subst heffect
      have hwatching : s.worker.watching = true := by
        rw [hw]
        rfl
      simp only [AtomicSensor.machine, AtomicSensor.step, view, hwatching,
        if_true]
      rfl
  case missFinger hw hread _ =>
      simp only [effect, hw, hread, Bool.false_eq_true, if_false,
        Option.some.injEq] at heffect
      subst heffect
      rfl
  case noFinger hw _ =>
      simp only [effect, hw, Option.some.injEq] at heffect
      subst heffect
      rfl
  case activateChange c enable hc _ | modeChange c mode hc _
      | destroyPipe c hc _ | destroyStop c hc =>
      simp only [effect, hc, Option.some.injEq] at heffect
      subst heffect
      rfl
  case activateSame c enable hc hsame =>
      simp only [effect, hc, Option.some.injEq] at heffect
      subst heffect hsame
      rfl
  case modeSame c mode hc hsame =>
      simp only [effect, hc, Option.some.injEq] at heffect
      subst heffect hsame
      rfl
  all_goals simp [effect, *] at heffect

theorem view_goto {c : ℕ} {pc : CallerPc} : (s.goto c pc).view = s.view := rfl

theorem effect_hidden (hstep : SensorStep capacity s a t)
    (heffect : s.effect a = none) : t.view = s.view := by
  cases hstep
  case watch hw hstop hidle => simp [effect, hw, hstop, hidle] at heffect
  case post hw hread | missFinger hw hread _ =>
      simp [effect, hw, hread] at heffect
  case noFinger hw _ | pollFailed hw => simp [effect, hw] at heffect
  case activateChange hc _ | activateSame hc _ | modeChange hc _
      | modeSame hc _ | destroyPipe hc _ | destroyStop hc => simp [effect, hc] at heffect
  case activateNotify | modeNotify | destroyNotify =>
      rw [view_goto]
      exact view_notifyAll
  all_goals simp [view, goto, *, WorkerPc.watching]

/-- The threads of the sensor simulate the atomic object. -/
theorem simulates_atomic (capacity : ℕ) :
    Machine.Simulates (machine capacity) AtomicSensor.machine
      (fun _ _ => True) effect view fun _ => True where
  keeps := fun _ _ _ _ _ _ => trivial
  visible := fun _ _ _ _ _ _ hstep heffect =>
    effect_visible (step_cases hstep) heffect
  hidden := fun _ _ _ _ _ hstep heffect =>
    effect_hidden (step_cases hstep) heffect

end UdfpsSensor

namespace AtomicSensor

variable {v w v₀ : AtomicSensor} {bs before after : List AtomicAction} {x y : ℤ}

/-- The last operation of the worker was to watch, and it saw the flags set;
only calls have taken effect since. -/
def Watched (v₀ : AtomicSensor) (bs : List AtomicAction) : Prop :=
  ∃ before calls u, bs = before ++ .watch :: calls ∧
    (∀ b ∈ calls, b.ofWorker = false) ∧
    machine.run v₀ before = some u ∧ u.mIsEnabled = true ∧ u.mMode = .normal

theorem Watched.concat {b : AtomicAction}
    (hwatched : Watched v₀ bs) (hb : b.ofWorker = false) :
    Watched v₀ (bs ++ [b]) := by
  obtain ⟨before, calls, u, rfl, hcalls, hu⟩ := hwatched
  refine ⟨before, calls ++ [b], u, by simp, ?_, hu⟩
  intro b' hb'
  rcases List.mem_append.mp hb' with hold | hnew
  · exact hcalls b' hold
  · rw [List.mem_singleton.mp hnew]
    exact hb

theorem watched_of_run (hstart : v₀.watching = false)
    (hrun : machine.run v₀ bs = some v) (hwatching : v.watching = true) :
    Watched v₀ bs := by
  induction bs using List.reverseRecOn generalizing v with
  | nil =>
      have heq : v₀ = v := by simpa using hrun
      rw [← heq, hstart] at hwatching
      contradiction
  | append_singleton bs b ih =>
      obtain ⟨u, hu, hlast⟩ := Machine.run_append_eq_some.mp hrun
      rw [Machine.run_singleton] at hlast
      cases b with
      | setEnabled enable =>
          cases hlast
          exact (ih hu hwatching).concat rfl
      | setOperationMode mode =>
          cases hlast
          exact (ih hu hwatching).concat rfl
      | destruct =>
          cases hlast
          exact (ih hu hwatching).concat rfl
      | watch =>
          simp only [machine, step] at hlast
          split_ifs at hlast with hflags
          exact ⟨bs, [], u, rfl, by simp, hu, hflags⟩
      | unwatch =>
          cases hlast
          contradiction
      | finger x y =>
          simp only [machine, step] at hlast
          split_ifs at hlast
          cases hlast
          contradiction

theorem watched_before_finger (hstart : v₀.watching = false)
    (hrun : machine.run v₀ (before ++ .finger x y :: after) = some w) :
    Watched v₀ before := by
  obtain ⟨u, hu, hrest⟩ := Machine.run_append_eq_some.mp hrun
  obtain ⟨r, hfinger, _⟩ := Machine.run_cons_eq_some.mp hrest
  simp only [machine, step] at hfinger
  split_ifs at hfinger with hwatching
  exact watched_of_run hstart hu hwatching

end AtomicSensor

namespace UdfpsSensor

/-- Whatever the interleaving of a worker in `UdfpsSensor::run` with calls and
the destructors, the sensor behaves as the atomic object does:
the effects of a run, each at the moment it is taken, are a run of the object
with the same events.  An event is posted only after the worker has seen the
sensor enabled and in normal operation and has done nothing else since; calls
may have taken effect in between. -/
theorem refines_atomic (capacity : ℕ) (s : UdfpsSensor)
    (as : List SensorAction) (t : UdfpsSensor)
    (hs : (machine capacity).Initial s)
    (hrun : (machine capacity).run s as = some t) :
    AtomicSensor.machine.Initial s.view ∧
    AtomicSensor.machine.run s.view ((machine capacity).effects effect s as) =
      some t.view ∧
    ∀ before after x y,
      (machine capacity).effects effect s as =
        before ++ .finger x y :: after →
      AtomicSensor.Watched s.view before := by
  have heffects := (simulates_atomic capacity).run trivial
    Machine.along_true hrun
  obtain ⟨handle, fp, x, y, rfl⟩ := hs
  refine ⟨⟨rfl, rfl, rfl, rfl, rfl⟩, heffects, ?_⟩
  intro before after x' y' hsplit
  rw [hsplit] at heffects
  exact AtomicSensor.watched_before_finger rfl heffects

/-- The sensor is enabled and the worker polls; `activate(false)` takes effect;
then the event of a touch is posted. -/
theorem refines_atomic_staleRun :
    ∃ t, (machine 65536).run startState (enabledRun ++ disableRun ++
        .caller 0 :: staleRun ++ [.worker]) = some t ∧
      (machine 65536).effects effect startState (enabledRun ++ disableRun ++
          .caller 0 :: staleRun ++ [.worker]) =
        [.setEnabled true, .watch, .setEnabled false, .finger 540 1800] ∧
      AtomicSensor.Watched startState.view
        [.setEnabled true, .watch, .setEnabled false] := by
  obtain ⟨t, hrun⟩ :
      ∃ t, (machine 65536).run startState (enabledRun ++ disableRun ++
        .caller 0 :: staleRun ++ [.worker]) = some t := ⟨_, rfl⟩
  have heffects : (machine 65536).effects effect startState
      (enabledRun ++ disableRun ++ .caller 0 :: staleRun ++ [.worker]) =
        [.setEnabled true, .watch, .setEnabled false] ++
          .finger 540 1800 :: [] := rfl
  exact ⟨t, hrun, heffects, (refines_atomic 65536 startState _ t
    (startState_initial 65536) hrun).2.2 _ _ _ _ heffects⟩

end UdfpsSensor

end Samurai
