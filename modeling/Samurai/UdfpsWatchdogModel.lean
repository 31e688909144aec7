import Samurai.LabelledRuns
import Samurai.MutexOwnership

/-!
# The touch watchdog of the helper service

`UdfpsHelper::run` is a thread of the helper which ends a touch that nobody
ends: it waits until `currentIsDownState` is set, sleeps for three seconds and
calls `touchUp` if the flag is set then.  `touchDown` and `touchUp` write the
flag under `fpdown_mutex_lock`, but the watchdog waits on `mWaitCV` with
`run_mutex_lock`, and tests the flag under neither of the callers' locks.

Every statement that touches the flag, a lock or the condition variable is one
step here.  The wait is the four steps of the standard: test the predicate,
release the lock and block in one, wake, and take the lock again.
-/

namespace Samurai

inductive WatchdogPc where
  | start
  | test
  | predicate
  | block
  | waiting
  | notified
  | sleep
  | sleeping
  | retest
  | forceLock
  | forceWrite
  | forceNotify
  | forceUnlock
  deriving DecidableEq, Repr

/-- Where a thread is in `touchDown`, for `down = true`, or in `touchUp`. -/
inductive TouchPc where
  | idle
  | lock (down : Bool)
  | write (down : Bool)
  | notify (down : Bool)
  | unlock (down : Bool)
  deriving DecidableEq, Repr

inductive HelperThread where
  | watchdog
  | caller (thread : ℕ)
  deriving DecidableEq, Repr

structure UdfpsWatchdog where
  currentIsDownState : Bool
  fpdown_mutex_lock : Option HelperThread
  run_mutex_lock : Option HelperThread
  watchdog : WatchdogPc
  caller : ℕ → TouchPc

/-- Who moves: a new call of `touchDown` or `touchUp`, a caller's next
statement, the watchdog's next statement, the end of `sleep(3)`, or a spurious
wake-up. -/
inductive WatchdogAction where
  | call (thread : ℕ) (down : Bool)
  | caller (thread : ℕ)
  | watchdog
  | sleepEnds
  | spuriousWake
  deriving DecidableEq, Repr

def WatchdogPc.inside : WatchdogPc → Bool
  | .forceWrite | .forceNotify | .forceUnlock => true
  | _ => false

def TouchPc.inside : TouchPc → Bool
  | .write _ | .notify _ | .unlock _ => true
  | _ => false

/-- What the call a thread is in asks for. -/
def TouchPc.asked : TouchPc → Option Bool
  | .idle => none
  | .lock down | .write down | .notify down | .unlock down => some down

namespace UdfpsWatchdog

def goto (thread : ℕ) (pc : TouchPc) (s : UdfpsWatchdog) : UdfpsWatchdog :=
  { s with caller := Function.update s.caller thread pc }

/-- `mWaitCV.notify_all()`: the watchdog is the only thread that waits. -/
def notifyAll (s : UdfpsWatchdog) : UdfpsWatchdog :=
  { s with
    watchdog := if s.watchdog = .waiting then .notified else s.watchdog }

def lockFpdown (thread : HelperThread) (s : UdfpsWatchdog) :
    Option UdfpsWatchdog :=
  if s.fpdown_mutex_lock = none then
    some { s with fpdown_mutex_lock := some thread }
  else none

def unlockFpdown (s : UdfpsWatchdog) : UdfpsWatchdog :=
  { s with fpdown_mutex_lock := none }

def lockRun (thread : HelperThread) (s : UdfpsWatchdog) :
    Option UdfpsWatchdog :=
  if s.run_mutex_lock = none then
    some { s with run_mutex_lock := some thread }
  else none

def unlockRun (s : UdfpsWatchdog) : UdfpsWatchdog :=
  { s with run_mutex_lock := none }

def callerStep (thread : ℕ) (s : UdfpsWatchdog) : Option UdfpsWatchdog :=
  match s.caller thread with
  | .idle => none
  | .lock down =>
      (s.lockFpdown (.caller thread)).map (goto thread (.write down))
  | .write down =>
      some ({ s with currentIsDownState := down }.goto thread (.notify down))
  | .notify down => some (s.notifyAll.goto thread (.unlock down))
  | .unlock _ => some (s.unlockFpdown.goto thread .idle)

/-- One statement of `UdfpsHelper::run`, including those of the `touchUp` it
calls.  A watchdog that sleeps or waits makes no step of its own. -/
def watchdogStep (s : UdfpsWatchdog) : Option UdfpsWatchdog :=
  match s.watchdog with
  | .start => (s.lockRun .watchdog).map fun s => { s with watchdog := .test }
  | .test =>
      if !s.currentIsDownState then some { s with watchdog := .predicate }
      else some { s with watchdog := .sleep }
  | .predicate =>
      if s.currentIsDownState then some { s with watchdog := .test }
      else some { s with watchdog := .block }
  | .block => some { s.unlockRun with watchdog := .waiting }
  | .waiting => none
  | .notified =>
      (s.lockRun .watchdog).map fun s => { s with watchdog := .predicate }
  | .sleep => some { s with watchdog := .sleeping }
  | .sleeping => none
  | .retest =>
      if s.currentIsDownState then some { s with watchdog := .forceLock }
      else some { s with watchdog := .test }
  | .forceLock =>
      (s.lockFpdown .watchdog).map fun s => { s with watchdog := .forceWrite }
  | .forceWrite =>
      some { s with currentIsDownState := false, watchdog := .forceNotify }
  | .forceNotify => some { s.notifyAll with watchdog := .forceUnlock }
  | .forceUnlock => some { s.unlockFpdown with watchdog := .test }

def step (s : UdfpsWatchdog) : WatchdogAction → Option UdfpsWatchdog
  | .call thread down =>
      if s.caller thread = .idle then some (s.goto thread (.lock down))
      else none
  | .caller thread => s.callerStep thread
  | .watchdog => s.watchdogStep
  | .sleepEnds =>
      if s.watchdog = .sleeping then some { s with watchdog := .retest }
      else none
  | .spuriousWake =>
      if s.watchdog = .waiting then some { s with watchdog := .notified }
      else none

def initial : UdfpsWatchdog where
  currentIsDownState := false
  fpdown_mutex_lock := none
  run_mutex_lock := none
  watchdog := .start
  caller := fun _ => .idle

def machine : Machine UdfpsWatchdog WatchdogAction where
  Initial s := s = initial
  step := step

/-! ## What one step can do -/

inductive WatchdogStep :
    UdfpsWatchdog → WatchdogAction → UdfpsWatchdog → Prop
  | call {s : UdfpsWatchdog} {c : ℕ} {down : Bool} :
      s.caller c = .idle →
      WatchdogStep s (.call c down) (s.goto c (.lock down))
  | lock {s : UdfpsWatchdog} {c : ℕ} {down : Bool} :
      s.caller c = .lock down → s.fpdown_mutex_lock = none →
      WatchdogStep s (.caller c)
        ({ s with fpdown_mutex_lock := some (.caller c) }.goto c
          (.write down))
  | write {s : UdfpsWatchdog} {c : ℕ} {down : Bool} :
      s.caller c = .write down →
      WatchdogStep s (.caller c)
        ({ s with currentIsDownState := down }.goto c (.notify down))
  | notify {s : UdfpsWatchdog} {c : ℕ} {down : Bool} :
      s.caller c = .notify down →
      WatchdogStep s (.caller c) (s.notifyAll.goto c (.unlock down))
  | unlock {s : UdfpsWatchdog} {c : ℕ} {down : Bool} :
      s.caller c = .unlock down →
      WatchdogStep s (.caller c)
        ({ s with fpdown_mutex_lock := none }.goto c .idle)
  | start {s : UdfpsWatchdog} :
      s.watchdog = .start → s.run_mutex_lock = none →
      WatchdogStep s .watchdog
        { s with run_mutex_lock := some .watchdog, watchdog := .test }
  | testUp {s : UdfpsWatchdog} :
      s.watchdog = .test → s.currentIsDownState = false →
      WatchdogStep s .watchdog { s with watchdog := .predicate }
  | testDown {s : UdfpsWatchdog} :
      s.watchdog = .test → s.currentIsDownState = true →
      WatchdogStep s .watchdog { s with watchdog := .sleep }
  | proceed {s : UdfpsWatchdog} :
      s.watchdog = .predicate → s.currentIsDownState = true →
      WatchdogStep s .watchdog { s with watchdog := .test }
  | commit {s : UdfpsWatchdog} :
      s.watchdog = .predicate → s.currentIsDownState = false →
      WatchdogStep s .watchdog { s with watchdog := .block }
  | block {s : UdfpsWatchdog} :
      s.watchdog = .block →
      WatchdogStep s .watchdog
        { s with run_mutex_lock := none, watchdog := .waiting }
  | wake {s : UdfpsWatchdog} :
      s.watchdog = .notified → s.run_mutex_lock = none →
      WatchdogStep s .watchdog
        { s with run_mutex_lock := some .watchdog, watchdog := .predicate }
  | sleep {s : UdfpsWatchdog} :
      s.watchdog = .sleep →
      WatchdogStep s .watchdog { s with watchdog := .sleeping }
  | retestDown {s : UdfpsWatchdog} :
      s.watchdog = .retest → s.currentIsDownState = true →
      WatchdogStep s .watchdog { s with watchdog := .forceLock }
  | retestUp {s : UdfpsWatchdog} :
      s.watchdog = .retest → s.currentIsDownState = false →
      WatchdogStep s .watchdog { s with watchdog := .test }
  | forceLock {s : UdfpsWatchdog} :
      s.watchdog = .forceLock → s.fpdown_mutex_lock = none →
      WatchdogStep s .watchdog
        { s with
          fpdown_mutex_lock := some .watchdog
          watchdog := .forceWrite }
  | forceWrite {s : UdfpsWatchdog} :
      s.watchdog = .forceWrite →
      WatchdogStep s .watchdog
        { s with currentIsDownState := false, watchdog := .forceNotify }
  | forceNotify {s : UdfpsWatchdog} :
      s.watchdog = .forceNotify →
      WatchdogStep s .watchdog { s with watchdog := .forceUnlock }
  | forceUnlock {s : UdfpsWatchdog} :
      s.watchdog = .forceUnlock →
      WatchdogStep s .watchdog
        { s with fpdown_mutex_lock := none, watchdog := .test }
  | sleepEnds {s : UdfpsWatchdog} :
      s.watchdog = .sleeping →
      WatchdogStep s .sleepEnds { s with watchdog := .retest }
  | spuriousWake {s : UdfpsWatchdog} :
      s.watchdog = .waiting →
      WatchdogStep s .spuriousWake { s with watchdog := .notified }

variable {s t : UdfpsWatchdog} {a : WatchdogAction}

private theorem lockFpdown_map_eq_some
    {thread : HelperThread} {f : UdfpsWatchdog → UdfpsWatchdog} :
    (s.lockFpdown thread).map f = some t ↔
      s.fpdown_mutex_lock = none ∧
        t = f { s with fpdown_mutex_lock := some thread } := by
  unfold lockFpdown
  split_ifs with hfree
  · simp [hfree, eq_comm]
  · simp [hfree]

private theorem lockRun_map_eq_some
    {thread : HelperThread} {f : UdfpsWatchdog → UdfpsWatchdog} :
    (s.lockRun thread).map f = some t ↔
      s.run_mutex_lock = none ∧
        t = f { s with run_mutex_lock := some thread } := by
  unfold lockRun
  split_ifs with hfree
  · simp [hfree, eq_comm]
  · simp [hfree]

private theorem callerStep_cases {c : ℕ} (hstep : s.callerStep c = some t) :
    WatchdogStep s (.caller c) t := by
  unfold callerStep at hstep
  cases hcaller : s.caller c with
  | idle => simp [hcaller] at hstep
  | lock down =>
      rw [hcaller, lockFpdown_map_eq_some] at hstep
      rcases hstep with ⟨hfree, rfl⟩
      exact .lock hcaller hfree
  | write down =>
      simp only [hcaller, Option.some.injEq] at hstep
      subst hstep
      exact .write hcaller
  | notify down =>
      simp only [hcaller, Option.some.injEq] at hstep
      subst hstep
      exact .notify hcaller
  | unlock down =>
      simp only [hcaller, Option.some.injEq] at hstep
      subst hstep
      exact .unlock hcaller

private theorem watchdogStep_cases (hstep : s.watchdogStep = some t) :
    WatchdogStep s .watchdog t := by
  unfold watchdogStep at hstep
  cases hwatchdog : s.watchdog with
  | start =>
      rw [hwatchdog, lockRun_map_eq_some] at hstep
      rcases hstep with ⟨hfree, rfl⟩
      exact .start hwatchdog hfree
  | test =>
      simp only [hwatchdog] at hstep
      split_ifs at hstep with hup
      · cases hstep
        exact .testUp hwatchdog (by simpa using hup)
      · cases hstep
        exact .testDown hwatchdog (by simpa using hup)
  | predicate =>
      simp only [hwatchdog] at hstep
      split_ifs at hstep with hdown
      · cases hstep
        exact .proceed hwatchdog hdown
      · cases hstep
        exact .commit hwatchdog (by simpa using hdown)
  | block =>
      simp only [hwatchdog] at hstep
      cases hstep
      exact .block hwatchdog
  | waiting => simp [hwatchdog] at hstep
  | notified =>
      rw [hwatchdog, lockRun_map_eq_some] at hstep
      rcases hstep with ⟨hfree, rfl⟩
      exact .wake hwatchdog hfree
  | sleep =>
      simp only [hwatchdog] at hstep
      cases hstep
      exact .sleep hwatchdog
  | sleeping => simp [hwatchdog] at hstep
  | retest =>
      simp only [hwatchdog] at hstep
      split_ifs at hstep with hdown
      · cases hstep
        exact .retestDown hwatchdog hdown
      · cases hstep
        exact .retestUp hwatchdog (by simpa using hdown)
  | forceLock =>
      rw [hwatchdog, lockFpdown_map_eq_some] at hstep
      rcases hstep with ⟨hfree, rfl⟩
      exact .forceLock hwatchdog hfree
  | forceWrite =>
      simp only [hwatchdog] at hstep
      cases hstep
      exact .forceWrite hwatchdog
  | forceNotify =>
      simp only [hwatchdog, notifyAll] at hstep
      cases hstep
      exact .forceNotify hwatchdog
  | forceUnlock =>
      simp only [hwatchdog] at hstep
      cases hstep
      exact .forceUnlock hwatchdog

theorem step_cases (hstep : machine.step s a = some t) :
    WatchdogStep s a t := by
  cases a with
  | call c down =>
      simp only [machine, step] at hstep
      split_ifs at hstep with hidle
      cases hstep
      exact .call hidle
  | caller c => exact callerStep_cases hstep
  | watchdog => exact watchdogStep_cases hstep
  | sleepEnds =>
      simp only [machine, step] at hstep
      split_ifs at hstep with hsleeping
      cases hstep
      exact .sleepEnds hsleeping
  | spuriousWake =>
      simp only [machine, step] at hstep
      split_ifs at hstep with hwaiting
      cases hstep
      exact .spuriousWake hwaiting

@[simp] theorem goto_caller_self {c : ℕ} {pc : TouchPc} :
    (s.goto c pc).caller c = pc := by
  simp [goto]

theorem goto_caller_of_ne {c d : ℕ} {pc : TouchPc} (hne : d ≠ c) :
    (s.goto c pc).caller d = s.caller d := by
  simp [goto, Function.update_of_ne hne]

/-! ## The discipline of `fpdown_mutex_lock` -/

def inside (s : UdfpsWatchdog) : HelperThread → Prop
  | .watchdog => s.watchdog.inside = true
  | .caller c => (s.caller c).inside = true

def Disciplined (s : UdfpsWatchdog) : Prop :=
  Owned s.fpdown_mutex_lock s.inside

theorem inside_goto_of_ne {c : ℕ} {pc : TouchPc} {u : HelperThread}
    (hne : u ≠ .caller c) : (s.goto c pc).inside u ↔ s.inside u := by
  cases u with
  | watchdog => rfl
  | caller d =>
      have hd : d ≠ c := by
        intro heq
        exact hne (congrArg _ heq)
      simp only [inside, goto_caller_of_ne hd]

theorem Disciplined.goto {c : ℕ} {pc : TouchPc} (hs : s.Disciplined)
    (hside : pc.inside = (s.caller c).inside) :
    (s.goto c pc).Disciplined := by
  apply Owned.congr hs
  intro u
  by_cases hu : u = .caller c
  · subst hu
    simp [inside, hside]
  · exact inside_goto_of_ne hu

theorem Disciplined.watchdog {pc : WatchdogPc} (hs : s.Disciplined)
    (hside : pc.inside = s.watchdog.inside) :
    { s with watchdog := pc }.Disciplined := by
  apply Owned.congr hs
  intro u
  cases u with
  | watchdog => simp [inside, hside]
  | caller c => rfl

theorem Disciplined.step
    (hs : s.Disciplined) (hstep : WatchdogStep s a t) : t.Disciplined := by
  cases hstep with
  | call hc => exact hs.goto (by rw [hc]; rfl)
  | @lock c down hc hfree =>
      have hnone : Owned none s.inside := hfree ▸ hs
      apply hnone.acquire
      · simp [inside, TouchPc.inside]
      · intro u hu
        exact inside_goto_of_ne hu
  | write hc => exact hs.goto (by rw [hc]; rfl)
  | notify hc =>
      have hnotified : s.notifyAll.Disciplined := by
        apply hs.watchdog
        split_ifs with hwaiting
        · rw [hwaiting]
          rfl
        · rfl
      apply hnotified.goto
      rw [show s.notifyAll.caller = s.caller from rfl, hc]
      rfl
  | @unlock c down hc =>
      have hin : s.inside (.caller c) := by
        simp [inside, hc, TouchPc.inside]
      have hsome : Owned (some (.caller c)) s.inside := hs.eq_some hin ▸ hs
      apply hsome.release
      · simp [inside, TouchPc.inside]
      · intro u hu
        exact inside_goto_of_ne hu
  | start hw _ => exact hs.watchdog (by rw [hw]; rfl)
  | testUp hw _ => exact hs.watchdog (by rw [hw]; rfl)
  | testDown hw _ => exact hs.watchdog (by rw [hw]; rfl)
  | proceed hw _ => exact hs.watchdog (by rw [hw]; rfl)
  | commit hw _ => exact hs.watchdog (by rw [hw]; rfl)
  | block hw => exact hs.watchdog (by rw [hw]; rfl)
  | wake hw _ => exact hs.watchdog (by rw [hw]; rfl)
  | sleep hw => exact hs.watchdog (by rw [hw]; rfl)
  | retestDown hw _ => exact hs.watchdog (by rw [hw]; rfl)
  | retestUp hw _ => exact hs.watchdog (by rw [hw]; rfl)
  | forceLock hw hfree =>
      have hnone : Owned none s.inside := hfree ▸ hs
      apply hnone.acquire
      · rfl
      · intro u hu
        cases u with
        | watchdog => exact absurd rfl hu
        | caller c => rfl
  | forceWrite hw =>
      have hside : WatchdogPc.forceNotify.inside = s.watchdog.inside := by
        rw [hw]
        rfl
      exact hs.watchdog hside
  | forceNotify hw => exact hs.watchdog (by rw [hw]; rfl)
  | forceUnlock hw =>
      have hin : s.inside .watchdog := by
        simp [inside, hw, WatchdogPc.inside]
      have hsome : Owned (some .watchdog) s.inside := hs.eq_some hin ▸ hs
      apply hsome.release
      · simp [inside, WatchdogPc.inside]
      · intro u hu
        cases u with
        | watchdog => exact absurd rfl hu
        | caller c => rfl
  | sleepEnds hw => exact hs.watchdog (by rw [hw]; rfl)
  | spuriousWake hw => exact hs.watchdog (by rw [hw]; rfl)

theorem initial_disciplined : initial.Disciplined := by
  intro u
  cases u with
  | watchdog => simp [inside, initial, WatchdogPc.inside]
  | caller c => simp [inside, initial, TouchPc.inside]

theorem reachable_disciplined {P : UdfpsWatchdog → WatchdogAction → Prop}
    (hs : machine.ReachableUnder P s) : s.Disciplined := by
  apply Machine.ReachableUnder.invariant _ _ hs
  · intro s hinit
    rw [hinit]
    exact initial_disciplined
  · intro s a t _ hdisc _ hstep
    exact hdisc.step (step_cases hstep)

end UdfpsWatchdog

end Samurai
