import Samurai.UdfpsWatchdogModel
import Samurai.WakeupObligations

/-!
# The wake-up of the watchdog

A thread that waits on a condition variable gives up the lock under which the
condition is written in the same step in which it blocks, so that a writer
comes either before its test or after its block.  The watchdog gives up
`run_mutex_lock`, while the flag is written under `fpdown_mutex_lock`.  A
`touchDown` can therefore write the flag and call `notify_all` after the test
and before the block, and nobody wakes the watchdog for that touch.

Here a writer's debt is its `notify_all`, and the watchdog counts as blocked
from the test on.  The debt is paid unless the call falls between the two.
-/

namespace Samurai.UdfpsWatchdog

variable {s t : UdfpsWatchdog} {a : WatchdogAction} {c : ℕ}

/-- The watchdog is blocked without a wake-up pending during a touch, and no
call is between its write and its `notify_all`. -/
def LostPress (s : UdfpsWatchdog) : Prop :=
  s.watchdog = .waiting ∧ s.currentIsDownState = true ∧
    ∀ c down, s.caller c ≠ .notify down

/-- No `touchDown` calls `notify_all` between the watchdog's test of the
predicate and its block. -/
def Heard (s : UdfpsWatchdog) (a : WatchdogAction) : Prop :=
  ∀ c, a = .caller c → s.caller c = .notify true → s.watchdog ≠ .block

/-! ## The debt of `touchDown` -/

def Committed (s : UdfpsWatchdog) : Prop :=
  s.watchdog = .block ∨ s.watchdog = .waiting

def OwesNotify (s : UdfpsWatchdog) : Prop :=
  ∃ c, s.caller c = .notify true

def PressCovered : UdfpsWatchdog → Prop :=
  Covered Committed (fun s => s.currentIsDownState = true) (fun _ => False)
    OwesNotify

theorem OwesNotify.goto {pc : TouchPc} (hs : s.OwesNotify)
    (hother : s.caller c ≠ .notify true) : (s.goto c pc).OwesNotify := by
  rcases hs with ⟨d, hd⟩
  have hdc : d ≠ c := by
    intro heq
    rw [heq] at hd
    exact hother hd
  exact ⟨d, by rw [goto_caller_of_ne hdc]; exact hd⟩

theorem test_before_block (hstep : WatchdogStep s a t)
    (hbefore : ¬ s.Committed) (hafter : t.Committed) :
    ¬ t.currentIsDownState = true := by
  cases hstep
  case commit _ hclear => simp [hclear]
  case block hwatchdog => exact absurd (.inl hwatchdog) hbefore
  case notify c down hcaller =>
      simp only [Committed, UdfpsWatchdog.goto, notifyAll] at hafter
      split_ifs at hafter with hwaiting
      · simp at hafter
      · exact absurd hafter hbefore
  all_goals first
    | exact absurd hafter hbefore
    | simp [Committed] at hafter

theorem owes_of_press (hstep : WatchdogStep s a t)
    (hclear : ¬ s.currentIsDownState = true)
    (hdown : t.currentIsDownState = true) : t.OwesNotify := by
  cases hstep
  case write c down hcaller =>
      have hpress : down = true := hdown
      subst hpress
      exact ⟨c, goto_caller_self⟩
  case forceWrite => simp at hdown
  all_goals exact absurd hdown hclear

theorem notify_paid (hstep : WatchdogStep s a t) (hheard : Heard s a)
    (howes : s.OwesNotify) (hafter : t.Committed) : t.OwesNotify := by
  cases hstep
  case notify c down hcaller =>
      have hblock : s.watchdog = .block := by
        simp only [Committed, UdfpsWatchdog.goto, notifyAll] at hafter
        split_ifs at hafter with hwaiting
        · simp at hafter
        · rcases hafter with hblock | hwaits
          · exact hblock
          · exact absurd hwaits hwaiting
      apply OwesNotify.goto howes
      intro hpress
      exact hheard c rfl hpress hblock
  case call c down hidle =>
      apply OwesNotify.goto howes
      rw [hidle]
      simp
  case lock c down hcaller _ =>
      apply OwesNotify.goto howes
      simp [hcaller]
  case write c down hcaller =>
      apply OwesNotify.goto howes
      simp [hcaller]
  case unlock c down hcaller =>
      apply OwesNotify.goto howes
      simp [hcaller]
  all_goals exact howes

theorem PressCovered.step (hs : s.PressCovered) (hheard : Heard s a)
    (hstep : WatchdogStep s a t) : t.PressCovered := by
  apply Covered.step hs
  · exact test_before_block hstep
  · intro _ hclear hdown
    exact owes_of_press hstep hclear hdown
  · intro _ _ hsignal
    exact hsignal
  · intro howes hafter
    exact .inl (notify_paid hstep hheard howes hafter)

theorem reachable_pressCovered (hs : machine.ReachableUnder Heard s) :
    s.PressCovered := by
  apply Machine.ReachableUnder.invariant _ _ hs
  · intro s hinit hcommitted
    rw [hinit] at hcommitted
    simp [Committed, initial] at hcommitted
  · intro s a t _ hcovered hheard hstep
    exact hcovered.step hheard (step_cases hstep)

/-! ## A call nobody hears -/

/-- A call that has written the flag and is still inside the lock finds it as
it was written. -/
def Written (s : UdfpsWatchdog) : Prop :=
  ∀ c down, s.caller c = .notify down ∨ s.caller c = .unlock down →
    s.currentIsDownState = down

theorem Written.goto {pc : TouchPc} (hs : s.Written)
    (hpc : ∀ down, pc = .notify down ∨ pc = .unlock down →
      s.currentIsDownState = down) : (s.goto c pc).Written := by
  intro d down hd
  by_cases hdc : d = c
  · rw [hdc, goto_caller_self] at hd
    exact hpc down hd
  · rw [goto_caller_of_ne hdc] at hd
    exact hs d down hd

theorem inside_of_written {down : Bool}
    (hc : s.caller c = .notify down ∨ s.caller c = .unlock down) :
    s.inside (.caller c) := by
  rcases hc with hc | hc <;> simp [inside, hc, TouchPc.inside]

theorem Written.step (hs : s.Written) (hdisc : s.Disciplined)
    (hstep : WatchdogStep s a t) : t.Written := by
  cases hstep
  case write c down hcaller =>
      intro d down' hd
      by_cases hdc : d = c
      · rw [hdc, goto_caller_self] at hd
        have hsame : down = down' := by simpa using hd
        exact hsame
      · rw [goto_caller_of_ne hdc] at hd
        have hc : s.inside (.caller c) := by
          simp [inside, hcaller, TouchPc.inside]
        have hsame : HelperThread.caller d = .caller c :=
          Owned.unique hdisc (inside_of_written hd) hc
        cases hsame
        exact absurd rfl hdc
  case forceWrite hwatchdog =>
      intro d down hd
      have hin : s.inside .watchdog := by
        simp [inside, hwatchdog, WatchdogPc.inside]
      have hsame : HelperThread.watchdog = .caller d :=
        Owned.unique hdisc hin (inside_of_written (s := s) hd)
      contradiction
  case notify c down hcaller =>
      apply Written.goto (s := s.notifyAll) hs
      intro down' hpc
      cases hpc with
      | inl h => cases h
      | inr h =>
          cases h
          exact hs c down (.inl hcaller)
  all_goals first
    | exact hs
    | exact Written.goto hs (by simp)

theorem reachable_written (hs : machine.Reachable s) : s.Written := by
  apply Machine.ReachableUnder.invariant _ _ hs
  · intro s hinit
    rw [hinit]
    intro c down hc
    simp [initial] at hc
  · intro s a t hs hwritten _ hstep
    exact hwritten.step (reachable_disciplined hs) (step_cases hstep)

theorem lostPress_of_unheard (hs : machine.Reachable s)
    (hcaller : s.caller c = .notify true) (hblock : s.watchdog = .block) :
    ∃ t, machine.run s [.caller c, .watchdog] = some t ∧ t.LostPress := by
  have hdisc := reachable_disciplined hs
  have hdown := reachable_written hs c true (.inl hcaller)
  let t : UdfpsWatchdog :=
    { s with run_mutex_lock := none, watchdog := .waiting }.goto c
      (.unlock true)
  have hrun : machine.run s [.caller c, .watchdog] = some t := by
    simp [Machine.run, machine, step, callerStep, watchdogStep, hcaller,
      hblock, notifyAll, unlockRun, goto, t]
  refine ⟨t, hrun, rfl, hdown, ?_⟩
  intro d down hd
  by_cases hdc : d = c
  · simp [t, hdc] at hd
  · rw [goto_caller_of_ne hdc] at hd
    have hc : s.inside (.caller c) := by
      simp [inside, hcaller, TouchPc.inside]
    have hd' : s.inside (.caller d) := by
      rw [inside, show s.caller d = .notify down from hd]
      rfl
    have hsame : HelperThread.caller d = .caller c :=
      Owned.unique hdisc hd' hc
    cases hsame
    exact hdc rfl

/-- In runs where every `touchDown` is heard no press is slept through, and
after one that is not heard the watchdog's next statement loses the press. -/
theorem lostPress_of_notify_before_block (s : UdfpsWatchdog) :
    (machine.ReachableUnder Heard s → ¬ s.LostPress) ∧
    ∀ c, machine.Reachable s → ¬ Heard s (.caller c) →
      ∃ t, machine.run s [.caller c, .watchdog] = some t ∧ t.LostPress := by
  constructor
  · intro hs hlost
    rcases hlost with ⟨hwaiting, hdown, hpaid⟩
    have hcovered := reachable_pressCovered hs (.inr hwaiting)
    rcases hcovered with hclear | hsignal | ⟨c, hc⟩
    · exact hclear hdown
    · exact hsignal
    · exact hpaid c true hc
  · intro c hs hunheard
    simp only [Heard, WatchdogAction.caller.injEq, forall_eq',
      Classical.not_imp, ne_eq, not_not] at hunheard
    exact lostPress_of_unheard hs hunheard.1 hunheard.2

/-- The watchdog blocks; then a whole touch up to its `notify_all`. -/
def heardRun : List WatchdogAction :=
  [.watchdog, .watchdog, .watchdog, .watchdog, .call 0 true, .caller 0,
    .caller 0, .caller 0]

def checkHeard (s : UdfpsWatchdog) : WatchdogAction → Bool
  | .caller _ => s.watchdog ≠ .block
  | _ => true

theorem heard_of_check {s : UdfpsWatchdog} {a : WatchdogAction}
    (hcheck : s.checkHeard a = true) : Heard s a := by
  rintro c rfl _
  simpa [checkHeard] using hcheck

theorem press_heard : ∃ s, machine.run initial heardRun = some s ∧
    s.currentIsDownState = true ∧ s.watchdog = .notified ∧
    machine.ReachableUnder Heard s ∧ ¬ s.LostPress := by
  obtain ⟨s, hrun, hdown, hnotified⟩ : ∃ s,
      machine.run initial heardRun = some s ∧ s.currentIsDownState = true ∧
        s.watchdog = .notified := ⟨_, rfl, rfl, rfl⟩
  have hheard : machine.ReachableUnder Heard s :=
    Machine.reachableUnder_of_run (M := machine) rfl
      (Machine.along_of_check (fun _ _ => heard_of_check) (by decide)) hrun
  exact ⟨s, hrun, hdown, hnotified, hheard,
    (lostPress_of_notify_before_block s).1 hheard⟩

/-- The watchdog finds the flag clear; then a whole touch up to its
`notify_all`; then the watchdog blocks. -/
def unheardRun : List WatchdogAction :=
  [.watchdog, .watchdog, .watchdog, .call 0 true, .caller 0, .caller 0,
    .caller 0, .watchdog]

theorem watchdog_sleeps_through_press :
    ¬ ∀ s, machine.Reachable s → ¬ s.LostPress := by
  intro hclaim
  obtain ⟨s, hrun, hwaiting, hdown, hcallers⟩ :
      ∃ s, machine.run initial unheardRun = some s ∧
        s.watchdog = .waiting ∧ s.currentIsDownState = true ∧
        ∀ c down, s.caller c ≠ .notify down := by
    refine ⟨_, rfl, rfl, rfl, ?_⟩
    intro c down
    by_cases hc : c = 0
    · subst hc
      intro hcaller
      cases hcaller
    · simp [goto, notifyAll, unlockRun, initial, Function.update_of_ne hc]
  have hs := Machine.reachable_of_run (M := machine) rfl hrun
  exact hclaim s hs ⟨hwaiting, hdown, hcallers⟩

end Samurai.UdfpsWatchdog
