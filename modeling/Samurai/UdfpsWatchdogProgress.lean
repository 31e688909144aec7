import Samurai.UdfpsWatchdogWakeup

/-!
# What the watchdog and the callers can count on

The watchdog never sleeps nor waits inside `fpdown_mutex_lock`, so that a
`touchDown` or `touchUp` is never held up for the length of a sleep.  In
return the watchdog needs nobody to end a touch it has heard of: by itself it
does so after one sleep, unless it waits or is about to wait.
-/

namespace Samurai

/-- The watchdog has not taken `run_mutex_lock`, or has given it back. -/
def WatchdogPc.unlocked : WatchdogPc → Bool
  | .start | .waiting | .notified => true
  | _ => false

namespace UdfpsWatchdog

variable {s t : UdfpsWatchdog} {a : WatchdogAction} {c : ℕ}

/-! ## Calls complete -/

def OwnStep : WatchdogAction → Prop
  | .caller _ | .watchdog => True
  | _ => False

/-- Statements of the threads inside a call of `touchDown` or `touchUp`. -/
abbrev Completes (n : ℕ) (Q : UdfpsWatchdog → Prop) (s : UdfpsWatchdog) :
    Prop :=
  machine.Reaches OwnStep (fun _ => 1) n Q s

theorem Completes.caller {n : ℕ} {Q : UdfpsWatchdog → Prop}
    (hstep : s.callerStep c = some t) (ht : Completes n Q t) :
    Completes (1 + n) Q s :=
  Machine.Reaches.step (M := machine) (a := .caller c) hstep trivial ht

theorem Completes.watchdog {n : ℕ} {Q : UdfpsWatchdog → Prop}
    (hstep : s.watchdogStep = some t) (ht : Completes n Q t) :
    Completes (1 + n) Q s :=
  Machine.Reaches.step (M := machine) (a := .watchdog) hstep trivial ht

/-- Caller `c` has returned and left the flag so. -/
structure Returned (others : ℕ → TouchPc) (c : ℕ) (flag : Bool)
    (t : UdfpsWatchdog) : Prop where
  free : t.fpdown_mutex_lock = none
  idle : t.caller c = .idle
  flag : t.currentIsDownState = flag
  others : ∀ d, d ≠ c → t.caller d = others d

variable {others : ℕ → TouchPc} {down : Bool}

theorem completes_unlock (hc : s.caller c = .unlock down)
    (hothers : ∀ d, d ≠ c → s.caller d = others d) :
    Completes 1 (Returned others c s.currentIsDownState) s := by
  apply Completes.caller (t := s.unlockFpdown.goto c .idle) (n := 0)
  · rw [callerStep, hc]
  · apply Machine.Reaches.now
    refine ⟨rfl, goto_caller_self, rfl, ?_⟩
    intro d hd
    rw [goto_caller_of_ne hd]
    exact hothers d hd

theorem completes_notify (hc : s.caller c = .notify down)
    (hothers : ∀ d, d ≠ c → s.caller d = others d) :
    Completes 2 (Returned others c s.currentIsDownState) s := by
  apply Completes.caller (t := s.notifyAll.goto c (.unlock down)) (n := 1)
  · rw [callerStep, hc]
  · apply completes_unlock goto_caller_self
    intro d hd
    rw [goto_caller_of_ne hd]
    exact hothers d hd

theorem completes_write (hc : s.caller c = .write down)
    (hothers : ∀ d, d ≠ c → s.caller d = others d) :
    Completes 3 (Returned others c down) s := by
  apply Completes.caller (n := 2)
    (t := { s with currentIsDownState := down }.goto c (.notify down))
  · rw [callerStep, hc]
  · apply completes_notify goto_caller_self
    intro d hd
    rw [goto_caller_of_ne hd]
    exact hothers d hd

theorem completes_lock (hc : s.caller c = .lock down)
    (hfree : s.fpdown_mutex_lock = none)
    (hothers : ∀ d, d ≠ c → s.caller d = others d) :
    Completes 4 (Returned others c down) s := by
  apply Completes.caller (n := 3)
    (t := { s with fpdown_mutex_lock := some (.caller c) }.goto c
      (.write down))
  · rw [callerStep, hc]
    simp [lockFpdown, hfree]
  · apply completes_write goto_caller_self
    intro d hd
    rw [goto_caller_of_ne hd]
    exact hothers d hd

/-- A caller inside the lock leaves it with three statements at most, and the
flag as it asked. -/
theorem caller_leaves (hs : s.Written) (hin : (s.caller c).inside = true)
    (hasked : (s.caller c).asked = some down) :
    Completes 3 (Returned s.caller c down) s := by
  cases hc : s.caller c with
  | write down' =>
      rw [hc] at hasked
      cases hasked
      exact completes_write hc fun _ _ => rfl
  | notify down' =>
      rw [hc] at hasked
      cases hasked
      rw [← hs c down (.inl hc)]
      exact (completes_notify hc fun _ _ => rfl).mono (by omega)
  | unlock down' =>
      rw [hc] at hasked
      cases hasked
      rw [← hs c down (.inr hc)]
      exact (completes_unlock hc fun _ _ => rfl).mono (by omega)
  | idle | lock _ =>
      rw [hc] at hin
      contradiction

theorem exists_asked {pc : TouchPc} (hin : pc.inside = true) :
    ∃ down, pc.asked = some down := by
  cases pc with
  | write down | notify down | unlock down => exact ⟨down, rfl⟩
  | idle | lock _ => contradiction

/-- The lock is free and no caller has moved. -/
structure Left (callers : ℕ → TouchPc) (t : UdfpsWatchdog) : Prop where
  free : t.fpdown_mutex_lock = none
  callers : t.caller = callers

theorem completes_forceUnlock (hw : s.watchdog = .forceUnlock) :
    Completes 1 (Left s.caller) s := by
  apply Completes.watchdog (n := 0)
    (t := { s.unlockFpdown with watchdog := .test })
  · rw [watchdogStep, hw]
  · exact Machine.Reaches.now ⟨rfl, rfl⟩

theorem completes_forceNotify (hw : s.watchdog = .forceNotify) :
    Completes 2 (Left s.caller) s := by
  apply Completes.watchdog (n := 1)
    (t := { s.notifyAll with watchdog := .forceUnlock })
  · rw [watchdogStep, hw]
  · exact completes_forceUnlock rfl

theorem completes_forceWrite (hw : s.watchdog = .forceWrite) :
    Completes 3 (Left s.caller) s := by
  apply Completes.watchdog (n := 2)
    (t := { s with currentIsDownState := false, watchdog := .forceNotify })
  · rw [watchdogStep, hw]
  · exact completes_forceNotify rfl

theorem watchdog_leaves (hin : s.watchdog.inside = true) :
    Completes 3 (Left s.caller) s := by
  cases hw : s.watchdog with
  | forceWrite => exact completes_forceWrite hw
  | forceNotify => exact (completes_forceNotify hw).mono (by omega)
  | forceUnlock => exact (completes_forceUnlock hw).mono (by omega)
  | _ =>
      rw [hw] at hin
      contradiction

/-- The lock becomes free while `c` is waiting for it. -/
theorem lock_freed (hs : s.Disciplined) (hwritten : s.Written)
    (hc : s.caller c = .lock down) :
    Completes 3 (fun t => t.fpdown_mutex_lock = none ∧ t.caller c = .lock down)
      s := by
  cases howner : s.fpdown_mutex_lock with
  | none => exact Machine.Reaches.now ⟨howner, hc⟩
  | some u =>
      have hin : s.inside u := (hs u).mpr howner
      cases u with
      | watchdog =>
          apply (watchdog_leaves hin).trans (n := 0)
          intro t ht
          apply Machine.Reaches.now
          exact ⟨ht.free, ht.callers ▸ hc⟩
      | caller d =>
          have hne : c ≠ d := by
            intro hsame
            rw [inside, ← hsame, hc] at hin
            contradiction
          obtain ⟨flag, hasked⟩ := exists_asked hin
          apply (caller_leaves hwritten hin hasked).trans (n := 0)
          intro t ht
          apply Machine.Reaches.now
          exact ⟨ht.free, (ht.others c hne).trans hc⟩

/-- Every call, wherever it is, can return after seven statements of the threads
inside calls, its own among them, and leave the flag as it asked; no sleep has
to end for it. -/
theorem calls_complete (hs : machine.Reachable s) (c : ℕ) :
    Completes 7 (fun t => t.caller c = .idle ∧
      ∀ down, (s.caller c).asked = some down → t.currentIsDownState = down)
      s := by
  have hwritten := reachable_written hs
  cases hin : (s.caller c).inside with
  | true =>
      obtain ⟨down, hasked⟩ := exists_asked hin
      apply (caller_leaves hwritten hin hasked).trans (n := 4)
      intro t ht
      apply Machine.Reaches.now
      refine ⟨ht.idle, ?_⟩
      intro down' hdown
      rw [hasked] at hdown
      cases hdown
      exact ht.flag
  | false =>
      cases hc : s.caller c with
      | idle => exact Machine.Reaches.now ⟨hc, by simp [TouchPc.asked]⟩
      | lock down =>
          have hfreed := lock_freed (reachable_disciplined hs) hwritten hc
          apply hfreed.trans (n := 4)
          intro t ht
          have hcall : Completes 4 (Returned t.caller c down) t :=
            completes_lock ht.2 ht.1 fun _ _ => rfl
          apply hcall.trans (n := 0)
          intro u hu
          apply Machine.Reaches.now
          refine ⟨hu.idle, ?_⟩
          intro down' hdown
          cases hdown
          exact hu.flag
      | write down | notify down | unlock down =>
          rw [hc] at hin
          contradiction

/-- Two callers, one inside the lock. -/
def contendedRun : List WatchdogAction :=
  [.call 0 false, .call 1 true, .caller 0]

theorem calls_complete_contended :
    ∃ s, machine.run initial contendedRun = some s ∧
      s.fpdown_mutex_lock = some (.caller 0) ∧
      Completes 7 (fun t => t.caller 1 = .idle ∧
        ∀ down, (s.caller 1).asked = some down →
          t.currentIsDownState = down) s := by
  obtain ⟨s, hrun, howner⟩ : ∃ s, machine.run initial contendedRun = some s ∧
      s.fpdown_mutex_lock = some (.caller 0) := ⟨_, rfl, rfl⟩
  have hs := Machine.reachable_of_run (M := machine) rfl hrun
  exact ⟨s, hrun, howner, calls_complete hs 1⟩

/-! ## A heard touch is ended -/

def RunUnlocked (s : UdfpsWatchdog) : Prop :=
  s.watchdog.unlocked = true → s.run_mutex_lock = none

theorem RunUnlocked.step (hs : s.RunUnlocked) (hstep : WatchdogStep s a t) :
    t.RunUnlocked := by
  cases hstep
  case notify c down hc =>
      intro hpc
      apply hs
      by_cases hwaiting : s.watchdog = .waiting
      · rw [hwaiting]
        rfl
      · simpa [UdfpsWatchdog.goto, notifyAll, hwaiting] using hpc
  case block => exact fun _ => rfl
  case spuriousWake hw => exact fun _ => hs (by rw [hw]; rfl)
  case call | lock | write | unlock => exact hs
  all_goals
    intro hpc
    contradiction

theorem reachable_runUnlocked {P : UdfpsWatchdog → WatchdogAction → Prop}
    (hs : machine.ReachableUnder P s) : s.RunUnlocked := by
  apply Machine.ReachableUnder.invariant _ _ hs
  · intro s hinit _
    rw [hinit]
    rfl
  · intro s a t _ hinv _ hstep
    exact hinv.step (step_cases hstep)

/-- Statements of the watchdog and the ends of its sleeps. -/
def Alone : WatchdogAction → Prop
  | .watchdog | .sleepEnds => True
  | _ => False

def sleeps : WatchdogAction → ℕ
  | .sleepEnds => 1
  | _ => 0

/-- The watchdog by itself clears the flag within `n` sleeps. -/
abbrev Ends (n : ℕ) (s : UdfpsWatchdog) : Prop :=
  machine.Reaches Alone sleeps n (fun t => t.currentIsDownState = false) s

theorem Ends.watchdog {n : ℕ} (hstep : s.watchdogStep = some t)
    (ht : Ends n t) : Ends n s := by
  have hs := Machine.Reaches.step (M := machine) (a := .watchdog) hstep trivial ht
  simpa [sleeps] using hs

theorem ends_forceWrite (hw : s.watchdog = .forceWrite) : Ends 0 s := by
  apply Ends.watchdog
    (t := { s with currentIsDownState := false, watchdog := .forceNotify })
  · rw [watchdogStep, hw]
  · exact Machine.Reaches.now rfl

theorem ends_forceLock (hw : s.watchdog = .forceLock)
    (hfree : s.fpdown_mutex_lock = none) : Ends 0 s := by
  apply Ends.watchdog
    (t := { s with
      fpdown_mutex_lock := some .watchdog
      watchdog := .forceWrite })
  · rw [watchdogStep, hw]
    simp [lockFpdown, hfree]
  · exact ends_forceWrite rfl

theorem ends_retest (hw : s.watchdog = .retest)
    (hdown : s.currentIsDownState = true) (hfree : s.fpdown_mutex_lock = none) :
    Ends 0 s := by
  apply Ends.watchdog (t := { s with watchdog := .forceLock })
  · rw [watchdogStep, hw]
    simp [hdown]
  · exact ends_forceLock rfl hfree

theorem ends_sleeping (hw : s.watchdog = .sleeping)
    (hdown : s.currentIsDownState = true) (hfree : s.fpdown_mutex_lock = none) :
    Ends 1 s := by
  apply Machine.Reaches.step (M := machine) (a := .sleepEnds) (n := 0)
    (t := { s with watchdog := .retest })
  · simp [machine, UdfpsWatchdog.step, hw]
  · trivial
  · exact ends_retest rfl hdown hfree

theorem ends_sleep (hw : s.watchdog = .sleep)
    (hdown : s.currentIsDownState = true) (hfree : s.fpdown_mutex_lock = none) :
    Ends 1 s := by
  apply Ends.watchdog (t := { s with watchdog := .sleeping })
  · rw [watchdogStep, hw]
  · exact ends_sleeping rfl hdown hfree

theorem ends_test (hw : s.watchdog = .test)
    (hdown : s.currentIsDownState = true) (hfree : s.fpdown_mutex_lock = none) :
    Ends 1 s := by
  apply Ends.watchdog (t := { s with watchdog := .sleep })
  · rw [watchdogStep, hw]
    simp [hdown]
  · exact ends_sleep rfl hdown hfree

theorem ends_predicate (hw : s.watchdog = .predicate)
    (hdown : s.currentIsDownState = true) (hfree : s.fpdown_mutex_lock = none) :
    Ends 1 s := by
  apply Ends.watchdog (t := { s with watchdog := .test })
  · rw [watchdogStep, hw]
    simp [hdown]
  · exact ends_test rfl hdown hfree

theorem ends_notified (hw : s.watchdog = .notified)
    (hrun : s.run_mutex_lock = none) (hdown : s.currentIsDownState = true)
    (hfree : s.fpdown_mutex_lock = none) : Ends 1 s := by
  apply Ends.watchdog
    (t := { s with run_mutex_lock := some .watchdog, watchdog := .predicate })
  · rw [watchdogStep, hw]
    simp [lockRun, hrun]
  · exact ends_predicate rfl hdown hfree

theorem ends_start (hw : s.watchdog = .start)
    (hrun : s.run_mutex_lock = none) (hdown : s.currentIsDownState = true)
    (hfree : s.fpdown_mutex_lock = none) : Ends 1 s := by
  apply Ends.watchdog
    (t := { s with run_mutex_lock := some .watchdog, watchdog := .test })
  · rw [watchdogStep, hw]
    simp [lockRun, hrun]
  · exact ends_test rfl hdown hfree

theorem ends_forceUnlock (hw : s.watchdog = .forceUnlock)
    (hdown : s.currentIsDownState = true) : Ends 1 s := by
  apply Ends.watchdog (t := { s.unlockFpdown with watchdog := .test })
  · rw [watchdogStep, hw]
  · exact ends_test rfl hdown rfl

theorem ends_forceNotify (hw : s.watchdog = .forceNotify)
    (hdown : s.currentIsDownState = true) : Ends 1 s := by
  apply Ends.watchdog (t := { s.notifyAll with watchdog := .forceUnlock })
  · rw [watchdogStep, hw]
  · exact ends_forceUnlock rfl hdown

theorem free_of_idle (hs : s.Disciplined) (hidle : ∀ c, s.caller c = .idle)
    (hout : s.watchdog.inside = false) : s.fpdown_mutex_lock = none := by
  cases howner : s.fpdown_mutex_lock with
  | none => rfl
  | some u =>
      have hin : s.inside u := (hs u).mpr howner
      cases u with
      | watchdog =>
          rw [inside, hout] at hin
          contradiction
      | caller c =>
          rw [inside, hidle c] at hin
          contradiction

/-- Not waiting and not about to wait. -/
theorem ends_of_awake {P : UdfpsWatchdog → WatchdogAction → Prop}
    (hs : machine.ReachableUnder P s) (hidle : ∀ c, s.caller c = .idle)
    (hdown : s.currentIsDownState = true) (hawake : ¬ s.Committed) :
    Ends 1 s := by
  have hrun := reachable_runUnlocked hs
  have hfree := free_of_idle (reachable_disciplined hs) hidle
  cases hw : s.watchdog with
  | start =>
      exact ends_start hw (hrun (by rw [hw]; rfl)) hdown
        (hfree (by rw [hw]; rfl))
  | test => exact ends_test hw hdown (hfree (by rw [hw]; rfl))
  | predicate => exact ends_predicate hw hdown (hfree (by rw [hw]; rfl))
  | block => exact absurd (.inl hw) hawake
  | waiting => exact absurd (.inr hw) hawake
  | notified =>
      exact ends_notified hw (hrun (by rw [hw]; rfl)) hdown
        (hfree (by rw [hw]; rfl))
  | sleep => exact ends_sleep hw hdown (hfree (by rw [hw]; rfl))
  | sleeping => exact ends_sleeping hw hdown (hfree (by rw [hw]; rfl))
  | retest =>
      exact (ends_retest hw hdown (hfree (by rw [hw]; rfl))).mono (by omega)
  | forceLock =>
      exact (ends_forceLock hw (hfree (by rw [hw]; rfl))).mono (by omega)
  | forceWrite => exact (ends_forceWrite hw).mono (by omega)
  | forceNotify => exact ends_forceNotify hw hdown
  | forceUnlock => exact ends_forceUnlock hw hdown

/-- Nobody wakes the watchdog: it stays where it is and the flag set. -/
def Stranded (s : UdfpsWatchdog) : Prop :=
  s.Committed ∧ s.currentIsDownState = true

theorem Stranded.step (hs : s.Stranded) (hok : Alone a)
    (hstep : WatchdogStep s a t) : t.Stranded := by
  obtain ⟨hcommitted, hdown⟩ := hs
  cases hstep
  case block => exact ⟨.inr rfl, hdown⟩
  case call | lock | write | notify | unlock | spuriousWake => contradiction
  all_goals
    rcases hcommitted with hblock | hwaiting
    · simp_all
    · simp_all

/-- When no call is going on during a touch, the watchdog ends the touch by
itself, with the end of one sleep at most, exactly if it is not waiting nor
about to; and if every `touchDown` was heard it is not. -/
theorem touch_ends (hs : machine.Reachable s)
    (hidle : ∀ c, s.caller c = .idle) (hdown : s.currentIsDownState = true) :
    (Ends 1 s ↔ ¬ s.Committed) ∧
      (machine.ReachableUnder Heard s → Ends 1 s) := by
  constructor
  · constructor
    · rintro ⟨as, t, hall, _, hrun, hclear⟩ hcommitted
      have halong : machine.Along (fun _ a => Alone a) s as :=
        Machine.along_of_forall hall
      have hstranded : t.Stranded := by
        apply halong.invariant _ ⟨hcommitted, hdown⟩ hrun
        intro s a t hs hok hstep
        exact hs.step hok (step_cases hstep)
      rw [hstranded.2] at hclear
      contradiction
    · exact ends_of_awake hs hidle hdown
  · intro hheard
    apply ends_of_awake hs hidle hdown
    intro hcommitted
    rcases reachable_pressCovered hheard hcommitted with hclear | hnone | hsome
    · exact hclear hdown
    · exact hnone
    · obtain ⟨c, hc⟩ := hsome
      rw [hidle c] at hc
      contradiction

/-- A whole `touchDown`, before the watchdog has begun. -/
def earlyTouchRun : List WatchdogAction :=
  [.call 0 true, .caller 0, .caller 0, .caller 0, .caller 0]

theorem touch_ends_early :
    ∃ s, machine.run initial earlyTouchRun = some s ∧
      s.currentIsDownState = true ∧ Ends 1 s := by
  obtain ⟨s, hrun, hdown, hstart, hidle⟩ : ∃ s,
      machine.run initial earlyTouchRun = some s ∧
        s.currentIsDownState = true ∧ s.watchdog = .start ∧
        ∀ c, s.caller c = .idle := by
    refine ⟨_, rfl, rfl, rfl, ?_⟩
    intro c
    simp [goto, notifyAll, unlockFpdown, initial]
  have hs := Machine.reachable_of_run (M := machine) rfl hrun
  have hawake : ¬ s.Committed := by simp [Committed, hstart]
  exact ⟨s, hrun, hdown, (touch_ends hs hidle hdown).1.mpr hawake⟩

end UdfpsWatchdog

end Samurai
