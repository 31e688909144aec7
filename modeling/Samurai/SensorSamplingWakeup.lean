import Samurai.SensorSampling

/-!
# The waits of a sampling sensor

The worker waits without a limit while the sensor is inactive, and until the
time of the next sample while it is active.  The first wait is ended by every
change that makes it pointless, since such a change is made and notified under
the mutex.  The second is meant to be cut short by `batch`, which notifies
without the mutex: between the worker's last look at the period and its wait
nobody listens.
-/

namespace Samurai

/-- Between a change of a flag and the `notify_all` of its caller. -/
def SamplingCallerPc.owesNotify : SamplingCallerPc → Bool
  | .notify | .destroyNotify => true
  | _ => false

/-- The time the worker means to sleep until. -/
def SamplingPc.target : SamplingPc → Option ℤ
  | .waitFor nextSampleTime _ | .timedWaiting nextSampleTime _ =>
      some nextSampleTime
  | _ => none

namespace SamplingSensor

variable {s t : SamplingSensor} {a : SamplingAction}

/-! ## The wait while the sensor is inactive -/

def Owes (p : SamplingCallerPc → Bool) (s : SamplingSensor) : Prop :=
  ∃ c, p (s.caller c) = true

theorem owes_goto_self {p : SamplingCallerPc → Bool} {c : ℕ}
    {pc : SamplingCallerPc} (hpc : p pc = true) : (s.goto c pc).Owes p :=
  ⟨c, by rw [goto_caller_self]; exact hpc⟩

theorem Owes.advance {p : SamplingCallerPc → Bool} {c : ℕ}
    {pc : SamplingCallerPc} (hs : s.Owes p)
    (hpc : p (s.caller c) = true → p pc = true) : (s.goto c pc).Owes p := by
  obtain ⟨d, hd⟩ := hs
  by_cases hdc : d = c
  · subst hdc
    exact owes_goto_self (hpc hd)
  · exact ⟨d, by rw [goto_caller_of_ne hdc]; exact hd⟩

def WaitCovered : SamplingSensor → Prop :=
  Covered (fun s => s.worker = .waiting) (fun s => s.waitPredicate = true)
    (fun _ => False) (Owes SamplingCallerPc.owesNotify)

theorem notifyAll_not_waiting : s.notifyAll.worker ≠ .waiting := by
  unfold notifyAll
  cases hworker : s.worker <;> simp [atRun, hworker]

theorem looks_before_wait (hstep : SamplingStep s a t)
    (hbefore : ¬ s.worker = .waiting) (hafter : t.worker = .waiting) :
    ¬ t.waitPredicate = true := by
  cases hstep
  case block hw hpredicate =>
      intro hready
      have hsame : s.waitPredicate = true := hready
      rw [hpredicate] at hsame
      contradiction
  case notify | batchNotify | destroyNotify =>
      exact absurd hafter notifyAll_not_waiting
  all_goals first
    | exact absurd hafter hbefore
    | contradiction

theorem owes_of_ready (hstep : SamplingStep s a t)
    (hbefore : ¬ s.waitPredicate = true) (hafter : t.waitPredicate = true) :
    t.Owes SamplingCallerPc.owesNotify := by
  cases hstep
  case activateChange | modeChange | destroyStop => exact owes_goto_self rfl
  case notify | batchNotify | destroyNotify =>
      have hsame : s.waitPredicate = true := by
        simpa [waitPredicate, goto] using hafter
      exact absurd hsame hbefore
  all_goals exact absurd hafter hbefore

theorem notify_paid (hstep : SamplingStep s a t)
    (howes : s.Owes SamplingCallerPc.owesNotify)
    (hwaiting : t.worker = .waiting) :
    t.Owes SamplingCallerPc.owesNotify := by
  cases hstep
  case notify | batchNotify | destroyNotify =>
      exact absurd hwaiting notifyAll_not_waiting
  all_goals first
    | exact howes
    | exact Owes.advance howes
        (by simp [*, postEvents, SamplingCallerPc.owesNotify])

theorem WaitCovered.step (hs : s.WaitCovered) (hstep : SamplingStep s a t) :
    t.WaitCovered := by
  apply Covered.step hs
  · intro hbefore hafter
    exact looks_before_wait hstep hbefore hafter
  · intro _ hidle hready
    exact owes_of_ready hstep hidle hready
  · intro _ _ hsignal
    exact hsignal
  · intro howes hwaiting
    exact .inl (notify_paid hstep howes hwaiting)

theorem reachable_waitCovered (hs : machine.Reachable s) : s.WaitCovered := by
  apply Machine.ReachableUnder.invariant (I := WaitCovered) _ _ hs
  · rintro s ⟨info, rfl⟩ hwaiting
    contradiction
  · intro s a t _ hinv _ hstep
    exact hinv.step (step_cases hstep)

/-! ## The wait for the next sample -/

/-- Whoever has changed the period has yet to notify, or the worker means to
sleep until one period has passed since the last sample. -/
def Punctual (s : SamplingSensor) : Prop :=
  ∀ n ∈ s.worker.target,
    n = s.mLastSampleTimeNs + s.mSamplingPeriodNs ∨
      ∃ c, s.caller c = .batchNotify

/-- The notification of a new period that nobody hears: the worker has
computed the time of the next sample and does not wait yet, and no other
notification is on its way. -/
def Unheard (s : SamplingSensor) : SamplingAction → Prop
  | .caller c =>
      s.caller c = .batchNotify ∧ (∀ d, d ≠ c → s.caller d ≠ .batchNotify) ∧
        ∃ n now, s.worker = .waitFor n now ∧
          n ≠ s.mLastSampleTimeNs + s.mSamplingPeriodNs
  | _ => False

theorem notifyAll_target :
    ∀ n ∈ s.notifyAll.worker.target, ∃ now, s.worker = .waitFor n now := by
  unfold notifyAll
  cases hworker : s.worker <;> simp [atRun, hworker, SamplingPc.target]

/-- A time computed from the period in force stays right until the period is
written, and whoever writes it has yet to notify. -/
theorem punctual_of_target_eq
    (htarget : t.worker.target = some
      (t.mLastSampleTimeNs + t.mSamplingPeriodNs)) : t.Punctual := by
  intro n hn
  have heq : t.mLastSampleTimeNs + t.mSamplingPeriodNs = n := by
    simpa [htarget] using hn
  exact .inl heq.symm

theorem Punctual.advance {c : ℕ} {pc : SamplingCallerPc}
    (hs : s.Punctual) (hc : s.caller c ≠ .batchNotify) :
    (s.goto c pc).Punctual := by
  intro n hn
  rcases hs n hn with hright | ⟨d, hd⟩
  · exact .inl hright
  · have hdc : d ≠ c := by
      rintro rfl
      exact hc hd
    exact .inr ⟨d, by rw [goto_caller_of_ne hdc]; exact hd⟩

theorem punctual_iff_of_batchNotify {c : ℕ}
    (hc : s.caller c = .batchNotify) :
    (s.notifyAll.goto c .idle).Punctual ↔ ¬ s.Unheard (.caller c) := by
  constructor
  · rintro hpunctual ⟨_, hothers, n, now, hw, hwrong⟩
    have hsame : s.notifyAll = s := by simp [notifyAll, hw]
    rw [hsame] at hpunctual
    rcases hpunctual n (by simp [goto, hw, SamplingPc.target]) with
      hright | ⟨d, hd⟩
    · exact hwrong hright
    · by_cases hdc : d = c
      · subst hdc
        simp at hd
      · rw [goto_caller_of_ne hdc] at hd
        exact hothers d hdc hd
  · intro hheard n hn
    rcases notifyAll_target n hn with ⟨now, hw⟩
    by_cases hright : n = s.mLastSampleTimeNs + s.mSamplingPeriodNs
    · exact .inl (by simpa [goto] using hright)
    · by_cases hothers : ∃ d, d ≠ c ∧ s.caller d = .batchNotify
      · obtain ⟨d, hdc, hd⟩ := hothers
        refine .inr ⟨d, ?_⟩
        rw [goto_caller_of_ne hdc, notifyAll_caller]
        exact hd
      · push Not at hothers
        exact absurd ⟨hc, hothers, n, now, hw, hright⟩ hheard

/-- A step keeps the worker punctual unless it is a notification nobody
hears. -/
theorem punctual_iff (hs : s.Punctual) (hstep : SamplingStep s a t) :
    t.Punctual ↔ ¬ s.Unheard a := by
  cases hstep
  case batchNotify c hc => exact punctual_iff_of_batchNotify hc
  case notify c hc | destroyNotify c hc =>
      constructor
      · rintro _ ⟨hnotify, _⟩
        simp [hc] at hnotify
      · intro _
        apply Punctual.advance
        · intro n hn
          rcases notifyAll_target n hn with ⟨now, hw⟩
          have hsame := hs n (by simp [hw, SamplingPc.target])
          simpa using hsame
        · simp [hc]
  case batchWrite c p hc =>
      constructor
      · rintro _ ⟨hnotify, _⟩
        simp [hc] at hnotify
      · intro _ n _
        exact .inr ⟨c, goto_caller_self⟩
  case notDue hw _ | post hw =>
      refine ⟨fun _ => id, fun _ => punctual_of_target_eq rfl⟩
  case doze hw =>
      refine ⟨fun _ => id, fun _ n hn => hs n ?_⟩
      simpa [hw, atRun, SamplingPc.target] using hn
  case call hidle =>
      exact ⟨fun _ => id, fun _ => Punctual.advance hs (by simp [hidle])⟩
  all_goals first
    | exact ⟨fun _ => id, fun _ n hn =>
        absurd hn (by simp [atRun, SamplingPc.target])⟩
    | exact ⟨fun _ hunheard => absurd hunheard.1 (by simp [*]),
        fun _ => Punctual.advance hs (by simp [*, postEvents])⟩

theorem initial_punctual (info : SensorInfo) : (initial info).Punctual := by
  intro n hn
  simp [initial, SamplingPc.target] at hn

theorem punctual_iff_heard {info : SensorInfo} {as : List SamplingAction}
    (hrun : machine.run (initial info) as = some t) :
    machine.Always Punctual (initial info) as ↔
      machine.Along (fun s a => ¬ s.Unheard a) (initial info) as := by
  apply Machine.always_iff_along _ _ _ (Machine.along_enabled hrun)
  · intro s a t hs _ hstep
    exact punctual_iff hs (step_cases hstep)
  · intro s a henabled
    exact henabled
  · exact initial_punctual info

/-- The sensor is enabled with a period of 200 ms; a `batch` for 20 ms runs
from its test to its end while the worker is about to wait. -/
def unheardRun : List SamplingAction :=
  [.call 0 (.batch 200000000), .caller 0, .caller 0, .caller 0,
    .call 0 (.activate true), .caller 0, .caller 0, .caller 0, .caller 0,
    .worker, .worker, .clock 1000000000, .worker, .worker,
    .call 0 (.batch 20000000), .caller 0, .caller 0, .caller 0, .worker]

/-- A worker that waits without a limit, with no notification of a changed
flag on its way, has nothing to do.  One that waits for the next sample waits
until the right time in every state of a run if and only if no notification
of `batch` goes unheard, and one can: then every caller has returned and the
worker sleeps until the time that the old period gave. -/
theorem sleeps_until_due :
    (∀ s, machine.Reachable s → s.worker = .waiting →
      (∀ c, (s.caller c).owesNotify = false) → s.waitPredicate = false) ∧
    (∀ info as t, machine.run (initial info) as = some t →
      (machine.Always Punctual (initial info) as ↔
        machine.Along (fun s a => ¬ s.Unheard a) (initial info) as)) ∧
    (∃ t, machine.run (initial timedInfo) unheardRun = some t ∧
      t.caller 0 = .idle ∧ t.worker = .timedWaiting 1200000000 1000000000 ∧
      t.mLastSampleTimeNs + t.mSamplingPeriodNs = 1020000000) := by
  refine ⟨?_, fun _ _ _ => punctual_iff_heard, ⟨_, rfl, rfl, rfl, rfl⟩⟩
  intro s hs hwaiting hpaid
  rcases reachable_waitCovered hs hwaiting with hidle | hsignal | ⟨c, hc⟩
  · simpa using hidle
  · contradiction
  · rw [hpaid c] at hc
    contradiction

end SamplingSensor

end Samurai
