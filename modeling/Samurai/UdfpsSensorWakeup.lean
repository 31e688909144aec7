import Samurai.UdfpsSensorStaleEvent
import Samurai.WakeupObligations

/-!
# No lost wake-up of the sensor's worker

The worker sleeps in two places and is woken through two channels.  On its
way into `poll` it is woken by a byte in the pipe, which every change of a
flag owes until the caller's own write; in `mWaitCV.wait` it is woken by
`notify_all`, which every change owes until the caller's own call.  Bytes are
taken out of the pipe in the branch only, where the worker is awake.
-/

namespace Samurai

/-- Between a change of a flag and the `interruptPoll` write of its caller. -/
def CallerPc.owesByte : CallerPc → Bool
  | .activatePipe _ | .modeNotify _ | .modeUnlock _ true
  | .modePipe _ true => true
  | _ => false

/-- Between a change of a flag and the `notify_all` of its caller. -/
def CallerPc.owesNotify : CallerPc → Bool
  | .activatePipe _ | .activateNotify _ | .modeNotify _ => true
  | _ => false

def CallerPc.destroys : CallerPc → Bool
  | .destroyPipe | .destroyLock | .destroyStop | .destroyNotify
  | .destroyUnlock | .destroyJoin | .destroyed => true
  | _ => false

def WorkerPc.polling : WorkerPc → Bool
  | .unlock | .poll => true
  | _ => false

namespace UdfpsSensor

variable {capacity : ℕ} {s t : UdfpsSensor} {a : SensorAction}

/-- The descriptors open, `poll` does not fail and nobody destroys the
sensor. -/
def Undisturbed (_ : UdfpsSensor) : SensorAction → Prop
  | .construct pipeOk pollOk => pipeOk = true ∧ pollOk = true
  | .call _ call => call ≠ .destroy
  | .pollReturn result => result ≠ .failed
  | _ => True

def Restless (s : UdfpsSensor) : Prop :=
  ¬ (s.mIsEnabled = true ∧ s.mMode = .normal)

def CallsOpen (s : UdfpsSensor) : Prop :=
  (s.constructed = true → s.pipeOpen = true) ∧
  ∀ c, s.caller c ≠ .idle → s.constructed = true ∧
    (s.caller c).destroys = false

theorem CallsOpen.goto {c : ℕ} {pc : CallerPc} (hs : s.CallsOpen)
    (hconstructed : s.constructed = true) (hpc : pc.destroys = false) :
    (s.goto c pc).CallsOpen := by
  constructor
  · exact hs.1
  · intro d hd
    by_cases hdc : d = c
    · subst hdc
      exact ⟨hconstructed, by rw [goto_caller_self]; exact hpc⟩
    · rw [goto_caller_of_ne hdc] at hd ⊢
      exact hs.2 d hd

theorem CallsOpen.advance {c : ℕ} {pc : CallerPc} (hs : s.CallsOpen)
    (hbusy : s.caller c ≠ .idle)
    (hpc : (s.caller c).destroys = false → pc.destroys = false) :
    (s.goto c pc).CallsOpen := by
  have hc := hs.2 c hbusy
  exact hs.goto hc.1 (hpc hc.2)

theorem CallsOpen.step (hs : s.CallsOpen) (hok : Undisturbed s a)
    (hstep : SensorStep capacity s a t) : t.CallsOpen := by
  cases hstep
  case construct hfresh =>
      constructor
      · intro _
        exact hok.1
      · intro c hc
        have hconstructed := (hs.2 c hc).1
        rw [hfresh] at hconstructed
        contradiction
  case call c call hconstructed hidle =>
      cases call with
      | activate enable => exact hs.goto hconstructed rfl
      | setOperationMode mode => exact hs.goto hconstructed rfl
      | destroy => exact absurd rfl hok
  all_goals first
    | exact hs
    | exact CallsOpen.advance hs (by simp [*]) (by simp [*, CallerPc.destroys])

/-! ## Debts -/

def Owes (p : CallerPc → Bool) (s : UdfpsSensor) : Prop :=
  ∃ c, p (s.caller c) = true

theorem owes_goto_self {p : CallerPc → Bool} {c : ℕ} {pc : CallerPc}
    (hpc : p pc = true) : (s.goto c pc).Owes p :=
  ⟨c, by rw [goto_caller_self]; exact hpc⟩

theorem Owes.goto {p : CallerPc → Bool} {c : ℕ} {pc : CallerPc}
    (hs : s.Owes p) : (s.goto c pc).Owes p ∨ p (s.caller c) = true := by
  obtain ⟨d, hd⟩ := hs
  by_cases hdc : d = c
  · subst hdc
    exact .inr hd
  · have hd' : p ((s.goto c pc).caller d) = true := by
      rw [goto_caller_of_ne hdc]
      exact hd
    exact .inl ⟨d, hd'⟩

theorem Owes.advance {p : CallerPc → Bool} {c : ℕ} {pc : CallerPc}
    (hs : s.Owes p) (hpc : p (s.caller c) = true → p pc = true) :
    (s.goto c pc).Owes p := by
  have hgoto : (s.goto c pc).Owes p ∨ p (s.caller c) = true := hs.goto
  rcases hgoto with hother | hown
  · exact hother
  · exact owes_goto_self (hpc hown)

theorem owes_of_change (hstep : SensorStep capacity s a t)
    (hnodestroy : ∀ c, (s.caller c).destroys = false)
    (hpost : ∀ result, s.worker ≠ .branch result)
    (hchange : t.mIsEnabled ≠ s.mIsEnabled ∨ t.mMode ≠ s.mMode) :
    t.Owes CallerPc.owesByte ∧ t.Owes CallerPc.owesNotify := by
  cases hstep
  case activateChange c enable _ _ =>
      exact ⟨owes_goto_self rfl, owes_goto_self rfl⟩
  case modeChange c mode _ _ =>
      exact ⟨owes_goto_self rfl, owes_goto_self rfl⟩
  case destroyStop c hcaller =>
      have hc := hnodestroy c
      rw [hcaller] at hc
      contradiction
  case post hworker _ => exact absurd hworker (hpost _)
  all_goals simp [UdfpsSensor.goto, notifyAll] at hchange

/-! ## The pipe -/

def PollCovered : UdfpsSensor → Prop :=
  Covered (fun s => s.worker.polling = true) Restless (fun s => 0 < s.unread)
    (Owes CallerPc.owesByte)

theorem looks_before_poll (hstep : SensorStep capacity s a t)
    (hbefore : ¬ s.worker.polling = true) (hafter : t.worker.polling = true) :
    ¬ t.Restless := by
  cases hstep
  case watch hworker _ hidle =>
      simp only [idle, Bool.or_eq_false_iff, Bool.not_eq_false',
        decide_eq_false_iff_not] at hidle
      have hmode : s.mMode = .normal := by
        cases hmode : s.mMode with
        | normal => rfl
        | dataInjection => exact absurd hmode hidle.2
      simp [Restless, hidle.1, hmode]
  case unlock hworker =>
      simp [hworker, WorkerPc.polling] at hbefore
  case activateNotify | modeNotify | destroyNotify =>
      simp only [UdfpsSensor.goto, notifyAll] at hafter
      split_ifs at hafter
      · contradiction
      · contradiction
  all_goals contradiction

theorem unread_kept (hstep : SensorStep capacity s a t)
    (hpolling : s.worker.polling = true) : s.unread ≤ t.unread := by
  cases hstep
  case missFinger hworker _ _ | noFinger hworker _ =>
      rw [hworker] at hpolling
      contradiction
  all_goals simp [UdfpsSensor.goto, notifyAll]

theorem byte_paid (hstep : SensorStep capacity s a t) (hopen : s.CallsOpen)
    (howes : s.Owes CallerPc.owesByte) :
    t.Owes CallerPc.owesByte ∨ 0 < t.unread := by
  cases hstep
  case activatePipe c enable hcaller _ =>
      have hbusy : s.caller c ≠ .idle := by simp [hcaller]
      have hpipe := hopen.1 (hopen.2 c hbusy).1
      exact .inr (by simp [UdfpsSensor.goto, hpipe])
  case modePipe c mode changed hcaller _ =>
      have hbusy : s.caller c ≠ .idle := by simp [hcaller]
      have hpipe := hopen.1 (hopen.2 c hbusy).1
      exact .inr (by simp [UdfpsSensor.goto, hpipe])
  case modeUnlock c mode changed hcaller =>
      apply Or.inl
      apply Owes.advance howes
      intro hown
      simp only [hcaller] at hown
      cases changed with
      | false => contradiction
      | true => rfl
  all_goals first
    | exact .inl howes
    | exact .inl (Owes.advance howes (by simp [*, CallerPc.owesByte]))

theorem not_restless : ¬ s.Restless ↔ s.mIsEnabled = true ∧ s.mMode = .normal :=
  not_not

theorem change_of_restless
    (hbefore : ¬ (s.Restless ↔ t.Restless)) :
    t.mIsEnabled ≠ s.mIsEnabled ∨ t.mMode ≠ s.mMode := by
  by_contra hsame
  push Not at hsame
  apply hbefore
  rw [Restless, Restless, hsame.1, hsame.2]

theorem CallsOpen.not_destroys (hs : s.CallsOpen) (c : ℕ) :
    (s.caller c).destroys = false := by
  by_cases hidle : s.caller c = .idle
  · rw [hidle]
    rfl
  · exact (hs.2 c hidle).2

theorem PollCovered.step (hs : s.PollCovered) (hopen : s.CallsOpen)
    (hstep : SensorStep capacity s a t) : t.PollCovered := by
  apply Covered.step hs
  · exact looks_before_poll hstep
  · intro hpolling hquiet hrestless
    have hpost : ∀ result, s.worker ≠ .branch result := by
      intro result hworker
      rw [hworker] at hpolling
      contradiction
    have hchange := change_of_restless (s := s) (t := t)
      (fun hiff => hquiet (hiff.mpr hrestless))
    have howes := owes_of_change hstep hopen.not_destroys hpost hchange
    exact howes.1
  · intro hbefore _ hbyte
    exact lt_of_lt_of_le hbyte (unread_kept hstep hbefore)
  · intro howes _
    exact byte_paid hstep hopen howes

/-! ## The condition variable -/

def WaitCovered : UdfpsSensor → Prop :=
  Covered (fun s => s.worker = .waiting) (fun s => ¬ s.Restless)
    (fun _ => False) (Owes CallerPc.owesNotify)

theorem looks_before_wait (hstep : SensorStep capacity s a t)
    (hbefore : ¬ s.worker = .waiting) (hafter : t.worker = .waiting) :
    t.Restless := by
  cases hstep
  case block hworker hpredicate =>
      intro hflags
      have henabled : s.mIsEnabled = true := hflags.1
      have hmode : s.mMode = .normal := hflags.2
      simp [waitPredicate, henabled, hmode] at hpredicate
  case activateNotify | modeNotify | destroyNotify =>
      simp only [UdfpsSensor.goto, notifyAll] at hafter
      split_ifs at hafter
      exact absurd hafter hbefore
  all_goals first
    | exact absurd hafter hbefore
    | contradiction

/-- A caller that owes a `notify_all` still owes it unless it has woken the
worker. -/
theorem notify_paid (hstep : SensorStep capacity s a t)
    (howes : s.Owes CallerPc.owesNotify) (hwaiting : t.worker = .waiting) :
    t.Owes CallerPc.owesNotify := by
  cases hstep
  case activateNotify | modeNotify | destroyNotify =>
      simp only [UdfpsSensor.goto, notifyAll] at hwaiting
      split_ifs at hwaiting with hbefore
      exact absurd hwaiting hbefore
  all_goals first
    | exact howes
    | exact Owes.advance howes (by simp [*, CallerPc.owesNotify])

theorem WaitCovered.step (hs : s.WaitCovered) (hopen : s.CallsOpen)
    (hstep : SensorStep capacity s a t) : t.WaitCovered := by
  apply Covered.step hs
  · intro hbefore hafter hready
    exact hready (looks_before_wait hstep hbefore hafter)
  · intro hwaiting hidle hready
    have hpost : ∀ result, s.worker ≠ .branch result := by
      intro result hworker
      rw [hwaiting] at hworker
      contradiction
    have hchange := change_of_restless (s := s) (t := t)
      (fun hiff => hready (hiff.mp (not_not.mp hidle)))
    have howes := owes_of_change hstep hopen.not_destroys hpost hchange
    exact howes.2
  · intro _ _ hsignal
    exact hsignal
  · intro howes hwaiting
    exact .inl (notify_paid hstep howes hwaiting)

/-! ## Whole runs -/

structure WakeInvariant (s : UdfpsSensor) : Prop where
  calls : s.CallsOpen
  poll : s.PollCovered
  wait : s.WaitCovered

theorem WakeInvariant.step (hs : s.WakeInvariant) (hok : Undisturbed s a)
    (hstep : SensorStep capacity s a t) : t.WakeInvariant where
  calls := hs.calls.step hok hstep
  poll := hs.poll.step hs.calls hstep
  wait := hs.wait.step hs.calls hstep

theorem initial_wakeInvariant {handle x y : ℤ} {fp : FpState} :
    (initial handle fp x y).WakeInvariant where
  calls := by
    constructor
    · intro h
      contradiction
    · intro c hc
      exact absurd rfl hc
  poll := by
    intro hpolling
    contradiction
  wait := by
    intro hwaiting
    contradiction

theorem reachable_wakeInvariant
    (hs : (machine capacity).ReachableUnder Undisturbed s) :
    s.WakeInvariant := by
  apply Machine.ReachableUnder.invariant _ _ hs
  · intro s hs
    rcases hs with ⟨handle, fp, x, y, rfl⟩
    exact initial_wakeInvariant
  · intro s a t _ hinv hok hstep
    exact hinv.step hok (step_cases hstep)

/-- In every reachable state, a worker blocked in `poll` before an empty pipe
with no caller on its way to its write, and a worker blocked in
`mWaitCV.wait` with no caller on its way to its `notify_all`, both have
nothing to do. -/
theorem no_lost_wakeup (capacity : ℕ) :
    (∀ s, (machine capacity).ReachableUnder Undisturbed s →
      s.worker = .poll → s.unread = 0 →
      (∀ c, (s.caller c).owesByte = false) →
        s.mIsEnabled = true ∧ s.mMode = .normal) ∧
    (∀ s, (machine capacity).ReachableUnder Undisturbed s →
      s.worker = .waiting → (∀ c, (s.caller c).owesNotify = false) →
        ¬ (s.mIsEnabled = true ∧ s.mMode = .normal)) := by
  constructor
  · intro s hs hpoll hempty hpaid
    have hpolling : s.worker.polling = true := by
      rw [hpoll]
      rfl
    have hcovered := (reachable_wakeInvariant hs).poll hpolling
    rcases hcovered with hquiet | hbyte | ⟨c, hc⟩
    · exact not_restless.mp hquiet
    · omega
    · rw [hpaid c] at hc
      contradiction
  · intro s hs hwaiting hpaid
    have hcovered := (reachable_wakeInvariant hs).wait hwaiting
    rcases hcovered with hrestless | hsignal | ⟨c, hc⟩
    · exact not_not.mp hrestless
    · contradiction
    · rw [hpaid c] at hc
      contradiction

/-! ## Before the call of `notify_all` -/

def wakeRun : List SensorAction :=
  [.construct true true, .worker, .worker, .worker, .call 0 (.activate true),
    .caller 0, .caller 0]

theorem waiting_before_notify :
    ¬ ∀ s, (machine 65536).ReachableUnder Undisturbed s →
      s.worker = .waiting → ¬ (s.mIsEnabled = true ∧ s.mMode = .normal) := by
  intro hclaim
  obtain ⟨s, hrun, hcheck, hwaiting, henabled, hmode⟩ :
      ∃ s, (machine 65536).run startState wakeRun = some s ∧
        (machine 65536).checkAlong
          (fun _ a => match a with
            | .construct pipeOk pollOk => pipeOk && pollOk
            | .call _ call => call ≠ .destroy
            | .pollReturn result => result ≠ .failed
            | _ => true) startState wakeRun = true ∧
        s.worker = .waiting ∧ s.mIsEnabled = true ∧ s.mMode = .normal :=
    ⟨_, rfl, rfl, rfl, rfl, rfl⟩
  have halong : (machine 65536).Along Undisturbed startState wakeRun := by
    apply Machine.along_of_check _ hcheck
    intro s a ha
    cases a with
    | construct pipeOk pollOk => simpa [Undisturbed] using ha
    | call c call => simpa [Undisturbed] using ha
    | pollReturn result => simpa [Undisturbed] using ha
    | _ => trivial
  have hs := Machine.reachableUnder_of_run
    (startState_initial 65536) halong hrun
  exact hclaim s hs hwaiting ⟨henabled, hmode⟩

end UdfpsSensor

end Samurai
