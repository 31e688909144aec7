import Samurai.UdfpsSensorShutdown

/-!
# A destructor that waits forever

In every other state in which the destructor can begin there is a schedule in
which it never returns.  The worker is led to `poll`; the destructor writes its
byte; the worker takes every byte out, one by one, finds `mStopThread` not yet
set and polls again; then the destructor sets the flag, notifies nobody and
joins.
-/

namespace Samurai

namespace UdfpsSensor

variable {capacity : ℕ} {s t u : UdfpsSensor} {d : ℕ} {pc : CallerPc}

/-- Steps of the worker and of thread `d` lead from `s` to `t`. -/
def Leads (capacity d : ℕ) (s t : UdfpsSensor) : Prop :=
  ∃ as : List SensorAction, (∀ a ∈ as, Shutdown d a) ∧
    (machine capacity).run s as = some t

theorem Leads.refl : Leads capacity d s s :=
  ⟨[], by simp, rfl⟩

theorem Leads.trans (hst : Leads capacity d s t) (htu : Leads capacity d t u) :
    Leads capacity d s u := by
  rcases hst with ⟨as, has, hrun⟩
  rcases htu with ⟨bs, hbs, hrest⟩
  refine ⟨as ++ bs, ?_, Machine.run_append_eq_some.mpr ⟨t, hrun, hrest⟩⟩
  intro a ha
  rcases List.mem_append.mp ha with ha | ha
  · exact has a ha
  · exact hbs a ha

theorem Leads.head {a : SensorAction}
    (hstep : (machine capacity).step s a = some t) (hallowed : Shutdown d a)
    (htu : Leads capacity d t u) : Leads capacity d s u := by
  have hst : Leads capacity d s t :=
    ⟨[a], by simpa using hallowed, Machine.run_singleton.trans hstep⟩
  exact hst.trans htu

/-- The destructor has come to `pc`, and nothing in sight stops the worker
from polling. -/
structure Polls (d : ℕ) (pc : CallerPc) (s : UdfpsSensor) : Prop where
  caller : s.caller d = pc
  going : s.mStopThread = false
  enabled : s.mIsEnabled = true
  mode : s.mMode = .normal
  opened : s.pipeOpen = true
  untouched : ¬ s.Touched

/-- Now it is in `poll`, with `n` bytes in the pipe. -/
structure InPoll (d : ℕ) (pc : CallerPc) (n : ℕ) (notified : Bool)
    (s : UdfpsSensor) : Prop extends Polls d pc s where
  poll : s.worker = .poll
  free : s.mRunMutex = none
  unread : s.unread = n
  fpNotified : s.fpNotified = notified

theorem Polls.idle (hs : s.Polls d pc) : s.idle = false := by
  simp [UdfpsSensor.idle, hs.enabled, hs.mode]

theorem Polls.waitPredicate (hs : s.Polls d pc) : s.waitPredicate = true := by
  simp [UdfpsSensor.waitPredicate, hs.enabled, hs.mode]

theorem Polls.worker {owner : Option SensorThread} {wpc : WorkerPc}
    (hs : s.Polls d pc) :
    { s with mRunMutex := owner, worker := wpc }.Polls d pc where
  caller := hs.caller
  going := hs.going
  enabled := hs.enabled
  mode := hs.mode
  opened := hs.opened
  untouched := fun htouched => hs.untouched (htouched.congr rfl rfl)

theorem Polls.from_unlock (capacity : ℕ) (hs : s.Polls d pc)
    (hw : s.worker = .unlock) :
    ∃ t, Leads capacity d s t ∧
      t.InPoll d pc s.unread s.fpNotified := by
  have hstep : (machine capacity).step s .worker =
      some { s with mRunMutex := none, worker := .poll } := by
    simp [machine, step, workerStep, hw, UdfpsSensor.unlock]
  exact ⟨_, Leads.head hstep trivial Leads.refl,
    { toPolls := hs.worker
      poll := rfl
      free := rfl
      unread := rfl
      fpNotified := rfl }⟩

theorem Polls.from_check (capacity : ℕ) (hs : s.Polls d pc)
    (hw : s.worker = .check) :
    ∃ t, Leads capacity d s t ∧
      t.InPoll d pc s.unread s.fpNotified := by
  have hstep : (machine capacity).step s .worker =
      some { s with worker := .unlock } := by
    simp [machine, step, workerStep, hw, hs.going, hs.idle]
  have hnext : { s with worker := .unlock }.Polls d pc := hs.worker
  rcases hnext.from_unlock capacity rfl with ⟨t, hleads, ht⟩
  exact ⟨t, Leads.head hstep trivial hleads, ht⟩

theorem Polls.from_predicate (capacity : ℕ) (hs : s.Polls d pc)
    (hw : s.worker = .predicate) :
    ∃ t, Leads capacity d s t ∧
      t.InPoll d pc s.unread s.fpNotified := by
  have hstep : (machine capacity).step s .worker =
      some { s with worker := .check } := by
    simp [machine, step, workerStep, hw, hs.waitPredicate]
  have hnext : { s with worker := .check }.Polls d pc := hs.worker
  rcases hnext.from_check capacity rfl with ⟨t, hleads, ht⟩
  exact ⟨t, Leads.head hstep trivial hleads, ht⟩

theorem Polls.from_notified (capacity : ℕ) (hs : s.Polls d pc)
    (hw : s.worker = .notified)
    (hfree : s.mRunMutex = none) :
    ∃ t, Leads capacity d s t ∧
      t.InPoll d pc s.unread s.fpNotified := by
  have hstep : (machine capacity).step s .worker =
      some { s with mRunMutex := some .worker, worker := .predicate } := by
    simp [machine, step, workerStep, hw, UdfpsSensor.lock, hfree]
  have hnext : { s with
      mRunMutex := some .worker, worker := .predicate }.Polls d pc := hs.worker
  rcases hnext.from_predicate capacity rfl with
    ⟨t, hleads, ht⟩
  exact ⟨t, Leads.head hstep trivial hleads, ht⟩

theorem Polls.from_waiting (capacity : ℕ) (hs : s.Polls d pc)
    (hw : s.worker = .waiting)
    (hfree : s.mRunMutex = none) :
    ∃ t, Leads capacity d s t ∧
      t.InPoll d pc s.unread s.fpNotified := by
  have hstep : (machine capacity).step s .spuriousWake =
      some { s with worker := .notified } := by
    simp [machine, step, hw]
  have hnext : { s with worker := .notified }.Polls d pc := hs.worker
  rcases hnext.from_notified capacity rfl hfree with
    ⟨t, hleads, ht⟩
  exact ⟨t, Leads.head hstep trivial hleads, ht⟩

theorem Polls.from_start (capacity : ℕ) (hs : s.Polls d pc)
    (hw : s.worker = .start)
    (hfree : s.mRunMutex = none) :
    ∃ t, Leads capacity d s t ∧
      t.InPoll d pc s.unread s.fpNotified := by
  have hstep : (machine capacity).step s .worker =
      some { s with mRunMutex := some .worker, worker := .check } := by
    simp [machine, step, workerStep, hw, UdfpsSensor.lock, hfree]
  have hnext : { s with
      mRunMutex := some .worker, worker := .check }.Polls d pc := hs.worker
  rcases hnext.from_check capacity rfl with ⟨t, hleads, ht⟩
  exact ⟨t, Leads.head hstep trivial hleads, ht⟩

/-- A reported finger that is not there, if one was reported, and a byte. -/
theorem Polls.branch (hs : s.Polls d pc) {pipe finger : Bool}
    (hbyte : pipe = true → 0 < s.unread)
    (htouch : finger = true → s.fpNotified = true) :
    ∃ x y, s.branch (.ready pipe finger) = some
      { s with
        unread := s.unread - pipe.toNat
        fpNotified := s.fpNotified && !finger
        mScreenX := x
        mScreenY := y } := by
  have hdrain : ∀ r : UdfpsSensor, r.unread = s.unread →
      r.drainPipe pipe = some { r with unread := r.unread - pipe.toNat } := by
    intro r hr
    cases pipe with
    | false => rfl
    | true => simp [drainPipe, hr, hbyte rfl]
  cases finger with
  | false =>
      refine ⟨s.mScreenX, s.mScreenY, ?_⟩
      simp [UdfpsSensor.branch, hdrain s rfl]
  | true =>
      have hquiet := hs.untouched
      simp only [Touched, htouch rfl, true_and, not_or, Bool.not_eq_false,
        Bool.not_eq_true] at hquiet
      rcases hread : readFpState s.fpState s.mScreenX s.mScreenY with
        ⟨found, x, y⟩
      obtain rfl : found = false := by simpa [hread] using hquiet.2
      refine ⟨x, y, ?_⟩
      simp only [UdfpsSensor.branch, readNode, hread, if_true,
        Bool.false_eq_true, if_false, hquiet.1]
      exact hdrain { s with
        fpNotified := s.fpNotified && !true
        mScreenX := x
        mScreenY := y } rfl

theorem Polls.from_branch (capacity : ℕ) (hs : s.Polls d pc) {pipe finger : Bool}
    (hw : s.worker = .branch (.ready pipe finger))
    (hbyte : pipe = true → 0 < s.unread)
    (htouch : finger = true → s.fpNotified = true) :
    ∃ t, Leads capacity d s t ∧
      t.InPoll d pc (s.unread - pipe.toNat) (s.fpNotified && !finger) := by
  rcases hs.branch hbyte htouch with ⟨x, y, hbranch⟩
  have hstep : (machine capacity).step s .worker = some
      { s with
        unread := s.unread - pipe.toNat
        fpNotified := s.fpNotified && !finger
        mScreenX := x
        mScreenY := y
        worker := .check } := by
    simp [machine, step, workerStep, hw, hbranch]
  have huntouched : ∀ r : UdfpsSensor, r.fpState = s.fpState →
      r.fpNotified = (s.fpNotified && !finger) → ¬ r.Touched := by
    intro r hfp hnotified htouched
    have hboth := htouched.1
    rw [hnotified, Bool.and_eq_true] at hboth
    apply hs.untouched
    exact Touched.congr htouched (hboth.1.trans htouched.1.symm) hfp.symm
  have hnext : { s with
      unread := s.unread - pipe.toNat
      fpNotified := s.fpNotified && !finger
      mScreenX := x
      mScreenY := y
      worker := .check }.Polls d pc :=
    { caller := hs.caller
      going := hs.going
      enabled := hs.enabled
      mode := hs.mode
      opened := hs.opened
      untouched := huntouched _ rfl rfl }
  rcases hnext.from_check capacity rfl with ⟨t, hleads, ht⟩
  exact ⟨t, Leads.head hstep trivial hleads, ht⟩

theorem Polls.from_relock (capacity : ℕ) (hs : s.Polls d pc) {pipe finger : Bool}
    (hw : s.worker = .relock (.ready pipe finger)) (hfree : s.mRunMutex = none)
    (hbyte : pipe = true → 0 < s.unread)
    (htouch : finger = true → s.fpNotified = true) :
    ∃ t, Leads capacity d s t ∧
      t.InPoll d pc (s.unread - pipe.toNat) (s.fpNotified && !finger) := by
  have hstep : (machine capacity).step s .worker = some
      { s with
        mRunMutex := some .worker
        worker := .branch (.ready pipe finger) } := by
    simp [machine, step, workerStep, hw, UdfpsSensor.lock, hfree]
  have hnext : { s with
      mRunMutex := some .worker
      worker := .branch (.ready pipe finger) }.Polls d pc := hs.worker
  rcases hnext.from_branch capacity rfl hbyte htouch with
    ⟨t, hleads, ht⟩
  exact ⟨t, Leads.head hstep trivial hleads, ht⟩

theorem Disciplined.mRunMutex_free (hdisc : s.Disciplined)
    (howner : ∀ c, s.mRunMutex ≠ some (.caller c))
    (hout : s.worker.inside = false) : s.mRunMutex = none := by
  cases hmutex : s.mRunMutex with
  | none => rfl
  | some thread =>
      cases thread with
      | caller c => exact absurd hmutex (howner c)
      | worker =>
          have hin : s.inside .worker := (hdisc .worker).mpr hmutex
          have hin' : s.worker.inside = true := hin
          rw [hout] at hin'
          contradiction

/-- The worker comes to `poll` from wherever it is. -/
theorem Polls.to_poll (capacity : ℕ) (hs : s.Polls d pc)
    (hexited : s.worker = .exited → s.mStopThread = true)
    (hbyte : ∀ finger, s.worker.report = some (.ready true finger) →
      0 < s.unread)
    (htouch : ∀ pipe, s.worker.report = some (.ready pipe true) →
      s.fpNotified = true)
    (hdisc : s.Disciplined) (howner : ∀ c, s.mRunMutex ≠ some (.caller c))
    (hok : s.worker.report ≠ some .failed) :
    ∃ t n notified, Leads capacity d s t ∧ t.InPoll d pc n notified := by
  have hfree : s.worker.inside = false → s.mRunMutex = none :=
    hdisc.mRunMutex_free howner
  cases hw : s.worker with
  | start =>
      rcases hs.from_start capacity hw (hfree (by rw [hw]; rfl)) with
        ⟨t, hleads, ht⟩
      exact ⟨t, _, _, hleads, ht⟩
  | check =>
      rcases hs.from_check capacity hw with ⟨t, hleads, ht⟩
      exact ⟨t, _, _, hleads, ht⟩
  | predicate =>
      rcases hs.from_predicate capacity hw with ⟨t, hleads, ht⟩
      exact ⟨t, _, _, hleads, ht⟩
  | waiting =>
      rcases hs.from_waiting capacity hw (hfree (by rw [hw]; rfl)) with
        ⟨t, hleads, ht⟩
      exact ⟨t, _, _, hleads, ht⟩
  | notified =>
      rcases hs.from_notified capacity hw (hfree (by rw [hw]; rfl)) with
        ⟨t, hleads, ht⟩
      exact ⟨t, _, _, hleads, ht⟩
  | unlock =>
      rcases hs.from_unlock capacity hw with ⟨t, hleads, ht⟩
      exact ⟨t, _, _, hleads, ht⟩
  | poll =>
      exact ⟨s, s.unread, s.fpNotified, Leads.refl,
        { toPolls := hs
          poll := hw
          free := hfree (by rw [hw]; rfl)
          unread := rfl
          fpNotified := rfl }⟩
  | relock result =>
      cases result with
      | failed => simp [hw, WorkerPc.report] at hok
      | ready pipe finger =>
          have hreport : s.worker.report = some (.ready pipe finger) := by
            rw [hw]
            rfl
          rcases hs.from_relock capacity hw (hfree (by rw [hw]; rfl))
            (fun hpipe => hbyte finger (hpipe ▸ hreport))
            (fun hfinger => htouch pipe (hfinger ▸ hreport)) with
            ⟨t, hleads, ht⟩
          exact ⟨t, _, _, hleads, ht⟩
  | branch result =>
      cases result with
      | failed => simp [hw, WorkerPc.report] at hok
      | ready pipe finger =>
          have hreport : s.worker.report = some (.ready pipe finger) := by
            rw [hw]
            rfl
          rcases hs.from_branch capacity hw
            (fun hpipe => hbyte finger (hpipe ▸ hreport))
            (fun hfinger => htouch pipe (hfinger ▸ hreport)) with
            ⟨t, hleads, ht⟩
          exact ⟨t, _, _, hleads, ht⟩
  | exited =>
      have hstop := hexited hw
      rw [hs.going] at hstop
      contradiction

/-! ## Emptying the pipe -/

/-- `poll` reports the pipe, or the finger that is not there, or both. -/
theorem InPoll.round (capacity : ℕ) {n : ℕ} {notified : Bool}
    (hs : s.InPoll d pc n notified) (pipe finger : Bool)
    (hpipe : pipe = true → 0 < n) (hfinger : finger = true → notified = true)
    (hready : (pipe || finger) = true) :
    ∃ t, Leads capacity d s t ∧
      t.InPoll d pc (n - pipe.toNat) (notified && !finger) := by
  have hstep : (machine capacity).step s
      (.pollReturn (.ready pipe finger)) = some
      { s with worker := .relock (.ready pipe finger) } := by
    simp only [machine, step, pollReturn, hs.poll, hs.unread, hs.fpNotified,
      if_true]
    exact if_pos ⟨hpipe, hfinger, hready⟩
  have hnext : { s with
      worker := .relock (.ready pipe finger) }.Polls d pc := hs.worker
  rcases hnext.from_relock capacity rfl hs.free
    (fun h => hs.unread ▸ hpipe h) (fun h => hs.fpNotified ▸ hfinger h) with
    ⟨t, hleads, ht⟩
  have hunread := hs.unread
  have hnotified := hs.fpNotified
  subst hunread hnotified
  exact ⟨t, Leads.head hstep trivial hleads, ht⟩

theorem InPoll.emptied (capacity : ℕ) {n : ℕ} (hs : s.InPoll d pc n false) :
    ∃ t, Leads capacity d s t ∧ t.InPoll d pc 0 false := by
  induction n generalizing s with
  | zero => exact ⟨s, Leads.refl, hs⟩
  | succ n ih =>
      rcases hs.round capacity true false (by simp) (by simp) rfl with
        ⟨t, hst, ht⟩
      rcases ih ht with ⟨u, htu, hu⟩
      exact ⟨u, hst.trans htu, hu⟩

/-- In the end `poll` has nothing left to report. -/
theorem InPoll.drained (capacity : ℕ) {n : ℕ} {notified : Bool}
    (hs : s.InPoll d pc n notified) :
    ∃ t, Leads capacity d s t ∧ t.InPoll d pc 0 false := by
  cases notified with
  | true =>
      rcases hs.round capacity false true (by simp) (by simp) rfl with
        ⟨t, hst, ht⟩
      rcases ht.emptied capacity with ⟨u, htu, hu⟩
      exact ⟨u, hst.trans htu, hu⟩
  | false => exact hs.emptied capacity

/-! ## The destructor -/

theorem InPoll.goto {n : ℕ} {notified : Bool} {next : CallerPc}
    (hs : s.InPoll d pc n notified) :
    (s.goto d next).InPoll d next n notified where
  caller := goto_caller_self
  going := hs.going
  enabled := hs.enabled
  mode := hs.mode
  opened := hs.opened
  untouched := fun htouched => hs.untouched (htouched.congr rfl rfl)
  poll := hs.poll
  free := hs.free
  unread := hs.unread
  fpNotified := hs.fpNotified

/-- The byte of the destructor goes the way of the others. -/
theorem InPoll.past_pipe (capacity : ℕ)
    (hs : s.InPoll d .destroyPipe 0 false) :
    ∃ t, Leads (capacity + 1) d s t ∧ t.InPoll d .destroyLock 0 false := by
  have hstep : (machine (capacity + 1)).step s (.caller d) = some
      ({ s with unread := s.unread + 1, destructed := true }.goto d
        .destroyLock) := by
    simp [machine, step, callerStep, hs.caller, interruptPoll, hs.opened,
      hs.unread]
  have hbyte : { s with unread := s.unread + 1, destructed := true }.InPoll d
      .destroyPipe 1 false :=
    { caller := hs.caller
      going := hs.going
      enabled := hs.enabled
      mode := hs.mode
      opened := hs.opened
      untouched := fun htouched => hs.untouched (htouched.congr rfl rfl)
      poll := hs.poll
      free := hs.free
      unread := by rw [hs.unread]
      fpNotified := hs.fpNotified }
  have hwritten : ({ s with unread := s.unread + 1, destructed := true }.goto d
      .destroyLock).InPoll d .destroyLock 1 false := hbyte.goto
  rcases hwritten.emptied (capacity + 1) with ⟨t, hst, ht⟩
  exact ⟨t, Leads.head hstep rfl hst, ht⟩

/-- With the pipe empty again the destructor runs into `join`. -/
theorem InPoll.joins (capacity : ℕ) (hs : s.InPoll d .destroyLock 0 false) :
    ∃ t, Leads capacity d s t ∧ t.Deadlocked d := by
  let locked := { s with
    mRunMutex := some (.caller d) }.goto d .destroyStop
  let stopped := { locked with
    mStopThread := true
    mIsEnabled := false }.goto d .destroyNotify
  let notified := stopped.goto d .destroyUnlock
  let joining := notified.unlock.goto d .destroyJoin
  have hlock : (machine capacity).step s (.caller d) = some locked := by
    simp [machine, step, callerStep, hs.caller, UdfpsSensor.lock, hs.free,
      locked]
  have hstop : (machine capacity).step locked (.caller d) = some stopped := by
    simp [machine, step, callerStep, locked, stopped]
  have hnotify : (machine capacity).step stopped (.caller d) =
      some notified := by
    have hasleep : stopped.worker = .poll := hs.poll
    have hnobody : stopped.notifyAll = stopped := by
      unfold notifyAll
      rw [if_neg (by simp [hasleep])]
    have hpc : stopped.caller d = .destroyNotify := goto_caller_self
    simp [machine, step, callerStep, hpc, hnobody, notified]
  have hunlock : (machine capacity).step notified (.caller d) =
      some joining := by
    have hpc : notified.caller d = .destroyUnlock := goto_caller_self
    simp [machine, step, callerStep, hpc, joining]
  refine ⟨joining, ?_, goto_caller_self, Or.inr ⟨hs.poll, hs.unread,
    hs.fpNotified⟩⟩
  exact Leads.head hlock rfl (Leads.head hstop rfl (Leads.head hnotify rfl
    (Leads.head hunlock rfl Leads.refl)))

/-- Wherever the destructor begins in another state, it can wait forever. -/
theorem deadlock_of_not_shutsDown (capacity d : ℕ) (hserving : s.InService)
    (hdisc : s.Disciplined) (hborn : s.constructed = true)
    (hidle : s.caller d = .idle) (hbad : ¬ s.ShutsDown) :
    ∃ as t, (∀ a ∈ as, Shutdown d a) ∧
      (machine (capacity + 1)).run s (.call d .destroy :: as) = some t ∧
      t.Deadlocked d := by
  unfold ShutsDown at hbad
  push Not at hbad
  rcases hbad with ⟨hgoing, hbusy, hok, huntouched, howner⟩
  rw [ne_eq, Bool.not_eq_true] at hgoing hbusy
  let begun := s.goto d .destroyPipe
  have hcall : (machine (capacity + 1)).step s (.call d .destroy) =
      some begun := by
    simp [machine, step, UdfpsSensor.call, hborn, hidle, begun, SensorCall.entry]
  have hpolls : begun.Polls d .destroyPipe :=
    { caller := goto_caller_self
      going := hgoing
      enabled := by
        simp only [UdfpsSensor.idle, Bool.or_eq_false_iff] at hbusy
        simpa [begun, UdfpsSensor.goto] using hbusy.1
      mode := by
        simp only [UdfpsSensor.idle, Bool.or_eq_false_iff] at hbusy
        cases hmode : s.mMode with
        | normal => exact hmode
        | dataInjection => simp [hmode] at hbusy
      opened := by
        rcases hserving.opened hborn with hopen | hstop
        · exact hopen
        · rw [hgoing] at hstop
          contradiction
      untouched := fun htouched => huntouched (htouched.congr rfl rfl) }
  have hbegun : begun.Disciplined := hdisc.goto (by rw [hidle]; rfl)
  rcases hpolls.to_poll (capacity + 1) hserving.exited hserving.byte
    hserving.touch hbegun howner hok with ⟨t₁, n, notified, h₁, ht₁⟩
  rcases ht₁.drained (capacity + 1) with ⟨t₂, h₂, ht₂⟩
  rcases ht₂.past_pipe capacity with ⟨t₃, h₃, ht₃⟩
  rcases ht₃.joins (capacity + 1) with ⟨t₄, h₄, ht₄⟩
  rcases h₁.trans (h₂.trans (h₃.trans h₄)) with ⟨as, has, hrun⟩
  exact ⟨as, t₄, has, (Machine.run_cons hcall).trans hrun, ht₄⟩

/-- The destructor writes its byte; the worker takes both bytes out; then the
destructor sets the flag, notifies and joins. -/
def hangingRun : List SensorAction :=
  [.caller 0,
    .pollReturn (.ready true false), .worker, .worker, .worker, .worker,
    .pollReturn (.ready true false), .worker, .worker, .worker, .worker,
    .caller 0, .caller 0, .caller 0, .caller 0]

theorem enabledRun_reachable (capacity : ℕ)
    (hrun : (machine capacity).run startState enabledRun = some s) :
    (machine capacity).ReachableUnder KeepsSensor s := by
  apply Machine.reachableUnder_of_run (startState_initial capacity) _ hrun
  apply Machine.along_of_forall
  intro a ha c
  fin_cases ha <;> simp

end UdfpsSensor

end Samurai
