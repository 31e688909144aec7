import Samurai.UdfpsSensorWakeup

/-!
# Destroying the sensor

`~UdfpsSensor` writes a byte into the wake pipe, and only then `~Sensor` takes
`mRunMutex`, sets `mStopThread`, notifies and joins the worker.  A worker that
is fast enough takes the byte out, finds nothing changed and polls again, and
the destructor waits for it forever.

Here are the states in which the destructor can begin without that danger,
and the invariant that holds from there on: as long as the worker can come to
`poll` again, something in sight will wake it.
-/

namespace Samurai

/-- Between the release of `mRunMutex` for `poll` and the end of the branch. -/
def WorkerPc.awaiting : WorkerPc → Bool
  | .unlock | .poll | .relock _ | .branch _ => true
  | _ => false

/-- What `poll` returned, while it is acted upon. -/
def WorkerPc.report : WorkerPc → Option PollResult
  | .relock result => some result
  | .branch result => some result
  | _ => none

/-- Behind the assignment of `mStopThread`. -/
def CallerPc.stopping : CallerPc → Bool
  | .destroyNotify | .destroyUnlock | .destroyJoin | .destroyed => true
  | _ => false

/-- Behind the `notify_all` of the destructor. -/
def CallerPc.notifying : CallerPc → Bool
  | .destroyUnlock | .destroyJoin | .destroyed => true
  | _ => false

namespace UdfpsSensor

variable {capacity : ℕ} {s t : UdfpsSensor} {a : SensorAction} {d : ℕ}

def KeepsSensor (_ : UdfpsSensor) (a : SensorAction) : Prop :=
  ∀ c, a ≠ .call c .destroy

/-- A notified `fp_state` shows a finger, or cannot be read at all. -/
def Touched (s : UdfpsSensor) : Prop :=
  s.fpNotified = true ∧
    (s.fpState.readable = false ∨
      (readFpState s.fpState s.mScreenX s.mScreenY).1 = true)

/-- A state in which the destructor can begin and never waits for a worker
that nothing wakes. -/
def ShutsDown (s : UdfpsSensor) : Prop :=
  s.mStopThread = true ∨ s.idle = true ∨
    s.worker.report = some .failed ∨ s.Touched ∨
    ∃ c, s.mRunMutex = some (.caller c)

/-- The destructor is in `join`, and the worker sleeps with nothing on its way
to wake it. -/
def Deadlocked (d : ℕ) (s : UdfpsSensor) : Prop :=
  s.caller d = .destroyJoin ∧
    (s.worker = .waiting ∨
      s.worker = .poll ∧ s.unread = 0 ∧ s.fpNotified = false)

/-- The steps of the worker and of the destroying thread. -/
def Shutdown (d : ℕ) : SensorAction → Prop
  | .caller c => c = d
  | .worker => True
  | .pollReturn _ => True
  | .spuriousWake => True
  | .construct _ _ => False
  | .call _ _ => False
  | .fpNotify _ => False

/-! ## Before the destructor -/

/-- What holds of a sensor that nobody has begun to destroy. -/
structure InService (s : UdfpsSensor) : Prop where
  callers : ∀ c, s.caller c ≠ .idle →
    s.constructed = true ∧ (s.caller c).destroys = false
  unborn : s.constructed = false →
    s.mIsEnabled = false ∧ s.worker.awaiting = false
  opened : s.constructed = true → s.pipeOpen = true ∨ s.mStopThread = true
  stopped : s.mStopThread = true → s.worker.awaiting = false
  exited : s.worker = .exited → s.mStopThread = true
  byte : ∀ finger, s.worker.report = some (.ready true finger) → 0 < s.unread
  touch : ∀ pipe, s.worker.report = some (.ready pipe true) →
    s.fpNotified = true

theorem notifyAll_awaiting :
    s.notifyAll.worker.awaiting = s.worker.awaiting := by
  unfold notifyAll
  split_ifs with hwaiting
  · rw [hwaiting]
    rfl
  · rfl

theorem notifyAll_report : s.notifyAll.worker.report = s.worker.report := by
  unfold notifyAll
  split_ifs with hwaiting
  · rw [hwaiting]
    rfl
  · rfl

theorem notifyAll_exited : s.notifyAll.worker = .exited ↔ s.worker = .exited := by
  unfold notifyAll
  split_ifs with hwaiting
  · simp [hwaiting]
  · rfl

theorem notifyAll_polls
    (hpoll : s.notifyAll.worker = .unlock ∨ s.notifyAll.worker = .poll) :
    s.worker = .unlock ∨ s.worker = .poll := by
  unfold notifyAll at hpoll
  split_ifs at hpoll with hwaiting
  · simp at hpoll
  · simpa [hwaiting] using hpoll

theorem InService.goto {c : ℕ} {pc : CallerPc} (hs : s.InService)
    (hconstructed : s.constructed = true) (hpc : pc.destroys = false) :
    (s.goto c pc).InService where
  callers := by
    intro e he
    by_cases hec : e = c
    · subst hec
      rw [goto_caller_self]
      exact ⟨hconstructed, hpc⟩
    · rw [goto_caller_of_ne hec] at he ⊢
      exact hs.callers e he
  unborn := hs.unborn
  opened := hs.opened
  stopped := hs.stopped
  exited := hs.exited
  byte := hs.byte
  touch := hs.touch

theorem InService.notifyAll (hs : s.InService) : s.notifyAll.InService where
  callers := hs.callers
  unborn := by
    rw [notifyAll_awaiting]
    exact hs.unborn
  opened := hs.opened
  stopped := by
    rw [notifyAll_awaiting]
    exact hs.stopped
  exited := by
    rw [notifyAll_exited]
    exact hs.exited
  byte := by
    rw [notifyAll_report]
    exact hs.byte
  touch := by
    rw [notifyAll_report]
    exact hs.touch

/-- After a step of the worker that ends outside the part around `poll`. -/
theorem InService.away (hs : s.InService)
    (haway : t.worker.awaiting = false) (hreport : t.worker.report = none)
    (hexited : t.worker = .exited → t.mStopThread = true)
    (hcaller : t.caller = s.caller) (hconstructed : t.constructed = s.constructed)
    (hpipe : t.pipeOpen = s.pipeOpen)
    (hstop : s.mStopThread = true → t.mStopThread = true)
    (henabled : s.mIsEnabled = false → t.mIsEnabled = false) :
    t.InService where
  callers := by
    rw [hcaller, hconstructed]
    exact hs.callers
  unborn := by
    rw [hconstructed]
    exact fun hfresh => ⟨henabled (hs.unborn hfresh).1, haway⟩
  opened := by
    rw [hconstructed, hpipe]
    exact fun hborn => (hs.opened hborn).imp_right hstop
  stopped := fun _ => haway
  exited := hexited
  byte := by
    rw [hreport]
    intro finger hready
    contradiction
  touch := by
    rw [hreport]
    intro pipe hready
    contradiction

/-- After a step of the worker within the part around `poll`. -/
theorem InService.awaits {owner : Option SensorThread} {pc : WorkerPc}
    (hs : s.InService) (hawaiting : s.worker.awaiting = true)
    (hexited : pc ≠ .exited)
    (hreport : pc.report = none ∨ pc.report = s.worker.report) :
    { s with mRunMutex := owner, worker := pc }.InService where
  callers := hs.callers
  unborn := by
    intro hfresh
    have haway := (hs.unborn hfresh).2
    rw [hawaiting] at haway
    contradiction
  opened := hs.opened
  stopped := by
    intro hstop
    have haway := hs.stopped hstop
    rw [hawaiting] at haway
    contradiction
  exited := fun hpc => absurd hpc hexited
  byte := by
    intro finger hready
    rcases hreport with hnone | hsame
    · rw [hnone] at hready
      contradiction
    · rw [hsame] at hready
      exact hs.byte finger hready
  touch := by
    intro pipe hready
    rcases hreport with hnone | hsame
    · rw [hnone] at hready
      contradiction
    · rw [hsame] at hready
      exact hs.touch pipe hready

theorem InService.mutex {owner : Option SensorThread} (hs : s.InService) :
    { s with mRunMutex := owner }.InService where
  callers := hs.callers
  unborn := hs.unborn
  opened := hs.opened
  stopped := hs.stopped
  exited := hs.exited
  byte := hs.byte
  touch := hs.touch

theorem InService.mode {mode : OperationMode} (hs : s.InService) :
    { s with mMode := mode }.InService where
  callers := hs.callers
  unborn := hs.unborn
  opened := hs.opened
  stopped := hs.stopped
  exited := hs.exited
  byte := hs.byte
  touch := hs.touch

theorem InService.unread {n : ℕ} (hs : s.InService) :
    { s with unread := s.unread + n }.InService where
  callers := hs.callers
  unborn := hs.unborn
  opened := hs.opened
  stopped := hs.stopped
  exited := hs.exited
  byte := fun finger hready => Nat.lt_add_right n (hs.byte finger hready)
  touch := hs.touch

theorem InService.construct {pipeOk pollOk : Bool} (hs : s.InService)
    (hfresh : s.constructed = false) :
    { s with
      constructed := true
      pipeOpen := pipeOk
      mStopThread := s.mStopThread || !(pipeOk && pollOk) }.InService where
  callers := by
    intro c hc
    have hborn := (hs.callers c hc).1
    rw [hfresh] at hborn
    contradiction
  unborn := by
    intro hnever
    contradiction
  opened := by
    intro _
    cases pipeOk with
    | false => exact Or.inr (by simp)
    | true => exact Or.inl rfl
  stopped := fun _ => (hs.unborn hfresh).2
  exited := by
    intro hexited
    simp [hs.exited hexited]
  byte := hs.byte
  touch := hs.touch

theorem InService.pollReturn {result : PollResult} (hs : s.InService)
    (hpoll : s.worker = .poll)
    (hready : ∀ pipe finger, result = .ready pipe finger →
      (pipe = true → 0 < s.unread) ∧
        (finger = true → s.fpNotified = true) ∧ (pipe || finger) = true) :
    { s with worker := .relock result }.InService where
  callers := hs.callers
  unborn := by
    intro hfresh
    have haway := (hs.unborn hfresh).2
    rw [hpoll] at haway
    contradiction
  opened := hs.opened
  stopped := by
    intro hstop
    have haway := hs.stopped hstop
    rw [hpoll] at haway
    contradiction
  exited := by
    intro hexited
    contradiction
  byte := by
    intro finger hreport
    exact (hready true finger (Option.some.inj hreport)).1 rfl
  touch := by
    intro pipe hreport
    exact (hready pipe true (Option.some.inj hreport)).2.1 rfl

theorem InService.enable {enable : Bool} (hs : s.InService)
    (hconstructed : s.constructed = true) :
    { s with mIsEnabled := enable }.InService where
  callers := hs.callers
  unborn := by
    intro hfresh
    rw [show s.constructed = false from hfresh] at hconstructed
    contradiction
  opened := hs.opened
  stopped := hs.stopped
  exited := hs.exited
  byte := hs.byte
  touch := hs.touch

theorem InService.watch (hs : s.InService) (hstop : s.mStopThread = false)
    (hidle : s.idle = false) : { s with worker := .unlock }.InService where
  callers := hs.callers
  unborn := by
    intro hfresh
    have hdisabled := (hs.unborn hfresh).1
    simp [idle, hdisabled] at hidle
  opened := hs.opened
  stopped := by
    intro hstopped
    rw [show s.mStopThread = true from hstopped] at hstop
    contradiction
  exited := by
    intro hexited
    contradiction
  byte := by
    intro finger hready
    contradiction
  touch := by
    intro pipe hready
    contradiction

theorem InService.busy {c : ℕ} {pc : CallerPc} (hs : s.InService)
    (hc : s.caller c = pc) (hpc : pc ≠ .idle) :
    s.constructed = true ∧ pc.destroys = false := by
  have hcaller := hs.callers c (by rw [hc]; exact hpc)
  rw [hc] at hcaller
  exact hcaller

theorem InService.step (hs : s.InService) (hkeep : KeepsSensor s a)
    (hstep : SensorStep capacity s a t) : t.InService := by
  cases hstep with
  | construct hfresh => exact hs.construct hfresh
  | @call c call hconstructed _ =>
      apply hs.goto hconstructed
      cases call with
      | activate enable => rfl
      | setOperationMode mode => rfl
      | destroy => exact absurd rfl (hkeep c)
  | fpNotify =>
      exact
        { callers := hs.callers
          unborn := hs.unborn
          opened := hs.opened
          stopped := hs.stopped
          exited := hs.exited
          byte := hs.byte
          touch := fun _ _ => rfl }
  | spuriousWake _ =>
      exact hs.away rfl rfl (by simp) rfl rfl rfl id id
  | pollReturn hpoll hready => exact hs.pollReturn hpoll hready
  | start _ _ => exact hs.away rfl rfl (by simp) rfl rfl rfl id id
  | stop _ hstop => exact hs.away rfl rfl (fun _ => hstop) rfl rfl rfl id id
  | sleep _ _ _ => exact hs.away rfl rfl (by simp) rfl rfl rfl id id
  | watch _ hstop hidle => exact hs.watch hstop hidle
  | proceed _ _ => exact hs.away rfl rfl (by simp) rfl rfl rfl id id
  | block _ _ => exact hs.away rfl rfl (by simp) rfl rfl rfl id id
  | wake _ _ => exact hs.away rfl rfl (by simp) rfl rfl rfl id id
  | unlock hw =>
      exact hs.awaits (by rw [hw]; rfl) (by simp) (Or.inl rfl)
  | relock hw _ =>
      exact hs.awaits (by rw [hw]; rfl) (by simp) (Or.inr (by rw [hw]; rfl))
  | pollFailed _ =>
      exact hs.away rfl rfl (by simp) rfl rfl rfl (fun _ => rfl) id
  | post _ _ =>
      exact hs.away rfl rfl (by simp) rfl rfl rfl id (fun _ => rfl)
  | missFinger _ _ _ => exact hs.away rfl rfl (by simp) rfl rfl rfl id id
  | noFinger _ _ => exact hs.away rfl rfl (by simp) rfl rfl rfl id id
  | activateLock hc _ => exact hs.mutex.goto (hs.busy hc (by simp)).1 rfl
  | activateChange hc _ =>
      have hborn := (hs.busy hc (by simp)).1
      exact (hs.enable hborn).goto hborn rfl
  | activateSame hc _ => exact hs.goto (hs.busy hc (by simp)).1 rfl
  | activatePipe hc _ => exact hs.unread.goto (hs.busy hc (by simp)).1 rfl
  | activateNotify hc => exact hs.notifyAll.goto (hs.busy hc (by simp)).1 rfl
  | activateUnlock hc => exact hs.mutex.goto (hs.busy hc (by simp)).1 rfl
  | modeLock hc _ => exact hs.mutex.goto (hs.busy hc (by simp)).1 rfl
  | modeChange hc _ => exact hs.mode.goto (hs.busy hc (by simp)).1 rfl
  | modeSame hc _ => exact hs.goto (hs.busy hc (by simp)).1 rfl
  | modeNotify hc => exact hs.notifyAll.goto (hs.busy hc (by simp)).1 rfl
  | modeUnlock hc => exact hs.mutex.goto (hs.busy hc (by simp)).1 rfl
  | modePipe hc _ => exact hs.unread.goto (hs.busy hc (by simp)).1 rfl
  | destroyPipe hc _ => exact absurd (hs.busy hc (by simp)).2 (by decide)
  | destroyLock hc _ => exact absurd (hs.busy hc (by simp)).2 (by decide)
  | destroyStop hc => exact absurd (hs.busy hc (by simp)).2 (by decide)
  | destroyNotify hc => exact absurd (hs.busy hc (by simp)).2 (by decide)
  | destroyUnlock hc => exact absurd (hs.busy hc (by simp)).2 (by decide)
  | destroyJoin hc _ => exact absurd (hs.busy hc (by simp)).2 (by decide)

theorem initial_inService {handle x y : ℤ} {fp : FpState} :
    (initial handle fp x y).InService := by
  constructor <;> simp [initial, WorkerPc.awaiting, WorkerPc.report]

theorem reachable_inService
    (hs : (machine capacity).ReachableUnder KeepsSensor s) : s.InService := by
  apply Machine.ReachableUnder.invariant _ _ hs
  · intro s hs
    rcases hs with ⟨handle, fp, x, y, rfl⟩
    exact initial_inService
  · intro s a t _ hserving hkeep hstep
    exact hserving.step hkeep (step_cases hstep)

/-! ## During the destructor -/

/-- Why the worker will not sleep in `poll` when the destructor joins it: it
does not come there again, `poll` has failed, a finger is waiting, the byte of
the destructor is still to come or in the pipe, or the destructor does not get
to `join`. -/
inductive Covered (d : ℕ) (s : UdfpsSensor) : Prop
  | away : (s.mStopThread = true ∨ s.idle = true) →
      s.worker.awaiting = false → Covered d s
  | failed : s.worker.report = some .failed → Covered d s
  | touched : s.Touched → Covered d s
  | byte : s.idle = true → s.pipeOpen = true →
      (s.caller d = .destroyPipe ∨
        (s.worker = .unlock ∨ s.worker = .poll → 0 < s.unread)) → Covered d s
  | locked (c : ℕ) : s.mRunMutex = some (.caller c) →
      (s.caller d = .destroyPipe ∨ s.caller d = .destroyLock) → Covered d s

/-- The destructor is under way and the worker will be woken. -/
structure Shutting (d : ℕ) (s : UdfpsSensor) : Prop where
  destroys : (s.caller d).destroys = true
  stopped : (s.caller d).stopping = true → s.mStopThread = true
  awake : (s.caller d).notifying = true → s.worker ≠ .waiting
  covered : s.Covered d

theorem Shutting.not_deadlocked (hs : s.Shutting d) : ¬ s.Deadlocked d := by
  rintro ⟨hjoin, hwaiting | ⟨hpoll, hempty, hquiet⟩⟩
  · exact hs.awake (by rw [hjoin]; rfl) hwaiting
  · cases hs.covered with
    | away _ haway =>
        rw [hpoll] at haway
        contradiction
    | failed hreport =>
        rw [hpoll] at hreport
        contradiction
    | touched htouched =>
        have hnotified := htouched.1
        rw [hquiet] at hnotified
        contradiction
    | byte _ _ hbyte =>
        rcases hbyte with hpipe | hbyte
        · rw [hjoin] at hpipe
          contradiction
        · have hunread := hbyte (Or.inr hpoll)
          omega
    | locked c _ hc =>
        rw [hjoin] at hc
        simp at hc

/-- Whether a record shows a finger does not depend on the old coordinates. -/
theorem readFpState_found (fp : FpState) (x y x' y' : ℤ) :
    (readFpState fp x y).1 = (readFpState fp x' y').1 := by
  unfold readFpState
  split_ifs
  · rcases fp.numbers with _ | ⟨_, _ | ⟨_, _ | ⟨_, _⟩⟩⟩
    · rfl
    · rfl
    · rfl
    · rfl
  · rfl

theorem Touched.congr (hs : s.Touched) (hnotified : t.fpNotified = s.fpNotified)
    (hfp : t.fpState = s.fpState) : t.Touched := by
  unfold Touched
  rw [hnotified, hfp, readFpState_found _ _ _ s.mScreenX s.mScreenY]
  exact hs

theorem locked_worker_step {c : ℕ} (hdisc : s.Disciplined)
    (howner : s.mRunMutex = some (.caller c)) :
    ¬ SensorStep capacity s .worker t := by
  intro hstep
  have hout : s.worker.inside = false := by
    by_contra hin
    rw [Bool.not_eq_false] at hin
    have hself : s.mRunMutex = some .worker := hdisc.eq_some hin
    rw [howner] at hself
    simp at hself
  cases hstep with
  | start _ hfree => simp [howner] at hfree
  | wake _ hfree => simp [howner] at hfree
  | relock _ hfree => simp [howner] at hfree
  | stop hw _ => simp [hw, WorkerPc.inside] at hout
  | sleep hw _ _ => simp [hw, WorkerPc.inside] at hout
  | watch hw _ _ => simp [hw, WorkerPc.inside] at hout
  | proceed hw _ => simp [hw, WorkerPc.inside] at hout
  | block hw _ => simp [hw, WorkerPc.inside] at hout
  | unlock hw => simp [hw, WorkerPc.inside] at hout
  | pollFailed hw => simp [hw, WorkerPc.inside] at hout
  | post hw _ => simp [hw, WorkerPc.inside] at hout
  | missFinger hw _ _ => simp [hw, WorkerPc.inside] at hout
  | noFinger hw _ => simp [hw, WorkerPc.inside] at hout

theorem Covered.worker_step (hs : s.Covered d) (hdisc : s.Disciplined)
    (hstep : SensorStep capacity s .worker t) : t.Covered d := by
  cases hs with
  | away hend haway =>
      cases hstep with
      | start _ _ => exact .away hend rfl
      | stop _ _ => exact .away hend rfl
      | sleep _ _ _ => exact .away hend rfl
      | watch _ hstop hidle => simp [hstop, hidle] at hend
      | proceed _ _ => exact .away hend rfl
      | block _ _ => exact .away hend rfl
      | wake _ _ => exact .away hend rfl
      | unlock hw => simp [hw, WorkerPc.awaiting] at haway
      | relock hw _ => simp [hw, WorkerPc.awaiting] at haway
      | pollFailed hw => simp [hw, WorkerPc.awaiting] at haway
      | post hw _ => simp [hw, WorkerPc.awaiting] at haway
      | missFinger hw _ _ => simp [hw, WorkerPc.awaiting] at haway
      | noFinger hw _ => simp [hw, WorkerPc.awaiting] at haway
  | failed hreport =>
      cases hstep with
      | relock hw _ =>
          rw [hw] at hreport
          exact .failed hreport
      | pollFailed _ => exact .away (Or.inl rfl) rfl
      | post hw _ => simp [hw, WorkerPc.report] at hreport
      | missFinger hw _ _ => simp [hw, WorkerPc.report] at hreport
      | noFinger hw _ => simp [hw, WorkerPc.report] at hreport
      | start hw _ => simp [hw, WorkerPc.report] at hreport
      | stop hw _ => simp [hw, WorkerPc.report] at hreport
      | sleep hw _ _ => simp [hw, WorkerPc.report] at hreport
      | watch hw _ _ => simp [hw, WorkerPc.report] at hreport
      | proceed hw _ => simp [hw, WorkerPc.report] at hreport
      | block hw _ => simp [hw, WorkerPc.report] at hreport
      | wake hw _ => simp [hw, WorkerPc.report] at hreport
      | unlock hw => simp [hw, WorkerPc.report] at hreport
  | touched htouched =>
      cases hstep with
      | post _ _ => exact .away (Or.inr rfl) rfl
      | missFinger _ hread _ =>
          have hunreadable : s.fpState.readable = false := by
            rcases htouched.2 with hunreadable | hfound
            · exact hunreadable
            · rw [hread] at hfound
              contradiction
          apply Covered.touched
          exact ⟨by simp [htouched.1, hunreadable], Or.inl hunreadable⟩
      | _ => exact .touched (htouched.congr rfl rfl)
  | byte hidle hpipe hbyte =>
      cases hstep with
      | watch _ _ hbusy =>
          rw [hidle] at hbusy
          contradiction
      | unlock hw =>
          refine .byte hidle hpipe (hbyte.imp_right fun hunread _ => ?_)
          exact hunread (Or.inl hw)
      | pollFailed _ => exact .away (Or.inl rfl) rfl
      | post _ _ => exact .away (Or.inr rfl) rfl
      | _ => exact .byte hidle hpipe (Or.inr (by simp))
  | locked c howner hc => exact absurd hstep (locked_worker_step hdisc howner)

/-- What a step of the kernel's leaves as it is: `poll` returning and a
spurious wake-up only move the worker. -/
theorem Covered.move {pc : WorkerPc} (hs : s.Covered d)
    (haway : s.worker.awaiting = false → pc.awaiting = false)
    (hreport : s.worker.report = some .failed → pc.report = some .failed)
    (hpc : pc ≠ .unlock ∧ pc ≠ .poll) :
    { s with worker := pc }.Covered d := by
  cases hs with
  | away hend hout => exact .away hend (haway hout)
  | failed hfailed => exact .failed (hreport hfailed)
  | touched htouched => exact .touched (htouched.congr rfl rfl)
  | byte hidle hpipe _ =>
      refine .byte hidle hpipe (Or.inr fun hpoll => ?_)
      rcases hpoll with hunlock | hpoll
      · exact absurd hunlock hpc.1
      · exact absurd hpoll hpc.2
  | locked c howner hc => exact .locked c howner hc

theorem Covered.caller_step (hs : s.Covered d)
    (hdestroys : (s.caller d).destroys = true)
    (hstep : SensorStep capacity s (.caller d) t) : t.Covered d := by
  cases hs with
  | away hend haway =>
      cases hstep with
      | destroyPipe _ _ => exact .away hend haway
      | destroyLock _ _ => exact .away hend haway
      | destroyStop _ => exact .away (Or.inl rfl) haway
      | destroyNotify _ =>
          exact .away hend (notifyAll_awaiting.trans haway)
      | destroyUnlock _ => exact .away hend haway
      | destroyJoin _ _ => exact .away hend haway
      | _ => simp [*, CallerPc.destroys] at hdestroys
  | failed hreport =>
      cases hstep with
      | activateNotify _ => exact .failed (notifyAll_report.trans hreport)
      | modeNotify _ => exact .failed (notifyAll_report.trans hreport)
      | destroyNotify _ => exact .failed (notifyAll_report.trans hreport)
      | _ => exact .failed hreport
  | touched htouched =>
      cases hstep with
      | _ => exact .touched (htouched.congr rfl rfl)
  | byte hidle hpipe hbyte =>
      cases hstep with
      | destroyPipe _ _ =>
          refine .byte hidle hpipe (Or.inr fun _ => ?_)
          simp [goto, hpipe]
      | destroyLock hc _ =>
          exact .byte hidle hpipe (Or.inr (hbyte.resolve_left (by simp [hc])))
      | destroyStop hc =>
          exact .byte rfl hpipe (Or.inr (hbyte.resolve_left (by simp [hc])))
      | destroyNotify hc =>
          refine .byte hidle hpipe (Or.inr fun hpoll => ?_)
          exact hbyte.resolve_left (by simp [hc]) (notifyAll_polls hpoll)
      | destroyUnlock hc =>
          exact .byte hidle hpipe (Or.inr (hbyte.resolve_left (by simp [hc])))
      | destroyJoin hc _ =>
          exact .byte hidle hpipe (Or.inr (hbyte.resolve_left (by simp [hc])))
      | _ => simp [*, CallerPc.destroys] at hdestroys
  | locked c howner hc =>
      cases hstep with
      | destroyPipe _ _ => exact .locked c howner (Or.inr goto_caller_self)
      | destroyLock _ hfree => simp [howner] at hfree
      | _ => simp [*] at hc

theorem notifies_after_stop {pc : CallerPc} (hpc : pc.notifying = true) :
    pc.stopping = true := by
  cases pc <;> simp [CallerPc.notifying, CallerPc.stopping] at hpc ⊢

theorem Shutting.worker_step (hs : s.Shutting d) (hdisc : s.Disciplined)
    (hstep : SensorStep capacity s .worker t) : t.Shutting d := by
  have hcovered := hs.covered.worker_step hdisc hstep
  have hcaller : t.caller = s.caller := by
    cases hstep with
    | _ => rfl
  have hstop : s.mStopThread = true → t.mStopThread = true := by
    cases hstep with
    | pollFailed _ => exact fun _ => rfl
    | _ => exact id
  have hawake : t.worker = .waiting → s.mStopThread = false := by
    cases hstep with
    | block _ hblocks =>
        intro _
        unfold waitPredicate at hblocks
        simp only [Bool.or_eq_false_iff] at hblocks
        exact hblocks.2
    | _ => simp
  refine ⟨?_, ?_, ?_, hcovered⟩
  · rw [hcaller]
    exact hs.destroys
  · rw [hcaller]
    exact fun hstopping => hstop (hs.stopped hstopping)
  · rw [hcaller]
    intro hnotifying hwaiting
    have hgoing := hawake hwaiting
    rw [hs.stopped (notifies_after_stop hnotifying)] at hgoing
    contradiction

theorem Shutting.move {pc : WorkerPc} (hs : s.Shutting d)
    (haway : s.worker.awaiting = false → pc.awaiting = false)
    (hreport : s.worker.report = some .failed → pc.report = some .failed)
    (hpc : pc ≠ .unlock ∧ pc ≠ .poll) (hawake : pc ≠ .waiting) :
    { s with worker := pc }.Shutting d where
  destroys := hs.destroys
  stopped := hs.stopped
  awake := fun _ => hawake
  covered := hs.covered.move haway hreport hpc

theorem Shutting.caller_step (hs : s.Shutting d)
    (hstep : SensorStep capacity s (.caller d) t) : t.Shutting d := by
  have hcovered := hs.covered.caller_step hs.destroys hstep
  have hdestroys := hs.destroys
  cases hstep with
  | destroyPipe hc _ =>
      refine ⟨by simp [CallerPc.destroys], ?_, ?_, hcovered⟩
      · simp [CallerPc.stopping]
      · simp [CallerPc.notifying]
  | destroyLock hc _ =>
      refine ⟨by simp [CallerPc.destroys], ?_, ?_, hcovered⟩
      · simp [CallerPc.stopping]
      · simp [CallerPc.notifying]
  | destroyStop hc =>
      refine ⟨by simp [CallerPc.destroys], fun _ => rfl, ?_, hcovered⟩
      simp [CallerPc.notifying]
  | destroyNotify hc =>
      refine ⟨by simp [CallerPc.destroys], ?_, ?_, hcovered⟩
      · exact fun _ => hs.stopped (by rw [hc]; rfl)
      · intro _
        simp only [goto, notifyAll]
        split_ifs with hwaiting
        · simp
        · exact hwaiting
  | destroyUnlock hc =>
      refine ⟨by simp [CallerPc.destroys], ?_, ?_, hcovered⟩
      · exact fun _ => hs.stopped (by rw [hc]; rfl)
      · exact fun _ => hs.awake (by rw [hc]; rfl)
  | destroyJoin hc _ =>
      refine ⟨by simp [CallerPc.destroys], ?_, ?_, hcovered⟩
      · exact fun _ => hs.stopped (by rw [hc]; rfl)
      · exact fun _ => hs.awake (by rw [hc]; rfl)
  | _ => simp [*, CallerPc.destroys] at hdestroys

theorem Shutting.step (hs : s.Shutting d) (hdisc : s.Disciplined)
    (hallowed : Shutdown d a) (hstep : SensorStep capacity s a t) :
    t.Shutting d := by
  cases a with
  | construct pipeOk pollOk => exact hallowed.elim
  | call c call => exact hallowed.elim
  | fpNotify fp => exact hallowed.elim
  | caller c =>
      have hcd : c = d := hallowed
      subst hcd
      exact hs.caller_step hstep
  | worker => exact hs.worker_step hdisc hstep
  | pollReturn result =>
      cases hstep with
      | pollReturn hpoll _ =>
          apply hs.move
          · simp [hpoll, WorkerPc.awaiting]
          · simp [hpoll, WorkerPc.report]
          · simp
          · simp
  | spuriousWake =>
      cases hstep with
      | spuriousWake hwaiting =>
          apply hs.move
          · simp [WorkerPc.awaiting]
          · simp [hwaiting, WorkerPc.report]
          · simp
          · simp

/-- The beginning of the destructor in such a state. -/
theorem shutting_of_shutsDown (hs : s.InService) (hborn : s.constructed = true)
    (hshuts : s.ShutsDown) : (s.goto d .destroyPipe).Shutting d := by
  refine ⟨by simp [CallerPc.destroys], ?_, ?_, ?_⟩
  · simp [CallerPc.stopping]
  · simp [CallerPc.notifying]
  · rcases hshuts with hstop | hidle | hfailed | htouched | ⟨c, howner⟩
    · exact .away (Or.inl hstop) (hs.stopped hstop)
    · rcases hs.opened hborn with hopen | hstop
      · exact .byte hidle hopen (Or.inl goto_caller_self)
      · exact .away (Or.inl hstop) (hs.stopped hstop)
    · exact .failed hfailed
    · exact .touched (htouched.congr rfl rfl)
    · exact .locked c howner (Or.inl goto_caller_self)

theorem not_deadlocked_of_shutsDown {as : List SensorAction}
    (hs : (machine capacity).ReachableUnder KeepsSensor s)
    (hshuts : s.ShutsDown) (hall : ∀ a ∈ as, Shutdown d a)
    (hrun : (machine capacity).run s (.call d .destroy :: as) = some t) :
    ¬ t.Deadlocked d := by
  rcases Machine.run_cons_eq_some.mp hrun with ⟨u, hcall, hrest⟩
  have hserving := reachable_inService hs
  have hu : u.Shutting d ∧ u.Disciplined := by
    have hstep := step_cases hcall
    have hdisc := (reachable_disciplined hs).step hstep
    cases hstep with
    | call hborn _ => exact ⟨shutting_of_shutsDown hserving hborn hshuts, hdisc⟩
  have ht : t.Shutting d ∧ t.Disciplined := by
    apply Machine.Along.invariant (M := machine capacity)
      (P := fun _ a => Shutdown d a) _ hu _ hrest
    · rintro s a t ⟨hs, hdisc⟩ hallowed hstep
      exact ⟨hs.step hdisc hallowed (step_cases hstep),
        hdisc.step (step_cases hstep)⟩
    · exact Machine.along_of_forall hall
  exact ht.1.not_deadlocked

end UdfpsSensor

end Samurai
