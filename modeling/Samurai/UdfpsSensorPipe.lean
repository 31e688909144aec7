import Samurai.OutstandingDebts
import Samurai.UdfpsSensorHang

/-!
# Room in the wake pipe

Every `setOperationMode` call writes a byte, also when the mode does not change
and when nobody polls.  Only a worker that polls takes bytes out, one for each
round.  With a disabled sensor the bytes add up, until a write blocks; if
`activate` makes that write, it blocks with `mRunMutex` locked.

A mode call owes its byte from its beginning, and `activate` from the statement
that changes the flag.  The writes find room in every run in which nobody comes
to owe a byte while the bytes in the pipe and those owed fill it.
-/

namespace Samurai

open OutstandingDebts (Within within_of_no_debt)

/-- The call has its byte still to write. -/
def CallerPc.owes : CallerPc → Bool
  | .modeLock _ | .modeTest _ | .modeNotify _ | .modeUnlock _ _
  | .modePipe _ _ | .activatePipe _ => true
  | _ => false

/-- The call is at `interruptPoll`. -/
def CallerPc.writes : CallerPc → Bool
  | .activatePipe _ | .modePipe _ _ | .destroyPipe => true
  | _ => false

namespace UdfpsSensor

variable {capacity bound : ℕ} {s t : UdfpsSensor} {a : SensorAction} {c : ℕ}
  {pc : CallerPc}

/-- Wherever a caller is about to write, the pipe has room, and the write
returns. -/
def WritesReturn (capacity : ℕ) (s : UdfpsSensor) : Prop :=
  ∀ c, (s.caller c).writes = true →
    (s.pipeOpen = true → s.unread < capacity) ∧
      ∃ t, (machine capacity).step s (.caller c) = some t

/-- The bytes in the pipe and those that are owed are fewer than `bound`. -/
def OwedBelow (bound : ℕ) (s : UdfpsSensor) : Prop :=
  s.pipeOpen = true → Within bound s.unread fun c => (s.caller c).owes = true

/-- With this step a call comes to owe a byte. -/
def Commits (s : UdfpsSensor) (a : SensorAction) : Prop :=
  (∃ c mode, a = .call c (.setOperationMode mode)) ∨
    ∃ c enable, a = .caller c ∧ s.caller c = .activateTest enable ∧
      s.mIsEnabled ≠ enable

/-- Nobody destroys the sensor, and a byte is owed only below the bound. -/
def CommitsBelow (bound : ℕ) (s : UdfpsSensor) (a : SensorAction) : Prop :=
  KeepsSensor s a ∧ (Commits s a → s.OwedBelow bound)

/-! ## Every write finds room -/

theorem owes_goto {d : ℕ} (hd : ((s.goto c pc).caller d).owes = true) :
    (d = c ∧ pc.owes = true) ∨ (s.caller d).owes = true := by
  by_cases hdc : d = c
  · subst hdc
    rw [goto_caller_self] at hd
    exact Or.inl ⟨rfl, hd⟩
  · rw [goto_caller_of_ne hdc] at hd
    exact Or.inr hd

theorem OwedBelow.goto (hs : s.OwedBelow bound)
    (hside : pc.owes = true → (s.caller c).owes = true) :
    (s.goto c pc).OwedBelow bound := by
  intro hopen
  apply (hs hopen).mono (le_refl _)
  intro d hd
  rcases owes_goto hd with ⟨rfl, hpc⟩ | howed
  · exact hside hpc
  · exact howed

theorem OwedBelow.commit (hs : s.OwedBelow bound) :
    (s.goto c pc).OwedBelow (bound + 1) := by
  intro hopen
  apply (hs hopen).commit (c := c)
  intro d hd
  exact (owes_goto hd).imp_left And.left

/-- A byte that was owed is written. -/
theorem OwedBelow.write (hs : s.OwedBelow bound)
    (hc : (s.caller c).owes = true) (hpc : pc.owes = false) :
    ({ s with unread := s.unread + s.pipeOpen.toNat }.goto c pc).OwedBelow
      bound := by
  intro hopen
  have hopen : s.pipeOpen = true := hopen
  have hpaid : Within bound (s.unread + 1) fun d =>
      ((s.goto c pc).caller d).owes = true := by
    apply (hs hopen).pay hc
    · simp [hpc]
    · intro d hd
      rcases owes_goto hd with ⟨rfl, _⟩ | howed
      · exact hc
      · exact howed
  have hbyte : s.unread + s.pipeOpen.toNat = s.unread + 1 := by
    rw [hopen]
    rfl
  exact hbyte.symm ▸ hpaid

theorem OwedBelow.drain (hs : s.OwedBelow bound) (n : ℕ) :
    { s with unread := s.unread - n }.OwedBelow bound :=
  fun hopen => (hs hopen).mono (Nat.sub_le _ _) fun _ hc => hc

theorem OwedBelow.call {call : SensorCall} (hs : s.OwedBelow (bound + 1))
    (hcommit : Commits s (.call c call) → s.OwedBelow bound)
    (hkeep : KeepsSensor s (.call c call)) :
    (s.goto c call.entry).OwedBelow (bound + 1) := by
  cases call with
  | activate enable =>
      apply hs.goto
      intro howes
      contradiction
  | setOperationMode mode => exact (hcommit (Or.inl ⟨c, mode, rfl⟩)).commit
  | destroy => exact absurd rfl (hkeep c)

theorem InService.no_debt (hs : s.InService) (hunborn : s.constructed = false)
    (c : ℕ) : ¬ (s.caller c).owes = true := by
  intro howes
  have hbusy : s.caller c ≠ .idle := by
    intro hidle
    rw [hidle] at howes
    contradiction
  have hborn := (hs.callers c hbusy).1
  rw [hunborn] at hborn
  contradiction

/-- Nothing is written before the sensor is constructed. -/
theorem unread_step (hserving : s.InService) (hstep : SensorStep capacity s a t)
    (hs : s.constructed = false → s.unread = 0) :
    t.constructed = false → t.unread = 0 := by
  have hborn {c : ℕ} {pc : CallerPc} (hc : s.caller c = pc) (hpc : pc ≠ .idle)
      (n : ℕ) : s.constructed = false → s.unread + n = 0 := by
    intro hfresh
    have hbusy := (hserving.busy hc hpc).1
    rw [hfresh] at hbusy
    contradiction
  have hdrain (n : ℕ) : s.constructed = false → s.unread - n = 0 := by
    intro hfresh
    rw [hs hfresh, Nat.zero_sub]
  cases hstep with
  | construct _ =>
      intro hnever
      contradiction
  | missFinger _ _ _ => exact hdrain _
  | noFinger _ _ => exact hdrain _
  | activatePipe hc _ => exact hborn hc (by simp) _
  | modePipe hc _ => exact hborn hc (by simp) _
  | destroyPipe hc _ => exact hborn hc (by simp) _
  | _ => exact hs

theorem owedBelow_step (hserving : s.InService)
    (hfresh : s.constructed = false → s.unread = 0)
    (hstep : SensorStep capacity s a t) (hs : s.OwedBelow (bound + 1))
    (hkeep : KeepsSensor s a) (hcommit : Commits s a → s.OwedBelow bound) :
    t.OwedBelow (bound + 1) := by
  cases hstep with
  | construct hunborn =>
      intro _
      apply within_of_no_debt (hserving.no_debt hunborn)
      exact (hfresh hunborn).symm ▸ Nat.succ_pos bound
  | call _ _ => exact hs.call hcommit hkeep
  | missFinger _ _ _ => exact hs.drain _
  | noFinger _ _ => exact hs.drain _
  -- `activate`
  | activateLock hc _ => exact hs.goto (by simp [CallerPc.owes])
  | @activateChange c enable hc hchange =>
      have hbelow := hcommit (Or.inr ⟨c, enable, rfl, hc, hchange⟩)
      exact hbelow.commit
  | activateSame hc _ => exact hs.goto (by simp [CallerPc.owes])
  | activatePipe hc _ => exact hs.write (by rw [hc]; rfl) rfl
  | activateNotify hc => exact hs.goto (by simp [CallerPc.owes])
  | activateUnlock hc => exact hs.goto (by simp [CallerPc.owes])
  -- `setOperationMode`
  | modeLock hc _ => exact hs.goto (by simp [hc, CallerPc.owes])
  | modeChange hc _ => exact hs.goto (by simp [hc, CallerPc.owes])
  | modeSame hc _ => exact hs.goto (by simp [hc, CallerPc.owes])
  | modeNotify hc => exact hs.goto (by simp [hc, CallerPc.owes])
  | modeUnlock hc => exact hs.goto (by simp [hc, CallerPc.owes])
  | modePipe hc _ => exact hs.write (by rw [hc]; rfl) rfl
  -- the destructors
  | destroyPipe hc _ =>
      exact absurd (hserving.busy hc (by simp)).2 (by decide)
  | destroyLock hc _ => exact hs.goto (by simp [CallerPc.owes])
  | destroyStop hc => exact hs.goto (by simp [CallerPc.owes])
  | destroyNotify hc => exact hs.goto (by simp [CallerPc.owes])
  | destroyUnlock hc => exact hs.goto (by simp [CallerPc.owes])
  | destroyJoin hc _ => exact hs.goto (by simp [CallerPc.owes])
  -- the worker and the kernel leave the pipe alone
  | _ => exact hs

/-- What holds in every state of a run whose debts stay below the bound. -/
structure Provided (bound : ℕ) (s : UdfpsSensor) : Prop where
  serving : s.InService
  unborn : s.constructed = false → s.unread = 0
  owed : s.OwedBelow (bound + 1)

theorem reachable_provided
    (hs : (machine capacity).ReachableUnder (CommitsBelow bound) s) :
    s.Provided bound := by
  apply Machine.ReachableUnder.invariant _ _ hs
  · intro s hs
    rcases hs with ⟨handle, fp, x, y, rfl⟩
    refine ⟨initial_inService, fun _ => rfl, ?_⟩
    intro hopen
    contradiction
  · intro s a t _ hprovided hcommits hstep
    have hcase := step_cases hstep
    exact
      { serving := hprovided.serving.step hcommits.1 hcase
        unborn := unread_step hprovided.serving hcase hprovided.unborn
        owed := owedBelow_step hprovided.serving hprovided.unborn hcase
          hprovided.owed hcommits.1 hcommits.2 }

/-- A caller that is about to write owes its byte, so there is room for it. -/
theorem Provided.unread_lt (hs : s.Provided bound)
    (hc : (s.caller c).writes = true) (hopen : s.pipeOpen = true) :
    s.unread < bound := by
  have howes : (s.caller c).owes = true := by
    cases hpc : s.caller c with
    | activatePipe enable => rfl
    | modePipe mode changed => rfl
    | destroyPipe => exact absurd (hs.serving.busy hpc (by simp)).2 (by decide)
    | _ =>
        rw [hpc] at hc
        contradiction
  have hroom := (hs.owed hopen).lt_of_owes howes
  omega

theorem write_returns (hc : (s.caller c).writes = true)
    (hroom : s.pipeOpen = true → s.unread < capacity) :
    ∃ t, (machine capacity).step s (.caller c) = some t := by
  have hwrite : ∃ r, s.interruptPoll capacity = some r := by
    unfold interruptPoll
    split_ifs with hopen hfull
    · exact ⟨_, rfl⟩
    · exact absurd (hroom hopen) hfull
    · exact ⟨_, rfl⟩
  rcases hwrite with ⟨r, hr⟩
  cases hpc : s.caller c with
  | activatePipe enable => simp [machine, step, callerStep, hpc, hr]
  | modePipe mode changed => simp [machine, step, callerStep, hpc, hr]
  | destroyPipe => simp [machine, step, callerStep, hpc, hr]
  | _ =>
      rw [hpc] at hc
      contradiction

theorem Provided.writesReturn (hs : s.Provided bound) (hle : bound ≤ capacity) :
    s.WritesReturn capacity := by
  intro c hc
  have hroom : s.pipeOpen = true → s.unread < capacity :=
    fun hopen => (hs.unread_lt hc hopen).trans_le hle
  exact ⟨hroom, write_returns hc hroom⟩

/-! ## Filling the pipe -/

/-- `n` bytes are in the pipe, the worker is gone, and no thread but thread 0 is
in a call. -/
structure Filled (n : ℕ) (pc : CallerPc) (owner : Option SensorThread)
    (s : UdfpsSensor) : Prop where
  constructed : s.constructed = true
  opened : s.pipeOpen = true
  owner : s.mRunMutex = owner
  caller : s.caller 0 = pc
  others : ∀ c, c ≠ 0 → s.caller c = .idle
  disabled : s.mIsEnabled = false
  mode : s.mMode = .normal
  unread : s.unread = n
  exited : s.worker = .exited

/-- `setOperationMode(NORMAL)`, from its beginning to its end. -/
def modeCall : List SensorAction :=
  [.call 0 (.setOperationMode .normal), .caller 0, .caller 0, .caller 0,
    .caller 0]

/-- `activate(true)`, up to its write. -/
def enableCall : List SensorAction :=
  [.call 0 (.activate true), .caller 0, .caller 0]

/-- The pipe is opened, but not `fp_state`; the worker ends; then the mode is
set `n` times. -/
def fillingRun (n : ℕ) : List SensorAction :=
  [.construct true false, .worker, .worker] ++ (List.replicate n modeCall).flatten

section Filled

variable {n m : ℕ} {pc' : CallerPc} {owner owner' : Option SensorThread}

theorem Filled.goto (hs : s.Filled n pc owner) :
    (s.goto 0 pc').Filled n pc' owner where
  constructed := hs.constructed
  opened := hs.opened
  owner := hs.owner
  caller := goto_caller_self
  others := fun c hc => (goto_caller_of_ne hc).trans (hs.others c hc)
  disabled := hs.disabled
  mode := hs.mode
  unread := hs.unread
  exited := hs.exited

theorem Filled.mutex (hs : s.Filled n pc owner) :
    { s with mRunMutex := owner' }.Filled n pc owner' :=
  { hs with owner := rfl }

theorem Filled.owedBelow (hs : s.Filled n pc owner) (hpc : pc.owes = false)
    (hn : n < bound) : s.OwedBelow bound := by
  intro _
  apply within_of_no_debt
  · intro c howes
    by_cases hc : c = 0
    · rw [hc, hs.caller, hpc] at howes
      contradiction
    · rw [hs.others c hc] at howes
      contradiction
  · rw [hs.unread]
    exact hn

theorem commitsBelow_caller (hc : s.caller c = pc)
    (hpc : ∀ enable, pc ≠ .activateTest enable) :
    CommitsBelow bound s (.caller c) := by
  refine ⟨fun d => by simp, ?_⟩
  rintro (⟨d, mode, hcall⟩ | ⟨d, enable, hcaller, htest, _⟩)
  · contradiction
  · cases hcaller
    exact absurd (hc.symm.trans htest) (hpc enable)

/-- One call adds one byte and leaves nothing else behind. -/
theorem Filled.modeCall (hs : s.Filled n .idle none) (hn : n < capacity)
    (hbound : n < bound)
    (hreach : (machine capacity).ReachableUnder (CommitsBelow bound) s) :
    ∃ t, (machine capacity).run s modeCall = some t ∧
      (machine capacity).ReachableUnder (CommitsBelow bound) t ∧
      t.Filled (n + 1) .idle none := by
  obtain ⟨begun, hcall, hbegun⟩ : ∃ t, (machine capacity).step s
      (.call 0 (.setOperationMode .normal)) = some t ∧
      t.Filled n (.modeLock .normal) none := by
    refine ⟨s.goto 0 (.modeLock .normal), ?_, hs.goto⟩
    simp [machine, step, UdfpsSensor.call, hs.constructed, hs.caller,
      SensorCall.entry]
  obtain ⟨locked, hlock, hlocked⟩ : ∃ t, (machine capacity).step begun
      (.caller 0) = some t ∧
      t.Filled n (.modeTest .normal) (some (.caller 0)) := by
    refine ⟨_, ?_, hbegun.mutex.goto⟩
    simp [machine, step, callerStep, hbegun.caller, UdfpsSensor.lock,
      hbegun.owner]
  obtain ⟨tested, htest, htested⟩ : ∃ t, (machine capacity).step locked
      (.caller 0) = some t ∧
      t.Filled n (.modeUnlock .normal false) (some (.caller 0)) := by
    refine ⟨_, ?_, hlocked.goto⟩
    simp [machine, step, callerStep, hlocked.caller, hlocked.mode]
  obtain ⟨released, hunlock, hreleased⟩ : ∃ t, (machine capacity).step tested
      (.caller 0) = some t ∧
      t.Filled n (.modePipe .normal false) none := by
    refine ⟨_, ?_, htested.mutex.goto⟩
    simp [machine, step, callerStep, htested.caller, UdfpsSensor.unlock]
  obtain ⟨written, hwrite, hwritten⟩ : ∃ t, (machine capacity).step released
      (.caller 0) = some t ∧ t.Filled (n + 1) .idle none := by
    have hbyte : { released with unread := released.unread + 1 }.Filled (n + 1)
        (.modePipe .normal false) none :=
      { hreleased with unread := congrArg (· + 1) hreleased.unread }
    refine ⟨_, ?_, hbyte.goto⟩
    simp [machine, step, callerStep, hreleased.caller, interruptPoll,
      hreleased.opened, hreleased.unread, hn]
  have hreach := hreach.step
    ⟨fun c => by simp, fun _ => hs.owedBelow rfl hbound⟩ hcall
  have hreach := hreach.step
    (commitsBelow_caller hbegun.caller (by simp)) hlock
  have hreach := hreach.step
    (commitsBelow_caller hlocked.caller (by simp)) htest
  have hreach := hreach.step
    (commitsBelow_caller htested.caller (by simp)) hunlock
  have hreach := hreach.step
    (commitsBelow_caller hreleased.caller (by simp)) hwrite
  refine ⟨written, ?_, hreach, hwritten⟩
  exact (Machine.run_cons hcall).trans ((Machine.run_cons hlock).trans
    ((Machine.run_cons htest).trans ((Machine.run_cons hunlock).trans
      (Machine.run_singleton.trans hwrite))))

theorem fillingRun_succ (n : ℕ) :
    fillingRun (n + 1) = fillingRun n ++ UdfpsSensor.modeCall := by
  unfold fillingRun
  rw [List.replicate_succ', List.flatten_append, List.flatten_singleton,
    List.append_assoc]

theorem filled_of_fillingRun_zero (capacity bound : ℕ) :
    ∃ s, (machine capacity).run startState (fillingRun 0) = some s ∧
      (machine capacity).ReachableUnder (CommitsBelow bound) s ∧
      s.Filled 0 .idle none := by
  obtain ⟨s, hrun, hfilled⟩ :
      ∃ s, (machine capacity).run startState (fillingRun 0) = some s ∧
        s.Filled 0 .idle none :=
    ⟨_, rfl, ⟨rfl, rfl, rfl, rfl, fun _ _ => rfl, rfl, rfl, rfl, rfl⟩⟩
  refine ⟨s, hrun, ?_, hfilled⟩
  have hcommits : ∀ a ∈ fillingRun 0, ∀ r, CommitsBelow bound r a := by
    intro a ha r
    fin_cases ha <;> simp [CommitsBelow, KeepsSensor, Commits]
  apply Machine.reachableUnder_of_run (startState_initial capacity) _ hrun
  apply Machine.Along.mono _ (Machine.along_of_forall hcommits)
  intro r a hall
  exact hall r

/-- The calls fill the pipe. -/
theorem filled_of_fillingRun (hn : n ≤ capacity) (hbound : n ≤ bound) :
    ∃ s, (machine capacity).run startState (fillingRun n) = some s ∧
      (machine capacity).ReachableUnder (CommitsBelow bound) s ∧
      s.Filled n .idle none := by
  induction n with
  | zero => exact filled_of_fillingRun_zero capacity bound
  | succ n ih =>
      rcases ih (by omega) (by omega) with ⟨s, hrun, hreach, hs⟩
      rcases hs.modeCall (by omega) (by omega) hreach with
        ⟨t, hcall, hreach, ht⟩
      refine ⟨t, ?_, hreach, ht⟩
      rw [fillingRun_succ]
      exact Machine.run_append_eq_some.mpr ⟨s, hrun, hcall⟩

end Filled

/-! ## A write that never returns -/

/-- Caller `c` is in the write of `activate`, with the mutex locked; the pipe is
full and the worker is gone. -/
structure Hung (capacity c : ℕ) (s : UdfpsSensor) : Prop where
  constructed : s.constructed = true
  opened : s.pipeOpen = true
  full : s.unread = capacity
  caller : s.caller c = .activatePipe true
  owner : s.mRunMutex = some (.caller c)
  exited : s.worker = .exited

theorem Hung.not_writesReturn (hs : s.Hung capacity c) :
    ¬ s.WritesReturn capacity := by
  intro hreturn
  have hroom := (hreturn c (by rw [hs.caller]; rfl)).1 hs.opened
  exact absurd hs.full (Nat.ne_of_lt hroom)

theorem Hung.goto {d : ℕ} (hs : s.Hung capacity c)
    (hd : s.caller d ≠ .activatePipe true) :
    (s.goto d pc).Hung capacity c where
  constructed := hs.constructed
  opened := hs.opened
  full := hs.full
  caller := by
    have hcd : c ≠ d := by
      rintro rfl
      exact hd hs.caller
    rw [goto_caller_of_ne hcd]
    exact hs.caller
  owner := hs.owner
  exited := hs.exited

/-- A thread that is inside is the one that hangs. -/
theorem Hung.inside_eq {d : ℕ} (hs : s.Hung capacity c) (hdisc : s.Disciplined)
    (hd : s.caller d = pc) (hin : pc.inside = true) :
    pc = .activatePipe true := by
  have hinside : (s.caller d).inside = true := by
    rw [hd]
    exact hin
  have howner : s.mRunMutex = some (.caller d) := hdisc.eq_some hinside
  rw [hs.owner] at howner
  cases howner
  exact hd.symm.trans hs.caller

theorem Hung.step (hs : s.Hung capacity c) (hdisc : s.Disciplined)
    (hstep : SensorStep capacity s a t) : t.Hung capacity c := by
  have hlocked : s.mRunMutex ≠ none := by
    simp [hs.owner]
  have hgone {wpc : WorkerPc} (hw : s.worker = wpc) (hpc : wpc ≠ .exited) :
      t.Hung capacity c :=
    absurd (hw.symm.trans hs.exited) hpc
  have hnobody {d : ℕ} {pc : CallerPc} (hd : s.caller d = pc)
      (hin : pc.inside = true) (hpc : pc ≠ .activatePipe true) :
      t.Hung capacity c :=
    absurd (hs.inside_eq hdisc hd hin) hpc
  have hblocked (hroom : s.pipeOpen = true → s.unread < capacity) :
      t.Hung capacity c :=
    absurd hs.full (Nat.ne_of_lt (hroom hs.opened))
  cases hstep with
  | construct hunborn =>
      have hborn := hs.constructed
      rw [hunborn] at hborn
      contradiction
  | call _ hidle => exact hs.goto (by simp [hidle])
  | fpNotify => exact { hs with }
  | spuriousWake hw => exact hgone hw (by simp)
  | pollReturn hw _ => exact hgone hw (by simp)
  | start hw _ => exact hgone hw (by simp)
  | stop hw _ => exact hgone hw (by simp)
  | sleep hw _ _ => exact hgone hw (by simp)
  | watch hw _ _ => exact hgone hw (by simp)
  | proceed hw _ => exact hgone hw (by simp)
  | block hw _ => exact hgone hw (by simp)
  | wake hw _ => exact hgone hw (by simp)
  | unlock hw => exact hgone hw (by simp)
  | relock hw _ => exact hgone hw (by simp)
  | pollFailed hw => exact hgone hw (by simp)
  | post hw _ => exact hgone hw (by simp)
  | missFinger hw _ _ => exact hgone hw (by simp)
  | noFinger hw _ => exact hgone hw (by simp)
  | activateLock _ hfree => exact absurd hfree hlocked
  | activateChange hd _ => exact hnobody hd rfl (by simp)
  | activateSame hd _ => exact hnobody hd rfl (by simp)
  | activatePipe _ hroom => exact hblocked hroom
  | activateNotify hd => exact hnobody hd rfl (by simp)
  | activateUnlock hd => exact hnobody hd rfl (by simp)
  | modeLock _ hfree => exact absurd hfree hlocked
  | modeChange hd _ => exact hnobody hd rfl (by simp)
  | modeSame hd _ => exact hnobody hd rfl (by simp)
  | modeNotify hd => exact hnobody hd rfl (by simp)
  | modeUnlock hd => exact hnobody hd rfl (by simp)
  | modePipe _ hroom => exact hblocked hroom
  | destroyPipe _ hroom => exact hblocked hroom
  | destroyLock _ hfree => exact absurd hfree hlocked
  | destroyStop hd => exact hnobody hd rfl (by simp)
  | destroyNotify hd => exact hnobody hd rfl (by simp)
  | destroyUnlock hd => exact hnobody hd rfl (by simp)
  | destroyJoin hd _ => exact hs.goto (by simp [hd])

/-- No later step frees the mutex, whatever the other threads do. -/
theorem Hung.run {as : List SensorAction} (hs : s.Hung capacity c)
    (hdisc : s.Disciplined) (hrun : (machine capacity).run s as = some t) :
    t.Hung capacity c := by
  have ht : t.Hung capacity c ∧ t.Disciplined := by
    apply Machine.Along.invariant (M := machine capacity) _ ⟨hs, hdisc⟩
      Machine.along_true hrun
    rintro r a u ⟨hr, hrdisc⟩ _ hstep
    exact ⟨hr.step hrdisc (step_cases hstep), hrdisc.step (step_cases hstep)⟩
  exact ht.1

/-- After the calls that fill the pipe, `activate` hangs. -/
theorem hung_of_lt (hbound : capacity < bound) :
    ∃ s, (machine capacity).run startState (fillingRun capacity ++ enableCall) =
        some s ∧
      (machine capacity).ReachableUnder (CommitsBelow bound) s ∧
      s.Hung capacity 0 := by
  rcases filled_of_fillingRun (le_refl capacity) hbound.le with
    ⟨s, hrun, hreach, hs⟩
  obtain ⟨begun, hcall, hbegun⟩ : ∃ t, (machine capacity).step s
      (.call 0 (.activate true)) = some t ∧
      t.Filled capacity (.activateLock true) none := by
    refine ⟨s.goto 0 (.activateLock true), ?_, hs.goto⟩
    simp [machine, step, UdfpsSensor.call, hs.constructed, hs.caller,
      SensorCall.entry]
  obtain ⟨locked, hlock, hlocked⟩ : ∃ t, (machine capacity).step begun
      (.caller 0) = some t ∧
      t.Filled capacity (.activateTest true) (some (.caller 0)) := by
    refine ⟨_, ?_, hbegun.mutex.goto⟩
    simp [machine, step, callerStep, hbegun.caller, UdfpsSensor.lock,
      hbegun.owner]
  have htest : (machine capacity).step locked (.caller 0) =
      some ({ locked with mIsEnabled := true }.goto 0 (.activatePipe true)) := by
    simp [machine, step, callerStep, hlocked.caller, hlocked.disabled]
  have hreach := hreach.step
    ⟨fun c => by simp, fun _ => hs.owedBelow rfl hbound⟩ hcall
  have hreach := hreach.step
    (commitsBelow_caller hbegun.caller (by simp)) hlock
  have hreach := hreach.step
    ⟨fun c => by simp, fun _ => hlocked.owedBelow rfl hbound⟩ htest
  refine ⟨_, ?_, hreach, hlocked.constructed, hlocked.opened, hlocked.unread,
    goto_caller_self, hlocked.owner, hlocked.exited⟩
  have hend : (machine capacity).run s enableCall = _ :=
    (Machine.run_cons hcall).trans ((Machine.run_cons hlock).trans
      (Machine.run_singleton.trans htest))
  exact Machine.run_append_eq_some.mpr ⟨s, hrun, hend⟩

/-- The writes return in every run in which a byte is owed only below a bound,
if and only if the bound is at most the capacity. -/
theorem writesReturn_iff (capacity bound : ℕ) :
    (∀ s, (machine capacity).ReachableUnder (CommitsBelow bound) s →
      s.WritesReturn capacity) ↔ bound ≤ capacity := by
  constructor
  · intro hreturn
    by_contra hlt
    rcases hung_of_lt (not_le.mp hlt) with ⟨s, -, hreach, hs⟩
    exact hs.not_writesReturn (hreturn s hreach)
  · intro hle s hs
    exact (reachable_provided hs).writesReturn hle

/-- Without `fp_state`, 65536 mode calls fill the pipe, and `activate` keeps the
mutex from then on. -/
theorem activate_hangs :
    (∃ s, (machine 65536).run startState (fillingRun 65536 ++ enableCall) =
        some s ∧
      s.caller 0 = .activatePipe true ∧
      ∀ as t, (machine 65536).run s as = some t →
        t.mRunMutex = some (.caller 0)) ∧
    ¬ ∀ s, (machine 65536).ReachableUnder KeepsSensor s →
      s.WritesReturn 65536 := by
  rcases hung_of_lt (Nat.lt_succ_self 65536) with ⟨s, hrun, hreach, hs⟩
  have hkept : (machine 65536).ReachableUnder KeepsSensor s :=
    hreach.mono fun _ _ hcommits => hcommits.1
  constructor
  · refine ⟨s, hrun, hs.caller, ?_⟩
    intro as t hrest
    exact (hs.run (reachable_disciplined hreach) hrest).owner
  · intro hclaim
    exact hs.not_writesReturn (hclaim s hkept)

end UdfpsSensor

end Samurai
