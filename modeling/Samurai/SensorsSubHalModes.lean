import Samurai.SensorsSubHalDispatch

/-!
# The mode of operation

`setOperationMode` tells the sensors one after the other and then notes the
mode, with no lock over the whole.  Calls that do not overlap leave the
sensors and the sub-HAL in agreement.  Two that overlap can each have its last
word in a different place.
-/

namespace Samurai

/-- The mode a caller is setting. -/
def SubHalPc.mode : SubHalPc → Option OperationMode
  | .modeLoop _ mode _ | .modeWrite _ mode => some mode
  | _ => none

/-- The sensors a caller has yet to tell. -/
def SubHalPc.rest : SubHalPc → List ℤ
  | .modeLoop _ _ rest => rest
  | _ => []

def SubHalCall.mode : SubHalCall → Option OperationMode
  | .setOperationMode mode => some mode
  | .initializeHal _ => some .normal
  | _ => none

namespace SubHal

variable {s t : SubHal} {a : SubHalAction}

/-- A mode is set only while nobody else sets one. -/
def InTurn (s : SubHal) : SubHalAction → Prop
  | .call _ call =>
      SubHalCall.mode call ≠ none → ∀ d, (s.caller d).mode = none
  | _ => True

/-- At most one caller sets a mode, and the sensors it has told have it.  While
nobody does, all have the mode of the sub-HAL. -/
structure Agrees (s : SubHal) : Prop where
  alone : ∀ c d, (s.caller c).mode ≠ none → (s.caller d).mode ≠ none → c = d
  idle : (∀ c, (s.caller c).mode = none) →
    ∀ handle r, OrderedMap.find handle s.mSensors = some r →
      r.mMode = s.mCurrentOperationMode
  told : ∀ c mode, (s.caller c).mode = some mode →
    ∀ handle r, OrderedMap.find handle s.mSensors = some r →
      handle ∉ (s.caller c).rest → r.mMode = mode

/-- Nothing the agreement is about has changed. -/
theorem Agrees.congr (hs : s.Agrees)
    (hcallers : ∀ c, (t.caller c).mode = (s.caller c).mode ∧
      (t.caller c).rest = (s.caller c).rest)
    (hcurrent : t.mCurrentOperationMode = s.mCurrentOperationMode)
    (hsensors : ∀ handle r', OrderedMap.find handle t.mSensors = some r' →
      ∃ r, OrderedMap.find handle s.mSensors = some r ∧ r'.mMode = r.mMode) :
    t.Agrees := by
  constructor
  · intro c d hc hd
    rw [(hcallers c).1] at hc
    rw [(hcallers d).1] at hd
    exact hs.alone c d hc hd
  · intro hidle handle r' hfind
    obtain ⟨r, hold, hmode⟩ := hsensors handle r' hfind
    rw [hmode, hcurrent]
    exact hs.idle (fun c => (hcallers c).1 ▸ hidle c) handle r hold
  · intro c mode hc handle r' hfind hrest
    obtain ⟨r, hold, hmode⟩ := hsensors handle r' hfind
    rw [(hcallers c).1] at hc
    rw [(hcallers c).2] at hrest
    rw [hmode]
    exact hs.told c mode hc handle r hold hrest

theorem same_sensors (hsame : t.mSensors = s.mSensors) :
    ∀ handle r', OrderedMap.find handle t.mSensors = some r' →
      ∃ r, OrderedMap.find handle s.mSensors = some r ∧ r'.mMode = r.mMode := by
  intro handle r' hfind
  rw [hsame] at hfind
  exact ⟨r', hfind, rfl⟩

theorem updated_sensors {handle : ℤ}
    {f : RegisteredSensor → RegisteredSensor}
    (hf : ∀ r, (f r).mMode = r.mMode) :
    ∀ h r', OrderedMap.find h (s.update handle f).mSensors = some r' →
      ∃ r, OrderedMap.find h s.mSensors = some r ∧ r'.mMode = r.mMode := by
  intro h r' hfind
  rcases find_update hfind with ⟨_, hold⟩ | ⟨r, _, hold, rfl⟩
  · exact ⟨r', hold, rfl⟩
  · exact ⟨r, hold, hf r⟩

theorem caller_goto {c : ℕ} {pc : SubHalPc}
    (hmode : pc.mode = (s.caller c).mode) (hrest : pc.rest = (s.caller c).rest)
    (d : ℕ) :
    ((s.goto c pc).caller d).mode = (s.caller d).mode ∧
      ((s.goto c pc).caller d).rest = (s.caller d).rest := by
  by_cases hd : d = c
  · subst hd
    simp [goto, hmode, hrest]
  · simp [goto, Function.update_of_ne hd]

theorem take_mMode {action : AtomicAction} {r : RegisteredSensor}
    (hworker : action.ofWorker = true) : (r.take action).mMode = r.mMode := by
  unfold RegisteredSensor.take
  cases action with
  | watch | finger _ _ =>
      simp only [AtomicSensor.step]
      split_ifs <;> rfl
  | unwatch => rfl
  | setEnabled _ | setOperationMode _ | destruct => contradiction

@[simp] theorem reply_caller {call : SubHalCall} {result : SensorsResult} :
    (s.reply call result).caller = s.caller := rfl

theorem postEvents_mCurrent {source : PostSource} {post : PostedEvent} :
    (s.postEvents source post).mCurrentOperationMode =
      s.mCurrentOperationMode := by
  unfold postEvents
  cases s.mCallback <;> rfl

/-- The beginning of a loop over all sensors. -/
theorem agrees_start {c : ℕ} {call : SubHalCall}
    {mode : OperationMode} (hfree : ∀ d, (s.caller d).mode = none) :
    (s.setOperationMode c call mode).Agrees := by
  have hnone : ∀ d, d ≠ c →
      ((s.setOperationMode c call mode).caller d).mode = none := by
    intro d hd
    simp [setOperationMode, goto, Function.update_of_ne hd, hfree d]
  constructor
  · intro d d' hd hd'
    have hc : d = c := by
      by_contra hne
      exact hd (hnone d hne)
    have hc' : d' = c := by
      by_contra hne
      exact hd' (hnone d' hne)
    rw [hc, hc']
  · intro hidle
    have hc := hidle c
    simp [setOperationMode, goto, SubHalPc.mode] at hc
  · intro d mode' hd handle r hfind hrest
    by_cases hdc : d = c
    · subst hdc
      apply absurd _ hrest
      simpa [setOperationMode, goto, SubHalPc.rest] using
        OrderedMap.mem_keys_of_find hfind
    · rw [hnone d hdc] at hd
      contradiction

/-- A caller in its loop goes on, having told the sensors it passes. -/
theorem Agrees.advance (hs : s.Agrees) {c : ℕ} {pc : SubHalPc}
    {mode : OperationMode} (hmode : (s.caller c).mode = some mode)
    (hpc : pc.mode = some mode)
    (hsensors : ∀ handle r', OrderedMap.find handle t.mSensors = some r' →
      handle ∉ pc.rest → r'.mMode = mode)
    (hcaller : t.caller = s.caller) : (t.goto c pc).Agrees := by
  have hmodes : ∀ d, ((t.goto c pc).caller d).mode = (s.caller d).mode := by
    intro d
    by_cases hd : d = c
    · subst hd
      simp [goto, hpc, hmode]
    · simp [goto, Function.update_of_ne hd, hcaller]
  constructor
  · intro d d' hd hd'
    rw [hmodes] at hd hd'
    exact hs.alone d d' hd hd'
  · intro hidle
    have hc := hidle c
    rw [hmodes, hmode] at hc
    contradiction
  · intro d mode' hd handle r' hfind hrest
    rw [hmodes] at hd
    have hdc : d = c := hs.alone d c (by simp [hd]) (by simp [hmode])
    subst hdc
    have hsame : mode' = mode := Option.some.inj (hd.symm.trans hmode)
    subst hsame
    apply hsensors handle r' hfind
    simpa [goto] using hrest

/-- The end of a loop: every sensor has been told. -/
theorem Agrees.finish (hs : s.Agrees) {c : ℕ} {call : SubHalCall}
    {mode : OperationMode} (hc : s.caller c = .modeWrite call mode) :
    (({ s with mCurrentOperationMode := mode }.reply call .OK).goto c
      .idle).Agrees := by
  have hmode : (s.caller c).mode = some mode := by
    rw [hc]
    rfl
  have hnone : ∀ d, (((({ s with mCurrentOperationMode := mode }).reply call
      .OK).goto c .idle).caller d).mode = none := by
    intro d
    by_cases hd : d = c
    · subst hd
      simp [goto, SubHalPc.mode]
    · have hother : (s.caller d).mode = none := by
        by_contra hne
        exact hd (hs.alone d c hne (by simp [hmode]))
      simpa [goto, reply, Function.update_of_ne hd] using hother
  constructor
  · intro d d' hd
    exact absurd (hnone d) hd
  · intro _ handle r hfind
    apply hs.told c mode hmode handle r hfind
    rw [hc]
    exact List.not_mem_nil
  · intro d mode' hd
    rw [hnone d] at hd
    contradiction

theorem Agrees.reply (hs : s.Agrees) {call : SubHalCall}
    {result : SensorsResult} : (s.reply call result).Agrees :=
  hs.congr (fun _ => ⟨rfl, rfl⟩) rfl (same_sensors rfl)

theorem Agrees.update (hs : s.Agrees) {handle : ℤ}
    {f : RegisteredSensor → RegisteredSensor}
    (hf : ∀ r, (f r).mMode = r.mMode) : (s.update handle f).Agrees :=
  hs.congr (fun _ => ⟨rfl, rfl⟩) rfl (updated_sensors hf)

theorem Agrees.postEvents (hs : s.Agrees) {source : PostSource}
    {post : PostedEvent} : (s.postEvents source post).Agrees := by
  apply hs.congr _ postEvents_mCurrent (same_sensors postEvents_mSensors)
  intro c
  rw [postEvents_caller]
  exact ⟨rfl, rfl⟩

/-- A step to a place outside the loop, from another one. -/
theorem Agrees.goto (hs : s.Agrees) {c : ℕ} {pc : SubHalPc}
    (hmode : pc.mode = (s.caller c).mode)
    (hrest : pc.rest = (s.caller c).rest) : (s.goto c pc).Agrees :=
  hs.congr (caller_goto hmode hrest) rfl (same_sensors rfl)

theorem Agrees.step (hs : s.Agrees) (hok : InTurn s a)
    (hstep : SubHalStep s a t) : t.Agrees := by
  cases hstep
  case refuse => exact hs.reply
  case activate | batch =>
      apply Agrees.reply
      apply hs.update
      intro r
      rfl
  case flush hidle _ _ | inject hidle _ _ =>
      exact hs.goto (by rw [hidle]; rfl) (by rw [hidle]; rfl)
  case setMode => exact agrees_start (hok (by simp [SubHalCall.mode]))
  case initializeHal c proxy _ =>
      exact agrees_start (s := { s with mCallback := some proxy })
        (hok (by simp [SubHalCall.mode]))
  case modeSensor c call mode handle rest hc =>
      have hmode : (s.caller c).mode = some mode := by
        rw [hc]
        rfl
      apply Agrees.advance (t := s.update handle _) hs hmode rfl _ rfl
      intro h r' hfind hrest
      rcases find_update hfind with ⟨hne, hold⟩ | ⟨r, _, _, rfl⟩
      · apply hs.told c mode hmode h r' hold
        rw [hc]
        simpa [SubHalPc.rest, hne] using hrest
      · rfl
  case modeEnd c call mode hc =>
      have hmode : (s.caller c).mode = some mode := by
        rw [hc]
        rfl
      apply Agrees.advance hs hmode rfl _ rfl
      intro h r' hfind hrest
      apply hs.told c mode hmode h r' hfind
      rw [hc]
      exact hrest
  case modeWrite hc => exact hs.finish hc
  case flushPost hc _ | injectPost hc _ =>
      apply Agrees.goto hs.postEvents.reply
      · rw [reply_caller, postEvents_caller, hc]
        rfl
      · rw [reply_caller, postEvents_caller, hc]
        rfl
  case sample =>
      apply Agrees.postEvents
      apply hs.update
      intro r
      rfl
  case finger => exact Agrees.postEvents (hs.update fun _ => take_mMode rfl)
  case worker hworker _ _ => exact hs.update fun _ => take_mMode hworker

theorem agrees_constructed (sensors : List (SensorClass × (ℤ → SensorInfo))) :
    (constructed sensors).Agrees := by
  have hfresh := constructed_fresh sensors
  have hfree : ∀ c, ((constructed sensors).caller c).mode = none := by
    intro c
    rw [hfresh.callers c]
    rfl
  constructor
  · intro c d hc
    exact absurd (hfree c) hc
  · intro _ handle r hfind
    rw [hfresh.mode]
    exact (hfresh.sensors _ (OrderedMap.mem_of_find hfind)).2.1
  · intro c mode hc
    rw [hfree c] at hc
    contradiction

theorem run_agrees {sensors : List (SensorClass × (ℤ → SensorInfo))}
    {as : List SubHalAction}
    (halong : machine.Along InTurn (constructed sensors) as)
    (hrun : machine.run (constructed sensors) as = some t) : t.Agrees := by
  apply Machine.Along.invariant _ (agrees_constructed sensors) halong hrun
  intro s a t hs hok hstep
  exact hs.step hok (step_cases hstep)

/-- While the mode is set by one caller at a time, all sensors have the mode
of the sub-HAL whenever nobody is setting it.  Two callers at once can leave
them with the mode of one and the sub-HAL with that of the other. -/
theorem modes_agree :
    (∀ sensors as t, machine.Along InTurn (constructed sensors) as →
      machine.run (constructed sensors) as = some t →
      (∀ c, (t.caller c).mode = none) →
      ∀ handle r, OrderedMap.find handle t.mSensors = some r →
        r.mMode = t.mCurrentOperationMode) ∧
    (∃ as t r, machine.run shipped as = some t ∧
      (∀ c, t.caller c = .idle) ∧
      OrderedMap.find 1 t.mSensors = some r ∧
      r.mMode ≠ t.mCurrentOperationMode) := by
  constructor
  · intro sensors as t halong hrun hidle
    exact (run_agrees halong hrun).idle hidle
  · refine ⟨[.call 0 (.setOperationMode .dataInjection),
      .call 1 (.setOperationMode .normal), .caller 0, .caller 1, .caller 1,
      .caller 1, .caller 0, .caller 0], _, _, rfl, ?_, rfl, by decide⟩
    intro c
    by_cases h0 : c = 0
    · rw [h0]
      rfl
    · by_cases h1 : c = 1
      · rw [h1]
        rfl
      · simp [goto, reply, update, enter, SubHal.setOperationMode, shipped,
          (constructed_fresh _).callers, h0, h1]

end SubHal

end Samurai
