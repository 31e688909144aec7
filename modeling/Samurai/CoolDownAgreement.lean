import Samurai.CoolDownModel

/-!
# The three copies of the level

`saveAndApply` saves the level, tries to write the node and forgets whether it
could; `onPreferenceChange` then shows the level and accepts it.  So the three
copies agree after a change exactly if the node can be written, or there was
nothing to change.  A restored level is always the saved one, where it can be
written at all.
-/

namespace Samurai

namespace ChargingSpeed

/-- The node that is picked can be written. -/
def Writable (s : ChargingSpeed) : Prop :=
  ∃ path, s.getCoolDownPath = some path ∧ (s.files path).canWrite = true

/-- The node that is picked holds `level`. -/
def NodeHolds (s : ChargingSpeed) (level : ℤ) : Prop :=
  ∃ path, s.getCoolDownPath = some path ∧ (s.files path).content = level

def shown (s : ChargingSpeed) : Option String :=
  s.mSpeedPref.map ListPreference.value

/-- The saved level is shown and in the node. -/
def Agrees (s : ChargingSpeed) : Prop :=
  s.NodeHolds s.loadSaved ∧ s.shown = some (valueOf s.loadSaved)

/-- After an accepted change the copies agree, a change that cannot be written
leaves the saved and the shown level, and a broadcast restores the saved
level where the node can be written. -/
def InForce (s : ChargingSpeed) (e : ChargingEvent) : Prop :=
  ∀ t, s.step e = some t →
    match e with
    | .select newValue =>
        ((s.onPreferenceChange true newValue).1 = true → t.Agrees) ∧
          (¬ s.Writable → t.loadSaved = s.loadSaved ∧ t.shown = s.shown)
    | .broadcast (some action) =>
        handles action = true → t.Writable → t.NodeHolds t.loadSaved
    | _ => True

/-- A change finds the node writable, or finds the selected level saved, shown
and in the node already. -/
def ChangeApplies (s : ChargingSpeed) (e : ChargingEvent) : Prop :=
  ∀ newValue, e = .select newValue →
    s.Writable ∨
      (parseInt newValue = some s.loadSaved ∧ s.shown = some newValue ∧
        s.NodeHolds s.loadSaved)

variable {s t : ChargingSpeed} {e : ChargingEvent} {path : CoolDownPath}
  {level : ℤ}

/-! ## Levels of the list -/

theorem listed_level {newValue : String}
    (hlisted : newValue ∈ charging_speed_values) :
    ∃ level, parseInt newValue = some level ∧ 0 ≤ level ∧
      valueOf level = newValue := by
  simp only [charging_speed_values, List.mem_cons, List.not_mem_nil,
    or_false] at hlisted
  rcases hlisted with rfl | rfl | rfl | rfl
  · exact ⟨0, by decide, by decide, by decide⟩
  · exact ⟨2, by decide, by decide, by decide⟩
  · exact ⟨3, by decide, by decide, by decide⟩
  · exact ⟨5, by decide, by decide, by decide⟩

def SavedValid (s : ChargingSpeed) : Prop :=
  ∀ level, s.secure = some level → 0 ≤ level

theorem SavedValid.loadSaved (hs : s.SavedValid) : 0 ≤ s.loadSaved := by
  unfold ChargingSpeed.loadSaved
  cases hsecure : s.secure with
  | none => exact le_refl 0
  | some level => exact hs level hsecure

/-! ## Writing the node -/

@[simp] theorem setContent_exists (q : CoolDownPath) :
    ((s.setContent path level).files q).exists_ = (s.files q).exists_ := by
  by_cases hq : q = path
  · subst hq
    simp [setContent]
  · simp [setContent, hq]

@[simp] theorem setContent_canWrite (q : CoolDownPath) :
    ((s.setContent path level).files q).canWrite = (s.files q).canWrite := by
  by_cases hq : q = path
  · subst hq
    simp [setContent]
  · simp [setContent, hq]

@[simp] theorem getCoolDownPath_setContent :
    (s.setContent path level).getCoolDownPath = s.getCoolDownPath := by
  unfold getCoolDownPath
  simp only [setContent_exists, setContent_canWrite]

theorem writable_setContent :
    (s.setContent path level).Writable ↔ s.Writable := by
  unfold Writable
  simp only [getCoolDownPath_setContent, setContent_canWrite]

theorem writeCoolDown_of_writable (hlevel : 0 ≤ level) (hs : s.Writable) :
    ∃ path, s.getCoolDownPath = some path ∧
      s.writeCoolDown level = (true, s.setContent path level) := by
  rcases hs with ⟨path, hpath, hwrite⟩
  refine ⟨path, hpath, ?_⟩
  unfold writeCoolDown
  rw [if_neg (not_lt.mpr hlevel), hpath]
  simp only [hwrite, if_true]

theorem writeCoolDown_of_not_writable (hs : ¬ s.Writable) :
    s.writeCoolDown level = (false, s) := by
  unfold writeCoolDown
  cases hpath : s.getCoolDownPath with
  | none => rfl
  | some path =>
      have hwrite : (s.files path).canWrite = false := by
        by_contra hwrite
        exact hs ⟨path, hpath, by simpa using hwrite⟩
      simp [hwrite]

theorem nodeHolds_setContent (hpath : s.getCoolDownPath = some path) :
    (s.setContent path level).NodeHolds level :=
  ⟨path, by rw [getCoolDownPath_setContent, hpath], by simp [setContent]⟩

theorem writeCoolDown_cases (level : ℤ) :
    (s.writeCoolDown level).2 = s ∨
      ∃ path written,
        (s.writeCoolDown level).2 = s.setContent path written := by
  unfold writeCoolDown
  cases hpath : s.getCoolDownPath with
  | none => exact Or.inl rfl
  | some path =>
      cases hwrite : (s.files path).canWrite with
      | false =>
          left
          simp [hwrite]
      | true =>
          right
          exact ⟨path, if level < 0 then 0 else level, by simp [hwrite]⟩

theorem writable_writeCoolDown :
    (s.writeCoolDown level).2.Writable ↔ s.Writable := by
  rcases writeCoolDown_cases (s := s) level with hsame | ⟨path, written, hset⟩
  · rw [hsame]
  · rw [hset]
    exact writable_setContent

@[simp] theorem secure_writeCoolDown :
    (s.writeCoolDown level).2.secure = s.secure := by
  rcases writeCoolDown_cases (s := s) level with hsame | ⟨path, written, hset⟩
  · rw [hsame]
  · rw [hset]
    rfl

/-! ## Broadcasts -/

theorem isSupported_of_writable (hs : s.Writable) : s.isSupported = true := by
  rcases hs with ⟨path, hpath, _⟩
  have hexists : (s.files path).exists_ = true := by
    have hfound := hpath
    unfold getCoolDownPath at hfound
    rcases Option.or_eq_some_iff.mp hfound with hfirst | ⟨_, hsecond⟩
    · have hboth := List.find?_some hfirst
      simp only [Bool.and_eq_true] at hboth
      exact hboth.1
    · simpa using List.find?_some hsecond
  unfold isSupported
  rw [hpath]
  exact hexists

@[simp] theorem secure_restore : s.restore.secure = s.secure := by
  unfold restore
  split_ifs
  · rfl
  · exact secure_writeCoolDown

theorem writable_restore : s.restore.Writable ↔ s.Writable := by
  unfold restore
  split_ifs
  · rfl
  · exact writable_writeCoolDown

theorem nodeHolds_restore (hs : s.SavedValid) (hwrite : s.Writable) :
    s.restore.NodeHolds s.restore.loadSaved := by
  have hsupported := isSupported_of_writable hwrite
  have hsaved : s.restore.loadSaved = s.loadSaved := by
    unfold loadSaved
    rw [secure_restore]
  rcases writeCoolDown_of_writable hs.loadSaved hwrite with ⟨path, hpath, hrun⟩
  have hrestore : s.restore = s.setContent path s.loadSaved := by
    unfold restore
    rw [hsupported, hrun]
    rfl
  rw [hsaved, hrestore]
  exact nodeHolds_setContent hpath

theorem inForce_broadcast (hs : s.SavedValid) (action : Option String) :
    s.InForce (.broadcast action) := by
  intro t hstep
  cases action with
  | none => trivial
  | some action =>
      intro hhandled hwrite
      have ht : s.restore = t := by
        simpa [step, onReceive, hhandled] using hstep
      subst ht
      exact nodeHolds_restore hs (writable_restore.mp hwrite)

/-! ## Changes of the preference -/

@[simp] theorem setValue_setValue (v w : String) :
    (s.setValue v).setValue w = s.setValue w := by
  simp [setValue, Function.comp_def]

@[simp] theorem setValue_setSummary (m : PreferenceSummary) (v : String) :
    (s.setSummary m).setValue v = (s.setValue v).setSummary m := by
  simp [setValue, setSummary, Function.comp_def]

@[simp] theorem loadSaved_setSummary (m : PreferenceSummary) :
    (s.setSummary m).loadSaved = s.loadSaved := rfl

@[simp] theorem shown_setSummary (m : PreferenceSummary) :
    (s.setSummary m).shown = s.shown := by
  simp [shown, setSummary, Function.comp_def]

theorem nodeHolds_setSummary (m : PreferenceSummary) :
    (s.setSummary m).NodeHolds level ↔ s.NodeHolds level :=
  Iff.rfl

@[simp] theorem loadSaved_setValue (v : String) :
    (s.setValue v).loadSaved = s.loadSaved := rfl

theorem nodeHolds_setValue (v : String) :
    (s.setValue v).NodeHolds level ↔ s.NodeHolds level :=
  Iff.rfl

theorem shown_setValue {pref : ListPreference} (v : String)
    (hpref : s.mSpeedPref = some pref) : (s.setValue v).shown = some v := by
  simp [shown, setValue, hpref]

@[simp] theorem mSpeedPref_saveAndApply :
    (s.saveAndApply level).mSpeedPref = s.mSpeedPref := by
  unfold saveAndApply
  rcases writeCoolDown_cases (s := { s with secure := some level }) level with
    hsame | ⟨path, written, hset⟩
  · simp [hsame]
  · simp [hset, setContent]

@[simp] theorem loadSaved_saveAndApply :
    (s.saveAndApply level).loadSaved = level := by
  unfold saveAndApply loadSaved
  simp

theorem nodeHolds_saveAndApply (hlevel : 0 ≤ level) (hs : s.Writable) :
    (s.saveAndApply level).NodeHolds level := by
  have hsaved : Writable { s with secure := some level } := hs
  rcases writeCoolDown_of_writable hlevel hsaved with ⟨path, hpath, hrun⟩
  unfold saveAndApply
  simp only [hrun]
  exact nodeHolds_setContent hpath

theorem nodeHolds_saveAndApply_of_not_writable (hs : ¬ s.Writable) (l : ℤ) :
    (s.saveAndApply level).NodeHolds l ↔ s.NodeHolds l := by
  have hsaved : ¬ Writable { s with secure := some level } := hs
  unfold saveAndApply
  simp only [writeCoolDown_of_not_writable hsaved]
  exact Iff.rfl

theorem onPreferenceChange_listed {newValue : String}
    (hparse : parseInt newValue = some level)
    (hvalue : valueOf level = newValue) :
    s.onPreferenceChange true newValue =
      (true, ((s.saveAndApply level).setValue newValue).setSummary
        .selectedEntry) := by
  unfold onPreferenceChange
  simp only [hparse, hvalue, if_true]

/-- An entry of the list is saved and shown, whether it was written or not. -/
theorem step_select {newValue : String}
    (hstep : s.step (.select newValue) = some t) :
    ∃ level, parseInt newValue = some level ∧ 0 ≤ level ∧
      valueOf level = newValue ∧
      t = ((s.saveAndApply level).setValue newValue).setSummary
        .selectedEntry ∧
      t.shown = some newValue := by
  cases hpref : s.mSpeedPref with
  | none => simp [step, hpref] at hstep
  | some pref =>
      simp only [step, hpref] at hstep
      split_ifs at hstep with hready
      simp only [Bool.and_eq_true, decide_eq_true_eq] at hready
      rcases listed_level hready.2 with ⟨level, hparse, hlevel, hvalue⟩
      have ht : t = ((s.saveAndApply level).setValue newValue).setSummary
          .selectedEntry := by
        have hselect := Option.some.inj hstep
        simpa [select, onPreferenceChange_listed hparse hvalue] using
          hselect.symm
      refine ⟨level, hparse, hlevel, hvalue, ht, ?_⟩
      rw [ht, shown_setSummary]
      exact shown_setValue newValue (mSpeedPref_saveAndApply.trans hpref)

theorem agrees_select {newValue : String} (hs : s.Writable)
    (hstep : s.step (.select newValue) = some t) : t.Agrees := by
  rcases step_select hstep with ⟨level, _, hlevel, hvalue, ht, hshown⟩
  have hsaved : t.loadSaved = level := by
    rw [ht, loadSaved_setSummary, loadSaved_setValue, loadSaved_saveAndApply]
  constructor
  · rw [hsaved, ht, nodeHolds_setSummary, nodeHolds_setValue]
    exact nodeHolds_saveAndApply hlevel hs
  · rw [hsaved, hvalue]
    exact hshown

theorem inForce_select_iff {newValue : String}
    (hstep : s.step (.select newValue) = some t) :
    s.InForce (.select newValue) ↔ s.ChangeApplies (.select newValue) := by
  by_cases hs : s.Writable
  · constructor
    · intro _ _ _
      exact Or.inl hs
    · intro _ u hu
      exact ⟨fun _ => agrees_select hs hu, fun hnot => absurd hs hnot⟩
  · rcases step_select hstep with ⟨level, hparse, hlevel, hvalue, ht, hshown⟩
    have hsaved : t.loadSaved = level := by
      rw [ht, loadSaved_setSummary, loadSaved_setValue, loadSaved_saveAndApply]
    have hnode (l : ℤ) : t.NodeHolds l ↔ s.NodeHolds l := by
      rw [ht, nodeHolds_setSummary, nodeHolds_setValue,
        nodeHolds_saveAndApply_of_not_writable hs]
    constructor
    · intro hforce v hv
      cases hv
      rcases hforce t hstep with ⟨hagrees, hkept⟩
      have haccepted : (s.onPreferenceChange true newValue).1 = true := by
        rw [onPreferenceChange_listed hparse hvalue]
      rcases hkept hs with ⟨hsame, hsameShown⟩
      refine Or.inr ⟨?_, ?_, ?_⟩
      · rw [hparse, ← hsame, hsaved]
      · rw [← hsameShown, hshown]
      · rw [← hnode, ← hsame]
        exact (hagrees haccepted).1
    · intro happlies u hu
      have hsame : t = u := Option.some.inj (hstep.symm.trans hu)
      subst hsame
      rcases happlies newValue rfl with hwrite | ⟨hlevelSaved, hshownAlready, hheld⟩
      · exact absurd hwrite hs
      · have hlevelEq : level = s.loadSaved := by
          rw [hparse] at hlevelSaved
          exact Option.some.inj hlevelSaved
        refine ⟨fun _ => ⟨?_, ?_⟩, fun _ => ⟨?_, ?_⟩⟩
        · rw [hsaved, hnode, hlevelEq]
          exact hheld
        · rw [hsaved, hvalue, hshown]
        · rw [hsaved, hlevelEq]
        · rw [hshown, hshownAlready]

/-! ## Runs -/

@[simp] theorem secure_onCreatePreferences :
    s.onCreatePreferences.secure = s.secure := by
  unfold onCreatePreferences
  cases (charging_speed_preferences s.stored).find? fun pref =>
      pref.key = PREF_KEY with
  | none => rfl
  | some pref =>
      cases hsupported : s.isSupported with
      | false => simp
      | true => simp [setValue]

@[simp] theorem secure_onReceive (action : Option String) :
    (s.onReceive action).secure = s.secure := by
  cases action with
  | none => rfl
  | some action =>
      simp only [onReceive]
      split_ifs
      · exact secure_restore
      · rfl

theorem savedValid_step (hs : s.SavedValid) (hstep : s.step e = some t) :
    t.SavedValid := by
  intro l hl
  cases e with
  | openFragment =>
      have ht : s.onCreatePreferences = t := by simpa [step] using hstep
      subst ht
      exact hs l (by simpa using hl)
  | select newValue =>
      rcases step_select hstep with ⟨level, _, hlevel, _, ht, _⟩
      have hsaved : t.loadSaved = level := by
        rw [ht, loadSaved_setSummary, loadSaved_setValue, loadSaved_saveAndApply]
      have hlevelEq : l = level := by
        simpa [loadSaved, hl] using hsaved
      rw [hlevelEq]
      exact hlevel
  | broadcast action =>
      have ht : s.onReceive action = t := by simpa [step] using hstep
      subst ht
      exact hs l (by simpa using hl)
  | kernelReset path level =>
      cases hstep
      exact hs l hl
  | pathChange path exists_ canWrite =>
      cases hstep
      exact hs l hl

theorem inForce_iff_step (hs : s.SavedValid) (hstep : s.step e = some t) :
    s.InForce e ↔ s.ChangeApplies e := by
  cases e with
  | select newValue => exact inForce_select_iff hstep
  | broadcast action =>
      constructor
      · intro _ newValue h
        contradiction
      · intro _
        exact inForce_broadcast hs action
  | openFragment | kernelReset | pathChange =>
      constructor
      · intro _ newValue h
        contradiction
      · intro _ _ _
        trivial

theorem savedValid_initial (hs : machine.Initial s) : s.SavedValid := by
  intro l hl
  rcases hs.2 l hl with ⟨newValue, hlisted, hparse⟩
  rcases listed_level hlisted with ⟨level, hlevelParse, hlevel, _⟩
  rw [hlevelParse] at hparse
  rw [← Option.some.inj hparse]
  exact hlevel

/-- Accepted and restored levels are in force along a run if and only if every
change of the preference applies. -/
theorem inForce_iff (es : List ChargingEvent) (hs : machine.Initial s)
    (hrun : machine.run s es = some t) :
    machine.Along InForce s es ↔ machine.Along ChangeApplies s es :=
  Machine.along_congr (M := machine)
    (fun _ _ _ hs hstep => savedValid_step hs hstep)
    (fun _ _ _ hs hstep => inForce_iff_step hs hstep)
    (savedValid_initial hs) hrun

/-- The first path is there and can be written; nothing was saved. -/
def fresh : ChargingSpeed where
  files path := ⟨path = .powerSupply, path = .powerSupply, 0⟩
  secure := none
  stored := "0"
  mSpeedPref := none

theorem fresh_initial : machine.Initial fresh :=
  ⟨rfl, fun level h => by cases h⟩

theorem inForce_iff_written :
    machine.Initial fresh ∧
      (machine.run fresh [.openFragment, .select "3"]).isSome = true ∧
      (machine.Along InForce fresh [.openFragment, .select "3"] ↔
        machine.Along ChangeApplies fresh [.openFragment, .select "3"]) :=
  ⟨fresh_initial, rfl,
    inForce_iff [.openFragment, .select "3"] fresh_initial rfl⟩

/-- The node is made read-only while the fragment is open. -/
def madeReadOnly : List ChargingEvent :=
  [.openFragment, .pathChange .powerSupply true false, .select "3"]

theorem select_saved_not_written :
    ¬ ∀ s es t, machine.Initial s → machine.run s es = some t →
      machine.Along InForce s es := by
  intro hclaim
  have halong := hclaim fresh madeReadOnly _ fresh_initial rfl
  have hforce := ((halong.2 _ rfl).2 _ rfl).1 _ rfl
  rcases (hforce.1 rfl).1 with ⟨path, hpath, hheld⟩
  cases path with
  | powerSupply => exact absurd hheld (by decide)
  | oplusChg => exact absurd hpath (by decide)

end ChargingSpeed

end Samurai
