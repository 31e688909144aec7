import Samurai.ModemConfigModel

/-!
# When the copy is that of the firmware

The version is copied behind the configurations, so that a copy with the
version of the firmware has its configurations too, wherever the device was
stopped.  But `mbn_ota.txt` is copied behind the version.  And a copy that is
being removed can still have its version, which the firmware of that version
takes for a copy of its own when it is installed again.  An `rm` or a `cp` that
fails is not noticed at all.
-/

namespace Samurai

/-- A version that is not empty, and no configuration with the name of one of
the other two files. -/
structure Firmware.Regular (firmware : Firmware) : Prop where
  named : firmware.ver_info ≠ none → cat firmware.ver_info ≠ []
  ver_info_apart : firmware.configs.lookup ver_info_txt = none
  mbn_ota_apart : firmware.configs.lookup mbn_ota_txt = none

namespace ModemConfig

variable {s t : ModemConfig} {a : BootAction} {path : ConfigPath}

/-! ## Copies and firmwares -/

/-- The copy has the version of the firmware. -/
def Claims (s : ModemConfig) (firmware : Firmware) : Prop :=
  firmware.ver_info ≠ none ∧ s.prev_version_info = cat firmware.ver_info

/-- Nothing fails, and no firmware is installed whose version the copy has
already. -/
structure Undisturbed (s : ModemConfig) (a : BootAction) : Prop where
  faultless : a ≠ .fail
  regular : ∀ firmware, a = .install firmware → firmware.Regular
  forward : ∀ firmware, a = .install firmware → ¬ s.Claims firmware

/-- The copy has the configurations of the firmware and no others. -/
def HasConfigs (s : ModemConfig) : Prop :=
  ∀ path : ConfigPath, path.hidden = false → path ≠ ver_info_txt →
    path ≠ mbn_ota_txt →
      s.modem_config.lookup path = s.firmware.configs.lookup path

def HasOta (s : ModemConfig) : Prop :=
  s.modem_config.lookup mbn_ota_txt = s.firmware.mbn_ota

instance (s : ModemConfig) : Decidable s.HasOta :=
  inferInstanceAs
    (Decidable (s.modem_config.lookup mbn_ota_txt = s.firmware.mbn_ota))

/-- The device stops when the copy has the version and not all of
`mbn_ota.txt`. -/
def Halved (s : ModemConfig) (a : BootAction) : Prop :=
  a = .stop ∧ (s.pc = .verInfo ∨ s.pc = .mbnOta) ∧ s.Claims s.firmware ∧
    ¬ s.HasOta

theorem outdated_eq_false_iff :
    s.outdated = false ↔ s.Claims s.firmware := by
  rw [outdated, decide_eq_false_iff_not, not_or, not_not]
  rfl

theorem not_claims_of_missing {firmware : Firmware}
    (hregular : firmware.Regular)
    (hmissing : s.modem_config.lookup ver_info_txt = none) :
    ¬ s.Claims firmware := by
  rintro ⟨hsome, hsame⟩
  apply hregular.named hsome
  rw [← hsame, prev_version_info, hmissing]
  rfl

/-! ## Configurations -/

/-- What holds at each statement.  While the old copy goes and the new
configurations come, no version is there that the firmware would take for its
own. -/
def Stage (s : ModemConfig) : CopyPc → Prop
  | .off | .test => True
  | .remove => ¬ s.Claims s.firmware
  | .configs => ¬ s.Claims s.firmware ∧
      ∀ path : ConfigPath, path.hidden = false →
        s.firmware.configs.lookup path = none →
          s.modem_config.lookup path = none
  | .verInfo => s.HasConfigs ∧
      (s.firmware.ver_info = none → s.modem_config.lookup ver_info_txt = none)
  | .mbnOta | .done => s.HasConfigs ∧ s.prev_version_info = s.cur_version_info

structure Sound (s : ModemConfig) : Prop where
  regular : s.firmware.Regular
  stage : s.Stage s.pc
  claimed : s.Claims s.firmware → s.HasConfigs

theorem lookup_of_apart {firmware : Firmware} {text : List Char}
    (hregular : firmware.Regular)
    (htext : firmware.configs.lookup path = some text) :
    path ≠ ver_info_txt ∧ path ≠ mbn_ota_txt := by
  constructor
  · rintro rfl
    rw [hregular.ver_info_apart] at htext
    contradiction
  · rintro rfl
    rw [hregular.mbn_ota_apart] at htext
    contradiction

/-- The other two files are no configurations. -/
theorem HasConfigs.insert (hs : s.HasConfigs) (text : List Char)
    (hpath : path = ver_info_txt ∨ path = mbn_ota_txt) :
    { s with modem_config := s.modem_config.insert path text }.HasConfigs := by
  intro other hvisible hver hmbn
  have hne : other ≠ path := by
    rcases hpath with rfl | rfl
    · exact hver
    · exact hmbn
  rw [AList.lookup_insert_ne hne]
  exact hs other hvisible hver hmbn

theorem mbn_ota_txt_ne : mbn_ota_txt ≠ ver_info_txt := by
  decide

theorem prev_version_info_insert (hne : path ≠ ver_info_txt)
    (text : List Char) :
    { s with modem_config := s.modem_config.insert path text }.prev_version_info =
      s.prev_version_info := by
  rw [prev_version_info, AList.lookup_insert_ne hne.symm]
  rfl

theorem claims_insert (hne : path ≠ ver_info_txt) (text : List Char)
    (firmware : Firmware) :
    { s with modem_config := s.modem_config.insert path text }.Claims firmware ↔
      s.Claims firmware := by
  rw [Claims, prev_version_info_insert hne]
  rfl

theorem not_claims_erase {firmware : Firmware}
    (hregular : firmware.Regular) (h : ¬ s.Claims firmware)
    (path : ConfigPath) :
    ¬ { s with modem_config := s.modem_config.erase path }.Claims firmware := by
  by_cases hpath : path = ver_info_txt
  · apply not_claims_of_missing hregular
    rw [hpath]
    exact AList.lookup_erase ver_info_txt s.modem_config
  · rw [Claims, prev_version_info, AList.lookup_erase_ne (Ne.symm hpath)]
    exact h

theorem hasConfigs_of_copied
    (hempty : ∀ path : ConfigPath, path.hidden = false →
      s.firmware.configs.lookup path = none →
        s.modem_config.lookup path = none)
    (hcopied : ∀ path : ConfigPath, path.hidden = false →
      s.firmware.configs.lookup path ≠ none →
        s.modem_config.lookup path = s.firmware.configs.lookup path) :
    s.HasConfigs := by
  intro path hvisible _ _
  by_cases hnone : s.firmware.configs.lookup path = none
  · rw [hnone]
    exact hempty path hvisible hnone
  · exact hcopied path hvisible hnone

theorem prev_version_info_of_named
    (hunnamed : s.firmware.ver_info = none →
      s.modem_config.lookup ver_info_txt = none)
    (hnamed : s.firmware.ver_info ≠ none →
      s.modem_config.lookup ver_info_txt = s.firmware.ver_info) :
    s.prev_version_info = s.cur_version_info := by
  rw [prev_version_info, cur_version_info]
  by_cases hnone : s.firmware.ver_info = none
  · rw [hunnamed hnone, hnone]
  · rw [hnamed hnone]

theorem Sound.step (hs : s.Sound) (hok : Undisturbed s a)
    (hstep : CopyStep s a t) : t.Sound := by
  obtain ⟨hregular, hstage, hclaimed⟩ := hs
  cases hstep with
  | boot hpc => exact ⟨hregular, trivial, hclaimed⟩
  | outdated hpc houtdated =>
      refine ⟨hregular, ?_, hclaimed⟩
      intro hclaims
      have hcurrent : s.outdated = false := outdated_eq_false_iff.mpr hclaims
      rw [hcurrent] at houtdated
      contradiction
  | current hpc houtdated =>
      have hclaims := outdated_eq_false_iff.mp houtdated
      exact ⟨hregular, ⟨hclaimed hclaims, hclaims.2⟩, hclaimed⟩
  | emptied hpc hempty =>
      rw [hpc] at hstage
      exact ⟨hregular, ⟨hstage, fun path hvisible _ => hempty path hvisible⟩,
        hclaimed⟩
  | copied hpc hcopied =>
      rw [hpc] at hstage
      refine ⟨hregular, ⟨hasConfigs_of_copied hstage.2 hcopied, ?_⟩, hclaimed⟩
      intro _
      exact hstage.2 ver_info_txt rfl hregular.ver_info_apart
  | named hpc hnamed =>
      rw [hpc] at hstage
      exact ⟨hregular, ⟨hstage.1, prev_version_info_of_named hstage.2 hnamed⟩,
        hclaimed⟩
  | ended hpc _ =>
      rw [hpc] at hstage
      exact ⟨hregular, hstage, hclaimed⟩
  | failed pc _ => exact absurd rfl hok.faultless
  | remove path hpc _ =>
      rw [hpc] at hstage
      have hnot := not_claims_erase hregular hstage path
      refine ⟨hregular, ?_, fun hclaims => absurd hclaims hnot⟩
      rw [hpc]
      exact hnot
  | copyConfig path length text hpc htext =>
      rw [hpc] at hstage
      have hapart := lookup_of_apart hregular htext
      have hnot := (claims_insert hapart.1 (text.take length)
        s.firmware).not.mpr hstage.1
      refine ⟨hregular, ?_, fun hclaims => absurd hclaims hnot⟩
      rw [hpc]
      refine ⟨hnot, ?_⟩
      intro other hvisible hnone
      have hne : other ≠ path := by
        rintro rfl
        rw [htext] at hnone
        contradiction
      rw [AList.lookup_insert_ne hne]
      exact hstage.2 other hvisible hnone
  | copyVersion length text hpc htext =>
      rw [hpc] at hstage
      have hconfigs := hstage.1.insert (text.take length) (.inl rfl)
      refine ⟨hregular, ?_, fun _ => hconfigs⟩
      rw [hpc]
      refine ⟨hconfigs, ?_⟩
      intro hnone
      rw [htext] at hnone
      contradiction
  | copyOta length text hpc _ =>
      rw [hpc] at hstage
      have hconfigs := hstage.1.insert (text.take length) (.inr rfl)
      refine ⟨hregular, ?_, fun _ => hconfigs⟩
      rw [hpc]
      refine ⟨hconfigs, ?_⟩
      have hprev := prev_version_info_insert (s := s) mbn_ota_txt_ne
        (text.take length)
      exact hprev.trans hstage.2
  | stop => exact ⟨hregular, trivial, hclaimed⟩
  | install firmware hpc =>
      refine ⟨hok.regular firmware rfl, ?_,
        fun hclaims => absurd hclaims (hok.forward firmware rfl)⟩
      rw [hpc]
      trivial

theorem initial_sound (hs : machine.Initial s)
    (hregular : s.firmware.Regular) : s.Sound := by
  obtain ⟨hempty, hpc⟩ := hs
  refine ⟨hregular, ?_, ?_⟩
  · rw [hpc]
    trivial
  · intro hclaims
    refine absurd hclaims (not_claims_of_missing hregular ?_)
    rw [hempty]
    rfl

/-! ## `mbn_ota.txt` -/

/-- What holds of `mbn_ota.txt` at each statement. -/
def OtaStage (s : ModemConfig) : CopyPc → Prop
  | .off | .test | .remove | .configs => s.Claims s.firmware → s.HasOta
  | .verInfo | .mbnOta => s.firmware.mbn_ota = none →
      s.modem_config.lookup mbn_ota_txt = none
  | .done => s.HasOta

/-- A device that is off has the file, or it was stopped too early. -/
theorem otaStage_off (hs : s.OtaStage s.pc) (hok : ¬ s.Halved .stop)
    (hclaims : s.Claims s.firmware) : s.HasOta := by
  by_contra hnot
  cases hpc : s.pc with
  | off | test | remove | configs =>
      rw [hpc] at hs
      exact hnot (hs hclaims)
  | verInfo => exact hok ⟨rfl, .inl hpc, hclaims, hnot⟩
  | mbnOta => exact hok ⟨rfl, .inr hpc, hclaims, hnot⟩
  | done =>
      rw [hpc] at hs
      exact hnot hs

theorem otaStage_step (hsound : s.Sound) (hs : s.OtaStage s.pc)
    (hok : Undisturbed s a) (hwhole : ¬ s.Halved a) (hstep : CopyStep s a t) :
    t.OtaStage t.pc := by
  have hstage := (hsound.step hok hstep).stage
  cases hstep with
  | boot hpc =>
      rw [hpc] at hs
      exact hs
  | outdated hpc _ =>
      rw [hpc] at hs
      exact hs
  | current hpc houtdated =>
      rw [hpc] at hs
      exact hs (outdated_eq_false_iff.mp houtdated)
  | emptied hpc _ =>
      rw [hpc] at hs
      exact hs
  | copied hpc _ =>
      have hbefore := hsound.stage
      rw [hpc] at hbefore
      intro _
      exact hbefore.2 mbn_ota_txt rfl hsound.regular.mbn_ota_apart
  | named hpc _ =>
      rw [hpc] at hs
      exact hs
  | ended hpc hended =>
      rw [hpc] at hs
      change s.HasOta
      by_cases hnone : s.firmware.mbn_ota = none
      · rw [HasOta, hs hnone, hnone]
      · exact hended hnone
  | failed pc _ => exact absurd rfl hok.faultless
  | remove path hpc _ =>
      rw [hpc] at hstage ⊢
      exact fun hclaims => absurd hclaims hstage
  | copyConfig path length text hpc _ =>
      rw [hpc] at hstage ⊢
      exact fun hclaims => absurd hclaims hstage.1
  | copyVersion length text hpc _ =>
      rw [hpc] at hs ⊢
      intro hnone
      rw [AList.lookup_insert_ne mbn_ota_txt_ne]
      exact hs hnone
  | copyOta length text hpc htext =>
      rw [hpc]
      intro hnone
      rw [htext] at hnone
      contradiction
  | stop => exact fun hclaims => otaStage_off (s := s) hs hwhole hclaims
  | install firmware hpc =>
      rw [hpc]
      exact fun hclaims => absurd hclaims (hok.forward firmware rfl)

theorem initial_otaStage (hs : machine.Initial s)
    (hregular : s.firmware.Regular) : s.OtaStage s.pc := by
  obtain ⟨hempty, hpc⟩ := hs
  rw [hpc]
  intro hclaims
  refine absurd hclaims (not_claims_of_missing hregular ?_)
  rw [hempty]
  rfl

/-! ## Runs -/

section Runs

variable {as : List BootAction}

theorem run_sound (hs : machine.Initial s) (hregular : s.firmware.Regular)
    (halong : machine.Along Undisturbed s as)
    (hrun : machine.run s as = some t) : t.Sound := by
  apply Machine.Along.invariant _ (initial_sound hs hregular) halong hrun
  intro s a t hs hok hstep
  exact hs.step hok (step_cases hstep)

theorem run_otaStage (hs : machine.Initial s) (hregular : s.firmware.Regular)
    (halong : machine.Along Undisturbed s as)
    (hwhole : machine.Along (fun s a => ¬ s.Halved a) s as)
    (hrun : machine.run s as = some t) : t.OtaStage t.pc := by
  have hboth : t.Sound ∧ t.OtaStage t.pc := by
    apply Machine.Along.invariant (I := fun s => s.Sound ∧ s.OtaStage s.pc) _
      ⟨initial_sound hs hregular, initial_otaStage hs hregular⟩
      (halong.and hwhole) hrun
    intro s a t hs hok hstep
    exact ⟨hs.1.step hok.1 (step_cases hstep),
      otaStage_step hs.1 hs.2 hok.1 hok.2 (step_cases hstep)⟩
  exact hboth.2

end Runs

def carrier : ConfigPath := ["carrier".toList]

def firstFirmware : Firmware where
  ver_info := some "1\n".toList
  configs := AList.singleton carrier ['a']
  mbn_ota := some ['m']

def secondFirmware : Firmware :=
  { firstFirmware with ver_info := some "2\n".toList }

def fresh : ModemConfig := ⟨firstFirmware, ∅, .off⟩

/-- The script on a new data partition. -/
def firstBoot : List BootAction :=
  [.boot, .next, .next, .copy carrier 1, .next, .copy ver_info_txt 2, .next,
    .copy mbn_ota_txt 1, .next]

/-- The device stops after the version, and starts again. -/
def halvedRun : List BootAction :=
  [.boot, .next, .next, .copy carrier 1, .next, .copy ver_info_txt 2, .next,
    .stop, .boot, .next]

/-- The device stops while the copy of the first firmware is removed for the
second, and the first is installed again. -/
def returnedRun : List BootAction :=
  firstBoot ++ [.stop, .install secondFirmware, .boot, .next,
    .remove carrier, .stop, .install firstFirmware, .boot, .next]

/-- The configurations cannot be written, and the version can. -/
def failedRun : List BootAction :=
  [.boot, .next, .next, .fail, .copy ver_info_txt 2, .next,
    .copy mbn_ota_txt 1, .next]

theorem not_hasConfigs_of_missing
    (hmissing : s.modem_config.lookup carrier = none)
    (hsome : s.firmware.configs.lookup carrier ≠ none) : ¬ s.HasConfigs := by
  intro hconfigs
  have hcarrier := hconfigs carrier (by decide) (by decide) (by decide)
  rw [hmissing] at hcarrier
  exact hsome hcarrier.symm

/-- The first firmware is copied, and then the second. -/
def updatedRun : List BootAction :=
  firstBoot ++ [.stop, .install secondFirmware, .boot, .next, .remove carrier,
    .remove ver_info_txt, .remove mbn_ota_txt, .next, .copy carrier 1, .next,
    .copy ver_info_txt 2, .next, .copy mbn_ota_txt 1, .next]

instance (s : ModemConfig) (firmware : Firmware) :
    Decidable (s.Claims firmware) :=
  inferInstanceAs (Decidable (_ ∧ _))

instance (firmware : Firmware) : Decidable firmware.Regular :=
  decidable_of_iff
    ((firmware.ver_info ≠ none → cat firmware.ver_info ≠ []) ∧
      firmware.configs.lookup ver_info_txt = none ∧
      firmware.configs.lookup mbn_ota_txt = none)
    ⟨fun h => ⟨h.1, h.2.1, h.2.2⟩,
      fun h => ⟨h.named, h.ver_info_apart, h.mbn_ota_apart⟩⟩

def checkUndisturbed (s : ModemConfig) : BootAction → Bool
  | .fail => false
  | .install firmware => decide (firmware.Regular ∧ ¬ s.Claims firmware)
  | _ => true

theorem undisturbed_of_check (hcheck : s.checkUndisturbed a = true) :
    Undisturbed s a where
  faultless := by
    rintro rfl
    contradiction
  regular := by
    rintro firmware rfl
    exact (of_decide_eq_true hcheck).1
  forward := by
    rintro firmware rfl
    exact (of_decide_eq_true hcheck).2

def checkWhole (s : ModemConfig) : BootAction → Bool
  | .stop => s.pc = .done
  | _ => true

theorem not_halved_of_check (hcheck : s.checkWhole a = true) :
    ¬ s.Halved a := by
  rintro ⟨rfl, hpc, -, -⟩
  have hdone : s.pc = .done := of_decide_eq_true hcheck
  rw [hdone] at hpc
  rcases hpc with hpc | hpc
  · contradiction
  · contradiction

end ModemConfig

end Samurai
