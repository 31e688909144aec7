import Mathlib.Data.List.AList
import Mathlib.Data.List.DropRight
import Samurai.LabelledRuns

/-!
# The copy of the modem configuration

At boot `init.qcom.sh` replaces the copy of the modem configuration on the
data partition if the firmware has another version.  A directory is the table
of the files below it.  `rm` and `cp` take the files in some order and write a
file in parts, and the device can stop between any two of these.  Where one of
them fails, whatever it has done by then, the script goes on.
-/

namespace Samurai

abbrev ConfigPath := List (List Char)

abbrev ConfigFiles := AList fun _ : ConfigPath => List Char

/-- What `*` leaves out. -/
def ConfigPath.hidden (path : ConfigPath) : Bool :=
  path.head?.any fun name => name.head? = some '.'

def ver_info_txt : ConfigPath := ["ver_info.txt".toList]

def mbn_ota_txt : ConfigPath := ["mbn_ota.txt".toList]

/-- What the shell makes of `cat`; a file that is missing gives nothing. -/
def cat (file : Option (List Char)) : List Char :=
  (file.getD []).rdropWhile (· = '\n')

/-- The files of `/vendor/firmware_mnt` that the script reads. -/
structure Firmware where
  ver_info : Option (List Char)
  configs : ConfigFiles
  mbn_ota : Option (List Char)

/-- The statement the script is at. -/
inductive CopyPc where
  | off
  | test
  | remove
  | configs
  | verInfo
  | mbnOta
  | done
  deriving DecidableEq, Repr

/-- The statement behind an `rm` or a `cp`. -/
def CopyPc.behind : CopyPc → Option CopyPc
  | .remove => some .configs
  | .configs => some .verInfo
  | .verInfo => some .mbnOta
  | .mbnOta => some .done
  | .off | .test | .done => none

/-- `/data/vendor/modem_config`, the firmware and the script. -/
structure ModemConfig where
  firmware : Firmware
  modem_config : ConfigFiles
  pc : CopyPc

/-- `next` is the end of a statement that has done all of its work, `fail` that
of one that has not.  `stop` can come at any time; a firmware is installed while
the device is off. -/
inductive BootAction where
  | boot
  | next
  | fail
  | remove (path : ConfigPath)
  | copy (path : ConfigPath) (length : ℕ)
  | stop
  | install (firmware : Firmware)

namespace ModemConfig

def prev_version_info (s : ModemConfig) : List Char :=
  cat (s.modem_config.lookup ver_info_txt)

def cur_version_info (s : ModemConfig) : List Char :=
  cat s.firmware.ver_info

/-- The test of the script. -/
def outdated (s : ModemConfig) : Bool :=
  s.firmware.ver_info = none ∨ s.prev_version_info ≠ s.cur_version_info

/-- The file that the `cp` the script is at copies to `path`. -/
def source (s : ModemConfig) (path : ConfigPath) : Option (List Char) :=
  match s.pc with
  | .configs => if path.hidden then none else s.firmware.configs.lookup path
  | .verInfo => if path = ver_info_txt then s.firmware.ver_info else none
  | .mbnOta => if path = mbn_ota_txt then s.firmware.mbn_ota else none
  | _ => none

def arrived (s : ModemConfig) (path : ConfigPath) : Bool :=
  s.source path = none ∨ s.modem_config.lookup path = s.source path

/-- Where the script is after the statement it is at, if that has ended. -/
def next (s : ModemConfig) : Option CopyPc :=
  match s.pc with
  | .off => none
  | .test => some (if s.outdated then .remove else .done)
  | .remove =>
      if s.modem_config.keys.all ConfigPath.hidden then some .configs else none
  | .configs =>
      if s.firmware.configs.keys.all s.arrived then some .verInfo else none
  | .verInfo => if s.arrived ver_info_txt then some .mbnOta else none
  | .mbnOta => if s.arrived mbn_ota_txt then some .done else none
  | .done => none

def step (s : ModemConfig) : BootAction → Option ModemConfig
  | .boot => if s.pc = .off then some { s with pc := .test } else none
  | .next => s.next.map fun pc => { s with pc }
  | .fail => s.pc.behind.map fun pc => { s with pc }
  | .remove path =>
      if s.pc = .remove ∧ ¬ path.hidden then
        some { s with modem_config := s.modem_config.erase path }
      else none
  | .copy path length =>
      (s.source path).map fun text =>
        { s with modem_config := s.modem_config.insert path (text.take length) }
  | .stop => some { s with pc := .off }
  | .install firmware =>
      if s.pc = .off then some { s with firmware } else none

/-- The data partition is new. -/
def Initial (s : ModemConfig) : Prop :=
  s.modem_config = ∅ ∧ s.pc = .off

def machine : Machine ModemConfig BootAction where
  Initial := Initial
  step := step

/-! ## One step -/

/-- What a step does, and when. -/
inductive CopyStep (s : ModemConfig) : BootAction → ModemConfig → Prop
  | boot : s.pc = .off → CopyStep s .boot { s with pc := .test }
  | outdated : s.pc = .test → s.outdated = true →
      CopyStep s .next { s with pc := .remove }
  | current : s.pc = .test → s.outdated = false →
      CopyStep s .next { s with pc := .done }
  | emptied : s.pc = .remove →
      (∀ path, path.hidden = false → s.modem_config.lookup path = none) →
      CopyStep s .next { s with pc := .configs }
  | copied : s.pc = .configs →
      (∀ path, path.hidden = false → s.firmware.configs.lookup path ≠ none →
        s.modem_config.lookup path = s.firmware.configs.lookup path) →
      CopyStep s .next { s with pc := .verInfo }
  | named : s.pc = .verInfo →
      (s.firmware.ver_info ≠ none →
        s.modem_config.lookup ver_info_txt = s.firmware.ver_info) →
      CopyStep s .next { s with pc := .mbnOta }
  | ended : s.pc = .mbnOta →
      (s.firmware.mbn_ota ≠ none →
        s.modem_config.lookup mbn_ota_txt = s.firmware.mbn_ota) →
      CopyStep s .next { s with pc := .done }
  | failed (pc : CopyPc) : s.pc.behind = some pc →
      CopyStep s .fail { s with pc }
  | remove (path : ConfigPath) : s.pc = .remove → path.hidden = false →
      CopyStep s (.remove path)
        { s with modem_config := s.modem_config.erase path }
  | copyConfig (path : ConfigPath) (length : ℕ) (text : List Char) :
      s.pc = .configs → s.firmware.configs.lookup path = some text →
      CopyStep s (.copy path length)
        { s with modem_config := s.modem_config.insert path (text.take length) }
  | copyVersion (length : ℕ) (text : List Char) :
      s.pc = .verInfo → s.firmware.ver_info = some text →
      CopyStep s (.copy ver_info_txt length)
        { s with
          modem_config :=
            s.modem_config.insert ver_info_txt (text.take length) }
  | copyOta (length : ℕ) (text : List Char) :
      s.pc = .mbnOta → s.firmware.mbn_ota = some text →
      CopyStep s (.copy mbn_ota_txt length)
        { s with
          modem_config := s.modem_config.insert mbn_ota_txt (text.take length) }
  | stop : CopyStep s .stop { s with pc := .off }
  | install (firmware : Firmware) : s.pc = .off →
      CopyStep s (.install firmware) { s with firmware }

variable {s t : ModemConfig} {a : BootAction} {path : ConfigPath}

theorem arrived_iff :
    s.arrived path = true ↔
      (s.source path ≠ none → s.modem_config.lookup path = s.source path) := by
  rw [arrived, decide_eq_true_iff]
  tauto

theorem next_cases {pc : CopyPc} (h : s.next = some pc) :
    CopyStep s .next { s with pc } := by
  unfold next at h
  cases hpc : s.pc with
  | off => simp [hpc] at h
  | done => simp [hpc] at h
  | test =>
      simp only [hpc, Option.some.injEq] at h
      cases houtdated : s.outdated with
      | true =>
          rw [houtdated, if_pos rfl] at h
          rw [← h]
          exact .outdated hpc houtdated
      | false =>
          rw [houtdated, if_neg Bool.false_ne_true] at h
          rw [← h]
          exact .current hpc houtdated
  | remove =>
      simp only [hpc, Option.ite_none_right_eq_some, Option.some.injEq,
        List.all_eq_true] at h
      rw [← h.2]
      apply CopyStep.emptied hpc
      intro path hvisible
      rw [AList.lookup_eq_none, AList.mem_keys]
      intro hmem
      have hhidden := h.1 path hmem
      rw [hvisible] at hhidden
      contradiction
  | configs =>
      simp only [hpc, Option.ite_none_right_eq_some, Option.some.injEq,
        List.all_eq_true] at h
      rw [← h.2]
      apply CopyStep.copied hpc
      intro path hvisible hsome
      have hmem : path ∈ s.firmware.configs.keys := by
        rw [← AList.mem_keys, ← AList.lookup_isSome, Option.isSome_iff_ne_none]
        exact hsome
      have harrived := arrived_iff.mp (h.1 path hmem)
      simp only [source, hpc, hvisible, Bool.false_eq_true, if_false] at harrived
      exact harrived hsome
  | verInfo =>
      simp only [hpc, Option.ite_none_right_eq_some, Option.some.injEq,
        arrived_iff, source, if_true] at h
      rw [← h.2]
      exact .named hpc h.1
  | mbnOta =>
      simp only [hpc, Option.ite_none_right_eq_some, Option.some.injEq,
        arrived_iff, source, if_true] at h
      rw [← h.2]
      exact .ended hpc h.1

theorem step_cases (h : machine.step s a = some t) : CopyStep s a t := by
  cases a with
  | boot =>
      obtain ⟨hpc, ht⟩ := Option.ite_none_right_eq_some.mp h
      rw [← Option.some.inj ht]
      exact .boot hpc
  | next =>
      obtain ⟨pc, hnext, rfl⟩ := Option.map_eq_some_iff.mp h
      exact next_cases hnext
  | fail =>
      obtain ⟨pc, hbehind, rfl⟩ := Option.map_eq_some_iff.mp h
      exact .failed pc hbehind
  | remove path =>
      obtain ⟨⟨hpc, hvisible⟩, ht⟩ := Option.ite_none_right_eq_some.mp h
      rw [← Option.some.inj ht]
      exact .remove path hpc (Bool.eq_false_iff.mpr hvisible)
  | copy path length =>
      obtain ⟨text, hsource, rfl⟩ := Option.map_eq_some_iff.mp h
      unfold source at hsource
      split at hsource
      case h_1 hpc =>
          obtain ⟨-, htext⟩ := Option.ite_none_left_eq_some.mp hsource
          exact .copyConfig path length text hpc htext
      case h_2 hpc =>
          obtain ⟨rfl, htext⟩ := Option.ite_none_right_eq_some.mp hsource
          exact .copyVersion length text hpc htext
      case h_3 hpc =>
          obtain ⟨rfl, htext⟩ := Option.ite_none_right_eq_some.mp hsource
          exact .copyOta length text hpc htext
      case h_4 => contradiction
  | stop =>
      rw [← Option.some.inj h]
      exact .stop
  | install firmware =>
      obtain ⟨hpc, ht⟩ := Option.ite_none_right_eq_some.mp h
      rw [← Option.some.inj ht]
      exact .install firmware hpc

end ModemConfig

end Samurai
