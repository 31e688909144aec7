import Samurai.GlobalSubstitution

/-!
# Fixing up the extracted files

`extract-files.sh` changes some of the files it extracts: `sed` replaces a
path in a library and the name of a library in the lists of permissions, and
`patchelf` adds or replaces a needed library.  A file can be extracted again
from an image that was built with it, so that the change is made once more.
-/

namespace Samurai.ExtractFiles

open GlobalSubstitution TerminatedMatches

/-! ## The script -/

/-- A basic regular expression of plain characters and dots. -/
def regex (dot : Char → Bool) (expression : List Char) :
    List (Char → Bool) :=
  expression.map fun c a => if c = '.' then dot a else a == c

/-- `sed -i "s|expression|replacement|g"`.  A match is in one line. -/
def sed (expression replacement content : List Char) : List Char :=
  substitute (regex (fun a => a != '\n') expression) replacement content

/-- `grep -q expression`.  Nor does a dot match a null character: a file that
has one is a binary file to `grep`. -/
def grep (expression content : List Char) : Bool :=
  content.tails.any
    (fits (regex (fun a => a != '\n' && a != '\x00') expression))

/-- `patchelf` on the content of a file; there is no result where it fails.
The names that `--print-needed` gives are `needed`. -/
structure Patchelf where
  needed : List Char → List (List Char)
  addNeeded : List Char → List Char → Option (List Char)
  replaceNeeded : List Char → List Char → List Char → Option (List Char)

def oplusDisplay : List Char := "/sys/kernel/oplus_display/".toList

def oppoDisplay : List Char := "/sys/kernel//oppo_display/".toList

def libgf_hal_G3 : String := "odm/lib64/libgf_hal_G3.so"

/-- The change made to the file with this path.  The case of `qcrilhook.xml`
falls through to the next one. -/
def blob_fixup (patchelf : Patchelf) (path : String) (content : List Char) :
    Option (List Char) :=
  if path = libgf_hal_G3 then
    some (sed oplusDisplay oppoDisplay content)
  else if path = "system_ext/etc/permissions/qcrilhook.xml" ∨
      path = "system_ext/etc/permissions/qti_libpermissions.xml" then
    some (sed "name=\"android.hidl.manager-V1.0-java".toList
      "name=\"android.hidl.manager@1.0-java".toList content)
  else if path = "etc/permissions/qti_libpermissions.xml" then
    some (sed "name=\"android.hidl.manager-V1.0-java\"".toList
      "name=\"android.hidl.manager@1.0-java\"".toList content)
  else if path = "vendor/lib64/hw/camera.qcom.so" then
    if grep "libcamera_metadata_shim.so".toList content then some content
    else patchelf.addNeeded "libcamera_metadata_shim.so".toList content
  else if path = "vendor/lib64/libOPPORectify.so" ∨
      path = "vendor/lib64/libCOppLceTonemapAPI.so" then
    patchelf.replaceNeeded "libstdc++.so".toList
      "libstdc++_vendor.so".toList content
  else some content

/-- What is said of `patchelf`: the names it writes are needed afterwards, a
needed name stands in the file, nothing is written if there is nothing to
replace, and it reads what it wrote. -/
structure Patchelf.Documented (patchelf : Patchelf) : Prop where
  addNeeded : ∀ name content written,
    patchelf.addNeeded name content = some written →
      name ∈ patchelf.needed written
  needed_infix : ∀ name content,
    name ∈ patchelf.needed content → name <:+: content
  replaceNeeded : ∀ old new content written,
    patchelf.replaceNeeded old new content = some written →
      patchelf.needed written =
        (patchelf.needed content).map fun name =>
          if name = old then new else name
  unchanged : ∀ old new content written,
    patchelf.replaceNeeded old new content = some written →
      old ∉ patchelf.needed content → written = content
  readable : ∀ old new content written,
    patchelf.replaceNeeded old new content = some written →
      ∃ again, patchelf.replaceNeeded old new written = some again

variable {patchelf : Patchelf} {content fixed expression name old new : List Char}
  {path : String} {dot : Char → Bool}

/-! ## The paths in the fingerprint library -/

theorem regex_of_notMem (hplain : '.' ∉ expression) :
    regex dot expression = literal expression := by
  apply List.map_congr_left
  intro c hc
  have hne : c ≠ '.' := by
    rintro rfl
    exact hplain hc
  funext a
  rw [if_neg hne]

theorem sed_display (content : List Char) :
    sed oplusDisplay oppoDisplay content =
      substitute (literal oplusDisplay) oppoDisplay content := by
  rw [sed, regex_of_notMem (by decide)]

theorem sameBorders_display : SameBorders oplusDisplay oppoDisplay where
  nonempty := by decide
  length := by decide
  ne := by decide
  behind := by
    intro i hpos hlt
    change i < 26 at hlt
    interval_cases i <;> decide
  before := by
    intro j hpos hlt
    change j < 26 at hlt
    interval_cases j <;> decide

/-- The library keeps its length, and what is not in an old path is not
written. -/
theorem gf_hal_patched (patchelf : Patchelf) (content : List Char) :
    ∃ fixed, blob_fixup patchelf libgf_hal_G3 content = some fixed ∧
      fixed.length = content.length ∧
      (∀ k, ¬ Covered oplusDisplay content k → fixed[k]? = content[k]?) ∧
      (∀ i, Occurs oplusDisplay content i →
        (∀ j, j < i → i < j + oplusDisplay.length →
          ¬ Occurs oplusDisplay content j) →
        Occurs oppoDisplay fixed i) ∧
      (Replaced oplusDisplay oppoDisplay content fixed ↔
        ¬ Overlapping oplusDisplay content) := by
  have hdisplay := sameBorders_display
  have hfixed : blob_fixup patchelf libgf_hal_G3 content =
      some (substitute (literal oplusDisplay) oppoDisplay content) := by
    rw [blob_fixup, if_pos rfl, sed_display]
  refine ⟨_, hfixed, ?_, ?_, ?_, ?_⟩
  · exact length_substitute hdisplay.nonempty hdisplay.length content
  · exact fun k => getElem?_substitute hdisplay.nonempty hdisplay.length
  · exact fun i => occurs_substitute_of_first hdisplay.nonempty hdisplay.length
  · exact hdisplay.replaced_iff

/-! ## Every file -/

theorem apart_managerV1 :
    Apart
      (regex (fun a => a != '\n')
        "name=\"android.hidl.manager-V1.0-java".toList)
      "name=\"android.hidl.manager@1.0-java".toList where
  nonempty := by decide
  behind := by decide
  before := by decide

theorem apart_closedManagerV1 :
    Apart
      (regex (fun a => a != '\n')
        "name=\"android.hidl.manager-V1.0-java\"".toList)
      "name=\"android.hidl.manager@1.0-java\"".toList where
  nonempty := by decide
  behind := by decide
  before := by decide

theorem fits_regex_self (hdot : dot '.' = true) (rest : List Char) :
    fits (regex dot expression) (expression ++ rest) = true := by
  induction expression with
  | nil => exact fits_nil _
  | cons c expression ih =>
      rw [regex, List.map_cons, List.cons_append, fits_cons, Bool.and_eq_true]
      constructor
      · split
        case isTrue hc =>
            rw [hc]
            exact hdot
        case isFalse =>
            exact beq_self_eq_true c
      · exact ih

/-- `grep` finds what stands in the file. -/
theorem grep_of_infix (h : name <:+: content) : grep name content = true := by
  obtain ⟨before, after, rfl⟩ := h
  rw [grep, List.any_eq_true]
  refine ⟨name ++ after, ?_, fits_regex_self (by decide) after⟩
  rw [List.mem_tails, List.append_assoc]
  exact List.suffix_append before (name ++ after)

namespace Patchelf.Documented

variable (h : patchelf.Documented)
include h

/-- A library that was added is not added again. -/
theorem grep_addNeeded
    (hadd : patchelf.addNeeded name content = some fixed) :
    grep name fixed = true :=
  grep_of_infix (h.needed_infix name fixed
    (h.addNeeded name content fixed hadd))

/-- There is nothing to replace in what was written. -/
theorem replaceNeeded_again (hne : new ≠ old)
    (hreplace : patchelf.replaceNeeded old new content = some fixed) :
    patchelf.replaceNeeded old new fixed = some fixed := by
  obtain ⟨again, hagain⟩ := h.readable old new content fixed hreplace
  have hgone : old ∉ patchelf.needed fixed := by
    rw [h.replaceNeeded old new content fixed hreplace, List.mem_map]
    rintro ⟨name, -, hname⟩
    split at hname
    · exact hne hname
    · contradiction
  rw [hagain, h.unchanged old new fixed again hagain hgone]

end Patchelf.Documented

/-- The other files stay as they are when they are fixed up once more. -/
theorem blob_fixup_again (hdocumented : patchelf.Documented)
    (hpath : path ≠ libgf_hal_G3)
    (hfixed : blob_fixup patchelf path content = some fixed) :
    blob_fixup patchelf path fixed = some fixed := by
  rw [blob_fixup, if_neg hpath] at hfixed ⊢
  split_ifs at hfixed with hqti hclosed hcamera hfound hvendor
  · cases hfixed
    rw [if_pos hqti]
    exact congrArg some (apart_managerV1.substitute_substitute content)
  · cases hfixed
    rw [if_neg hqti, if_pos hclosed]
    exact congrArg some (apart_closedManagerV1.substitute_substitute content)
  · cases hfixed
    rw [if_neg hqti, if_neg hclosed, if_pos hcamera, if_pos hfound]
  · have hadded := hdocumented.grep_addNeeded hfixed
    rw [if_neg hqti, if_neg hclosed, if_pos hcamera, if_pos hadded]
  · rw [if_neg hqti, if_neg hclosed, if_neg hcamera, if_pos hvendor]
    exact hdocumented.replaceNeeded_again (by decide) hfixed
  · rw [if_neg hqti, if_neg hclosed, if_neg hcamera, if_neg hvendor]

/-- A file that is fixed up once more stays as it is, whichever file it is,
but for the fingerprint library if two of its old paths share a `/`. -/
theorem blob_fixup_twice (hdocumented : patchelf.Documented)
    (hfixed : blob_fixup patchelf path content = some fixed) :
    blob_fixup patchelf path fixed = some fixed ↔
      ¬ (path = libgf_hal_G3 ∧ Overlapping oplusDisplay content) := by
  by_cases hpath : path = libgf_hal_G3
  · rw [blob_fixup, if_pos hpath, sed_display] at hfixed ⊢
    cases hfixed
    rw [Option.some_inj, sameBorders_display.substitute_substitute_iff]
    exact not_congr (and_iff_right hpath).symm
  · have hagain := blob_fixup_again hdocumented hpath hfixed
    exact iff_of_true hagain fun h => hpath h.1

def isElf (content : List Char) : Bool :=
  "\x7fELF".toList.isPrefixOf content && decide (64 ≤ content.length)

/-- It refuses a file that is no library; in a library it takes what is behind
the header for the one needed name. -/
def oneName : Patchelf where
  needed content := if isElf content then [content.drop 64] else []
  addNeeded _ _ := none
  replaceNeeded old new content :=
    if isElf content then
      some (if content.drop 64 = old then content.take 64 ++ new else content)
    else none

theorem isElf_take_append (helf : isElf content = true) (rest : List Char) :
    isElf (content.take 64 ++ rest) = true := by
  rw [isElf, Bool.and_eq_true, List.isPrefixOf_iff_prefix,
    decide_eq_true_eq] at helf ⊢
  obtain ⟨hmagic, hlength⟩ := helf
  constructor
  · have hheader : "\x7fELF".toList <+: content.take 64 := by
      rw [List.prefix_take_iff]
      exact ⟨hmagic, by decide⟩
    exact hheader.trans (List.prefix_append _ rest)
  · rw [List.length_append, List.length_take]
    omega

theorem drop_take_append (helf : isElf content = true) (rest : List Char) :
    (content.take 64 ++ rest).drop 64 = rest := by
  have hlength : 64 ≤ content.length := by
    rw [isElf, Bool.and_eq_true, decide_eq_true_eq] at helf
    exact helf.2
  apply List.drop_left'
  rw [List.length_take]
  omega

theorem needed_oneName (helf : isElf content = true) :
    oneName.needed content = [content.drop 64] :=
  if_pos helf

theorem oneName_replaceNeeded_eq_some :
    oneName.replaceNeeded old new content = some fixed ↔
      isElf content = true ∧
        fixed = if content.drop 64 = old then content.take 64 ++ new
          else content := by
  by_cases helf : isElf content = true
  · simp only [oneName, if_pos helf, Option.some_inj, and_iff_right helf]
    exact eq_comm
  · simp only [oneName, if_neg helf]
    exact iff_of_false (Option.some_ne_none _).symm fun h => helf h.1

theorem isElf_replaceNeeded
    (hfixed : oneName.replaceNeeded old new content = some fixed) :
    isElf fixed = true := by
  obtain ⟨helf, rfl⟩ := oneName_replaceNeeded_eq_some.mp hfixed
  split_ifs
  · exact isElf_take_append helf new
  · exact helf

theorem oneName_documented : oneName.Documented where
  addNeeded := by
    intro name content written hnone
    contradiction
  needed_infix := by
    intro name content hname
    by_cases helf : isElf content = true
    · rw [needed_oneName helf, List.mem_singleton] at hname
      rw [hname]
      exact (List.drop_suffix 64 content).isInfix
    · simp only [oneName, if_neg helf] at hname
      contradiction
  replaceNeeded := by
    intro old new content written hwritten
    rw [needed_oneName (isElf_replaceNeeded hwritten)]
    obtain ⟨helf, rfl⟩ := oneName_replaceNeeded_eq_some.mp hwritten
    rw [needed_oneName helf]
    split_ifs with hold
    · rw [drop_take_append helf, hold, List.map_singleton, if_pos rfl]
    · rw [List.map_singleton, if_neg hold]
  unchanged := by
    intro old new content written hwritten hnot
    obtain ⟨helf, rfl⟩ := oneName_replaceNeeded_eq_some.mp hwritten
    rw [needed_oneName helf, List.mem_singleton] at hnot
    exact if_neg (Ne.symm hnot)
  readable := by
    intro old new content written hwritten
    exact ⟨_, oneName_replaceNeeded_eq_some.mpr
      ⟨isElf_replaceNeeded hwritten, rfl⟩⟩

/-- Two old paths that share a `/`. -/
def sharedSlash : List Char :=
  "/sys/kernel/oplus_display/sys/kernel/oplus_display/".toList

theorem blob_fixup_twice_sharedSlash :
    (∃ fixed, blob_fixup oneName libgf_hal_G3 sharedSlash = some fixed ∧
      blob_fixup oneName libgf_hal_G3 fixed ≠ some fixed) ∧
    blob_fixup oneName "vendor/lib64/hw/camera.qcom.so"
      "libcamera_metadata_shim.so".toList =
        some "libcamera_metadata_shim.so".toList := by
  constructor
  · have hoverlapping : Overlapping oplusDisplay sharedSlash :=
      ⟨0, 25, by decide, by decide, by decide, by decide⟩
    refine ⟨_, rfl, ?_⟩
    intro hagain
    exact (blob_fixup_twice oneName_documented rfl).mp hagain
      ⟨rfl, hoverlapping⟩
  · have hfixed : blob_fixup oneName "vendor/lib64/hw/camera.qcom.so"
        "libcamera_metadata_shim.so".toList =
          some "libcamera_metadata_shim.so".toList := by decide
    exact (blob_fixup_twice oneName_documented hfixed).mpr fun h =>
      absurd h.1 (by decide)

end Samurai.ExtractFiles
