import Samurai.ReorderLibsFile
import Samurai.UpdateSha1sumsModel

/-!
# Pinning and unpinning the blobs

What the script writes for a blob depends on the text before the first `|`
only, and that text is still there afterwards.  So neither rewriting changes
its own result, and dropping the hashes does not see which were written.
-/

namespace Samurai.UpdateSha1sums

open ReorderLibs (startswith startswith_iff removePrefix IsComment isComment_iff)
open CarriedState (Latest)

/-! ## What the lines say -/

def EndsOnce (line : List Char) : Prop :=
  rstrip line ++ ['\n'] = line

/-- The text of a line before its first `|`. -/
def entry (line : List Char) : List Char :=
  (rstrip line).takeWhile fun c => c ≠ '|'

/-- Where the blob of an entry goes: its second field, if it has one, without
arguments and a leading `-`. -/
def destination (entry : List Char) : List Char :=
  let named :=
    if ':' ∈ entry then
      ((entry.dropWhile fun c => c ≠ ':').drop 1).takeWhile fun c => c ≠ ':'
    else entry
  removePrefix ['-'] (named.takeWhile fun c => c ≠ ';')

def blobPath (line : List Char) : List Char :=
  join vendorPath (destination (entry line))

structure IsBlob (line : List Char) : Prop where
  nonblank : rstrip line ≠ []
  uncommented : ¬ IsComment line

/-- A comment that tells where the blobs below it are from. -/
def Pins (line : List Char) : Prop :=
  " - from".toList <:+: line

/-- The line at place `i` is to be pinned, and `file` is what it names. -/
structure Pinned (fs : FileSystem) (lines : List (List Char)) (i : ℕ)
    (line : List Char) (file : List UInt8) : Prop where
  blob : IsBlob line
  pins : Latest IsComment Pins lines i
  present : fs.pathExists (blobPath line) = true
  readable : fs.read (blobPath line) = some file

theorem isBlob_iff {line : List Char} :
    IsBlob line ↔ rstrip line ≠ [] ∧ ¬ IsComment line :=
  ⟨fun h => ⟨h.nonblank, h.uncommented⟩, fun h => ⟨h.1, h.2⟩⟩

instance (line : List Char) : Decidable (EndsOnce line) :=
  inferInstanceAs (Decidable (rstrip line ++ ['\n'] = line))

instance (line : List Char) : Decidable (Pins line) :=
  inferInstanceAs (Decidable (" - from".toList <:+: line))

instance (line : List Char) : Decidable (IsBlob line) :=
  decidable_of_iff' _ isBlob_iff

variable {fs : FileSystem} {sha1 : List UInt8 → List Char}
  {lines : List (List Char)} {line t hash : List Char} {file : List UInt8}
  {s : Bool} {c : Char}

/-! ## Trailing newlines -/

theorem rstrip_append_cons (hc : c ≠ '\n') (u v : List Char) :
    rstrip (u ++ c :: v) = u ++ c :: rstrip v :=
  rdropWhile_append_cons (by simpa using hc) u v

theorem rstrip_concat (t : List Char) : rstrip (t ++ ['\n']) = rstrip t :=
  List.rdropWhile_concat_pos _ t '\n' rfl

theorem mem_rstrip (hc : c ≠ '\n') : c ∈ rstrip line ↔ c ∈ line := by
  constructor
  · intro hmem
    exact (List.rdropWhile_prefix _ line).subset hmem
  · intro hmem
    rcases List.append_of_mem hmem with ⟨u, v, rfl⟩
    rw [rstrip_append_cons hc]
    simp

theorem isComment_rstrip : IsComment (rstrip line) ↔ IsComment line := by
  constructor
  · intro h
    unfold IsComment at h ⊢
    rw [startswith_iff] at h ⊢
    exact h.trans (List.rdropWhile_prefix _ line)
  · intro h
    rcases isComment_iff.mp h with ⟨t, rfl⟩
    have hstrip := rstrip_append_cons (c := '#') (by decide) [] t
    rw [List.nil_append] at hstrip
    rw [hstrip]
    exact isComment_iff.mpr ⟨_, rfl⟩

theorem pins_rstrip : Pins (rstrip line) ↔ Pins line := by
  constructor
  · intro h
    exact h.trans (List.rdropWhile_prefix _ line).isInfix
  · rintro ⟨u, v, rfl⟩
    have hsplit : u ++ " - from".toList ++ v =
        (u ++ " - fro".toList) ++ 'm' :: v := by
      simp
    rw [hsplit, rstrip_append_cons (by decide)]
    exact ⟨u, rstrip v, by simp⟩

/-! ## Fields -/

theorem headD_split (sep : Char) (string : List Char) :
    (split sep string).headD [] = string.takeWhile fun c => c ≠ sep :=
  headD_splitOn sep string

theorem filePath_eq_destination (text : List Char) :
    filePath text = destination text := by
  unfold filePath destination removePrefix
  simp only [headD_split]
  by_cases hcolon : ':' ∈ text
  · have hsecond : ((split ':' text)[1]?).getD [] =
        ((text.dropWhile fun c => c ≠ ':').drop 1).takeWhile fun c => c ≠ ':' :=
      getD_splitOn_one hcolon
    rw [if_pos hcolon, if_pos hcolon, hsecond]
    rfl
  · rw [if_neg hcolon, if_neg hcolon]
    rfl

theorem notMem_entry (line : List Char) : '|' ∉ entry line := by
  intro hmem
  simpa using List.mem_takeWhile_imp hmem

theorem entry_of_notMem (h : '|' ∉ line) : entry line = rstrip line := by
  unfold entry
  rw [← mem_rstrip (by decide)] at h
  exact takeWhile_of_notMem h

theorem newline_of_entry (hends : EndsOnce line) (h : '|' ∉ line) :
    entry line ++ ['\n'] = line := by
  rw [entry_of_notMem h]
  exact hends

/-! ## The line of a pinned blob -/

def pinnedLine (line hash : List Char) : List Char :=
  entry line ++ '|' :: hash ++ ['\n']

theorem rstrip_pinnedLine (line hash : List Char) :
    rstrip (pinnedLine line hash) = entry line ++ '|' :: rstrip hash := by
  unfold pinnedLine
  rw [rstrip_concat, rstrip_append_cons (by decide)]

theorem entry_pinnedLine (line hash : List Char) :
    entry (pinnedLine line hash) = entry line := by
  have hstrip := rstrip_pinnedLine line hash
  unfold entry at hstrip ⊢
  rw [hstrip]
  exact takeWhile_append_cons (notMem_entry line) _

/-- A new hash replaces the old one. -/
theorem pinnedLine_pinnedLine (line hash hash' : List Char) :
    pinnedLine (pinnedLine line hash) hash' = pinnedLine line hash' := by
  have hentry := entry_pinnedLine line hash
  rw [pinnedLine, hentry]
  rfl

theorem mem_pinnedLine (line hash : List Char) : '|' ∈ pinnedLine line hash := by
  simp [pinnedLine]

/-- The first field says whether a line is a comment. -/
theorem isComment_iff_entry : IsComment line ↔ IsComment (entry line) := by
  rw [← isComment_rstrip]
  constructor
  · intro h
    rcases isComment_iff.mp h with ⟨t, ht⟩
    unfold entry
    rw [ht, List.takeWhile_cons_of_pos (by decide)]
    exact isComment_iff.mpr ⟨_, rfl⟩
  · intro h
    unfold IsComment at h ⊢
    rw [startswith_iff] at h ⊢
    exact h.trans (List.takeWhile_prefix _)

theorem isBlob_pinnedLine (hblob : IsBlob line) (hash : List Char) :
    IsBlob (pinnedLine line hash) := by
  constructor
  · rw [rstrip_pinnedLine]
    simp
  · rw [isComment_iff_entry, entry_pinnedLine, ← isComment_iff_entry]
    exact hblob.uncommented

theorem rstrip_ne_nil (h : IsComment line) : rstrip line ≠ [] := by
  rcases isComment_iff.mp (isComment_rstrip.mpr h) with ⟨t, ht⟩
  rw [ht]
  exact List.cons_ne_nil '#' t

/-! ## One line -/

theorem cleanupLine_eq (line : List Char) :
    cleanupLine line =
      if IsBlob line ∧ '|' ∈ line then entry line ++ ['\n'] else line := by
  have hcomment : IsComment line ↔ startswith (rstrip line) ['#'] = true :=
    isComment_rstrip.symm
  have hbar : '|' ∈ rstrip line ↔ '|' ∈ line := mem_rstrip (by decide)
  unfold cleanupLine
  simp only [isBlob_iff, hcomment, hbar, headD_split]
  by_cases hblank : rstrip line = [] ∨ startswith (rstrip line) ['#'] = true
  · rw [if_pos hblank, if_neg]
    tauto
  · rw [if_neg hblank]
    by_cases hbar : '|' ∈ line
    · rw [if_pos hbar, if_pos ⟨not_or.mp hblank, hbar⟩]
      rfl
    · rw [if_neg hbar, if_neg fun h => hbar h.2]

theorem cleanupLine_of_notMem (h : '|' ∉ line) : cleanupLine line = line := by
  rw [cleanupLine_eq, if_neg fun hbar => h hbar.2]

theorem cleanupLine_idem (line : List Char) :
    cleanupLine (cleanupLine line) = cleanupLine line := by
  by_cases hbar : IsBlob line ∧ '|' ∈ line
  · apply cleanupLine_of_notMem
    rw [cleanupLine_eq, if_pos hbar]
    simp [notMem_entry]
  · rw [cleanupLine_eq line, if_neg hbar, cleanupLine_eq line, if_neg hbar]

theorem cleanupLine_pinnedLine (hblob : IsBlob line) (hends : EndsOnce line)
    (hash : List Char) : cleanupLine (pinnedLine line hash) = cleanupLine line := by
  rw [cleanupLine_eq, if_pos ⟨isBlob_pinnedLine hblob hash, mem_pinnedLine line hash⟩,
    entry_pinnedLine, cleanupLine_eq]
  by_cases hbar : '|' ∈ line
  · rw [if_pos ⟨hblob, hbar⟩]
  · rw [if_neg fun h => hbar h.2, newline_of_entry hends hbar]

/-- The file whose hash a round writes. -/
def fileToPin (fs : FileSystem) (needSHA1 : Bool) (line : List Char) :
    Option (List UInt8) :=
  if needSHA1 = true ∧ IsBlob line ∧ fs.pathExists (blobPath line) = true then
    fs.read (blobPath line)
  else none

def flagAfter (needSHA1 : Bool) (line : List Char) : Bool :=
  if IsComment line then Pins line else needSHA1

theorem updateLine_of_comment (h : IsComment line) :
    updateLine fs sha1 s line = (line, decide (Pins line)) := by
  have hcomment : startswith (rstrip line) ['#'] = true := isComment_rstrip.mpr h
  unfold updateLine
  simp only [rstrip_ne_nil h, hcomment, if_true, if_false]
  congr 1
  exact decide_eq_decide.mpr pins_rstrip

theorem updateLine_of_not_comment (h : ¬ IsComment line) :
    updateLine fs sha1 s line =
      ((fileToPin fs s line).elim line fun file => pinnedLine line (sha1 file),
        s) := by
  have hcomment : ¬ startswith (rstrip line) ['#'] = true := by
    rw [← isComment_rstrip] at h
    exact h
  have hentry : (rstrip line).takeWhile (fun c => c ≠ '|') = entry line := rfl
  have hpath : join vendorPath (destination (entry line)) = blobPath line := rfl
  unfold updateLine fileToPin
  simp only [hcomment, headD_split, hentry, filePath_eq_destination, hpath,
    isBlob_iff, h]
  by_cases hblank : rstrip line = []
  · simp [hblank]
  · cases s with
    | false => simp [hblank]
    | true =>
        by_cases hexists : fs.pathExists (blobPath line) = true
        · cases hread : fs.read (blobPath line) with
          | none => simp [hblank, hexists]
          | some file => simp [hblank, hexists, pinnedLine]
        · simp [hblank, hexists]

theorem updateLine_eq (fs : FileSystem) (sha1 : List UInt8 → List Char)
    (s : Bool) (line : List Char) :
    updateLine fs sha1 s line =
      ((fileToPin fs s line).elim line fun file => pinnedLine line (sha1 file),
        flagAfter s line) := by
  by_cases h : IsComment line
  · have hnone : fileToPin fs s line = none := by
      unfold fileToPin
      rw [if_neg fun hpin => hpin.2.1.uncommented h]
    rw [updateLine_of_comment h, hnone]
    simp [flagAfter, h]
  · rw [updateLine_of_not_comment h]
    simp [flagAfter, h]

theorem fileToPin_pinnedLine (hblob : IsBlob line) (hash : List Char) :
    fileToPin fs s (pinnedLine line hash) = fileToPin fs s line := by
  unfold fileToPin blobPath
  simp only [entry_pinnedLine, hblob, isBlob_pinnedLine hblob hash]

theorem isBlob_of_fileToPin (h : fileToPin fs s line = some file) :
    IsBlob line := by
  unfold fileToPin at h
  by_contra hblob
  rw [if_neg fun hpin => hblob hpin.2.1] at h
  cases h

theorem updateLine_idem (fs : FileSystem) (sha1 : List UInt8 → List Char)
    (s : Bool) (line : List Char) :
    updateLine fs sha1 s (updateLine fs sha1 s line).1 =
      updateLine fs sha1 s line := by
  rw [updateLine_eq fs sha1 s line]
  cases hfile : fileToPin fs s line with
  | none =>
      rw [Option.elim_none, updateLine_eq, hfile]
      rfl
  | some file =>
      have hblob := isBlob_of_fileToPin hfile
      have hcomment := (isBlob_pinnedLine hblob (sha1 file)).uncommented
      rw [Option.elim_some, updateLine_of_not_comment hcomment,
        fileToPin_pinnedLine hblob, hfile]
      simp [flagAfter, hblob.uncommented, pinnedLine_pinnedLine]

theorem cleanupLine_updateLine (hends : EndsOnce line) (s : Bool) :
    cleanupLine (updateLine fs sha1 s line).1 = cleanupLine line := by
  rw [updateLine_eq]
  cases hfile : fileToPin fs s line with
  | none => rfl
  | some file =>
      exact cleanupLine_pinnedLine (isBlob_of_fileToPin hfile) hends (sha1 file)

/-! ## All lines -/

theorem carried_iff (fs : FileSystem) (sha1 : List UInt8 → List Char) {i : ℕ}
    (hi : lines[i]? = some line) :
    CarriedState.carried (updateLine fs sha1) false (lines.take i) = true ↔
      Latest IsComment Pins lines i := by
  apply CarriedState.carried_eq_true_iff
  · intro s line hcomment
    simp [updateLine_of_comment hcomment]
  · intro s line hcomment
    rw [updateLine_of_not_comment hcomment]
  · exact (List.getElem?_eq_some_iff.mp hi).1.le

theorem fileToPin_eq_some_iff (sha1 : List UInt8 → List Char) {i : ℕ}
    (hi : lines[i]? = some line) :
    fileToPin fs (CarriedState.carried (updateLine fs sha1) false (lines.take i))
        line = some file ↔
      Pinned fs lines i line file := by
  have hflag := carried_iff fs sha1 hi
  unfold fileToPin
  constructor
  · intro h
    split_ifs at h with hpin
    exact ⟨hpin.2.1, hflag.mp hpin.1, hpin.2.2, h⟩
  · intro hpinned
    rw [if_pos ⟨hflag.mpr hpinned.pins, hpinned.blob, hpinned.present⟩]
    exact hpinned.readable

theorem update_pinned {i : ℕ} (hi : lines[i]? = some line)
    (hpinned : Pinned fs lines i line file) :
    (update fs sha1 lines)[i]? =
      some (entry line ++ '|' :: sha1 file ++ ['\n']) := by
  have hfile := (fileToPin_eq_some_iff sha1 hi).mpr hpinned
  unfold update
  rw [CarriedState.getElem?_rewrite, hi, Option.map_some, updateLine_eq, hfile]
  rfl

theorem update_unpinned {i : ℕ} (hi : lines[i]? = some line)
    (hunpinned : ∀ file, ¬ Pinned fs lines i line file) :
    (update fs sha1 lines)[i]? = some line := by
  unfold update
  rw [CarriedState.getElem?_rewrite, hi, Option.map_some, updateLine_eq]
  cases hfile : fileToPin fs
      (CarriedState.carried (updateLine fs sha1) false (lines.take i)) line with
  | none => rfl
  | some file =>
      exact absurd ((fileToPin_eq_some_iff sha1 hi).mp hfile) (hunpinned file)

theorem update_update (fs : FileSystem) (sha1 : List UInt8 → List Char)
    (lines : List (List Char)) :
    update fs sha1 (update fs sha1 lines) = update fs sha1 lines :=
  CarriedState.rewrite_rewrite (updateLine_idem fs sha1) false lines

theorem cleanup_cleanup (lines : List (List Char)) :
    cleanup (cleanup lines) = cleanup lines := by
  unfold cleanup
  rw [List.map_map]
  exact List.map_congr_left fun line _ => cleanupLine_idem line

theorem cleanup_update (hends : ∀ line ∈ lines, EndsOnce line) :
    cleanup (update fs sha1 lines) = cleanup lines :=
  CarriedState.map_rewrite
    (fun line hline s => cleanupLine_updateLine (hends line hline) s) false

/-- Either rewriting keeps the lines in their places and settles after one run,
and no hash written is left by dropping them. -/
theorem rewrites_consistent (fs : FileSystem) (sha1 : List UInt8 → List Char)
    (lines : List (List Char)) (hends : ∀ line ∈ lines, EndsOnce line) :
    ((update fs sha1 lines).length = lines.length ∧
      (cleanup lines).length = lines.length ∧
      ∀ i line, lines[i]? = some line →
        (∀ file, Pinned fs lines i line file →
          (update fs sha1 lines)[i]? =
            some (entry line ++ '|' :: sha1 file ++ ['\n'])) ∧
        ((∀ file, ¬ Pinned fs lines i line file) →
          (update fs sha1 lines)[i]? = some line) ∧
        (cleanup lines)[i]? =
          some (if IsBlob line ∧ '|' ∈ line then entry line ++ ['\n']
            else line)) ∧
      update fs sha1 (update fs sha1 lines) = update fs sha1 lines ∧
      cleanup (cleanup lines) = cleanup lines ∧
      cleanup (update fs sha1 lines) = cleanup lines := by
  refine ⟨⟨CarriedState.length_rewrite _ _ _, List.length_map _, ?_⟩,
    update_update fs sha1 lines, cleanup_cleanup lines, cleanup_update hends⟩
  intro i line hi
  refine ⟨fun file => update_pinned hi, update_unpinned hi, ?_⟩
  unfold cleanup
  rw [List.getElem?_map, hi, Option.map_some, cleanupLine_eq]

/-- A vendor directory with one blob. -/
def oneBlob : FileSystem where
  pathExists path :=
    path = "../../../vendor/realme/samurai/proprietary/b".toList
  read path :=
    if path = "../../../vendor/realme/samurai/proprietary/b".toList then some [7]
    else none

/-- SHA-1 on that blob; no other file is read here. -/
def blobSha1 (file : List UInt8) : List Char :=
  if file = [7] then "5d1be7e9dda1ee8896be5b7e34a85ee16452a7b4".toList else []

/-- A pinned section with a blob under another name, one that is missing and one
with a hash, and a section that is not pinned. -/
def someLines : List (List Char) :=
  ["# A - from B\n".toList, "-a:b;c\n".toList, "\n".toList, "a\n".toList,
    "b|0\n".toList, "# A\n".toList, "b\n".toList]

theorem rewrites_consistent_someLines :
    (∀ line ∈ someLines, EndsOnce line) ∧
      update oneBlob blobSha1 someLines =
        ["# A - from B\n".toList,
          "-a:b;c|5d1be7e9dda1ee8896be5b7e34a85ee16452a7b4\n".toList,
          "\n".toList, "a\n".toList,
          "b|5d1be7e9dda1ee8896be5b7e34a85ee16452a7b4\n".toList,
          "# A\n".toList, "b\n".toList] ∧
      cleanup (update oneBlob blobSha1 someLines) = cleanup someLines := by
  have hends : ∀ line ∈ someLines, EndsOnce line := by
    decide
  refine ⟨hends, by decide, ?_⟩
  exact (rewrites_consistent oneBlob blobSha1 someLines hends).2.2.2

end Samurai.UpdateSha1sums
