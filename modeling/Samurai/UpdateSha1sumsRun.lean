import Samurai.ReorderLibsText
import Samurai.UpdateSha1sumsRewrites

/-!
# The file after a run of the hash script

A file whose last line is ended is read as lines with one newline each, at
their ends, and lines of this kind are read back from what is written.  So the
files behave as their lines do, as long as no hash has a line break in it.
-/

namespace Samurai.UpdateSha1sums

open ReorderLibs (universalNewlines universalNewlines_of_notMem)

/-- One line of a text, with its end. -/
structure TextLine (line : List Char) : Prop where
  single : ∃ t, '\n' ∉ t ∧ line = t ++ ['\n']
  plain : '\r' ∉ line

/-- The last line is ended. -/
def Ended (text : List Char) : Prop :=
  ∀ c ∈ text.getLast?, c = '\n'

/-- The script is told to drop the hashes. -/
def Drops (argv : List (List Char)) : Prop :=
  argv.length = 2 ∧ argv[1]? = some "-c".toList

instance (argv : List (List Char)) : Decidable (Drops argv) :=
  inferInstanceAs
    (Decidable (argv.length = 2 ∧ argv[1]? = some "-c".toList))

variable {fs : FileSystem} {sha1 : List UInt8 → List Char}
  {lines : List (List Char)} {line t rest text hash : List Char} {c : Char}

/-! ## Reading lines -/

theorem readLines_cons (hc : c ≠ '\n') {line : List Char}
    (hrest : readLines rest = line :: lines) :
    readLines (c :: rest) = (c :: line) :: lines := by
  rw [readLines.eq_def]
  split
  · contradiction
  · rename_i heq
    cases heq
    contradiction
  · rename_i heq
    cases heq
    rw [hrest]

theorem readLines_append (ht : '\n' ∉ t) (rest : List Char) :
    readLines (t ++ '\n' :: rest) = (t ++ ['\n']) :: readLines rest := by
  induction t with
  | nil => rfl
  | cons c t ih =>
      simp only [List.mem_cons, not_or] at ht
      exact readLines_cons (Ne.symm ht.1) (ih ht.2)

theorem readLines_flatten (hlines : ∀ line ∈ lines, TextLine line) :
    readLines lines.flatten = lines := by
  induction lines with
  | nil => rfl
  | cons line lines ih =>
      have ih := ih fun l hl => hlines l (List.mem_cons_of_mem line hl)
      rcases (hlines line (by simp)).single with ⟨t, ht, rfl⟩
      rw [List.flatten_cons, List.append_assoc, List.singleton_append,
        readLines_append ht, ih]

/-- What is written is read again. -/
theorem readLines_written (hlines : ∀ line ∈ lines, TextLine line) :
    readLines (universalNewlines lines.flatten) = lines := by
  rw [universalNewlines_of_notMem, readLines_flatten hlines]
  intro hmem
  rcases List.mem_flatten.mp hmem with ⟨line, hline, hreturn⟩
  exact (hlines line hline).plain hreturn

theorem notMem_universalNewlines (text : List Char) :
    '\r' ∉ universalNewlines text := by
  fun_induction universalNewlines text with
  | case1 => simp
  | case2 rest ih => simpa using ih
  | case3 rest _ ih => simpa using ih
  | case4 c rest _ hc ih =>
      simp only [List.mem_cons, not_or]
      exact ⟨fun h => hc h.symm, ih⟩

theorem Ended.tail (h : Ended (c :: rest)) : Ended rest := by
  intro d hd
  cases rest with
  | nil => contradiction
  | cons e rest =>
      apply h
      rw [List.getLast?_cons_cons]
      exact hd

theorem readLines_ne_nil (h : text ≠ []) : readLines text ≠ [] := by
  rw [readLines.eq_def]
  split
  · contradiction
  · simp
  · split <;> simp

theorem textLine_of_mem_readLines (hplain : '\r' ∉ text) (hended : Ended text) :
    ∀ line ∈ readLines text, TextLine line := by
  induction text with
  | nil => simp [readLines]
  | cons c rest ih =>
      simp only [List.mem_cons, not_or] at hplain
      have ih := ih hplain.2 hended.tail
      by_cases hc : c = '\n'
      · subst hc
        intro line hline
        rcases List.mem_cons.mp hline with rfl | hline
        · exact ⟨⟨[], by simp, rfl⟩, by simp⟩
        · exact ih line hline
      · have hne : rest ≠ [] := by
          rintro rfl
          exact hc (hended c rfl)
        rcases List.exists_cons_of_ne_nil (readLines_ne_nil hne) with
          ⟨first, lines, hrest⟩
        rw [hrest] at ih
        rw [readLines_cons hc hrest]
        intro line hline
        rcases List.mem_cons.mp hline with rfl | hline
        · have hfirst := ih first (by simp)
          rcases hfirst.single with ⟨t, ht, rfl⟩
          refine ⟨⟨c :: t, ?_, rfl⟩, ?_⟩
          · simp [Ne.symm hc, ht]
          · simpa [hplain.1] using hfirst.plain
        · exact ih line (List.mem_cons_of_mem first hline)

/-! ## Rewriting lines -/

theorem TextLine.rstrip_notMem (h : TextLine line) :
    '\n' ∉ rstrip line ∧ rstrip line ++ ['\n'] = line := by
  rcases h.single with ⟨t, ht, rfl⟩
  have hself : rstrip t = t := by
    apply rdropWhile_eq_self
    intro c hc
    have hmem := List.mem_of_getLast? hc
    simpa using ne_of_mem_of_not_mem hmem ht
  rw [rstrip_concat, hself]
  exact ⟨ht, rfl⟩

theorem TextLine.endsOnce (h : TextLine line) : EndsOnce line :=
  h.rstrip_notMem.2

theorem TextLine.notMem_entry (h : TextLine line) :
    '\n' ∉ entry line ∧ '\r' ∉ entry line := by
  have hsub : ∀ c ∈ entry line, c ∈ rstrip line := by
    intro c hc
    unfold entry at hc
    exact (List.takeWhile_prefix _).subset hc
  constructor
  · intro hmem
    exact h.rstrip_notMem.1 (hsub _ hmem)
  · intro hmem
    exact h.plain ((List.rdropWhile_prefix _ line).subset (hsub _ hmem))

theorem textLine_cleanupLine (h : TextLine line) :
    TextLine (cleanupLine line) := by
  rw [cleanupLine_eq]
  split_ifs
  · exact ⟨⟨entry line, h.notMem_entry.1, rfl⟩, by simp [h.notMem_entry.2]⟩
  · exact h

theorem textLine_updateLine
    (hhash : ∀ file, '\n' ∉ sha1 file ∧ '\r' ∉ sha1 file) (s : Bool)
    (h : TextLine line) : TextLine (updateLine fs sha1 s line).1 := by
  rw [updateLine_eq]
  cases fileToPin fs s line with
  | none => exact h
  | some file =>
      refine ⟨⟨entry line ++ '|' :: sha1 file, ?_, rfl⟩, ?_⟩
      · simp [h.notMem_entry.1, (hhash file).1]
      · simp [pinnedLine, h.notMem_entry.2, (hhash file).2]

/-! ## Runs of the script -/

/-- The lines a run writes, for the lines it reads. -/
def rewritten (fs : FileSystem) (sha1 : List UInt8 → List Char)
    (argv lines : List (List Char)) : List (List Char) :=
  if Drops argv then cleanup lines else update fs sha1 lines

theorem run_eq (argv : List (List Char)) (content : List Char) :
    run fs sha1 argv content =
      (rewritten fs sha1 argv (readLines (universalNewlines content))).flatten := by
  unfold run rewritten
  by_cases hdrops : Drops argv
  · rw [if_pos hdrops]
    exact if_pos hdrops
  · rw [if_neg hdrops]
    exact if_neg hdrops

theorem textLine_rewritten
    (hhash : ∀ file, '\n' ∉ sha1 file ∧ '\r' ∉ sha1 file)
    (argv : List (List Char)) (hlines : ∀ line ∈ lines, TextLine line) :
    ∀ line ∈ rewritten fs sha1 argv lines, TextLine line := by
  unfold rewritten
  split_ifs
  · intro line hline
    rcases List.mem_map.mp hline with ⟨l, hl, rfl⟩
    exact textLine_cleanupLine (hlines l hl)
  · apply CarriedState.forall_mem_rewrite _ false hlines
    intro s line hline
    exact textLine_updateLine hhash s hline

theorem rewritten_rewritten {argv argv' : List (List Char)}
    (hends : ∀ line ∈ lines, EndsOnce line)
    (hagain : argv' = argv ∨ Drops argv') :
    rewritten fs sha1 argv' (rewritten fs sha1 argv lines) =
      rewritten fs sha1 argv' lines := by
  unfold rewritten
  by_cases hdrops : Drops argv
  · have hdrops' : Drops argv' := by
      rcases hagain with rfl | h
      · exact hdrops
      · exact h
    rw [if_pos hdrops, if_pos hdrops', if_pos hdrops', cleanup_cleanup]
  · rw [if_neg hdrops]
    by_cases hdrops' : Drops argv'
    · rw [if_pos hdrops', if_pos hdrops', cleanup_update hends]
    · rw [if_neg hdrops', if_neg hdrops', update_update]

/-- A run changes nothing that the same run has just written, and a run that
drops the hashes does not see what a run before it has done. -/
theorem run_run (fs : FileSystem) (sha1 : List UInt8 → List Char)
    (hhash : ∀ file, '\n' ∉ sha1 file ∧ '\r' ∉ sha1 file)
    (argv argv' : List (List Char)) (content : List Char)
    (hended : Ended (universalNewlines content))
    (hagain : argv' = argv ∨ Drops argv') :
    run fs sha1 argv' (run fs sha1 argv content) =
      run fs sha1 argv' content := by
  have hlines := textLine_of_mem_readLines (notMem_universalNewlines content)
    hended
  rw [run_eq argv, run_eq argv', run_eq argv',
    readLines_written (textLine_rewritten hhash argv hlines),
    rewritten_rewritten (fun line hline => (hlines line hline).endsOnce) hagain]

theorem run_run_oneBlob :
    run oneBlob blobSha1 [[], "-c".toList]
        (run oneBlob blobSha1 [[]] "# A - from B\nb\na\n".toList) =
      run oneBlob blobSha1 [[], "-c".toList]
        "# A - from B\nb\na\n".toList := by
  apply run_run oneBlob blobSha1
  · intro file
    unfold blobSha1
    split_ifs
    · decide
    · decide
  · intro c hc
    exact (Option.some.inj hc).symm
  · exact Or.inr (by decide)

end Samurai.UpdateSha1sums
