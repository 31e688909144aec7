import Samurai.BlobListPinning

/-!
# The two scripts on one list

A list that was ordered and then got its hashes has the same sections, and in
each of them the same lines with hashes behind some.  So the script that
orders lists writes it again as it is, unless a hash came before a line that
continues the one it stands behind.
-/

namespace Samurai.ReorderLibs

open UpdateSha1sums (FileSystem TextLine blobSha1 oneBlob updateLine updateLine_eq
  fileToPin entry entry_of_notMem isBlob_of_fileToPin isComment_rstrip
  pinnedLine rstrip)

variable {lines lines' B B' : List (List Char)} {p p' line text hash : List Char}
  {sha1 : List UInt8 → List Char}
  {σ : StableSort strcoll_extract_utils}

/-! ## Lines with hashes -/

theorem WithHash.nil_iff (h : WithHash p p') : p = [] ↔ p' = [] := by
  constructor
  · rintro rfl
    rcases h with heq | ⟨hpath, _⟩
    · exact heq
    · exact absurd rfl hpath.ne_nil
  · intro hnil
    by_contra hp
    exact h.ne_nil hp hnil

theorem IsHash.isspace_eq (h : IsHash hash) (c : Char) (hc : c ∈ '|' :: hash) :
    isspace c = false := by
  have hdigits : ("|0123456789abcdef".toList.all fun d => !isspace d) = true := by
    decide
  have hdigit : c ∈ "|0123456789abcdef".toList := by
    rcases List.mem_cons.mp hc with rfl | hmem
    · exact List.mem_cons_self
    · exact List.mem_cons_of_mem _ (h c hmem)
  simpa using List.all_eq_true.mp hdigits c hdigit

theorem WithHash.clean (h : WithHash p p') (hp : Clean p) : Clean p' := by
  rcases h with rfl | ⟨hpath, hash, hhash, rfl⟩
  · exact hp
  · constructor
    · intro c hc
      rcases List.mem_append.mp hc with hmem | hmem
      · exact hp.noBreak c hmem
      · have hspace := hhash.isspace_eq c hmem
        rw [isspace, Bool.or_eq_false_iff, Bool.or_eq_false_iff] at hspace
        exact hspace.1.1
    · constructor
      · intro c hc
        rw [List.head?_append_of_ne_nil _ hpath.ne_nil] at hc
        exact hp.tight.head c hc
      · intro c hc
        rw [List.getLast?_append_of_ne_nil _ (List.cons_ne_nil _ _)] at hc
        exact hhash.isspace_eq c (List.mem_of_getLast? hc)

theorem WithHash.isComment_iff (h : WithHash p p') :
    IsComment p' ↔ IsComment p := by
  rcases h with rfl | ⟨hpath, hash, _, rfl⟩
  · exact Iff.rfl
  · have hnot : ¬ IsComment p := fun hcomment => hcomment.not_pathLine hpath
    apply iff_of_false _ hnot
    intro hcomment
    apply hnot
    rcases ReorderLibs.isComment_iff.mp hcomment with ⟨t, ht⟩
    rcases List.exists_cons_of_ne_nil hpath.ne_nil with ⟨c, s, rfl⟩
    rw [List.cons_append, List.cons.injEq] at ht
    exact ReorderLibs.isComment_iff.mpr ⟨s, by rw [ht.1]⟩

theorem WithHash.pathLine (h : WithHash p p') (hpath : PathLine p) :
    PathLine p' := by
  rcases h.exists_removePrefix hpath.ne_nil with ⟨u, hu, _⟩
  rcases hpath.exists_cons with ⟨y, b, hy, hcons⟩
  constructor
  · intro hcomment
    rcases ReorderLibs.isComment_iff.mp hcomment with ⟨t, ht⟩
    rw [hu, hcons] at ht
    exact hy (List.cons.inj ht).1
  · rw [hu]
    exact List.mem_append_left u hpath.slashed

theorem wellFormed_withHash (h : List.Forall₂ WithHash B B')
    (hB : WellFormed B) : WellFormed B' := by
  constructor
  · intro line' hline' hne
    rcases exists_mem_of_forall₂ h hline' with ⟨line, hline, hwith⟩
    rw [Ne, ← hwith.nil_iff] at hne
    rcases hB.known line hline hne with hcomment | hpath
    · exact Or.inl (hwith.isComment_iff.mpr hcomment)
    · exact Or.inr (hwith.pathLine hpath)
  · have hcomments : List.Forall₂ WithHash
        (B.filter fun line => IsComment line)
        (B'.filter fun line => IsComment line) := by
      apply List.rel_filter _ h
      intro line line' hwith
      exact decide_eq_true_iff.trans
        (hwith.isComment_iff.symm.trans decide_eq_true_iff.symm)
    rw [← hcomments.length_eq]
    exact hB.comments

/-! ## The lines that the hash script writes -/

/-- A list without hashes that names no path twice in a section. -/
structure Fresh (text : List Char) : Prop where
  bar : ∀ B ∈ nonblankSections text, ∀ line ∈ B, '|' ∉ line
  distinct : ∀ B ∈ nonblankSections text,
    B.Pairwise fun p q => removePrefix ['-'] p ≠ removePrefix ['-'] q

theorem Clean.textLine (h : Clean p) : TextLine (p ++ ['\n']) := by
  have hreturn : '\r' ∉ p := fun hmem => absurd (h.noBreak '\r' hmem) (by decide)
  exact ⟨⟨p, h.noBreak.notMem_newline, rfl⟩, by simp [hreturn]⟩

theorem Clean.rstrip_eq (h : Clean p) : rstrip (p ++ ['\n']) = p :=
  List.append_cancel_right h.textLine.rstrip_notMem.2

/-- What the hash script makes of a line of the ordered list. -/
theorem exists_updateLine (fs : FileSystem)
    (hhash : ∀ file, IsHash (sha1 file)) (s : Bool)
    (hclean : Clean p) (hbar : '|' ∉ p)
    (hknown : p ≠ [] → IsComment p ∨ PathLine p) :
    ∃ p', (updateLine fs sha1 s (p ++ ['\n'])).1 = p' ++ ['\n'] ∧
      WithHash p p' := by
  rw [updateLine_eq]
  cases hfile : fileToPin fs s (p ++ ['\n']) with
  | none => exact ⟨p, rfl, Or.inl rfl⟩
  | some file =>
      have hblob := isBlob_of_fileToPin hfile
      have hentry : entry (p ++ ['\n']) = p := by
        rw [entry_of_notMem (by simp [hbar]), hclean.rstrip_eq]
      have hne : p ≠ [] := by
        have hnonblank := hblob.nonblank
        rwa [hclean.rstrip_eq] at hnonblank
      have hpath : PathLine p := by
        rcases hknown hne with hcomment | hpath
        · have huncommented := hblob.uncommented
          rw [← isComment_rstrip, hclean.rstrip_eq] at huncommented
          exact absurd hcomment huncommented
        · exact hpath
      refine ⟨p ++ '|' :: sha1 file, ?_,
        Or.inr ⟨hpath, sha1 file, hhash file, rfl⟩⟩
      rw [Option.elim_some, pinnedLine, hentry]

theorem exists_rewrite (fs : FileSystem)
    (hhash : ∀ file, IsHash (sha1 file)) (s : Bool)
    (hclean : ∀ p ∈ lines, Clean p) (hbar : ∀ p ∈ lines, '|' ∉ p)
    (hknown : ∀ p ∈ lines, p ≠ [] → IsComment p ∨ PathLine p) :
    ∃ lines', CarriedState.rewrite (updateLine fs sha1) s
          (lines.map fun p => p ++ ['\n']) =
        lines'.map (fun p => p ++ ['\n']) ∧
      List.Forall₂ WithHash lines lines' := by
  induction lines generalizing s with
  | nil => exact ⟨[], rfl, List.Forall₂.nil⟩
  | cons p lines ih =>
      rw [List.forall_mem_cons] at hclean hbar hknown
      rcases exists_updateLine fs hhash s hclean.1 hbar.1 hknown.1 with
        ⟨p', hp', hwith⟩
      rcases ih (updateLine fs sha1 s (p ++ ['\n'])).2 hclean.2 hbar.2 hknown.2
        with ⟨lines', hlines', hall⟩
      refine ⟨p' :: lines', ?_, List.Forall₂.cons hwith hall⟩
      rw [List.map_cons, CarriedState.rewrite, hp', hlines', List.map_cons]

/-- A text that ends in a newline is its lines, with a newline each. -/
theorem intercalate_newline (hne : lines ≠ []) :
    ['\n'].intercalate lines ++ ['\n'] =
      (lines.map fun p => p ++ ['\n']).flatten := by
  induction lines with
  | nil => contradiction
  | cons p lines ih =>
      by_cases hlines : lines = []
      · subst hlines
        simp
      · rw [List.intercalate_cons_of_ne_nil hlines, List.map_cons,
          List.flatten_cons, ← ih hlines]
        simp

theorem exists_run_of_ne_nil (fs : FileSystem)
    (hhash : ∀ file, IsHash (sha1 file))
    {argv : List (List Char)} (hargv : ¬ UpdateSha1sums.Drops argv)
    (hne : lines ≠ []) (hclean : ∀ p ∈ lines, Clean p)
    (hbar : ∀ p ∈ lines, '|' ∉ p)
    (hknown : ∀ p ∈ lines, p ≠ [] → IsComment p ∨ PathLine p) :
    ∃ lines', UpdateSha1sums.run fs sha1 argv
          (['\n'].intercalate lines ++ ['\n']) =
        ['\n'].intercalate lines' ++ ['\n'] ∧
      List.Forall₂ WithHash lines lines' := by
  rcases exists_rewrite fs hhash false hclean hbar hknown with
    ⟨lines', hrewrite, hall⟩
  have hne' : lines' ≠ [] := by
    rintro rfl
    exact hne (List.forall₂_nil_right_iff.mp hall)
  have htext : ∀ line ∈ lines.map fun p => p ++ ['\n'], TextLine line := by
    rw [List.forall_mem_map]
    exact fun p hp => (hclean p hp).textLine
  refine ⟨lines', ?_, hall⟩
  rw [UpdateSha1sums.run_eq, intercalate_newline hne,
    UpdateSha1sums.readLines_written htext, UpdateSha1sums.rewritten,
    if_neg hargv, UpdateSha1sums.update, hrewrite, ← intercalate_newline hne']

/-- What the hash script makes of a text that the ordering script wrote. -/
theorem exists_run (fs : FileSystem)
    (hhash : ∀ file, IsHash (sha1 file))
    {argv : List (List Char)} (hargv : ¬ UpdateSha1sums.Drops argv)
    (hclean : ∀ p ∈ lines, Clean p) (hbar : ∀ p ∈ lines, '|' ∉ p)
    (hknown : ∀ p ∈ lines, p ≠ [] → IsComment p ∨ PathLine p) :
    ∃ lines', UpdateSha1sums.run fs sha1 argv
          (['\n'].intercalate lines ++ ['\n']) =
        ['\n'].intercalate lines' ++ ['\n'] ∧
      List.Forall₂ WithHash lines lines' := by
  by_cases hne : lines = []
  · -- the text is that of one blank line, which gets no hash
    subst hne
    rcases exists_run_of_ne_nil fs hhash hargv
        (List.cons_ne_nil ([] : List Char) []) (by simpa using clean_nil)
        (by simp) (by simp) with ⟨lines', hrun, hall⟩
    refine ⟨[], ?_, List.Forall₂.nil⟩
    rcases List.forall₂_cons_left_iff.mp hall with ⟨p', rest, hp, hrest, rfl⟩
    rw [hp.nil_iff.mp rfl, List.forall₂_nil_left_iff.mp hrest] at hrun
    exact hrun
  · exact exists_run_of_ne_nil fs hhash hargv hne hclean hbar hknown

/-! ## Sections -/

/-- The lines of a section, blank or not, are well formed if the others are. -/
theorem wellFormed_filter_iff :
    WellFormed (lines.filter fun line => line ≠ []) ↔ WellFormed lines := by
  have hcomments : (lines.filter fun line => line ≠ []).filter
      (fun line => IsComment line) = lines.filter fun line => IsComment line := by
    rw [List.filter_filter]
    apply List.filter_congr
    intro line _
    by_cases hcomment : IsComment line
    · simp [hcomment, comment_ne_nil hcomment]
    · simp [hcomment]
  constructor
  · intro h
    constructor
    · intro line hline hne
      exact h.known line (List.mem_filter.mpr ⟨hline, by simpa using hne⟩) hne
    · rw [← hcomments]
      exact h.comments
  · intro h
    constructor
    · intro line hline hne
      exact h.known line (List.mem_of_mem_filter hline) hne
    · rw [hcomments]
      exact h.comments

theorem blobList_iff :
    BlobList text ↔ ∀ B ∈ nonblankSections text, WellFormed B := by
  have hnil : WellFormed [] := ⟨by simp, by simp⟩
  constructor
  · intro h B hB
    rcases List.mem_map.mp (List.mem_of_mem_filter hB) with ⟨part, hpart, rfl⟩
    exact wellFormed_filter_iff.mpr (h part hpart)
  · intro h part hpart
    rw [← wellFormed_filter_iff]
    change WellFormed (nonblankLines part)
    by_cases hempty : nonblankLines part = []
    · rw [hempty]
      exact hnil
    · apply h
      exact List.mem_filter.mpr
        ⟨List.mem_map_of_mem hpart, decide_eq_true hempty⟩

theorem wellFormed_perm (h : B.Perm B') (hB : WellFormed B) : WellFormed B' where
  known := fun line hline => hB.known line (h.mem_iff.mpr hline)
  comments := by
    rw [← (h.filter _).length_eq]
    exact hB.comments

theorem section_of_mem_blocks (hlist : BlobList text) (hfresh : Fresh text)
    (hB : B ∈ blocks [] (writtenLines σ text)) : WellFormed B ∧ Bare B := by
  rcases exists_mem_of_forall₂ (perm_nonblankSections hlist) hB with
    ⟨A, hA, hperm⟩
  have hwell := blobList_iff.mp hlist A hA
  have hnonblank : ∀ line ∈ A, line ≠ [] := by
    intro line hline
    rcases List.mem_map.mp (List.mem_of_mem_filter hA) with ⟨part, _, rfl⟩
    simpa using (List.mem_filter.mp hline).2
  refine ⟨wellFormed_perm hperm hwell, ?_, ?_, ?_, ?_⟩
  · intro line hline
    have hline := hperm.mem_iff.mpr hline
    exact hwell.known line hline (hnonblank line hline)
  · exact fun line hline => hfresh.bar A hA line (hperm.mem_iff.mpr hline)
  · exact (hperm.pairwise_iff fun h => h.symm).mp (hfresh.distinct A hA)
  · exact (writtenLines_settled hlist).sorted B hB

theorem sorted_iff_keepsOrder {Bs Bs' : List (List (List Char))}
    (h : List.Forall₂ (List.Forall₂ WithHash) Bs Bs')
    (hbare : ∀ B ∈ Bs, Bare B) :
    (∀ B ∈ Bs', B.Pairwise fun p q => strcoll_extract_utils p q ≤ 0) ↔
      List.Forall₂ KeepsOrder Bs Bs' := by
  induction h with
  | nil => simp
  | cons hB _ ih =>
      rw [List.forall_mem_cons] at hbare
      rw [List.forall_mem_cons, List.forall₂_cons, hbare.1.pairwise_iff hB,
        ih hbare.2]

theorem head?_withHash (h : List.Forall₂ WithHash lines lines')
    (hhead : ∀ p ∈ lines.head?, p.isEmpty = false) :
    ∀ p ∈ lines'.head?, p.isEmpty = false := by
  cases h with
  | nil => exact hhead
  | @cons p p' lines lines' hp _ =>
      intro q hq
      rw [List.head?_cons, Option.mem_some] at hq
      have hne := hhead p rfl
      rw [← hq, List.isEmpty_eq_false_iff]
      rw [List.isEmpty_eq_false_iff] at hne
      exact hp.ne_nil hne

theorem tight_withHash (h : List.Forall₂ WithHash lines lines')
    (htight : Tight (fun line => line.isEmpty) lines) :
    Tight (fun line => line.isEmpty) lines' where
  head := head?_withHash h htight.head
  last := by
    have hlast := htight.last
    rw [List.getLast?_eq_head?_reverse] at hlast ⊢
    exact head?_withHash (List.forall₂_reverse_iff.mpr h) hlast

/-! ## One script after the other -/

/-- Which lines the script writes again as they are. -/
theorem reorder_eq_self_iff (hclean : ∀ line ∈ lines, Clean line)
    (htight : Tight (fun line => line.isEmpty) lines)
    (hwell : ∀ B ∈ blocks [] lines, WellFormed B) :
    reorder σ (['\n'].intercalate lines ++ ['\n']) =
        ['\n'].intercalate lines ++ ['\n'] ↔
      ∀ B ∈ blocks [] lines,
        B.Pairwise fun p q => strcoll_extract_utils p q ≤ 0 := by
  have hlast : lines.getLast? ≠ some [] := by
    intro hend
    have hempty := htight.last [] hend
    contradiction
  have hsections := nonblankSections_of_clean hclean hlast
  constructor
  · intro hsame
    have hlist : BlobList (['\n'].intercalate lines ++ ['\n']) := by
      rw [blobList_iff, hsections]
      exact hwell
    have hsettled := writtenLines_settled (σ := σ) hlist
    rw [← hsections, ← hsame, reorder_eq, hsettled.nonblankSections_eq]
    exact hsettled.sorted
  · intro hsorted
    have hsettled : Settled lines :=
      ⟨hclean, htight, fun B hB => (hwell B hB).untangled, hsorted⟩
    exact hsettled.reorder_eq_self

/-- Settled lines that got hashes are written again as they are exactly if the
hashes keep the order of the sections. -/
theorem reorder_withHash_iff (hall : List.Forall₂ WithHash lines lines')
    (hsettled : Settled lines)
    (hsection : ∀ B ∈ blocks [] lines, WellFormed B ∧ Bare B) :
    run σ (some (['\n'].intercalate lines' ++ ['\n'])) =
        some (['\n'].intercalate lines' ++ ['\n']) ↔
      List.Forall₂ KeepsOrder
        (nonblankSections (['\n'].intercalate lines ++ ['\n']))
        (nonblankSections (['\n'].intercalate lines' ++ ['\n'])) := by
  have hclean : ∀ p ∈ lines', Clean p := by
    intro p' hp'
    rcases exists_mem_of_forall₂ hall hp' with ⟨p, hp, hwith⟩
    exact hwith.clean (hsettled.clean p hp)
  have htight := tight_withHash hall hsettled.tight
  have hlast : lines'.getLast? ≠ some [] := by
    intro hend
    have hempty := htight.last [] hend
    contradiction
  have hblocks : List.Forall₂ (List.Forall₂ WithHash) (blocks [] lines)
      (blocks [] lines') := forall₂_blocks (fun _ _ h => h.nil_iff) hall
  have hwell : ∀ B ∈ blocks [] lines', WellFormed B := by
    intro B' hB'
    rcases exists_mem_of_forall₂ hblocks hB' with ⟨B, hB, hwith⟩
    exact wellFormed_withHash hwith (hsection B hB).1
  rw [hsettled.nonblankSections_eq, nonblankSections_of_clean hclean hlast,
    ← sorted_iff_keepsOrder hblocks fun B hB => (hsection B hB).2,
    ← reorder_eq_self_iff hclean htight hwell, run, Option.map_some,
    Option.some_inj,
    universalNewlines_of_notMem (notMem_carriageReturn hclean)]

/-- A list that was ordered and then got its hashes is written again as it is
exactly if no line with a hash is continued by a later one of its section. -/
theorem reorder_pinned_iff (σ : StableSort strcoll_extract_utils)
    (fs : FileSystem) (sha1 : List UInt8 → List Char)
    (hhash : ∀ file, IsHash (sha1 file)) (argv : List (List Char))
    (hargv : ¬ UpdateSha1sums.Drops argv) (content written : List Char)
    (hlist : BlobList (universalNewlines content))
    (hfresh : Fresh (universalNewlines content))
    (hrun : run σ (some content) = some written) :
    run σ (some (UpdateSha1sums.run fs sha1 argv written)) =
        some (UpdateSha1sums.run fs sha1 argv written) ↔
      List.Forall₂ KeepsOrder (nonblankSections written)
        (nonblankSections (UpdateSha1sums.run fs sha1 argv written)) := by
  have hsettled := writtenLines_settled (σ := σ) hlist
  have hsection := fun B (hB : B ∈ blocks [] _) =>
    section_of_mem_blocks (σ := σ) hlist hfresh hB
  have hwritten : written = ['\n'].intercalate
      (writtenLines σ (universalNewlines content)) ++ ['\n'] := by
    rw [← reorder_eq]
    exact (Option.some.inj hrun).symm
  have hline : ∀ p ∈ writtenLines σ (universalNewlines content), p ≠ [] →
      (IsComment p ∨ PathLine p) ∧ '|' ∉ p := by
    intro p hp hne
    rcases exists_block_of_mem hp hne with ⟨B, hB, hmem⟩
    have hbare := (hsection B hB).2
    exact ⟨hbare.known p hmem, hbare.bar p hmem⟩
  have hbar : ∀ p ∈ writtenLines σ (universalNewlines content), '|' ∉ p := by
    intro p hp
    by_cases hne : p = []
    · rw [hne]
      exact List.not_mem_nil
    · exact (hline p hp hne).2
  rcases exists_run fs hhash hargv hsettled.clean hbar
      (fun p hp hne => (hline p hp hne).1) with ⟨lines', hpinned, hall⟩
  rw [hwritten, hpinned]
  exact reorder_withHash_iff hall hsettled hsection

/-- A blob under another name, and one whose line goes on where that of the
first ends. -/
def longerName : List Char :=
  "# A - from B\nvendor/a:b\nvendor/a:b.sh\n".toList

theorem reorder_pinned_iff_longerName :
    run (StableSort.merge strcoll_extract_utils)
        (some (UpdateSha1sums.run oneBlob blobSha1 [[]]
          (reorder (StableSort.merge strcoll_extract_utils) longerName))) =
      some (UpdateSha1sums.run oneBlob blobSha1 [[]]
        (reorder (StableSort.merge strcoll_extract_utils) longerName)) ↔
      List.Forall₂ KeepsOrder
        (nonblankSections
          (reorder (StableSort.merge strcoll_extract_utils) longerName))
        (nonblankSections (UpdateSha1sums.run oneBlob blobSha1 [[]]
          (reorder (StableSort.merge strcoll_extract_utils) longerName))) := by
  have hplain : universalNewlines longerName = longerName := by decide
  apply reorder_pinned_iff _ oneBlob blobSha1 _ [[]] _ longerName
  · rw [hplain]
    decide
  · rw [hplain]
    exact ⟨by decide, by decide⟩
  · rw [run, Option.map_some, hplain]
  · intro file
    unfold blobSha1
    split_ifs
    · exact isHash_of_all rfl
    · exact isHash_of_all rfl
  · decide

end Samurai.ReorderLibs
