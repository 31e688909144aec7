import Samurai.ReorderLibsOrder
import Samurai.ReorderLibsText

/-!
# A run of the script

What the script writes are lines joined by newlines whose blocks are in order,
without a blank one at either end.  Lines of this kind are written again as
they are: their sections are their groups, and sorting a group changes
nothing.
-/

namespace Samurai.ReorderLibs

/-! ## Blob lists -/

def IsComment (line : List Char) : Prop :=
  startswith line ['#'] = true

/-- A line that names a file, perhaps after a `-`. -/
structure PathLine (line : List Char) : Prop where
  uncommented : ¬ IsComment (removePrefix ['-'] line)
  slashed : '/' ∈ removePrefix ['-'] line

instance (line : List Char) : Decidable (IsComment line) :=
  inferInstanceAs (Decidable (startswith line ['#'] = true))

theorem pathLine_iff {line : List Char} :
    PathLine line ↔ ¬ IsComment (removePrefix ['-'] line) ∧
      '/' ∈ removePrefix ['-'] line :=
  ⟨fun h => ⟨h.uncommented, h.slashed⟩, fun h => ⟨h.1, h.2⟩⟩

instance (line : List Char) : Decidable (PathLine line) :=
  decidable_of_iff' _ pathLine_iff

structure WellFormed (lines : List (List Char)) : Prop where
  known : ∀ line ∈ lines, line ≠ [] → IsComment line ∨ PathLine line
  comments : (lines.filter fun line => IsComment line).length ≤ 1

theorem wellFormed_iff {lines : List (List Char)} :
    WellFormed lines ↔
      (∀ line ∈ lines, line ≠ [] → IsComment line ∨ PathLine line) ∧
        (lines.filter fun line => IsComment line).length ≤ 1 :=
  ⟨fun h => ⟨h.known, h.comments⟩, fun h => ⟨h.1, h.2⟩⟩

instance (lines : List (List Char)) : Decidable (WellFormed lines) :=
  decidable_of_iff' _ wellFormed_iff

/-- Every line of the text is blank, a comment or a path, and no section has
two comments. -/
def BlobList (text : List Char) : Prop :=
  ∀ part ∈ splitBlank text, WellFormed (section_list part)

instance (text : List Char) : Decidable (BlobList text) :=
  inferInstanceAs
    (Decidable (∀ part ∈ splitBlank text, WellFormed (section_list part)))

/-- The directory of `line1` is strictly below that of `line2`. -/
def Below (line1 line2 : List Char) : Prop :=
  let directory1 := directory (removePrefix ['-'] line1)
  let directory2 := directory (removePrefix ['-'] line2)
  directory2 <+: directory1 ∧ directory1 ≠ directory2

/-- Comparator order, and nothing strictly below the directory of a path
follows it. -/
structure InOrder (line1 line2 : List Char) : Prop where
  le : strcoll_extract_utils line1 line2 ≤ 0
  below : PathLine line1 → PathLine line2 → ¬ Below line2 line1

variable {lines lines' g : List (List Char)} {line line1 line2 text : List Char}
  {σ : StableSort strcoll_extract_utils}

theorem PathLine.ne_nil (h : PathLine line) : line ≠ [] := by
  rintro rfl
  have hslashed := h.slashed
  simp [removePrefix, startswith] at hslashed

theorem inOrder_of_le (hle : strcoll_extract_utils line1 line2 ≤ 0) :
    InOrder line1 line2 := by
  refine ⟨hle, ?_⟩
  rintro hpath1 hpath2 ⟨hbelow, hne⟩
  rw [strcoll_extract_utils_of_ne_nil hpath1.ne_nil hpath2.ne_nil] at hle
  unfold comparePaths at hle
  rw [if_neg fun h => h.1 hpath1.slashed] at hle
  simp only [startswith_iff] at hle
  rw [if_neg hne.symm, if_neg, if_pos hbelow] at hle
  · omega
  · intro hback
    exact hne (hback.eq_of_length_le hbelow.length_le)

/-! ## No cycles in a blob list -/

theorem Untangled.subset (h : Untangled lines)
    (hsubset : ∀ a ∈ lines', a = [] ∨ a ∈ lines) : Untangled lines' := by
  intro a ha b hb c hc htangle
  have ha := (hsubset a ha).resolve_left htangle.left
  have hb := (hsubset b hb).resolve_left htangle.middle
  have hc := (hsubset c hc).resolve_left htangle.right
  exact h a ha b hb c hc htangle

theorem isComment_iff : IsComment line ↔ ∃ t, line = '#' :: t := by
  unfold IsComment
  rw [startswith_iff]
  constructor
  · rintro ⟨t, ht⟩
    exact ⟨t, ht.symm⟩
  · rintro ⟨t, rfl⟩
    exact ⟨t, rfl⟩

theorem IsComment.removePrefix_eq (h : IsComment line) :
    removePrefix ['-'] line = line := by
  rcases isComment_iff.mp h with ⟨t, rfl⟩
  rfl

theorem WellFormed.comment_unique (h : WellFormed lines)
    (hmem1 : line1 ∈ lines) (hmem2 : line2 ∈ lines)
    (hcomment1 : IsComment line1) (hcomment2 : IsComment line2) :
    line1 = line2 := by
  have hmem1 : line1 ∈ lines.filter fun line => IsComment line := by
    simp [hmem1, hcomment1]
  have hmem2 : line2 ∈ lines.filter fun line => IsComment line := by
    simp [hmem2, hcomment2]
  have hcomments := h.comments
  generalize lines.filter (fun line => IsComment line) = comments at *
  cases comments with
  | nil => contradiction
  | cons comment rest =>
      have hrest : rest = [] := by
        simpa using hcomments
      subst hrest
      rw [List.mem_singleton.mp hmem1, List.mem_singleton.mp hmem2]

/-- A line without a `/` is the comment of its section, and no path and no
other comment begins with it. -/
theorem WellFormed.not_straddles {q : List Char} (h : WellFormed lines)
    (hp : line1 ∈ lines) (hpne : line1 ≠ [])
    (hr : line2 ∈ lines) (hrne : line2 ≠ []) :
    ¬ Straddles (removePrefix ['-'] line1) q (removePrefix ['-'] line2) := by
  rintro ⟨hplain, _, t, ht, _⟩
  rcases h.known line1 hp hpne with hcomment1 | hpath
  · have hstart : IsComment (removePrefix ['-'] line2) := by
      rw [ht, hcomment1.removePrefix_eq]
      rcases isComment_iff.mp hcomment1 with ⟨u, rfl⟩
      exact isComment_iff.mpr ⟨u ++ '/' :: t, rfl⟩
    rcases h.known line2 hr hrne with hcomment2 | hpath
    · have hsame := h.comment_unique hp hr hcomment1 hcomment2
      rw [hsame] at ht
      have hlength := congrArg List.length ht
      simp at hlength
    · exact hpath.uncommented hstart
  · exact hplain hpath.slashed

theorem WellFormed.untangled (h : WellFormed lines) : Untangled lines := by
  rintro a ha b hb c hc ⟨hane, hbne, hcne, hab | hbc | hca⟩
  · exact h.not_straddles ha hane hc hcne hab
  · exact h.not_straddles hb hbne ha hane hbc
  · exact h.not_straddles hc hcne hb hbne hca

/-! ## Settled lines -/

/-- Lines that the script writes again as they are. -/
structure Settled (lines : List (List Char)) : Prop where
  clean : ∀ line ∈ lines, Clean line
  tight : Tight (fun line => line.isEmpty) lines
  untangled : ∀ B ∈ blocks [] lines, Untangled B
  sorted : ∀ B ∈ blocks [] lines,
    B.Pairwise fun a b => strcoll_extract_utils a b ≤ 0

theorem Settled.getLast?_ne (h : Settled lines) :
    lines.getLast? ≠ some [] := by
  intro hlast
  have hempty := h.tight.last [] hlast
  contradiction

theorem Settled.isGroup (h : Settled lines) (hne : lines ≠ [])
    (hg : g ∈ groups [] lines) : IsGroup [] g :=
  isGroup_of_mem_groups hne h.getLast?_ne g hg

theorem mem_blocks_of_group {B : List (List Char)} (hg : g ∈ groups [] lines)
    (hB : B ∈ blocks [] g) : B ∈ blocks [] lines := by
  rw [← intercalate_groups (b := []) (l := lines), blocks_intercalate,
    List.mem_flatMap]
  exact ⟨g, hg, hB⟩

/-- Each group of settled lines is in the order of a lawful comparator. -/
theorem Settled.group (h : Settled lines) (hne : lines ≠ [])
    (hg : g ∈ groups [] lines) :
    LawfulOn strcoll_extract_utils g ∧
      g.Pairwise fun a b => strcoll_extract_utils a b ≤ 0 := by
  rcases h.isGroup hne hg with rfl | ⟨B, hBne, hB, rfl | rfl⟩
  · constructor
    · apply Untangled.lawfulOn
      intro a ha b hb c hc htangle
      exact htangle.left (List.mem_singleton.mp ha)
    · simp
  · have hblock := mem_blocks_of_group (B := g) hg
      (by simp [blocks_of_notMem hB hBne])
    exact ⟨(h.untangled g hblock).lawfulOn, h.sorted g hblock⟩
  · have hblock := mem_blocks_of_group (B := B) hg
      (by simp [blocks_cons_self, blocks_of_notMem hB hBne])
    constructor
    · apply Untangled.lawfulOn
      apply (h.untangled B hblock).subset
      intro a ha
      exact List.mem_cons.mp ha
    · rw [List.pairwise_cons]
      exact ⟨fun a _ => strcoll_extract_utils_nil_left, h.sorted B hblock⟩

theorem clean_of_mem_group (hlines : ∀ line ∈ lines, Clean line)
    (hg : g ∈ groups [] lines) : ∀ line ∈ g, Clean line := by
  intro line hline
  apply hlines
  rw [← intercalate_groups (b := []) (l := lines)]
  exact mem_intercalate_of_mem hg hline

/-- What is read of a group that was written. -/
def reread (g : List (List Char)) : List (List Char) :=
  if g = [[]] then [] else g

theorem section_list_group (hg : IsGroup [] g)
    (hclean : ∀ line ∈ g, Clean line) :
    section_list (['\n'].intercalate g) = reread g := by
  unfold reread
  split_ifs with hblank
  · rw [hblank]
    rfl
  · rcases List.eq_nil_or_concat' g with rfl | ⟨front, last, rfl⟩
    · exact absurd rfl hg.ne_nil
    · rw [section_list_intercalate (fun line hline => hclean line (by simp [hline]))
        (hclean last (by simp)), if_neg (hg.last_ne hblank)]

theorem section_list_last_group (hclean : ∀ line ∈ g, Clean line) :
    section_list (['\n'].intercalate (g ++ [[]])) = g := by
  rw [section_list_intercalate hclean clean_nil, if_pos rfl, List.append_nil]

/-- The sections read of written lines are their groups. -/
theorem section_lists_of_clean (hclean : ∀ line ∈ lines, Clean line)
    (hlast : lines.getLast? ≠ some []) (hne : lines ≠ []) :
    (splitBlank (['\n'].intercalate lines ++ ['\n'])).map section_list =
      (groups [] lines).map reread := by
  have hnewline : ['\n'].intercalate lines ++ ['\n'] =
      ['\n'].intercalate (lines ++ [[]]) := by
    rw [intercalate_append hne (by simp), List.intercalate_singleton,
      List.append_nil]
  have hnobreak : ∀ line ∈ lines ++ [[]], '\n' ∉ line := by
    intro line hline
    rcases List.mem_append.mp hline with hline | hline
    · exact (hclean line hline).noBreak.notMem_newline
    · rw [List.mem_singleton.mp hline]
      simp
  rcases groups_concat hne hlast with ⟨gs, g, hgs, hgs'⟩
  rw [hnewline, splitBlank_intercalate hnobreak, hgs', hgs]
  simp only [List.map_append, List.map_map, List.map_cons, List.map_nil]
  have hmem : ∀ f ∈ gs ++ [g], f ∈ groups [] lines := by
    rw [hgs]
    exact fun _ hf => hf
  have hg : IsGroup [] g :=
    isGroup_of_mem_groups hne hlast g (hmem g (by simp))
  have hnotBlank : g ≠ [[]] := by
    rintro rfl
    have hend := getLast?_of_groups hgs (by simp)
    exact hlast hend.symm
  congr 1
  · apply List.map_congr_left
    intro f hf
    have hf := hmem f (by simp [hf])
    exact section_list_group (isGroup_of_mem_groups hne hlast f hf)
      (clean_of_mem_group hclean hf)
  · rw [section_list_last_group
      (clean_of_mem_group hclean (hmem g (by simp)))]
    simp [reread, hnotBlank]

theorem Settled.section_lists (h : Settled lines) (hne : lines ≠ []) :
    (splitBlank (['\n'].intercalate lines ++ ['\n'])).map section_list =
      (groups [] lines).map reread :=
  section_lists_of_clean h.clean h.getLast?_ne hne

theorem Settled.sort_group (h : Settled lines) (hne : lines ≠ [])
    (hg : g ∈ groups [] lines) :
    ['\n'].intercalate (σ.sort (reread g)) = ['\n'].intercalate g := by
  unfold reread
  split_ifs with hblank
  · have hnil : σ.sort [] = [] := (σ.perm []).eq_nil
    rw [hblank, hnil]
    rfl
  · rcases h.group hne hg with ⟨hlawful, hsorted⟩
    rw [σ.sort_eq_self hlawful hsorted]

theorem Settled.strip_eq_self (h : Settled lines) :
    strip (['\n'].intercalate lines) = ['\n'].intercalate lines := by
  unfold strip
  rw [trim_intercalate rfl fun line hline => (h.clean line hline).tight,
    h.tight.trim_eq_self]

/-- Sections with their blank lines between them, as lines. -/
theorem intercalate_sections {gs : List (List (List Char))}
    (hgs : ∀ g ∈ gs, g ≠ []) :
    ['\n', '\n'].intercalate (gs.map ['\n'].intercalate) =
      ['\n'].intercalate ([[]].intercalate gs) := by
  induction gs with
  | nil => rfl
  | cons g gs ih =>
      have ih := ih fun h hh => hgs h (by simp [hh])
      by_cases hne : gs = []
      · subst hne
        simp
      · have hrest : [[]].intercalate gs ≠ [] := by
          rcases List.exists_cons_of_ne_nil hne with ⟨f, fs, rfl⟩
          rcases List.exists_cons_of_ne_nil (hgs f (by simp)) with ⟨line, g, rfl⟩
          exact List.ne_nil_of_mem
            (mem_intercalate_of_mem (l := line :: g) (a := line) (by simp)
              (by simp))
        have hlines : ['\n'].intercalate (g ++ [[]] ++ [[]].intercalate gs) =
            ['\n'].intercalate g ++ ['\n', '\n'] ++
              ['\n'].intercalate ([[]].intercalate gs) := by
          rw [List.append_assoc, List.singleton_append,
            intercalate_append (hgs g (by simp)) (by simp),
            List.intercalate_cons_of_ne_nil hrest]
          simp
        rw [List.map_cons, List.intercalate_cons_of_ne_nil (by simpa using hne),
          ih, List.intercalate_cons_of_ne_nil hne, hlines]

/-- Settled lines are written again as they are. -/
theorem Settled.reorder_eq_self (h : Settled lines) :
    reorder σ (['\n'].intercalate lines ++ ['\n']) =
      ['\n'].intercalate lines ++ ['\n'] := by
  by_cases hne : lines = []
  · subst hne
    have hsort : σ.sort [[]] = [[]] := List.perm_singleton.mp (σ.perm [[]])
    have hordered : ordered_sections σ (splitBlank ['\n']) = [[]] := by
      have hlist : section_list ['\n'] = [[]] := rfl
      have hsplit : splitBlank ['\n'] = [['\n']] := rfl
      unfold ordered_sections
      rw [hsplit, List.map_singleton, hlist, hsort]
      rfl
    have hempty : ['\n'].intercalate ([] : List (List Char)) ++ ['\n'] =
        ['\n'] := rfl
    unfold reorder
    rw [hempty, hordered]
    rfl
  · have hordered : ordered_sections σ
        (splitBlank (['\n'].intercalate lines ++ ['\n'])) =
        (groups [] lines).map ['\n'].intercalate := by
      have hlists := h.section_lists hne
      have hmap : ordered_sections σ
          (splitBlank (['\n'].intercalate lines ++ ['\n'])) =
          ((splitBlank (['\n'].intercalate lines ++ ['\n'])).map
            section_list).map fun part => ['\n'].intercalate (σ.sort part) := by
        rw [List.map_map]
        rfl
      rw [hmap, hlists, List.map_map]
      apply List.map_congr_left
      intro g hg
      exact h.sort_group hne hg
    unfold reorder
    rw [hordered, intercalate_sections, intercalate_groups, h.strip_eq_self]
    intro g hg
    exact (h.isGroup hne hg).ne_nil

/-! ## What the script writes -/

/-- The lines written for a section. -/
def writtenSection (σ : StableSort strcoll_extract_utils) (part : List Char) :
    List (List Char) :=
  let sorted := σ.sort (section_list part)
  if sorted = [] then [[]] else sorted

def writtenLines (σ : StableSort strcoll_extract_utils) (text : List Char) :
    List (List Char) :=
  trim (fun line => line.isEmpty)
    ([[]].intercalate ((splitBlank text).map (writtenSection σ)))

theorem writtenSection_ne_nil {part : List Char} :
    writtenSection σ part ≠ [] := by
  unfold writtenSection
  dsimp only
  split_ifs with hempty
  · simp
  · exact hempty

theorem intercalate_writtenSection {part : List Char} :
    ['\n'].intercalate (writtenSection σ part) =
      ['\n'].intercalate (σ.sort (section_list part)) := by
  unfold writtenSection
  dsimp only
  split_ifs with hempty
  · rw [hempty]
    rfl
  · rfl

theorem filter_writtenSection {part : List Char} :
    ((writtenSection σ part).filter fun line => line ≠ []) =
      (σ.sort (section_list part)).filter fun line => line ≠ [] := by
  unfold writtenSection
  dsimp only
  split_ifs with hempty
  · rw [hempty]
    rfl
  · rfl

theorem clean_writtenSection {part : List Char} :
    ∀ line ∈ writtenSection σ part, Clean line := by
  intro line hline
  unfold writtenSection at hline
  dsimp only at hline
  split_ifs at hline
  · rw [List.mem_singleton.mp hline]
    exact clean_nil
  · exact clean_of_mem_section_list ((σ.perm _).mem_iff.mp hline)

theorem clean_joined {gs : List (List (List Char))}
    (hgs : ∀ g ∈ gs, ∀ line ∈ g, Clean line) :
    ∀ line ∈ [[]].intercalate gs, Clean line := by
  intro line hline
  rcases mem_intercalate hline with hblank | ⟨g, hg, hline⟩
  · rw [List.mem_singleton.mp hblank]
    exact clean_nil
  · exact hgs g hg line hline

theorem clean_joinedSections {parts : List (List Char)} :
    ∀ line ∈ [[]].intercalate (parts.map (writtenSection σ)), Clean line := by
  apply clean_joined
  intro g hg
  rcases List.mem_map.mp hg with ⟨part, _, rfl⟩
  exact clean_writtenSection

theorem reorder_eq :
    reorder σ text = ['\n'].intercalate (writtenLines σ text) ++ ['\n'] := by
  have hordered : ordered_sections σ (splitBlank text) =
      ((splitBlank text).map (writtenSection σ)).map ['\n'].intercalate := by
    unfold ordered_sections
    rw [List.map_map]
    apply List.map_congr_left
    intro part _
    exact intercalate_writtenSection.symm
  unfold reorder writtenLines
  rw [hordered, intercalate_sections]
  · unfold strip
    rw [trim_intercalate rfl]
    intro line hline
    exact (clean_joinedSections line hline).tight
  · intro g hg
    rcases List.mem_map.mp hg with ⟨part, _, rfl⟩
    exact writtenSection_ne_nil

/-- In comparator order blank lines come first. -/
theorem blanksFirst_of_sorted
    (h : lines.Pairwise fun a b => strcoll_extract_utils a b ≤ 0) :
    BlanksFirst [] lines := by
  induction lines with
  | nil => exact ⟨0, [], rfl, by simp⟩
  | cons line lines ih =>
      rcases List.pairwise_cons.mp h with ⟨hline, hlines⟩
      by_cases hblank : line = []
      · rcases ih hlines with ⟨k, B, rfl, hB⟩
        exact ⟨k + 1, B, by rw [hblank]; rfl, hB⟩
      · refine ⟨0, line :: lines, rfl, ?_⟩
        simp only [List.mem_cons, not_or]
        refine ⟨fun h => hblank h.symm, ?_⟩
        intro hmem
        exact hblank (eq_nil_of_le_nil (hline [] hmem))

theorem blanksFirst_writtenSection {part : List Char}
    (hpart : WellFormed (section_list part)) :
    BlanksFirst [] (writtenSection σ part) := by
  unfold writtenSection
  dsimp only
  split_ifs
  · exact ⟨1, [], rfl, by simp⟩
  · exact blanksFirst_of_sorted (σ.sorted _ hpart.untangled.lawfulOn)

/-- The blocks written are the sections without their blank lines. -/
theorem blocks_writtenLines (htext : BlobList text) :
    blocks [] (writtenLines σ text) =
      ((splitBlank text).map fun part =>
        (σ.sort (section_list part)).filter fun line => line ≠ []).filter
          fun B => B ≠ [] := by
  unfold writtenLines
  rw [blocks_trim (b := []) (by simp), blocks_joined, List.map_map]
  · congr 1
    apply List.map_congr_left
    intro part _
    exact filter_writtenSection
  · intro g hg
    rcases List.mem_map.mp hg with ⟨part, hpart, rfl⟩
    exact blanksFirst_writtenSection (htext part hpart)

theorem writtenLines_settled (htext : BlobList text) :
    Settled (writtenLines σ text) := by
  have hblock : ∀ B ∈ blocks [] (writtenLines σ text),
      ∃ part ∈ splitBlank text,
        B = (σ.sort (section_list part)).filter fun line => line ≠ [] := by
    intro B hB
    rw [blocks_writtenLines htext] at hB
    rcases List.mem_map.mp (List.mem_filter.mp hB).1 with ⟨part, hpart, rfl⟩
    exact ⟨part, hpart, rfl⟩
  refine ⟨?_, trim_tight _ _, ?_, ?_⟩
  · intro line hline
    exact clean_joinedSections line (mem_of_mem_trim hline)
  · intro B hB
    rcases hblock B hB with ⟨part, hpart, rfl⟩
    apply (htext part hpart).untangled.subset
    intro line hline
    exact Or.inr ((σ.perm _).mem_iff.mp (List.mem_filter.mp hline).1)
  · intro B hB
    rcases hblock B hB with ⟨part, hpart, rfl⟩
    exact (σ.sorted _ (htext part hpart).untangled.lawfulOn).filter _

/-! ## A run of the script -/

/-- The lines of each section of a text, without blank lines and sections. -/
def nonblankSections (text : List Char) : List (List (List Char)) :=
  ((splitBlank text).map nonblankLines).filter fun part => part ≠ []

theorem nonblankLines_eq_flatten :
    nonblankLines text = (nonblankSections text).flatten := by
  unfold nonblankSections
  rw [List.flatten_filter_ne_nil, ← List.flatMap_def,
    ← nonblankLines_intercalate, intercalate_splitBlank]

theorem filter_reread :
    ((reread g).filter fun line => line ≠ []) =
      g.filter fun line => line ≠ [] := by
  unfold reread
  split_ifs with hblank
  · rw [hblank]
    rfl
  · rfl

/-- The sections read of written lines are their blocks. -/
theorem nonblankSections_of_clean (hclean : ∀ line ∈ lines, Clean line)
    (hlast : lines.getLast? ≠ some []) :
    nonblankSections (['\n'].intercalate lines ++ ['\n']) =
      blocks [] lines := by
  by_cases hne : lines = []
  · subst hne
    rw [blocks_nil]
    rfl
  · have hmap : (splitBlank (['\n'].intercalate lines ++ ['\n'])).map
        nonblankLines =
        ((groups [] lines).map fun g => g.filter fun line => line ≠ []) := by
      have hlists := congrArg
        (List.map fun part => part.filter fun line : List Char => line ≠ [])
        (section_lists_of_clean hclean hlast hne)
      rw [List.map_map, List.map_map] at hlists
      refine hlists.trans ?_
      apply List.map_congr_left
      intro g _
      exact filter_reread
    unfold nonblankSections
    rw [hmap, ← blocks_joined fun g hg =>
        (isGroup_of_mem_groups hne hlast g hg).blanksFirst,
      intercalate_groups]

theorem Settled.nonblankSections_eq (h : Settled lines) :
    nonblankSections (['\n'].intercalate lines ++ ['\n']) =
      blocks [] lines :=
  nonblankSections_of_clean h.clean h.getLast?_ne

theorem Settled.inOrder (h : Settled lines) :
    ∀ part ∈ splitBlank (['\n'].intercalate lines ++ ['\n']),
      (section_list part).Pairwise InOrder := by
  intro part hpart
  by_cases hne : lines = []
  · subst hne
    have hsplit : splitBlank ['\n'] = [['\n']] := rfl
    have hpart : part = ['\n'] := List.mem_singleton.mp (hsplit ▸ hpart)
    have hlist : section_list ['\n'] = [[]] := rfl
    rw [hpart, hlist]
    exact List.pairwise_singleton _ _
  · have hmem : section_list part ∈ (groups [] lines).map reread := by
      rw [← h.section_lists hne]
      exact List.mem_map_of_mem hpart
    rcases List.mem_map.mp hmem with ⟨g, hg, hlist⟩
    rw [← hlist]
    unfold reread
    split_ifs
    · exact List.Pairwise.nil
    · exact (h.group hne hg).2.imp inOrder_of_le

theorem notMem_carriageReturn (hlines : ∀ line ∈ lines, Clean line) :
    '\r' ∉ ['\n'].intercalate lines ++ ['\n'] := by
  intro hmem
  rcases List.mem_append.mp hmem with hmem | hmem
  · rcases mem_intercalate hmem with hnewline | ⟨line, hline, hmem⟩
    · simp at hnewline
    · have hbreak := (hlines line hline).noBreak '\r' hmem
      contradiction
  · simp at hmem

theorem perm_nonblankSections (htext : BlobList text) :
    List.Forall₂ List.Perm (nonblankSections text)
      (blocks [] (writtenLines σ text)) := by
  rw [blocks_writtenLines htext]
  unfold nonblankSections
  induction splitBlank text with
  | nil => exact List.Forall₂.nil
  | cons part parts ih =>
      have hperm : (nonblankLines part).Perm
          ((σ.sort (section_list part)).filter fun line => line ≠ []) :=
        (σ.perm (section_list part)).symm.filter _
      rw [List.map_cons, List.map_cons, List.filter_cons, List.filter_cons]
      by_cases hempty : nonblankLines part = []
      · have hempty' : ((σ.sort (section_list part)).filter
            fun line => line ≠ []) = [] :=
          (hempty ▸ hperm).nil_eq.symm
        rw [if_neg (by simpa using hempty), if_neg (by simpa using hempty')]
        exact ih
      · have hne' : ((σ.sort (section_list part)).filter
            fun line => line ≠ []) ≠ [] := by
          intro h
          exact hempty (h ▸ hperm).eq_nil
        rw [if_pos (by simpa using hempty), if_pos (by simpa using hne')]
        exact List.Forall₂.cons hperm ih

/-- The script keeps a blob list: sections keep their lines and come in the
same order, every section is in order, and a second run changes nothing. -/
theorem run_blobList (σ : StableSort strcoll_extract_utils)
    (content written : List Char)
    (hcontent : BlobList (universalNewlines content))
    (hrun : run σ (some content) = some written) :
    List.Forall₂ List.Perm (nonblankSections (universalNewlines content))
        (nonblankSections written) ∧
      (nonblankLines (universalNewlines content)).Perm
        (nonblankLines written) ∧
      (∀ part ∈ splitBlank written, (section_list part).Pairwise InOrder) ∧
      run σ (some written) = some written := by
  have hsettled := writtenLines_settled (σ := σ) hcontent
  have hwritten : written = ['\n'].intercalate
      (writtenLines σ (universalNewlines content)) ++ ['\n'] := by
    rw [← reorder_eq]
    exact (Option.some.inj hrun).symm
  have hsections : List.Forall₂ List.Perm
      (nonblankSections (universalNewlines content))
      (nonblankSections written) := by
    rw [hwritten, hsettled.nonblankSections_eq]
    exact perm_nonblankSections hcontent
  refine ⟨hsections, ?_, ?_, ?_⟩
  · rw [nonblankLines_eq_flatten, nonblankLines_eq_flatten]
    exact List.Perm.flatten_congr hsections
  · rw [hwritten]
    exact hsettled.inOrder
  · have hread : universalNewlines written = written := by
      apply universalNewlines_of_notMem
      rw [hwritten]
      exact notMem_carriageReturn hsettled.clean
    unfold run
    rw [Option.map_some, hread, hwritten, hsettled.reorder_eq_self]

/-- A comment, three paths, a longer gap and a line that looks blank. -/
def smallList : List Char :=
  "# HALs\nvendor/a\n-vendor/lib/b\nsystem/c;hash\n\n\n \nodm/d\n".toList

theorem run_smallList :
    BlobList (universalNewlines smallList) ∧
      run (StableSort.merge strcoll_extract_utils) (some smallList) =
        some (reorder (StableSort.merge strcoll_extract_utils)
          (universalNewlines smallList)) ∧
      (∀ part ∈ splitBlank (reorder (StableSort.merge strcoll_extract_utils)
          (universalNewlines smallList)),
        (section_list part).Pairwise InOrder) :=
  ⟨by decide, rfl,
    (run_blobList (StableSort.merge strcoll_extract_utils) smallList _
      (by decide) rfl).2.2.1⟩

end Samurai.ReorderLibs
