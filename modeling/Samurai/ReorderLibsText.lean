import Samurai.ReorderLibsModel

/-!
# Lines and sections of a text

The methods of `str` that the script calls, on texts which are lines joined by
newlines: splitting them gives the lines, or the groups of lines, back.
-/

namespace Samurai.ReorderLibs

variable {line text rest : List Char} {lines : List (List Char)}

/-! ## Sections -/

theorem splitBlank_ne_nil (text : List Char) : splitBlank text ≠ [] := by
  fun_induction splitBlank text with
  | case1 => simp
  | case2 => simp
  | case3 => exact prependFirst_ne_nil

theorem intercalate_splitBlank :
    ['\n', '\n'].intercalate (splitBlank text) = text := by
  fun_induction splitBlank text with
  | case1 => simp
  | case2 rest ih =>
      rw [List.intercalate_cons_of_ne_nil (splitBlank_ne_nil _), ih]
      rfl
  | case3 c rest hc ih =>
      rw [intercalate_prependFirst (splitBlank_ne_nil _), ih]

theorem splitBlank_cons {c : Char} (hc : c ≠ '\n' ∨ rest.head? ≠ some '\n') :
    splitBlank (c :: rest) = prependFirst c (splitBlank rest) := by
  rw [splitBlank.eq_def]
  split
  · contradiction
  · rename_i heq
    cases heq
    simp at hc
  · rename_i heq
    cases heq
    rfl

theorem splitBlank_append (hline : '\n' ∉ line) (rest : List Char) :
    splitBlank (line ++ rest) =
      (splitBlank rest).modifyHead fun part => line ++ part := by
  induction line with
  | nil =>
      rcases List.exists_cons_of_ne_nil (splitBlank_ne_nil rest) with
        ⟨part, parts, hparts⟩
      simp [hparts]
  | cons c line ih =>
      simp only [List.mem_cons, not_or] at hline
      rw [List.cons_append, splitBlank_cons (Or.inl fun h => hline.1 h.symm),
        ih hline.2]
      rcases List.exists_cons_of_ne_nil (splitBlank_ne_nil rest) with
        ⟨part, parts, hparts⟩
      simp [hparts, prependFirst]

theorem head?_intercalate_ne (hsplit : ¬ (line = [] ∧ lines ≠ []))
    (hline : '\n' ∉ line) :
    (['\n'].intercalate (line :: lines)).head? ≠ some '\n' := by
  cases line with
  | nil =>
      have hlines : lines = [] := by
        by_contra hne
        exact hsplit ⟨rfl, hne⟩
      simp [hlines]
  | cons c line =>
      simp only [List.mem_cons, not_or] at hline
      have hc : c ≠ '\n' := fun h => hline.1 h.symm
      cases lines with
      | nil => simpa using hc
      | cons next lines => simpa [List.intercalate_cons_cons] using hc

/-- The sections of joined lines are their groups. -/
theorem splitBlank_intercalate (hlines : ∀ line ∈ lines, '\n' ∉ line) :
    splitBlank (['\n'].intercalate lines) =
      (groups [] lines).map ['\n'].intercalate := by
  induction lines using groups.induct ([] : List Char) with
  | case1 => rfl
  | case2 line =>
      have hsplit := splitBlank_append (hlines line (by simp)) []
      simpa [groups, splitBlank] using hsplit
  | case3 line next lines hsplit ih =>
      have ih := ih fun m hm => hlines m (by simp [hm])
      have hline := hlines line (by simp)
      rw [groups, if_pos hsplit, hsplit.1, List.intercalate_cons_cons,
        List.intercalate_cons_of_ne_nil hsplit.2, List.append_assoc,
        splitBlank_append hline _]
      simp only [List.nil_append, List.singleton_append]
      rw [splitBlank, ih]
      simp
  | case4 line next lines hsplit ih =>
      have ih := ih fun m hm => hlines m (by simp [hm])
      have hline := hlines line (by simp)
      have hhead : (['\n'].intercalate (next :: lines)).head? ≠ some '\n' :=
        head?_intercalate_ne hsplit (hlines next (by simp))
      rcases head_groups [] next lines with
        ⟨g, gs, hgs⟩
      rw [groups, if_neg hsplit, List.intercalate_cons_cons, List.append_assoc,
        splitBlank_append hline _, List.singleton_append,
        splitBlank_cons (Or.inr hhead), ih, hgs]
      simp [prependFirst, List.intercalate_cons_cons]

/-! ## Lines -/

def NoBreak (line : List Char) : Prop :=
  ∀ c ∈ line, isLineBreak c = false

theorem NoBreak.notMem_newline (hline : NoBreak line) : '\n' ∉ line := by
  intro h
  have hbreak := hline '\n' h
  contradiction

theorem splitlines_cons {c : Char} (hc : isLineBreak c = false) :
    splitlines (c :: rest) = prependFirst c (splitlines rest) := by
  rw [splitlines.eq_def]
  split
  · contradiction
  · rename_i heq
    cases heq
    contradiction
  · rename_i heq
    cases heq
    simp [hc]

theorem splitlines_newline : splitlines ('\n' :: rest) = [] :: splitlines rest := by
  rw [splitlines.eq_def]
  rfl

theorem splitlines_append (hline : NoBreak line) :
    splitlines (line ++ '\n' :: rest) = line :: splitlines rest := by
  induction line with
  | nil => exact splitlines_newline
  | cons c line ih =>
      have ih := ih fun d hd => hline d (by simp [hd])
      rw [List.cons_append, splitlines_cons (hline c (by simp)), ih]
      rfl

theorem splitlines_noBreak (hline : NoBreak line) :
    splitlines line = if line = [] then [] else [line] := by
  induction line with
  | nil => rfl
  | cons c line ih =>
      have ih := ih fun d hd => hline d (by simp [hd])
      rw [splitlines_cons (hline c (by simp)), ih]
      cases line with
      | nil => rfl
      | cons d line => rfl

/-- Joined lines are split again, but for an empty one at the end. -/
theorem splitlines_intercalate (hlines : ∀ line ∈ lines, NoBreak line)
    (hline : NoBreak line) :
    splitlines (['\n'].intercalate (lines ++ [line])) =
      lines ++ if line = [] then [] else [line] := by
  induction lines with
  | nil => simpa using splitlines_noBreak hline
  | cons first lines ih =>
      have ih := ih fun m hm => hlines m (by simp [hm])
      rw [List.cons_append, List.intercalate_cons_of_ne_nil (by simp),
        List.append_assoc, List.singleton_append,
        splitlines_append (hlines first (by simp)), ih]
      rfl

theorem noBreak_prependFirst {c : Char} (hc : isLineBreak c = false)
    (hlines : ∀ line ∈ lines, NoBreak line) :
    ∀ line ∈ prependFirst c lines, NoBreak line := by
  cases lines with
  | nil =>
      intro line hline d hd
      simp only [prependFirst, List.mem_singleton] at hline
      subst hline
      have hd : d = c := by simpa using hd
      rw [hd]
      exact hc
  | cons first lines =>
      intro line hline
      rcases List.mem_cons.mp hline with rfl | hline
      · intro d hd
        rcases List.mem_cons.mp hd with rfl | hd
        · exact hc
        · exact hlines first (by simp) d hd
      · exact hlines line (by simp [hline])

theorem noBreak_of_mem_splitlines :
    ∀ line ∈ splitlines text, NoBreak line := by
  fun_induction splitlines text with
  | case1 => simp
  | case2 rest ih =>
      intro line hline
      rcases List.mem_cons.mp hline with rfl | hline
      · simp [NoBreak]
      · exact ih line hline
  | case3 c rest _ _ ih =>
      intro line hline
      rcases List.mem_cons.mp hline with rfl | hline
      · simp [NoBreak]
      · exact ih line hline
  | case4 c rest _ hc ih =>
      exact noBreak_prependFirst (by simpa using hc) ih

/-- A line that was stripped and holds no line break. -/
structure Clean (line : List Char) : Prop where
  noBreak : NoBreak line
  tight : Tight isspace line

theorem Clean.strip_eq_self (hline : Clean line) : strip line = line :=
  hline.tight.trim_eq_self

theorem clean_nil : Clean [] :=
  ⟨by simp [NoBreak], ⟨by simp, by simp⟩⟩

theorem clean_of_mem_section_list (hline : line ∈ section_list text) :
    Clean line := by
  rcases List.mem_map.mp hline with ⟨raw, hraw, rfl⟩
  constructor
  · intro c hc
    exact noBreak_of_mem_splitlines raw hraw c (mem_of_mem_trim hc)
  · exact trim_tight isspace raw

theorem map_strip_eq_self (hlines : ∀ line ∈ lines, Clean line) :
    lines.map strip = lines := by
  conv_rhs => rw [← List.map_id lines]
  apply List.map_congr_left
  intro line hline
  exact (hlines line hline).strip_eq_self

/-- The lines of a section that is written are read again. -/
theorem section_list_intercalate (hlines : ∀ line ∈ lines, Clean line)
    (hline : Clean line) :
    section_list (['\n'].intercalate (lines ++ [line])) =
      lines ++ if line = [] then [] else [line] := by
  unfold section_list
  rw [splitlines_intercalate (fun m hm => (hlines m hm).noBreak) hline.noBreak]
  apply map_strip_eq_self
  intro m hm
  rcases List.mem_append.mp hm with hm | hm
  · exact hlines m hm
  · split_ifs at hm
    · contradiction
    · rw [List.mem_singleton.mp hm]
      exact hline

/-! ## Lines that are not blank -/

/-- The stripped lines of a text that are not blank. -/
def nonblankLines (text : List Char) : List (List Char) :=
  (section_list text).filter fun line => line ≠ []

theorem splitlines_break {c : Char} (hc : isLineBreak c = true)
    (hcrlf : c = '\r' → rest.head? ≠ some '\n') :
    splitlines (c :: rest) = [] :: splitlines rest := by
  rw [splitlines.eq_def]
  split
  · contradiction
  · rename_i heq
    cases heq
    simp at hcrlf
  · rename_i heq
    cases heq
    simp [hc]

theorem splitlines_ne_nil (c : Char) (text : List Char) :
    splitlines (c :: text) ≠ [] := by
  rw [splitlines.eq_def]
  split
  · contradiction
  · simp
  · split_ifs
    · simp
    · exact prependFirst_ne_nil

/-- A newline between two texts separates their lines, and may leave a blank
one. -/
theorem splitlines_append_newline (text rest : List Char) :
    ∃ k, splitlines (text ++ '\n' :: rest) =
      splitlines text ++ List.replicate k [] ++ splitlines rest := by
  fun_induction splitlines text with
  | case1 => exact ⟨1, splitlines_newline⟩
  | case2 text ih =>
      rcases ih with ⟨k, hk⟩
      refine ⟨k, ?_⟩
      simp only [List.cons_append]
      rw [splitlines, hk]
  | case3 c text hcrlf hc ih =>
      by_cases hend : c = '\r' ∧ text = []
      · rw [hend.1, hend.2]
        exact ⟨0, rfl⟩
      · rcases ih with ⟨k, hk⟩
        refine ⟨k, ?_⟩
        rw [List.cons_append, splitlines_break hc, hk]
        · rfl
        · intro hcr
          cases text with
          | nil => exact absurd ⟨hcr, rfl⟩ hend
          | cons d text =>
              intro hd
              have hd : d = '\n' := by simpa using hd
              exact hcrlf text hcr (by rw [hd])
  | case4 c text _ hc ih =>
      have hc : isLineBreak c = false := by simpa using hc
      cases text with
      | nil =>
          refine ⟨0, ?_⟩
          rw [List.cons_append, splitlines_cons hc, List.nil_append,
            splitlines_newline]
          rfl
      | cons d text =>
          rcases ih with ⟨k, hk⟩
          refine ⟨k, ?_⟩
          rw [List.cons_append, splitlines_cons hc, hk]
          rcases List.exists_cons_of_ne_nil
            (splitlines_ne_nil d text) with
            ⟨first, lines, hlines⟩
          rw [hlines]
          rfl

theorem strip_nil : strip [] = [] := rfl

theorem nonblankLines_append_newline :
    nonblankLines (text ++ '\n' :: rest) =
      nonblankLines text ++ nonblankLines rest := by
  rcases splitlines_append_newline text rest with ⟨k, hk⟩
  unfold nonblankLines section_list
  rw [hk]
  simp only [List.map_append, List.filter_append, List.map_replicate, strip_nil]
  simp

/-- The lines of a text are those of its sections. -/
theorem nonblankLines_intercalate {sections : List (List Char)} :
    nonblankLines (['\n', '\n'].intercalate sections) =
      sections.flatMap nonblankLines := by
  induction sections with
  | nil => rfl
  | cons text sections ih =>
      by_cases hne : sections = []
      · subst hne
        simp
      · have hsplit : ['\n', '\n'].intercalate (text :: sections) =
            text ++ '\n' :: ([] ++ '\n' ::
              ['\n', '\n'].intercalate sections) := by
          rw [List.intercalate_cons_of_ne_nil hne]
          simp
        rw [hsplit, nonblankLines_append_newline, nonblankLines_append_newline,
          ih, List.flatMap_cons]
        rfl

/-! ## Line ends -/

theorem universalNewlines_of_notMem (htext : '\r' ∉ text) :
    universalNewlines text = text := by
  fun_induction universalNewlines text with
  | case1 => rfl
  | case2 => simp at htext
  | case3 => simp at htext
  | case4 c rest _ _ ih =>
      simp only [List.mem_cons, not_or] at htext
      rw [ih htext.2]

end Samurai.ReorderLibs
