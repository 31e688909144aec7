import Mathlib.Data.Char
import Mathlib.Order.WithBot
import Samurai.LexicographicPrefix
import Samurai.ReorderLibsModel

/-!
# The order of the comparator

Strings with a `/` are ordered as a tree is written down with the contents of
subdirectories before the files: that is the lexicographic order in which the
end of the directory counts as greater than every character.  A string without
a `/` takes its place among them as it is, but it also acts as a directory of
its own, and everything in a subdirectory of that one comes before it.
-/

namespace Samurai.ReorderLibs

variable {a b c d p q r s : List Char}

/-! ## Directories -/

theorem rsplit_append {dir file : List Char} (hfile : '/' ∉ file) :
    rsplit '/' (dir ++ '/' :: file) = [dir, file] := by
  have htake : (dir ++ '/' :: file).reverse.takeWhile (· ≠ '/') =
      file.reverse := by
    rw [List.reverse_append, List.reverse_cons, List.append_assoc,
      List.takeWhile_append_of_pos]
    · simp
    · intro x hx
      have hx : x ∈ file := List.mem_reverse.mp hx
      simpa using ne_of_mem_of_not_mem hx hfile
  have hdrop : (dir ++ '/' :: file).reverse.drop (file.reverse.length + 1) =
      dir.reverse := by
    have hsplit : (dir ++ '/' :: file).reverse =
        (file.reverse ++ ['/']) ++ dir.reverse := by simp
    have hlength : file.reverse.length + 1 =
        (file.reverse ++ ['/']).length := by simp
    rw [hsplit, hlength, List.drop_left]
  unfold rsplit
  rw [if_pos (by simp)]
  simp only [htake, hdrop, List.reverse_reverse]

theorem directory_append {dir file : List Char} (hfile : '/' ∉ file) :
    directory (dir ++ '/' :: file) = dir ++ ['/'] := by
  unfold directory
  rw [rsplit_append hfile]
  rfl

theorem directory_of_notMem (hs : '/' ∉ s) : directory s = s ++ ['/'] := by
  unfold directory rsplit
  rw [if_neg hs]
  rfl

/-- A string with a `/` is its directory and a file in it. -/
theorem exists_file (hs : '/' ∈ s) :
    ∃ dir file, '/' ∉ file ∧ s = dir ++ '/' :: file ∧
      directory s = dir ++ ['/'] := by
  rcases List.eq_append_cons_of_mem (List.mem_reverse.mpr hs) with
    ⟨u, v, hsplit, hu⟩
  have hfile : '/' ∉ u.reverse := by simpa using hu
  have hsplit : s = v.reverse ++ '/' :: u.reverse := by
    rw [← List.reverse_reverse s, hsplit]
    simp
  refine ⟨v.reverse, u.reverse, hfile, hsplit, ?_⟩
  rw [hsplit]
  exact directory_append hfile

/-! ## The order of the tree -/

/-- The end of the directory is greater than every character. -/
def orderKey (string : List Char) : List (WithTop Char) :=
  if '/' ∈ string then
    (directory string).map WithTop.some ++
      ⊤ :: (string.drop (directory string).length).map WithTop.some
  else string.map WithTop.some

theorem orderKey_of_notMem (hs : '/' ∉ s) : orderKey s = s.map WithTop.some :=
  if_neg hs

theorem orderKey_append {dir file : List Char} (hfile : '/' ∉ file) :
    orderKey (dir ++ '/' :: file) =
      (dir ++ ['/']).map WithTop.some ++ ⊤ :: file.map WithTop.some := by
  have hfound : '/' ∈ dir ++ '/' :: file := by simp
  have hdrop : (dir ++ '/' :: file).drop (dir ++ ['/']).length = file := by
    simp
  unfold orderKey
  rw [if_pos hfound, directory_append hfile, hdrop]

theorem map_some_lt_iff :
    a.map (WithTop.some : Char → WithTop Char) < b.map WithTop.some ↔
      a < b := by
  have hmono : StrictMono (List.map (WithTop.some : Char → WithTop Char)) := by
    intro u v huv
    exact List.map_lt (fun _ _ h => WithTop.coe_lt_coe.mpr h) huv
  exact hmono.lt_iff_lt

theorem map_some_diverge (h : Diverge a b) :
    Diverge (a.map (WithTop.some : Char → WithTop Char))
      (b.map WithTop.some) := by
  rcases h.exists_ne with ⟨p, x, y, u, v, hxy, rfl, rfl⟩
  rw [List.map_append, List.map_append, List.map_cons, List.map_cons]
  exact diverge_of_ne fun h => hxy (WithTop.coe_injective h)

/-- A string without a `/` is among the others where its characters put it. -/
theorem orderKey_lt_of_notMem (hp : '/' ∉ p) (hs : '/' ∈ s) :
    (orderKey p < orderKey s ↔ p < s) ∧ (orderKey s < orderKey p ↔ s < p) := by
  rcases exists_file hs with ⟨dir, file, hfile, rfl, _⟩
  have hsplit : dir ++ '/' :: file = (dir ++ ['/']) ++ file := by simp
  rw [orderKey_of_notMem hp, orderKey_append hfile, hsplit]
  by_cases hstart : p <+: dir ++ ['/']
  · rcases hstart with ⟨t, ht⟩
    have hne : t ≠ [] := by
      rintro rfl
      apply hp
      rw [List.append_nil] at ht
      rw [ht]
      simp
    rcases List.exists_cons_of_ne_nil hne with ⟨x, t, rfl⟩
    have hlt : p < (dir ++ ['/']) ++ file := by
      rw [← ht, List.append_assoc]
      exact lt_append_cons
    have hkey : p.map (WithTop.some : Char → WithTop Char) <
        (dir ++ ['/']).map WithTop.some ++ ⊤ :: file.map WithTop.some := by
      rw [← ht, List.map_append, List.append_assoc, List.map_cons]
      exact lt_append_cons
    exact ⟨iff_of_true hkey hlt,
      iff_of_false (lt_asymm hkey) (lt_asymm hlt)⟩
  · have hdiverge : Diverge p (dir ++ ['/']) := by
      refine ⟨hstart, ?_⟩
      intro h
      exact hp (h.subset (by simp))
    have hmap := map_some_diverge hdiverge
    constructor
    · have hkey := hmap.append_lt_iff [] (⊤ :: file.map WithTop.some)
      have hchars := hdiverge.append_lt_iff [] file
      rw [List.append_nil] at hkey hchars
      rw [hkey, hchars, map_some_lt_iff]
    · have hkey := hmap.symm.append_lt_iff (⊤ :: file.map WithTop.some) []
      have hchars := hdiverge.symm.append_lt_iff file []
      rw [List.append_nil] at hkey hchars
      rw [hkey, hchars, map_some_lt_iff]

/-! ## The comparison of two strings -/

theorem strcoll_lt_iff : strcoll a b < 0 ↔ a < b := by
  unfold strcoll
  split_ifs with hlt heq
  · simp [hlt]
  · simp [heq]
  · simp [hlt]

theorem strcoll_eq_zero_iff : strcoll a b = 0 ↔ a = b := by
  unfold strcoll
  split_ifs with hlt heq
  · simp [hlt.ne]
  · simp [heq]
  · simp [heq]

theorem strcoll_swap : strcoll b a = -strcoll a b := by
  unfold strcoll
  rcases lt_trichotomy a b with hlt | heq | hgt
  · simp [hlt, hlt.ne', lt_asymm hlt]
  · simp [heq]
  · simp [hgt, hgt.ne', lt_asymm hgt]

/-- The comparator behind its first lines: neither string is empty, and a
leading `-` was removed from both. -/
def comparePaths (string1 string2 : List Char) : ℤ :=
  if '/' ∉ string1 ∧ '/' ∉ string2 then strcoll string1 string2
  else
    if directory string1 = directory string2 then strcoll string1 string2
    else if startswith (directory string1) (directory string2) then -1
    else if startswith (directory string2) (directory string1) then 1
    else strcoll string1 string2

theorem strcoll_extract_utils_of_ne_nil (ha : a ≠ []) (hb : b ≠ []) :
    strcoll_extract_utils a b =
      comparePaths (removePrefix ['-'] a) (removePrefix ['-'] b) := by
  unfold strcoll_extract_utils
  rw [if_neg (by simp [ha, hb])]
  rfl

theorem strcoll_extract_utils_of_nil (h : a = [] ∨ b = []) :
    strcoll_extract_utils a b = strcoll a b :=
  if_pos h

theorem startswith_iff : startswith a b = true ↔ b <+: a :=
  List.isPrefixOf_iff_prefix

theorem comparePaths_eq_zero_iff : comparePaths a b = 0 ↔ a = b := by
  unfold comparePaths
  split_ifs with hplain hsame hsub hsup
  · exact strcoll_eq_zero_iff
  · exact strcoll_eq_zero_iff
  · simp only [false_iff]
    rintro rfl
    exact hsame rfl
  · simp only [one_ne_zero, false_iff]
    rintro rfl
    exact hsame rfl
  · exact strcoll_eq_zero_iff

theorem comparePaths_swap : comparePaths b a = -comparePaths a b := by
  have hplain : ('/' ∉ b ∧ '/' ∉ a) ↔ ('/' ∉ a ∧ '/' ∉ b) := and_comm
  have hsame : directory b = directory a ↔ directory a = directory b := eq_comm
  unfold comparePaths
  simp only [hplain, hsame, startswith_iff]
  split_ifs with _ hne hsub hsup
  · exact strcoll_swap
  · exact strcoll_swap
  · exact absurd (hsub.eq_of_length_le hsup.length_le) hne
  all_goals first
    | rfl
    | exact strcoll_swap

theorem comparePaths_pos_iff : 0 < comparePaths a b ↔ comparePaths b a < 0 := by
  rw [comparePaths_swap (a := a) (b := b)]
  omega

/-- `r` is in a subdirectory of the directory that `p`, which has no `/`, acts
as. -/
structure Inverted (p r : List Char) : Prop where
  plain : '/' ∉ p
  slashed : '/' ∈ r
  below : directory p <+: directory r
  strict : directory p ≠ directory r

theorem directory_not_isPrefix (hp : '/' ∉ p) (hs : '/' ∈ s)
    (hne : directory p ≠ directory s) : ¬ directory s <+: directory p := by
  rcases exists_file hs with ⟨dir, file, _, _, hdir⟩
  rw [directory_of_notMem hp, hdir] at hne ⊢
  rw [List.prefix_concat_iff]
  rintro (heq | hsub)
  · exact hne heq.symm
  · exact hp (hsub.subset (by simp))

theorem comparePaths_neg_of_notMem (hp : '/' ∉ p) (hs : '/' ∈ s) :
    comparePaths p s < 0 ↔ ¬ Inverted p s ∧ orderKey p < orderKey s := by
  rw [(orderKey_lt_of_notMem hp hs).1]
  have hplain : ¬ ('/' ∉ p ∧ '/' ∉ s) := fun h => h.2 hs
  unfold comparePaths
  rw [if_neg hplain]
  simp only [startswith_iff]
  split_ifs with hsame hsub hsup
  · rw [strcoll_lt_iff]
    have hnot : ¬ Inverted p s := fun h => h.strict hsame
    exact (and_iff_right hnot).symm
  · exact absurd hsub (directory_not_isPrefix hp hs hsame)
  · have hinverted : Inverted p s := ⟨hp, hs, hsup, hsame⟩
    simp [hinverted]
  · rw [strcoll_lt_iff]
    have hnot : ¬ Inverted p s := fun h => hsup h.below
    exact (and_iff_right hnot).symm

/-- What lies in a subdirectory comes before what lies in the directory. -/
theorem subdirectory_lt {d e u v : List Char} (hsub : d <+: e) (hne : d ≠ e) :
    e.map WithTop.some ++ ⊤ :: u.map WithTop.some <
      d.map WithTop.some ++ ⊤ :: v.map WithTop.some := by
  rcases hsub with ⟨t, rfl⟩
  have ht : t ≠ [] := by
    intro ht
    exact hne (by rw [ht, List.append_nil])
  rcases List.exists_cons_of_ne_nil ht with ⟨x, t, rfl⟩
  rw [List.map_append, List.append_assoc, append_lt_append_iff,
    List.map_cons, List.cons_append, List.cons_lt_cons_iff]
  exact Or.inl (WithTop.coe_lt_top x)

theorem comparePaths_neg_of_mem (ha : '/' ∈ a) (hb : '/' ∈ b) :
    comparePaths a b < 0 ↔ orderKey a < orderKey b := by
  have hplain : ¬ ('/' ∉ a ∧ '/' ∉ b) := fun h => h.1 ha
  unfold comparePaths
  rw [if_neg hplain]
  rcases exists_file ha with ⟨adir, afile, hafile, rfl, hadir⟩
  rcases exists_file hb with ⟨bdir, bfile, hbfile, rfl, hbdir⟩
  have hasplit : adir ++ '/' :: afile = (adir ++ ['/']) ++ afile := by simp
  have hbsplit : bdir ++ '/' :: bfile = (bdir ++ ['/']) ++ bfile := by simp
  simp only [startswith_iff]
  rw [orderKey_append hafile, orderKey_append hbfile, hadir, hbdir, hasplit,
    hbsplit]
  generalize adir ++ ['/'] = d
  generalize bdir ++ ['/'] = e
  split_ifs with hsame hsub hsup
  · rw [hsame, strcoll_lt_iff, append_lt_append_iff, append_lt_append_iff,
      List.cons_lt_cons_self, map_some_lt_iff]
  · exact iff_of_true (by norm_num) (subdirectory_lt hsub (Ne.symm hsame))
  · exact iff_of_false (by norm_num) (lt_asymm (subdirectory_lt hsup hsame))
  · have hdiverge : Diverge d e := ⟨hsup, hsub⟩
    rw [strcoll_lt_iff, hdiverge.append_lt_iff,
      (map_some_diverge hdiverge).append_lt_iff, map_some_lt_iff]

theorem comparePaths_neg_of_mem_notMem (ha : '/' ∈ a) (hb : '/' ∉ b) :
    comparePaths a b < 0 ↔ Inverted b a ∨ orderKey a < orderKey b := by
  have hne : a ≠ b := by
    rintro rfl
    exact hb ha
  have hneg := comparePaths_neg_of_notMem hb ha
  have hzero : comparePaths b a ≠ 0 :=
    fun h => hne (comparePaths_eq_zero_iff.mp h).symm
  have hkeys := orderKey_lt_of_notMem hb ha
  have htotal := lt_or_gt_of_ne hne.symm
  rw [← hkeys.1, ← hkeys.2] at htotal
  rw [← comparePaths_pos_iff]
  by_cases hinverted : Inverted b a
  · have hnotneg : ¬ comparePaths b a < 0 := by
      rw [hneg]
      exact fun h => h.1 hinverted
    simp only [hinverted, true_or, iff_true]
    omega
  · rw [and_iff_right hinverted] at hneg
    simp only [hinverted, false_or]
    constructor
    · intro hpos
      rcases htotal with hlt | hgt
      · have := hneg.mpr hlt
        omega
      · exact hgt
    · intro hlt
      have hnotneg : ¬ comparePaths b a < 0 := by
        rw [hneg]
        exact lt_asymm hlt
      omega

/-- What comes before what: a subdirectory before the string that acts as its
directory, and otherwise the lesser in the order of the tree. -/
theorem comparePaths_neg_iff :
    comparePaths a b < 0 ↔
      Inverted b a ∨ (¬ Inverted a b ∧ orderKey a < orderKey b) := by
  by_cases ha : '/' ∈ a
  · have hnot : ¬ Inverted a b := fun h => h.plain ha
    by_cases hb : '/' ∈ b
    · have hnot' : ¬ Inverted b a := fun h => h.plain hb
      rw [comparePaths_neg_of_mem ha hb]
      simp [hnot, hnot']
    · rw [comparePaths_neg_of_mem_notMem ha hb, and_iff_right hnot]
  · by_cases hb : '/' ∈ b
    · have hnot' : ¬ Inverted b a := fun h => h.plain hb
      rw [comparePaths_neg_of_notMem ha hb]
      simp [hnot']
    · have hnot : ¬ Inverted a b := fun h => hb h.slashed
      have hnot' : ¬ Inverted b a := fun h => ha h.slashed
      have hplain : '/' ∉ a ∧ '/' ∉ b := ⟨ha, hb⟩
      unfold comparePaths
      rw [if_pos hplain, strcoll_lt_iff, orderKey_of_notMem ha,
        orderKey_of_notMem hb, map_some_lt_iff]
      simp [hnot, hnot']

/-! ## Cycles -/

/-- A string `p` without a `/`, one that is `p` followed by a character below
`/`, and one in a subdirectory of `p`. -/
structure Straddles (p q r : List Char) : Prop where
  plain : '/' ∉ p
  beside : ∃ e t, q = p ++ e :: t ∧ e < '/'
  within : ∃ t, r = p ++ '/' :: t ∧ '/' ∈ t

theorem inverted_iff :
    Inverted p r ↔ '/' ∉ p ∧ ∃ t, r = p ++ '/' :: t ∧ '/' ∈ t := by
  constructor
  · intro h
    refine ⟨h.plain, ?_⟩
    rcases exists_file h.slashed with ⟨dir, file, hfile, rfl, hdir⟩
    have hbelow := h.below
    have hstrict := h.strict
    rw [directory_of_notMem h.plain, hdir] at hbelow hstrict
    rcases List.prefix_concat_iff.mp hbelow with heq | ⟨t, rfl⟩
    · exact absurd heq hstrict
    · exact ⟨t ++ '/' :: file, by simp, by simp⟩
  · rintro ⟨hp, t, rfl, ht⟩
    rcases exists_file ht with ⟨dir, file, hfile, rfl, _⟩
    have hsplit : p ++ '/' :: (dir ++ '/' :: file) =
        (p ++ '/' :: dir) ++ '/' :: file := by simp
    refine ⟨hp, by simp, ?_, ?_⟩
    · rw [directory_of_notMem hp, hsplit, directory_append hfile]
      exact ⟨dir ++ ['/'], by simp⟩
    · rw [directory_of_notMem hp, hsplit, directory_append hfile]
      intro heq
      have hlength := congrArg List.length heq
      simp at hlength

theorem orderKey_append_of_mem (u : List Char) (hs : '/' ∈ s) :
    orderKey (u ++ s) = u.map WithTop.some ++ orderKey s := by
  rcases exists_file hs with ⟨dir, file, hfile, rfl, _⟩
  have hsplit : u ++ (dir ++ '/' :: file) = (u ++ dir) ++ '/' :: file := by simp
  rw [hsplit, orderKey_append hfile, orderKey_append hfile]
  simp

theorem isPrefix_of_map_some {d u : List Char} {v : List (WithTop Char)}
    (h : u.map WithTop.some <+: d.map WithTop.some ++ ⊤ :: v) : u <+: d := by
  have hnotop : ⊤ ∉ u.map (WithTop.some : Char → WithTop Char) := by simp
  have hsecond : d.map WithTop.some ++ [(⊤ : WithTop Char)] <+:
      d.map WithTop.some ++ ⊤ :: v := ⟨v, by simp⟩
  have hshort : u.map WithTop.some <+: d.map WithTop.some := by
    rcases List.prefix_or_prefix_of_prefix h hsecond with hle | hge
    · rcases List.prefix_concat_iff.mp hle with heq | hle
      · exact absurd (heq ▸ by simp) hnotop
      · exact hle
    · exact absurd (hge.subset (by simp)) hnotop
  exact (List.prefix_map_iff_of_injective WithTop.coe_injective).mp hshort

/-- A string whose key begins like `p` and a character does so itself; if the
character is `/`, a subdirectory of `p` follows or its directory ends. -/
theorem exists_of_orderKey_eq {e : Char} {w : List (WithTop Char)}
    (h : orderKey q = p.map WithTop.some ++ (e : WithTop Char) :: w) :
    ∃ t, q = p ++ e :: t ∧ (e = '/' → '/' ∈ t ∨ w.head? = some ⊤) := by
  by_cases hq : '/' ∈ q
  · rcases exists_file hq with ⟨dir, file, hfile, rfl, _⟩
    rw [orderKey_append hfile] at h
    have hfirst : (p ++ [e]).map WithTop.some <+:
        (dir ++ ['/']).map WithTop.some ++ ⊤ :: file.map WithTop.some :=
      ⟨w, by rw [h]; simp⟩
    have hmap := isPrefix_of_map_some hfirst
    rcases hmap with ⟨u, hu⟩
    have hsplit : dir ++ '/' :: file = p ++ e :: (u ++ file) := by
      have happend := congrArg (· ++ file) hu
      simpa using happend.symm
    refine ⟨u ++ file, hsplit, ?_⟩
    rintro rfl
    cases u using List.reverseRecOn with
    | nil =>
        right
        rw [← hu] at h
        simp only [List.append_nil, List.map_append, List.map_cons,
          List.map_nil, List.append_assoc, List.cons_append, List.nil_append,
          List.append_cancel_left_eq, List.cons.injEq, true_and] at h
        rw [← h]
        rfl
    | append_singleton u x =>
        left
        rw [← List.append_assoc] at hu
        have hlast := (List.append_inj' hu rfl).2
        simp_all
  · rw [orderKey_of_notMem hq] at h
    rcases List.map_eq_append_iff.mp h with ⟨u, v, rfl, hu, hv⟩
    rcases List.map_eq_cons_iff.mp hv with ⟨x, t, rfl, hx, ht⟩
    have hup : u = p := List.map_injective_iff.mpr WithTop.coe_injective hu
    have hxe : x = e := WithTop.coe_injective hx
    subst hup hxe
    refine ⟨t, rfl, ?_⟩
    rintro rfl
    exact absurd (by simp) hq

theorem not_lt_orderKey {w : List (WithTop Char)} (hs : '/' ∈ s)
    (hw : w.head? = some ⊤) : ¬ w < orderKey s := by
  rcases List.head?_eq_some_iff.mp hw with ⟨w, rfl⟩
  rcases exists_file hs with ⟨dir, file, hfile, rfl, _⟩
  rw [orderKey_append hfile]
  cases dir with
  | nil => simp [List.cons_lt_cons_iff]
  | cons x dir => simp [List.cons_lt_cons_iff]

/-- What comes between the string and its subdirectory straddles them. -/
theorem straddles_of_inverted (hpr : Inverted p r)
    (hpq : comparePaths p q < 0) (hqr : comparePaths q r < 0) :
    Straddles p q r := by
  rcases inverted_iff.mp hpr with ⟨hp, t, rfl, ht⟩
  rw [comparePaths_neg_iff] at hpq hqr
  have hpq : ¬ Inverted p q ∧ orderKey p < orderKey q :=
    hpq.resolve_left fun h => hp h.slashed
  have hqr : ¬ Inverted q (p ++ '/' :: t) ∧
      orderKey q < orderKey (p ++ '/' :: t) :=
    hqr.resolve_left fun h => h.plain (by simp)
  have hkey : orderKey (p ++ '/' :: t) =
      p.map WithTop.some ++ ('/' : WithTop Char) :: orderKey t := by
    have hsplit : p ++ '/' :: t = (p ++ ['/']) ++ t := by simp
    rw [hsplit, orderKey_append_of_mem _ ht]
    simp
  have hbetween := hqr.2
  rw [hkey] at hbetween
  have hlower := hpq.2
  rw [orderKey_of_notMem hp] at hlower
  rcases prefix_of_between hlower.le hbetween with ⟨w, hw⟩
  rw [← hw, append_lt_append_iff] at hbetween
  cases w with
  | nil =>
      rw [List.append_nil] at hw
      exact absurd hlower (by rw [hw]; exact lt_irrefl _)
  | cons x w =>
      rw [List.cons_lt_cons_iff] at hbetween
      rcases hbetween with hlt | ⟨rfl, hlt⟩
      · rcases WithTop.ne_top_iff_exists.mp (ne_top_of_lt hlt) with ⟨e, rfl⟩
        rcases exists_of_orderKey_eq hw.symm with ⟨u, hq, _⟩
        exact ⟨hp, ⟨e, u, hq, WithTop.coe_lt_coe.mp hlt⟩, t, rfl, ht⟩
      · rcases exists_of_orderKey_eq hw.symm with ⟨u, hq, hu⟩
        rcases hu rfl with hu | htop
        · exact absurd (inverted_iff.mpr ⟨hp, u, hq, hu⟩) hpq.1
        · exact absurd hlt (not_lt_orderKey ht htop)

theorem Straddles.cycle (h : Straddles p q r) :
    comparePaths r p < 0 ∧ comparePaths p q < 0 ∧ comparePaths q r < 0 := by
  rcases h with ⟨hp, ⟨e, u, rfl, he⟩, ⟨t, rfl, ht⟩⟩
  have hne : e ≠ '/' := he.ne
  have hdiverge : Diverge (p ++ e :: u) (p ++ '/' :: t) := diverge_of_ne hne
  have hr : '/' ∈ p ++ '/' :: t := by simp
  simp only [comparePaths_neg_iff]
  refine ⟨Or.inl (inverted_iff.mpr ⟨hp, t, rfl, ht⟩), Or.inr ⟨?_, ?_⟩,
    Or.inr ⟨?_, ?_⟩⟩
  · rw [inverted_iff]
    rintro ⟨_, v, hv, _⟩
    exact hne (List.cons.inj (List.append_cancel_left hv)).1
  · by_cases hq : '/' ∈ p ++ e :: u
    · rw [(orderKey_lt_of_notMem hp hq).1]
      exact lt_append_cons
    · rw [orderKey_of_notMem hp, orderKey_of_notMem hq, map_some_lt_iff]
      exact lt_append_cons
  · rw [inverted_iff]
    rintro ⟨_, v, hv, _⟩
    exact hdiverge.left ⟨'/' :: v, hv.symm⟩
  · by_cases hq : '/' ∈ p ++ e :: u
    · have hu : '/' ∈ u := by
        simpa [hp, hne.symm] using hq
      have hsplit : p ++ e :: u = (p ++ [e]) ++ u := by simp
      have hsplit' : p ++ '/' :: t = (p ++ ['/']) ++ t := by simp
      rw [hsplit, hsplit', orderKey_append_of_mem _ hu,
        orderKey_append_of_mem _ ht]
      simp only [List.map_append, List.append_assoc, List.map_cons,
        List.map_nil, List.cons_append, List.nil_append]
      rw [append_cons_lt_iff (WithTop.coe_injective.ne hne)]
      exact WithTop.coe_lt_coe.mpr he
    · rw [(orderKey_lt_of_notMem hq hr).1, append_cons_lt_iff hne]
      exact he

/-- The only cycles are those of a string, what is beside it and what is
within it. -/
theorem cycle_iff :
    comparePaths a b < 0 ∧ comparePaths b c < 0 ∧ comparePaths c a < 0 ↔
      Straddles a b c ∨ Straddles b c a ∨ Straddles c a b := by
  constructor
  · rintro ⟨hab, hbc, hca⟩
    rcases comparePaths_neg_iff.mp hab with hinverted | ⟨_, hkab⟩
    · exact Or.inr (Or.inl (straddles_of_inverted hinverted hbc hca))
    rcases comparePaths_neg_iff.mp hbc with hinverted | ⟨_, hkbc⟩
    · exact Or.inr (Or.inr (straddles_of_inverted hinverted hca hab))
    rcases comparePaths_neg_iff.mp hca with hinverted | ⟨_, hkca⟩
    · exact Or.inl (straddles_of_inverted hinverted hab hbc)
    exact absurd (hkab.trans hkbc) (lt_asymm hkca)
  · rintro (h | h | h)
    · rcases h.cycle with ⟨hca, hab, hbc⟩
      exact ⟨hab, hbc, hca⟩
    · rcases h.cycle with ⟨hab, hbc, hca⟩
      exact ⟨hab, hbc, hca⟩
    · rcases h.cycle with ⟨hbc, hca, hab⟩
      exact ⟨hab, hbc, hca⟩

theorem comparePaths_trans_iff :
    (comparePaths a b ≤ 0 → comparePaths b c ≤ 0 → comparePaths a c ≤ 0) ↔
      ¬ (Straddles a b c ∨ Straddles b c a ∨ Straddles c a b) := by
  rw [← cycle_iff]
  have hswap := comparePaths_swap (a := a) (b := c)
  constructor
  · rintro htrans ⟨hab, hbc, hca⟩
    have hac := htrans hab.le hbc.le
    omega
  · intro hcycle hab hbc
    by_contra hac
    rcases hab.lt_or_eq with hab | hab
    · rcases hbc.lt_or_eq with hbc | hbc
      · exact hcycle ⟨hab, hbc, by omega⟩
      · rw [comparePaths_eq_zero_iff.mp hbc] at hab
        omega
    · rw [comparePaths_eq_zero_iff.mp hab] at hac
      omega

/-! ## The laws -/

/-- The laws of a three-way comparator, for three strings. -/
structure ComparatorLaws (a b c : List Char) : Prop where
  sign : (strcoll_extract_utils a b).sign =
    -(strcoll_extract_utils b a).sign
  trans : strcoll_extract_utils a b ≤ 0 → strcoll_extract_utils b c ≤ 0 →
    strcoll_extract_utils a c ≤ 0
  tie : strcoll_extract_utils a b = 0 → strcoll_extract_utils b c = 0 →
    strcoll_extract_utils a c = 0

/-- Three strings of which one straddles the others, when a leading `-` is
removed from each. -/
structure Entangled (a b c : List Char) : Prop where
  left : a ≠ []
  middle : b ≠ []
  right : c ≠ []
  straddles :
    let a := removePrefix ['-'] a
    let b := removePrefix ['-'] b
    let c := removePrefix ['-'] c
    Straddles a b c ∨ Straddles b c a ∨ Straddles c a b

theorem strcoll_extract_utils_swap :
    strcoll_extract_utils b a = -strcoll_extract_utils a b := by
  by_cases h : a = [] ∨ b = []
  · rw [strcoll_extract_utils_of_nil h, strcoll_extract_utils_of_nil h.symm]
    exact strcoll_swap
  · rw [not_or] at h
    rw [strcoll_extract_utils_of_ne_nil h.1 h.2,
      strcoll_extract_utils_of_ne_nil h.2 h.1]
    exact comparePaths_swap

theorem strcoll_extract_utils_nil_left : strcoll_extract_utils [] a ≤ 0 := by
  rw [strcoll_extract_utils_of_nil (Or.inl rfl)]
  cases a with
  | nil => decide
  | cons x a => exact (strcoll_lt_iff.mpr (List.nil_lt_cons x a)).le

theorem eq_nil_of_le_nil (h : strcoll_extract_utils a [] ≤ 0) : a = [] := by
  cases a with
  | nil => rfl
  | cons x a =>
      have hlt := strcoll_lt_iff.mpr (List.nil_lt_cons x a)
      rw [strcoll_extract_utils_of_nil (Or.inr rfl), strcoll_swap] at h
      omega

theorem sign_law : (strcoll_extract_utils a b).sign =
    -(strcoll_extract_utils b a).sign := by
  rw [strcoll_extract_utils_swap, Int.sign_neg]

theorem trans_iff_not_entangled :
    (strcoll_extract_utils a b ≤ 0 → strcoll_extract_utils b c ≤ 0 →
      strcoll_extract_utils a c ≤ 0) ↔ ¬ Entangled a b c := by
  by_cases ha : a = []
  · subst ha
    exact iff_of_true (fun _ _ => strcoll_extract_utils_nil_left)
      fun h => h.left rfl
  by_cases hb : b = []
  · subst hb
    refine iff_of_true (fun hab _ => ?_) fun h => h.middle rfl
    exact absurd (eq_nil_of_le_nil hab) ha
  by_cases hc : c = []
  · subst hc
    refine iff_of_true (fun _ hbc => ?_) fun h => h.right rfl
    exact absurd (eq_nil_of_le_nil hbc) hb
  rw [strcoll_extract_utils_of_ne_nil ha hb,
    strcoll_extract_utils_of_ne_nil hb hc,
    strcoll_extract_utils_of_ne_nil ha hc, comparePaths_trans_iff]
  constructor
  · intro hnot h
    exact hnot h.straddles
  · intro hnot h
    exact hnot ⟨ha, hb, hc, h⟩

/-- The equality of two strings needs no condition. -/
theorem tie_law (hab : strcoll_extract_utils a b = 0)
    (hbc : strcoll_extract_utils b c = 0) : strcoll_extract_utils a c = 0 := by
  by_cases ha : a = []
  · subst ha
    rw [strcoll_extract_utils_of_nil (Or.inl rfl), strcoll_eq_zero_iff] at hab
    rw [hab]
    exact hbc
  by_cases hb : b = []
  · subst hb
    exact absurd (eq_nil_of_le_nil hab.le) ha
  by_cases hc : c = []
  · subst hc
    exact absurd (eq_nil_of_le_nil hbc.le) hb
  rw [strcoll_extract_utils_of_ne_nil ha hb, comparePaths_eq_zero_iff] at hab
  rw [strcoll_extract_utils_of_ne_nil hb hc, comparePaths_eq_zero_iff] at hbc
  rw [strcoll_extract_utils_of_ne_nil ha hc, comparePaths_eq_zero_iff, hab, hbc]

theorem comparatorLaws_iff : ComparatorLaws a b c ↔ ¬ Entangled a b c := by
  rw [← trans_iff_not_entangled]
  constructor
  · intro h
    exact h.trans
  · intro h
    exact ⟨sign_law, h, tie_law⟩

/-- No three of the lines are entangled. -/
def Untangled (lines : List (List Char)) : Prop :=
  ∀ a ∈ lines, ∀ b ∈ lines, ∀ c ∈ lines, ¬ Entangled a b c

theorem Untangled.lawfulOn {lines : List (List Char)} (h : Untangled lines) :
    LawfulOn strcoll_extract_utils lines where
  sign _ _ _ _ := sign_law
  trans a ha b hb c hc := trans_iff_not_entangled.mpr (h a ha b hb c hc)

/-- The comparator is lawful on the lines of a section, and their order does
not matter to the sorted section but for ties, if and only if no three of them
are entangled. -/
theorem lawful_iff_untangled (lines : List (List Char)) :
    (∀ a ∈ lines, ∀ b ∈ lines, ∀ c ∈ lines, ComparatorLaws a b c) ∧
        (∀ (σ : StableSort strcoll_extract_utils) (lines' : List (List Char)),
          lines.Perm lines' →
            List.Forall₂ (fun a b => strcoll_extract_utils a b = 0)
              (σ.sort lines) (σ.sort lines')) ↔
      Untangled lines := by
  constructor
  · rintro ⟨hlaws, _⟩ a ha b hb c hc
    exact comparatorLaws_iff.mp (hlaws a ha b hb c hc)
  · intro h
    constructor
    · intro a ha b hb c hc
      exact comparatorLaws_iff.mpr (h a ha b hb c hc)
    · intro σ lines' hperm
      exact σ.forall₂_sort h.lawfulOn hperm

theorem comparator_cycle :
    ¬ ∀ a b c : List Char, ComparatorLaws a b c := by
  intro hlaws
  have hlaw := (hlaws ['b', '/', 's', '/', 'y'] ['b']
    ['b', '.', 'x', '/', 'y']).trans
  exact absurd (hlaw (by decide) (by decide)) (by decide)

end Samurai.ReorderLibs
