import Samurai.UpdateSha1sumsRun

/-!
# Hashes in an ordered blob list

The hash script writes a hash behind a path, and the script that orders the
list compares whole lines.  A `|` comes after most characters that a longer
name can have at its place, so that a hash can take a path behind another
that begins like it.  Nothing else in the order of a section changes.
-/

namespace Samurai.ReorderLibs

variable {a b u v p q p' q' line hash : List Char} {x y : Char}

/-! ## Paths with something behind them -/

/-- `b` is in the directory of `a` and its name goes on where that of `a` ends,
with a character below `|`. -/
def GoesOn (a b : List Char) : Prop :=
  ∃ c t, b = a ++ c :: t ∧ '/' ∉ c :: t ∧ c < '|'

theorem orderKey_append_plain (ha : '/' ∈ a) (hu : '/' ∉ u) :
    orderKey (a ++ u) = orderKey a ++ u.map WithTop.some := by
  rcases exists_file ha with ⟨dir, file, hfile, rfl, _⟩
  have hboth : '/' ∉ file ++ u := by simp [hfile, hu]
  rw [List.append_assoc, List.cons_append, orderKey_append hboth,
    orderKey_append hfile]
  simp

/-- A path whose key goes on where that of another ends is in the same
directory. -/
theorem exists_append_of_orderKey (ha : '/' ∈ a) (hb : '/' ∈ b)
    (h : orderKey a <+: orderKey b) : ∃ t, b = a ++ t ∧ '/' ∉ t := by
  rcases exists_file ha with ⟨dir, file, hfile, rfl, _⟩
  rcases exists_file hb with ⟨dir', file', hfile', rfl, _⟩
  rw [orderKey_append hfile, orderKey_append hfile'] at h
  rcases h with ⟨rest, hrest⟩
  have hnotop : ∀ s : List Char, ⊤ ∉ s.map (WithTop.some : Char → _) := by
    simp
  rw [List.append_assoc, List.cons_append, eq_comm,
    List.append_cons_inj_of_notMem (hnotop _) (hnotop _)] at hrest
  have hdir := List.map_injective_iff.mpr WithTop.coe_injective hrest.1
  have hname : file <+: file' := by
    apply (List.prefix_map_iff_of_injective WithTop.coe_injective).mp
    exact ⟨rest, hrest.2.2.symm⟩
  rcases hname with ⟨t, rfl⟩
  refine ⟨t, ?_, fun ht => hfile' (by simp [ht])⟩
  rw [List.append_cancel_right hdir]
  simp

theorem comparePaths_nonpos_iff (ha : '/' ∈ a) (hb : '/' ∈ b) :
    comparePaths a b ≤ 0 ↔ orderKey a ≤ orderKey b := by
  rw [← not_lt, comparePaths_pos_iff, comparePaths_neg_of_mem hb ha, not_lt]

theorem goesOn_append_iff {c : Char} {t : List Char} :
    GoesOn a (a ++ c :: t) ↔ '/' ∉ c :: t ∧ c < '|' := by
  constructor
  · rintro ⟨d, s, hsplit, hs, hd⟩
    rw [List.append_cancel_left_eq, List.cons.injEq] at hsplit
    rcases hsplit with ⟨rfl, rfl⟩
    exact ⟨hs, hd⟩
  · exact fun h => ⟨c, t, rfl, h.1, h.2⟩

/-- Something behind two paths in order leaves them in order, but where the
one behind the first is a hash and the second goes on below it. -/
theorem append_nonpos_iff (ha : '/' ∈ a) (hb : '/' ∈ b) (hbar : '|' ∉ b)
    (hne : a ≠ b) (hle : comparePaths a b ≤ 0)
    (hu : u = [] ∨ ∃ hash, u = '|' :: hash ∧ '/' ∉ hash) (hv : '/' ∉ v) :
    comparePaths (a ++ u) (b ++ v) ≤ 0 ↔ (GoesOn a b → u = []) := by
  have hu' : '/' ∉ u := by
    rcases hu with rfl | ⟨hash, rfl, hhash⟩
    · exact List.not_mem_nil
    · simp [hhash]
  rw [comparePaths_nonpos_iff ha hb] at hle
  rw [comparePaths_nonpos_iff (List.mem_append_left u ha)
      (List.mem_append_left v hb),
    orderKey_append_plain ha hu', orderKey_append_plain hb hv, ← not_lt]
  by_cases hab : orderKey a <+: orderKey b
  · rcases exists_append_of_orderKey ha hb hab with ⟨t, rfl, ht⟩
    cases t with
    | nil => simp at hne
    | cons c t =>
        rw [orderKey_append_plain ha ht, List.append_assoc,
          append_lt_append_iff, ← List.map_append, map_some_lt_iff,
          List.cons_append, goesOn_append_iff]
        rcases hu with rfl | ⟨hash, rfl, _⟩
        · exact iff_of_true (List.not_lt_nil _) fun _ => rfl
        · have hc : c ≠ '|' := by
            rintro rfl
            simp at hbar
          simp [List.cons_lt_cons_iff, hc, ht]
  · have hba : ¬ orderKey b <+: orderKey a := by
      intro h
      rcases exists_append_of_orderKey hb ha h with ⟨t, rfl, ht⟩
      cases t with
      | nil => simp at hne
      | cons c t =>
          rw [orderKey_append_plain hb ht] at hle
          exact not_le.mpr lt_append_cons hle
    have hdiverge : Diverge (orderKey b) (orderKey a) := ⟨hba, hab⟩
    rw [hdiverge.append_lt_iff]
    apply iff_of_true (not_lt.mpr hle)
    rintro ⟨c, t, rfl, ht, _⟩
    rw [orderKey_append_plain ha ht] at hab
    exact absurd (List.prefix_append _ _) hab

/-! ## Comments and paths -/

theorem orderKey_cons (x : Char) (a : List Char) :
    ∃ w, orderKey (x :: a) = (x : WithTop Char) :: w := by
  by_cases hslash : '/' ∈ x :: a
  · rcases exists_file hslash with ⟨dir, file, hfile, hsplit, _⟩
    rw [hsplit, orderKey_append hfile]
    cases dir with
    | nil =>
        rw [(List.cons.inj hsplit).1]
        exact ⟨_, rfl⟩
    | cons d dir =>
        rw [(List.cons.inj hsplit).1]
        exact ⟨_, rfl⟩
  · rw [orderKey_of_notMem hslash]
    exact ⟨_, rfl⟩

theorem not_inverted_of_head_ne (hne : x ≠ y) :
    ¬ Inverted (x :: a) (y :: b) := by
  rw [inverted_iff]
  rintro ⟨_, t, heq, _⟩
  exact hne (List.cons.inj heq).1.symm

/-- Two strings that begin differently are in the order of their first
characters. -/
theorem comparePaths_of_head_ne (hne : x ≠ y) :
    comparePaths (x :: a) (y :: b) ≤ 0 ↔ x < y := by
  rcases orderKey_cons x a with ⟨w, hw⟩
  rcases orderKey_cons y b with ⟨z, hz⟩
  rw [← not_lt, comparePaths_pos_iff, comparePaths_neg_iff, hw, hz]
  have hleft := not_inverted_of_head_ne (a := a) (b := b) hne
  have hright := not_inverted_of_head_ne (a := b) (b := a) hne.symm
  have hkeys : (y : WithTop Char) ≠ x :=
    fun h => hne (WithTop.coe_injective h).symm
  simp only [hleft, hright, false_or, not_false_eq_true, true_and,
    List.cons_lt_cons_iff, WithTop.coe_lt_coe, hkeys, false_and, or_false, not_lt]
  exact hne.le_iff_lt

/-! ## Lines with hashes -/

/-- What `hexdigest` gives. -/
def IsHash (hash : List Char) : Prop :=
  ∀ c ∈ hash, c ∈ "0123456789abcdef".toList

/-- The second line is the first, or a path with its hash. -/
def WithHash (p p' : List Char) : Prop :=
  p' = p ∨ PathLine p ∧ ∃ hash, IsHash hash ∧ p' = p ++ '|' :: hash

/-- The file of `q` is in the directory of that of `p`, under a longer name
that goes on with a character below `|`. -/
def Continues (p q : List Char) : Prop :=
  GoesOn (removePrefix ['-'] p) (removePrefix ['-'] q)

theorem isHash_of_all
    (h : hash.all ("0123456789abcdef".toList.contains ·) = true) :
    IsHash hash := by
  intro c hc
  exact List.contains_iff_mem.mp (List.all_eq_true.mp h c hc)

theorem IsHash.plain (h : IsHash hash) : '/' ∉ '|' :: hash := by
  rw [List.mem_cons, not_or]
  exact ⟨by decide, fun hmem => absurd (h '/' hmem) (by decide)⟩

theorem removePrefix_append (hp : p ≠ []) (u : List Char) :
    removePrefix ['-'] (p ++ u) = removePrefix ['-'] p ++ u := by
  cases p with
  | nil => contradiction
  | cons c p =>
      by_cases hc : c = '-'
      · subst hc
        rfl
      · simp [removePrefix, startswith, Ne.symm hc]

theorem mem_of_mem_removePrefix (h : x ∈ removePrefix ['-'] p) : x ∈ p := by
  unfold removePrefix at h
  split_ifs at h
  · exact List.mem_of_mem_drop h
  · exact h

theorem IsComment.not_pathLine (h : IsComment p) : ¬ PathLine p := by
  intro hpath
  apply hpath.uncommented
  rw [h.removePrefix_eq]
  exact h

theorem PathLine.exists_cons (h : PathLine p) :
    ∃ y b, y ≠ '#' ∧ removePrefix ['-'] p = y :: b := by
  rcases List.exists_cons_of_ne_nil (List.ne_nil_of_mem h.slashed) with
    ⟨y, b, hcons⟩
  refine ⟨y, b, ?_, hcons⟩
  rintro rfl
  exact h.uncommented (isComment_iff.mpr ⟨b, hcons⟩)

/-- What is behind a path. -/
theorem WithHash.exists_append (h : WithHash p p') :
    ∃ u, p' = p ++ u ∧ (u = [] ∨ ∃ hash, u = '|' :: hash ∧ '/' ∉ hash) ∧
      (u = [] ↔ p' = p) ∧ '/' ∉ u := by
  rcases h with rfl | ⟨_, hash, hhash, rfl⟩
  · exact ⟨[], by simp, Or.inl rfl, by simp, List.not_mem_nil⟩
  · have hplain := hhash.plain
    refine ⟨'|' :: hash, rfl, Or.inr ⟨hash, rfl, ?_⟩, by simp, hplain⟩
    exact fun hmem => hplain (List.mem_cons_of_mem _ hmem)

theorem WithHash.exists_removePrefix (h : WithHash p p') (hp : p ≠ []) :
    ∃ u, removePrefix ['-'] p' = removePrefix ['-'] p ++ u ∧
      (u = [] ∨ ∃ hash, u = '|' :: hash ∧ '/' ∉ hash) ∧
      (u = [] ↔ p' = p) ∧ '/' ∉ u := by
  rcases h.exists_append with ⟨u, rfl, hu⟩
  exact ⟨u, removePrefix_append hp u, hu⟩

theorem WithHash.comment_eq (h : WithHash p p') (hcomment : IsComment p) :
    p' = p := by
  rcases h with heq | ⟨hpath, _⟩
  · exact heq
  · exact absurd hpath hcomment.not_pathLine

theorem WithHash.ne_nil (h : WithHash p p') (hp : p ≠ []) : p' ≠ [] := by
  rcases h with rfl | ⟨_, hash, _, rfl⟩
  · exact hp
  · exact List.append_ne_nil_of_left_ne_nil hp _

theorem comment_ne_nil (h : IsComment p) : p ≠ [] := by
  rcases isComment_iff.mp h with ⟨t, rfl⟩
  exact List.cons_ne_nil _ _

theorem comment_nonpos_iff (hp : IsComment p) (hq : PathLine q)
    (h : WithHash q q') :
    strcoll_extract_utils p q' ≤ 0 ↔ strcoll_extract_utils p q ≤ 0 := by
  rcases isComment_iff.mp hp with ⟨t, rfl⟩
  rcases hq.exists_cons with ⟨y, b, hy, hcons⟩
  rcases h.exists_removePrefix hq.ne_nil with ⟨u, hu, _⟩
  rw [strcoll_extract_utils_of_ne_nil (List.cons_ne_nil _ _) hq.ne_nil,
    strcoll_extract_utils_of_ne_nil (List.cons_ne_nil _ _) (h.ne_nil hq.ne_nil),
    hp.removePrefix_eq, hu, hcons, List.cons_append,
    comparePaths_of_head_ne hy.symm, comparePaths_of_head_ne hy.symm]

theorem nonpos_comment_iff (hp : PathLine p) (hq : IsComment q)
    (h : WithHash p p') :
    strcoll_extract_utils p' q ≤ 0 ↔ strcoll_extract_utils p q ≤ 0 := by
  rcases isComment_iff.mp hq with ⟨t, rfl⟩
  rcases hp.exists_cons with ⟨y, b, hy, hcons⟩
  rcases h.exists_removePrefix hp.ne_nil with ⟨u, hu, _⟩
  rw [strcoll_extract_utils_of_ne_nil hp.ne_nil (List.cons_ne_nil _ _),
    strcoll_extract_utils_of_ne_nil (h.ne_nil hp.ne_nil) (List.cons_ne_nil _ _),
    hq.removePrefix_eq, hu, hcons, List.cons_append,
    comparePaths_of_head_ne hy, comparePaths_of_head_ne hy]

/-- Two different lines of a section stay in order, but where the second
continues the first and the first has a hash. -/
theorem withHash_nonpos_iff (hp : IsComment p ∨ PathLine p)
    (hq : IsComment q ∨ PathLine q) (hbar : '|' ∉ q)
    (hne : removePrefix ['-'] p ≠ removePrefix ['-'] q)
    (hle : strcoll_extract_utils p q ≤ 0) (hp' : WithHash p p')
    (hq' : WithHash q q') :
    strcoll_extract_utils p' q' ≤ 0 ↔ (Continues p q → p' = p) := by
  rcases hp with hp | hp
  · rw [hp'.comment_eq hp]
    apply iff_of_true _ fun _ => rfl
    rcases hq with hq | hq
    · rw [hq'.comment_eq hq]
      exact hle
    · exact (comment_nonpos_iff hp hq hq').mpr hle
  · rcases hq with hq | hq
    · rw [hq'.comment_eq hq, nonpos_comment_iff hp hq hp']
      apply iff_of_true hle
      rintro ⟨c, t, hgoes, _⟩
      rcases hp.exists_cons with ⟨y, b, hy, hcons⟩
      rcases isComment_iff.mp hq with ⟨s, rfl⟩
      rw [hq.removePrefix_eq, hcons] at hgoes
      exact absurd (List.cons.inj hgoes).1.symm hy
    · rcases hp'.exists_removePrefix hp.ne_nil with ⟨u, hu, hshape, heq, _⟩
      rcases hq'.exists_removePrefix hq.ne_nil with ⟨v, hv, _, _, hplain⟩
      have hbar' : '|' ∉ removePrefix ['-'] q :=
        fun hmem => hbar (mem_of_mem_removePrefix hmem)
      rw [strcoll_extract_utils_of_ne_nil hp.ne_nil hq.ne_nil] at hle
      rw [strcoll_extract_utils_of_ne_nil (hp'.ne_nil hp.ne_nil)
          (hq'.ne_nil hq.ne_nil), hu, hv,
        append_nonpos_iff hp.slashed hq.slashed hbar' hne hle hshape hplain, heq]
      rfl

/-- A hash takes a path behind the one that continues it. -/
example : strcoll_extract_utils "vendor/a".toList "vendor/a.sh".toList = -1 ∧
    strcoll_extract_utils "vendor/a|1".toList "vendor/a.sh".toList = 1 := by
  decide

/-! ## Sections with hashes -/

/-- Where a line of a section is continued by a later one, it has no hash. -/
def KeepsOrder (B B' : List (List Char)) : Prop :=
  (B.zip B').Pairwise fun p q => Continues p.1 q.1 → p.2 = p.1

/-- A section of a list without hashes, in order and without blank lines, that
names no path twice. -/
structure Bare (B : List (List Char)) : Prop where
  known : ∀ line ∈ B, IsComment line ∨ PathLine line
  bar : ∀ line ∈ B, '|' ∉ line
  distinct : B.Pairwise fun p q => removePrefix ['-'] p ≠ removePrefix ['-'] q
  sorted : B.Pairwise fun p q => strcoll_extract_utils p q ≤ 0

theorem Bare.of_cons {B : List (List Char)} (h : Bare (p :: B)) : Bare B where
  known := fun line hline => h.known line (List.mem_cons_of_mem p hline)
  bar := fun line hline => h.bar line (List.mem_cons_of_mem p hline)
  distinct := h.distinct.of_cons
  sorted := h.sorted.of_cons

/-- The hashes leave a section in order exactly if no line that has one is
continued by a later line. -/
theorem Bare.pairwise_iff {B B' : List (List Char)} (h : Bare B)
    (hash : List.Forall₂ WithHash B B') :
    (B'.Pairwise fun p q => strcoll_extract_utils p q ≤ 0) ↔
      KeepsOrder B B' := by
  unfold KeepsOrder
  induction hash with
  | nil => simp
  | @cons p p' B B' hp hB ih =>
      rw [List.zip_cons_cons, List.pairwise_cons, List.pairwise_cons,
        ih h.of_cons]
      apply and_congr_left
      intro _
      have hdistinct := (List.pairwise_cons.mp h.distinct).1
      have hsorted := (List.pairwise_cons.mp h.sorted).1
      have hsnd : B' = (B.zip B').map Prod.snd :=
        (List.map_snd_zip hB.length_eq.ge).symm
      conv_lhs => rw [hsnd]
      rw [List.forall_mem_map]
      apply forall₂_congr
      rintro ⟨q, q'⟩ hmem
      have hq := (List.of_mem_zip hmem).1
      exact withHash_nonpos_iff (h.known p List.mem_cons_self)
        (h.known q (List.mem_cons_of_mem p hq))
        (h.bar q (List.mem_cons_of_mem p hq)) (hdistinct q hq) (hsorted q hq) hp
        (List.forall₂_zip hB hmem)

end Samurai.ReorderLibs
