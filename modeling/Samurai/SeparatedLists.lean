import Mathlib.Data.List.DropRight
import Mathlib.Tactic

/-!
# Lists joined by separators

A text is a list of lines joined by a separator, and a list of lines is a list
of sections joined by blank lines.  The blocks of a list are its longest
pieces without the blank.  Its groups are what splitting at blanks leaves when
every separator takes one blank: a group may keep a blank in front.
-/

variable {α : Type*}

/-! ## Joining -/

theorem intercalate_append {sep : List α} {us vs : List (List α)}
    (hu : us ≠ []) (hv : vs ≠ []) :
    sep.intercalate (us ++ vs) =
      sep.intercalate us ++ sep ++ sep.intercalate vs := by
  induction us with
  | nil => exact absurd rfl hu
  | cons u us ih =>
      cases us with
      | nil => simp [List.intercalate_cons_of_ne_nil hv]
      | cons u' us =>
          have ih := ih (by simp)
          rw [List.cons_append] at ih
          rw [List.cons_append, List.cons_append, List.intercalate_cons_cons, ih,
            List.intercalate_cons_cons]
          simp

theorem mem_intercalate {sep : List α} {ls : List (List α)} {a : α}
    (h : a ∈ sep.intercalate ls) : a ∈ sep ∨ ∃ l ∈ ls, a ∈ l := by
  induction ls with
  | nil => simp at h
  | cons l ls ih =>
      by_cases hls : ls = []
      · subst hls
        exact Or.inr ⟨l, by simp, by simpa using h⟩
      · rw [List.intercalate_cons_of_ne_nil hls] at h
        simp only [List.mem_append] at h
        rcases h with (h | h) | h
        · exact Or.inr ⟨l, by simp, h⟩
        · exact Or.inl h
        · rcases ih h with hsep | ⟨m, hm, ha⟩
          · exact Or.inl hsep
          · exact Or.inr ⟨m, by simp [hm], ha⟩

theorem mem_intercalate_of_mem {sep : List α} {ls : List (List α)} {l : List α}
    {a : α} (hl : l ∈ ls) (ha : a ∈ l) : a ∈ sep.intercalate ls := by
  induction ls with
  | nil => simp at hl
  | cons m ls ih =>
      by_cases hls : ls = []
      · subst hls
        rw [List.mem_singleton] at hl
        simpa [← hl] using ha
      · rw [List.intercalate_cons_of_ne_nil hls]
        rcases List.mem_cons.mp hl with rfl | hl
        · simp [ha]
        · simp [ih hl]

/-! ## Trimming -/

def trim (p : α → Bool) (l : List α) : List α :=
  (l.dropWhile p).rdropWhile p

/-- Neither end of the list is trimmed. -/
structure Tight (p : α → Bool) (l : List α) : Prop where
  head : ∀ a ∈ l.head?, p a = false
  last : ∀ a ∈ l.getLast?, p a = false

section Trim

variable {p : α → Bool} {l : List α} {x : α} {ls : List (List α)}

theorem dropWhile_eq_self (hhead : ∀ a ∈ l.head?, p a = false) :
    l.dropWhile p = l := by
  cases l with
  | nil => rfl
  | cons a l =>
      have ha := hhead a rfl
      simp [ha]

theorem rdropWhile_eq_self (hlast : ∀ a ∈ l.getLast?, p a = false) :
    l.rdropWhile p = l := by
  rw [List.rdropWhile_eq_self_iff]
  intro hl
  have ha := hlast (l.getLast hl) (List.getLast?_eq_some_getLast hl)
  simp [ha]

theorem Tight.trim_eq_self (hl : Tight p l) : trim p l = l := by
  unfold trim
  rw [dropWhile_eq_self hl.head, rdropWhile_eq_self hl.last]

theorem trim_tight (p : α → Bool) (l : List α) : Tight p (trim p l) := by
  constructor
  · intro a ha
    have hstart : trim p l <+: l.dropWhile p := List.rdropWhile_prefix p _
    have hhead : (l.dropWhile p).head? = some a := by
      rcases hstart with ⟨t, ht⟩
      rcases List.head?_eq_some_iff.mp ha with ⟨u, hu⟩
      rw [← ht, hu]
      rfl
    have hdrop := List.head?_dropWhile_not p l
    rw [hhead] at hdrop
    simpa using hdrop
  · intro a ha
    have hne : trim p l ≠ [] := by
      intro h
      simp [h] at ha
    have hlast := List.rdropWhile_last_not p (l.dropWhile p) hne
    have hval : (trim p l).getLast hne = a := by
      rw [List.getLast?_eq_some_getLast hne] at ha
      exact Option.some.inj ha
    have hval' : ((l.dropWhile p).rdropWhile p).getLast hne = a := hval
    rw [hval'] at hlast
    simpa using hlast

theorem mem_of_mem_trim {a : α} (ha : a ∈ trim p l) : a ∈ l :=
  (List.dropWhile_sublist p).subset
    ((List.rdropWhile_prefix p _).subset ha)

theorem dropWhile_intercalate (hx : p x = true)
    (hhead : ∀ l ∈ ls, ∀ a ∈ l.head?, p a = false) :
    ([x].intercalate ls).dropWhile p =
      [x].intercalate (ls.dropWhile fun l => l.isEmpty) := by
  induction ls with
  | nil => rfl
  | cons l ls ih =>
      have ih := ih fun m hm => hhead m (by simp [hm])
      cases l with
      | nil =>
          cases ls with
          | nil => rfl
          | cons m ls =>
              rw [List.intercalate_cons_cons, List.nil_append,
                List.singleton_append, List.dropWhile_cons_of_pos hx, ih]
              rfl
      | cons a l =>
          have ha : ∀ b ∈ ([x].intercalate ((a :: l) :: ls)).head?,
              p b = false := by
            intro b hb
            apply hhead (a :: l) (by simp)
            cases ls with
            | nil => simpa using hb
            | cons m ls =>
                rw [List.intercalate_cons_cons] at hb
                simpa using hb
          rw [dropWhile_eq_self ha, List.dropWhile_cons_of_neg (by simp)]

theorem rdropWhile_intercalate (hx : p x = true)
    (hlast : ∀ l ∈ ls, ∀ a ∈ l.getLast?, p a = false) :
    ([x].intercalate ls).rdropWhile p =
      [x].intercalate (ls.rdropWhile fun l => l.isEmpty) := by
  induction ls using List.reverseRecOn with
  | nil => rfl
  | append_singleton ls l ih =>
      have ih := ih fun m hm => hlast m (by simp [hm])
      by_cases hls : ls = []
      · subst hls
        have hl := rdropWhile_eq_self (hlast l (by simp))
        cases l with
        | nil => rfl
        | cons a l => simpa [List.rdropWhile_singleton] using hl
      · rw [intercalate_append hls (by simp), List.intercalate_singleton]
        cases l with
        | nil =>
            rw [List.append_nil, List.rdropWhile_concat_pos p _ x hx, ih,
              List.rdropWhile_concat_pos _ _ _ rfl]
        | cons a l =>
            rw [List.rdropWhile_concat_neg _ _ _ (by simp),
              intercalate_append hls (by simp), List.intercalate_singleton]
            apply rdropWhile_eq_self
            intro b hb
            apply hlast (a :: l) (by simp)
            simpa using hb

/-- Trimming a text drops its blank lines at both ends. -/
theorem trim_intercalate (hx : p x = true) (hls : ∀ l ∈ ls, Tight p l) :
    trim p ([x].intercalate ls) =
      [x].intercalate (trim (fun l => l.isEmpty) ls) := by
  unfold trim
  rw [dropWhile_intercalate hx fun l hl => (hls l hl).head]
  apply rdropWhile_intercalate hx
  intro l hl
  exact (hls l ((List.dropWhile_sublist _).subset hl)).last

end Trim

/-! ## Blocks -/

section Blocks

variable [DecidableEq α] {b : α} {l u v B : List α} {gs : List (List α)}

def blocks (b : α) (l : List α) : List (List α) :=
  (l.splitOn b).filter fun B => B ≠ []

@[simp] theorem blocks_nil : blocks b [] = [] := by
  simp [blocks]

theorem blocks_append_cons :
    blocks b (u ++ b :: v) = blocks b u ++ blocks b v := by
  unfold blocks
  rw [List.splitOn_append_cons_self, List.filter_append]

theorem blocks_cons_self : blocks b (b :: v) = blocks b v := by
  have h := blocks_append_cons (b := b) (u := []) (v := v)
  simpa using h

theorem blocks_concat_self : blocks b (u ++ [b]) = blocks b u := by
  rw [blocks_append_cons, blocks_nil, List.append_nil]

theorem blocks_of_notMem (hB : b ∉ B) (hne : B ≠ []) : blocks b B = [B] := by
  unfold blocks
  rw [List.splitOn_eq_singleton hB]
  simp [hne]

theorem blocks_intercalate :
    blocks b ([b].intercalate gs) = gs.flatMap (blocks b) := by
  induction gs with
  | nil => simp
  | cons g gs ih =>
      by_cases hgs : gs = []
      · subst hgs
        simp
      · rw [List.intercalate_cons_of_ne_nil hgs, List.append_assoc,
          List.singleton_append, blocks_append_cons, ih, List.flatMap_cons]

theorem blocks_dropWhile {p : α → Bool} (hp : ∀ a, p a = true ↔ a = b) :
    blocks b (l.dropWhile p) = blocks b l := by
  induction l with
  | nil => rfl
  | cons a l ih =>
      by_cases ha : p a = true
      · rw [List.dropWhile_cons_of_pos ha, ih, (hp a).mp ha, blocks_cons_self]
      · rw [List.dropWhile_cons_of_neg ha]

theorem blocks_rdropWhile {p : α → Bool} (hp : ∀ a, p a = true ↔ a = b) :
    blocks b (l.rdropWhile p) = blocks b l := by
  induction l using List.reverseRecOn with
  | nil => rfl
  | append_singleton l a ih =>
      by_cases ha : p a = true
      · rw [List.rdropWhile_concat_pos p l a ha, ih, (hp a).mp ha,
          blocks_concat_self]
      · rw [List.rdropWhile_concat_neg p l a ha]

theorem blocks_trim {p : α → Bool} (hp : ∀ a, p a = true ↔ a = b) :
    blocks b (trim p l) = blocks b l := by
  unfold trim
  rw [blocks_rdropWhile hp, blocks_dropWhile hp]

/-- The blanks of the list come first. -/
def BlanksFirst (b : α) (l : List α) : Prop :=
  ∃ k B, l = List.replicate k b ++ B ∧ b ∉ B

theorem BlanksFirst.blocks_eq (hl : BlanksFirst b l) :
    blocks b l = [l.filter fun a => a ≠ b].filter fun B => B ≠ [] := by
  rcases hl with ⟨k, B, rfl, hB⟩
  have hblocks : blocks b (List.replicate k b ++ B) = blocks b B := by
    induction k with
    | zero => rfl
    | succ k ih => rw [List.replicate_succ, List.cons_append, blocks_cons_self, ih]
  have hself : B.filter (fun a => a ≠ b) = B := by
    rw [List.filter_eq_self]
    intro a ha
    simpa using ne_of_mem_of_not_mem ha hB
  have hfilter : (List.replicate k b ++ B).filter (fun a => a ≠ b) = B := by
    rw [List.filter_append, hself]
    simp
  rw [hblocks, hfilter]
  by_cases hne : B = []
  · subst hne
    simp
  · rw [blocks_of_notMem hB hne]
    simp [hne]

/-- The blocks of joined sections are what the sections hold besides
blanks. -/
theorem blocks_joined (hgs : ∀ g ∈ gs, BlanksFirst b g) :
    blocks b ([b].intercalate gs) =
      (gs.map fun g => g.filter fun a => a ≠ b).filter fun B => B ≠ [] := by
  rw [blocks_intercalate]
  induction gs with
  | nil => rfl
  | cons g gs ih =>
      rw [List.flatMap_cons, (hgs g (by simp)).blocks_eq,
        ih fun h hh => hgs h (by simp [hh]), List.map_cons, ← List.filter_append,
        List.singleton_append]

theorem exists_block_of_mem {x : α} (hx : x ∈ l) (hne : x ≠ b) :
    ∃ B ∈ blocks b l, x ∈ B := by
  have hjoin : [b].intercalate (l.splitOn b) = l := List.intercalate_splitOn b
  rw [← hjoin] at hx
  rcases mem_intercalate hx with hblank | ⟨B, hB, hmem⟩
  · exact absurd (List.mem_singleton.mp hblank) hne
  · refine ⟨B, List.mem_filter.mpr ⟨hB, ?_⟩, hmem⟩
    exact decide_eq_true (List.ne_nil_of_mem hmem)

section Related

variable {β : Type*} [DecidableEq β] {R : α → β → Prop} {c : β} {l' : List β}

omit [DecidableEq α] [DecidableEq β] in
theorem exists_mem_of_forall₂ (h : List.Forall₂ R l l') (hc : c ∈ l') :
    ∃ x ∈ l, R x c := by
  induction h with
  | nil => contradiction
  | @cons x y l l' hxy _ ih =>
      rcases List.mem_cons.mp hc with rfl | hmem
      · exact ⟨x, List.mem_cons_self, hxy⟩
      · rcases ih hmem with ⟨z, hz, hzc⟩
        exact ⟨z, List.mem_cons_of_mem x hz, hzc⟩

theorem forall₂_splitOn (hR : ∀ x y, R x y → (x = b ↔ y = c))
    (h : List.Forall₂ R l l') :
    List.Forall₂ (List.Forall₂ R) (l.splitOn b) (l'.splitOn c) := by
  induction h with
  | nil => exact List.Forall₂.cons List.Forall₂.nil List.Forall₂.nil
  | @cons x y l l' hxy _ ih =>
      rw [List.splitOn_cons_eq_if_modifyHead,
        List.splitOn_cons_eq_if_modifyHead]
      by_cases hblank : x = b
      · rw [if_pos (beq_iff_eq.mpr hblank),
          if_pos (beq_iff_eq.mpr ((hR x y hxy).mp hblank))]
        exact List.Forall₂.cons List.Forall₂.nil ih
      · have hblank' : y ≠ c := fun h => hblank ((hR x y hxy).mpr h)
        rw [if_neg (by simpa using hblank), if_neg (by simpa using hblank')]
        rcases List.exists_cons_of_ne_nil (List.splitOn_ne_nil b l) with
          ⟨B, Bs, hB⟩
        rcases List.exists_cons_of_ne_nil (List.splitOn_ne_nil c l') with
          ⟨B', Bs', hB'⟩
        rw [hB, hB', List.forall₂_cons] at ih
        rw [hB, hB']
        exact List.Forall₂.cons (List.Forall₂.cons hxy ih.1) ih.2

/-- Lists that are blank at the same places have related blocks. -/
theorem forall₂_blocks (hR : ∀ x y, R x y → (x = b ↔ y = c))
    (h : List.Forall₂ R l l') :
    List.Forall₂ (List.Forall₂ R) (blocks b l) (blocks c l') := by
  unfold blocks
  apply List.rel_filter _ (forall₂_splitOn hR h)
  intro B B' hB
  cases hB <;> simp

end Related

end Blocks

/-! ## Fields -/

section Fields

variable {p : α → Bool} {c : α} {u v l : List α}

theorem rdropWhile_append_cons (hc : p c = false) (u v : List α) :
    (u ++ c :: v).rdropWhile p = u ++ c :: v.rdropWhile p := by
  have hstay : ¬ p c = true := by
    simp [hc]
  induction v using List.reverseRecOn with
  | nil => rw [List.rdropWhile_concat_neg p u c hstay, List.rdropWhile_nil]
  | append_singleton v b ih =>
      rw [← List.cons_append, ← List.append_assoc]
      by_cases hb : p b = true
      · rw [List.rdropWhile_concat_pos p _ b hb, ih,
          List.rdropWhile_concat_pos p v b hb]
      · rw [List.rdropWhile_concat_neg p _ b hb,
          List.rdropWhile_concat_neg p v b hb, List.append_assoc,
          List.cons_append]

variable [DecidableEq α]

theorem takeWhile_append_cons (hu : c ∉ u) (v : List α) :
    (u ++ c :: v).takeWhile (fun a => a ≠ c) = u := by
  rw [List.takeWhile_append_of_pos]
  · simp
  · intro a ha
    simpa using ne_of_mem_of_not_mem ha hu

theorem dropWhile_append_cons (hu : c ∉ u) (v : List α) :
    (u ++ c :: v).dropWhile (fun a => a ≠ c) = c :: v := by
  rw [List.dropWhile_append_of_pos]
  · simp
  · intro a ha
    simpa using ne_of_mem_of_not_mem ha hu

theorem takeWhile_of_notMem (hl : c ∉ l) :
    l.takeWhile (fun a => a ≠ c) = l := by
  rw [List.takeWhile_eq_self_iff]
  intro a ha
  simpa using ne_of_mem_of_not_mem ha hl

/-- The first field is what stands before the first separator. -/
theorem headD_splitOn (c : α) (l : List α) :
    (l.splitOn c).headD [] = l.takeWhile fun a => a ≠ c := by
  by_cases hc : c ∈ l
  · rcases List.eq_append_cons_of_mem hc with ⟨u, v, rfl, hu⟩
    rw [List.splitOn_append_cons_self_of_not_mem hu, takeWhile_append_cons hu]
    rfl
  · rw [List.splitOn_eq_singleton hc, takeWhile_of_notMem hc]
    rfl

/-- The second field is what stands between the first two separators. -/
theorem getD_splitOn_one (hc : c ∈ l) :
    ((l.splitOn c)[1]?).getD [] =
      ((l.dropWhile fun a => a ≠ c).drop 1).takeWhile fun a => a ≠ c := by
  rcases List.eq_append_cons_of_mem hc with ⟨u, v, rfl, hu⟩
  rw [List.splitOn_append_cons_self_of_not_mem hu, dropWhile_append_cons hu,
    List.getElem?_cons_succ, List.drop_one, List.tail_cons, ← headD_splitOn,
    List.headD_eq_head?_getD, List.head?_eq_getElem?]

end Fields

/-! ## Groups -/

section Groups

def prependFirst (x : α) : List (List α) → List (List α)
  | [] => [[x]]
  | g :: gs => (x :: g) :: gs

theorem prependFirst_ne_nil {x : α} {gs : List (List α)} :
    prependFirst x gs ≠ [] := by
  cases gs <;> simp [prependFirst]

theorem intercalate_prependFirst {x : α} {sep : List α} {gs : List (List α)}
    (hgs : gs ≠ []) :
    sep.intercalate (prependFirst x gs) = x :: sep.intercalate gs := by
  cases gs with
  | nil => exact absurd rfl hgs
  | cons g gs =>
      cases gs with
      | nil => simp [prependFirst]
      | cons h gs => simp [prependFirst, List.intercalate_cons_cons]

/-- A blank alone, or a block, which may have one blank in front. -/
def IsGroup (b : α) (g : List α) : Prop :=
  g = [b] ∨ ∃ B, B ≠ [] ∧ b ∉ B ∧ (g = B ∨ g = b :: B)

theorem IsGroup.ne_nil {b : α} {g : List α} (hg : IsGroup b g) : g ≠ [] := by
  rcases hg with rfl | ⟨B, hne, _, rfl | rfl⟩
  · simp
  · exact hne
  · simp

/-- Only a blank that is alone ends a group. -/
theorem IsGroup.last_ne {b x : α} {l : List α} (hg : IsGroup b (l ++ [x]))
    (hne : l ++ [x] ≠ [b]) : x ≠ b := by
  rcases hg with heq | ⟨B, hB, hnot, heq | heq⟩
  · exact absurd heq hne
  · apply ne_of_mem_of_not_mem _ hnot
    rw [← heq]
    simp
  · rcases List.eq_nil_or_concat' B with rfl | ⟨C, y, rfl⟩
    · exact absurd rfl hB
    · apply ne_of_mem_of_not_mem _ hnot
      rw [← List.cons_append] at heq
      have hlast := (List.append_inj' heq rfl).2
      simp [(List.cons.inj hlast).1]

theorem IsGroup.blanksFirst {b : α} {g : List α} (hg : IsGroup b g) :
    BlanksFirst b g := by
  rcases hg with rfl | ⟨B, _, hB, rfl | rfl⟩
  · exact ⟨1, [], rfl, by simp⟩
  · exact ⟨0, g, rfl, hB⟩
  · exact ⟨1, B, rfl, hB⟩

/-- Where two elements are not separated and the list does not end with a
blank, the second is not a blank. -/
theorem ne_of_not_split {b x y : α} {rest : List α}
    (hsplit : ¬ (y = b ∧ rest ≠ []))
    (hlast : (x :: y :: rest).getLast? ≠ some b) : y ≠ b := by
  rintro rfl
  have hrest : rest = [] := by
    by_contra hne
    exact hsplit ⟨rfl, hne⟩
  subst hrest
  simp at hlast

theorem getLast?_of_ne_nil {x y : α} {rest : List α} (hrest : rest ≠ []) :
    (x :: y :: rest).getLast? = rest.getLast? := by
  rw [List.getLast?_cons_of_ne_nil (by simp),
    List.getLast?_cons_of_ne_nil hrest]

variable [DecidableEq α] {b x y : α} {l rest : List α}

/-- A blank between two others separates them and is taken away. -/
def groups (b : α) : List α → List (List α)
  | [] => [[]]
  | [x] => [[x]]
  | x :: y :: rest =>
      if y = b ∧ rest ≠ [] then [x] :: groups b rest
      else prependFirst x (groups b (y :: rest))

theorem groups_ne_nil : groups b l ≠ [] := by
  induction l using groups.induct b with
  | case1 => simp [groups]
  | case2 => simp [groups]
  | case3 x y rest hsplit _ => simp [groups, hsplit]
  | case4 x y rest hsplit _ =>
      rw [groups, if_neg hsplit]
      exact prependFirst_ne_nil

theorem intercalate_groups : [b].intercalate (groups b l) = l := by
  induction l using groups.induct b with
  | case1 => simp [groups]
  | case2 => simp [groups]
  | case3 x y rest hsplit ih =>
      rw [groups, if_pos hsplit, List.intercalate_cons_of_ne_nil groups_ne_nil,
        ih, hsplit.1]
      rfl
  | case4 x y rest hsplit ih =>
      rw [groups, if_neg hsplit, intercalate_prependFirst groups_ne_nil, ih]

theorem head_groups (b y : α) (rest : List α) :
    ∃ g gs, groups b (y :: rest) = (y :: g) :: gs := by
  cases rest with
  | nil => exact ⟨[], [], rfl⟩
  | cons z rest =>
      rw [groups]
      split_ifs
      · exact ⟨[], _, rfl⟩
      · rcases List.exists_cons_of_ne_nil
          (groups_ne_nil (b := b) (l := z :: rest)) with ⟨g, gs, hgs⟩
        exact ⟨g, gs, by rw [hgs]; rfl⟩

/-- The groups of a list that does not end with a blank. -/
theorem isGroup_of_mem_groups (hl : l ≠ []) (hlast : l.getLast? ≠ some b) :
    ∀ g ∈ groups b l, IsGroup b g := by
  induction l using groups.induct b with
  | case1 => exact absurd rfl hl
  | case2 x =>
      have hx : b ∉ [x] := by simpa [eq_comm] using hlast
      intro g hg
      have hg : g = [x] := by simpa [groups] using hg
      exact Or.inr ⟨[x], by simp, hx, Or.inl hg⟩
  | case3 x y rest hsplit ih =>
      rw [getLast?_of_ne_nil hsplit.2] at hlast
      intro g hg
      rw [groups, if_pos hsplit, List.mem_cons] at hg
      rcases hg with rfl | hg
      · by_cases hx : x = b
        · rw [hx]
          exact Or.inl rfl
        · exact Or.inr ⟨[x], by simp, by simpa [eq_comm] using hx, Or.inl rfl⟩
      · exact ih hsplit.2 hlast g hg
  | case4 x y rest hsplit ih =>
      have hy : y ≠ b := ne_of_not_split hsplit hlast
      have hlast' : (y :: rest).getLast? ≠ some b := by
        rwa [List.getLast?_cons_of_ne_nil (by simp)] at hlast
      have ih := ih (by simp) hlast'
      rcases head_groups b y rest with ⟨h, gs, hgs⟩
      intro g hg
      rw [groups, if_neg hsplit, hgs] at hg
      rw [hgs] at ih
      rcases List.mem_cons.mp hg with rfl | hg
      · rcases ih (y :: h) (by simp) with heq | ⟨B, hne, hB, heq | heq⟩
        · exact absurd (List.cons.inj heq).1 hy
        · rw [heq]
          by_cases hx : x = b
          · rw [hx]
            exact Or.inr ⟨B, hne, hB, Or.inr rfl⟩
          · refine Or.inr ⟨x :: B, by simp, ?_, Or.inl rfl⟩
            simp only [List.mem_cons, not_or]
            exact ⟨fun h => hx h.symm, hB⟩
        · exact absurd (List.cons.inj heq).1 hy
      · exact ih g (by simp [hg])

/-- A blank at the end stays in the last group. -/
theorem groups_concat (hl : l ≠ []) (hlast : l.getLast? ≠ some b) :
    ∃ gs g, groups b l = gs ++ [g] ∧
      groups b (l ++ [b]) = gs ++ [g ++ [b]] := by
  induction l using groups.induct b with
  | case1 => exact absurd rfl hl
  | case2 x => exact ⟨[], [x], rfl, by simp [groups, prependFirst]⟩
  | case3 x y rest hsplit ih =>
      rw [getLast?_of_ne_nil hsplit.2] at hlast
      rcases ih hsplit.2 hlast with ⟨gs, g, hgs, hgs'⟩
      refine ⟨[x] :: gs, g, ?_, ?_⟩
      · rw [groups, if_pos hsplit, hgs]
        rfl
      · rw [List.cons_append, List.cons_append, groups,
          if_pos ⟨hsplit.1, by simp⟩, hgs']
        rfl
  | case4 x y rest hsplit ih =>
      have hy : y ≠ b := ne_of_not_split hsplit hlast
      have hlast' : (y :: rest).getLast? ≠ some b := by
        rwa [List.getLast?_cons_of_ne_nil (by simp)] at hlast
      rcases ih (by simp) hlast' with ⟨gs, g, hgs, hgs'⟩
      have hprepend : ∃ hs k, ∀ t,
          prependFirst x (gs ++ [g ++ t]) = hs ++ [k ++ t] := by
        cases gs with
        | nil => exact ⟨[], x :: g, fun t => rfl⟩
        | cons f gs => exact ⟨(x :: f) :: gs, g, fun t => rfl⟩
      rcases hprepend with ⟨hs, k, hk⟩
      refine ⟨hs, k, ?_, ?_⟩
      · rw [groups, if_neg hsplit, hgs]
        simpa using hk []
      · rw [List.cons_append, List.cons_append, groups,
          if_neg fun h => hy h.1, ← List.cons_append, hgs']
        exact hk [b]

/-- The last group ends as the list does. -/
theorem getLast?_of_groups {gs : List (List α)} {g : List α}
    (hgs : groups b l = gs ++ [g]) (hg : g ≠ []) :
    g.getLast? = l.getLast? := by
  have hjoin := intercalate_groups (b := b) (l := l)
  rw [hgs] at hjoin
  rw [← hjoin]
  by_cases hne : gs = []
  · subst hne
    simp
  · rw [intercalate_append hne (by simp), List.intercalate_singleton,
      List.getLast?_append_of_ne_nil _ hg]

end Groups
