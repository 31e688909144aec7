import Mathlib.Tactic

/-!
# Matches of terminated patterns

A pattern that ends in a separator and has no other is anchored at its end:
two of its matches cannot overlap, as the separator at the end of the first
would lie inside the second.  So all matches can be replaced at once by a
pattern of the same kind and length, and the result has a match of one of the
two patterns exactly where the list had a match of either.
-/

namespace TerminatedMatches

variable {α : Type*}

def Occurs (p l : List α) (i : ℕ) : Prop :=
  p <+: l.drop i

instance [DecidableEq α] (p l : List α) (i : ℕ) : Decidable (Occurs p l i) :=
  inferInstanceAs (Decidable (p <+: l.drop i))

/-- The position `k` lies in a match. -/
def Covered (p l : List α) (k : ℕ) : Prop :=
  ∃ i, Occurs p l i ∧ i ≤ k ∧ k < i + p.length

/-- All matches of `p` are replaced by `q`, and nothing else changes. -/
structure Replaced (p q l l' : List α) : Prop where
  length : l'.length = l.length
  replaced : ∀ i, Occurs p l i → Occurs q l' i
  kept : ∀ k, ¬ Covered p l k → l'[k]? = l[k]?

variable {p q l l' u v : List α} {z : α} {i j k : ℕ}

theorem occurs_iff :
    Occurs p l i ↔ ∀ k, k < p.length → l[i + k]? = p[k]? := by
  unfold Occurs
  rw [List.prefix_iff_getElem?]
  simp only [List.getElem?_drop]
  constructor
  · intro h k hk
    rw [h k hk, List.getElem?_eq_getElem hk]
  · intro h k hk
    rw [h k hk, List.getElem?_eq_getElem hk]

theorem Occurs.le_length (h : Occurs p l i) (hp : p ≠ []) :
    i + p.length ≤ l.length := by
  have hpos := List.length_pos_iff.mpr hp
  have hle := List.IsPrefix.length_le h
  rw [List.length_drop] at hle
  omega

theorem occurs_append_right {a : List α} :
    Occurs p (a ++ l) (a.length + i) ↔ Occurs p l i := by
  unfold Occurs
  rw [List.drop_append, List.drop_eq_nil_of_le (by omega)]
  simp

theorem Occurs.append_left (h : Occurs p l i) (b : List α) :
    Occurs p (l ++ b) i := by
  unfold Occurs at h ⊢
  rw [List.drop_append]
  exact h.trans (List.prefix_append _ _)

theorem Occurs.of_append_left {b : List α} (h : Occurs p (l ++ b) i)
    (hle : i + p.length ≤ l.length) : Occurs p l i := by
  unfold Occurs at h ⊢
  rw [List.drop_append_of_le_length (by omega)] at h
  apply List.prefix_of_prefix_length_le h (List.prefix_append _ _)
  rw [List.length_drop]
  omega

/-! ## Terminated patterns -/

/-- The pattern ends in the separator and has no other. -/
theorem Occurs.disjoint (hv : z ∉ v) (hlength : u.length = v.length)
    (hi : Occurs (u ++ [z]) l i) (hj : Occurs (v ++ [z]) l j) (hlt : i < j) :
    i + u.length < j := by
  by_contra hle
  have hend := occurs_iff.mp hi u.length (by simp)
  have hinside := occurs_iff.mp hj (i + u.length - j) (by simp; omega)
  rw [List.getElem?_append_right (le_refl _), Nat.sub_self] at hend
  rw [List.getElem?_append_left (by omega)] at hinside
  have hsame : j + (i + u.length - j) = i + u.length := by omega
  rw [hsame, hend] at hinside
  exact hv (List.mem_of_getElem? hinside.symm)

theorem Occurs.eq_or_disjoint (hu : z ∉ u) (hv : z ∉ v)
    (hlength : u.length = v.length) (hi : Occurs (u ++ [z]) l i)
    (hj : Occurs (v ++ [z]) l j) :
    i = j ∨ i + u.length < j ∨ j + v.length < i := by
  rcases lt_trichotomy i j with hlt | heq | hgt
  · exact Or.inr (Or.inl (hi.disjoint hv hlength hj hlt))
  · exact Or.inl heq
  · exact Or.inr (Or.inr (hj.disjoint hu hlength.symm hi hgt))

theorem Occurs.unique (hlength : u.length = v.length)
    (hi : Occurs (u ++ [z]) l i) (hj : Occurs (v ++ [z]) l i) : u = v := by
  have heq : u ++ [z] = v ++ [z] :=
    (List.prefix_of_prefix_length_le hi hj (by simp [hlength])).eq_of_length
      (by simp [hlength])
  exact List.append_cancel_right heq

/-- The list is empty or ends in the separator. -/
def Closed (z : α) (a : List α) : Prop :=
  a = [] ∨ ∃ s, a = s ++ [z]

/-- A match in two lists of which the first is closed is in one of them. -/
theorem Closed.occurs_append {a b : List α} (hclosed : Closed z a)
    (hu : z ∉ u) (hi : Occurs (u ++ [z]) (a ++ b) i) :
    Occurs (u ++ [z]) a i ∨
      ∃ j, i = a.length + j ∧ Occurs (u ++ [z]) b j := by
  rcases lt_or_ge i a.length with hlt | hge
  · left
    rcases hclosed with rfl | ⟨s, rfl⟩
    · contradiction
    · apply hi.of_append_left
      by_contra hle
      simp only [List.length_append, List.length_singleton] at hlt hle
      have hinside := occurs_iff.mp hi (s.length - i) (by simp; omega)
      have hsame : i + (s.length - i) = s.length := by omega
      have hend : (s ++ [z] ++ b)[s.length]? = some z := by simp
      rw [hsame, hend, List.getElem?_append_left (by omega)] at hinside
      exact hu (List.mem_of_getElem? hinside.symm)
  · right
    refine ⟨i - a.length, by omega, ?_⟩
    have hsame : a.length + (i - a.length) = i := by omega
    rw [← hsame, occurs_append_right] at hi
    exact hi

namespace Replaced

/-- Where a terminated pattern of the same length matches the result, either a
match was replaced or nothing was. -/
theorem occurs_cases {w : List α} (h : Replaced (u ++ [z]) (v ++ [z]) l l')
    (hv : z ∉ v) (hw : z ∉ w) (hlength : u.length = v.length)
    (hwlength : w.length = u.length) (hi : Occurs (w ++ [z]) l' i) :
    Occurs (u ++ [z]) l i ∨ Occurs (w ++ [z]) l i := by
  by_cases hcovered : ∃ k, k < (w ++ [z]).length ∧
      Covered (u ++ [z]) l (i + k)
  · left
    rcases hcovered with ⟨k, hk, j, hj, hjk, hkj⟩
    have hreplaced := h.replaced j hj
    simp only [List.length_append, List.length_singleton] at hk hkj
    rcases hi.eq_or_disjoint hw hv (hwlength.trans hlength) hreplaced with
      heq | hlt | hgt
    · rw [heq]
      exact hj
    · omega
    · omega
  · right
    rw [occurs_iff] at hi ⊢
    intro k hk
    have hkept := h.kept (i + k) fun hk' => hcovered ⟨k, hk, hk'⟩
    rw [← hkept, hi k hk]

/-- No match is left. -/
theorem not_occurs (h : Replaced (u ++ [z]) (v ++ [z]) l l') (hu : z ∉ u)
    (hv : z ∉ v) (hlength : u.length = v.length) (hne : u ≠ v) (i : ℕ) :
    ¬ Occurs (u ++ [z]) l' i := by
  intro hi
  have hold : Occurs (u ++ [z]) l i := by
    rcases h.occurs_cases hv hu hlength rfl hi with hi | hi
    · exact hi
    · exact hi
  exact hne (hi.unique hlength (h.replaced i hold))

/-- What was replaced can be replaced back if the new pattern was not there. -/
theorem symm (h : Replaced (u ++ [z]) (v ++ [z]) l l') (hv : z ∉ v)
    (hlength : u.length = v.length) (hnew : ∀ i, ¬ Occurs (v ++ [z]) l i) :
    Replaced (v ++ [z]) (u ++ [z]) l' l := by
  have hback : ∀ i, Occurs (v ++ [z]) l' i → Occurs (u ++ [z]) l i := by
    intro i hi
    rcases h.occurs_cases hv hv hlength hlength.symm hi with hold | hnot
    · exact hold
    · exact absurd hnot (hnew i)
  refine ⟨h.length.symm, hback, ?_⟩
  intro k hk
  symm
  apply h.kept
  rintro ⟨i, hi, hik, hki⟩
  refine hk ⟨i, h.replaced i hi, hik, ?_⟩
  simpa [hlength] using hki

theorem refl (h : ∀ i, ¬ Occurs p l i) : Replaced p q l l where
  length := rfl
  replaced i hi := absurd hi (h i)
  kept _ _ := rfl

/-- There is one result. -/
theorem unique {l'' : List α} (hlength : p.length = q.length)
    (h : Replaced p q l l') (h' : Replaced p q l l'') : l' = l'' := by
  apply List.ext_getElem?
  intro k
  by_cases hk : Covered p l k
  · rcases hk with ⟨i, hi, hik, hki⟩
    have hfirst := occurs_iff.mp (h.replaced i hi) (k - i) (by omega)
    have hsecond := occurs_iff.mp (h'.replaced i hi) (k - i) (by omega)
    have hsame : i + (k - i) = k := by omega
    rw [hsame] at hfirst hsecond
    rw [hfirst, hsecond]
  · rw [h.kept k hk, h'.kept k hk]

/-- Two lists can be treated one after the other if the first is empty or
ends in the separator. -/
theorem append {a a' b b' : List α} (hu : z ∉ u) (hclosed : Closed z a)
    (ha : Replaced (u ++ [z]) (v ++ [z]) a a')
    (hb : Replaced (u ++ [z]) (v ++ [z]) b b') :
    Replaced (u ++ [z]) (v ++ [z]) (a ++ b) (a' ++ b') := by
  refine ⟨by simp [ha.length, hb.length], ?_, ?_⟩
  · intro i hi
    rcases hclosed.occurs_append hu hi with hi | ⟨j, rfl, hj⟩
    · exact (ha.replaced i hi).append_left b'
    · rw [← ha.length]
      exact occurs_append_right.mpr (hb.replaced j hj)
  · intro k hk
    by_cases hka : k < a.length
    · have hk' : ¬ Covered (u ++ [z]) a k := by
        rintro ⟨i, hi, hbounds⟩
        exact hk ⟨i, hi.append_left b, hbounds⟩
      rw [List.getElem?_append_left hka,
        List.getElem?_append_left (by rw [ha.length]; exact hka),
        ha.kept k hk']
    · have hk' : ¬ Covered (u ++ [z]) b (k - a.length) := by
        rintro ⟨i, hi, hik, hki⟩
        exact hk ⟨a.length + i, occurs_append_right.mpr hi, by omega, by omega⟩
      have hle : a.length ≤ k := not_lt.mp hka
      rw [List.getElem?_append_right hle,
        List.getElem?_append_right (by rw [ha.length]; exact hle), ha.length,
        hb.kept _ hk']

/-- Only the match at the end of a list is replaced if there is no other. -/
theorem last {a : List α} (hlength : p.length = q.length)
    (hlast : ∀ i, Occurs p (a ++ p) i → i = a.length) :
    Replaced p q (a ++ p) (a ++ q) := by
  have hend (r : List α) : Occurs r (a ++ r) (a.length + 0) :=
    occurs_append_right.mpr List.prefix_rfl
  refine ⟨by simp [hlength], ?_, ?_⟩
  · intro i hi
    rw [hlast i hi]
    exact hend q
  · intro k hk
    rcases lt_or_ge k a.length with hlt | hge
    · rw [List.getElem?_append_left hlt, List.getElem?_append_left hlt]
    · have hbeyond : (a ++ p).length ≤ k := by
        by_contra hinside
        rw [List.length_append] at hinside
        exact hk ⟨a.length + 0, hend p, by omega, by omega⟩
      have hbeyond' : (a ++ q).length ≤ k := by
        simpa [hlength] using hbeyond
      rw [List.getElem?_eq_none hbeyond, List.getElem?_eq_none hbeyond']

end Replaced

/-! ## Terminated strings -/

/-- A string that ends in `u` ends in `v` instead. -/
def rename [DecidableEq α] (u v s : List α) : List α :=
  if u <:+ s then s.take (s.length - u.length) ++ v else s

/-- The strings of a list that end in a separator; what follows the last one is
left out. -/
def terminated [DecidableEq α] (z : α) (l : List α) : List (List α) :=
  (l.splitOn z).dropLast

variable {s : List α}

/-- A match in one string is at its end. -/
theorem Occurs.at_end (hs : z ∉ s) (hi : Occurs (u ++ [z]) (s ++ [z]) i) :
    i + u.length = s.length := by
  have hle := hi.le_length (by simp)
  simp only [List.length_append, List.length_singleton] at hle
  by_contra hne
  have hend := occurs_iff.mp hi u.length (by simp)
  rw [List.getElem?_append_right (le_refl _), Nat.sub_self,
    List.getElem?_append_left (by omega)] at hend
  exact hs (List.mem_of_getElem? hend)

theorem Occurs.suffix (hs : z ∉ s) (hi : Occurs (u ++ [z]) (s ++ [z]) i) :
    u <:+ s := by
  have hend := hi.at_end hs
  unfold Occurs at hi
  rw [List.drop_append_of_le_length (by omega)] at hi
  have heq : u ++ [z] = s.drop i ++ [z] := by
    apply hi.eq_of_length
    simp only [List.length_append, List.length_drop]
    omega
  rw [List.append_cancel_right heq]
  exact List.drop_suffix i s

theorem not_occurs_of_notMem (h : z ∉ l) (i : ℕ) :
    ¬ Occurs (u ++ [z]) l i := by
  intro hi
  have hend := occurs_iff.mp hi u.length (by simp)
  rw [List.getElem?_append_right (le_refl _), Nat.sub_self] at hend
  exact h (List.mem_of_getElem? hend)

variable [DecidableEq α]

theorem rename_append (t : List α) : rename u v (t ++ u) = t ++ v := by
  unfold rename
  rw [if_pos (List.suffix_append t u)]
  simp

theorem rename_of_not_suffix (h : ¬ u <:+ s) : rename u v s = s := by
  unfold rename
  rw [if_neg h]

theorem notMem_rename (hv : z ∉ v) (hs : z ∉ s) : z ∉ rename u v s := by
  by_cases hsuffix : u <:+ s
  · rcases hsuffix with ⟨t, rfl⟩
    rw [rename_append]
    simp only [List.mem_append, not_or] at hs ⊢
    exact ⟨hs.1, hv⟩
  · rw [rename_of_not_suffix hsuffix]
    exact hs

/-- Only the string itself is renamed if nothing else ends in it. -/
theorem rename_eq_iff (hne : u ≠ v) :
    rename u v s = (if s = u then v else s) ↔ (u <:+ s → s = u) := by
  by_cases heq : s = u
  · subst heq
    have hself : rename s v s = v := by simpa using rename_append (u := s) []
    simp [hself]
  · rw [if_neg heq]
    constructor
    · rintro hsame ⟨t, rfl⟩
      rw [rename_append] at hsame
      exact absurd (List.append_cancel_left hsame).symm hne
    · intro hend
      exact rename_of_not_suffix fun hsuffix => heq (hend hsuffix)

theorem terminated_of_notMem (h : z ∉ l) : terminated z l = [] := by
  unfold terminated
  rw [List.splitOn_eq_singleton h]
  rfl

theorem terminated_append (hs : z ∉ s) (rest : List α) :
    terminated z (s ++ z :: rest) = s :: terminated z rest := by
  unfold terminated
  rw [List.splitOn_append_cons_self_of_not_mem hs,
    List.dropLast_cons_of_ne_nil (List.splitOn_ne_nil z rest)]

theorem replaced_string (hs : z ∉ s) (hlength : u.length = v.length) :
    Replaced (u ++ [z]) (v ++ [z]) (s ++ [z]) (rename u v s ++ [z]) := by
  by_cases hsuffix : u <:+ s
  · rcases hsuffix with ⟨t, rfl⟩
    rw [rename_append, List.append_assoc, List.append_assoc]
    apply Replaced.last
    · simp [hlength]
    · intro i hi
      rw [← List.append_assoc] at hi
      have hend := hi.at_end hs
      rw [List.length_append] at hend
      omega
  · rw [rename_of_not_suffix hsuffix]
    exact Replaced.refl fun i hi => hsuffix (hi.suffix hs)

theorem exists_replaced (hu : z ∉ u) (hv : z ∉ v)
    (hlength : u.length = v.length) (l : List α) :
    ∃ l', Replaced (u ++ [z]) (v ++ [z]) l l' ∧
      terminated z l' = (terminated z l).map (rename u v) := by
  induction hn : l.length using Nat.strong_induction_on generalizing l with
  | _ n ih =>
      by_cases hmem : z ∈ l
      · rcases List.eq_append_cons_of_mem hmem with ⟨s, rest, rfl, hs⟩
        have hshorter : rest.length < n := by
          rw [← hn]
          simp
          omega
        rcases ih _ hshorter rest rfl with ⟨rest', hrest, hstrings⟩
        refine ⟨rename u v s ++ [z] ++ rest', ?_, ?_⟩
        · have happend := (replaced_string hs hlength).append hu
            (Or.inr ⟨s, rfl⟩) hrest
          simpa using happend
        · rw [List.append_assoc, List.singleton_append,
            terminated_append (notMem_rename hv hs), terminated_append hs,
            List.map_cons, hstrings]
      · refine ⟨l, Replaced.refl (not_occurs_of_notMem hmem), ?_⟩
        rw [terminated_of_notMem hmem]
        rfl

/-- Every string that ends in the name ends in the other one instead. -/
theorem Replaced.terminated_eq (h : Replaced (u ++ [z]) (v ++ [z]) l l')
    (hu : z ∉ u) (hv : z ∉ v) (hlength : u.length = v.length) :
    terminated z l' = (terminated z l).map (rename u v) := by
  rcases exists_replaced hu hv hlength l with ⟨l'', hreplaced, hstrings⟩
  have hsame : l' = l'' := h.unique (by simp [hlength]) hreplaced
  rw [hsame]
  exact hstrings

end TerminatedMatches
