import Samurai.TerminatedMatches

/-!
# Substituting all matches of a pattern

A stream editor that replaces a pattern everywhere goes through the text from
the left.  It writes the replacement for a match and goes on behind the match,
so that one which begins inside another is passed over.  A pattern says of
each of its places which characters fit there.
-/

namespace GlobalSubstitution

open TerminatedMatches

variable {α : Type*}

/-- The text begins with a match. -/
def fits : List (α → Bool) → List α → Bool
  | [], _ => true
  | _ :: _, [] => false
  | p :: pat, a :: text => p a && fits pat text

/-- The first `skip` characters belong to the last match. -/
def substituteFrom (pat : List (α → Bool)) (repl : List α) :
    ℕ → List α → List α
  | _, [] => []
  | skip + 1, _ :: text => substituteFrom pat repl skip text
  | 0, a :: text =>
      if fits pat (a :: text) then
        repl ++ substituteFrom pat repl (pat.length - 1) text
      else a :: substituteFrom pat repl 0 text

def substitute (pat : List (α → Bool)) (repl text : List α) : List α :=
  substituteFrom pat repl 0 text

/-- The text has a match somewhere. -/
def Matches (pat : List (α → Bool)) (text : List α) : Prop :=
  ∃ i, fits pat (text.drop i) = true

variable {pat ps qs : List (α → Bool)} {p : α → Bool}
  {repl text u v : List α} {a : α} {i j : ℕ}

/-! ## Matches -/

@[simp] theorem fits_nil (text : List α) : fits [] text = true := by
  cases text <;> rfl

@[simp] theorem fits_cons :
    fits (p :: pat) (a :: text) = (p a && fits pat text) := rfl

theorem not_fits_nil (hpat : pat ≠ []) : ¬ fits pat ([] : List α) = true := by
  cases pat with
  | nil => contradiction
  | cons p pat => exact Bool.false_ne_true

theorem fits_append :
    fits (ps ++ qs) text = (fits ps text && fits qs (text.drop ps.length)) := by
  induction ps generalizing text with
  | nil => simp
  | cons p ps ih =>
      cases text with
      | nil => rfl
      | cons a text => simp [ih, Bool.and_assoc]

theorem fits_append_text (hle : pat.length ≤ u.length) :
    fits pat (u ++ v) = fits pat u := by
  induction pat generalizing u with
  | nil => simp
  | cons p pat ih =>
      cases u with
      | nil => simp at hle
      | cons a u =>
          rw [List.cons_append, fits_cons, fits_cons,
            ih (Nat.le_of_succ_le_succ hle)]

theorem fits_split (k : ℕ) :
    fits pat text =
      (fits (pat.take k) text &&
        fits (pat.drop k) (text.drop (pat.take k).length)) := by
  rw [← fits_append, List.take_append_drop]

/-- What of a match lies before a cut and what behind it. -/
theorem fits_cut (hlt : u.length < pat.length)
    (h : fits pat (u ++ v) = true) :
    fits (pat.take u.length) u = true ∧ fits (pat.drop u.length) v = true := by
  have hlength : (pat.take u.length).length = u.length := by
    rw [List.length_take]
    omega
  rw [fits_split u.length, Bool.and_eq_true, hlength, List.drop_left,
    fits_append_text hlength.le] at h
  exact h

theorem Matches.cons (h : Matches pat text) : Matches pat (a :: text) := by
  obtain ⟨i, hi⟩ := h
  exact ⟨i + 1, hi⟩

/-! ## One match at a time -/

theorem substituteFrom_eq (skip : ℕ) :
    substituteFrom pat repl skip text =
      substitute pat repl (text.drop skip) := by
  induction skip generalizing text with
  | zero => rfl
  | succ skip ih =>
      cases text with
      | nil => rfl
      | cons a text => exact ih

@[simp] theorem substitute_nil : substitute pat repl [] = [] := rfl

theorem substitute_of_fits (hpat : pat ≠ []) (h : fits pat text = true) :
    substitute pat repl text =
      repl ++ substitute pat repl (text.drop pat.length) := by
  cases text with
  | nil => exact absurd h (not_fits_nil hpat)
  | cons a text =>
      have hlength : pat.length = pat.length - 1 + 1 := by
        have := List.length_pos_iff.mpr hpat
        omega
      rw [substitute, substituteFrom, if_pos h, substituteFrom_eq, hlength,
        List.drop_succ_cons, Nat.add_sub_cancel]

theorem substitute_of_not_fits (h : ¬ fits pat (a :: text) = true) :
    substitute pat repl (a :: text) = a :: substitute pat repl text := by
  rw [substitute, substituteFrom, if_neg h]
  rfl

/-- A text is empty, begins with a match, or begins with a character that the
editor keeps. -/
theorem substitution_induction {motive : List α → Prop} (hpat : pat ≠ [])
    (nil : motive [])
    (replaced : ∀ text, fits pat text = true →
      motive (text.drop pat.length) → motive text)
    (kept : ∀ a text, ¬ fits pat (a :: text) = true →
      motive text → motive (a :: text)) (text : List α) : motive text := by
  induction hn : text.length using Nat.strong_induction_on generalizing text with
  | _ n ih =>
      cases text with
      | nil => exact nil
      | cons a text =>
          by_cases h : fits pat (a :: text) = true
          · apply replaced _ h
            apply ih _ _ _ rfl
            have hpos := List.length_pos_iff.mpr hpat
            rw [List.length_drop, ← hn]
            have hcons : 0 < (a :: text).length := Nat.succ_pos _
            omega
          · apply kept a text h
            apply ih _ _ _ rfl
            rw [← hn]
            exact Nat.lt_succ_self _

theorem substitute_of_not_matches (h : ¬ Matches pat text) :
    substitute pat repl text = text := by
  induction text with
  | nil => rfl
  | cons a text ih =>
      have hnot : ¬ fits pat (a :: text) = true := fun hfits => h ⟨0, hfits⟩
      rw [substitute_of_not_fits hnot, ih fun hmatches => h hmatches.cons]

/-- A text with a match changes, as the replacement is none. -/
theorem substitute_ne_of_matches (hpat : pat ≠ [])
    (hle : pat.length ≤ repl.length) (hrepl : fits pat repl = false)
    (h : Matches pat text) : substitute pat repl text ≠ text := by
  induction text using substitution_induction hpat with
  | nil =>
      obtain ⟨i, hi⟩ := h
      rw [List.drop_nil] at hi
      exact absurd hi (not_fits_nil hpat)
  | replaced text hfits =>
      intro heq
      rw [substitute_of_fits hpat hfits] at heq
      rw [← heq, fits_append_text hle, hrepl] at hfits
      contradiction
  | kept a text hnot ih =>
      obtain ⟨i, hi⟩ := h
      cases i with
      | zero => exact absurd hi hnot
      | succ i =>
          rw [substitute_of_not_fits hnot]
          intro heq
          exact ih ⟨i, hi⟩ (List.cons.inj heq).2

theorem fits_of_fits_append (h : fits pat (u ++ v) = true) :
    fits (pat.take u.length) u = true := by
  rcases Nat.lt_or_ge u.length pat.length with hlt | hge
  · exact (fits_cut hlt h).1
  · rw [List.take_of_length_le hge, ← fits_append_text hge]
    exact h

/-! ## Replacements apart from the pattern -/

/-- No match can share a character with a copy of the replacement. -/
structure Apart (pat : List (α → Bool)) (repl : List α) : Prop where
  nonempty : pat ≠ []
  behind : ∀ i, i < repl.length →
    fits (pat.take (repl.length - i)) (repl.drop i) = false
  before : ∀ j, j < pat.length →
    fits ((pat.drop j).take repl.length) repl = false

namespace Apart

theorem fits_drop (h : Apart pat repl)
    (hfits : fits (pat.drop j) (substitute pat repl text) = true) :
    fits (pat.drop j) text = true := by
  rcases Nat.lt_or_ge j pat.length with hj | hj
  swap
  · rw [List.drop_eq_nil_of_le hj, fits_nil]
  induction text using substitution_induction h.nonempty generalizing j with
  | nil => exact hfits
  | replaced text hmatch =>
      rw [substitute_of_fits h.nonempty hmatch] at hfits
      have hinside := fits_of_fits_append hfits
      rw [h.before j hj] at hinside
      contradiction
  | kept a text hnot ih =>
      rw [substitute_of_not_fits hnot] at hfits
      rw [List.drop_eq_getElem_cons hj, fits_cons, Bool.and_eq_true] at hfits ⊢
      rcases Nat.lt_or_ge (j + 1) pat.length with hnext | hnext
      · exact ⟨hfits.1, ih hfits.2 hnext⟩
      · rw [List.drop_eq_nil_of_le hnext, fits_nil]
        exact ⟨hfits.1, rfl⟩

theorem not_matches (h : Apart pat repl) (text : List α) :
    ¬ Matches pat (substitute pat repl text) := by
  induction text using substitution_induction h.nonempty with
  | nil =>
      rintro ⟨i, hi⟩
      rw [substitute_nil, List.drop_nil] at hi
      exact not_fits_nil h.nonempty hi
  | replaced text hfits ih =>
      rintro ⟨i, hi⟩
      rw [substitute_of_fits h.nonempty hfits] at hi
      rcases Nat.lt_or_ge i repl.length with hlt | hge
      · rw [List.drop_append_of_le_length hlt.le] at hi
        have hinside := fits_of_fits_append hi
        rw [List.length_drop, h.behind i hlt] at hinside
        contradiction
      · rw [List.drop_append, List.drop_eq_nil_of_le hge] at hi
        exact ih ⟨_, hi⟩
  | kept a text hnot ih =>
      rintro ⟨i, hi⟩
      cases i with
      | zero =>
          apply hnot
          rw [← List.drop_zero (l := pat)]
          exact h.fits_drop hi
      | succ i =>
          rw [substitute_of_not_fits hnot] at hi
          exact ih ⟨i, hi⟩

theorem substitute_substitute (h : Apart pat repl) (text : List α) :
    substitute pat repl (substitute pat repl text) =
      substitute pat repl text :=
  substitute_of_not_matches (h.not_matches text)

end Apart

/-! ## Words -/

section Words

variable {w r : List α}

/-- Two occurrences of the word share a place. -/
def Overlapping (w text : List α) : Prop :=
  ∃ i j, i < j ∧ j < i + w.length ∧ Occurs w text i ∧ Occurs w text j

/-- The replacement is as long as the word and overlaps it, on both sides,
exactly where the word overlaps itself. -/
structure SameBorders (w r : List α) : Prop where
  nonempty : w ≠ []
  length : r.length = w.length
  ne : r ≠ w
  behind : ∀ i, 0 < i → i < w.length → (r.drop i <+: w ↔ w.drop i <+: w)
  before : ∀ j, 0 < j → j < w.length → (w.drop j <+: r ↔ w.drop j <+: w)

/-- A word that begins in one text and ends in the next. -/
theorem isPrefix_append_iff (hle : u.length ≤ w.length) :
    w <+: u ++ v ↔ u <+: w ∧ w.drop u.length <+: v := by
  constructor
  · intro h
    have hu : u <+: w :=
      List.prefix_of_prefix_length_le (List.prefix_append u v) h hle
    obtain ⟨rest, rfl⟩ := hu
    rw [List.prefix_append_right_inj] at h
    rw [List.drop_left]
    exact ⟨List.prefix_append u rest, h⟩
  · rintro ⟨⟨rest, rfl⟩, h⟩
    rw [List.drop_left] at h
    rwa [List.prefix_append_right_inj]

theorem isPrefix_append_of_le (hle : w.length ≤ u.length) :
    w <+: u ++ v ↔ w <+: u :=
  ⟨fun h => List.prefix_of_prefix_length_le h (List.prefix_append u v) hle,
    fun h => h.trans (List.prefix_append u v)⟩

variable [DecidableEq α]

/-- The pattern that only the word itself fits. -/
def literal (w : List α) : List (α → Bool) :=
  w.map fun c a => a == c

@[simp] theorem length_literal : (literal w).length = w.length :=
  List.length_map _

theorem literal_ne_nil (hw : w ≠ []) : literal w ≠ [] := by
  rwa [literal, Ne, List.map_eq_nil_iff]

theorem fits_literal : fits (literal w) text = true ↔ w <+: text := by
  induction w generalizing text with
  | nil => simp [literal]
  | cons c w ih =>
      cases text with
      | nil => simp [literal, fits]
      | cons a text =>
          rw [literal, List.map_cons, fits_cons, Bool.and_eq_true, beq_iff_eq,
            List.cons_prefix_cons, eq_comm]
          exact and_congr_right fun _ => ih

theorem matches_literal : Matches (literal w) text ↔ ∃ i, Occurs w text i :=
  exists_congr fun _ => fits_literal

theorem substitute_of_word (hw : w ≠ []) (hword : w <+: text) :
    substitute (literal w) r text =
      r ++ substitute (literal w) r (text.drop w.length) := by
  rw [substitute_of_fits (literal_ne_nil hw) (fits_literal.mpr hword),
    length_literal]

/-- What the editor makes of a text, one word at a time. -/
theorem word_induction {motive : List α → Prop} (hw : w ≠ [])
    (nil : motive [])
    (replaced : ∀ text, w <+: text →
      substitute (literal w) r text =
        r ++ substitute (literal w) r (text.drop w.length) →
      motive (text.drop w.length) → motive text)
    (kept : ∀ a text, ¬ w <+: a :: text →
      substitute (literal w) r (a :: text) =
        a :: substitute (literal w) r text →
      motive text → motive (a :: text)) (text : List α) : motive text := by
  have hpat := literal_ne_nil hw
  apply substitution_induction hpat nil
  · intro text hfits ih
    rw [length_literal] at ih
    exact replaced text (fits_literal.mp hfits)
      (substitute_of_word hw (fits_literal.mp hfits)) ih
  · intro a text hnot ih
    apply kept a text _ (substitute_of_not_fits hnot) ih
    rwa [← fits_literal]

/-! ## Words of one length -/

theorem length_substitute (hw : w ≠ []) (hlength : r.length = w.length)
    (text : List α) :
    (substitute (literal w) r text).length = text.length := by
  induction text using word_induction (r := r) hw with
  | nil => rfl
  | replaced text hword heq ih =>
      have hle := hword.length_le
      rw [heq, List.length_append, ih, hlength, List.length_drop]
      omega
  | kept a text _ heq ih => rw [heq, List.length_cons, List.length_cons, ih]

/-- Only what lies in an occurrence is written. -/
theorem getElem?_substitute {k : ℕ} (hw : w ≠ [])
    (hlength : r.length = w.length) (hk : ¬ Covered w text k) :
    (substitute (literal w) r text)[k]? = text[k]? := by
  induction text using word_induction (r := r) hw generalizing k with
  | nil => rfl
  | replaced text hword heq ih =>
      have hge : w.length ≤ k := by
        by_contra hlt
        exact hk ⟨0, hword, Nat.zero_le k, by omega⟩
      rw [heq, List.getElem?_append_right (by omega), hlength, ih,
        List.getElem?_drop, Nat.add_sub_cancel' hge]
      rintro ⟨i, hi, hle, hlt⟩
      unfold Occurs at hi
      rw [List.drop_drop] at hi
      exact hk ⟨w.length + i, hi, by omega, by omega⟩
  | kept a text _ heq ih =>
      rw [heq]
      cases k with
      | zero => rfl
      | succ k =>
          rw [List.getElem?_cons_succ, List.getElem?_cons_succ]
          apply ih
          rintro ⟨i, hi, hle, hlt⟩
          exact hk ⟨i + 1, hi, by omega, by omega⟩

/-- An occurrence that does not begin inside another is replaced. -/
theorem occurs_substitute_of_first (hw : w ≠ [])
    (hlength : r.length = w.length) (hi : Occurs w text i)
    (hfirst : ∀ j, j < i → i < j + w.length → ¬ Occurs w text j) :
    Occurs r (substitute (literal w) r text) i := by
  induction text using word_induction (r := r) hw generalizing i with
  | nil =>
      unfold Occurs at hi
      rw [List.drop_nil, List.prefix_nil] at hi
      contradiction
  | replaced text hword heq ih =>
      rw [heq]
      rcases Nat.eq_zero_or_pos i with rfl | hpos
      · exact List.prefix_append r _
      · have hge : w.length ≤ i := by
          by_contra hlt
          exact hfirst 0 hpos (by omega) hword
        have hsplit : i = w.length + (i - w.length) := by omega
        rw [hsplit, ← hlength, occurs_append_right, hlength]
        apply ih
        · unfold Occurs
          rw [List.drop_drop, ← hsplit]
          exact hi
        · intro j hj hlt hoccurs
          unfold Occurs at hoccurs
          rw [List.drop_drop] at hoccurs
          exact hfirst _ (by omega) (by omega) hoccurs
  | kept a text hnot heq ih =>
      rw [heq]
      cases i with
      | zero => exact absurd hi hnot
      | succ i =>
          apply ih hi
          intro j hj hlt hoccurs
          exact hfirst (j + 1) (by omega) (by omega) hoccurs

/-! ## Words with the same borders -/

namespace SameBorders

variable (h : SameBorders w r)
include h

/-- The ends of the word are where they were. -/
theorem drop_isPrefix_iff (hj : 0 < j) :
    w.drop j <+: substitute (literal w) r text ↔ w.drop j <+: text := by
  rcases Nat.lt_or_ge j w.length with hlt | hge
  swap
  · rw [List.drop_eq_nil_of_le hge]
    simp
  induction text using word_induction (r := r) h.nonempty generalizing j with
  | nil => rfl
  | replaced text hword heq _ =>
      obtain ⟨rest, rfl⟩ := hword
      have hle : (w.drop j).length ≤ w.length := by
        rw [List.length_drop]
        omega
      rw [heq, isPrefix_append_of_le (by rw [h.length]; exact hle),
        h.before j hj hlt, isPrefix_append_of_le hle]
  | kept a text _ heq ih =>
      rw [heq, List.drop_eq_getElem_cons hlt, List.cons_prefix_cons,
        List.cons_prefix_cons]
      apply and_congr_right
      intro _
      rcases Nat.lt_or_ge (j + 1) w.length with hnext | hnext
      · exact ih (Nat.succ_pos j) hnext
      · rw [List.drop_eq_nil_of_le hnext]
        simp

/-- The word begins inside a replaced occurrence exactly where it did. -/
theorem occurs_inside_iff (hword : w <+: text) (hi : 0 < i)
    (hlt : i < w.length) :
    Occurs w (substitute (literal w) r text) i ↔ Occurs w text i := by
  have hlength := h.length
  rw [Occurs, Occurs, substitute_of_word h.nonempty hword]
  obtain ⟨rest, rfl⟩ := hword
  rw [List.drop_left, List.drop_append_of_le_length (by omega),
    List.drop_append_of_le_length hlt.le,
    isPrefix_append_iff (by rw [List.length_drop]; omega),
    isPrefix_append_iff (by rw [List.length_drop]; omega),
    h.behind i hi hlt, List.length_drop, List.length_drop, hlength,
    h.drop_isPrefix_iff (by omega)]

/-- The word is only where it was. -/
theorem occurs_of_substitute
    (hi : Occurs w (substitute (literal w) r text) i) : Occurs w text i := by
  induction text using word_induction (r := r) h.nonempty generalizing i with
  | nil => exact hi
  | replaced text hword heq ih =>
      rcases Nat.eq_zero_or_pos i with rfl | hpos
      · exact hword
      rcases Nat.lt_or_ge i w.length with hlt | hge
      · exact (h.occurs_inside_iff hword hpos hlt).mp hi
      · have hsplit : i = w.length + (i - w.length) := by omega
        rw [heq, hsplit, ← h.length, occurs_append_right, h.length] at hi
        have hrest := ih hi
        unfold Occurs at hrest
        rw [List.drop_drop, ← hsplit] at hrest
        exact hrest
  | kept a text hnot heq ih =>
      cases i with
      | zero =>
          rw [Occurs, List.drop_zero, heq] at hi
          obtain ⟨c, rest, rfl⟩ := List.exists_cons_of_ne_nil h.nonempty
          rw [List.cons_prefix_cons] at hi
          rw [Occurs, List.drop_zero, List.cons_prefix_cons]
          exact ⟨hi.1, (h.drop_isPrefix_iff Nat.one_pos).mp hi.2⟩
      | succ i =>
          rw [heq] at hi
          exact ih hi

/-- An occurrence that is left overlaps one before it. -/
theorem overlapping_of_occurs
    (hi : Occurs w (substitute (literal w) r text) i) :
    Overlapping w text := by
  have htext := h.occurs_of_substitute hi
  by_contra hnot
  have hreplaced := occurs_substitute_of_first h.nonempty h.length htext
    fun j hj hlt hoccurs => hnot ⟨j, i, hj, hlt, hoccurs, htext⟩
  have heq : r = w :=
    (List.prefix_of_prefix_length_le hreplaced hi h.length.le).eq_of_length
      h.length
  exact h.ne heq

theorem exists_occurs_of_overlapping (hoverlapping : Overlapping w text) :
    ∃ i, Occurs w (substitute (literal w) r text) i := by
  induction text using word_induction (r := r) h.nonempty with
  | nil =>
      obtain ⟨i, j, _, _, hi, _⟩ := hoverlapping
      exact ⟨i, hi⟩
  | replaced text hword heq ih =>
      have hinside : ∀ i, 0 < i → i < w.length → Occurs w text i →
          ∃ i, Occurs w (substitute (literal w) r text) i :=
        fun i hpos hlt hi => ⟨i, (h.occurs_inside_iff hword hpos hlt).mpr hi⟩
      obtain ⟨i, j, hij, hj, hi, hoccurs⟩ := hoverlapping
      rcases Nat.eq_zero_or_pos i with rfl | hpos
      · exact hinside j hij (by omega) hoccurs
      rcases Nat.lt_or_ge i w.length with hlt | hge
      · exact hinside i hpos hlt hi
      · have hrest : Overlapping w (text.drop w.length) := by
          refine ⟨i - w.length, j - w.length, by omega, by omega, ?_, ?_⟩
          · rw [Occurs, List.drop_drop, Nat.add_sub_cancel' hge]
            exact hi
          · rw [Occurs, List.drop_drop, Nat.add_sub_cancel' (by omega)]
            exact hoccurs
        obtain ⟨k, hk⟩ := ih hrest
        rw [heq]
        exact ⟨r.length + k, occurs_append_right.mpr hk⟩
  | kept a text hnot heq ih =>
      obtain ⟨i, j, hij, hj, hi, hoccurs⟩ := hoverlapping
      cases i with
      | zero => exact absurd hi hnot
      | succ i =>
          cases j with
          | zero => contradiction
          | succ j =>
              obtain ⟨k, hk⟩ := ih ⟨i, j, by omega, by omega, hi, hoccurs⟩
              rw [heq]
              exact ⟨k + 1, hk⟩

theorem exists_occurs_iff :
    (∃ i, Occurs w (substitute (literal w) r text) i) ↔ Overlapping w text :=
  ⟨fun ⟨_, hi⟩ => h.overlapping_of_occurs hi, h.exists_occurs_of_overlapping⟩

theorem substitute_substitute_iff :
    substitute (literal w) r (substitute (literal w) r text) =
        substitute (literal w) r text ↔
      ¬ Overlapping w text := by
  rw [← h.exists_occurs_iff, ← matches_literal]
  constructor
  · intro heq hmatches
    apply substitute_ne_of_matches (literal_ne_nil h.nonempty) _ _ hmatches heq
    · rw [length_literal, h.length]
    · rw [Bool.eq_false_iff, Ne, fits_literal]
      intro hsame
      exact h.ne (hsame.eq_of_length h.length.symm).symm
  · exact substitute_of_not_matches

/-- Every occurrence is replaced exactly if no two of them overlap. -/
theorem replaced_iff :
    Replaced w r text (substitute (literal w) r text) ↔
      ¬ Overlapping w text := by
  constructor
  · intro hreplaced hoverlapping
    obtain ⟨i, hi⟩ := h.exists_occurs_of_overlapping hoverlapping
    have hr := hreplaced.replaced i (h.occurs_of_substitute hi)
    exact h.ne ((List.prefix_of_prefix_length_le hr hi h.length.le).eq_of_length
      h.length)
  · intro hnot
    constructor
    · exact length_substitute h.nonempty h.length text
    · intro i hi
      apply occurs_substitute_of_first h.nonempty h.length hi
      intro j hj hlt hoccurs
      exact hnot ⟨j, i, hj, hlt, hoccurs, hi⟩
    · intro k hk
      exact getElem?_substitute h.nonempty h.length hk

end SameBorders

end Words

end GlobalSubstitution
