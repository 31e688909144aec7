import Mathlib.Tactic

/-!
# Maps in the order of their keys

A map is the list of its entries in the order of the keys.  Assignment inserts
an entry or replaces the one that is there; an update in place leaves the keys
alone.
-/

namespace OrderedMap

variable {κ β γ : Type*} [LinearOrder κ] {m : List (κ × β)} {k k' : κ} {v : β}

def find (k : κ) : List (κ × β) → Option β
  | [] => none
  | (k', v) :: m => if k' = k then some v else find k m

def insert (k : κ) (v : β) : List (κ × β) → List (κ × β)
  | [] => [(k, v)]
  | (k', v') :: m =>
      if k < k' then (k, v) :: (k', v') :: m
      else if k = k' then (k, v) :: m
      else (k', v') :: insert k v m

def modify (k : κ) (f : β → β) (m : List (κ × β)) : List (κ × β) :=
  m.map fun e => if e.1 = k then (e.1, f e.2) else e

def keys (m : List (κ × β)) : List κ :=
  m.map Prod.fst

/-! ## Entries -/

theorem mem_of_find (h : find k m = some v) : (k, v) ∈ m := by
  induction m with
  | nil => simp [find] at h
  | cons e m ih =>
      obtain ⟨k', v'⟩ := e
      rw [find] at h
      split_ifs at h with hk
      · cases h
        simp [hk]
      · exact List.mem_cons_of_mem _ (ih h)

theorem mem_keys_of_find (h : find k m = some v) : k ∈ keys m :=
  List.mem_map.mpr ⟨(k, v), mem_of_find h, rfl⟩

theorem find_map (g : β → γ) (m : List (κ × β)) (k : κ) :
    find k (m.map fun e => (e.1, g e.2)) = (find k m).map g := by
  induction m with
  | nil => rfl
  | cons e m ih =>
      rw [List.map_cons, find, find]
      split_ifs
      · rfl
      · exact ih

/-! ## Assignment -/

theorem mem_insert {e : κ × β} (h : e ∈ insert k v m) :
    e = (k, v) ∨ e ∈ m := by
  induction m with
  | nil => simpa [insert] using h
  | cons e' m ih =>
      obtain ⟨k', v'⟩ := e'
      rw [insert] at h
      split_ifs at h with hlt heq
      · exact List.mem_cons.mp h
      · rcases List.mem_cons.mp h with hhead | htail
        · exact .inl hhead
        · exact .inr (List.mem_cons_of_mem _ htail)
      · rcases List.mem_cons.mp h with hhead | htail
        · exact .inr (by simp [hhead])
        · rcases ih htail with hnew | hold
          · exact .inl hnew
          · exact .inr (List.mem_cons_of_mem _ hold)

/-- A key above all others goes to the end. -/
theorem insert_of_forall_lt (habove : ∀ e ∈ m, e.1 < k) :
    insert k v m = m ++ [(k, v)] := by
  induction m with
  | nil => rfl
  | cons e m ih =>
      obtain ⟨k', v'⟩ := e
      have hlt : k' < k := habove (k', v') (by simp)
      rw [insert, if_neg (not_lt.mpr hlt.le), if_neg (ne_of_gt hlt),
        ih fun e he => habove e (List.mem_cons_of_mem _ he), List.cons_append]

/-! ## Updates in place -/

theorem find_modify_self (k : κ) (f : β → β) (m : List (κ × β)) :
    find k (modify k f m) = (find k m).map f := by
  induction m with
  | nil => rfl
  | cons e m ih =>
      obtain ⟨k', v'⟩ := e
      by_cases hk : k' = k
      · simp [modify, find, hk]
      · simpa [modify, find, hk] using ih

theorem find_modify_of_ne {f : β → β} (hne : k' ≠ k) :
    find k' (modify k f m) = find k' m := by
  induction m with
  | nil => rfl
  | cons e m ih =>
      obtain ⟨k'', v''⟩ := e
      by_cases hk : k'' = k
      · subst hk
        simpa [modify, find, Ne.symm hne] using ih
      · simp only [modify, List.map_cons, if_neg hk, find]
        split_ifs
        · rfl
        · exact ih

/-- What an update of the values does not touch stays as it is. -/
theorem map_modify {f : β → β} {g : κ × β → γ}
    (hg : ∀ k v, g (k, f v) = g (k, v)) (k : κ) (m : List (κ × β)) :
    (modify k f m).map g = m.map g := by
  unfold modify
  rw [List.map_map]
  apply List.map_congr_left
  rintro ⟨k', v⟩ _
  simp only [Function.comp_apply]
  split_ifs
  · exact hg k' v
  · rfl

end OrderedMap
