import Mathlib.Data.List.ReduceOption
import Mathlib.Tactic

/-!
# Removal from a vector of owning pointers

`remove_if` moves the elements that stay to the front of a vector, and
`erase` cuts off what is left behind.  When the elements are owning pointers,
a move leaves a null pointer behind and destroys what the destination owned,
and `erase` destroys what the tail still owns.  An object that is removed is
therefore destroyed in one of two places, and the question is whether each is
destroyed exactly once and nothing else is.

The predicate may have effects: it takes a state and returns a new one.
-/

section OwningRemoval

variable {α ρ : Type*}

abbrev Slots (α : Type*) :=
  List (Option α)

/-- A vector in the course of a removal: its slots, the objects destroyed so
far in order, and the state of the predicate. -/
structure Removal (α ρ : Type*) where
  slots : Slots α
  destroyed : List α
  effects : ρ

namespace Removal

/-- `*dst = std::move(*src)` for two different slots. -/
def moveAssign (dst src : ℕ) (v : Removal α ρ) : Removal α ρ :=
  { v with
    slots := (v.slots.set src none).set dst (v.slots[src]?.join)
    destroyed := v.destroyed ++ (v.slots[dst]?.join).toList }

/-- `p(*i)`; dereferencing a null pointer has no result. -/
def apply (p : α → ρ → Bool × ρ) (i : ℕ) (v : Removal α ρ) :
    Option (Bool × Removal α ρ) :=
  match v.slots[i]? with
  | some (some x) =>
      let (hit, effects) := p x v.effects
      some (hit, { v with effects := effects })
  | _ => none

/-- The `find_if` at the head of `remove_if`, over the next `n` slots. -/
def findIf (p : α → ρ → Bool × ρ) :
    ℕ → ℕ → Removal α ρ → Option (ℕ × Removal α ρ)
  | 0, i, v => some (i, v)
  | n + 1, i, v =>
      match v.apply p i with
      | none => none
      | some (true, v) => some (i, v)
      | some (false, v) => findIf p n (i + 1) v

/-- The loop of `remove_if` after it, over the next `n` slots. -/
def compact (p : α → ρ → Bool × ρ) :
    ℕ → ℕ → ℕ → Removal α ρ → Option (ℕ × Removal α ρ)
  | 0, first, _, v => some (first, v)
  | n + 1, first, i, v =>
      match v.apply p i with
      | none => none
      | some (true, v) => compact p n first (i + 1) v
      | some (false, v) => compact p n (first + 1) (i + 1) (v.moveAssign first i)

/-- `std::remove_if`: the position of the returned iterator, and the vector. -/
def removeIf (p : α → ρ → Bool × ρ) (v : Removal α ρ) :
    Option (ℕ × Removal α ρ) :=
  match findIf p v.slots.length 0 v with
  | none => none
  | some (first, v) =>
      if first = v.slots.length then some (first, v)
      else compact p (v.slots.length - (first + 1)) first (first + 1) v

/-- `v.erase(first, v.end())`: the tail is destroyed from its end. -/
def eraseFrom (first : ℕ) (v : Removal α ρ) : Removal α ρ :=
  { v with
    slots := v.slots.take first
    destroyed := v.destroyed ++ (v.slots.drop first).reduceOption.reverse }

/-- `remove_if` followed by `erase`, and whether an iterator before the end
was returned in between. -/
def eraseIf (p : α → ρ → Bool × ρ) (v : Removal α ρ) :
    Option (Bool × Removal α ρ) :=
  (removeIf p v).map fun (first, v) =>
    (decide (first ≠ v.slots.length), v.eraseFrom first)

end Removal

/-! ## What a removal is for -/

def verdicts (p : α → ρ → Bool × ρ) : List α → ρ → List (α × Bool) × ρ
  | [], r => ([], r)
  | x :: xs, r =>
      let (hit, r) := p x r
      let (answers, r) := verdicts p xs r
      ((x, hit) :: answers, r)

def kept (answers : List (α × Bool)) : List α :=
  (answers.filter fun answer => !answer.2).map Prod.fst

def dropped (answers : List (α × Bool)) : List α :=
  (answers.filter fun answer => answer.2).map Prod.fst

@[simp] theorem kept_cons {x : α} {hit : Bool} {answers : List (α × Bool)} :
    kept ((x, hit) :: answers) =
      if hit then kept answers else x :: kept answers := by
  cases hit <;> simp [kept]

@[simp] theorem dropped_cons {x : α} {hit : Bool}
    {answers : List (α × Bool)} :
    dropped ((x, hit) :: answers) =
      if hit then x :: dropped answers else dropped answers := by
  cases hit <;> simp [dropped]

theorem verdicts_fst_map (p : α → ρ → Bool × ρ) (xs : List α) (r : ρ) :
    (verdicts p xs r).1.map Prod.fst = xs := by
  induction xs generalizing r with
  | nil => rfl
  | cons x xs ih => simp [verdicts, ih]

theorem kept_append_dropped_perm (answers : List (α × Bool)) :
    (kept answers ++ dropped answers).Perm (answers.map Prod.fst) := by
  induction answers with
  | nil => exact List.Perm.refl _
  | cons answer answers ih =>
      rcases answer with ⟨x, hit⟩
      cases hit with
      | false => simpa using ih
      | true =>
          simp only [kept_cons, dropped_cons, if_true, List.map_cons]
          exact List.perm_middle.trans (ih.cons x)

namespace Removal

variable {p : α → ρ → Bool × ρ} {v : Removal α ρ}

/-! ## The loop -/

theorem apply_of_slot {x : α} {i : ℕ} (hslot : v.slots[i]? = some (some x)) :
    v.apply p i =
      some ((p x v.effects).1, { v with effects := (p x v.effects).2 }) := by
  unfold apply
  rw [hslot]

/-- In the loop the slots are the elements kept so far, then a gap of null
pointers and dropped elements, then the elements still to come. -/
structure Compacting (front : List α) (gap : Slots α) (rest : List α)
    (v : Removal α ρ) : Prop where
  slots : v.slots = front.map some ++ gap ++ rest.map some
  gap_ne : gap ≠ []

theorem Compacting.slot {front rest : List α} {gap : Slots α} {x : α}
    (hv : Compacting front gap (x :: rest) v) :
    v.slots[front.length + gap.length]? = some (some x) := by
  rw [hv.slots, List.getElem?_append_right (by simp)]
  simp

theorem Compacting.drop {front rest : List α} {gap : Slots α} {x : α} {r : ρ}
    (hv : Compacting front gap (x :: rest) v) :
    Compacting front (gap ++ [some x]) rest { v with effects := r } where
  slots := by
    rw [hv.slots]
    simp
  gap_ne := by simp

theorem moveAssign_compacting {front rest : List α} {gap : Slots α}
    {head : Option α} {x : α}
    (hslots : v.slots =
      front.map some ++ (head :: gap) ++ (x :: rest).map some) :
    (v.moveAssign front.length (front.length + (head :: gap).length)).slots =
        (front ++ [x]).map some ++ (gap ++ [none]) ++ rest.map some ∧
      (v.moveAssign front.length
        (front.length + (head :: gap).length)).destroyed =
          v.destroyed ++ head.toList := by
  have hsrc : v.slots[front.length + (head :: gap).length]? =
      some (some x) := by
    rw [hslots, List.getElem?_append_right (by simp)]
    simp
  have hdst : v.slots[front.length]? = some head := by
    rw [hslots, List.append_assoc, List.getElem?_append_right (by simp)]
    simp
  constructor
  · unfold moveAssign
    rw [hsrc]
    simp only [Option.join_some, hslots]
    rw [List.set_append_right _ _ (by simp)]
    simp
  · unfold moveAssign
    simp only [hdst, Option.join_some]

theorem compact_hit {n first i : ℕ} {w : Removal α ρ}
    (happly : v.apply p i = some (true, w)) :
    compact p (n + 1) first i v = compact p n first (i + 1) w := by
  simp [compact, happly]

theorem compact_pass {n first i : ℕ} {w : Removal α ρ}
    (happly : v.apply p i = some (false, w)) :
    compact p (n + 1) first i v =
      compact p n (first + 1) (i + 1) (w.moveAssign first i) := by
  simp [compact, happly]

theorem findIf_hit {n i : ℕ} {w : Removal α ρ}
    (happly : v.apply p i = some (true, w)) :
    findIf p (n + 1) i v = some (i, w) := by
  simp [findIf, happly]

theorem findIf_pass {n i : ℕ} {w : Removal α ρ}
    (happly : v.apply p i = some (false, w)) :
    findIf p (n + 1) i v = findIf p n (i + 1) w := by
  simp [findIf, happly]

/-- One pass over the elements to come: those that stay end up behind the
front, and the dropped ones are destroyed or left in the gap. -/
def CompactsTo (p : α → ρ → Bool × ρ) (rest front : List α) (gap : Slots α)
    (v : Removal α ρ) : Prop :=
  ∃ gap' w,
    compact p rest.length front.length (front.length + gap.length) v =
      some ((front ++ kept (verdicts p rest v.effects).1).length, w) ∧
    Compacting (front ++ kept (verdicts p rest v.effects).1) gap' [] w ∧
    w.effects = (verdicts p rest v.effects).2 ∧
    (w.destroyed ++ gap'.reduceOption).Perm
      (v.destroyed ++ gap.reduceOption ++
        dropped (verdicts p rest v.effects).1)

theorem CompactsTo.nil {front : List α} {gap : Slots α}
    (hv : Compacting front gap [] v) : CompactsTo p [] front gap v := by
  refine ⟨gap, v, ?_, ?_, rfl, ?_⟩
  · simp [compact, verdicts, kept]
  · simpa [verdicts, kept] using hv
  · simp [verdicts, dropped]

theorem CompactsTo.hit {front rest : List α} {gap : Slots α} {x : α} {r : ρ}
    (hv : Compacting front gap (x :: rest) v) (hx : p x v.effects = (true, r))
    (hrest : CompactsTo p rest front (gap ++ [some x])
      { v with effects := r }) :
    CompactsTo p (x :: rest) front gap v := by
  have happly := apply_of_slot (p := p) hv.slot
  rw [hx] at happly
  rcases hrest with ⟨gap', w, hrun, hw, heffects, hdestroyed⟩
  have hlength : front.length + (gap ++ [some x]).length =
      front.length + gap.length + 1 := by
    simp [Nat.add_assoc]
  rw [hlength] at hrun
  refine ⟨gap', w, ?_, ?_, ?_, ?_⟩
  · rw [List.length_cons, compact_hit happly, hrun]
    simp [verdicts, hx]
  · simpa [verdicts, hx] using hw
  · simpa [verdicts, hx] using heffects
  · simpa [verdicts, hx, List.reduceOption_append] using hdestroyed

theorem CompactsTo.pass {front rest : List α} {gap : Slots α}
    {head : Option α} {x : α} {r : ρ}
    (hv : Compacting front (head :: gap) (x :: rest) v)
    (hx : p x v.effects = (false, r))
    (hrest : CompactsTo p rest (front ++ [x]) (gap ++ [none])
      (moveAssign front.length (front.length + (head :: gap).length)
        { v with effects := r })) :
    CompactsTo p (x :: rest) front (head :: gap) v := by
  have happly := apply_of_slot (p := p) hv.slot
  rw [hx] at happly
  have hmoved := moveAssign_compacting (v := { v with effects := r }) hv.slots
  rcases hrest with ⟨gap', w, hrun, hw, heffects, hdestroyed⟩
  have hfirst : (front ++ [x]).length = front.length + 1 := by
    simp
  have hpos : (front ++ [x]).length + (gap ++ [none]).length =
      front.length + (head :: gap).length + 1 := by
    simp only [List.length_append, List.length_cons, List.length_nil]
    omega
  have hhead : (head :: gap).reduceOption =
      head.toList ++ (gap ++ [none]).reduceOption := by
    cases head with
    | none => simp [List.reduceOption_append]
    | some y => simp [List.reduceOption_append]
  have heffect : (moveAssign front.length
      (front.length + (head :: gap).length)
      { v with effects := r }).effects = r := rfl
  rw [heffect] at hrun hw heffects hdestroyed
  rw [hpos, hfirst] at hrun
  rw [hmoved.2] at hdestroyed
  refine ⟨gap', w, ?_, ?_, ?_, ?_⟩
  · rw [List.length_cons, compact_pass happly, hrun]
    simp [verdicts, hx]
  · simpa [verdicts, hx] using hw
  · simpa [verdicts, hx] using heffects
  · rw [hhead]
    simpa [verdicts, hx] using hdestroyed

theorem compact_spec (rest front : List α) (gap : Slots α)
    (v : Removal α ρ) (hv : Compacting front gap rest v) :
    CompactsTo p rest front gap v := by
  induction rest generalizing front gap v with
  | nil => exact CompactsTo.nil hv
  | cons x rest ih =>
      cases hx : p x v.effects with
      | mk hit r =>
          cases hit with
          | true => exact CompactsTo.hit hv hx (ih _ _ _ hv.drop)
          | false =>
              cases gap with
              | nil => exact absurd rfl hv.gap_ne
              | cons head gap =>
                  have hmoved := moveAssign_compacting
                    (v := { v with effects := r }) hv.slots
                  apply CompactsTo.pass hv hx
                  exact ih _ _ _ ⟨hmoved.1, by simp⟩

/-- The search ends at the end, all elements passed, or at the first hit. -/
def FindsTo (p : α → ρ → Bool × ρ) (rest front : List α) (v : Removal α ρ) :
    Prop :=
  (∃ r, findIf p rest.length front.length v =
      some (v.slots.length, { v with effects := r }) ∧
    verdicts p rest v.effects = (rest.map fun x => (x, false), r)) ∨
  ∃ passed x later r, rest = passed ++ x :: later ∧
    findIf p rest.length front.length v =
      some (front.length + passed.length, { v with effects := r }) ∧
    verdicts p rest v.effects =
      ((passed.map fun y => (y, false)) ++
        (x, true) :: (verdicts p later r).1, (verdicts p later r).2)

theorem FindsTo.pass {front rest : List α} {x : α} {r : ρ}
    (hslot : v.slots[front.length]? = some (some x))
    (hx : p x v.effects = (false, r))
    (hrest : FindsTo p rest (front ++ [x]) { v with effects := r }) :
    FindsTo p (x :: rest) front v := by
  have happly := apply_of_slot (p := p) hslot
  rw [hx] at happly
  have hlength : (front ++ [x]).length = front.length + 1 := by
    simp
  rcases hrest with
    ⟨r', hrun, hanswers⟩ | ⟨passed, y, later, r', rfl, hrun, hanswers⟩
  · apply Or.inl
    refine ⟨r', ?_, ?_⟩
    · rw [hlength] at hrun
      exact (findIf_pass happly).trans hrun
    · simp only [] at hanswers
      simp [verdicts, hx, hanswers]
  · apply Or.inr
    refine ⟨x :: passed, y, later, r', rfl, ?_, ?_⟩
    · have hpos : front.length + (x :: passed).length =
          (front ++ [x]).length + passed.length := by
        simp only [List.length_append, List.length_cons, List.length_nil]
        omega
      rw [List.length_cons, findIf_pass happly, hpos, ← hrun, hlength]
    · simp only [] at hanswers
      simp [verdicts, hx, hanswers]

theorem findIf_spec (rest front : List α) (v : Removal α ρ)
    (hv : v.slots = front.map some ++ rest.map some) :
    FindsTo p rest front v := by
  induction rest generalizing front v with
  | nil =>
      have hlength : v.slots.length = front.length := by
        rw [hv]
        simp
      apply Or.inl
      refine ⟨v.effects, ?_, rfl⟩
      rw [hlength]
      rfl
  | cons x rest ih =>
      have hslot : v.slots[front.length]? = some (some x) := by
        rw [hv, List.getElem?_append_right (by simp)]
        simp
      cases hx : p x v.effects with
      | mk hit r =>
          cases hit with
          | true =>
              have happly := apply_of_slot (p := p) hslot
              rw [hx] at happly
              apply Or.inr
              refine ⟨[], x, rest, r, rfl, findIf_hit happly, ?_⟩
              simp [verdicts, hx]
          | false =>
              apply FindsTo.pass hslot hx
              apply ih
              rw [hv]
              simp

theorem removeIf_spec (xs : List α) (r : ρ) :
    ∃ gap w, removeIf p ⟨xs.map some, [], r⟩ =
        some ((kept (verdicts p xs r).1).length, w) ∧
      w.slots = (kept (verdicts p xs r).1).map some ++ gap ∧
      w.effects = (verdicts p xs r).2 ∧
      (w.destroyed ++ gap.reduceOption).Perm (dropped (verdicts p xs r).1) ∧
      (gap = [] ↔ dropped (verdicts p xs r).1 = []) := by
  have hfind := findIf_spec (p := p) xs [] ⟨xs.map some, [], r⟩ rfl
  simp only [FindsTo, List.length_nil, List.length_map, Nat.zero_add] at hfind
  rcases hfind with
    ⟨r', hrun, hanswers⟩ | ⟨passed, x, later, r', rfl, hrun, hanswers⟩
  · have hkept : kept (xs.map fun x => (x, false)) = xs := by
      simp [kept, List.filter_map, Function.comp_def]
    have hdropped : dropped (xs.map fun x => (x, false)) = [] := by
      simp [dropped]
    refine ⟨[], ⟨xs.map some, [], r'⟩, ?_, ?_, ?_, ?_, ?_⟩
    · simp [removeIf, hrun, hanswers, hkept]
    · simp [hanswers, hkept]
    · simp [hanswers]
    · simp [hanswers, hdropped]
    · simp [hanswers, hdropped]
  · let v : Removal α ρ := ⟨(passed ++ x :: later).map some, [], r'⟩
    have hv : Compacting passed [some x] later v := ⟨by simp [v], by simp⟩
    rcases compact_spec (p := p) later passed [some x] v hv with
      ⟨gap, w, hloop, hw, heffects, hdestroyed⟩
    have hkept : kept (verdicts p (passed ++ x :: later) r).1 =
        passed ++ kept (verdicts p later r').1 := by
      simp [hanswers, kept, List.filter_append, List.filter_map,
        Function.comp_def]
    have hdropped : dropped (verdicts p (passed ++ x :: later) r).1 =
        x :: dropped (verdicts p later r').1 := by
      simp [hanswers, dropped, List.filter_append, List.filter_map,
        Function.comp_def]
    refine ⟨gap, w, ?_, ?_, ?_, ?_, ?_⟩
    · have hshort : passed.length ≠ (passed ++ x :: later).length := by
        simp
      have hrest : (passed ++ x :: later).length - (passed.length + 1) =
          later.length := by
        rw [List.length_append, List.length_cons]
        omega
      simp only [removeIf, List.length_map, hrun]
      rw [if_neg hshort, hrest, hkept]
      exact hloop
    · rw [hkept]
      simpa using hw.slots
    · rw [heffects, hanswers]
    · rw [hdropped]
      simpa [v] using hdestroyed
    · rw [hdropped]
      simp [hw.gap_ne]

/-- Each element is asked once, in order; those kept stay in order, and each
of the others is destroyed once. -/
theorem eraseIf_spec (xs : List α) (r : ρ) :
    ∃ w, eraseIf p ⟨xs.map some, [], r⟩ =
        some (decide (dropped (verdicts p xs r).1 ≠ []), w) ∧
      w.slots = (kept (verdicts p xs r).1).map some ∧
      w.effects = (verdicts p xs r).2 ∧
      w.destroyed.Perm (dropped (verdicts p xs r).1) := by
  rcases removeIf_spec (p := p) xs r with
    ⟨gap, w, hrun, hslots, heffects, hdestroyed, hgap⟩
  have htake : w.slots.take (kept (verdicts p xs r).1).length =
      (kept (verdicts p xs r).1).map some := by
    rw [hslots, List.take_left' (by simp)]
  have hdrop : w.slots.drop (kept (verdicts p xs r).1).length = gap := by
    rw [hslots, List.drop_left' (by simp)]
  refine ⟨w.eraseFrom (kept (verdicts p xs r).1).length, ?_, htake, heffects,
    ?_⟩
  · have hremoved : (kept (verdicts p xs r).1).length ≠ w.slots.length ↔
        dropped (verdicts p xs r).1 ≠ [] := by
      rw [hslots, ← not_iff_not, not_not, not_not, ← hgap]
      simp
    simp only [eraseIf, hrun, Option.map_some, hremoved]
  · have hreverse : (w.destroyed ++ gap.reduceOption.reverse).Perm
        (w.destroyed ++ gap.reduceOption) :=
      (List.reverse_perm _).append_left _
    simp only [eraseFrom, hdrop]
    exact hreverse.trans hdestroyed

end Removal

end OwningRemoval
