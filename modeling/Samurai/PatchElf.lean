import Samurai.BreakingLoop
import Samurai.TerminatedMatches

/-!
# Patching a library name

`patch_elf.py` overwrites a name in a binary by another of the same length.
It looks for the bytes of the name with the NUL behind it, from the end of the
last match on, and writes over the array it searches.
-/

namespace Samurai.PatchElf

open TerminatedMatches

/-! ## The script -/

/-- `bytearray.find(sub, start)`; there is no result for -1. -/
def find (data sub : List UInt8) (start : ℕ) : Option ℕ :=
  (List.range' start (data.length + 1 - start)).find? fun i =>
    sub.isPrefixOf (data.drop i)

/-- `str.encode('ascii')`; there is no result where it raises. -/
def encodeAscii (name : List Char) : Option (List UInt8) :=
  if name.all fun c => c.toNat < 128 then
    some (name.map fun c => UInt8.ofNat c.toNat)
  else none

structure SearchState where
  data : List UInt8
  idx : ℕ
  count : ℕ
  deriving DecidableEq, Repr

/-- One round of the loop, which breaks if nothing is found. -/
def searchRound (old_bytes new_bytes : List UInt8) (s : SearchState) :
    Option SearchState :=
  (find s.data old_bytes s.idx).map fun idx =>
    { data := s.data.take idx ++ new_bytes ++
        s.data.drop (idx + old_bytes.length)
      idx := idx + old_bytes.length
      count := s.count + 1 }

inductive PatchError where
  | ValueError (message : String)
  | UnicodeEncodeError
  deriving DecidableEq, Repr

/-- What the call returns or raises, and what it writes to the file. -/
structure PatchResult where
  returned : Except PatchError Bool
  written : Option (List UInt8)

/-- There is no result if the rounds are not enough for the loop. -/
def patch_elf (rounds : ℕ) (file : Option (List UInt8))
    (old_lib new_lib : List Char) : Option PatchResult :=
  if old_lib.length ≠ new_lib.length then
    some ⟨.error (.ValueError "Library names must be of the same length"), none⟩
  else
    match file with
    | none => some ⟨.ok false, none⟩
    | some data =>
        match encodeAscii old_lib, encodeAscii new_lib with
        | some old_lib, some new_lib =>
            (BreakingLoop.loop (searchRound (old_lib ++ [0]) (new_lib ++ [0]))
                rounds { data := data, idx := 0, count := 0 }).map fun s =>
              if s.count = 0 then ⟨.ok false, none⟩
              else ⟨.ok true, some s.data⟩
        | _, _ => some ⟨.error .UnicodeEncodeError, none⟩

/-- The content of the file afterwards. -/
def PatchResult.content (r : PatchResult) (before : List UInt8) : List UInt8 :=
  r.written.getD before

/-! ## Searching -/

variable {data sub p q : List UInt8} {start i : ℕ} {s t : SearchState}

theorem occurs_iff_isPrefixOf :
    sub.isPrefixOf (data.drop i) = true ↔ Occurs sub data i :=
  List.isPrefixOf_iff_prefix

theorem find_some (hfind : find data sub start = some i) :
    start ≤ i ∧ Occurs sub data i ∧
      ∀ j, start ≤ j → j < i → ¬ Occurs sub data j := by
  unfold find at hfind
  rw [List.find?_range'_eq_some] at hfind
  rcases hfind with ⟨hoccurs, hmem, hfirst⟩
  refine ⟨(List.mem_range'_1.mp hmem).1, occurs_iff_isPrefixOf.mp hoccurs, ?_⟩
  intro j hstart hlt hj
  have hnot := hfirst j hstart hlt
  rw [occurs_iff_isPrefixOf.mpr hj] at hnot
  contradiction

theorem find_none (hsub : sub ≠ []) (hfind : find data sub start = none)
    (hle : start ≤ i) : ¬ Occurs sub data i := by
  intro hi
  have hlength := hi.le_length hsub
  unfold find at hfind
  rw [List.find?_eq_none] at hfind
  apply hfind i
  · rw [List.mem_range'_1]
    omega
  · exact occurs_iff_isPrefixOf.mpr hi

/-! ## The loop -/

/-- What was read so far is `front`, of which `done` was made, and `rest` was
not touched. -/
structure Scanned (u v front done rest : List UInt8) (s : SearchState) :
    Prop where
  data : s.data = done ++ rest
  idx : s.idx = front.length
  closed : Closed 0 front
  replaced : Replaced (u ++ [0]) (v ++ [0]) front done
  counted : 0 < s.count ↔ ∃ i, Occurs (u ++ [0]) front i

variable {u v front done rest content : List UInt8}

theorem scanned_initial :
    Scanned u v [] [] content { data := content, idx := 0, count := 0 } := by
  have hnone : ∀ i, ¬ Occurs (u ++ [0]) ([] : List UInt8) i :=
    not_occurs_of_notMem List.not_mem_nil
  exact
    { data := rfl
      idx := rfl
      closed := Or.inl rfl
      replaced := Replaced.refl hnone
      counted := by simp [hnone] }

/-- A round goes on to the end of the next match. -/
theorem Scanned.round (hs : Scanned u v front done rest s) (hu : 0 ∉ u)
    (hlength : u.length = v.length)
    (hround : searchRound (u ++ [0]) (v ++ [0]) s = some t) :
    ∃ gap rest', rest = gap ++ (u ++ [0]) ++ rest' ∧
      Scanned u v (front ++ (gap ++ (u ++ [0])))
        (done ++ (gap ++ (v ++ [0]))) rest' t := by
  unfold searchRound at hround
  rcases Option.map_eq_some_iff.mp hround with ⟨idx, hfind, ht⟩
  rcases find_some hfind with ⟨hstart, hoccurs, hfirst⟩
  have hdone : done.length = front.length := hs.replaced.length
  have hfrom := hs.idx
  have hidx : idx = done.length + (idx - done.length) := by omega
  have hrest : ∀ j, Occurs (u ++ [0]) s.data (done.length + j) ↔
      Occurs (u ++ [0]) rest j := by
    intro j
    rw [hs.data]
    exact occurs_append_right
  generalize hk : idx - done.length = k at hidx
  rw [hidx, hrest] at hoccurs
  have hbound := hoccurs.le_length (by simp)
  rcases hoccurs with ⟨rest', hrest'⟩
  have hgap : (rest.take k).length = k := by
    rw [List.length_take]
    omega
  have hsplit : rest = rest.take k ++ (u ++ [0]) ++ rest' := by
    rw [List.append_assoc, hrest', List.take_append_drop]
  generalize rest.take k = gap at hgap hsplit
  have hdata : s.data = done ++ gap ++ ((u ++ [0]) ++ rest') := by
    rw [hs.data, hsplit]
    simp only [List.append_assoc]
  have hlast : ∀ i, Occurs (u ++ [0]) (gap ++ (u ++ [0])) i →
      i = gap.length := by
    intro i hi
    have hle := hi.le_length (by simp)
    simp only [List.length_append, List.length_singleton] at hle
    by_contra hne
    apply hfirst (done.length + i)
    · omega
    · omega
    · rw [hrest, hsplit]
      exact hi.append_left rest'
  have hpiece : Replaced (u ++ [0]) (v ++ [0]) (gap ++ (u ++ [0]))
      (gap ++ (v ++ [0])) :=
    Replaced.last (by simp [hlength]) hlast
  refine ⟨gap, rest', hsplit, ?_⟩
  rw [← ht]
  exact
    { data := by
        have htake : (done ++ gap).length = idx := by
          rw [List.length_append]
          omega
        show s.data.take idx ++ (v ++ [0]) ++
            s.data.drop (idx + (u ++ [0]).length) = _
        rw [hdata, ← htake, List.take_left' rfl, ← List.drop_drop,
          List.drop_left' rfl, List.drop_left' rfl]
        simp only [List.append_assoc]
      idx := by
        show idx + (u ++ [0]).length = _
        simp only [List.length_append, List.length_singleton]
        omega
      closed := Or.inr ⟨front ++ (gap ++ u), by simp only [List.append_assoc]⟩
      replaced := hs.replaced.append hu hs.closed hpiece
      counted := by
        refine iff_of_true (Nat.succ_pos _) ⟨front.length + gap.length, ?_⟩
        rw [occurs_append_right, ← Nat.add_zero gap.length, occurs_append_right]
        exact List.prefix_rfl }

/-- The loop ends, with all matches replaced. -/
theorem loop_searchRound (hu : 0 ∉ u) (hlength : u.length = v.length)
    {rounds : ℕ} (hrounds : content.length < rounds) :
    ∃ t, BreakingLoop.loop (searchRound (u ++ [0]) (v ++ [0])) rounds
        { data := content, idx := 0, count := 0 } = some t ∧
      Replaced (u ++ [0]) (v ++ [0]) content t.data ∧
      (0 < t.count ↔ ∃ i, Occurs (u ++ [0]) content i) := by
  let invariant (s : SearchState) : Prop :=
    ∃ front done rest, content = front ++ rest ∧ Scanned u v front done rest s
  have hbody : ∀ s t, invariant s →
      searchRound (u ++ [0]) (v ++ [0]) s = some t →
      invariant t ∧ content.length - t.idx < content.length - s.idx := by
    rintro s t ⟨front, done, rest, hcontent, hs⟩ hround
    rcases hs.round hu hlength hround with ⟨gap, rest', hrest, ht⟩
    have hcontent' : content = front ++ (gap ++ (u ++ [0])) ++ rest' := by
      rw [hcontent, hrest]
      simp only [List.append_assoc]
    refine ⟨⟨_, _, rest', hcontent', ht⟩, ?_⟩
    have hlengths := congrArg List.length hcontent'
    rw [ht.idx, hs.idx]
    simp only [List.length_append, List.length_singleton] at hlengths ⊢
    omega
  have hinitial : invariant { data := content, idx := 0, count := 0 } :=
    ⟨[], [], content, rfl, scanned_initial⟩
  rcases BreakingLoop.loop_ends (fun s => content.length - s.idx) hbody hinitial
    hrounds with ⟨t, hloop, ⟨front, done, rest, hcontent, ht⟩, hbreak⟩
  have hnone : ∀ i, ¬ Occurs (u ++ [0]) rest i := by
    intro i hi
    have hfind := Option.map_eq_none_iff.mp hbreak
    apply find_none (by simp) hfind (i := done.length + i)
    · rw [ht.idx, ht.replaced.length]
      omega
    · rw [ht.data]
      exact occurs_append_right.mpr hi
  refine ⟨t, hloop, ?_, ?_⟩
  · rw [hcontent, ht.data]
    exact ht.replaced.append hu ht.closed (Replaced.refl hnone)
  · rw [ht.counted, hcontent]
    constructor
    · rintro ⟨i, hi⟩
      exact ⟨i, hi.append_left rest⟩
    · rintro ⟨i, hi⟩
      rcases ht.closed.occurs_append hu hi with hfront | ⟨j, _, hj⟩
      · exact ⟨i, hfront⟩
      · exact absurd hj (hnone j)

/-! ## Names -/

/-- ASCII and without a NUL. -/
def IsName (name : List Char) : Prop :=
  ∀ c ∈ name, c.toNat ≠ 0 ∧ c.toNat < 128

theorem isName_iff {name : List Char} :
    IsName name ↔
      (name.all fun c => c.toNat ≠ 0 ∧ c.toNat < 128) = true := by
  simp only [IsName, List.all_eq_true, decide_eq_true_eq]

instance (name : List Char) : Decidable (IsName name) :=
  decidable_of_iff' _ isName_iff

structure NamePair (old_lib new_lib : List Char) : Prop where
  old_isName : IsName old_lib
  new_isName : IsName new_lib
  length : old_lib.length = new_lib.length
  distinct : old_lib ≠ new_lib

theorem NamePair.symm {old_lib new_lib : List Char}
    (h : NamePair old_lib new_lib) : NamePair new_lib old_lib :=
  ⟨h.new_isName, h.old_isName, h.length.symm, h.distinct.symm⟩

def nameBytes (name : List Char) : List UInt8 :=
  name.map fun c => UInt8.ofNat c.toNat

variable {name old_lib new_lib : List Char}

theorem encodeAscii_eq (h : IsName name) :
    encodeAscii name = some (nameBytes name) := by
  unfold encodeAscii
  rw [if_pos]
  · rfl
  · rw [List.all_eq_true]
    intro c hc
    exact decide_eq_true (h c hc).2

theorem toNat_ofNat {c : Char} (hc : c.toNat < 128) :
    (UInt8.ofNat c.toNat).toNat = c.toNat := by
  rw [UInt8.toNat_ofNat']
  omega

theorem zero_notMem_nameBytes (h : IsName name) : 0 ∉ nameBytes name := by
  intro hmem
  rcases List.mem_map.mp hmem with ⟨c, hc, hzero⟩
  have hnat := congrArg UInt8.toNat hzero
  rw [toNat_ofNat (h c hc).2] at hnat
  exact (h c hc).1 hnat

theorem nameBytes_injective (hold : IsName old_lib) (hnew : IsName new_lib)
    (heq : nameBytes old_lib = nameBytes new_lib) : old_lib = new_lib := by
  induction old_lib generalizing new_lib with
  | nil =>
      have hnil : nameBytes new_lib = [] := heq.symm
      exact (List.map_eq_nil_iff.mp hnil).symm
  | cons c old_lib ih =>
      cases new_lib with
      | nil =>
          have hlength := congrArg List.length heq
          simp [nameBytes] at hlength
      | cons d new_lib =>
          unfold nameBytes at heq
          simp only [List.map_cons, List.cons.injEq] at heq
          have hc := toNat_ofNat (hold c (by simp)).2
          have hd := toNat_ofNat (hnew d (by simp)).2
          have hnat : c.toNat = d.toNat := by
            rw [← hc, ← hd, heq.1]
          have hchar : c = d := Char.toNat_inj.mp hnat
          rw [hchar, ih (fun c hc => hold c (by simp [hc]))
            (fun d hd => hnew d (by simp [hd])) heq.2]

@[simp] theorem length_nameBytes : (nameBytes name).length = name.length := by
  simp [nameBytes]

/-- The bytes the script looks for. -/
def pattern (name : List Char) : List UInt8 :=
  nameBytes name ++ [0]

/-! ## A call of the script -/

theorem patch_elf_spec (h : NamePair old_lib new_lib) {rounds : ℕ}
    (hrounds : content.length < rounds) :
    ∃ r, patch_elf rounds (some content) old_lib new_lib = some r ∧
      Replaced (pattern old_lib) (pattern new_lib) content
        (r.content content) ∧
      (((∃ i, Occurs (pattern old_lib) content i) ∧ r.returned = .ok true ∧
          r.written = some (r.content content)) ∨
        ((¬ ∃ i, Occurs (pattern old_lib) content i) ∧
          r.returned = .ok false ∧ r.written = none)) := by
  have hlength : (nameBytes old_lib).length = (nameBytes new_lib).length := by
    simp [h.length]
  rcases loop_searchRound (zero_notMem_nameBytes h.old_isName) hlength hrounds
    with ⟨t, hloop, hreplaced, hcount⟩
  have hcall : patch_elf rounds (some content) old_lib new_lib =
      some (if t.count = 0 then ⟨.ok false, none⟩
        else ⟨.ok true, some t.data⟩) := by
    unfold patch_elf
    simp only [ne_eq, h.length, not_true_eq_false, if_false,
      encodeAscii_eq h.old_isName, encodeAscii_eq h.new_isName, hloop,
      Option.map_some]
  refine ⟨_, hcall, ?_⟩
  by_cases hzero : t.count = 0
  · have hnone : ¬ ∃ i, Occurs (pattern old_lib) content i := by
      intro hsome
      have hpos := hcount.mpr hsome
      omega
    rw [if_pos hzero]
    exact ⟨Replaced.refl fun i hi => hnone ⟨i, hi⟩, Or.inr ⟨hnone, rfl, rfl⟩⟩
  · rw [if_neg hzero]
    exact ⟨hreplaced, Or.inl ⟨hcount.mp (by omega), rfl, rfl⟩⟩

/-- The call returns, and says whether the name was there; all its matches and
nothing else are replaced, none is left, and if the new name was not there the
other way round restores the content. -/
theorem patch_elf_replaces (content : List UInt8) (old_lib new_lib : List Char)
    (h : NamePair old_lib new_lib) (rounds : ℕ)
    (hrounds : content.length < rounds) :
    ∃ r, patch_elf rounds (some content) old_lib new_lib = some r ∧
      (r.returned = .ok true ∧ r.written = some (r.content content) ↔
        ∃ i, Occurs (pattern old_lib) content i) ∧
      (r.returned = .ok false ∧ r.written = none ↔
        ¬ ∃ i, Occurs (pattern old_lib) content i) ∧
      (r.content content).length = content.length ∧
      (∀ i, Occurs (pattern old_lib) content i →
        Occurs (pattern new_lib) (r.content content) i) ∧
      (∀ k, ¬ Covered (pattern old_lib) content k →
        (r.content content)[k]? = content[k]?) ∧
      (∀ i, ¬ Occurs (pattern old_lib) (r.content content) i) ∧
      ((∀ i, ¬ Occurs (pattern new_lib) content i) →
        ∃ r', patch_elf rounds (some (r.content content)) new_lib old_lib =
            some r' ∧
          r'.content (r.content content) = content) := by
  rcases patch_elf_spec h hrounds with ⟨r, hcall, hreplaced, hcases⟩
  have hlength : (nameBytes old_lib).length = (nameBytes new_lib).length := by
    simp [h.length]
  have hold := zero_notMem_nameBytes h.old_isName
  have hnew := zero_notMem_nameBytes h.new_isName
  have hdistinct : nameBytes old_lib ≠ nameBytes new_lib := fun heq =>
    h.distinct (nameBytes_injective h.old_isName h.new_isName heq)
  refine ⟨r, hcall, ?_, ?_, hreplaced.length, hreplaced.replaced,
    hreplaced.kept, hreplaced.not_occurs hold hnew hlength hdistinct, ?_⟩
  · rcases hcases with ⟨hsome, hreturned, hwritten⟩ |
      ⟨hnone, hreturned, hwritten⟩
    · exact iff_of_true ⟨hreturned, hwritten⟩ hsome
    · exact iff_of_false (by simp [hwritten]) hnone
  · rcases hcases with ⟨hsome, hreturned, hwritten⟩ |
      ⟨hnone, hreturned, hwritten⟩
    · exact iff_of_false (by simp [hwritten]) (not_not.mpr hsome)
    · exact iff_of_true ⟨hreturned, hwritten⟩ hnone
  · intro habsent
    have hback := hreplaced.symm hnew hlength habsent
    have hrounds' : (r.content content).length < rounds := by
      rw [hreplaced.length]
      exact hrounds
    rcases patch_elf_spec h.symm hrounds' with ⟨r', hcall', hreplaced', _⟩
    refine ⟨r', hcall', hreplaced'.unique ?_ hback⟩
    simp [pattern, h.length]

/-- Two strings, of which the first ends in the second. -/
def sharedEnding : List UInt8 :=
  pattern "xfoo".toList ++ pattern "foo".toList

theorem namePair_sharedEnding : NamePair "foo".toList "bar".toList where
  old_isName := by decide
  new_isName := by decide
  length := rfl
  distinct := by decide

theorem patch_elf_replaces_sharedEnding :
    ∃ r, patch_elf 10 (some sharedEnding) "foo".toList "bar".toList = some r ∧
      Occurs (pattern "bar".toList) (r.content sharedEnding) 5 := by
  rcases patch_elf_replaces sharedEnding _ _ namePair_sharedEnding 10
    (by decide) with ⟨r, hcall, _, _, _, hreplaced, _⟩
  exact ⟨r, hcall, hreplaced 5 (by decide)⟩

/-- Only the name is renamed exactly if no longer string ends in it. -/
theorem patch_elf_renames_iff (content : List UInt8)
    (old_lib new_lib : List Char) (h : NamePair old_lib new_lib) (rounds : ℕ)
    (hrounds : content.length < rounds) (r : PatchResult)
    (hcall : patch_elf rounds (some content) old_lib new_lib = some r) :
    terminated 0 (r.content content) =
        (terminated 0 content).map (fun string =>
          if string = nameBytes old_lib then nameBytes new_lib else string) ↔
      ∀ string ∈ terminated 0 content, nameBytes old_lib <:+ string →
        string = nameBytes old_lib := by
  rcases patch_elf_spec h hrounds with ⟨r', hcall', hreplaced, _⟩
  have hsame : r' = r := Option.some.inj (hcall'.symm.trans hcall)
  subst hsame
  have hdistinct : nameBytes old_lib ≠ nameBytes new_lib := fun heq =>
    h.distinct (nameBytes_injective h.old_isName h.new_isName heq)
  rw [Replaced.terminated_eq hreplaced (zero_notMem_nameBytes h.old_isName)
    (zero_notMem_nameBytes h.new_isName) (by simp [h.length]),
    List.map_inj_left]
  constructor
  · intro hall string hmem
    exact (rename_eq_iff hdistinct).mp (hall string hmem)
  · intro hall string hmem
    exact (rename_eq_iff hdistinct).mpr (hall string hmem)

theorem patch_elf_sharedEnding :
    patch_elf 10 (some sharedEnding) "foo".toList "bar".toList =
      some ⟨.ok true,
        some (pattern "xbar".toList ++ pattern "bar".toList)⟩ :=
  rfl

theorem patch_elf_renames_iff_sharedEnding :
    terminated 0 (pattern "xbar".toList ++ pattern "bar".toList) =
        (terminated 0 sharedEnding).map (fun string =>
          if string = nameBytes "foo".toList then nameBytes "bar".toList
          else string) ↔
      ∀ string ∈ terminated 0 sharedEnding,
        nameBytes "foo".toList <:+ string → string = nameBytes "foo".toList :=
  patch_elf_renames_iff sharedEnding _ _ namePair_sharedEnding 10 (by decide) _
    patch_elf_sharedEnding

theorem longer_name_patched :
    ¬ ∀ (content : List UInt8) (old_lib new_lib : List Char) (rounds : ℕ)
      (r : PatchResult), NamePair old_lib new_lib → content.length < rounds →
      patch_elf rounds (some content) old_lib new_lib = some r →
      r.returned = .ok true →
      terminated 0 (r.content content) =
        (terminated 0 content).map (fun string =>
          if string = nameBytes old_lib then nameBytes new_lib
          else string) := by
  intro hclaim
  have hnames := hclaim sharedEnding _ _ 10 _ namePair_sharedEnding (by decide)
    patch_elf_sharedEnding rfl
  exact absurd hnames (by decide)

end Samurai.PatchElf
