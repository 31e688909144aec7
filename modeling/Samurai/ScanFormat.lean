import Mathlib.Data.List.TakeWhile
import Mathlib.Tactic

/-!
# Scanning a byte string by a format

A format is a list of directives: a number or a byte.  A number is read as
`%d` reads it: white space, an optional sign, decimal digits.  The scan yields
the numbers it converted before it stopped.

What matters here is where it stopped.  A scan that stopped inside its input
yields the same with more input behind it.  One that came to the end of its
input is open: what follows may continue the number it is in.
-/

namespace ScanFormat

def isSpace (b : UInt8) : Bool :=
  b = 32 || (9 ≤ b && b ≤ 13)

def isDigit (b : UInt8) : Bool :=
  48 ≤ b && b ≤ 57

def pushDigit (v : ℕ) (b : UInt8) : ℕ :=
  10 * v + (b.toNat - 48)

def digitsValue (digits : List UInt8) : ℕ :=
  digits.foldl pushDigit 0

/-- Whether there is a minus sign, and what follows the sign. -/
def splitSign : List UInt8 → Bool × List UInt8
  | [] => (false, [])
  | b :: rest =>
      if b = 45 then (true, rest)
      else if b = 43 then (false, rest)
      else (false, b :: rest)

def numberText (bs : List UInt8) : Bool × List UInt8 :=
  splitSign (bs.dropWhile isSpace)

def scanInt (bs : List UInt8) : Option (ℤ × List UInt8) :=
  let (minus, text) := numberText bs
  let digits := text.takeWhile isDigit
  if digits = [] then none
  else
    some (if minus then -(digitsValue digits : ℤ) else digitsValue digits,
      text.dropWhile isDigit)

inductive Directive where
  | number
  | byte (b : UInt8)
  deriving DecidableEq, Repr

def scan : List Directive → List UInt8 → List ℤ
  | [], _ => []
  | .number :: fs, bs =>
      match scanInt bs with
      | none => []
      | some (x, rest) => x :: scan fs rest
  | .byte _ :: _, [] => []
  | .byte b :: fs, b' :: rest => if b' = b then scan fs rest else []

/-- The input that is left when the whole format has been matched. -/
def scanRest : List Directive → List UInt8 → Option (List UInt8)
  | [], bs => some bs
  | .number :: fs, bs => (scanInt bs).bind fun r => scanRest fs r.2
  | .byte _ :: _, [] => none
  | .byte b :: fs, b' :: rest => if b' = b then scanRest fs rest else none

/-- `d` in `k` digits. -/
def padded : ℕ → ℕ → List UInt8
  | 0, _ => []
  | k + 1, d => padded k (d / 10) ++ [UInt8.ofNat (48 + d % 10)]

/-- The whole input is the beginning of a number. -/
def openNumber (bs : List UInt8) : Bool :=
  (numberText bs).2.all isDigit

/-- The scan comes to the end of its input without a mismatch and with
directives left, or in its last number. -/
def openScan : List Directive → List UInt8 → Bool
  | [], _ => false
  | .number :: fs, bs =>
      openNumber bs ||
        match scanInt bs with
        | none => false
        | some (_, rest) => openScan fs rest
  | .byte _ :: _, [] => true
  | .byte b :: fs, b' :: rest => decide (b' = b) && openScan fs rest

variable {bs t : List UInt8} {fs : List Directive}

/-! ## Digits -/

theorem digit_ofNat {r : ℕ} (hr : r < 10) :
    isDigit (UInt8.ofNat (48 + r)) = true ∧
      (UInt8.ofNat (48 + r)).toNat - 48 = r := by
  interval_cases r
  all_goals exact ⟨by decide, by decide⟩

theorem padded_isDigit (k d : ℕ) : (padded k d).all isDigit = true := by
  induction k generalizing d with
  | zero => rfl
  | succ k ih =>
      have hlast := (digit_ofNat (Nat.mod_lt d (by norm_num : 0 < 10))).1
      rw [padded, List.all_append, ih, List.all_cons, hlast]
      rfl

/-- More digits count for a number that has begun. -/
theorem digitsValue_append_padded {k d : ℕ} (hd : d < 10 ^ k) :
    digitsValue (bs ++ padded k d) = digitsValue bs * 10 ^ k + d := by
  unfold digitsValue
  rw [List.foldl_append]
  induction k generalizing d with
  | zero =>
      have hzero : d = 0 := by omega
      simp [padded, hzero]
  | succ k ih =>
      have hlast := (digit_ofNat (Nat.mod_lt d (by norm_num : 0 < 10))).2
      have hfront : d / 10 < 10 ^ k := by
        rw [Nat.div_lt_iff_lt_mul (by norm_num)]
        rwa [pow_succ] at hd
      rw [padded, List.foldl_append, ih hfront, List.foldl_cons, List.foldl_nil,
        pushDigit, hlast, pow_succ]
      have hsplit := Nat.div_add_mod d 10
      rw [mul_add, add_assoc, hsplit]
      ring

theorem padded_ne_nil {k : ℕ} (hk : 0 < k) (d : ℕ) : padded k d ≠ [] := by
  cases k with
  | zero => contradiction
  | succ k => simp [padded]

/-! ## One number -/

theorem splitSign_append (hne : bs ≠ []) :
    splitSign (bs ++ t) = ((splitSign bs).1, (splitSign bs).2 ++ t) := by
  cases bs with
  | nil => contradiction
  | cons b rest =>
      simp only [List.cons_append, splitSign]
      split_ifs
      · rfl
      · rfl
      · rfl

theorem numberText_append (hne : bs.dropWhile isSpace ≠ []) :
    numberText (bs ++ t) = ((numberText bs).1, (numberText bs).2 ++ t) := by
  unfold numberText
  have hempty : (bs.dropWhile isSpace).isEmpty = false := by
    simpa using hne
  rw [List.dropWhile_append, hempty]
  exact splitSign_append hne

theorem numberText_spaces (hspaces : bs.dropWhile isSpace = []) :
    numberText bs = (false, []) ∧ numberText (bs ++ t) = numberText t := by
  unfold numberText
  rw [List.dropWhile_append, hspaces]
  exact ⟨rfl, rfl⟩

theorem not_spaces_of_closed (hclosed : openNumber bs = false) :
    bs.dropWhile isSpace ≠ [] := by
  intro hspaces
  have htext := (numberText_spaces (t := []) hspaces).1
  unfold openNumber at hclosed
  rw [htext] at hclosed
  contradiction

/-- A number that ends inside its input ends there whatever follows. -/
theorem scanInt_append (hclosed : openNumber bs = false) :
    scanInt (bs ++ t) = (scanInt bs).map fun r => (r.1, r.2 ++ t) := by
  have htext := numberText_append (t := t) (not_spaces_of_closed hclosed)
  have hstop : ((numberText bs).2.takeWhile isDigit).length ≠
      (numberText bs).2.length := by
    intro hlength
    have htake : (numberText bs).2.takeWhile isDigit = (numberText bs).2 :=
      (List.takeWhile_prefix _).eq_of_length hlength
    rw [List.takeWhile_eq_self_iff] at htake
    have hopen : openNumber bs = true := List.all_eq_true.mpr htake
    rw [hclosed] at hopen
    contradiction
  have hdrop : ((numberText bs).2.dropWhile isDigit).isEmpty = false := by
    rw [List.isEmpty_eq_false_iff]
    intro hnil
    apply hstop
    have hsplit := congrArg List.length
      (List.takeWhile_append_dropWhile (p := isDigit) (l := (numberText bs).2))
    rw [hnil, List.append_nil] at hsplit
    exact hsplit
  unfold scanInt
  rw [htext]
  simp only [List.takeWhile_append, List.dropWhile_append, if_neg hstop, hdrop,
    Bool.false_eq_true, if_false]
  by_cases hnone : (numberText bs).2.takeWhile isDigit = []
  · rw [if_pos hnone, if_pos hnone]
    rfl
  · rw [if_neg hnone, if_neg hnone]
    rfl

theorem scanInt_open (hopen : openNumber bs = true) :
    scanInt bs =
      if (numberText bs).2 = [] then none
      else some (if (numberText bs).1 then -(digitsValue (numberText bs).2 : ℤ)
        else digitsValue (numberText bs).2, []) := by
  have hdigits := List.all_eq_true.mp hopen
  unfold scanInt
  simp only [List.takeWhile_eq_self_iff.mpr hdigits,
    List.dropWhile_eq_nil_iff.mpr hdigits]

theorem scanInt_of_text {minus : Bool} {digits : List UInt8} {b : UInt8}
    (htext : numberText bs = (minus, digits ++ b :: t))
    (hdigits : digits.all isDigit = true) (hne : digits ≠ [])
    (hb : isDigit b = false) :
    scanInt bs =
      some (if minus then -(digitsValue digits : ℤ) else digitsValue digits,
        b :: t) := by
  have hall := List.all_eq_true.mp hdigits
  have htake : (digits ++ b :: t).takeWhile isDigit = digits := by
    rw [List.takeWhile_append_of_pos hall, List.takeWhile_cons, hb]
    simp
  have hdrop : (digits ++ b :: t).dropWhile isDigit = b :: t := by
    rw [List.dropWhile_append_of_pos hall, List.dropWhile_cons, hb]
    simp
  unfold scanInt
  rw [htext]
  simp only [htake, hdrop, if_neg hne]

theorem scanInt_closed_rest {x : ℤ} (hclosed : openNumber bs = false)
    (hscan : scanInt bs = some (x, [])) : False := by
  have hdrop : (numberText bs).2.dropWhile isDigit = [] := by
    unfold scanInt at hscan
    simp only at hscan
    split_ifs at hscan
    all_goals simpa using congrArg Prod.snd (Option.some.inj hscan)
  have hopen : openNumber bs = true :=
    List.all_eq_true.mpr (List.dropWhile_eq_nil_iff.mp hdrop)
  rw [hclosed] at hopen
  contradiction

/-- Digits go on with a number that has begun. -/
theorem numberText_digits (bs : List UInt8) {d : UInt8} (hd : isDigit d = true) :
    numberText (bs ++ d :: t) =
      ((numberText bs).1, (numberText bs).2 ++ d :: t) := by
  by_cases hspaces : bs.dropWhile isSpace = []
  · rw [(numberText_spaces hspaces).2, (numberText_spaces (t := []) hspaces).1]
    simp only [isDigit, Bool.and_eq_true, decide_eq_true_eq] at hd
    have hspace : isSpace d = false := by
      unfold isSpace
      grind
    have hminus : d ≠ 45 := by grind
    have hplus : d ≠ 43 := by grind
    unfold numberText
    rw [List.dropWhile_cons, hspace]
    simp [splitSign, hminus, hplus]
  · exact numberText_append hspaces

theorem numberText_padded (bs : List UInt8) {k : ℕ} (hk : 0 < k) (d : ℕ) :
    numberText (bs ++ padded k d) =
      ((numberText bs).1, (numberText bs).2 ++ padded k d) := by
  have hdigits := padded_isDigit k d
  cases hpadded : padded k d with
  | nil => exact absurd hpadded (padded_ne_nil hk d)
  | cons b more =>
      rw [hpadded, List.all_cons, Bool.and_eq_true] at hdigits
      exact numberText_digits bs hdigits.1

/-- The beginning of a number can be gone on with to every residue. -/
theorem exists_residue (hopen : openNumber bs = true) {k : ℕ} {m : ℤ}
    (hk : 0 < k) (hm : 0 < m) (hle : m ≤ 10 ^ k) (r : ℤ) :
    ∃ (d : ℕ) (n : ℤ), scanInt (bs ++ padded k d) = some (n, []) ∧
      n ≡ r [ZMOD m] := by
  let v : ℤ := digitsValue (numberText bs).2
  let target : ℤ := (if (numberText bs).1 then -r else r) - v * 10 ^ k
  obtain ⟨d, hd⟩ : ∃ d : ℕ, (d : ℤ) = target % m :=
    ⟨_, Int.toNat_of_nonneg (Int.emod_nonneg target hm.ne')⟩
  have hlt : d < 10 ^ k := by
    have hbound := Int.emod_lt_of_pos target hm
    rw [← hd] at hbound
    exact_mod_cast hbound.trans_le hle
  have hmod : (d : ℤ) ≡ target [ZMOD m] := by
    rw [hd]
    exact Int.mod_modEq target m
  have htext := numberText_padded bs hk d
  have hnumber : openNumber (bs ++ padded k d) = true := by
    unfold openNumber
    rw [htext, List.all_append, padded_isDigit]
    exact Bool.and_eq_true_iff.mpr ⟨hopen, rfl⟩
  have hvalue : (digitsValue ((numberText bs).2 ++ padded k d) : ℤ) =
      v * 10 ^ k + d := by
    rw [digitsValue_append_padded hlt]
    push_cast
    rfl
  have hne : (numberText bs).2 ++ padded k d ≠ [] := by
    simp [padded_ne_nil hk]
  have hscan : scanInt (bs ++ padded k d) =
      some (if (numberText bs).1 then -(v * 10 ^ k + d) else v * 10 ^ k + d,
        []) := by
    rw [scanInt_open hnumber, htext]
    simp only [if_neg hne, hvalue]
  refine ⟨d, _, hscan, ?_⟩
  cases hminus : (numberText bs).1 with
  | true =>
      have hsum := (hmod.add_left (v * 10 ^ k)).neg
      simpa [target, hminus] using hsum
  | false =>
      have hsum := hmod.add_left (v * 10 ^ k)
      simpa [target, hminus] using hsum
/-- The beginning of a number is made one by a digit. -/
theorem exists_completion (hopen : openNumber bs = true) {b : UInt8}
    (hb : isDigit b = false) :
    ∃ digits x, (∀ d ∈ digits, d = 49) ∧
      ∀ t, scanInt (bs ++ (digits ++ b :: t)) = some (x, b :: t) := by
  have hdigits : ((numberText bs).2 ++ [49]).all isDigit = true := by
    rw [List.all_append]
    exact Bool.and_eq_true_iff.mpr ⟨hopen, rfl⟩
  have hscan : ∀ t, scanInt (bs ++ ([49] ++ b :: t)) = some
      (if (numberText bs).1 then -(digitsValue ((numberText bs).2 ++ [49]) : ℤ)
        else digitsValue ((numberText bs).2 ++ [49]), b :: t) := by
    intro t
    have htext : numberText (bs ++ ([49] ++ b :: t)) =
        ((numberText bs).1, ((numberText bs).2 ++ [49]) ++ b :: t) := by
      rw [List.singleton_append, numberText_digits bs rfl, List.append_assoc,
        List.singleton_append]
    exact scanInt_of_text htext hdigits (by simp) hb
  exact ⟨[49], _, by simp, hscan⟩

/-! ## Whole scans -/

theorem scan_append_format (fs gs : List Directive) (bs : List UInt8) :
    scan (fs ++ gs) bs =
      scan fs bs ++ ((scanRest fs bs).map (scan gs)).getD [] := by
  induction fs generalizing bs with
  | nil => rfl
  | cons f fs ih =>
      cases f with
      | number =>
          simp only [List.cons_append, scan, scanRest]
          cases scanInt bs with
          | none => rfl
          | some r => simp [ih]
      | byte b =>
          cases bs with
          | nil => rfl
          | cons b' rest =>
              simp only [List.cons_append, scan, scanRest]
              split_ifs
              · exact ih rest
              · rfl

theorem openScan_append_format (fs gs : List Directive) (bs : List UInt8) :
    openScan (fs ++ gs) bs =
      (openScan fs bs ||
        ((scanRest fs bs).map (openScan gs)).getD false) := by
  induction fs generalizing bs with
  | nil => rfl
  | cons f fs ih =>
      cases f with
      | number =>
          simp only [List.cons_append, openScan, scanRest]
          cases scanInt bs with
          | none => simp
          | some r => simp [ih, Bool.or_assoc]
      | byte b =>
          cases bs with
          | nil => simp [openScan]
          | cons b' rest =>
              simp only [List.cons_append, openScan, scanRest]
              by_cases hb : b' = b
              · simp [hb, ih]
              · simp [hb]

theorem scan_length_le (fs : List Directive) (bs : List UInt8) :
    (scan fs bs).length ≤ fs.count .number := by
  induction fs generalizing bs with
  | nil => exact le_refl 0
  | cons f fs ih =>
      cases f with
      | number =>
          simp only [scan, List.count_cons_self]
          cases scanInt bs with
          | none => simp
          | some r => simpa using ih r.2
      | byte b =>
          have hcount : (Directive.byte b :: fs).count .number =
              fs.count .number := by
            simp
          rw [hcount]
          cases bs with
          | nil => simp [scan]
          | cons b' rest =>
              simp only [scan]
              split_ifs
              · exact ih rest
              · simp

theorem scanRest_nil (fs : List Directive) (b : UInt8) :
    scanRest (fs ++ [.byte b]) [] = none := by
  cases fs with
  | nil => rfl
  | cons f fs =>
      cases f with
      | number => rfl
      | byte b' => rfl

/-- A format that ends in a byte is not matched by a scan that is open. -/
theorem scanRest_of_open {b : UInt8}
    (hopen : openScan (fs ++ [.byte b]) bs = true) :
    scanRest (fs ++ [.byte b]) bs = none := by
  induction fs generalizing bs with
  | nil =>
      cases bs with
      | nil => rfl
      | cons b' rest => simp [openScan] at hopen
  | cons f fs ih =>
      cases f with
      | number =>
          simp only [List.cons_append, openScan, Bool.or_eq_true] at hopen
          simp only [List.cons_append, scanRest]
          rcases hopen with hnumber | hrest
          · rw [scanInt_open hnumber]
            by_cases htext : (numberText bs).2 = []
            · rw [if_pos htext]
              rfl
            · rw [if_neg htext]
              exact scanRest_nil fs b
          · cases hscan : scanInt bs with
            | none => rfl
            | some r =>
                rw [hscan] at hrest
                exact ih hrest
      | byte b' =>
          cases bs with
          | nil => rfl
          | cons b'' rest =>
              simp only [List.cons_append, openScan, Bool.and_eq_true,
                decide_eq_true_eq] at hopen
              simp only [List.cons_append, scanRest, if_pos hopen.1]
              exact ih hopen.2

theorem closed_of_scanRest {b : UInt8} {rest : List UInt8}
    (hrest : scanRest (fs ++ [.byte b]) bs = some rest) :
    openScan (fs ++ [.byte b]) bs = false := by
  by_contra hopen
  rw [Bool.not_eq_false] at hopen
  rw [scanRest_of_open hopen] at hrest
  contradiction

theorem scanRest_append (hclosed : openScan fs bs = false) :
    scanRest fs (bs ++ t) = (scanRest fs bs).map (· ++ t) := by
  induction fs generalizing bs with
  | nil => rfl
  | cons f fs ih =>
      cases f with
      | number =>
          simp only [openScan, Bool.or_eq_false_iff] at hclosed
          simp only [scanRest, scanInt_append hclosed.1]
          cases hscan : scanInt bs with
          | none => rfl
          | some r =>
              have hrest : openScan fs r.2 = false := by
                simpa [hscan] using hclosed.2
              exact ih hrest
      | byte b =>
          cases bs with
          | nil => simp [openScan] at hclosed
          | cons b' rest =>
              simp only [List.cons_append, scanRest]
              by_cases hb : b' = b
              · have hrest : openScan fs rest = false := by
                  simpa [openScan, hb] using hclosed
                rw [if_pos hb, if_pos hb, ih hrest]
              · rw [if_neg hb, if_neg hb]
                rfl

theorem scan_length_of_scanRest {rest : List UInt8}
    (hrest : scanRest fs bs = some rest) :
    (scan fs bs).length = fs.count .number := by
  induction fs generalizing bs with
  | nil => rfl
  | cons f fs ih =>
      cases f with
      | number =>
          rcases Option.bind_eq_some_iff.mp hrest with ⟨r, hscan, htail⟩
          simp [scan, hscan, ih htail]
      | byte b =>
          cases bs with
          | nil => contradiction
          | cons b' rest' =>
              simp only [scanRest] at hrest
              by_cases hb : b' = b
              · rw [if_pos hb] at hrest
                simp [scan, hb, ih hrest]
              · rw [if_neg hb] at hrest
                contradiction

/-- A scan that stopped inside its input yields the same with more behind. -/
theorem scan_append (hclosed : openScan fs bs = false) :
    scan fs (bs ++ t) = scan fs bs := by
  induction fs generalizing bs with
  | nil => rfl
  | cons f fs ih =>
      cases f with
      | number =>
          simp only [openScan, Bool.or_eq_false_iff] at hclosed
          simp only [scan, scanInt_append hclosed.1]
          cases hscan : scanInt bs with
          | none => rfl
          | some r =>
              have hrest : openScan fs r.2 = false := by
                simpa [hscan] using hclosed.2
              simp only [Option.map_some, ih hrest]
      | byte b =>
          cases bs with
          | nil => simp [openScan] at hclosed
          | cons b' rest =>
              simp only [List.cons_append, scan]
              by_cases hb : b' = b
              · have hrest : openScan fs rest = false := by
                  simpa [openScan, hb] using hclosed
                rw [if_pos hb, if_pos hb, ih hrest]
              · rw [if_neg hb, if_neg hb]

end ScanFormat
