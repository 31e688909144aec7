import Mathlib.Tactic

/-!
# Bytes as hexadecimal text

`bytesToHexString` gives two lower-case digits to each byte, the sign of a
Java byte notwithstanding.  The text can be read back, so that different
arrays have different texts; an empty array has none.
-/

namespace Samurai

/-- `Integer.toHexString`: no leading zeros. -/
def toHexString (i : Int32) : List Char :=
  Nat.toDigits 16 i.toUInt32.toNat

namespace IFAAManagerImpl

/-- The body of the loop. -/
def appendHex (stringBuilder : List Char) (v : Int8) : List Char :=
  let hv := toHexString (v.toInt32 &&& 255)
  let stringBuilder :=
    if hv.length < 2 then stringBuilder ++ ['0'] else stringBuilder
  stringBuilder ++ hv

def bytesToHexString : Option (List Int8) → Option (List Char)
  | none => none
  | some src =>
      if src.length ≤ 0 then none else some (src.foldl appendHex [])

/-! ## Reading the text back -/

def hexDigits : List Char :=
  ['0', '1', '2', '3', '4', '5', '6', '7', '8', '9', 'a', 'b', 'c', 'd', 'e',
    'f']

def digitValue (c : Char) : ℕ :=
  hexDigits.idxOf c

/-- Two digits at a time. -/
def hexBytes : List Char → Option (List Int8)
  | [] => some []
  | [_] => none
  | high :: low :: rest =>
      (hexBytes rest).map fun bytes =>
        (UInt8.ofNat (16 * digitValue high + digitValue low)).toInt8 :: bytes

/-- The two digits of a byte. -/
def hexPair (n : ℕ) : List Char :=
  [Nat.digitChar (n / 16), Nat.digitChar (n % 16)]

theorem digitChar_mem {n : ℕ} (hn : n < 16) : Nat.digitChar n ∈ hexDigits := by
  interval_cases n <;> decide

theorem digitValue_digitChar {n : ℕ} (hn : n < 16) :
    digitValue (Nat.digitChar n) = n := by
  interval_cases n <;> rfl

theorem toDigits_small {n : ℕ} (hn : n < 16) :
    Nat.toDigits 16 n = [Nat.digitChar n] := by
  have hquotient : n / 16 = 0 := by omega
  have hrest : n % 16 = n := by omega
  simp [Nat.toDigits, Nat.toDigitsCore, hquotient, hrest]

theorem toDigits_byte {n : ℕ} (hlow : 16 ≤ n) (hn : n < 256) :
    Nat.toDigits 16 n = hexPair n := by
  have hquotient : n / 16 ≠ 0 := by omega
  have hend : n / 16 / 16 = 0 := by omega
  have hhigh : n / 16 % 16 = n / 16 := by omega
  obtain ⟨m, rfl⟩ : ∃ m, n = m + 1 := ⟨n - 1, by omega⟩
  simp [Nat.toDigits, Nat.toDigitsCore, hquotient, hend, hhigh, hexPair]

/-- The sign goes with the mask. -/
theorem masked (v : Int8) :
    (v.toInt32 &&& 255).toUInt32.toNat = v.toUInt8.toNat := by
  have hbits : ∀ x : BitVec 8, (x.signExtend 32 &&& 255#32).toNat = x.toNat := by
    decide +kernel
  exact hbits v.toBitVec

theorem appendHex_eq (stringBuilder : List Char) (v : Int8) :
    appendHex stringBuilder v = stringBuilder ++ hexPair v.toUInt8.toNat := by
  have hbyte : v.toUInt8.toNat < 256 := v.toUInt8.toNat_lt
  unfold appendHex toHexString
  rw [masked]
  by_cases hsmall : v.toUInt8.toNat < 16
  · have hquotient : v.toUInt8.toNat / 16 = 0 := by omega
    have hrest : v.toUInt8.toNat % 16 = v.toUInt8.toNat := by omega
    simp [toDigits_small hsmall, hexPair, hquotient, hrest, Nat.digitChar]
  · rw [toDigits_byte (by omega) hbyte]
    simp [hexPair]

theorem foldl_appendHex (src : List Int8) (stringBuilder : List Char) :
    src.foldl appendHex stringBuilder =
      stringBuilder ++ src.flatMap fun v => hexPair v.toUInt8.toNat := by
  induction src generalizing stringBuilder with
  | nil => simp
  | cons v src ih => simp [appendHex_eq, ih]

theorem hexBytes_hexPair (v : Int8) (rest : List Char) :
    hexBytes (hexPair v.toUInt8.toNat ++ rest) =
      (hexBytes rest).map fun bytes => v :: bytes := by
  have hbyte : v.toUInt8.toNat < 256 := v.toUInt8.toNat_lt
  have hhigh : digitValue (Nat.digitChar (v.toUInt8.toNat / 16)) =
      v.toUInt8.toNat / 16 := digitValue_digitChar (by omega)
  have hlow : digitValue (Nat.digitChar (v.toUInt8.toNat % 16)) =
      v.toUInt8.toNat % 16 := digitValue_digitChar (by omega)
  have hvalue : 16 * (v.toUInt8.toNat / 16) + v.toUInt8.toNat % 16 =
      v.toUInt8.toNat := Nat.div_add_mod _ _
  have hback : (UInt8.ofNat v.toUInt8.toNat).toInt8 = v := by
    simp
  rw [hexPair, List.cons_append, List.cons_append, List.nil_append, hexBytes,
    hhigh, hlow, hvalue, hback]

theorem hexBytes_flatMap (src : List Int8) :
    hexBytes (src.flatMap fun v => hexPair v.toUInt8.toNat) = some src := by
  induction src with
  | nil => rfl
  | cons v src ih => rw [List.flatMap_cons, hexBytes_hexPair, ih, Option.map_some]

/-- Null and the empty array give null.  Every other array gives two of the
sixteen digits for each byte, and the text read back is the array. -/
theorem bytesToHexString_round_trip (src : Option (List Int8)) :
    (bytesToHexString src = none ↔ src = none ∨ src = some []) ∧
    ∀ bytes text, src = some bytes → bytesToHexString src = some text →
      text.length = 2 * bytes.length ∧ (∀ c ∈ text, c ∈ hexDigits) ∧
        hexBytes text = some bytes := by
  constructor
  · cases src with
    | none => simp [bytesToHexString]
    | some bytes => simp [bytesToHexString]
  · rintro bytes text rfl htext
    simp only [bytesToHexString] at htext
    split_ifs at htext
    cases htext
    rw [foldl_appendHex, List.nil_append]
    refine ⟨?_, ?_, hexBytes_flatMap bytes⟩
    · simp [List.length_flatMap, hexPair, Nat.mul_comm]
    · intro c hc
      obtain ⟨v, _, hv⟩ := List.mem_flatMap.mp hc
      have hbyte : v.toUInt8.toNat < 256 := v.toUInt8.toNat_lt
      rcases List.mem_cons.mp hv with rfl | hlow
      · exact digitChar_mem (by omega)
      · rw [List.mem_singleton.mp hlow]
        exact digitChar_mem (by omega)

end IFAAManagerImpl

end Samurai
