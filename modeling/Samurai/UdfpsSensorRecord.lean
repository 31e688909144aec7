import Samurai.ScanFormat
import Samurai.UdfpsSensorModel

/-!
# The record of the finger

`readFpState` reads the node into a buffer on the stack and scans the buffer
as a C string.  Nothing ends the string behind the bytes read: what the buffer
held before, and then whatever lies behind the buffer, is scanned as well,
until a zero byte or until the scan stops.  Bytes left behind can even make the
last number too large for the `int` it is stored in.

The content of the node alone decides the result if it has a zero byte or if
the scan stops inside it.
-/

namespace Samurai

open ScanFormat

/-- The 512 bytes of `buffer` before the read, and the memory behind them. -/
structure StackMemory where
  buffer : Vector UInt8 512
  beyond : List UInt8

def StackMemory.afterRead (m : StackMemory) (content : List UInt8) :
    List UInt8 :=
  content ++ m.buffer.toList.drop content.length ++ m.beyond

def cString (bytes : List UInt8) : List UInt8 :=
  bytes.takeWhile fun b => b ≠ 0

/-- `"%d,%d,"`. -/
def coordinatesFormat : List Directive :=
  [.number, .byte 44, .number] ++ [.byte 44]

/-- `"%d,%d,%d"`. -/
def fpStateFormat : List Directive :=
  coordinatesFormat ++ [.number]

/-- What `"%d"` stores in an `int`.  The C standard leaves open what becomes of
a number that does not fit. -/
structure IntConversion where
  store : ℤ → ℤ
  fits : ∀ n, -2 ^ 31 ≤ n → n < 2 ^ 31 → store n = n

def sscanf (conversion : IntConversion) (bytes : List UInt8) : List ℤ :=
  (scan fpStateFormat (cString bytes)).map conversion.store

def StackMemory.fpState (m : StackMemory) (conversion : IntConversion)
    (content : List UInt8) : FpState where
  readable := true
  numbers := sscanf conversion (m.afterRead content)

/-- The numbers that `content` itself begins with. -/
def record (content : List UInt8) : List ℤ :=
  scan fpStateFormat (cString content)

def FitsInt (numbers : List ℤ) : Prop :=
  ∀ n ∈ numbers, -2 ^ 31 ≤ n ∧ n < 2 ^ 31

/-- The coordinates of a record with a positive state. -/
def fingerDown : List ℤ → Option (ℤ × ℤ)
  | x :: y :: state :: _ => if 0 < state then some (x, y) else none
  | _ => none

/-- The return values are the same, and the coordinates too if it is `true`. -/
def SameResult (r r' : Bool × ℤ × ℤ) : Prop :=
  r.1 = r'.1 ∧ (r.1 = true → r.2 = r'.2)

/-- The result depends on `content` alone, and it is what `content` says. -/
structure ReadsContent (conversion : IntConversion) (content : List UInt8) :
    Prop where
  same : ∀ m m' : StackMemory, m.beyond = m'.beyond → ∀ screenX screenY,
    SameResult (readFpState (m.fpState conversion content) screenX screenY)
      (readFpState (m'.fpState conversion content) screenX screenY)
  own : ∀ (m : StackMemory) (screenX screenY : ℤ),
    ((readFpState (m.fpState conversion content) screenX screenY).1 = true ↔
      (fingerDown (record content)).isSome = true) ∧
    ∀ x y, fingerDown (record content) = some (x, y) →
      (readFpState (m.fpState conversion content) screenX screenY).2 = (x, y)

/-- The scan does not go on behind `content`. -/
def Settled (content : List UInt8) : Prop :=
  0 ∈ content ∨ openScan fpStateFormat content = false

/-! ## Results -/

theorem readFpState_fst (numbers : List ℤ) (screenX screenY : ℤ) :
    (readFpState ⟨true, numbers⟩ screenX screenY).1 =
      (fingerDown numbers).isSome := by
  rcases numbers with _ | ⟨x, _ | ⟨y, _ | ⟨state, rest⟩⟩⟩
  · rfl
  · rfl
  · rfl
  · by_cases hstate : 0 < state
    · simp [readFpState, fingerDown, hstate]
    · simp [readFpState, fingerDown, hstate]

theorem readFpState_snd {numbers : List ℤ} {x y : ℤ}
    (hdown : fingerDown numbers = some (x, y)) (screenX screenY : ℤ) :
    (readFpState ⟨true, numbers⟩ screenX screenY).2 = (x, y) := by
  rcases numbers with _ | ⟨x', _ | ⟨y', _ | ⟨state, rest⟩⟩⟩
  · contradiction
  · contradiction
  · contradiction
  · by_cases hstate : 0 < state
    · simpa [readFpState, fingerDown, hstate] using hdown
    · simp [fingerDown, hstate] at hdown

theorem fpState_fst (m : StackMemory) (conversion : IntConversion)
    (content : List UInt8) (screenX screenY : ℤ) :
    (readFpState (m.fpState conversion content) screenX screenY).1 =
      (fingerDown (m.fpState conversion content).numbers).isSome :=
  readFpState_fst _ screenX screenY

theorem readsContent_of_fingerDown {conversion : IntConversion}
    {content : List UInt8}
    (hall : ∀ m : StackMemory,
      fingerDown (m.fpState conversion content).numbers =
        fingerDown (record content)) :
    ReadsContent conversion content where
  same := by
    intro m m' _ screenX screenY
    have hm : fingerDown (m.fpState conversion content).numbers =
        fingerDown (m'.fpState conversion content).numbers :=
      (hall m).trans (hall m').symm
    have hfst : (readFpState (m.fpState conversion content) screenX screenY).1 =
        (readFpState (m'.fpState conversion content) screenX screenY).1 := by
      rw [fpState_fst, fpState_fst, hm]
    refine ⟨hfst, fun htrue => ?_⟩
    have hsome : (fingerDown (m.fpState conversion content).numbers).isSome =
        true := by
      rw [← fpState_fst m conversion content screenX screenY]
      exact htrue
    rcases Option.isSome_iff_exists.mp hsome with ⟨⟨x, y⟩, hdown⟩
    have hx := readFpState_snd hdown screenX screenY
    have hx' := readFpState_snd (hm ▸ hdown) screenX screenY
    exact hx.trans hx'.symm
  own := by
    intro m screenX screenY
    constructor
    · rw [← hall m, fpState_fst]
    · intro x y hdown
      rw [← hall m] at hdown
      exact readFpState_snd hdown screenX screenY

theorem map_store {conversion : IntConversion} {numbers : List ℤ}
    (hfits : FitsInt numbers) : numbers.map conversion.store = numbers := by
  rw [List.map_congr_left fun n hn =>
    conversion.fits n (hfits n hn).1 (hfits n hn).2]
  exact List.map_id' numbers

/-! ## Settled contents -/

theorem cString_of_mem {content more : List UInt8} (hzero : 0 ∈ content) :
    cString (content ++ more) = cString content := by
  unfold cString
  have hstop : (content.takeWhile fun b => b ≠ 0).length ≠
      content.length := by
    intro hlength
    have heq := (List.takeWhile_prefix (l := content) fun b => b ≠ 0
      ).eq_of_length hlength
    have hall := List.takeWhile_eq_self_iff.mp heq 0 hzero
    simp at hall
  rw [List.takeWhile_append, if_neg hstop]

theorem cString_append {content more : List UInt8} (hzero : 0 ∉ content) :
    cString (content ++ more) = content ++ cString more := by
  unfold cString
  apply List.takeWhile_append_of_pos
  intro b hb
  have hne : b ≠ 0 := fun heq => hzero (heq ▸ hb)
  simpa using hne

theorem fpState_of_mem (m : StackMemory) (conversion : IntConversion)
    {content : List UInt8} (hzero : 0 ∈ content) :
    (m.fpState conversion content).numbers =
      (record content).map conversion.store := by
  unfold StackMemory.fpState StackMemory.afterRead sscanf record
  rw [List.append_assoc, cString_of_mem hzero]

theorem fpState_of_not_mem (m : StackMemory) (conversion : IntConversion)
    {content : List UInt8} (hzero : 0 ∉ content) :
    (m.fpState conversion content).numbers =
      (scan fpStateFormat (content ++
        cString (m.buffer.toList.drop content.length ++ m.beyond))).map
          conversion.store := by
  unfold StackMemory.fpState StackMemory.afterRead sscanf
  rw [List.append_assoc, cString_append hzero]

theorem record_of_not_mem {content : List UInt8} (hzero : 0 ∉ content) :
    record content = scan fpStateFormat content := by
  have hself : cString (content ++ []) = content ++ cString [] :=
    cString_append hzero
  rw [List.append_nil] at hself
  unfold record
  rw [hself]
  simp [cString]

theorem readsContent_of_settled {content : List UInt8}
    (hfits : FitsInt (record content)) (hsettled : Settled content)
    (conversion : IntConversion) : ReadsContent conversion content := by
  apply readsContent_of_fingerDown
  intro m
  by_cases hzero : 0 ∈ content
  · rw [fpState_of_mem m conversion hzero, map_store hfits]
  · have hclosed := hsettled.resolve_left hzero
    rw [fpState_of_not_mem m conversion hzero, scan_append hclosed,
      ← record_of_not_mem hzero, map_store hfits]

/-! ## Open contents -/

/-- What the last number says of the finger once it is stored. -/
def statePositive (conversion : IntConversion) (third : List UInt8) : Bool :=
  match scanInt third with
  | none => false
  | some (state, _) => 0 < conversion.store state

theorem isSome_of_third {content third : List UInt8}
    (hthird : scanRest coordinatesFormat content = some third)
    (conversion : IntConversion) :
    (fingerDown ((scan fpStateFormat content).map conversion.store)).isSome =
      statePositive conversion third := by
  have hlength : (scan coordinatesFormat content).length = 2 :=
    scan_length_of_scanRest hthird
  obtain ⟨x, y, hxy⟩ := List.length_eq_two.mp hlength
  unfold fpStateFormat statePositive
  rw [scan_append_format, hthird, hxy]
  simp only [Option.map_some, Option.getD_some, scan]
  cases scanInt third with
  | none => rfl
  | some r =>
      by_cases hstate : 0 < conversion.store r.1
      · simp [fingerDown, hstate]
      · simp [fingerDown, hstate]

theorem fingerDown_of_length {numbers : List ℤ} (hlength : numbers.length ≤ 2) :
    fingerDown numbers = none := by
  rcases numbers with _ | ⟨x, _ | ⟨y, _ | ⟨state, rest⟩⟩⟩
  · rfl
  · rfl
  · rfl
  · simp at hlength

theorem openScan_fpStateFormat {content : List UInt8}
    (hopen : openScan fpStateFormat content = true) :
    openScan coordinatesFormat content = true ∨
      ∃ third, scanRest coordinatesFormat content = some third ∧
        openNumber third = true := by
  unfold fpStateFormat at hopen
  rw [openScan_append_format, Bool.or_eq_true] at hopen
  rcases hopen with hfront | hthird
  · exact Or.inl hfront
  · right
    cases hrest : scanRest coordinatesFormat content with
    | none => simp [hrest] at hthird
    | some third =>
        refine ⟨third, rfl, ?_⟩
        simp only [hrest, Option.map_some, Option.getD_some, openScan] at hthird
        cases hscan : scanInt third with
        | none => simpa [hscan] using hthird
        | some r => simpa [hscan] using hthird

/-- Two's complement. -/
def wrapping : IntConversion where
  store n := n.bmod (2 ^ 32)
  fits n hlow hhigh := by
    apply Int.bmod_eq_of_le
    · norm_num
      omega
    · norm_num
      omega

theorem wrapping_store {n r : ℤ} (hmod : n ≡ r [ZMOD 2 ^ 32]) (hlow : 0 ≤ r)
    (hhigh : r < 2 ^ 31) : wrapping.store n = r := by
  have hsame : n % 2 ^ 32 = r := by
    rw [hmod]
    apply Int.emod_eq_of_lt hlow
    omega
  show n.bmod (2 ^ 32) = r
  rw [Int.bmod_def]
  norm_num at hsame ⊢
  omega

/-- The bytes `more` behind the content change what is returned. -/
def Differs (content : List UInt8) : Prop :=
  ∃ more : List UInt8, 0 ∉ more ∧
    (fingerDown ((scan fpStateFormat (content ++ more)).map
      wrapping.store)).isSome ≠
        (fingerDown (scan fpStateFormat content)).isSome

theorem zero_notMem_padded (k d : ℕ) : 0 ∉ padded k d := by
  intro hzero
  have hdigit := List.all_eq_true.mp (padded_isDigit k d) 0 hzero
  contradiction

/-- More digits of the last number turn its sign about. -/
theorem differs_third {content third : List UInt8}
    (hthird : scanRest coordinatesFormat content = some third)
    (hopen : openNumber third = true) : Differs content := by
  have hfront : openScan coordinatesFormat content = false :=
    closed_of_scanRest hthird
  have hmore : ∀ more, scanRest coordinatesFormat (content ++ more) =
      some (third ++ more) := by
    intro more
    rw [scanRest_append hfront, hthird]
    rfl
  obtain ⟨r, hlow, hhigh, hflips⟩ : ∃ r : ℤ, 0 ≤ r ∧ r < 2 ^ 31 ∧
      decide (0 < r) ≠ (fingerDown (scan fpStateFormat content)).isSome := by
    cases (fingerDown (scan fpStateFormat content)).isSome with
    | true => exact ⟨0, by norm_num⟩
    | false => exact ⟨1, by norm_num⟩
  obtain ⟨d, n, hscan, hmod⟩ := exists_residue hopen (k := 10) (m := 2 ^ 32)
    (by norm_num) (by norm_num) (by norm_num) r
  refine ⟨padded 10 d, zero_notMem_padded 10 d, ?_⟩
  rw [isSome_of_third (hmore _), statePositive, hscan]
  simp only [wrapping_store hmod hlow hhigh]
  exact hflips

/-- Three numbers, where the content alone has two at most. -/
theorem differs_of_completion {content more : List UInt8} {x y : ℤ}
    (hfront : scanRest coordinatesFormat content = none) (hzero : 0 ∉ more)
    (hmore : scan fpStateFormat (content ++ more) = [x, y, 1]) :
    Differs content := by
  refine ⟨more, hzero, ?_⟩
  have hshort : (scan fpStateFormat content).length ≤ 2 := by
    unfold fpStateFormat
    rw [scan_append_format, hfront]
    simp only [Option.map_none, Option.getD_none, List.append_nil]
    exact scan_length_le coordinatesFormat content
  rw [hmore, fingerDown_of_length hshort]
  have hone : wrapping.store 1 = 1 := by decide
  simp [fingerDown, hone]

theorem zero_notMem_completion {digits tail : List UInt8}
    (hones : ∀ d ∈ digits, d = 49) (htail : 0 ∉ tail) :
    0 ∉ digits ++ tail := by
  intro hmem
  rcases List.mem_append.mp hmem with hzero | hzero
  · have hone := hones 0 hzero
    contradiction
  · exact htail hzero

theorem differs_first {content : List UInt8}
    (hfront : scanRest coordinatesFormat content = none)
    (hopen : openNumber content = true) : Differs content := by
  rcases exists_completion hopen (b := 44) rfl with ⟨digits, x, hones, hscan⟩
  have hnumbers : scan fpStateFormat
      (content ++ (digits ++ 44 :: [49, 44, 49])) = [x, 1, 1] := by
    unfold fpStateFormat coordinatesFormat
    simp only [List.cons_append, List.nil_append, scan, hscan]
    rfl
  exact differs_of_completion hfront
    (zero_notMem_completion hones (by decide)) hnumbers

theorem differs_second {content rest : List UInt8} {x : ℤ}
    (hfront : scanRest coordinatesFormat content = none)
    (hclosed : openNumber content = false)
    (hfirst : scanInt content = some (x, 44 :: rest))
    (hopen : openNumber rest = true) : Differs content := by
  rcases exists_completion hopen (b := 44) rfl with ⟨digits, y, hones, hscan⟩
  have hfirst' : scanInt (content ++ (digits ++ 44 :: [49])) =
      some (x, 44 :: (rest ++ (digits ++ 44 :: [49]))) := by
    rw [scanInt_append hclosed, hfirst]
    rfl
  have hnumbers : scan fpStateFormat (content ++ (digits ++ 44 :: [49])) =
      [x, y, 1] := by
    unfold fpStateFormat coordinatesFormat
    simp only [List.cons_append, List.nil_append, scan, hfirst', hscan]
    rfl
  exact differs_of_completion hfront
    (zero_notMem_completion hones (by decide)) hnumbers

theorem differs_of_open {content : List UInt8}
    (hopen : openScan fpStateFormat content = true) : Differs content := by
  rcases openScan_fpStateFormat hopen with hfront | ⟨third, hthird, hnumber⟩
  · have hnone : scanRest coordinatesFormat content = none :=
      scanRest_of_open hfront
    cases hfirst : openNumber content with
    | true => exact differs_first hnone hfirst
    | false =>
        unfold coordinatesFormat at hfront
        simp only [List.cons_append, List.nil_append, openScan, hfirst,
          Bool.false_or] at hfront
        cases hscan : scanInt content with
        | none => simp [hscan] at hfront
        | some r =>
            rcases r with ⟨x, _ | ⟨b, rest⟩⟩
            · exact (scanInt_closed_rest hfirst hscan).elim
            · simp only [hscan, openScan, Bool.and_eq_true, decide_eq_true_eq,
                Bool.or_eq_true] at hfront
              rcases hfront with ⟨rfl, hsecond | hsecond⟩
              · exact differs_second hnone hfirst hscan hsecond
              · cases hopen' : openNumber rest with
                | true => exact differs_second hnone hfirst hscan hopen'
                | false =>
                    cases hscan' : scanInt rest with
                    | none => simp [hscan'] at hsecond
                    | some r' =>
                        rcases r' with ⟨y, _ | ⟨b', rest'⟩⟩
                        · exact (scanInt_closed_rest hopen' hscan').elim
                        · simp [hscan', openScan] at hsecond
  · exact differs_third hthird hnumber

/-! ## What the stack can hold -/

/-- A buffer whose bytes behind the content and whose surroundings are `more`
and zeros. -/
theorem exists_memory {content : List UInt8} (hlength : content.length ≤ 511)
    (more : List UInt8) :
    ∃ m m' : StackMemory, m.beyond = m'.beyond ∧
      m.buffer.toList.drop content.length ++ m.beyond =
        more ++ List.replicate (512 - content.length) 0 ∧
      ∃ tail, m'.buffer.toList.drop content.length ++ m'.beyond =
        0 :: tail := by
  let n := 512 - content.length
  let bytes := more ++ List.replicate n (0 : UInt8)
  have hbytes : n ≤ bytes.length := by
    simp [bytes]
  let filled : List UInt8 := List.replicate content.length 0 ++ bytes.take n
  have hfilled : filled.length = 512 := by
    simp only [filled, List.length_append, List.length_replicate,
      List.length_take, Nat.min_eq_left hbytes, n]
    omega
  refine ⟨⟨⟨filled.toArray, by simpa using hfilled⟩, bytes.drop n⟩,
    ⟨Vector.replicate 512 0, bytes.drop n⟩, rfl, ?_, ?_⟩
  · have hdrop : filled.drop content.length = bytes.take n := by
      have hfront : (List.replicate content.length (0 : UInt8)).length =
          content.length := List.length_replicate
      exact List.drop_left' hfront
    show filled.drop content.length ++ bytes.drop n = bytes
    rw [hdrop, List.take_append_drop]
  · have hpos : n = (n - 1) + 1 := by
      simp only [n]
      omega
    refine ⟨List.replicate (n - 1) 0 ++ bytes.drop n, ?_⟩
    have hzeros : (Vector.replicate 512 (0 : UInt8)).toList.drop
        content.length = List.replicate n 0 := by
      rw [Vector.toList_replicate, List.drop_replicate]
    rw [hzeros, hpos, List.replicate_succ]
    rfl

theorem settled_of_readsContent {content : List UInt8}
    (hlength : content.length ≤ 511) (hfits : FitsInt (record content))
    (hreads : ReadsContent wrapping content) : Settled content := by
  by_contra hunsettled
  have hzero : 0 ∉ content := fun hmem => hunsettled (Or.inl hmem)
  have hopen : openScan fpStateFormat content = true := by
    by_contra hclosed
    rw [Bool.not_eq_true] at hclosed
    exact hunsettled (Or.inr hclosed)
  rcases differs_of_open hopen with ⟨more, hnonzero, hdiffer⟩
  rcases exists_memory hlength more with ⟨m, m', hbeyond, hm, tail, hm'⟩
  have hstale : (m.fpState wrapping content).numbers =
      (scan fpStateFormat (content ++ more)).map wrapping.store := by
    have hstring : cString (List.replicate (512 - content.length) 0) = [] := by
      obtain ⟨n, hn⟩ : ∃ n, 512 - content.length = n + 1 :=
        ⟨511 - content.length, by omega⟩
      rw [hn, List.replicate_succ]
      rfl
    rw [fpState_of_not_mem m wrapping hzero, hm, cString_append hnonzero,
      hstring, List.append_nil]
  have hown : (m'.fpState wrapping content).numbers =
      scan fpStateFormat content := by
    rw [record_of_not_mem hzero] at hfits
    rw [fpState_of_not_mem m' wrapping hzero, hm']
    simp [cString, map_store hfits]
  have hfst := (hreads.same m m' hbeyond 0 0).1
  rw [fpState_fst, fpState_fst, hstale, hown] at hfst
  exact hdiffer hfst

/-- What was in the buffer before has no influence, and the result is that of
the content, exactly if the content is settled: however a number that does not
fit is converted, and for two's complement alone. -/
theorem readsContent_iff (content : List UInt8)
    (hlength : content.length ≤ 511) (hfits : FitsInt (record content)) :
    ((∀ conversion, ReadsContent conversion content) ↔ Settled content) ∧
      (ReadsContent wrapping content ↔ Settled content) := by
  have hsettled : ReadsContent wrapping content → Settled content :=
    settled_of_readsContent hlength hfits
  have hreads := readsContent_of_settled hfits
  exact ⟨⟨fun hall => hsettled (hall wrapping), hreads⟩,
    ⟨hsettled, fun h => hreads h wrapping⟩⟩

/-- `"540,1800,0"`, without a newline. -/
def liftedFinger : List UInt8 :=
  [53, 52, 48, 44, 49, 56, 48, 48, 44, 48]

theorem liftedFinger_fits : FitsInt (record liftedFinger) := by
  have hnumbers : record liftedFinger = [540, 1800, 0] := by decide
  rw [hnumbers]
  unfold FitsInt
  decide

theorem readsContent_iff_liftedFinger :
    liftedFinger.length ≤ 511 ∧ FitsInt (record liftedFinger) ∧
      ((∀ conversion, ReadsContent conversion liftedFinger) ↔
        Settled liftedFinger) ∧
      (ReadsContent wrapping liftedFinger ↔ Settled liftedFinger) :=
  ⟨by decide, liftedFinger_fits,
    readsContent_iff liftedFinger (by decide) liftedFinger_fits⟩

/-- One digit left behind the content turns the lifted finger into a press. -/
theorem stale_digit_read :
    ¬ ∀ content : List UInt8, content.length ≤ 511 →
      FitsInt (record content) → ReadsContent wrapping content := by
  intro hclaim
  have hreads := hclaim liftedFinger (by decide) liftedFinger_fits
  have hlength : liftedFinger.length ≤ 511 := by decide
  obtain ⟨m, m', hbeyond, hm, tail, hm'⟩ := exists_memory hlength [49]
  have hzero : 0 ∉ liftedFinger := by decide
  have hstale : (m.fpState wrapping liftedFinger).numbers = [540, 1800, 1] := by
    rw [fpState_of_not_mem m wrapping hzero, hm]
    decide
  have hown : (m'.fpState wrapping liftedFinger).numbers = [540, 1800, 0] := by
    have hnone : cString (0 :: tail) = [] := by simp [cString]
    rw [fpState_of_not_mem m' wrapping hzero, hm', hnone]
    decide
  have hfst := (hreads.same m m' hbeyond 0 0).1
  rw [fpState_fst, fpState_fst, hstale, hown] at hfst
  exact absurd hfst (by decide)

end Samurai
