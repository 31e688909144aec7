import Mathlib.Algebra.Order.BigOperators.Group.Finset
import Samurai.BinaryRounding
import Samurai.CountingLoop

/-!
# The brightness of an area of the screen

`AreaCapture` has the display composer capture a small rectangle and averages
the red, green and blue bytes of the buffer it gets.  The rows of the buffer
are `stride` pixels apart, of which `width` are visible, and a pixel has four
bytes.

The loops count with signed integers and compute their indices and sums in
unsigned 32-bit arithmetic, as here.  The sums and the number of pixels are
converted to `float` and divided there: three roundings to 24 binary digits.
-/

namespace Samurai

open BinaryRounding CountingLoop

structure Rect where
  left : ℤ
  top : ℤ
  right : ℤ
  bottom : ℤ
  deriving DecidableEq, Repr

def Rect.getWidth (r : Rect) : ℤ :=
  r.right - r.left

def Rect.getHeight (r : Rect) : ℤ :=
  r.bottom - r.top

/-- The arguments of a capture; format and layer mode are always
`RGBA_8888` and `Capture`. -/
structure DisplayCaptureArgs where
  sourceCrop : Rect
  width : ℤ
  height : ℤ
  deriving DecidableEq, Repr

structure GraphicBuffer where
  width : UInt32
  height : UInt32
  stride : UInt32
  out : UInt32 → UInt8

/-- What a capture comes to. -/
structure ScreenCapture where
  status : ℤ
  fenceOk : Bool
  buffer : GraphicBuffer

/-- `float` numbers, as the rationals they are. -/
structure AreaRgbCaptureResult where
  r : ℚ
  g : ℚ
  b : ℚ

/-- The sums of the loops, and the indices they read at. -/
structure RgbSums where
  rsum : UInt32
  gsum : UInt32
  bsum : UInt32
  used : List UInt32

def NO_ERROR : ℤ := 0

namespace GraphicBuffer

def index (buffer : GraphicBuffer) (y x : Int32) : UInt32 :=
  y.toUInt32 * (buffer.stride * 4) + (x * 4).toUInt32

def addPixel (buffer : GraphicBuffer) (y x : Int32) (s : RgbSums) : RgbSums :=
  let i := buffer.index y x
  { rsum := s.rsum + (buffer.out i).toUInt32
    gsum := s.gsum + (buffer.out (i + 1)).toUInt32
    bsum := s.bsum + (buffer.out (i + 2)).toUInt32
    used := s.used ++ [i, i + 1, i + 2] }

def addRow (buffer : GraphicBuffer) (y : Int32) (s : RgbSums) : RgbSums :=
  count buffer.width (buffer.addPixel y) s

def rgbSums (buffer : GraphicBuffer) : RgbSums :=
  count buffer.height buffer.addRow
    { rsum := 0, gsum := 0, bsum := 0, used := [] }

/-- `sum / max`, all numbers being far inside the range of `float`. -/
def average (buffer : GraphicBuffer) (sum : UInt32) : ℚ :=
  let max := rounded 24 (buffer.width * buffer.height).toNat
  rounded 24 (rounded 24 sum.toNat / max)

end GraphicBuffer

namespace AreaCapture

/-- The rectangle the constructor sets; it fails if the rectangle is not
one. -/
def m_screenshot_rect (left top right bottom : ℤ) : Option Rect :=
  if left < 0 ∨ top < 0 ∨ right ≤ left ∨ bottom ≤ top then none
  else some ⟨left, top, right, bottom⟩

def constructed : Option Rect :=
  m_screenshot_rect 677 19 707 49

def captureArgs (rect : Rect) : DisplayCaptureArgs where
  sourceCrop := rect
  width := rect.getWidth
  height := rect.getHeight

/-- A rectangle that is accepted has pixels to capture. -/
theorem captureArgs_pos {left top right bottom : ℤ} {rect : Rect}
    (hrect : m_screenshot_rect left top right bottom = some rect) :
    0 < (captureArgs rect).width ∧ 0 < (captureArgs rect).height := by
  unfold m_screenshot_rect at hrect
  split_ifs at hrect with hinvalid
  cases hrect
  simp only [captureArgs, Rect.getWidth, Rect.getHeight]
  omega

theorem constructed_pos :
    ∃ rect, constructed = some rect ∧ 0 < (captureArgs rect).width ∧
      0 < (captureArgs rect).height := by
  have hrect : constructed = some ⟨677, 19, 707, 49⟩ := rfl
  exact ⟨_, hrect, captureArgs_pos hrect⟩

/-- A failure is the service specific error it returns. -/
def getAreaBrightness (rect : Rect)
    (captureDisplay : DisplayCaptureArgs → ScreenCapture) :
    Except ℤ AreaRgbCaptureResult :=
  let capture := captureDisplay (captureArgs rect)
  if capture.status ≠ NO_ERROR then .error (-1)
  else if !capture.fenceOk then .error (-1)
  else
    let s := capture.buffer.rgbSums
    .ok
      { r := capture.buffer.average s.rsum
        g := capture.buffer.average s.gsum
        b := capture.buffer.average s.bsum }

end AreaCapture

/-! ## The visible pixels -/

namespace GraphicBuffer

variable {buffer buffer' : GraphicBuffer}

/-- Where byte `channel` of a pixel is. -/
def offset (buffer : GraphicBuffer) (y x channel : ℕ) : ℕ :=
  y * (buffer.stride.toNat * 4) + x * 4 + channel

def channelAt (buffer : GraphicBuffer) (y x channel : ℕ) : UInt8 :=
  buffer.out (UInt32.ofNat (buffer.offset y x channel))

/-- The sum of a channel over the visible pixels. -/
def channelSum (buffer : GraphicBuffer) (channel : ℕ) : ℕ :=
  ∑ y ∈ Finset.range buffer.height.toNat,
    ∑ x ∈ Finset.range buffer.width.toNat,
      (buffer.channelAt y x channel).toNat

/-- A buffer whose sums and indices fit in 32 bits. -/
structure Fits (buffer : GraphicBuffer) : Prop where
  width_pos : 1 ≤ buffer.width
  height_pos : 1 ≤ buffer.height
  width_le : buffer.width ≤ buffer.stride
  sums : buffer.width.toNat * buffer.height.toNat * 255 < 2 ^ 32
  indices : 4 * buffer.stride.toNat * buffer.height.toNat ≤ 2 ^ 32

/-- The same size, and the same colours of the visible pixels. -/
structure SameColours (buffer buffer' : GraphicBuffer) : Prop where
  width : buffer'.width = buffer.width
  height : buffer'.height = buffer.height
  stride : buffer'.stride = buffer.stride
  colours : ∀ y < buffer.height.toNat, ∀ x < buffer.width.toNat,
    ∀ channel < 3,
      buffer'.channelAt y x channel = buffer.channelAt y x channel

theorem index_eq (buffer : GraphicBuffer) (y x : ℕ) :
    buffer.index (Int32.ofNat y) (Int32.ofNat x) =
      UInt32.ofNat (buffer.offset y x 0) := by
  have hstride : UInt32.ofNat buffer.stride.toNat = buffer.stride :=
    UInt32.ofNat_toNat
  unfold index offset
  rw [Int32.toUInt32_mul, Int32.toUInt32_ofNat', Int32.toUInt32_ofNat',
    Nat.add_zero, UInt32.ofNat_add, UInt32.ofNat_mul, UInt32.ofNat_mul,
    UInt32.ofNat_mul, hstride]
  rfl

theorem index_add (buffer : GraphicBuffer) (y x channel : ℕ) :
    UInt32.ofNat (buffer.offset y x 0) + UInt32.ofNat channel =
      UInt32.ofNat (buffer.offset y x channel) := by
  rw [← UInt32.ofNat_add]
  rfl

theorem addPixel_eq (buffer : GraphicBuffer) (y x : ℕ) (s : RgbSums) :
    buffer.addPixel (Int32.ofNat y) (Int32.ofNat x) s =
      { rsum := s.rsum + UInt32.ofNat (buffer.channelAt y x 0).toNat
        gsum := s.gsum + UInt32.ofNat (buffer.channelAt y x 1).toNat
        bsum := s.bsum + UInt32.ofNat (buffer.channelAt y x 2).toNat
        used := s.used ++
          [UInt32.ofNat (buffer.offset y x 0),
            UInt32.ofNat (buffer.offset y x 1),
            UInt32.ofNat (buffer.offset y x 2)] } := by
  have hg : UInt32.ofNat (buffer.offset y x 0) + 1 =
      UInt32.ofNat (buffer.offset y x 1) := buffer.index_add y x 1
  have hb : UInt32.ofNat (buffer.offset y x 0) + 2 =
      UInt32.ofNat (buffer.offset y x 2) := buffer.index_add y x 2
  unfold addPixel channelAt
  simp only [index_eq, hg, hb, ← UInt8.toNat_toUInt32, UInt32.ofNat_toNat]

/-- A sum to which each pixel adds its byte of a channel. -/
theorem rgbSums_channel (buffer : GraphicBuffer) (sum : RgbSums → UInt32)
    (channel : ℕ)
    (hpixel : ∀ y x s, sum (buffer.addPixel (Int32.ofNat y) (Int32.ofNat x) s) =
      sum s + UInt32.ofNat (buffer.channelAt y x channel).toNat)
    (hzero : sum { rsum := 0, gsum := 0, bsum := 0, used := [] } = 0) :
    sum buffer.rgbSums = UInt32.ofNat (buffer.channelSum channel) := by
  have hrow : ∀ y s, y < buffer.height.toNat →
      sum (buffer.addRow (Int32.ofNat y) s) = sum s + UInt32.ofNat
        (∑ x ∈ Finset.range buffer.width.toNat,
          (buffer.channelAt y x channel).toNat) := by
    intro y s _
    exact count_sum (fun x s _ => hpixel y x s) s
  have hall := count_sum hrow { rsum := 0, gsum := 0, bsum := 0, used := [] }
  rw [hzero, UInt32.zero_add] at hall
  exact hall

theorem channelAt_le (y x channel : ℕ) :
    (buffer.channelAt y x channel).toNat ≤ 255 :=
  Nat.le_of_lt_succ (buffer.channelAt y x channel).toNat_lt

theorem channelSum_le (buffer : GraphicBuffer) (channel : ℕ) :
    buffer.channelSum channel ≤
      buffer.width.toNat * buffer.height.toNat * 255 := by
  have hrow : ∀ y ∈ Finset.range buffer.height.toNat,
      ∑ x ∈ Finset.range buffer.width.toNat,
        (buffer.channelAt y x channel).toNat ≤ buffer.width.toNat * 255 := by
    intro y _
    have hbytes := Finset.sum_le_card_nsmul (Finset.range buffer.width.toNat)
      (fun x => (buffer.channelAt y x channel).toNat) 255
      (fun x _ => channelAt_le y x channel)
    simpa using hbytes
  have hrows := Finset.sum_le_card_nsmul (Finset.range buffer.height.toNat) _ _
    hrow
  rw [Finset.card_range, smul_eq_mul] at hrows
  calc
    buffer.channelSum channel ≤
        buffer.height.toNat * (buffer.width.toNat * 255) := hrows
    _ = buffer.width.toNat * buffer.height.toNat * 255 := by ring

theorem toNat_channelSum (hfits : buffer.Fits) (channel : ℕ) :
    (UInt32.ofNat (buffer.channelSum channel)).toNat =
      buffer.channelSum channel := by
  rw [UInt32.toNat_ofNat']
  exact Nat.mod_eq_of_lt ((buffer.channelSum_le channel).trans_lt hfits.sums)

theorem rsum_eq (buffer : GraphicBuffer) :
    buffer.rgbSums.rsum = UInt32.ofNat (buffer.channelSum 0) :=
  buffer.rgbSums_channel RgbSums.rsum 0
    (fun y x s => by rw [addPixel_eq]) rfl

theorem gsum_eq (buffer : GraphicBuffer) :
    buffer.rgbSums.gsum = UInt32.ofNat (buffer.channelSum 1) :=
  buffer.rgbSums_channel RgbSums.gsum 1
    (fun y x s => by rw [addPixel_eq]) rfl

theorem bsum_eq (buffer : GraphicBuffer) :
    buffer.rgbSums.bsum = UInt32.ofNat (buffer.channelSum 2) :=
  buffer.rgbSums_channel RgbSums.bsum 2
    (fun y x s => by rw [addPixel_eq]) rfl

/-! ## The bytes read -/

theorem mem_used (buffer : GraphicBuffer) (i : UInt32) :
    i ∈ buffer.rgbSums.used ↔
      ∃ y < buffer.height.toNat, ∃ x < buffer.width.toNat, ∃ channel < 3,
        i = UInt32.ofNat (buffer.offset y x channel) := by
  have hpixel : ∀ y x s,
      i ∈ (buffer.addPixel (Int32.ofNat y) (Int32.ofNat x) s).used ↔
        i ∈ s.used ∨ ∃ channel < 3,
          i = UInt32.ofNat (buffer.offset y x channel) := by
    intro y x s
    rw [addPixel_eq, List.mem_append]
    apply or_congr_right
    constructor
    · intro hmem
      simp only [List.mem_cons, List.not_mem_nil, or_false] at hmem
      rcases hmem with hr | hg | hb
      · exact ⟨0, by omega, hr⟩
      · exact ⟨1, by omega, hg⟩
      · exact ⟨2, by omega, hb⟩
    · rintro ⟨channel, hchannel, hi⟩
      interval_cases channel
      · simp [hi]
      · simp [hi]
      · simp [hi]
  have hrow : ∀ y s, y < buffer.height.toNat →
      (i ∈ (buffer.addRow (Int32.ofNat y) s).used ↔
        i ∈ s.used ∨ ∃ x < buffer.width.toNat, ∃ channel < 3,
          i = UInt32.ofNat (buffer.offset y x channel)) := by
    intro y s _
    exact mem_count RgbSums.used
      (fun x i => ∃ channel < 3, i = UInt32.ofNat (buffer.offset y x channel))
      (fun x s _ => hpixel y x s) s
  have hall := mem_count RgbSums.used
    (fun y i => ∃ x < buffer.width.toNat, ∃ channel < 3,
      i = UInt32.ofNat (buffer.offset y x channel)) hrow
    { rsum := 0, gsum := 0, bsum := 0, used := [] }
  unfold rgbSums
  simpa using hall

theorem offset_lt (hfits : buffer.Fits) {y x channel : ℕ}
    (hy : y < buffer.height.toNat) (hx : x < buffer.width.toNat)
    (hchannel : channel < 3) :
    buffer.offset y x channel <
      4 * buffer.stride.toNat * buffer.height.toNat := by
  have hwidth : buffer.width.toNat ≤ buffer.stride.toNat := hfits.width_le
  have hrows : (y + 1) * (buffer.stride.toNat * 4) ≤
      buffer.height.toNat * (buffer.stride.toNat * 4) :=
    Nat.mul_le_mul_right _ hy
  have hpixel : x * 4 + channel < buffer.stride.toNat * 4 := by omega
  have hexpand : (y + 1) * (buffer.stride.toNat * 4) =
      y * (buffer.stride.toNat * 4) + buffer.stride.toNat * 4 := by ring
  have hwhole : 4 * buffer.stride.toNat * buffer.height.toNat =
      buffer.height.toNat * (buffer.stride.toNat * 4) := by ring
  unfold offset
  omega

theorem toNat_offset (hfits : buffer.Fits) {y x channel : ℕ}
    (hy : y < buffer.height.toNat) (hx : x < buffer.width.toNat)
    (hchannel : channel < 3) :
    (UInt32.ofNat (buffer.offset y x channel)).toNat =
      buffer.offset y x channel := by
  rw [UInt32.toNat_ofNat']
  exact Nat.mod_eq_of_lt
    ((offset_lt hfits hy hx hchannel).trans_le hfits.indices)

/-! ## Averages -/

theorem SameColours.channelSum {channel : ℕ} (hsame : SameColours buffer buffer')
    (hchannel : channel < 3) :
    buffer'.channelSum channel = buffer.channelSum channel := by
  unfold GraphicBuffer.channelSum
  rw [hsame.height, hsame.width]
  apply Finset.sum_congr rfl
  intro y hy
  apply Finset.sum_congr rfl
  intro x hx
  rw [hsame.colours y (Finset.mem_range.mp hy) x (Finset.mem_range.mp hx)
    channel hchannel]

theorem pixels_pos (hfits : buffer.Fits) :
    0 < buffer.width.toNat * buffer.height.toNat := by
  have hwidth : 1 ≤ buffer.width.toNat := hfits.width_pos
  have hheight : 1 ≤ buffer.height.toNat := hfits.height_pos
  exact Nat.mul_pos hwidth hheight

/-- The number of pixels is computed without overflow. -/
theorem pixels_eq (hfits : buffer.Fits) :
    (buffer.width * buffer.height).toNat =
      buffer.width.toNat * buffer.height.toNat := by
  have hsums := hfits.sums
  rw [UInt32.toNat_mul]
  exact Nat.mod_eq_of_lt (by omega)

/-- The quotient of a sum by the number of pixels, in `float`. -/
def roundedAverage (buffer : GraphicBuffer) (sum : ℕ) : ℚ :=
  rounded 24
    (rounded 24 sum / rounded 24 (buffer.width.toNat * buffer.height.toNat))

theorem average_channelSum (hfits : buffer.Fits) (channel : ℕ) :
    buffer.average (UInt32.ofNat (buffer.channelSum channel)) =
      buffer.roundedAverage (buffer.channelSum channel) := by
  unfold average roundedAverage
  rw [toNat_channelSum hfits, pixels_eq hfits, Nat.cast_mul]

/-- The exact quotient is one of bytes. -/
theorem quotient_bounds (hfits : buffer.Fits) (channel : ℕ) :
    0 ≤ (buffer.channelSum channel : ℚ) /
        (buffer.width.toNat * buffer.height.toNat) ∧
      (buffer.channelSum channel : ℚ) /
        (buffer.width.toNat * buffer.height.toNat) ≤ 255 := by
  have hpos : (0 : ℚ) < buffer.width.toNat * buffer.height.toNat := by
    exact_mod_cast pixels_pos hfits
  have hle : (buffer.channelSum channel : ℚ) ≤
      255 * (buffer.width.toNat * buffer.height.toNat) := by
    have hnat := buffer.channelSum_le channel
    rw [mul_comm (buffer.width.toNat * buffer.height.toNat) 255] at hnat
    exact_mod_cast hnat
  constructor
  · positivity
  · exact (div_le_iff₀ hpos).mpr hle

/-- The code's sums are the exact sums of the three channels over the visible
pixels, which alone are read, within the buffer; so they do not depend on the
rest of the buffer, their quotients by the number of pixels are between 0 and
255, and the results are these up to the roundings of `float`. -/
theorem area_brightness (buffer : GraphicBuffer) (hfits : buffer.Fits) :
    (buffer.rgbSums.rsum.toNat = buffer.channelSum 0 ∧
      buffer.rgbSums.gsum.toNat = buffer.channelSum 1 ∧
      buffer.rgbSums.bsum.toNat = buffer.channelSum 2) ∧
    (∀ i, i ∈ buffer.rgbSums.used ↔
      ∃ y < buffer.height.toNat, ∃ x < buffer.width.toNat, ∃ channel < 3,
        i.toNat = buffer.offset y x channel) ∧
    (∀ i ∈ buffer.rgbSums.used,
      i.toNat < 4 * buffer.stride.toNat * buffer.height.toNat) ∧
    (∀ buffer', SameColours buffer buffer' →
      buffer'.rgbSums.rsum = buffer.rgbSums.rsum ∧
      buffer'.rgbSums.gsum = buffer.rgbSums.gsum ∧
      buffer'.rgbSums.bsum = buffer.rgbSums.bsum) ∧
    (∀ sum ∈ [buffer.rgbSums.rsum, buffer.rgbSums.gsum, buffer.rgbSums.bsum],
      0 ≤ (sum.toNat : ℚ) / (buffer.width.toNat * buffer.height.toNat) ∧
        (sum.toNat : ℚ) / (buffer.width.toNat * buffer.height.toNat) ≤ 255) ∧
    ∀ rect captureDisplay,
      captureDisplay (AreaCapture.captureArgs rect) =
          ⟨NO_ERROR, true, buffer⟩ →
        AreaCapture.getAreaBrightness rect captureDisplay = .ok
          { r := buffer.roundedAverage (buffer.channelSum 0)
            g := buffer.roundedAverage (buffer.channelSum 1)
            b := buffer.roundedAverage (buffer.channelSum 2) } := by
  have hused : ∀ i, i ∈ buffer.rgbSums.used ↔
      ∃ y < buffer.height.toNat, ∃ x < buffer.width.toNat, ∃ channel < 3,
        i.toNat = buffer.offset y x channel := by
    intro i
    rw [mem_used]
    constructor
    · rintro ⟨y, hy, x, hx, channel, hchannel, rfl⟩
      exact ⟨y, hy, x, hx, channel, hchannel, toNat_offset hfits hy hx hchannel⟩
    · rintro ⟨y, hy, x, hx, channel, hchannel, hi⟩
      refine ⟨y, hy, x, hx, channel, hchannel, ?_⟩
      rw [← hi, UInt32.ofNat_toNat]
  refine ⟨?_, hused, ?_, ?_, ?_, ?_⟩
  · rw [rsum_eq, gsum_eq, bsum_eq]
    exact ⟨toNat_channelSum hfits 0, toNat_channelSum hfits 1,
      toNat_channelSum hfits 2⟩
  · intro i hi
    rcases (hused i).mp hi with ⟨y, hy, x, hx, channel, hchannel, hoffset⟩
    rw [hoffset]
    exact offset_lt hfits hy hx hchannel
  · intro buffer' hsame
    simp only [rsum_eq, gsum_eq, bsum_eq]
    rw [hsame.channelSum (by omega), hsame.channelSum (by omega),
      hsame.channelSum (by omega)]
    exact ⟨rfl, rfl, rfl⟩
  · intro sum hsum
    rw [rsum_eq, gsum_eq, bsum_eq] at hsum
    simp only [List.mem_cons, List.not_mem_nil, or_false] at hsum
    rcases hsum with rfl | rfl | rfl
    · rw [toNat_channelSum hfits]
      exact quotient_bounds hfits 0
    · rw [toNat_channelSum hfits]
      exact quotient_bounds hfits 1
    · rw [toNat_channelSum hfits]
      exact quotient_bounds hfits 2
  · intro rect captureDisplay hcapture
    unfold AreaCapture.getAreaBrightness
    rw [hcapture]
    simp only [ne_eq, not_true_eq_false, if_false, Bool.not_true,
      Bool.false_eq_true, rsum_eq, gsum_eq, bsum_eq, average_channelSum hfits]

/-- Two visible pixels in a row of three. -/
def smallBuffer : GraphicBuffer where
  width := 2
  height := 1
  stride := 3
  out i := i.toUInt8

theorem smallBuffer_fits : smallBuffer.Fits where
  width_pos := by decide
  height_pos := by decide
  width_le := by decide
  sums := by decide
  indices := by decide

theorem area_brightness_smallBuffer :
    smallBuffer.Fits ∧ smallBuffer.rgbSums.rsum.toNat = 4 := by
  have hsum : smallBuffer.channelSum 0 = 4 := by decide
  have hexact := (area_brightness smallBuffer smallBuffer_fits).1.1
  exact ⟨smallBuffer_fits, hexact.trans hsum⟩

end GraphicBuffer

end Samurai
