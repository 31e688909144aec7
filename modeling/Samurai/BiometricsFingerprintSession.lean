import Samurai.BiometricsFingerprintEffects

/-!
# The end of a session

A recognised finger and an error both end a session, and both withdraw the
press and darken the panel.  Only the first also tells the helper that the
touch is over; after an error that comes during a touch the helper is left
with the touch, until its watchdog ends it.
-/

namespace Samurai

def HalEvent.Ends : HalEvent → Prop
  | .callback (.onError _ _ _) => True
  | .callback (.onAuthenticated _ fingerId _ _) => fingerId ≠ 0
  | _ => False

def HalEvent.isError : HalEvent → Bool
  | .callback (.onError _ _ _) => true
  | _ => false

/-- Whether the last of the events that tell the helper of a touch told it
that one began. -/
def touchHeld (held : Bool) (inputs : List HalInput) : Bool :=
  inputs.foldl (fun held input => input.event.touches.getD held) held

namespace BiometricsFingerprint

variable {s : BiometricsFingerprint} {last : HalInput}

def run (s : BiometricsFingerprint) (inputs : List HalInput) :
    BiometricsFingerprint :=
  inputs.foldl handle s

/-- No press, no touch, and no light but for an enrolment. -/
def Quiesced (s : BiometricsFingerprint) : Prop :=
  s.notify_fppress = 0 ∧
  (∀ h, s.mOplusUdfpsHelper = some h → h.currentIsDownState = false) ∧
  (s.isEnrolling = false → s.dimlayer_hbm = 0)

/-- The ending event can write its zeros, or finds them; and if it is an
error, no touch is held. -/
def QuiescedBy (s : BiometricsFingerprint) (held : Bool) (last : HalInput) :
    Prop :=
  (last.env.fppressWritable = true ∨ s.notify_fppress = 0) ∧
  (last.event.isError = true → held = false) ∧
  (s.isEnrolling = false →
    last.env.dimlayerWritable = true ∨ s.dimlayer_hbm = 0)

theorem run_helper (inputs : List HalInput) (s : BiometricsFingerprint) :
    (s.run inputs).mOplusUdfpsHelper = s.mOplusUdfpsHelper.map fun h =>
      { h with
        currentIsDownState := touchHeld h.currentIsDownState inputs } := by
  induction inputs generalizing s with
  | nil =>
      unfold run touchHeld
      simp
  | cons input inputs ih =>
      have htail := ih (s.handle input)
      rw [(handle_effect s input).helper, Option.map_map] at htail
      exact htail

theorem run_append (inputs : List HalInput) (last : HalInput)
    (s : BiometricsFingerprint) :
    s.run (inputs ++ [last]) = (s.run inputs).handle last := by
  unfold run
  rw [List.foldl_append]
  rfl

theorem handle_ends (hends : last.event.Ends) (s : BiometricsFingerprint) :
    (s.handle last).isEnrolling = s.isEnrolling ∧
      (s.handle last).notify_fppress =
        (if last.env.fppressWritable then 0 else s.notify_fppress) ∧
      (s.isEnrolling = false → (s.handle last).dimlayer_hbm =
        if last.env.dimlayerWritable then 0 else s.dimlayer_hbm) ∧
      (s.handle last).mOplusUdfpsHelper = s.mOplusUdfpsHelper.map fun h =>
        { h with
          currentIsDownState :=
            last.event.isError && h.currentIsDownState } := by
  have heffect := handle_effect s last
  rcases last with ⟨env, event⟩
  cases event with
  | request r => exact absurd hends (by simp [HalEvent.Ends])
  | callback c =>
      cases c with
      | onError deviceId error vendorCode =>
          refine ⟨heffect.isEnrolling, heffect.notify_fppress, ?_, ?_⟩
          · intro hidle
            rw [heffect.dimlayer_hbm, hidle]
            rfl
          · rw [heffect.helper]
            rfl
      | onAuthenticated deviceId fingerId groupId token =>
          have hfinger : fingerId ≠ 0 := hends
          refine ⟨heffect.isEnrolling, heffect.notify_fppress, ?_, ?_⟩
          · intro _
            rw [heffect.dimlayer_hbm]
            simp [hfinger]
          · rw [heffect.helper]
            rfl
      | _ => exact absurd hends (by simp [HalEvent.Ends])

theorem quiesced_handle_iff {h : UdfpsHelper} (hends : last.event.Ends)
    (hhelper : s.mOplusUdfpsHelper = some h) :
    (s.handle last).Quiesced ↔ s.QuiescedBy h.currentIsDownState last := by
  have hafter := handle_ends hends s
  rw [hhelper, Option.map_some] at hafter
  unfold Quiesced QuiescedBy
  rw [hafter.1, hafter.2.1, hafter.2.2.2]
  apply and_congr
  · cases hwritable : last.env.fppressWritable with
    | false => simp
    | true => simp
  apply and_congr
  · cases herror : last.event.isError with
    | false => simp
    | true => simp
  · apply imp_congr_right
    intro hidle
    rw [hafter.2.2.1 hidle]
    cases hwritable : last.env.dimlayerWritable with
    | false => simp
    | true => simp

/-- The end of a session leaves everything quiet if and only if it can write
its zeros and, where it is an error, no touch is held. -/
theorem quiesced_iff (oplus : Bool) (h : UdfpsHelper)
    (dimlayer_hbm notify_fppress : ℕ) (inputs : List HalInput)
    (last : HalInput) (hends : last.event.Ends) :
    ((constructed oplus (some h) dimlayer_hbm notify_fppress).run
        (inputs ++ [last])).Quiesced ↔
      ((constructed oplus (some h) dimlayer_hbm notify_fppress).run
        inputs).QuiescedBy (touchHeld h.currentIsDownState inputs) last := by
  have hhelper := run_helper inputs
    (constructed oplus (some h) dimlayer_hbm notify_fppress)
  rw [run_append]
  exact quiesced_handle_iff hends hhelper

theorem quiesced_of_touch_and_error :
    ((constructed true (some .initial) 0 0).run
      ([.calledBack (.onFingerprintCmd 1201 [] 0),
        .calledBack (.onFingerprintCmd 1202 [] 0)] ++
        [.calledBack (.onError 0 1 0)])).Quiesced := by
  apply (quiesced_iff true .initial 0 0
    [.calledBack (.onFingerprintCmd 1201 [] 0),
      .calledBack (.onFingerprintCmd 1202 [] 0)]
    (.calledBack (.onError 0 1 0)) trivial).mpr
  exact ⟨.inl rfl, fun _ => rfl, fun _ => .inl rfl⟩

theorem touch_left_by_error :
    ¬ ∀ inputs last, HalEvent.Ends last.event →
      ((constructed true (some .initial) 0 0).run
        (inputs ++ [last])).Quiesced := by
  intro hclaim
  have hquiesced := hclaim [.calledBack (.onFingerprintCmd 1201 [] 0)]
    (.calledBack (.onError 0 1 0)) trivial
  have hheld := hquiesced.2.1 _ rfl
  contradiction

end BiometricsFingerprint

end Samurai
