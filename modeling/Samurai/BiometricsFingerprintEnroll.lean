import Samurai.BiometricsFingerprintSession

/-!
# A failed enrolment request

`preEnroll` and `enroll` ask first whether the vendor service is there, then
change the flag and the panel, and last forward the request.  Nothing takes
the changes back when the request fails there.
-/

namespace Samurai

namespace BiometricsFingerprint

/-- `preEnroll` fails with a transport error or without a challenge, `enroll`
with a transport error or another status than `SYS_OK`. -/
def EnrolmentFails (s : BiometricsFingerprint) (env : HalEnv) :
    HalRequest → Prop
  | .preEnroll =>
      (s.preEnroll env).1 = .transportError ∨ (s.preEnroll env).1 = .ok 0
  | .enroll hat gid timeoutSec =>
      (s.enroll hat gid timeoutSec env).1 ≠ .ok .SYS_OK
  | _ => False

/-- The flag and the two nodes are the same. -/
def SamePanel (s t : BiometricsFingerprint) : Prop :=
  t.isEnrolling = s.isEnrolling ∧ t.dimlayer_hbm = s.dimlayer_hbm ∧
    t.notify_fppress = s.notify_fppress

/-- The request finds the flag and the panel as it is going to set them. -/
def AlreadySet (s : BiometricsFingerprint) (env : HalEnv) (r : HalRequest) :
    Prop :=
  (r = .preEnroll → s.isEnrolling = true) ∧
    (env.dimlayerWritable = true → s.dimlayer_hbm = 1)

variable {s : BiometricsFingerprint} {env : HalEnv} {r : HalRequest}

/-- The requests that can fail in this sense are the two that light the panel
before they are forwarded. -/
theorem EnrolmentFails.lights (hfails : s.EnrolmentFails env r) :
    r.lights true s.isEnrolling = some 1 ∧ r.presses = none ∧
      r.enrolls true = if r = .preEnroll then some true else none := by
  cases r with
  | preEnroll => exact ⟨rfl, rfl, rfl⟩
  | enroll hat gid timeoutSec => exact ⟨rfl, rfl, rfl⟩
  | _ => contradiction

theorem EnrolmentFails.absent (hfails : s.EnrolmentFails env r)
    (hoplus : s.mOplusBiometricsFingerprint = false) : s.request env r = s := by
  cases r with
  | preEnroll => simp [request, preEnroll, ensureOplusHal, hoplus]
  | enroll hat gid timeoutSec =>
      simp [request, enroll, ensureOplusHal, hoplus]
  | _ => contradiction

theorem EnrolmentFails.present (hfails : s.EnrolmentFails env r)
    (hoplus : s.mOplusBiometricsFingerprint = true) :
    (s.request env r).isEnrolling =
        (if r = .preEnroll then true else s.isEnrolling) ∧
      (s.request env r).dimlayer_hbm =
        (if env.dimlayerWritable then 1 else s.dimlayer_hbm) ∧
      (s.request env r).notify_fppress = s.notify_fppress := by
  rcases hfails.lights with ⟨hlights, hpresses, henrolls⟩
  have heffect := request_effect env s r
  have hflag := heffect.isEnrolling
  have hlight := heffect.dimlayer_hbm
  have hpress := heffect.notify_fppress
  simp only [HalEvent.enrolls, HalEvent.lights, HalEvent.presses, hoplus,
    hlights, hpresses, henrolls] at hflag hlight hpress
  refine ⟨?_, ?_, ?_⟩
  · rw [hflag]
    split_ifs
    · rfl
    · rfl
  · simpa using hlight
  · simpa using hpress

theorem samePanel_iff (hfails : s.EnrolmentFails env r)
    (hoplus : s.mOplusBiometricsFingerprint = true) :
    s.SamePanel (s.request env r) ↔ s.AlreadySet env r := by
  rcases hfails.present hoplus with ⟨hflag, hlight, hpress⟩
  unfold SamePanel AlreadySet
  rw [hflag, hlight, hpress]
  constructor
  · rintro ⟨henrolling, hlit, _⟩
    constructor
    · intro hpre
      rw [if_pos hpre] at henrolling
      exact henrolling.symm
    · intro hwritable
      rw [if_pos hwritable] at hlit
      exact hlit.symm
  · rintro ⟨henrolling, hlit⟩
    refine ⟨?_, ?_, rfl⟩
    · split_ifs with hpre
      · exact (henrolling hpre).symm
      · rfl
    · split_ifs with hwritable
      · exact (hlit hwritable).symm
      · rfl

/-- Without the vendor service a failed request changes nothing.  With it the
press stays as it was, `preEnroll` leaves the flag set, and the panel is lit
if it can be; so it is all as before exactly if it was so before. -/
theorem failed_enrolment (s : BiometricsFingerprint) (env : HalEnv)
    (r : HalRequest) (hfails : s.EnrolmentFails env r) :
    (s.mOplusBiometricsFingerprint = false → s.request env r = s) ∧
    (s.mOplusBiometricsFingerprint = true →
      (s.request env r).isEnrolling =
          (if r = .preEnroll then true else s.isEnrolling) ∧
        (s.request env r).dimlayer_hbm =
          (if env.dimlayerWritable then 1 else s.dimlayer_hbm) ∧
        (s.request env r).notify_fppress = s.notify_fppress ∧
        (s.SamePanel (s.request env r) ↔ s.AlreadySet env r)) := by
  refine ⟨hfails.absent, fun hoplus => ?_⟩
  rcases hfails.present hoplus with ⟨hflag, hlight, hpress⟩
  exact ⟨hflag, hlight, hpress, samePanel_iff hfails hoplus⟩

def HalEnv.noChallenge : HalEnv :=
  { HalEnv.plain with
    oplus := { HalEnv.plain.oplus with preEnroll := .ok 0 } }

theorem failed_enrolment_noChallenge :
    (constructed true none 0 0).EnrolmentFails HalEnv.noChallenge .preEnroll ∧
      ((constructed true none 0 0).SamePanel
          ((constructed true none 0 0).request HalEnv.noChallenge .preEnroll) ↔
        (constructed true none 0 0).AlreadySet HalEnv.noChallenge
          .preEnroll) :=
  have hfails : (constructed true none 0 0).EnrolmentFails HalEnv.noChallenge
      .preEnroll := Or.inr rfl
  ⟨hfails, ((failed_enrolment _ _ _ hfails).2 rfl).2.2.2⟩

theorem panel_left_by_failed_preEnroll :
    ¬ ∀ (oplus : Bool) (helper : Option UdfpsHelper)
      (dimlayer_hbm notify_fppress : ℕ) (inputs : List HalInput)
      (env : HalEnv) (r : HalRequest),
      ((constructed oplus helper dimlayer_hbm notify_fppress).run
          inputs).EnrolmentFails env r →
        ((constructed oplus helper dimlayer_hbm notify_fppress).run
          inputs).SamePanel
          (((constructed oplus helper dimlayer_hbm notify_fppress).run
            inputs).request env r) := by
  intro hclaim
  have hsame := hclaim true none 0 0 [] HalEnv.noChallenge .preEnroll
    (Or.inr rfl)
  have hflag := hsame.1
  contradiction

end BiometricsFingerprint

end Samurai
