import Samurai.BiometricsFingerprintEffects
import Samurai.LabelledRuns

/-!
# The panel during enrolment and after it

The HAL keeps the panel lit for a whole enrolment and otherwise from a finger
going down to its going up.  Two handlers break this.  `authenticate` ends an
enrolment that nobody ended, as its comment says, but unlike `postEnroll` it
leaves the panel lit.  And `onAuthenticated` turns the panel off without
looking at `isEnrolling`, as `cancel`, `onFingerUp` and `onError` do.

Both are exact: as long as the other assumptions hold, a run keeps the panel
right if and only if it has no step of that kind.
-/

namespace Samurai

open BiometricsFingerprint

/-- The HAL, and whether the last finger that went down is still down. -/
structure Observed where
  hal : BiometricsFingerprint
  fingerDown : Bool

def HalEvent.fingers : HalEvent → Option Bool
  | .request (.onFingerDown _ _ _ _) => some true
  | .request .onFingerUp => some false
  | _ => none

namespace Observed

def observe (o : Observed) (input : HalInput) : Observed where
  hal := o.hal.handle input
  fingerDown := input.event.fingers.getD o.fingerDown

def machine : Machine Observed HalInput where
  Initial o := ∃ oplus helper dimlayer_hbm notify_fppress,
    o = ⟨constructed oplus helper dimlayer_hbm notify_fppress, false⟩
  step o input := some (o.observe input)

def Present (o : Observed) : Prop :=
  o.hal.mOplusBiometricsFingerprint = true

/-- Without an enrolment and without a finger the panel is dark. -/
def NotLeaked (o : Observed) : Prop :=
  o.hal.isEnrolling = false → o.fingerDown = false → o.hal.dimlayer_hbm = 0

def LitWhileEnrolling (o : Observed) : Prop :=
  o.hal.isEnrolling = true → o.hal.dimlayer_hbm = 1

def WritesSucceed (_ : Observed) (input : HalInput) : Prop :=
  input.env.dimlayerWritable = true ∧ input.env.fppressWritable = true

def EnrollsInTurn (o : Observed) (input : HalInput) : Prop :=
  ∀ hat gid timeoutSec,
    input.event = .request (.enroll hat gid timeoutSec) →
      o.hal.isEnrolling = true

/-- `authenticate` does not end an enrolment with the panel lit and no finger
down. -/
def EndsDark (o : Observed) (input : HalInput) : Prop :=
  ∀ operationId gid,
    input.event = .request (.authenticate operationId gid) →
      o.hal.isEnrolling = false ∨ o.fingerDown = true ∨
        o.hal.dimlayer_hbm = 0

def NoMatchEnrolling (o : Observed) (input : HalInput) : Prop :=
  ∀ deviceId fingerId groupId token,
    input.event =
        .callback (.onAuthenticated deviceId fingerId groupId token) →
      fingerId ≠ 0 → o.hal.isEnrolling = false

variable {o : Observed} {input : HalInput} {inputs : List HalInput}

theorem present_observe (ho : o.Present) : (o.observe input).Present := by
  have heffect := handle_effect o.hal input
  exact heffect.oplus.trans ho

theorem present_along (ho : o.Present) :
    machine.Along (fun o _ => o.Present) o inputs := by
  have halways : machine.Always Present o inputs := by
    apply Machine.Along.always (P := fun _ _ => True) _ ho
      Machine.along_true
    intro o input t ho _ hstep
    cases hstep
    exact present_observe ho
  exact halways.along

/-- The two observed parts after an event, when the vendor service is there
and writes succeed. -/
theorem panel_after (ho : o.Present) (hwrites : WritesSucceed o input) :
    (o.observe input).hal.isEnrolling =
        (input.event.enrolls true).getD o.hal.isEnrolling ∧
      (o.observe input).hal.dimlayer_hbm =
        (input.event.lights true o.hal.isEnrolling).getD
          o.hal.dimlayer_hbm := by
  have heffect := handle_effect o.hal input
  have hisEnrolling := heffect.isEnrolling
  have hdimlayer := heffect.dimlayer_hbm
  rw [show o.hal.mOplusBiometricsFingerprint = true from ho] at hisEnrolling
  rw [show o.hal.mOplusBiometricsFingerprint = true from ho,
    if_pos hwrites.1] at hdimlayer
  exact ⟨hisEnrolling, hdimlayer⟩

theorem endsDark_of_ne (hevent : ∀ operationId gid,
    input.event ≠ .request (.authenticate operationId gid)) :
    EndsDark o input := by
  intro operationId gid hauthenticate
  exact absurd hauthenticate (hevent operationId gid)

theorem notLeaked_iff_authenticate {env : HalEnv} {operationId : UInt64}
    {gid : UInt32} (ho : o.NotLeaked) (hpresent : o.Present)
    (hwrites : WritesSucceed o
      ⟨env, .request (.authenticate operationId gid)⟩) :
    (o.observe ⟨env, .request (.authenticate operationId gid)⟩).NotLeaked ↔
      EndsDark o ⟨env, .request (.authenticate operationId gid)⟩ := by
  have hafter := panel_after hpresent hwrites
  simp only [HalEvent.enrolls, HalRequest.enrolls, HalEvent.lights,
    HalRequest.lights, if_true, Option.getD_some, Option.getD_none] at hafter
  constructor
  · intro hafterwards operationId' gid' hevent
    by_cases hfinger : o.fingerDown = true
    · exact .inr (.inl hfinger)
    · have hup : o.fingerDown = false := by simpa using hfinger
      have hdark := hafterwards hafter.1 hup
      rw [hafter.2] at hdark
      exact .inr (.inr hdark)
  · intro hends _ hup
    rw [hafter.2]
    rcases hends operationId gid rfl with hidle | hdown | hdark
    · exact ho hidle hup
    · have hup' : o.fingerDown = false := hup
      rw [hdown] at hup'
      contradiction
    · exact hdark

theorem notLeaked_observe (ho : o.NotLeaked) (hpresent : o.Present)
    (hwrites : WritesSucceed o input) (hturn : EnrollsInTurn o input)
    (hevent : ∀ operationId gid,
      input.event ≠ .request (.authenticate operationId gid)) :
    (o.observe input).NotLeaked := by
  have hafter := panel_after hpresent hwrites
  intro hidle hup
  rw [hafter.1] at hidle
  rw [hafter.2]
  rcases input with ⟨env, event⟩
  cases event with
  | request r =>
      cases r with
      | preEnroll => simp at hidle
      | enroll hat gid timeoutSec =>
          have henrolling := hturn hat gid timeoutSec rfl
          simp [henrolling] at hidle
      | postEnroll => simp
      | cancel =>
          have hidle' : o.hal.isEnrolling = false := by simpa using hidle
          simp [hidle']
      | authenticate operationId gid => exact absurd rfl (hevent operationId gid)
      | onFingerDown x y minor major =>
          have hdown : true = false := hup
          contradiction
      | onFingerUp =>
          have hidle' : o.hal.isEnrolling = false := by simpa using hidle
          simp [hidle']
      | _ => exact ho hidle hup
  | callback c =>
      cases c with
      | onAuthenticated deviceId fingerId groupId token =>
          by_cases hfinger : fingerId = 0
          · subst hfinger
            exact ho hidle hup
          · simp [hfinger]
      | onError deviceId error vendorCode =>
          have hidle' : o.hal.isEnrolling = false := by simpa using hidle
          simp [hidle']
      | _ => exact ho hidle hup

theorem notLeaked_iff (ho : o.NotLeaked) (hpresent : o.Present)
    (hwrites : WritesSucceed o input) (hturn : EnrollsInTurn o input) :
    (o.observe input).NotLeaked ↔ EndsDark o input := by
  by_cases hevent : ∃ operationId gid,
      input.event = .request (.authenticate operationId gid)
  · rcases input with ⟨env, event⟩
    rcases hevent with ⟨operationId, gid, hauthenticate⟩
    cases hauthenticate
    exact notLeaked_iff_authenticate ho hpresent hwrites
  · push Not at hevent
    constructor
    · intro _
      exact endsDark_of_ne hevent
    · intro _
      exact notLeaked_observe ho hpresent hwrites hturn hevent

/-! ## During an enrolment -/

theorem noMatchEnrolling_of_ne
    (hevent : ∀ deviceId fingerId groupId token,
      input.event ≠
        .callback (.onAuthenticated deviceId fingerId groupId token)) :
    NoMatchEnrolling o input := by
  intro deviceId fingerId groupId token hmatch
  exact absurd hmatch (hevent deviceId fingerId groupId token)

theorem lit_iff_onAuthenticated {env : HalEnv} {deviceId : UInt64}
    {fingerId groupId : UInt32} {token : List UInt8}
    (ho : o.LitWhileEnrolling) (hpresent : o.Present)
    (hwrites : WritesSucceed o ⟨env,
      .callback (.onAuthenticated deviceId fingerId groupId token)⟩) :
    (o.observe ⟨env, .callback
      (.onAuthenticated deviceId fingerId groupId token)⟩).LitWhileEnrolling ↔
      NoMatchEnrolling o ⟨env,
        .callback (.onAuthenticated deviceId fingerId groupId token)⟩ := by
  have hafter := panel_after hpresent hwrites
  unfold LitWhileEnrolling
  rw [hafter.1, hafter.2]
  by_cases hfinger : fingerId = 0
  · subst hfinger
    constructor
    · intro _ _ fingerId' _ _ hevent hne
      cases hevent
      exact absurd rfl hne
    · intro _
      exact ho
  · constructor
    · intro hlit _ _ _ _ hevent _
      cases hevent
      by_contra henrolling
      have hdark := hlit (by simpa using henrolling)
      simp [hfinger] at hdark
    · intro hidle henrolling
      have hidle' := hidle deviceId fingerId groupId token rfl hfinger
      simp [hidle'] at henrolling

theorem lit_observe (ho : o.LitWhileEnrolling) (hpresent : o.Present)
    (hwrites : WritesSucceed o input)
    (hevent : ∀ deviceId fingerId groupId token,
      input.event ≠
        .callback (.onAuthenticated deviceId fingerId groupId token)) :
    (o.observe input).LitWhileEnrolling := by
  have hafter := panel_after hpresent hwrites
  intro henrolling
  rw [hafter.1] at henrolling
  rw [hafter.2]
  rcases input with ⟨env, event⟩
  cases event with
  | request r =>
      cases r with
      | preEnroll => simp
      | enroll hat gid timeoutSec => simp
      | postEnroll => simp at henrolling
      | authenticate operationId gid => simp at henrolling
      | cancel =>
          have henrolling' : o.hal.isEnrolling = true := by
            simpa using henrolling
          simpa [henrolling'] using ho henrolling'
      | onFingerDown x y minor major =>
          have henrolling' : o.hal.isEnrolling = true := by
            simpa using henrolling
          simpa [henrolling'] using ho henrolling'
      | onFingerUp =>
          have henrolling' : o.hal.isEnrolling = true := by
            simpa using henrolling
          simpa [henrolling'] using ho henrolling'
      | _ => exact ho henrolling
  | callback c =>
      cases c with
      | onAuthenticated deviceId fingerId groupId token =>
          exact absurd rfl (hevent deviceId fingerId groupId token)
      | onError deviceId error vendorCode =>
          have henrolling' : o.hal.isEnrolling = true := by
            simpa using henrolling
          simpa [henrolling'] using ho henrolling'
      | _ => exact ho henrolling

theorem lit_iff (ho : o.LitWhileEnrolling) (hpresent : o.Present)
    (hwrites : WritesSucceed o input) :
    (o.observe input).LitWhileEnrolling ↔ NoMatchEnrolling o input := by
  by_cases hevent : ∃ deviceId fingerId groupId token,
      input.event =
        .callback (.onAuthenticated deviceId fingerId groupId token)
  · rcases input with ⟨env, event⟩
    rcases hevent with ⟨deviceId, fingerId, groupId, token, hmatch⟩
    cases hmatch
    exact lit_iff_onAuthenticated ho hpresent hwrites
  · push Not at hevent
    constructor
    · intro _
      exact noMatchEnrolling_of_ne hevent
    · intro _
      exact lit_observe ho hpresent hwrites hevent

/-! ## Whole runs -/

def started (helper : Option UdfpsHelper) (dimlayer_hbm notify_fppress : ℕ) :
    Observed where
  hal := constructed true helper dimlayer_hbm notify_fppress
  fingerDown := false

/-- With `enroll` in turn and writes that succeed, a run from a dark panel
never leaks if and only if no `authenticate` in it ends an enrolment with the
panel lit and no finger down. -/
theorem notLeaked_iff_endsDark
    (helper : Option UdfpsHelper) (notify_fppress : ℕ)
    (inputs : List HalInput)
    (hok : machine.Along
      (fun o input => WritesSucceed o input ∧ EnrollsInTurn o input)
      (started helper 0 notify_fppress) inputs) :
    machine.Always NotLeaked (started helper 0 notify_fppress) inputs ↔
      machine.Along EndsDark (started helper 0 notify_fppress) inputs := by
  have hpresent : (started helper 0 notify_fppress).Present := rfl
  apply Machine.always_iff_along _ _ _ ((present_along hpresent).and hok)
  · intro o input t ho hassumed hstep
    cases hstep
    exact notLeaked_iff ho hassumed.1 hassumed.2.1 hassumed.2.2
  · intro o input _
    exact ⟨_, rfl⟩
  · intro _ _
    rfl

/-- With writes that succeed the panel is lit in every state of every
enrolment if and only if no finger is recognised during one. -/
theorem lit_iff_noMatchEnrolling
    (helper : Option UdfpsHelper) (dimlayer_hbm notify_fppress : ℕ)
    (inputs : List HalInput)
    (hok : machine.Along WritesSucceed
      (started helper dimlayer_hbm notify_fppress) inputs) :
    machine.Always LitWhileEnrolling
        (started helper dimlayer_hbm notify_fppress) inputs ↔
      machine.Along NoMatchEnrolling
        (started helper dimlayer_hbm notify_fppress) inputs := by
  have hpresent : (started helper dimlayer_hbm notify_fppress).Present := rfl
  apply Machine.always_iff_along _ _ _ ((present_along hpresent).and hok)
  · intro o input t ho hassumed hstep
    cases hstep
    exact lit_iff ho hassumed.1 hassumed.2
  · intro o input _
    exact ⟨_, rfl⟩
  · intro henrolling
    contradiction

/-! ## Short sessions -/

def enrolment : List HalInput :=
  [.asked .preEnroll, .asked (.enroll (Vector.replicate 69 0) 0 60),
    .calledBack (.onAuthenticated 1 0 0 []), .asked .postEnroll]

def abandonedEnrolment : List HalInput :=
  [.asked .preEnroll, .asked (.authenticate 1 0)]

def lateMatch : List HalInput :=
  [.asked .preEnroll, .calledBack (.onAuthenticated 1 7 0 [])]

def inTurn (o : Observed) (input : HalInput) : Bool :=
  input.env.dimlayerWritable && input.env.fppressWritable &&
    match input.event with
    | .request (.enroll _ _ _) => o.hal.isEnrolling
    | _ => true

def noLogin (_ : Observed) (input : HalInput) : Bool :=
  match input.event with
  | .request (.authenticate _ _) => false
  | _ => true

def noMatch (_ : Observed) (input : HalInput) : Bool :=
  match input.event with
  | .callback (.onAuthenticated _ fingerId _ _) => fingerId = 0
  | _ => true

theorem assumed_of_inTurn (hturn : o.inTurn input = true) :
    WritesSucceed o input ∧ EnrollsInTurn o input := by
  unfold inTurn at hturn
  rw [Bool.and_eq_true, Bool.and_eq_true] at hturn
  constructor
  · exact hturn.1
  · intro hat gid timeoutSec hevent
    have henrolling := hturn.2
    rw [hevent] at henrolling
    exact henrolling

theorem assumed_along (hcheck : machine.checkAlong inTurn o inputs = true) :
    machine.Along
      (fun o input => WritesSucceed o input ∧ EnrollsInTurn o input)
      o inputs :=
  Machine.along_of_check (fun _ _ => assumed_of_inTurn) hcheck

theorem panel_leaked_by_authenticate :
    ¬ ∀ inputs,
      machine.Along
        (fun o input => WritesSucceed o input ∧ EnrollsInTurn o input)
        (started none 0 0) inputs →
      machine.Always NotLeaked (started none 0 0) inputs := by
  intro hclaim
  have halways := hclaim abandonedEnrolment (assumed_along rfl)
  have hlast : NotLeaked
      (((started none 0 0).observe (.asked .preEnroll)).observe
        (.asked (.authenticate 1 0))) :=
    (halways.2 _ rfl).2 _ rfl
  have hdark := hlast rfl rfl
  contradiction

theorem notLeaked_of_enrolment :
    machine.Always NotLeaked (started none 0 0) enrolment := by
  apply (notLeaked_iff_endsDark none 0 enrolment (assumed_along rfl)).mpr
  apply Machine.along_of_check (p := noLogin) _ rfl
  intro o input hother operationId gid hevent
  unfold noLogin at hother
  rw [hevent] at hother
  contradiction

theorem panel_darkened_by_match :
    ¬ ∀ inputs, machine.Along WritesSucceed (started none 0 0) inputs →
      machine.Always LitWhileEnrolling (started none 0 0) inputs := by
  intro hclaim
  have hok : machine.Along WritesSucceed (started none 0 0) lateMatch :=
    (assumed_along rfl).mono fun _ _ h => h.1
  have halways := hclaim lateMatch hok
  have hlast : LitWhileEnrolling
      (((started none 0 0).observe (.asked .preEnroll)).observe
        (.calledBack (.onAuthenticated 1 7 0 []))) :=
    (halways.2 _ rfl).2 _ rfl
  have hlit := hlast rfl
  contradiction

theorem lit_of_enrolment :
    machine.Always LitWhileEnrolling (started none 0 0) enrolment := by
  have hok : machine.Along WritesSucceed (started none 0 0) enrolment :=
    (assumed_along rfl).mono fun _ _ h => h.1
  apply (lit_iff_noMatchEnrolling none 0 0 enrolment hok).mpr
  apply Machine.along_of_check (p := noMatch) _ rfl
  intro o input hother deviceId fingerId groupId token hevent hfinger
  unfold noMatch at hother
  rw [hevent] at hother
  exact absurd (of_decide_eq_true hother) hfinger

end Observed

end Samurai
