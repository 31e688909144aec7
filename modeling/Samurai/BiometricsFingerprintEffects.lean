import Samurai.BiometricsFingerprintModel

/-!
# What one event does

For every event these are the value it gives to `isEnrolling`, the values it
writes to the two nodes and the status it tells the helper, if any.  The
handlers are compared with this table once, and the invariants of the HAL are
read off the table.
-/

namespace Samurai

/-! ## Requests and callbacks -/

@[simp] def HalRequest.enrolls (oplus : Bool) : HalRequest → Option Bool
  | .preEnroll => if oplus then some true else none
  | .postEnroll => if oplus then some false else none
  | .authenticate _ _ => if oplus then some false else none
  | _ => none

@[simp] def HalRequest.lights (oplus isEnrolling : Bool) :
    HalRequest → Option ℕ
  | .preEnroll => if oplus then some 1 else none
  | .enroll _ _ _ => if oplus then some 1 else none
  | .postEnroll => if oplus then some 0 else none
  | .cancel => if oplus && !isEnrolling then some 0 else none
  | .onFingerDown _ _ _ _ => if isEnrolling then none else some 1
  | .onFingerUp => if isEnrolling then none else some 0
  | .setNotify _ | .getAuthenticatorId | .enumerate | .remove _ _
  | .setActiveGroup _ _ | .authenticate _ _ | .isUdfps _ => none

@[simp] def HalRequest.presses : HalRequest → Option ℕ
  | .onFingerDown _ _ _ _ => some 1
  | .onFingerUp => some 0
  | .setNotify _ | .preEnroll | .enroll _ _ _ | .postEnroll
  | .getAuthenticatorId | .cancel | .enumerate | .remove _ _
  | .setActiveGroup _ _ | .authenticate _ _ | .isUdfps _ => none

@[simp] def VendorCallback.lights (isEnrolling : Bool) :
    VendorCallback → Option ℕ
  | .onAuthenticated _ fingerId _ _ => if fingerId ≠ 0 then some 0 else none
  | .onError _ _ _ => if isEnrolling then none else some 0
  | _ => none

@[simp] def VendorCallback.presses : VendorCallback → Option ℕ
  | .onAuthenticated _ _ _ _ => some 0
  | .onError _ _ _ => some 0
  | _ => none

@[simp] def VendorCallback.touches : VendorCallback → Option Bool
  | .onEnrollResult _ _ _ _ => some false
  | .onAuthenticated _ _ _ _ => some false
  | .onFingerprintCmd cmdId _ _ =>
      if cmdId = FINGERPRINT_CALLBACK_CMD_ID_ON_TOUCH_DOWN then some true
      else if cmdId = FINGERPRINT_CALLBACK_CMD_ID_ON_TOUCH_UP then some false
      else none
  | _ => none

/-! ## Events -/

@[simp] def HalEvent.enrolls (oplus : Bool) : HalEvent → Option Bool
  | .request r => r.enrolls oplus
  | .callback _ => none

@[simp] def HalEvent.lights (oplus isEnrolling : Bool) : HalEvent → Option ℕ
  | .request r => r.lights oplus isEnrolling
  | .callback c => c.lights isEnrolling

@[simp] def HalEvent.presses : HalEvent → Option ℕ
  | .request r => r.presses
  | .callback c => c.presses

@[simp] def HalEvent.touches : HalEvent → Option Bool
  | .request _ => none
  | .callback c => c.touches

def HalEnv.plain : HalEnv where
  oplus :=
    { setNotify := .ok 1
      preEnroll := .ok 1
      enroll := .ok .SYS_OK
      postEnroll := .ok .SYS_OK
      getAuthenticatorId := .ok 1
      cancel := .ok .SYS_OK
      enumerate := .ok .SYS_OK
      remove := .ok .SYS_OK
      setActiveGroup := .ok .SYS_OK
      authenticate := .ok .SYS_OK
      isUdfps := .ok true
      onFingerDown := Void
      onFingerUp := Void }
  client := Void
  dimlayerWritable := true
  fppressWritable := true
  version := ""

def HalInput.asked (r : HalRequest) : HalInput :=
  ⟨.plain, .request r⟩

def HalInput.calledBack (c : VendorCallback) : HalInput :=
  ⟨.plain, .callback c⟩

namespace BiometricsFingerprint

variable {s t : BiometricsFingerprint} {input : HalInput}

/-- `t` is what `input` makes of `s`, apart from clients, calls and the order
of the writes. -/
structure Effect (s : BiometricsFingerprint) (input : HalInput)
    (t : BiometricsFingerprint) : Prop where
  oplus : t.mOplusBiometricsFingerprint = s.mOplusBiometricsFingerprint
  isEnrolling : t.isEnrolling =
    (input.event.enrolls s.mOplusBiometricsFingerprint).getD s.isEnrolling
  dimlayer_hbm : t.dimlayer_hbm =
    if input.env.dimlayerWritable then
      (input.event.lights s.mOplusBiometricsFingerprint s.isEnrolling).getD
        s.dimlayer_hbm
    else s.dimlayer_hbm
  notify_fppress : t.notify_fppress =
    if input.env.fppressWritable then
      input.event.presses.getD s.notify_fppress
    else s.notify_fppress
  helper : t.mOplusUdfpsHelper = s.mOplusUdfpsHelper.map fun h =>
    { h with
      currentIsDownState := input.event.touches.getD h.currentIsDownState }

theorem setDimlayerHbm_eq (env : HalEnv) (value : ℕ)
    (s : BiometricsFingerprint) :
    s.setDimlayerHbm env value =
      { s with
        dimlayer_hbm := if env.dimlayerWritable then value else s.dimlayer_hbm
        writes := s.writes ++
          if env.dimlayerWritable then [(.dimlayerHbm, value)] else [] } := by
  unfold setDimlayerHbm
  split_ifs
  · rfl
  · rw [List.append_nil]

theorem setFpPress_eq (env : HalEnv) (value : ℕ) (s : BiometricsFingerprint) :
    s.setFpPress env value =
      { s with
        notify_fppress :=
          if env.fppressWritable then value else s.notify_fppress
        writes := s.writes ++
          if env.fppressWritable then [(.notifyFppress, value)] else [] } := by
  unfold setFpPress
  split_ifs
  · rfl
  · rw [List.append_nil]

theorem callClient_eq (c : VendorCallback) (env : HalEnv)
    (s : BiometricsFingerprint) :
    (s.callClient c env).2 =
      { s with
        calls := s.calls ++
          if s.mClientCallback.isSome then [.client c] else [] } := by
  rcases s with ⟨_, mClientCallback, _, _, _, _, _, _⟩
  cases mClientCallback with
  | none => simp [callClient]
  | some client => simp [callClient]

theorem forwardOplus_eq {α : Type} (r : HalRequest) (unavailable : α)
    (reply : Return α) (s : BiometricsFingerprint) :
    (s.forwardOplus r unavailable reply).2 =
      { s with
        calls := s.calls ++
          if s.mOplusBiometricsFingerprint then [.vendor r] else [] } := by
  rcases s with ⟨_, _, mOplusBiometricsFingerprint, _, _, _, _, _⟩
  cases mOplusBiometricsFingerprint with
  | false => simp [forwardOplus, ensureOplusHal]
  | true => simp [forwardOplus, ensureOplusHal, callOplus]

theorem effect_calls {env : HalEnv} {e : HalEvent}
    (calls : List OutgoingCall) (client : Option ℕ)
    (henrolls : ∀ oplus, e.enrolls oplus = none)
    (hlights : ∀ oplus isEnrolling, e.lights oplus isEnrolling = none)
    (hpresses : e.presses = none) (htouches : e.touches = none) :
    Effect s ⟨env, e⟩
      { s with mClientCallback := client, calls := calls } where
  oplus := rfl
  isEnrolling := by
    rw [henrolls]
    rfl
  dimlayer_hbm := by
    rw [hlights]
    simp
  notify_fppress := by
    rw [hpresses]
    simp
  helper := by
    rw [htouches]
    simp

theorem forwardOplus_effect {α : Type} {env : HalEnv} {r : HalRequest}
    {unavailable : α} {reply : Return α}
    (henrolls : ∀ oplus, (HalEvent.request r).enrolls oplus = none)
    (hlights : ∀ oplus isEnrolling,
      (HalEvent.request r).lights oplus isEnrolling = none)
    (hpresses : (HalEvent.request r).presses = none)
    (htouches : (HalEvent.request r).touches = none) :
    Effect s ⟨env, .request r⟩ (s.forwardOplus r unavailable reply).2 := by
  rw [forwardOplus_eq]
  exact effect_calls _ _ henrolls hlights hpresses htouches

theorem callClient_effect {env : HalEnv} {c : VendorCallback}
    (henrolls : ∀ oplus, (HalEvent.callback c).enrolls oplus = none)
    (hlights : ∀ oplus isEnrolling,
      (HalEvent.callback c).lights oplus isEnrolling = none)
    (hpresses : (HalEvent.callback c).presses = none)
    (htouches : (HalEvent.callback c).touches = none) :
    Effect s ⟨env, .callback c⟩ (s.callClient c env).2 := by
  rw [callClient_eq]
  exact effect_calls _ _ henrolls hlights hpresses htouches

theorem setNotify_effect (clientCallback : Option ℕ) (env : HalEnv)
    (s : BiometricsFingerprint) :
    Effect s ⟨env, .request (.setNotify clientCallback)⟩
      (s.setNotify clientCallback env).2 := by
  unfold setNotify ensureOplusHal
  cases hoplus : s.mOplusBiometricsFingerprint with
  | false => constructor <;> simp [hoplus]
  | true => constructor <;> simp [hoplus]

theorem preEnroll_effect (env : HalEnv) (s : BiometricsFingerprint) :
    Effect s ⟨env, .request .preEnroll⟩ (s.preEnroll env).2 := by
  unfold preEnroll ensureOplusHal callOplus
  cases hoplus : s.mOplusBiometricsFingerprint with
  | false => constructor <;> simp [hoplus]
  | true => constructor <;> simp [hoplus, setDimlayerHbm_eq]

theorem enroll_effect (hat : Vector UInt8 69) (gid timeoutSec : UInt32)
    (env : HalEnv) (s : BiometricsFingerprint) :
    Effect s ⟨env, .request (.enroll hat gid timeoutSec)⟩
      (s.enroll hat gid timeoutSec env).2 := by
  unfold enroll ensureOplusHal callOplus
  cases hoplus : s.mOplusBiometricsFingerprint with
  | false => constructor <;> simp [hoplus]
  | true => constructor <;> simp [hoplus, setDimlayerHbm_eq]

theorem postEnroll_effect (env : HalEnv) (s : BiometricsFingerprint) :
    Effect s ⟨env, .request .postEnroll⟩ (s.postEnroll env).2 := by
  unfold postEnroll ensureOplusHal callOplus
  cases hoplus : s.mOplusBiometricsFingerprint with
  | false => constructor <;> simp [hoplus]
  | true => constructor <;> simp [hoplus, setDimlayerHbm_eq]

theorem cancel_effect (env : HalEnv) (s : BiometricsFingerprint) :
    Effect s ⟨env, .request .cancel⟩ (s.cancel env).2 := by
  unfold cancel ensureOplusHal callOplus
  cases hoplus : s.mOplusBiometricsFingerprint with
  | false => constructor <;> simp [hoplus]
  | true =>
      cases henrolling : s.isEnrolling with
      | false => constructor <;> simp [hoplus, henrolling, setDimlayerHbm_eq]
      | true => constructor <;> simp [hoplus, henrolling]

theorem authenticate_effect (operationId : UInt64) (gid : UInt32)
    (env : HalEnv) (s : BiometricsFingerprint) :
    Effect s ⟨env, .request (.authenticate operationId gid)⟩
      (s.authenticate operationId gid env).2 := by
  unfold authenticate ensureOplusHal callOplus
  cases hoplus : s.mOplusBiometricsFingerprint with
  | false => constructor <;> simp [hoplus]
  | true => constructor <;> simp [hoplus]

theorem finger_effect {t : BiometricsFingerprint} {env : HalEnv}
    {r : HalRequest} {reply : Return Unit}
    (ht : Effect s ⟨env, .request r⟩ t) :
    Effect s ⟨env, .request r⟩
      (if isUff env || !t.ensureOplusHal then (Void, t)
        else t.callOplus r reply).2 := by
  split_ifs with hskip
  · exact ht
  · exact
      { oplus := ht.oplus
        isEnrolling := ht.isEnrolling
        dimlayer_hbm := ht.dimlayer_hbm
        notify_fppress := ht.notify_fppress
        helper := ht.helper }

theorem onFingerDown_effect (x y minor major : UInt32) (env : HalEnv)
    (s : BiometricsFingerprint) :
    Effect s ⟨env, .request (.onFingerDown x y minor major)⟩
      (s.onFingerDown x y minor major env).2 := by
  apply finger_effect
  cases henrolling : s.isEnrolling with
  | false =>
      constructor <;> simp [henrolling, setDimlayerHbm_eq, setFpPress_eq]
  | true => constructor <;> simp [henrolling, setFpPress_eq]

theorem onFingerUp_effect (env : HalEnv) (s : BiometricsFingerprint) :
    Effect s ⟨env, .request .onFingerUp⟩ (s.onFingerUp env).2 := by
  apply finger_effect
  cases henrolling : s.isEnrolling with
  | false =>
      constructor <;> simp [henrolling, setDimlayerHbm_eq, setFpPress_eq]
  | true => constructor <;> simp [henrolling, setFpPress_eq]

theorem request_effect (env : HalEnv) (s : BiometricsFingerprint)
    (r : HalRequest) : Effect s ⟨env, .request r⟩ (s.request env r) := by
  cases r with
  | setNotify clientCallback => exact setNotify_effect clientCallback env s
  | preEnroll => exact preEnroll_effect env s
  | enroll hat gid timeoutSec => exact enroll_effect hat gid timeoutSec env s
  | postEnroll => exact postEnroll_effect env s
  | cancel => exact cancel_effect env s
  | authenticate operationId gid =>
      exact authenticate_effect operationId gid env s
  | onFingerDown x y minor major =>
      exact onFingerDown_effect x y minor major env s
  | onFingerUp => exact onFingerUp_effect env s
  | _ => exact forwardOplus_effect (fun _ => rfl) (fun _ _ => rfl) rfl rfl

theorem onEnrollResult_effect (deviceId : UInt64)
    (fingerId groupId remaining : UInt32) (env : HalEnv)
    (s : BiometricsFingerprint) :
    Effect s
      ⟨env, .callback (.onEnrollResult deviceId fingerId groupId remaining)⟩
      (s.onEnrollResult deviceId fingerId groupId remaining env).2 := by
  unfold onEnrollResult helperTouchUp UdfpsHelper.touchUp
  rw [callClient_eq]
  constructor <;> simp

theorem onAuthenticated_effect (deviceId : UInt64)
    (fingerId groupId : UInt32) (token : List UInt8) (env : HalEnv)
    (s : BiometricsFingerprint) :
    Effect s
      ⟨env, .callback (.onAuthenticated deviceId fingerId groupId token)⟩
      (s.onAuthenticated deviceId fingerId groupId token env).2 := by
  unfold onAuthenticated helperTouchUp UdfpsHelper.touchUp
  simp only [callClient_eq]
  by_cases hfinger : fingerId = 0
  · constructor <;> simp [hfinger, setFpPress_eq]
  · constructor <;> simp [hfinger, setFpPress_eq, setDimlayerHbm_eq]

theorem onError_effect (deviceId : UInt64) (error vendorCode : Int32)
    (env : HalEnv) (s : BiometricsFingerprint) :
    Effect s ⟨env, .callback (.onError deviceId error vendorCode)⟩
      (s.onError deviceId error vendorCode env).2 := by
  unfold onError
  simp only [callClient_eq]
  cases henrolling : s.isEnrolling with
  | false =>
      constructor <;> simp [henrolling, setDimlayerHbm_eq, setFpPress_eq]
  | true => constructor <;> simp [henrolling, setFpPress_eq]

theorem onFingerprintCmd_effect (cmdId : Int32) (result : List UInt32)
    (resultLen : UInt32) (env : HalEnv) (s : BiometricsFingerprint) :
    Effect s ⟨env, .callback (.onFingerprintCmd cmdId result resultLen)⟩
      (s.onFingerprintCmd cmdId).2 := by
  unfold onFingerprintCmd
  cases hhelper : s.mOplusUdfpsHelper with
  | none => constructor <;> simp [hhelper]
  | some h =>
      simp only
      split_ifs with hdown hup
      · constructor <;>
          simp [hhelper, hdown, helperTouchDown, UdfpsHelper.touchDown]
      · subst hup
        constructor <;>
          simp [hhelper, hdown, helperTouchUp, UdfpsHelper.touchUp]
      · constructor <;> simp [hhelper, hdown, hup]

theorem callback_effect (env : HalEnv) (s : BiometricsFingerprint)
    (c : VendorCallback) : Effect s ⟨env, .callback c⟩ (s.callback env c) := by
  cases c with
  | onEnrollResult deviceId fingerId groupId remaining =>
      exact onEnrollResult_effect deviceId fingerId groupId remaining env s
  | onAuthenticated deviceId fingerId groupId token =>
      exact onAuthenticated_effect deviceId fingerId groupId token env s
  | onError deviceId error vendorCode =>
      exact onError_effect deviceId error vendorCode env s
  | onFingerprintCmd cmdId result resultLen =>
      exact onFingerprintCmd_effect cmdId result resultLen env s
  | onEngineeringInfoUpdated lenth keys values =>
      exact effect_calls s.calls s.mClientCallback
        (fun _ => rfl) (fun _ _ => rfl) rfl rfl
  | _ => exact callClient_effect (fun _ => rfl) (fun _ _ => rfl) rfl rfl

theorem handle_effect (s : BiometricsFingerprint) (input : HalInput) :
    Effect s input (s.handle input) := by
  rcases input with ⟨env, event⟩
  cases event with
  | request r => exact request_effect env s r
  | callback c => exact callback_effect env s c

end BiometricsFingerprint

end Samurai
