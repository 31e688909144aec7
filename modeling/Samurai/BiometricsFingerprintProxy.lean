import Samurai.BiometricsFingerprintEffects

/-!
# The HAL as a proxy

To the vendor service the HAL is the framework, and to the framework's client
it is the vendor service: what it passes on are the requests and callbacks as
they come, unchanged, each once and in order.  What it keeps to itself are the
requests when the vendor service is missing, the finger events of a sensor
that handles them on its own, and the callbacks without a client or without a
counterpart there.
-/

namespace Samurai

/-- What a request is answered with, by its type. -/
inductive HalReply where
  | number (value : Return UInt64)
  | status (value : Return RequestStatus)
  | flag (value : Return Bool)
  | void (value : Return Unit)
  deriving DecidableEq

namespace HalRequest

/-- The HAL registers itself in place of the client. -/
def outgoing : HalRequest → OutgoingCall
  | .setNotify _ => .vendorSetNotify
  | r => .vendor r

def isFinger : HalRequest → Bool
  | .onFingerDown _ _ _ _ | .onFingerUp => true
  | _ => false

/-- The answer without the vendor service. -/
def unavailable : HalRequest → HalReply
  | .setNotify _ | .preEnroll | .getAuthenticatorId => .number (.ok 0)
  | .isUdfps _ => .flag (.ok false)
  | .onFingerDown _ _ _ _ | .onFingerUp => .void Void
  | _ => .status (.ok kHwUnavailable)

end HalRequest

def OutgoingCall.toClient : OutgoingCall → Bool
  | .client _ => true
  | _ => false

/-- The vendor service's answer to a request. -/
def OplusReplies.answer (oplus : OplusReplies) : HalRequest → HalReply
  | .setNotify _ => .number oplus.setNotify
  | .preEnroll => .number oplus.preEnroll
  | .enroll _ _ _ => .status oplus.enroll
  | .postEnroll => .status oplus.postEnroll
  | .getAuthenticatorId => .number oplus.getAuthenticatorId
  | .cancel => .status oplus.cancel
  | .enumerate => .status oplus.enumerate
  | .remove _ _ => .status oplus.remove
  | .setActiveGroup _ _ => .status oplus.setActiveGroup
  | .authenticate _ _ => .status oplus.authenticate
  | .isUdfps _ => .flag oplus.isUdfps
  | .onFingerDown _ _ _ _ => .void oplus.onFingerDown
  | .onFingerUp => .void oplus.onFingerUp

/-- The callbacks that have a counterpart at the client. -/
def VendorCallback.hasCounterpart : VendorCallback → Bool
  | .onEngineeringInfoUpdated _ _ _ | .onFingerprintCmd _ _ _ => false
  | _ => true

namespace HalInput

/-- Whether the request reaches a vendor service that is there. -/
def passes (env : HalEnv) (r : HalRequest) : Bool :=
  !(r.isFinger && BiometricsFingerprint.isUff env)

def forwarded (oplus : Bool) (client : Option ℕ) (input : HalInput) :
    List OutgoingCall :=
  match input.event with
  | .request r => if oplus && passes input.env r then [r.outgoing] else []
  | .callback c =>
      if client.isSome && c.hasCounterpart then [.client c] else []

/-- What a vendor service that is there hears of an event. -/
def passedRequest (input : HalInput) : Option OutgoingCall :=
  match input.event with
  | .request r => if passes input.env r then some r.outgoing else none
  | .callback _ => none

def clientAfter (client : Option ℕ) (input : HalInput) : Option ℕ :=
  match input.event with
  | .request (.setNotify clientCallback) => clientCallback
  | _ => client

end HalInput

/-- What is passed on in a run. -/
def conversation (oplus : Bool) :
    Option ℕ → List HalInput → List OutgoingCall
  | _, [] => []
  | client, input :: inputs =>
      input.forwarded oplus client ++
        conversation oplus (input.clientAfter client) inputs

namespace BiometricsFingerprint

variable {s : BiometricsFingerprint} {env : HalEnv}

def reply (env : HalEnv) (s : BiometricsFingerprint) : HalRequest → HalReply
  | .setNotify clientCallback => .number (s.setNotify clientCallback env).1
  | .preEnroll => .number (s.preEnroll env).1
  | .enroll hat gid timeoutSec => .status (s.enroll hat gid timeoutSec env).1
  | .postEnroll => .status (s.postEnroll env).1
  | .getAuthenticatorId => .number (s.getAuthenticatorId env).1
  | .cancel => .status (s.cancel env).1
  | .enumerate => .status (s.enumerate env).1
  | .remove gid fid => .status (s.remove gid fid env).1
  | .setActiveGroup gid storePath =>
      .status (s.setActiveGroup gid storePath env).1
  | .authenticate operationId gid =>
      .status (s.authenticate operationId gid env).1
  | .isUdfps sensorID => .flag (s.isUdfps sensorID env).1
  | .onFingerDown x y minor major =>
      .void (s.onFingerDown x y minor major env).1
  | .onFingerUp => .void (s.onFingerUp env).1

/-- What one event changes of the proxy's part of the state. -/
structure PassedOn (s : BiometricsFingerprint) (input : HalInput)
    (t : BiometricsFingerprint) : Prop where
  oplus : t.mOplusBiometricsFingerprint = s.mOplusBiometricsFingerprint
  client : t.mClientCallback = input.clientAfter s.mClientCallback
  calls : t.calls = s.calls ++
    input.forwarded s.mOplusBiometricsFingerprint s.mClientCallback

/-- `t` differs from `s` in the panel, the helper and the enrolment only. -/
structure SameProxy (s t : BiometricsFingerprint) : Prop where
  oplus : t.mOplusBiometricsFingerprint = s.mOplusBiometricsFingerprint
  client : t.mClientCallback = s.mClientCallback
  calls : t.calls = s.calls

theorem SameProxy.refl (s : BiometricsFingerprint) : SameProxy s s :=
  ⟨rfl, rfl, rfl⟩

theorem SameProxy.setDimlayerHbm {t : BiometricsFingerprint}
    (hsame : SameProxy s t) (value : ℕ) :
    SameProxy s (t.setDimlayerHbm env value) := by
  rw [setDimlayerHbm_eq]
  exact ⟨hsame.oplus, hsame.client, hsame.calls⟩

theorem SameProxy.setFpPress {t : BiometricsFingerprint}
    (hsame : SameProxy s t) (value : ℕ) :
    SameProxy s (t.setFpPress env value) := by
  rw [setFpPress_eq]
  exact ⟨hsame.oplus, hsame.client, hsame.calls⟩

theorem SameProxy.ite {t u : BiometricsFingerprint} {p : Prop} [Decidable p]
    (ht : SameProxy s t) (hu : SameProxy s u) :
    SameProxy s (if p then t else u) := by
  split_ifs
  · exact ht
  · exact hu

/-! ## Requests -/

/-- A request that is passed on and registers nobody. -/
theorem callOplus_passedOn {α : Type} {t : BiometricsFingerprint}
    {r : HalRequest} {answer : Return α} (hsame : SameProxy s t)
    (hoplus : s.mOplusBiometricsFingerprint = true)
    (hpasses : HalInput.passes env r = true) (hout : r.outgoing = .vendor r) :
    PassedOn s ⟨env, .request r⟩ (t.callOplus r answer).2 := by
  refine ⟨hsame.oplus, ?_, ?_⟩
  · cases r with
    | setNotify clientCallback => contradiction
    | _ => exact hsame.client
  · simp [callOplus, HalInput.forwarded, hoplus, hpasses, hout, hsame.calls]

/-- A request that is kept. -/
theorem kept_passedOn {t : BiometricsFingerprint} {r : HalRequest}
    (hsame : SameProxy s t)
    (hkept : (s.mOplusBiometricsFingerprint && HalInput.passes env r) = false)
    (hout : r.outgoing = .vendor r) :
    PassedOn s ⟨env, .request r⟩ t := by
  refine ⟨hsame.oplus, ?_, ?_⟩
  · cases r with
    | setNotify clientCallback => contradiction
    | _ => exact hsame.client
  · simp [HalInput.forwarded, hkept, hsame.calls]

theorem passes_of_not_finger {r : HalRequest} (hfinger : r.isFinger = false) :
    HalInput.passes env r = true := by
  simp [HalInput.passes, hfinger]

/-- A request that asks for the vendor service first. -/
theorem ensured_passedOn {α : Type} {t : BiometricsFingerprint}
    {r : HalRequest} {unavailable : α} {answer : Return α}
    (hsame : SameProxy s t) (hfinger : r.isFinger = false)
    (hout : r.outgoing = .vendor r) :
    PassedOn s ⟨env, .request r⟩
      (if !s.ensureOplusHal then (.ok unavailable, s)
        else t.callOplus r answer).2 := by
  cases hoplus : s.mOplusBiometricsFingerprint with
  | false =>
      simp only [ensureOplusHal, hoplus, Bool.not_false, if_true]
      exact kept_passedOn (.refl s) (by simp [hoplus]) hout
  | true =>
      simp only [ensureOplusHal, hoplus, Bool.not_true]
      exact callOplus_passedOn hsame hoplus (passes_of_not_finger hfinger) hout

/-- The two finger events. -/
theorem finger_passedOn {t : BiometricsFingerprint} {r : HalRequest}
    {answer : Return Unit} (hsame : SameProxy s t) (hfinger : r.isFinger = true)
    (hout : r.outgoing = .vendor r) :
    PassedOn s ⟨env, .request r⟩
      (if isUff env || !t.ensureOplusHal then (Void, t)
        else t.callOplus r answer).2 := by
  have hpasses : HalInput.passes env r = !isUff env := by
    simp [HalInput.passes, hfinger]
  have hthere : t.ensureOplusHal = s.mOplusBiometricsFingerprint := hsame.oplus
  rw [hthere]
  split_ifs with hkept
  · apply kept_passedOn hsame _ hout
    rw [hpasses]
    rcases Bool.or_eq_true_iff.mp hkept with huff | habsent
    · simp [huff]
    · have hnone : s.mOplusBiometricsFingerprint = false := by
        simpa using habsent
      simp [hnone]
  · simp only [Bool.or_eq_true, Bool.not_eq_true', not_or,
      Bool.not_eq_true, Bool.not_eq_false] at hkept
    apply callOplus_passedOn hsame hkept.2 _ hout
    simp [hpasses, hkept.1]

theorem setNotify_eq (clientCallback : Option ℕ) :
    s.setNotify clientCallback env =
      if s.mOplusBiometricsFingerprint then
        (env.oplus.setNotify,
          { s with
            mClientCallback := clientCallback
            calls := s.calls ++ [.vendorSetNotify] })
      else (.ok 0, { s with mClientCallback := clientCallback }) := by
  rcases s with ⟨_, _, mOplusBiometricsFingerprint, _, _, _, _, _⟩
  cases mOplusBiometricsFingerprint with
  | false => rfl
  | true => rfl

theorem setNotify_passedOn (clientCallback : Option ℕ) :
    PassedOn s ⟨env, .request (.setNotify clientCallback)⟩
      (s.setNotify clientCallback env).2 := by
  rw [setNotify_eq]
  split_ifs with hoplus
  · refine ⟨rfl, rfl, ?_⟩
    rw [HalInput.forwarded, hoplus]
    rfl
  · refine ⟨rfl, rfl, ?_⟩
    rw [HalInput.forwarded, Bool.eq_false_of_not_eq_true hoplus]
    exact (List.append_nil s.calls).symm

theorem request_passedOn (r : HalRequest) :
    PassedOn s ⟨env, .request r⟩ (s.request env r) := by
  cases r with
  | setNotify clientCallback => exact setNotify_passedOn clientCallback
  | preEnroll =>
      apply ensured_passedOn (SameProxy.setDimlayerHbm _ 1) rfl rfl
      exact ⟨rfl, rfl, rfl⟩
  | enroll hat gid timeoutSec =>
      exact ensured_passedOn ((SameProxy.refl s).setDimlayerHbm 1) rfl rfl
  | postEnroll =>
      apply ensured_passedOn (SameProxy.setDimlayerHbm _ 0) rfl rfl
      exact ⟨rfl, rfl, rfl⟩
  | cancel =>
      apply ensured_passedOn _ rfl rfl
      exact ((SameProxy.refl s).setDimlayerHbm 0).ite (.refl s)
  | authenticate operationId gid =>
      apply ensured_passedOn _ rfl rfl
      exact ⟨rfl, rfl, rfl⟩
  | onFingerDown x y minor major =>
      apply finger_passedOn _ rfl rfl
      apply SameProxy.setFpPress
      exact ((SameProxy.refl s).setDimlayerHbm 1).ite (.refl s)
  | onFingerUp =>
      apply finger_passedOn _ rfl rfl
      have hpress : SameProxy s (s.setFpPress env 0) :=
        (SameProxy.refl s).setFpPress 0
      exact (hpress.setDimlayerHbm 0).ite hpress
  | getAuthenticatorId | enumerate | remove _ _ | setActiveGroup _ _
  | isUdfps _ => exact ensured_passedOn (.refl s) rfl rfl

/-! ## Callbacks -/

theorem callClient_passedOn {t : BiometricsFingerprint} {c : VendorCallback}
    (hsame : SameProxy s t) (hcounterpart : c.hasCounterpart = true) :
    PassedOn s ⟨env, .callback c⟩ (t.callClient c env).2 := by
  rw [callClient_eq]
  refine ⟨hsame.oplus, hsame.client, ?_⟩
  simp [HalInput.forwarded, hcounterpart, hsame.calls, hsame.client]

theorem silent_passedOn {t : BiometricsFingerprint} {c : VendorCallback}
    (hsame : SameProxy s t) (hcounterpart : c.hasCounterpart = false) :
    PassedOn s ⟨env, .callback c⟩ t := by
  refine ⟨hsame.oplus, hsame.client, ?_⟩
  simp [HalInput.forwarded, hcounterpart, hsame.calls]

theorem sameProxy_onFingerprintCmd (cmdId : Int32) :
    SameProxy s (s.onFingerprintCmd cmdId).2 := by
  unfold onFingerprintCmd
  cases s.mOplusUdfpsHelper with
  | none => exact .refl s
  | some helper =>
      simp only
      split_ifs
      · exact ⟨rfl, rfl, rfl⟩
      · exact ⟨rfl, rfl, rfl⟩
      · exact .refl s

theorem callback_passedOn (c : VendorCallback) :
    PassedOn s ⟨env, .callback c⟩ (s.callback env c) := by
  cases c with
  | onEnrollResult deviceId fingerId groupId remaining =>
      apply callClient_passedOn _ rfl
      exact ⟨rfl, rfl, rfl⟩
  | onAuthenticated deviceId fingerId groupId token =>
      apply callClient_passedOn _ rfl
      have hpanel : SameProxy s
          ((if fingerId ≠ 0 then s.setDimlayerHbm env 0 else s).setFpPress
            env 0) :=
        (((SameProxy.refl s).setDimlayerHbm 0).ite (.refl s)).setFpPress 0
      exact ⟨hpanel.oplus, hpanel.client, hpanel.calls⟩
  | onError deviceId error vendorCode =>
      apply callClient_passedOn _ rfl
      have hpress : SameProxy s (s.setFpPress env 0) :=
        (SameProxy.refl s).setFpPress 0
      exact (hpress.setDimlayerHbm 0).ite hpress
  | onEngineeringInfoUpdated lenth keys values =>
      exact silent_passedOn (.refl s) rfl
  | onFingerprintCmd cmdId result resultLen =>
      exact silent_passedOn (sameProxy_onFingerprintCmd cmdId) rfl
  | onAcquired _ _ _ | onRemoved _ _ _ _ | onEnumerate _ _ _ _
  | onAcquired_2_2 _ _ _ => exact callClient_passedOn (.refl s) rfl

theorem handle_passedOn (input : HalInput) :
    PassedOn s input (s.handle input) := by
  obtain ⟨env, event⟩ := input
  cases event with
  | request r => exact request_passedOn r
  | callback c => exact callback_passedOn c

/-! ## Runs -/

theorem run_passedOn (inputs : List HalInput) (s : BiometricsFingerprint) :
    (inputs.foldl handle s).calls = s.calls ++
      conversation s.mOplusBiometricsFingerprint s.mClientCallback inputs := by
  induction inputs generalizing s with
  | nil => simp [conversation]
  | cons input inputs ih =>
      obtain ⟨hoplus, hclient, hcalls⟩ := handle_passedOn (s := s) input
      rw [List.foldl_cons, ih, hoplus, hclient, hcalls, conversation,
        List.append_assoc]

theorem run_oplus (inputs : List HalInput) (s : BiometricsFingerprint) :
    (inputs.foldl handle s).mOplusBiometricsFingerprint =
      s.mOplusBiometricsFingerprint := by
  induction inputs generalizing s with
  | nil => rfl
  | cons input inputs ih =>
      rw [List.foldl_cons, ih]
      exact (handle_passedOn input).oplus

/-! ## Replies -/

/-- The reply of a request, given how its type is wrapped. -/
theorem ensured_reply {α : Type} {t : BiometricsFingerprint} {r : HalRequest}
    {unavailable : α} {answer : Return α} (wrap : Return α → HalReply)
    (hfinger : r.isFinger = false)
    (hanswer : wrap answer = env.oplus.answer r)
    (hunavailable : wrap (.ok unavailable) = r.unavailable) :
    wrap (if !s.ensureOplusHal then (.ok unavailable, s)
        else t.callOplus r answer).1 =
      if s.mOplusBiometricsFingerprint && HalInput.passes env r then
        env.oplus.answer r
      else r.unavailable := by
  rw [passes_of_not_finger hfinger]
  cases hoplus : s.mOplusBiometricsFingerprint with
  | false => simpa [ensureOplusHal, hoplus] using hunavailable
  | true => simpa [ensureOplusHal, hoplus, callOplus] using hanswer

theorem finger_reply {t : BiometricsFingerprint} {r : HalRequest}
    {answer : Return Unit} (hsame : SameProxy s t) (hfinger : r.isFinger = true)
    (hanswer : .void answer = env.oplus.answer r)
    (hunavailable : .void Void = r.unavailable) :
    .void (if isUff env || !t.ensureOplusHal then (Void, t)
        else t.callOplus r answer).1 =
      if s.mOplusBiometricsFingerprint && HalInput.passes env r then
        env.oplus.answer r
      else r.unavailable := by
  have hthere : t.ensureOplusHal = s.mOplusBiometricsFingerprint := hsame.oplus
  rw [hthere]
  cases huff : isUff env with
  | true => simpa [HalInput.passes, hfinger, huff] using hunavailable
  | false =>
      cases hoplus : s.mOplusBiometricsFingerprint with
      | false => simpa using hunavailable
      | true =>
          simpa [HalInput.passes, hfinger, huff, callOplus] using hanswer

/-- A request is answered by the vendor service if it is passed on. -/
theorem reply_eq (r : HalRequest) :
    s.reply env r =
      if s.mOplusBiometricsFingerprint && HalInput.passes env r then
        env.oplus.answer r
      else r.unavailable := by
  cases r with
  | setNotify clientCallback =>
      have hpasses : HalInput.passes env (.setNotify clientCallback) = true :=
        passes_of_not_finger rfl
      rw [reply, setNotify_eq, hpasses, Bool.and_true]
      split_ifs
      · rfl
      · rfl
  | preEnroll | getAuthenticatorId => exact ensured_reply .number rfl rfl rfl
  | isUdfps sensorID => exact ensured_reply .flag rfl rfl rfl
  | onFingerDown x y minor major =>
      apply finger_reply _ rfl rfl rfl
      apply SameProxy.setFpPress
      exact ((SameProxy.refl s).setDimlayerHbm 1).ite (.refl s)
  | onFingerUp =>
      apply finger_reply _ rfl rfl rfl
      have hpress : SameProxy s (s.setFpPress env 0) :=
        (SameProxy.refl s).setFpPress 0
      exact (hpress.setDimlayerHbm 0).ite hpress
  | enroll | postEnroll | cancel | enumerate | remove | setActiveGroup
  | authenticate => exact ensured_reply .status rfl rfl rfl

/-! ## Both sides of the conversation -/

theorem outgoing_toClient (r : HalRequest) : r.outgoing.toClient = false := by
  cases r <;> rfl

theorem forwarded_vendor (client : Option ℕ) (input : HalInput) :
    (input.forwarded true client).filter (fun call => !call.toClient) =
      input.passedRequest.toList := by
  obtain ⟨env, event⟩ := input
  cases event with
  | request r =>
      simp only [HalInput.forwarded, HalInput.passedRequest, Bool.true_and]
      split_ifs
      · simp [outgoing_toClient]
      · simp
  | callback c =>
      simp only [HalInput.forwarded, HalInput.passedRequest]
      split_ifs
      · simp [OutgoingCall.toClient]
      · simp

/-- The vendor service's side. -/
theorem conversation_vendor (inputs : List HalInput) (client : Option ℕ) :
    (conversation true client inputs).filter (fun call => !call.toClient) =
      inputs.filterMap (·.passedRequest) := by
  induction inputs generalizing client with
  | nil => rfl
  | cons input inputs ih =>
      rw [conversation, List.filter_append, forwarded_vendor, ih]
      cases hpassed : input.passedRequest with
      | none => rw [List.filterMap_cons_none hpassed]; rfl
      | some call => rw [List.filterMap_cons_some hpassed]; rfl

end BiometricsFingerprint

end Samurai
