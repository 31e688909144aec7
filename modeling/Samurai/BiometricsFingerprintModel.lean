import Samurai.UdfpsHelperModel

/-!
# The fingerprint HAL

`BiometricsFingerprint` stands between the framework, the vendor service and
the framework's client.  Requests are forwarded to the vendor service and
callbacks to the client; on the way the HAL lights the panel through
`dimlayer_hbm`, announces presses through `notify_fppress` and passes touches
on to the helper service.

Requests and callbacks are handled one at a time.  Each comes with what its
surroundings answer: the replies of the vendor service and of the client,
whether each node can be written, and the property that names the sensor.
-/

namespace Samurai

inductive Return (α : Type) where
  | ok (value : α)
  | transportError
  deriving DecidableEq, Repr

inductive RequestStatus where
  | SYS_OK
  | SYS_EINVAL
  | other (code : ℤ)
  deriving DecidableEq, Repr

def kHwUnavailable : RequestStatus :=
  .SYS_EINVAL

def Void : Return Unit :=
  .ok ()

/-- The requests of the framework, with the bits of the two floats. -/
inductive HalRequest where
  | setNotify (clientCallback : Option ℕ)
  | preEnroll
  | enroll (hat : Vector UInt8 69) (gid timeoutSec : UInt32)
  | postEnroll
  | getAuthenticatorId
  | cancel
  | enumerate
  | remove (gid fid : UInt32)
  | setActiveGroup (gid : UInt32) (storePath : String)
  | authenticate (operationId : UInt64) (gid : UInt32)
  | isUdfps (sensorID : UInt32)
  | onFingerDown (x y minor major : UInt32)
  | onFingerUp
  deriving DecidableEq

inductive VendorCallback where
  | onEnrollResult (deviceId : UInt64) (fingerId groupId remaining : UInt32)
  | onAcquired (deviceId : UInt64) (acquiredInfo vendorCode : Int32)
  | onAuthenticated (deviceId : UInt64) (fingerId groupId : UInt32)
      (token : List UInt8)
  | onError (deviceId : UInt64) (error vendorCode : Int32)
  | onRemoved (deviceId : UInt64) (fingerId groupId remaining : UInt32)
  | onEnumerate (deviceId : UInt64) (fingerId groupId remaining : UInt32)
  | onAcquired_2_2 (deviceId : UInt64) (acquiredInfo vendorCode : Int32)
  | onEngineeringInfoUpdated (lenth : UInt32) (keys : List UInt32)
      (values : List String)
  | onFingerprintCmd (cmdId : Int32) (result : List UInt32)
      (resultLen : UInt32)
  deriving DecidableEq

def FINGERPRINT_CALLBACK_CMD_ID_ON_TOUCH_DOWN : Int32 := 1201
def FINGERPRINT_CALLBACK_CMD_ID_ON_TOUCH_UP : Int32 := 1202

structure OplusReplies where
  setNotify : Return UInt64
  preEnroll : Return UInt64
  enroll : Return RequestStatus
  postEnroll : Return RequestStatus
  getAuthenticatorId : Return UInt64
  cancel : Return RequestStatus
  enumerate : Return RequestStatus
  remove : Return RequestStatus
  setActiveGroup : Return RequestStatus
  authenticate : Return RequestStatus
  isUdfps : Return Bool
  onFingerDown : Return Unit
  onFingerUp : Return Unit

/-- The surroundings while one event is handled; `version` is the property
`persist.vendor.fingerprint.version`. -/
structure HalEnv where
  oplus : OplusReplies
  client : Return Unit
  dimlayerWritable : Bool
  fppressWritable : Bool
  version : String

inductive SysfsNode where
  | dimlayerHbm
  | notifyFppress
  deriving DecidableEq, Repr

/-- A call the HAL makes.  It registers itself with the vendor service in
place of the client. -/
inductive OutgoingCall where
  | vendorSetHalCallback
  | vendorSetNotify
  | vendor (request : HalRequest)
  | client (callback : VendorCallback)
  deriving DecidableEq

/-- The HAL and the two nodes.  `mOplusBiometricsFingerprint` says whether the
vendor service is there; `writes` and `calls` are the successful writes and
the calls made, in order. -/
structure BiometricsFingerprint where
  isEnrolling : Bool
  mClientCallback : Option ℕ
  mOplusBiometricsFingerprint : Bool
  mOplusUdfpsHelper : Option UdfpsHelper
  dimlayer_hbm : ℕ
  notify_fppress : ℕ
  writes : List (SysfsNode × ℕ)
  calls : List OutgoingCall

namespace BiometricsFingerprint

/-! ## Nodes and services -/

def setDimlayerHbm (env : HalEnv) (value : ℕ) (s : BiometricsFingerprint) :
    BiometricsFingerprint :=
  if env.dimlayerWritable then
    { s with
      dimlayer_hbm := value
      writes := s.writes ++ [(.dimlayerHbm, value)] }
  else s

def setFpPress (env : HalEnv) (value : ℕ) (s : BiometricsFingerprint) :
    BiometricsFingerprint :=
  if env.fppressWritable then
    { s with
      notify_fppress := value
      writes := s.writes ++ [(.notifyFppress, value)] }
  else s

def isUff (env : HalEnv) : Bool :=
  "UFF ".isPrefixOf env.version

def ensureOplusHal (s : BiometricsFingerprint) : Bool :=
  s.mOplusBiometricsFingerprint

def helperTouchDown (s : BiometricsFingerprint) : BiometricsFingerprint :=
  { s with
    mOplusUdfpsHelper := s.mOplusUdfpsHelper.map fun h => h.touchDown.2 }

def helperTouchUp (s : BiometricsFingerprint) : BiometricsFingerprint :=
  { s with mOplusUdfpsHelper := s.mOplusUdfpsHelper.map fun h => h.touchUp.2 }

def callOplus {α : Type} (request : HalRequest) (reply : Return α)
    (s : BiometricsFingerprint) : Return α × BiometricsFingerprint :=
  (reply, { s with calls := s.calls ++ [.vendor request] })

def forwardOplus {α : Type} (request : HalRequest) (unavailable : α)
    (reply : Return α) (s : BiometricsFingerprint) :
    Return α × BiometricsFingerprint :=
  if !s.ensureOplusHal then (.ok unavailable, s)
  else s.callOplus request reply

/-- The end of every callback that has a counterpart at the client. -/
def callClient (callback : VendorCallback) (env : HalEnv)
    (s : BiometricsFingerprint) : Return Unit × BiometricsFingerprint :=
  match s.mClientCallback with
  | none => (Void, s)
  | some _ => (env.client, { s with calls := s.calls ++ [.client callback] })

/-! ## Requests -/

def setNotify (clientCallback : Option ℕ) (env : HalEnv)
    (s : BiometricsFingerprint) : Return UInt64 × BiometricsFingerprint :=
  let s := { s with mClientCallback := clientCallback }
  if !s.ensureOplusHal then (.ok 0, s)
  else (env.oplus.setNotify, { s with calls := s.calls ++ [.vendorSetNotify] })

def preEnroll (env : HalEnv) (s : BiometricsFingerprint) :
    Return UInt64 × BiometricsFingerprint :=
  if !s.ensureOplusHal then (.ok 0, s)
  else
    let s := { s with isEnrolling := true }
    let s := s.setDimlayerHbm env 1
    s.callOplus .preEnroll env.oplus.preEnroll

def enroll (hat : Vector UInt8 69) (gid timeoutSec : UInt32) (env : HalEnv)
    (s : BiometricsFingerprint) : Return RequestStatus × BiometricsFingerprint :=
  if !s.ensureOplusHal then (.ok kHwUnavailable, s)
  else
    let s := s.setDimlayerHbm env 1
    s.callOplus (.enroll hat gid timeoutSec) env.oplus.enroll

def postEnroll (env : HalEnv) (s : BiometricsFingerprint) :
    Return RequestStatus × BiometricsFingerprint :=
  if !s.ensureOplusHal then (.ok kHwUnavailable, s)
  else
    let s := { s with isEnrolling := false }
    let s := s.setDimlayerHbm env 0
    s.callOplus .postEnroll env.oplus.postEnroll

def getAuthenticatorId (env : HalEnv) (s : BiometricsFingerprint) :
    Return UInt64 × BiometricsFingerprint :=
  s.forwardOplus .getAuthenticatorId 0 env.oplus.getAuthenticatorId

def cancel (env : HalEnv) (s : BiometricsFingerprint) :
    Return RequestStatus × BiometricsFingerprint :=
  if !s.ensureOplusHal then (.ok kHwUnavailable, s)
  else
    let s := if !s.isEnrolling then s.setDimlayerHbm env 0 else s
    s.callOplus .cancel env.oplus.cancel

def enumerate (env : HalEnv) (s : BiometricsFingerprint) :
    Return RequestStatus × BiometricsFingerprint :=
  s.forwardOplus .enumerate kHwUnavailable env.oplus.enumerate

def remove (gid fid : UInt32) (env : HalEnv) (s : BiometricsFingerprint) :
    Return RequestStatus × BiometricsFingerprint :=
  s.forwardOplus (.remove gid fid) kHwUnavailable env.oplus.remove

def setActiveGroup (gid : UInt32) (storePath : String) (env : HalEnv)
    (s : BiometricsFingerprint) : Return RequestStatus × BiometricsFingerprint :=
  s.forwardOplus (.setActiveGroup gid storePath) kHwUnavailable
    env.oplus.setActiveGroup

def authenticate (operationId : UInt64) (gid : UInt32) (env : HalEnv)
    (s : BiometricsFingerprint) : Return RequestStatus × BiometricsFingerprint :=
  if !s.ensureOplusHal then (.ok kHwUnavailable, s)
  else
    let s := { s with isEnrolling := false }
    s.callOplus (.authenticate operationId gid) env.oplus.authenticate

def isUdfps (sensorID : UInt32) (env : HalEnv) (s : BiometricsFingerprint) :
    Return Bool × BiometricsFingerprint :=
  s.forwardOplus (.isUdfps sensorID) false env.oplus.isUdfps

def onFingerDown (x y minor major : UInt32) (env : HalEnv)
    (s : BiometricsFingerprint) : Return Unit × BiometricsFingerprint :=
  let s := if !s.isEnrolling then s.setDimlayerHbm env 1 else s
  let s := s.setFpPress env 1
  if isUff env || !s.ensureOplusHal then (Void, s)
  else s.callOplus (.onFingerDown x y minor major) env.oplus.onFingerDown

def onFingerUp (env : HalEnv) (s : BiometricsFingerprint) :
    Return Unit × BiometricsFingerprint :=
  let s := s.setFpPress env 0
  let s := if !s.isEnrolling then s.setDimlayerHbm env 0 else s
  if isUff env || !s.ensureOplusHal then (Void, s)
  else s.callOplus .onFingerUp env.oplus.onFingerUp

/-! ## Callbacks -/

def onEnrollResult (deviceId : UInt64) (fingerId groupId remaining : UInt32)
    (env : HalEnv) (s : BiometricsFingerprint) :
    Return Unit × BiometricsFingerprint :=
  s.helperTouchUp.callClient
    (.onEnrollResult deviceId fingerId groupId remaining) env

def onAcquired (deviceId : UInt64) (acquiredInfo vendorCode : Int32)
    (env : HalEnv) (s : BiometricsFingerprint) :
    Return Unit × BiometricsFingerprint :=
  s.callClient (.onAcquired deviceId acquiredInfo vendorCode) env

def onAuthenticated (deviceId : UInt64) (fingerId groupId : UInt32)
    (token : List UInt8) (env : HalEnv) (s : BiometricsFingerprint) :
    Return Unit × BiometricsFingerprint :=
  let s := if fingerId ≠ 0 then s.setDimlayerHbm env 0 else s
  let s := s.setFpPress env 0
  s.helperTouchUp.callClient
    (.onAuthenticated deviceId fingerId groupId token) env

def onError (deviceId : UInt64) (error vendorCode : Int32) (env : HalEnv)
    (s : BiometricsFingerprint) : Return Unit × BiometricsFingerprint :=
  let s := s.setFpPress env 0
  let s := if !s.isEnrolling then s.setDimlayerHbm env 0 else s
  s.callClient (.onError deviceId error vendorCode) env

def onRemoved (deviceId : UInt64) (fingerId groupId remaining : UInt32)
    (env : HalEnv) (s : BiometricsFingerprint) :
    Return Unit × BiometricsFingerprint :=
  s.callClient (.onRemoved deviceId fingerId groupId remaining) env

def onEnumerate (deviceId : UInt64) (fingerId groupId remaining : UInt32)
    (env : HalEnv) (s : BiometricsFingerprint) :
    Return Unit × BiometricsFingerprint :=
  s.callClient (.onEnumerate deviceId fingerId groupId remaining) env

def onAcquired_2_2 (deviceId : UInt64) (acquiredInfo vendorCode : Int32)
    (env : HalEnv) (s : BiometricsFingerprint) :
    Return Unit × BiometricsFingerprint :=
  s.callClient (.onAcquired_2_2 deviceId acquiredInfo vendorCode) env

def onEngineeringInfoUpdated (s : BiometricsFingerprint) :
    Return Unit × BiometricsFingerprint :=
  (Void, s)

def onFingerprintCmd (cmdId : Int32) (s : BiometricsFingerprint) :
    Return Unit × BiometricsFingerprint :=
  match s.mOplusUdfpsHelper with
  | none => (Void, s)
  | some _ =>
      if cmdId = FINGERPRINT_CALLBACK_CMD_ID_ON_TOUCH_DOWN then
        (Void, s.helperTouchDown)
      else if cmdId = FINGERPRINT_CALLBACK_CMD_ID_ON_TOUCH_UP then
        (Void, s.helperTouchUp)
      else (Void, s)

/-! ## Events -/

def request (env : HalEnv) (s : BiometricsFingerprint) :
    HalRequest → BiometricsFingerprint
  | .setNotify clientCallback => (s.setNotify clientCallback env).2
  | .preEnroll => (s.preEnroll env).2
  | .enroll hat gid timeoutSec => (s.enroll hat gid timeoutSec env).2
  | .postEnroll => (s.postEnroll env).2
  | .getAuthenticatorId => (s.getAuthenticatorId env).2
  | .cancel => (s.cancel env).2
  | .enumerate => (s.enumerate env).2
  | .remove gid fid => (s.remove gid fid env).2
  | .setActiveGroup gid storePath => (s.setActiveGroup gid storePath env).2
  | .authenticate operationId gid => (s.authenticate operationId gid env).2
  | .isUdfps sensorID => (s.isUdfps sensorID env).2
  | .onFingerDown x y minor major => (s.onFingerDown x y minor major env).2
  | .onFingerUp => (s.onFingerUp env).2

def callback (env : HalEnv) (s : BiometricsFingerprint) :
    VendorCallback → BiometricsFingerprint
  | .onEnrollResult deviceId fingerId groupId remaining =>
      (s.onEnrollResult deviceId fingerId groupId remaining env).2
  | .onAcquired deviceId acquiredInfo vendorCode =>
      (s.onAcquired deviceId acquiredInfo vendorCode env).2
  | .onAuthenticated deviceId fingerId groupId token =>
      (s.onAuthenticated deviceId fingerId groupId token env).2
  | .onError deviceId error vendorCode =>
      (s.onError deviceId error vendorCode env).2
  | .onRemoved deviceId fingerId groupId remaining =>
      (s.onRemoved deviceId fingerId groupId remaining env).2
  | .onEnumerate deviceId fingerId groupId remaining =>
      (s.onEnumerate deviceId fingerId groupId remaining env).2
  | .onAcquired_2_2 deviceId acquiredInfo vendorCode =>
      (s.onAcquired_2_2 deviceId acquiredInfo vendorCode env).2
  | .onEngineeringInfoUpdated _ _ _ => s.onEngineeringInfoUpdated.2
  | .onFingerprintCmd cmdId _ _ => (s.onFingerprintCmd cmdId).2

end BiometricsFingerprint

inductive HalEvent where
  | request (request : HalRequest)
  | callback (callback : VendorCallback)
  deriving DecidableEq

structure HalInput where
  env : HalEnv
  event : HalEvent

namespace BiometricsFingerprint

def handle (s : BiometricsFingerprint) (input : HalInput) :
    BiometricsFingerprint :=
  match input.event with
  | .request request => s.request input.env request
  | .callback callback => s.callback input.env callback

/-- The HAL as its constructor leaves it, with or without the vendor service
and the helper, and with the nodes as they are. -/
def constructed (oplus : Bool) (helper : Option UdfpsHelper)
    (dimlayer_hbm notify_fppress : ℕ) : BiometricsFingerprint where
  isEnrolling := false
  mClientCallback := none
  mOplusBiometricsFingerprint := oplus
  mOplusUdfpsHelper := helper
  dimlayer_hbm := dimlayer_hbm
  notify_fppress := notify_fppress
  writes := []
  calls := if oplus then [.vendorSetHalCallback] else []

end BiometricsFingerprint

end Samurai
