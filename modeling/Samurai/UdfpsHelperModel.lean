import Samurai.LabelledRuns
import Samurai.OwningRemoval

/-!
# The helper service and its callbacks

`UdfpsHelper` keeps the touch status and a vector of registered callbacks.
Each entry is a `LinkedCallback`: an object that is linked to the death of its
callback's binder when it is made, with its own address as the cookie, and
unlinked when it is destroyed.

Requests, broadcasts and death handlers are executed here one at a time.  What
comes from outside is an argument of the event: the result of `linkToDeath`
and the status each call of a callback returns.  Next to the members of the
service the state has what the binder driver and the clients see: the links
outstanding, the cookies ever linked and unlinked, the calls made to the
callbacks and the statuses returned.

An operation has no result where the source dereferences a null pointer,
follows a dangling cookie or fails a `CHECK`.
-/

namespace Samurai

def STATUS_OK : ℤ := 0
def STATUS_DEAD_OBJECT : ℤ := -32

def EX_NONE : ℤ := 0
def EX_ILLEGAL_ARGUMENT : ℤ := -3
def EX_NULL_POINTER : ℤ := -4
def EX_ILLEGAL_STATE : ℤ := -5

/-- `ndk::ScopedAStatus`: an exception of the callee or a status of the
transaction. -/
inductive ScopedAStatus where
  | ok
  | fromExceptionCode (code : ℤ)
  | fromStatus (status : ℤ)
  deriving DecidableEq, Repr

def ScopedAStatus.isOk : ScopedAStatus → Bool
  | .ok => true
  | .fromExceptionCode code => code = EX_NONE
  | .fromStatus status => status = STATUS_OK

def ScopedAStatus.getStatus : ScopedAStatus → ℤ
  | .ok => STATUS_OK
  | .fromExceptionCode _ => STATUS_OK
  | .fromStatus status => status

def isDeadObjectLogged (ret : ScopedAStatus) : Bool :=
  if ret.isOk then false
  else if ret.getStatus = STATUS_DEAD_OBJECT then true
  else false

/-- An `IUdfpsHelperCallback`; several proxies may stand for one binder. -/
structure Callback where
  proxy : ℕ
  asBinder : ℕ
  deriving DecidableEq, Repr

/-- A `LinkedCallback` at the address `cookie`; `service_` says whether the
weak pointer to the service is set. -/
structure LinkedCallback where
  cookie : ℕ
  service_ : Bool
  callback_ : Option Callback
  deriving DecidableEq, Repr

/-- What `LinkedCallback::Make` returns: both fields are set. -/
structure Linked where
  object : LinkedCallback
  callback : Callback
  callback_set : object.callback_ = some callback
  service_set : object.service_ = true

structure DeathLink where
  binder : ℕ
  cookie : ℕ
  deriving DecidableEq, Repr

def Linked.cookie (linked : Linked) : ℕ :=
  linked.object.cookie

def Linked.link (linked : Linked) : DeathLink where
  binder := linked.callback.asBinder
  cookie := linked.cookie

/-- The links outstanding in the driver, the cookies ever linked and unlinked,
and how many addresses have been given to objects. -/
structure DeathLinks where
  allocated : ℕ
  links : List DeathLink
  linked : List ℕ
  unlinked : List ℕ

structure UdfpsHelper where
  currentIsDownState : Bool
  callbacks_ : Slots Linked
  death : DeathLinks
  notified : List (Callback × Bool)
  returned : List ScopedAStatus

/-- A request, a broadcast, or the notice of a death with its link.  The
`results` are the statuses of the calls of a broadcast, in order. -/
inductive HelperEvent where
  | touchDown
  | touchUp
  | registerCallback (callback : Option Callback) (linkRet : ℤ)
      (res : ScopedAStatus)
  | unregisterCallback (callback : Option Callback)
  | onUdfpsTouchStatusChanged (isDowned : Bool) (results : ℕ → ScopedAStatus)
  | callbackDied (link : DeathLink)

namespace DeathLinks

def linkToDeath (binder cookie : ℕ) (linkRet : ℤ) (d : DeathLinks) :
    DeathLinks :=
  if linkRet = STATUS_OK then
    { d with
      links := d.links ++ [⟨binder, cookie⟩]
      linked := d.linked ++ [cookie] }
  else d

def unlinkToDeath (binder cookie : ℕ) (d : DeathLinks) : DeathLinks :=
  { d with
    links := d.links.erase ⟨binder, cookie⟩
    unlinked := d.unlinked ++ [cookie] }

/-- `~LinkedCallback`; `service()` needs the pointer to the service. -/
def destroy (linked : LinkedCallback) (d : DeathLinks) : Option DeathLinks :=
  match linked.callback_ with
  | none => some d
  | some callback =>
      if linked.service_ then
        some (d.unlinkToDeath callback.asBinder linked.cookie)
      else none

def destroyAll : List Linked → DeathLinks → Option DeathLinks
  | [], d => some d
  | linked :: rest, d => (d.destroy linked.object).bind (destroyAll rest)

def make (callback : Callback) (linkRet : ℤ) (d : DeathLinks) :
    Option (Option Linked × DeathLinks) :=
  let ret : LinkedCallback := ⟨d.allocated, false, none⟩
  let d := { d with allocated := d.allocated + 1 }
  let d := d.linkToDeath callback.asBinder ret.cookie linkRet
  if linkRet ≠ STATUS_OK then (d.destroy ret).map fun d => (none, d)
  else
    some (some
      { object := { ret with service_ := true, callback_ := some callback }
        callback := callback
        callback_set := rfl
        service_set := rfl }, d)

end DeathLinks

namespace UdfpsHelper

/-- `remove_if` and `erase` on `callbacks_`.  The objects removed are
destroyed on the way; no predicate looks at the links this changes. -/
def eraseCallbacks {ρ : Type} (p : Linked → ρ → Bool × ρ) (r : ρ)
    (s : UdfpsHelper) : Option (Bool × ρ × UdfpsHelper) :=
  match Removal.eraseIf p ⟨s.callbacks_, [], r⟩ with
  | none => none
  | some (removed, v) =>
      (s.death.destroyAll v.destroyed).map fun death =>
        (removed, v.effects, { s with callbacks_ := v.slots, death := death })

/-! ## Requests -/

def touchDown (s : UdfpsHelper) : ScopedAStatus × UdfpsHelper :=
  (.ok, { s with currentIsDownState := true })

def touchUp (s : UdfpsHelper) : ScopedAStatus × UdfpsHelper :=
  (.ok, { s with currentIsDownState := false })

def matches_ (callback : Callback) (linked : Linked) (u : Unit) : Bool × Unit :=
  (decide (linked.callback.asBinder = callback.asBinder), u)

def unregisterCallback (callback : Option Callback) (s : UdfpsHelper) :
    Option (ScopedAStatus × UdfpsHelper) :=
  match callback with
  | none => some (.fromExceptionCode EX_NULL_POINTER, s)
  | some callback =>
      (s.eraseCallbacks (matches_ callback) ()).map fun (removed, _, s) =>
        (if removed then .ok else .fromExceptionCode EX_ILLEGAL_ARGUMENT, s)

def registerCallback (callback : Option Callback) (linkRet : ℤ)
    (res : ScopedAStatus) (s : UdfpsHelper) :
    Option (ScopedAStatus × UdfpsHelper) :=
  match callback with
  | none => some (.fromExceptionCode EX_NULL_POINTER, s)
  | some callback =>
      match s.death.make callback linkRet with
      | none => none
      | some (none, death) =>
          some (.fromExceptionCode EX_ILLEGAL_STATE, { s with death := death })
      | some (some linked, death) =>
          let s := { s with
            callbacks_ := s.callbacks_ ++ [some linked]
            death := death }
          let s := { s with
            notified := s.notified ++ [(callback, s.currentIsDownState)] }
          if isDeadObjectLogged res then
            (s.unregisterCallback (some callback)).map fun (_, s) => (.ok, s)
          else some (.ok, s)

/-- The predicate of the broadcast: it calls the callback, and its effects are
the calls made so far. -/
def isDead (isDowned : Bool) (results : ℕ → ScopedAStatus) (linked : Linked)
    (calls : List (Callback × Bool)) : Bool × List (Callback × Bool) :=
  (isDeadObjectLogged (results calls.length),
    calls ++ [(linked.callback, isDowned)])

def onUdfpsTouchStatusChanged (isDowned : Bool) (results : ℕ → ScopedAStatus)
    (s : UdfpsHelper) : Option UdfpsHelper :=
  (s.eraseCallbacks (isDead isDowned results) []).map fun (_, calls, s) =>
    { s with notified := s.notified ++ calls }

def onCallbackDied (linked : LinkedCallback) (s : UdfpsHelper) :
    Option UdfpsHelper :=
  if linked.service_ then
    (s.unregisterCallback linked.callback_).map fun (_, s) => s
  else none

/-- `OnCallbackDiedWrapped`: the cookie has to be the address of an object
that is alive, and these are the ones in `callbacks_`. -/
def onCallbackDiedWrapped (cookie : ℕ) (s : UdfpsHelper) :
    Option UdfpsHelper :=
  match s.callbacks_.reduceOption.find? fun linked => linked.cookie = cookie with
  | none => none
  | some linked => s.onCallbackDied linked.object

/-! ## The machine -/

def answer (result : ScopedAStatus × UdfpsHelper) : UdfpsHelper :=
  { result.2 with returned := result.2.returned ++ [result.1] }

/-- A notice of a death is delivered for an outstanding link only. -/
def step (s : UdfpsHelper) : HelperEvent → Option UdfpsHelper
  | .touchDown => some (answer s.touchDown)
  | .touchUp => some (answer s.touchUp)
  | .registerCallback callback linkRet res =>
      (s.registerCallback callback linkRet res).map answer
  | .unregisterCallback callback =>
      (s.unregisterCallback callback).map answer
  | .onUdfpsTouchStatusChanged isDowned results =>
      s.onUdfpsTouchStatusChanged isDowned results
  | .callbackDied link =>
      if link ∈ s.death.links then s.onCallbackDiedWrapped link.cookie else none

def initial : UdfpsHelper where
  currentIsDownState := false
  callbacks_ := []
  death := { allocated := 0, links := [], linked := [], unlinked := [] }
  notified := []
  returned := []

def machine : Machine UdfpsHelper HelperEvent where
  Initial s := s = initial
  step := step

end UdfpsHelper

end Samurai
