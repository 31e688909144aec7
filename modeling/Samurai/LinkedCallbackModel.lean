import Samurai.MutexOwnership
import Samurai.UdfpsHelperModel

/-!
# Linked callbacks on several binder threads

`registerCallback`, `unregisterCallback` and the handler of a death run on the
binder threads of the service.  `callback_mutex_lock` is held while the vector
changes.  It is not held while a handler reads the object its cookie names,
nor when a notice is dispatched, which may be at any time between
`linkToDeath` and `unlinkToDeath`.

A step is one statement that touches the lock, the vector, an object or the
driver.  The entries an `unregisterCallback` removes are destroyed one a step,
in any order: `remove_if` and `erase` have one of their own.  A member
function of a destroyed object has no next step, and neither has a `CHECK`
that fails: the process is gone.
-/

namespace Samurai

/-- The link of an object: not there yet, outstanding, its notice dispatched,
or taken back. -/
inductive LinkState where
  | none
  | linked
  | dispatched
  | unlinked
  deriving DecidableEq, Repr

structure LinkedObject where
  alive : Bool
  service_ : Bool
  callback_ : Option Callback
  link : LinkState
  deriving DecidableEq, Repr

/-- What the parameter `in_callback` refers to: a pointer of the caller, or
the member `callback_` of the object a handler was entered with. -/
inductive Argument where
  | value (callback : Option Callback)
  | member (cookie : ℕ)
  deriving DecidableEq, Repr

inductive BinderPc where
  | idle
  | registerLock (callback : Callback)
  | registerNew (callback : Callback)
  | registerLink (callback : Callback) (cookie : ℕ)
  | registerService (callback : Callback) (cookie : ℕ)
  | registerMember (callback : Callback) (cookie : ℕ)
  | registerAppend (callback : Callback) (cookie : ℕ)
  | registerUnlock (callback : Callback)
  | registerFail
  | registerNotify (callback : Callback)
  | unregisterTest (argument : Argument)
  | unregisterLock (argument : Argument)
  | unregisterCopy (argument : Argument)
  | unregisterErase (callback : Callback)
  | unregisterUnlock
  | onCallbackDied (cookie : ℕ)
  deriving DecidableEq, Repr

structure CallbackService where
  object : ℕ → LinkedObject
  allocated : ℕ
  callbacks_ : List ℕ
  callback_mutex_lock : Option ℕ
  thread : ℕ → BinderPc

inductive CallbackRequest where
  | registerCallback (callback : Option Callback)
  | unregisterCallback (callback : Option Callback)
  deriving DecidableEq, Repr

/-- Who moves: a thread that takes a request, the driver that dispatches a
notice on a thread, a thread that destroys one of the entries it removes, or a
thread with its next statement.  `succeeds` is the outcome of that statement
where it calls out: `linkToDeath` returns `STATUS_OK`, the callback does not
return `STATUS_DEAD_OBJECT`. -/
inductive BinderAction where
  | request (thread : ℕ) (request : CallbackRequest)
  | dispatch (thread : ℕ) (cookie : ℕ)
  | erase (thread : ℕ) (cookie : ℕ)
  | thread (thread : ℕ) (succeeds : Bool)
  deriving DecidableEq, Repr

def BinderPc.inside : BinderPc → Bool
  | .registerNew _ | .registerLink _ _ | .registerService _ _
  | .registerMember _ _ | .registerAppend _ _ | .registerUnlock _
  | .registerFail | .unregisterCopy _ | .unregisterErase _
  | .unregisterUnlock => true
  | _ => false

namespace CallbackService

def goto (thread : ℕ) (pc : BinderPc) (s : CallbackService) :
    CallbackService :=
  { s with thread := Function.update s.thread thread pc }

def set (cookie : ℕ) (object : LinkedObject) (s : CallbackService) :
    CallbackService :=
  { s with object := Function.update s.object cookie object }

def lock (thread : ℕ) (s : CallbackService) : Option CallbackService :=
  if s.callback_mutex_lock = none then
    some { s with callback_mutex_lock := some thread }
  else none

def unlock (s : CallbackService) : CallbackService :=
  { s with callback_mutex_lock := none }

def read (argument : Argument) (s : CallbackService) :
    Option (Option Callback) :=
  match argument with
  | .value callback => some callback
  | .member cookie =>
      if (s.object cookie).alive then some (s.object cookie).callback_
      else none

/-- `~LinkedCallback`: `unlinkToDeath` takes back a notice that was not
dispatched. -/
def destroy (cookie : ℕ) (s : CallbackService) : CallbackService :=
  let object := s.object cookie
  s.set cookie
    { object with
      alive := false
      link :=
        if object.callback_.isSome ∧ object.link = .linked then .unlinked
        else object.link }

/-- The lambda `matches` of `unregisterCallback`. -/
def compares (callback : Callback) (s : CallbackService) (cookie : ℕ) : Bool :=
  (s.object cookie).callback_.map Callback.asBinder = some callback.asBinder

def threadStep (thread : ℕ) (succeeds : Bool) (s : CallbackService) :
    Option CallbackService :=
  match s.thread thread with
  | .idle => none
  | .registerLock callback =>
      (s.lock thread).map (goto thread (.registerNew callback))
  | .registerNew callback =>
      some ({ s with allocated := s.allocated + 1 }.set s.allocated
        { alive := true, service_ := false, callback_ := none, link := .none }
        |>.goto thread (.registerLink callback s.allocated))
  | .registerLink callback cookie =>
      if succeeds then
        some (s.set cookie { s.object cookie with link := .linked }
          |>.goto thread (.registerService callback cookie))
      else some ((s.destroy cookie).goto thread .registerFail)
  | .registerService callback cookie =>
      some (s.set cookie { s.object cookie with service_ := true }
        |>.goto thread (.registerMember callback cookie))
  | .registerMember callback cookie =>
      some (s.set cookie { s.object cookie with callback_ := some callback }
        |>.goto thread (.registerAppend callback cookie))
  | .registerAppend callback cookie =>
      some ({ s with callbacks_ := s.callbacks_ ++ [cookie] }.goto thread
        (.registerUnlock callback))
  | .registerUnlock callback =>
      some (s.unlock.goto thread (.registerNotify callback))
  | .registerFail => some (s.unlock.goto thread .idle)
  | .registerNotify callback =>
      if succeeds then some (s.goto thread .idle)
      else some (s.goto thread (.unregisterTest (.value (some callback))))
  | .unregisterTest argument =>
      match s.read argument with
      | none => none
      | some none => some (s.goto thread .idle)
      | some (some _) => some (s.goto thread (.unregisterLock argument))
  | .unregisterLock argument =>
      (s.lock thread).map (goto thread (.unregisterCopy argument))
  | .unregisterCopy argument =>
      match s.read argument with
      | none => none
      -- A copy of a null pointer would be dereferenced next.
      | some none => none
      | some (some callback) =>
          some (s.goto thread (.unregisterErase callback))
  | .unregisterErase callback =>
      if s.callbacks_.any (s.compares callback) then none
      else some (s.goto thread .unregisterUnlock)
  | .unregisterUnlock => some (s.unlock.goto thread .idle)
  | .onCallbackDied cookie =>
      if (s.object cookie).alive ∧ (s.object cookie).service_ then
        some (s.goto thread (.unregisterTest (.member cookie)))
      else none

/-- One entry is destroyed and removed. -/
def eraseStep (thread cookie : ℕ) (s : CallbackService) :
    Option CallbackService :=
  match s.thread thread with
  | .unregisterErase callback =>
      if cookie ∈ s.callbacks_ ∧ s.compares callback cookie then
        some { s.destroy cookie with callbacks_ := s.callbacks_.erase cookie }
      else none
  | _ => none

/-- Where a request begins; a null pointer is answered at once. -/
def entry : CallbackRequest → BinderPc
  | .registerCallback none => .idle
  | .registerCallback (some callback) => .registerLock callback
  | .unregisterCallback callback => .unregisterTest (.value callback)

def step (s : CallbackService) : BinderAction → Option CallbackService
  | .request thread request =>
      if s.thread thread = .idle then some (s.goto thread (entry request))
      else none
  | .dispatch thread cookie =>
      if s.thread thread = .idle ∧ (s.object cookie).link = .linked then
        some (s.set cookie { s.object cookie with link := .dispatched }
          |>.goto thread (.onCallbackDied cookie))
      else none
  | .erase thread cookie => s.eraseStep thread cookie
  | .thread thread succeeds => s.threadStep thread succeeds

def initial : CallbackService where
  object := fun _ =>
    { alive := false, service_ := false, callback_ := none, link := .none }
  allocated := 0
  callbacks_ := []
  callback_mutex_lock := none
  thread := fun _ => .idle

def machine : Machine CallbackService BinderAction where
  Initial s := s = initial
  step := step

/-! ## What one step can do -/

inductive BinderStep :
    CallbackService → BinderAction → CallbackService → Prop
  | request {s : CallbackService} {c : ℕ} {request : CallbackRequest} :
      s.thread c = .idle →
      BinderStep s (.request c request) (s.goto c (entry request))
  | dispatch {s : CallbackService} {c k : ℕ} :
      s.thread c = .idle → (s.object k).link = .linked →
      BinderStep s (.dispatch c k)
        ((s.set k { s.object k with link := .dispatched }).goto c
          (.onCallbackDied k))
  | registerLock {s : CallbackService} {c : ℕ} {b : Bool} {cb : Callback} :
      s.thread c = .registerLock cb → s.callback_mutex_lock = none →
      BinderStep s (.thread c b)
        ({ s with callback_mutex_lock := some c }.goto c (.registerNew cb))
  | registerNew {s : CallbackService} {c : ℕ} {b : Bool} {cb : Callback} :
      s.thread c = .registerNew cb →
      BinderStep s (.thread c b)
        (({ s with allocated := s.allocated + 1 }.set s.allocated
          { alive := true
            service_ := false
            callback_ := none
            link := .none }).goto c (.registerLink cb s.allocated))
  | registerLink {s : CallbackService} {c k : ℕ} {cb : Callback} :
      s.thread c = .registerLink cb k →
      BinderStep s (.thread c true)
        ((s.set k { s.object k with link := .linked }).goto c
          (.registerService cb k))
  | linkFailed {s : CallbackService} {c k : ℕ} {cb : Callback} :
      s.thread c = .registerLink cb k →
      BinderStep s (.thread c false) ((s.destroy k).goto c .registerFail)
  | registerService {s : CallbackService} {c k : ℕ} {b : Bool}
      {cb : Callback} :
      s.thread c = .registerService cb k →
      BinderStep s (.thread c b)
        ((s.set k { s.object k with service_ := true }).goto c
          (.registerMember cb k))
  | registerMember {s : CallbackService} {c k : ℕ} {b : Bool}
      {cb : Callback} :
      s.thread c = .registerMember cb k →
      BinderStep s (.thread c b)
        ((s.set k { s.object k with callback_ := some cb }).goto c
          (.registerAppend cb k))
  | registerAppend {s : CallbackService} {c k : ℕ} {b : Bool}
      {cb : Callback} :
      s.thread c = .registerAppend cb k →
      BinderStep s (.thread c b)
        ({ s with callbacks_ := s.callbacks_ ++ [k] }.goto c
          (.registerUnlock cb))
  | registerUnlock {s : CallbackService} {c : ℕ} {b : Bool} {cb : Callback} :
      s.thread c = .registerUnlock cb →
      BinderStep s (.thread c b)
        ({ s with callback_mutex_lock := none }.goto c (.registerNotify cb))
  | registerFail {s : CallbackService} {c : ℕ} {b : Bool} :
      s.thread c = .registerFail →
      BinderStep s (.thread c b)
        ({ s with callback_mutex_lock := none }.goto c .idle)
  | notifyAlive {s : CallbackService} {c : ℕ} {cb : Callback} :
      s.thread c = .registerNotify cb →
      BinderStep s (.thread c true) (s.goto c .idle)
  | notifyDead {s : CallbackService} {c : ℕ} {cb : Callback} :
      s.thread c = .registerNotify cb →
      BinderStep s (.thread c false)
        (s.goto c (.unregisterTest (.value (some cb))))
  | testNull {s : CallbackService} {c : ℕ} {b : Bool} {arg : Argument} :
      s.thread c = .unregisterTest arg → s.read arg = some none →
      BinderStep s (.thread c b) (s.goto c .idle)
  | test {s : CallbackService} {c : ℕ} {b : Bool} {arg : Argument}
      {cb : Callback} :
      s.thread c = .unregisterTest arg → s.read arg = some (some cb) →
      BinderStep s (.thread c b) (s.goto c (.unregisterLock arg))
  | unregisterLock {s : CallbackService} {c : ℕ} {b : Bool}
      {arg : Argument} :
      s.thread c = .unregisterLock arg → s.callback_mutex_lock = none →
      BinderStep s (.thread c b)
        ({ s with callback_mutex_lock := some c }.goto c
          (.unregisterCopy arg))
  | copy {s : CallbackService} {c : ℕ} {b : Bool} {arg : Argument}
      {cb : Callback} :
      s.thread c = .unregisterCopy arg → s.read arg = some (some cb) →
      BinderStep s (.thread c b) (s.goto c (.unregisterErase cb))
  | erase {s : CallbackService} {c k : ℕ} {cb : Callback} :
      s.thread c = .unregisterErase cb → k ∈ s.callbacks_ →
      s.compares cb k = true →
      BinderStep s (.erase c k)
        { s.destroy k with callbacks_ := s.callbacks_.erase k }
  | eraseEnd {s : CallbackService} {c : ℕ} {b : Bool} {cb : Callback} :
      s.thread c = .unregisterErase cb →
      s.callbacks_.any (s.compares cb) = false →
      BinderStep s (.thread c b) (s.goto c .unregisterUnlock)
  | unregisterUnlock {s : CallbackService} {c : ℕ} {b : Bool} :
      s.thread c = .unregisterUnlock →
      BinderStep s (.thread c b)
        ({ s with callback_mutex_lock := none }.goto c .idle)
  | onCallbackDied {s : CallbackService} {c k : ℕ} {b : Bool} :
      s.thread c = .onCallbackDied k →
      (s.object k).alive = true → (s.object k).service_ = true →
      BinderStep s (.thread c b)
        (s.goto c (.unregisterTest (.member k)))

variable {s t : CallbackService} {a : BinderAction}

private theorem lock_map_eq_some
    {c : ℕ} {f : CallbackService → CallbackService} :
    (s.lock c).map f = some t ↔
      s.callback_mutex_lock = none ∧
        t = f { s with callback_mutex_lock := some c } := by
  unfold lock
  split_ifs with hfree
  · simp [hfree, eq_comm]
  · simp [hfree]

private theorem threadStep_cases {c : ℕ} {b : Bool}
    (hstep : s.threadStep c b = some t) : BinderStep s (.thread c b) t := by
  unfold threadStep at hstep
  cases hthread : s.thread c with
  | idle => simp [hthread] at hstep
  | registerLock cb =>
      rw [hthread, lock_map_eq_some] at hstep
      rcases hstep with ⟨hfree, rfl⟩
      exact .registerLock hthread hfree
  | registerNew cb =>
      simp only [hthread] at hstep
      cases hstep
      exact .registerNew hthread
  | registerLink cb k =>
      simp only [hthread] at hstep
      cases b with
      | true =>
          cases hstep
          exact .registerLink hthread
      | false =>
          cases hstep
          exact .linkFailed hthread
  | registerService cb k =>
      simp only [hthread] at hstep
      cases hstep
      exact .registerService hthread
  | registerMember cb k =>
      simp only [hthread] at hstep
      cases hstep
      exact .registerMember hthread
  | registerAppend cb k =>
      simp only [hthread] at hstep
      cases hstep
      exact .registerAppend hthread
  | registerUnlock cb =>
      simp only [hthread] at hstep
      cases hstep
      exact .registerUnlock hthread
  | registerFail =>
      simp only [hthread] at hstep
      cases hstep
      exact .registerFail hthread
  | registerNotify cb =>
      simp only [hthread] at hstep
      cases b with
      | true =>
          cases hstep
          exact .notifyAlive hthread
      | false =>
          cases hstep
          exact .notifyDead hthread
  | unregisterTest arg =>
      simp only [hthread] at hstep
      cases hread : s.read arg with
      | none => simp [hread] at hstep
      | some pointer =>
          cases pointer with
          | none =>
              simp only [hread] at hstep
              cases hstep
              exact .testNull hthread hread
          | some cb =>
              simp only [hread] at hstep
              cases hstep
              exact .test hthread hread
  | unregisterLock arg =>
      rw [hthread, lock_map_eq_some] at hstep
      rcases hstep with ⟨hfree, rfl⟩
      exact .unregisterLock hthread hfree
  | unregisterCopy arg =>
      simp only [hthread] at hstep
      cases hread : s.read arg with
      | none => simp [hread] at hstep
      | some pointer =>
          cases pointer with
          | none => simp [hread] at hstep
          | some cb =>
              simp only [hread] at hstep
              cases hstep
              exact .copy hthread hread
  | unregisterErase cb =>
      simp only [hthread] at hstep
      split_ifs at hstep with hmatch
      cases hstep
      exact .eraseEnd hthread (by simpa using hmatch)
  | unregisterUnlock =>
      simp only [hthread] at hstep
      cases hstep
      exact .unregisterUnlock hthread
  | onCallbackDied k =>
      simp only [hthread] at hstep
      split_ifs at hstep with hobject
      cases hstep
      exact .onCallbackDied hthread hobject.1 hobject.2

private theorem eraseStep_cases {c k : ℕ}
    (hstep : s.eraseStep c k = some t) : BinderStep s (.erase c k) t := by
  unfold eraseStep at hstep
  cases hthread : s.thread c with
  | unregisterErase cb =>
      simp only [hthread] at hstep
      split_ifs at hstep with hmatch
      cases hstep
      exact .erase hthread hmatch.1 hmatch.2
  | _ => simp [hthread] at hstep

theorem step_cases (hstep : machine.step s a = some t) : BinderStep s a t := by
  cases a with
  | request c request =>
      simp only [machine, step] at hstep
      split_ifs at hstep with hidle
      cases hstep
      exact .request hidle
  | dispatch c k =>
      simp only [machine, step] at hstep
      split_ifs at hstep with hready
      cases hstep
      exact .dispatch hready.1 hready.2
  | erase c k => exact eraseStep_cases hstep
  | thread c b => exact threadStep_cases hstep

/-! ## Updates -/

@[simp] theorem goto_thread_self {c : ℕ} {pc : BinderPc} :
    (s.goto c pc).thread c = pc := by
  simp [goto]

theorem goto_thread_of_ne {c d : ℕ} {pc : BinderPc} (hne : d ≠ c) :
    (s.goto c pc).thread d = s.thread d := by
  simp [goto, Function.update_of_ne hne]

@[simp] theorem goto_object {c : ℕ} {pc : BinderPc} :
    (s.goto c pc).object = s.object := rfl

@[simp] theorem set_object_self {k : ℕ} {object : LinkedObject} :
    (s.set k object).object k = object := by
  simp [set]

theorem set_object_of_ne {j k : ℕ} {object : LinkedObject} (hne : j ≠ k) :
    (s.set k object).object j = s.object j := by
  simp [set, Function.update_of_ne hne]

@[simp] theorem set_thread {k : ℕ} {object : LinkedObject} :
    (s.set k object).thread = s.thread := rfl

@[simp] theorem destroy_thread {k : ℕ} :
    (s.destroy k).thread = s.thread := rfl

/-! ## The discipline of `callback_mutex_lock` -/

def inside (s : CallbackService) (c : ℕ) : Prop :=
  (s.thread c).inside = true

def Disciplined (s : CallbackService) : Prop :=
  Owned s.callback_mutex_lock s.inside

theorem inside_goto_of_ne {c d : ℕ} {pc : BinderPc} (hne : d ≠ c) :
    (s.goto c pc).inside d ↔ s.inside d := by
  simp only [inside, goto_thread_of_ne hne]

theorem Disciplined.goto {c : ℕ} {pc : BinderPc} (hs : s.Disciplined)
    (hside : pc.inside = (s.thread c).inside) :
    (s.goto c pc).Disciplined := by
  apply Owned.congr hs
  intro d
  by_cases hd : d = c
  · subst hd
    simp [inside, hside]
  · exact inside_goto_of_ne hd

theorem Disciplined.lock {c : ℕ} {pc : BinderPc} (hs : s.Disciplined)
    (hfree : s.callback_mutex_lock = none) (hin : pc.inside = true) :
    ({ s with callback_mutex_lock := some c }.goto c pc).Disciplined := by
  have hnone : Owned none s.inside := hfree ▸ hs
  apply hnone.acquire
  · simpa [inside] using hin
  · intro d hd
    exact inside_goto_of_ne hd

theorem Disciplined.unlock {c : ℕ} {pc : BinderPc} (hs : s.Disciplined)
    (hin : (s.thread c).inside = true) (hout : pc.inside = false) :
    ({ s with callback_mutex_lock := none }.goto c pc).Disciplined := by
  have hsome : Owned (some c) s.inside := Owned.eq_some hs hin ▸ hs
  apply hsome.release
  · simp [inside, hout]
  · intro d hd
    exact inside_goto_of_ne hd

theorem Disciplined.step (hs : s.Disciplined) (hstep : BinderStep s a t) :
    t.Disciplined := by
  cases hstep with
  | @request c request hc =>
      apply hs.goto
      rw [hc]
      cases request with
      | registerCallback callback => cases callback <;> rfl
      | unregisterCallback callback => rfl
  | dispatch hc _ => exact Disciplined.goto hs (by rw [set_thread, hc]; rfl)
  | registerLock _ hfree => exact hs.lock hfree rfl
  | registerNew hc => exact Disciplined.goto hs (by rw [set_thread, hc]; rfl)
  | registerLink hc => exact Disciplined.goto hs (by rw [set_thread, hc]; rfl)
  | linkFailed hc =>
      exact Disciplined.goto hs (by rw [destroy_thread, hc]; rfl)
  | registerService hc =>
      exact Disciplined.goto hs (by rw [set_thread, hc]; rfl)
  | registerMember hc =>
      exact Disciplined.goto hs (by rw [set_thread, hc]; rfl)
  | registerAppend hc => exact Disciplined.goto hs (by rw [hc]; rfl)
  | registerUnlock hc => exact hs.unlock (by rw [hc]; rfl) rfl
  | registerFail hc => exact hs.unlock (by rw [hc]; rfl) rfl
  | notifyAlive hc => exact hs.goto (by rw [hc]; rfl)
  | notifyDead hc => exact hs.goto (by rw [hc]; rfl)
  | testNull hc _ => exact hs.goto (by rw [hc]; rfl)
  | test hc _ => exact hs.goto (by rw [hc]; rfl)
  | unregisterLock _ hfree => exact hs.lock hfree rfl
  | copy hc _ => exact hs.goto (by rw [hc]; rfl)
  | erase _ _ _ => exact hs
  | eraseEnd hc _ => exact hs.goto (by rw [hc]; rfl)
  | unregisterUnlock hc => exact hs.unlock (by rw [hc]; rfl) rfl
  | onCallbackDied hc _ _ => exact hs.goto (by rw [hc]; rfl)

theorem initial_disciplined : initial.Disciplined := by
  intro c
  simp [inside, initial, BinderPc.inside]

end CallbackService

end Samurai
