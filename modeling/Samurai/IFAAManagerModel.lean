import Samurai.EnrolledFingerprints
import Samurai.LabelledRuns

/-!
# The IFAA manager in its process

`IFAAManagerFactory.getIFAAManager` and `IFAAManagerImpl.getInstance` hand out
one instance to all threads.  The first call constructs it under the lock of
the class, and there it also keeps the caller's context and binds the service.
The connection to the service is told of by the main thread, the death of its
binder by a binder thread.

Each statement of `getInstance` and of the factory that touches a static field
or the lock is one step, on sequentially consistent memory; the other methods
and the callbacks are one step each.  The replies of the methods are recorded,
and the calls of `bindService`.

`getInstance` fails after the instance is published where the context is null
or `bindService` throws; the lock is given up and the exception goes to the
caller.  Where it throws on the main thread the process ends, and with it the
run.
-/

namespace Samurai

/-- A call of `getInstance`, direct or from the factory; the context may be
null. -/
structure InstanceCall where
  context : Option SystemServices
  fromFactory : Bool
  deriving DecidableEq, Repr

inductive IFAAReply where
  | enabled (code : ℤ)
  | idList (ids : Option (List Int32))
  | processed (data : Option (List UInt8))
  | nullPointerException
  | securityException
  deriving DecidableEq, Repr

inductive IFAAPc where
  | idle
  | factoryTest (context : Option SystemServices)
  | test (call : InstanceCall)
  | lock (call : InstanceCall)
  | retest (call : InstanceCall)
  | create (call : InstanceCall)
  | context (call : InstanceCall)
  | bind (call : InstanceCall)
  | unlock (call : InstanceCall)
  | unwind (exception : IFAAReply)
  | load (call : InstanceCall)
  | factoryWrite (result : Option ℕ)
  | factoryLoad
  | has (result : Option ℕ)
  deriving DecidableEq, Repr

inductive BindSource where
  | getInstance
  | onServiceDisconnected
  deriving DecidableEq, Repr

/-- The static fields of `IFAAManagerFactory` and `IFAAManagerImpl`, and what
the binder driver knows: which binders are alive, to which of them the death
recipient is linked, and the notices on their way.  `constructing` is the call
that constructed the instance. -/
structure IFAAProcess where
  factory : Option ℕ
  INSTANCE : Option ℕ
  allocated : ℕ
  constructing : Option InstanceCall
  mContext : Option SystemServices
  managers : IFAAManagerImpl
  classLock : Option ℕ
  mService : Option ℕ
  binds : List (BindSource × SystemServices)
  alive : ℕ → Bool
  links : List ℕ
  notices : List ℕ
  thread : ℕ → IFAAPc
  replies : List (ℕ × IFAAReply)

/-- A call, a thread's next statement, `bindService` throwing instead, a method
of the instance, a callback of the connection, the death of a binder, or its
notice. -/
inductive IFAAAction where
  | getIFAAManager (thread : ℕ) (context : Option SystemServices)
  | getInstance (thread : ℕ) (context : Option SystemServices)
  | thread (thread : ℕ)
  | bindThrows (thread : ℕ)
  | getEnabled (thread : ℕ) (bioType : ℤ)
  | getIDList (thread : ℕ) (bioType : ℤ)
  | processCmdV2 (thread : ℕ) (answer : Option (List UInt8))
  | onServiceConnected (service : ℕ)
  | onServiceDisconnected
  | dies (service : ℕ)
  | binderDied (service : ℕ)
  deriving DecidableEq, Repr

namespace IFAAManagerImpl

def BIOMETRIC_NOUSE_NOSET_KEYGUARD : ℤ := 1003
def BIOMETRIC_NOUSE_SYSTEMLOCKED : ℤ := 1001
def BIOMETRIC_USE_READY : ℤ := 1000

/-- What `getEnabled` returns once the managers have been looked up; there is
nothing to return where the keyguard manager is null. -/
def getEnabled (bioType : ℤ) (s : IFAAManagerImpl) : Option ℤ :=
  s.mKeyguardManager.map fun keyguard =>
    if !keyguard.isKeyguardSecure then BIOMETRIC_NOUSE_NOSET_KEYGUARD
    else if bioType = 1 then BIOMETRIC_USE_READY
    else if bioType = 4 then BIOMETRIC_NOUSE_SYSTEMLOCKED
    else 0

end IFAAManagerImpl

/-- The statements inside the lock of the class. -/
def IFAAPc.inside : IFAAPc → Bool
  | .retest _ | .create _ | .context _ | .bind _ | .unlock _
  | .unwind _ => true
  | _ => false

namespace IFAAProcess

def goto (thread : ℕ) (pc : IFAAPc) (s : IFAAProcess) : IFAAProcess :=
  { s with thread := Function.update s.thread thread pc }

def reply (thread : ℕ) (r : IFAAReply) (s : IFAAProcess) : IFAAProcess :=
  { s with replies := s.replies ++ [(thread, r)] }

/-- `initService`, with a context; the result of `bindService` is only
logged. -/
def initService (source : BindSource) (context : SystemServices)
    (s : IFAAProcess) : IFAAProcess :=
  { s with binds := s.binds ++ [(source, context)] }

/-- `ensureNeedServiceAvailable`; none where a null `mContext` is used. -/
def ensureNeedServiceAvailable (s : IFAAProcess) : Option IFAAProcess :=
  match s.mContext with
  | some context =>
      some { s with managers := s.managers.ensureNeedServiceAvailable context }
  | none =>
      if s.managers.mFingerprintManager.isSome ∧
          s.managers.mKeyguardManager.isSome then some s
      else none

/-- A thread's next statement in `getIFAAManager` or `getInstance`. -/
def threadStep (SDK_INT : ℤ) (thread : ℕ) (s : IFAAProcess) :
    Option IFAAProcess :=
  match s.thread thread with
  | .idle | .has _ => none
  | .factoryTest context =>
      if s.factory = none then some (s.goto thread (.test ⟨context, true⟩))
      else some (s.goto thread .factoryLoad)
  | .test call =>
      if s.INSTANCE = none then some (s.goto thread (.lock call))
      else some (s.goto thread (.load call))
  | .lock call =>
      if s.classLock = none then
        some ({ s with classLock := some thread }.goto thread (.retest call))
      else none
  | .retest call =>
      if s.INSTANCE = none then some (s.goto thread (.create call))
      else some (s.goto thread (.unlock call))
  | .create call =>
      some ({ s with
        INSTANCE := some s.allocated
        allocated := s.allocated + 1
        constructing := some call }.goto thread (.context call))
  | .context call =>
      if SDK_INT ≥ 28 then
        some ({ s with mContext := call.context }.goto thread (.bind call))
      else some (s.goto thread (.unlock call))
  | .bind call =>
      match s.mContext with
      | some context =>
          some ((s.initService .getInstance context).goto thread (.unlock call))
      | none => some (s.goto thread (.unwind .nullPointerException))
  | .unlock call => some ({ s with classLock := none }.goto thread (.load call))
  | .unwind exception =>
      some ({ s with classLock := none }.reply thread exception
        |>.goto thread .idle)
  | .load call =>
      if call.fromFactory then
        some (s.goto thread (.factoryWrite s.INSTANCE))
      else some (s.goto thread (.has s.INSTANCE))
  | .factoryWrite result =>
      some ({ s with factory := result }.goto thread .factoryLoad)
  | .factoryLoad => some (s.goto thread (.has s.factory))

def bindThrows (thread : ℕ) (s : IFAAProcess) : Option IFAAProcess :=
  match s.thread thread, s.mContext with
  | .bind _, some context =>
      some (s.initService .getInstance context
        |>.goto thread (.unwind .securityException))
  | _, _ => none

/-- A thread outside both calls may make another one. -/
def enter (thread : ℕ) (pc : IFAAPc) (s : IFAAProcess) : Option IFAAProcess :=
  match s.thread thread with
  | .idle | .has _ => some (s.goto thread pc)
  | _ => none

def getEnabled (thread : ℕ) (bioType : ℤ) (s : IFAAProcess) : IFAAProcess :=
  match s.ensureNeedServiceAvailable with
  | none => s.reply thread .nullPointerException
  | some s =>
      match s.managers.getEnabled bioType with
      | none => s.reply thread .nullPointerException
      | some code => s.reply thread (.enabled code)

/-- The list itself is that of `IFAAManagerImpl.getIDList`; the managers have
been looked up before, so that its own look-up finds nothing to do. -/
def getIDList (thread : ℕ) (bioType : ℤ) (s : IFAAProcess) : IFAAProcess :=
  match s.ensureNeedServiceAvailable with
  | none => s.reply thread .nullPointerException
  | some s =>
      s.reply thread
        (.idList (s.managers.getIDList ⟨none, none⟩ bioType).1)

/-- The answer of a service that is alive; a `RemoteException` gives null. -/
def processCmdV2 (thread : ℕ) (answer : Option (List UInt8))
    (s : IFAAProcess) : IFAAProcess :=
  match s.mService with
  | none => s.reply thread .nullPointerException
  | some service =>
      if s.alive service then s.reply thread (.processed answer)
      else s.reply thread (.processed none)

/-- `linkToDeath` throws where the binder is dead already. -/
def onServiceConnected (service : ℕ) (s : IFAAProcess) : IFAAProcess :=
  if s.alive service then
    { s with mService := some service, links := s.links ++ [service] }
  else { s with mService := some service }

def onServiceDisconnected (s : IFAAProcess) : IFAAProcess :=
  match s.mContext with
  | some context => s.initService .onServiceDisconnected context
  | none => s

/-- The driver takes the links of a dead binder and sends a notice each. -/
def dies (service : ℕ) (s : IFAAProcess) : IFAAProcess :=
  { s with
    alive := Function.update s.alive service false
    links := s.links.filter (· ≠ service)
    notices := s.notices ++ s.links.filter (· = service) }

/-- `unlinkToDeath` on `mService`, whichever binder the notice is for. -/
def binderDied (s : IFAAProcess) : IFAAProcess :=
  match s.mService with
  | some service => { s with links := s.links.erase service }
  | none => s

def hasInstance (thread : ℕ) (s : IFAAProcess) : Bool :=
  match s.thread thread with
  | .has (some _) => true
  | _ => false

def step (SDK_INT : ℤ) (s : IFAAProcess) : IFAAAction → Option IFAAProcess
  | .getIFAAManager thread context => s.enter thread (.factoryTest context)
  | .getInstance thread context => s.enter thread (.test ⟨context, false⟩)
  | .thread thread => s.threadStep SDK_INT thread
  | .bindThrows thread => s.bindThrows thread
  | .getEnabled thread bioType =>
      if s.hasInstance thread then some (s.getEnabled thread bioType) else none
  | .getIDList thread bioType =>
      if s.hasInstance thread then some (s.getIDList thread bioType) else none
  | .processCmdV2 thread answer =>
      if s.hasInstance thread then some (s.processCmdV2 thread answer)
      else none
  | .onServiceConnected service => some (s.onServiceConnected service)
  | .onServiceDisconnected => some s.onServiceDisconnected
  | .dies service => if s.alive service then some (s.dies service) else none
  | .binderDied service =>
      if service ∈ s.notices then
        some { s with notices := s.notices.erase service }.binderDied
      else none

def initial : IFAAProcess where
  factory := none
  INSTANCE := none
  allocated := 0
  constructing := none
  mContext := none
  managers := ⟨none, none⟩
  classLock := none
  mService := none
  binds := []
  alive := fun _ => true
  links := []
  notices := []
  thread := fun _ => .idle
  replies := []

def machine (SDK_INT : ℤ) : Machine IFAAProcess IFAAAction where
  Initial s := s = initial
  step := step SDK_INT

/-! ## What one step can do -/

def Outside (s : IFAAProcess) (thread : ℕ) : Prop :=
  s.thread thread = .idle ∨ ∃ result, s.thread thread = .has result

inductive IFAAStep (SDK_INT : ℤ) :
    IFAAProcess → IFAAAction → IFAAProcess → Prop
  | getIFAAManager {s : IFAAProcess} {c : ℕ} {x : Option SystemServices} :
      s.Outside c →
      IFAAStep SDK_INT s (.getIFAAManager c x) (s.goto c (.factoryTest x))
  | getInstance {s : IFAAProcess} {c : ℕ} {x : Option SystemServices} :
      s.Outside c →
      IFAAStep SDK_INT s (.getInstance c x) (s.goto c (.test ⟨x, false⟩))
  | factoryMiss {s : IFAAProcess} {c : ℕ} {x : Option SystemServices} :
      s.thread c = .factoryTest x → s.factory = none →
      IFAAStep SDK_INT s (.thread c) (s.goto c (.test ⟨x, true⟩))
  | factoryHit {s : IFAAProcess} {c : ℕ} {x : Option SystemServices} :
      s.thread c = .factoryTest x → s.factory ≠ none →
      IFAAStep SDK_INT s (.thread c) (s.goto c .factoryLoad)
  | testMiss {s : IFAAProcess} {c : ℕ} {call : InstanceCall} :
      s.thread c = .test call → s.INSTANCE = none →
      IFAAStep SDK_INT s (.thread c) (s.goto c (.lock call))
  | testHit {s : IFAAProcess} {c : ℕ} {call : InstanceCall} :
      s.thread c = .test call → s.INSTANCE ≠ none →
      IFAAStep SDK_INT s (.thread c) (s.goto c (.load call))
  | lock {s : IFAAProcess} {c : ℕ} {call : InstanceCall} :
      s.thread c = .lock call → s.classLock = none →
      IFAAStep SDK_INT s (.thread c)
        ({ s with classLock := some c }.goto c (.retest call))
  | retestMiss {s : IFAAProcess} {c : ℕ} {call : InstanceCall} :
      s.thread c = .retest call → s.INSTANCE = none →
      IFAAStep SDK_INT s (.thread c) (s.goto c (.create call))
  | retestHit {s : IFAAProcess} {c : ℕ} {call : InstanceCall} :
      s.thread c = .retest call → s.INSTANCE ≠ none →
      IFAAStep SDK_INT s (.thread c) (s.goto c (.unlock call))
  | create {s : IFAAProcess} {c : ℕ} {call : InstanceCall} :
      s.thread c = .create call →
      IFAAStep SDK_INT s (.thread c)
        ({ s with
          INSTANCE := some s.allocated
          allocated := s.allocated + 1
          constructing := some call }.goto c (.context call))
  | context {s : IFAAProcess} {c : ℕ} {call : InstanceCall} :
      s.thread c = .context call → SDK_INT ≥ 28 →
      IFAAStep SDK_INT s (.thread c)
        ({ s with mContext := call.context }.goto c (.bind call))
  | noContext {s : IFAAProcess} {c : ℕ} {call : InstanceCall} :
      s.thread c = .context call → ¬ SDK_INT ≥ 28 →
      IFAAStep SDK_INT s (.thread c) (s.goto c (.unlock call))
  | bind {s : IFAAProcess} {c : ℕ} {call : InstanceCall}
      {x : SystemServices} :
      s.thread c = .bind call → s.mContext = some x →
      IFAAStep SDK_INT s (.thread c)
        ((s.initService .getInstance x).goto c (.unlock call))
  | bindNull {s : IFAAProcess} {c : ℕ} {call : InstanceCall} :
      s.thread c = .bind call → s.mContext = none →
      IFAAStep SDK_INT s (.thread c)
        (s.goto c (.unwind .nullPointerException))
  | bindThrows {s : IFAAProcess} {c : ℕ} {call : InstanceCall}
      {x : SystemServices} :
      s.thread c = .bind call → s.mContext = some x →
      IFAAStep SDK_INT s (.bindThrows c)
        ((s.initService .getInstance x).goto c (.unwind .securityException))
  | unlock {s : IFAAProcess} {c : ℕ} {call : InstanceCall} :
      s.thread c = .unlock call →
      IFAAStep SDK_INT s (.thread c)
        ({ s with classLock := none }.goto c (.load call))
  | unwind {s : IFAAProcess} {c : ℕ} {e : IFAAReply} :
      s.thread c = .unwind e →
      IFAAStep SDK_INT s (.thread c)
        (({ s with classLock := none }.reply c e).goto c .idle)
  | loadFactory {s : IFAAProcess} {c : ℕ} {call : InstanceCall} :
      s.thread c = .load call → call.fromFactory = true →
      IFAAStep SDK_INT s (.thread c) (s.goto c (.factoryWrite s.INSTANCE))
  | load {s : IFAAProcess} {c : ℕ} {call : InstanceCall} :
      s.thread c = .load call → call.fromFactory = false →
      IFAAStep SDK_INT s (.thread c) (s.goto c (.has s.INSTANCE))
  | factoryWrite {s : IFAAProcess} {c : ℕ} {result : Option ℕ} :
      s.thread c = .factoryWrite result →
      IFAAStep SDK_INT s (.thread c)
        ({ s with factory := result }.goto c .factoryLoad)
  | factoryLoad {s : IFAAProcess} {c : ℕ} :
      s.thread c = .factoryLoad →
      IFAAStep SDK_INT s (.thread c) (s.goto c (.has s.factory))
  | getEnabled {s : IFAAProcess} {c : ℕ} {bioType : ℤ} :
      s.hasInstance c = true →
      IFAAStep SDK_INT s (.getEnabled c bioType) (s.getEnabled c bioType)
  | getIDList {s : IFAAProcess} {c : ℕ} {bioType : ℤ} :
      s.hasInstance c = true →
      IFAAStep SDK_INT s (.getIDList c bioType) (s.getIDList c bioType)
  | processCmdV2 {s : IFAAProcess} {c : ℕ} {answer : Option (List UInt8)} :
      s.hasInstance c = true →
      IFAAStep SDK_INT s (.processCmdV2 c answer) (s.processCmdV2 c answer)
  | onServiceConnected {s : IFAAProcess} {b : ℕ} :
      IFAAStep SDK_INT s (.onServiceConnected b) (s.onServiceConnected b)
  | onServiceDisconnected {s : IFAAProcess} :
      IFAAStep SDK_INT s .onServiceDisconnected s.onServiceDisconnected
  | dies {s : IFAAProcess} {b : ℕ} :
      s.alive b = true → IFAAStep SDK_INT s (.dies b) (s.dies b)
  | binderDied {s : IFAAProcess} {b : ℕ} :
      b ∈ s.notices →
      IFAAStep SDK_INT s (.binderDied b)
        { s with notices := s.notices.erase b }.binderDied

variable {s t : IFAAProcess} {a : IFAAAction} {SDK_INT : ℤ}

private theorem enter_eq_some {c : ℕ} {pc : IFAAPc}
    (hstep : s.enter c pc = some t) : s.Outside c ∧ t = s.goto c pc := by
  unfold enter at hstep
  cases hthread : s.thread c with
  | idle =>
      simp only [hthread] at hstep
      cases hstep
      exact ⟨.inl hthread, rfl⟩
  | has result =>
      simp only [hthread] at hstep
      cases hstep
      exact ⟨.inr ⟨result, hthread⟩, rfl⟩
  | _ => simp [hthread] at hstep

private theorem ifaaThread_cases {c : ℕ}
    (hstep : s.threadStep SDK_INT c = some t) :
    IFAAStep SDK_INT s (.thread c) t := by
  unfold threadStep at hstep
  cases hthread : s.thread c with
  | idle => simp [hthread] at hstep
  | has result => simp [hthread] at hstep
  | factoryTest x =>
      simp only [hthread] at hstep
      split_ifs at hstep with hnone
      · cases hstep
        exact .factoryMiss hthread hnone
      · cases hstep
        exact .factoryHit hthread hnone
  | test call =>
      simp only [hthread] at hstep
      split_ifs at hstep with hnone
      · cases hstep
        exact .testMiss hthread hnone
      · cases hstep
        exact .testHit hthread hnone
  | lock call =>
      simp only [hthread] at hstep
      split_ifs at hstep with hfree
      cases hstep
      exact .lock hthread hfree
  | retest call =>
      simp only [hthread] at hstep
      split_ifs at hstep with hnone
      · cases hstep
        exact .retestMiss hthread hnone
      · cases hstep
        exact .retestHit hthread hnone
  | create call =>
      simp only [hthread] at hstep
      cases hstep
      exact .create hthread
  | context call =>
      simp only [hthread] at hstep
      split_ifs at hstep with hversion
      · cases hstep
        exact .context hthread hversion
      · cases hstep
        exact .noContext hthread hversion
  | bind call =>
      simp only [hthread] at hstep
      cases hx : s.mContext with
      | none =>
          simp only [hx] at hstep
          cases hstep
          exact .bindNull hthread hx
      | some x =>
          simp only [hx] at hstep
          cases hstep
          exact .bind hthread hx
  | unwind e =>
      simp only [hthread] at hstep
      cases hstep
      exact .unwind hthread
  | unlock call =>
      simp only [hthread] at hstep
      cases hstep
      exact .unlock hthread
  | load call =>
      simp only [hthread] at hstep
      split_ifs at hstep with hfactory
      · cases hstep
        exact .loadFactory hthread hfactory
      · cases hstep
        exact .load hthread (by simpa using hfactory)
  | factoryWrite result =>
      simp only [hthread] at hstep
      cases hstep
      exact .factoryWrite hthread
  | factoryLoad =>
      simp only [hthread] at hstep
      cases hstep
      exact .factoryLoad hthread

private theorem bindThrows_cases {c : ℕ} (hstep : s.bindThrows c = some t) :
    IFAAStep SDK_INT s (.bindThrows c) t := by
  unfold bindThrows at hstep
  split at hstep
  case h_1 call x hthread hx =>
      cases hstep
      exact .bindThrows hthread hx
  case h_2 => contradiction

theorem step_cases (hstep : (machine SDK_INT).step s a = some t) :
    IFAAStep SDK_INT s a t := by
  cases a with
  | getIFAAManager c x =>
      obtain ⟨hout, rfl⟩ := enter_eq_some hstep
      exact .getIFAAManager hout
  | getInstance c x =>
      obtain ⟨hout, rfl⟩ := enter_eq_some hstep
      exact .getInstance hout
  | thread c => exact ifaaThread_cases hstep
  | bindThrows c => exact bindThrows_cases hstep
  | getEnabled c bioType =>
      simp only [machine, step] at hstep
      split_ifs at hstep with hhas
      cases hstep
      exact .getEnabled hhas
  | getIDList c bioType =>
      simp only [machine, step] at hstep
      split_ifs at hstep with hhas
      cases hstep
      exact .getIDList hhas
  | processCmdV2 c answer =>
      simp only [machine, step] at hstep
      split_ifs at hstep with hhas
      cases hstep
      exact .processCmdV2 hhas
  | onServiceConnected b =>
      cases hstep
      exact .onServiceConnected
  | onServiceDisconnected =>
      cases hstep
      exact .onServiceDisconnected
  | dies b =>
      simp only [machine, step] at hstep
      split_ifs at hstep with halive
      cases hstep
      exact .dies halive
  | binderDied b =>
      simp only [machine, step] at hstep
      split_ifs at hstep with hmem
      cases hstep
      exact .binderDied hmem

/-! ## Updates -/

@[simp] theorem goto_thread_self {c : ℕ} {pc : IFAAPc} :
    (s.goto c pc).thread c = pc := by
  simp [goto]

theorem goto_thread_of_ne {c d : ℕ} {pc : IFAAPc} (hne : d ≠ c) :
    (s.goto c pc).thread d = s.thread d := by
  simp [goto, Function.update_of_ne hne]

end IFAAProcess

end Samurai
