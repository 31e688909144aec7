import Samurai.UdfpsHelperRefinement

/-!
# What a registered callback has been told

A callback is told the touch status when it is registered.  `touchDown`,
`touchUp` and the touch up forced by the watchdog change the status and have
their call of `OnUdfpsTouchStatusChanged` commented out.  So a callback knows
the status exactly as long as it does not change under it.
-/

namespace Samurai

/-- The operations of the service that its clients and its watchdog cause. -/
inductive StatusEvent where
  | registerCallback (callback : Option Callback) (linkRet : ℤ)
      (res : ScopedAStatus)
  | unregisterCallback (callback : Option Callback)
  | touchDown
  | touchUp
  | forcedTouchUp
  deriving DecidableEq, Repr

/-- The call that tells a callback the status on its registration reaches it,
whatever the callback then returns. -/
def StatusEvent.Accepted : StatusEvent → Prop
  | .registerCallback _ _ res => res.getStatus = STATUS_OK
  | .unregisterCallback _ => True
  | .touchDown => True
  | .touchUp => True
  | .forcedTouchUp => True

/-- The status after an operation of a service with the status `down`. -/
def StatusEvent.newStatus (down : Bool) : StatusEvent → Bool
  | .registerCallback _ _ _ => down
  | .unregisterCallback _ => down
  | .touchDown => true
  | .touchUp => false
  | .forcedTouchUp => false

/-- The last value told to the object with this binder. -/
def lastNotified (notified : List (Callback × Bool)) (binder : ℕ) :
    Option Bool :=
  (notified.reverse.find? fun call => call.1.asBinder = binder).map Prod.snd

theorem lastNotified_append (notified : List (Callback × Bool))
    (callback : Callback) (down : Bool) (binder : ℕ) :
    lastNotified (notified ++ [(callback, down)]) binder =
      if callback.asBinder = binder then some down
      else lastNotified notified binder := by
  unfold lastNotified
  rw [List.reverse_append, List.reverse_singleton, List.singleton_append,
    List.find?_cons]
  by_cases hbinder : callback.asBinder = binder
  · simp [hbinder]
  · simp [hbinder]

namespace UdfpsHelper

/-- What the watchdog does three seconds after it saw the status down. -/
def forceTouchUp (s : UdfpsHelper) : UdfpsHelper :=
  if s.currentIsDownState then s.touchUp.2 else s

def statusStep (s : UdfpsHelper) : StatusEvent → Option UdfpsHelper
  | .registerCallback callback linkRet res =>
      s.step (.registerCallback callback linkRet res)
  | .unregisterCallback callback => s.step (.unregisterCallback callback)
  | .touchDown => s.step .touchDown
  | .touchUp => s.step .touchUp
  | .forcedTouchUp => some s.forceTouchUp

def statusMachine : Machine UdfpsHelper StatusEvent where
  Initial s := s = initial
  step := statusStep

def registered (s : UdfpsHelper) : List Callback :=
  s.callbacks_.reduceOption.map Linked.callback

/-- Every registered callback was last told the current status. -/
def SubscribersCurrent (s : UdfpsHelper) : Prop :=
  ∀ callback ∈ s.registered,
    lastNotified s.notified callback.asBinder = some s.currentIsDownState

/-- The operation leaves the status as it is, or nobody is registered. -/
def Unobserved (s : UdfpsHelper) (e : StatusEvent) : Prop :=
  s.registered = [] ∨ e.newStatus s.currentIsDownState = s.currentIsDownState

end UdfpsHelper

/-! ## The reference -/

namespace Reference

def forceTouchUp (r : Reference) : Reference :=
  if r.currentIsDownState then { r with currentIsDownState := false } else r

def statusStep (r : Reference) : StatusEvent → Reference
  | .registerCallback callback linkRet res =>
      r.step (.registerCallback callback linkRet res)
  | .unregisterCallback callback => r.step (.unregisterCallback callback)
  | .touchDown => r.step .touchDown
  | .touchUp => r.step .touchUp
  | .forcedTouchUp => r.forceTouchUp

def SubscribersCurrent (r : Reference) : Prop :=
  ∀ callback ∈ r.entries,
    lastNotified r.notified callback.asBinder = some r.currentIsDownState

def Unobserved (r : Reference) (e : StatusEvent) : Prop :=
  r.entries = [] ∨ e.newStatus r.currentIsDownState = r.currentIsDownState

variable {r r' : Reference}

/-- With the entries and the calls as they were, a new status is known only
where there is nobody to know it or it is the old one. -/
theorem SubscribersCurrent.setStatus (hr : r.SubscribersCurrent)
    (hentries : r'.entries = r.entries) (hnotified : r'.notified = r.notified) :
    r'.SubscribersCurrent ↔
      r.entries = [] ∨ r'.currentIsDownState = r.currentIsDownState := by
  unfold SubscribersCurrent
  rw [hentries, hnotified]
  constructor
  · intro hcurrent
    cases hlist : r.entries with
    | nil => exact Or.inl rfl
    | cons callback rest =>
        have hmem : callback ∈ r.entries := by simp [hlist]
        have hnew := hcurrent callback hmem
        rw [hr callback hmem] at hnew
        exact Or.inr (Option.some.inj hnew).symm
  · intro hsame callback hmem
    rcases hsame with hnone | hsame
    · rw [hnone] at hmem
      contradiction
    · rw [hsame]
      exact hr callback hmem

theorem SubscribersCurrent.sublist (hr : r.SubscribersCurrent)
    (hentries : r'.entries.Sublist r.entries)
    (hnotified : r'.notified = r.notified)
    (hstatus : r'.currentIsDownState = r.currentIsDownState) :
    r'.SubscribersCurrent := by
  intro callback hmem
  rw [hnotified, hstatus]
  exact hr callback (hentries.subset hmem)

theorem SubscribersCurrent.register (hr : r.SubscribersCurrent)
    (callback : Option Callback) (linkRet : ℤ) {res : ScopedAStatus}
    (hres : res.getStatus = STATUS_OK) :
    (r.register callback linkRet res).SubscribersCurrent := by
  have halive : res.getStatus ≠ STATUS_DEAD_OBJECT := by
    rw [hres]
    decide
  cases callback with
  | none => exact hr
  | some callback =>
      unfold Reference.register
      by_cases hlink : linkRet = STATUS_OK
      · simp only [if_pos hlink, if_neg halive]
        intro c hmem
        rw [lastNotified_append]
        split_ifs with hbinder
        · rfl
        · rcases List.mem_append.mp hmem with hold | hnew
          · exact hr c hold
          · have hsame : c = callback := by simpa using hnew
            exact absurd (congrArg Callback.asBinder hsame.symm) hbinder
      · simp only [if_neg hlink]
        exact hr

theorem SubscribersCurrent.unregister (hr : r.SubscribersCurrent)
    (callback : Option Callback) :
    (r.unregister callback).SubscribersCurrent := by
  cases callback with
  | none => exact hr
  | some callback => exact hr.sublist List.filter_sublist rfl rfl

theorem SubscribersCurrent.statusStep (hr : r.SubscribersCurrent)
    {e : StatusEvent} (he : e.Accepted) :
    (r.statusStep e).SubscribersCurrent ↔ r.Unobserved e := by
  cases e with
  | registerCallback callback linkRet res =>
      have hcurrent : (r.register callback linkRet res).SubscribersCurrent :=
        hr.register callback linkRet he
      exact ⟨fun _ => Or.inr rfl, fun _ => hcurrent⟩
  | unregisterCallback callback =>
      exact ⟨fun _ => Or.inr rfl, fun _ => hr.unregister callback⟩
  | touchDown => exact hr.setStatus rfl rfl
  | touchUp => exact hr.setStatus rfl rfl
  | forcedTouchUp =>
      cases hdown : r.currentIsDownState with
      | false =>
          have hidle : r.statusStep .forcedTouchUp = r := by
            simp [Reference.statusStep, forceTouchUp, hdown]
          rw [hidle]
          exact ⟨fun _ => Or.inr hdown.symm, fun _ => hr⟩
      | true =>
          have hforced : r.statusStep .forcedTouchUp =
              { r with currentIsDownState := false } := by
            simp [Reference.statusStep, forceTouchUp, hdown]
          rw [hforced]
          exact hr.setStatus rfl rfl

end Reference

namespace UdfpsHelper

variable {s t : UdfpsHelper} {ls : List Linked} {r : Reference}

theorem Represents.registered (hs : s.Represents ls r) :
    s.registered = r.entries := by
  unfold UdfpsHelper.registered
  rw [hs.wellLinked.slots, ← hs.entries]
  simp [List.reduceOption]

theorem Represents.subscribersCurrent_iff (hs : s.Represents ls r) :
    s.SubscribersCurrent ↔ r.SubscribersCurrent := by
  unfold UdfpsHelper.SubscribersCurrent Reference.SubscribersCurrent
  rw [hs.registered, hs.notified, hs.status]

theorem Represents.unobserved_iff (hs : s.Represents ls r) (e : StatusEvent) :
    s.Unobserved e ↔ r.Unobserved e := by
  unfold UdfpsHelper.Unobserved Reference.Unobserved
  rw [hs.registered, hs.status]

theorem Represents.forceTouchUp (hs : s.Represents ls r) :
    s.forceTouchUp.Represents ls r.forceTouchUp := by
  unfold UdfpsHelper.forceTouchUp Reference.forceTouchUp
  rw [hs.status]
  split_ifs
  · exact
      { wellLinked := hs.wellLinked
        entries := hs.entries
        status := rfl
        notified := hs.notified
        returned := hs.returned }
  · exact hs

theorem Represents.statusStep (hs : s.Represents ls r) (e : StatusEvent) :
    ∃ t ls', statusMachine.step s e = some t ∧
      t.Represents ls' (r.statusStep e) := by
  cases e with
  | registerCallback callback linkRet res =>
      exact hs.step (e := .registerCallback callback linkRet res)
        (fun _ he => by cases he)
  | unregisterCallback callback =>
      exact hs.step (e := .unregisterCallback callback)
        (fun _ he => by cases he)
  | touchDown => exact hs.step (e := .touchDown) (fun _ he => by cases he)
  | touchUp => exact hs.step (e := .touchUp) (fun _ he => by cases he)
  | forcedTouchUp => exact ⟨_, ls, rfl, hs.forceTouchUp⟩

/-- From a state in which the callbacks know the status, they know it after
one more operation exactly when it went unobserved. -/
theorem Represents.current_step (hs : s.Represents ls r)
    (hcurrent : s.SubscribersCurrent) {e : StatusEvent} (he : e.Accepted)
    (hstep : statusMachine.step s e = some t) :
    t.SubscribersCurrent ↔ s.Unobserved e := by
  rcases hs.statusStep e with ⟨u, ls', hu, hrep⟩
  obtain rfl : u = t := Option.some.inj (hu.symm.trans hstep)
  rw [hrep.subscribersCurrent_iff, hs.unobserved_iff]
  exact (hs.subscribersCurrent_iff.mp hcurrent).statusStep he

theorem along_represents (hs : ∃ ls r, s.Represents ls r)
    {es : List StatusEvent} (haccepted : ∀ e ∈ es, e.Accepted) :
    statusMachine.Along
      (fun s e => (∃ ls r, s.Represents ls r) ∧ e.Accepted) s es := by
  induction es generalizing s with
  | nil => trivial
  | cons e es ih =>
      refine ⟨⟨hs, haccepted e (by simp)⟩, fun t hstep => ?_⟩
      rcases hs with ⟨ls, r, hs⟩
      rcases hs.statusStep e with ⟨u, ls', hu, hrep⟩
      obtain rfl : u = t := Option.some.inj (hu.symm.trans hstep)
      exact ih ⟨ls', _, hrep⟩ fun e he => haccepted e (by simp [he])

/-- The callbacks know the status after every operation of a run if and only
if no operation of the run changes it while a callback is registered. -/
theorem current_iff_unobserved (es : List StatusEvent)
    (haccepted : ∀ e ∈ es, e.Accepted) :
    statusMachine.Always SubscribersCurrent initial es ↔
      statusMachine.Along Unobserved initial es := by
  have hrep : ∃ ls r, initial.Represents ls r := ⟨_, _, initial_represents⟩
  apply Machine.always_iff_along _ _ _ (along_represents hrep haccepted)
  · rintro s e t hcurrent ⟨⟨ls, r, hs⟩, he⟩ hstep
    exact hs.current_step hcurrent he hstep
  · rintro s e ⟨⟨ls, r, hs⟩, he⟩
    rcases hs.statusStep e with ⟨t, _, hstep, _⟩
    exact ⟨t, hstep⟩
  · intro callback hmem
    contradiction

/-- A touch of a finger while one callback is registered. -/
def touchUnderCallback : List StatusEvent :=
  [.registerCallback (some ⟨0, 7⟩) STATUS_OK .ok, .touchDown]

theorem touchUnderCallback_accepted :
    ∀ e ∈ touchUnderCallback, e.Accepted := by
  simp [touchUnderCallback, StatusEvent.Accepted, ScopedAStatus.getStatus]

theorem current_iff_unobserved_touch :
    (∀ e ∈ touchUnderCallback, e.Accepted) ∧
      (statusMachine.Always SubscribersCurrent initial touchUnderCallback ↔
        statusMachine.Along Unobserved initial touchUnderCallback) :=
  ⟨touchUnderCallback_accepted,
    current_iff_unobserved touchUnderCallback touchUnderCallback_accepted⟩

theorem touchUnderCallback_not_current :
    (∀ e ∈ touchUnderCallback, e.Accepted) ∧
      ¬ statusMachine.Always SubscribersCurrent initial touchUnderCallback := by
  refine ⟨touchUnderCallback_accepted, fun halways => ?_⟩
  have hlast := halways.2 _ rfl |>.2 _ rfl
  have htold := hlast ⟨0, 7⟩ (by decide)
  revert htold
  decide

end UdfpsHelper

end Samurai
