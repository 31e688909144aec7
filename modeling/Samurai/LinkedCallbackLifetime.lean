import Samurai.LinkedCallbackModel

/-!
# The lifetime of the object a death cookie names

The destructor of a `LinkedCallback` takes its link back, which keeps new
handlers away, and a handler goes through the lock before it compares.  Both
leave a gap.  The link is made before the two fields are set, so that a notice
may come to an object without them.  And a handler that has been entered reads
the object before it has the lock and again when it has it, while the handler
of another link of the same binder destroys it.

Without these two events no handler reads an object that is destroyed or
incomplete; after either of them one can.
-/

namespace Samurai

/-- Not destroyed, and both fields are set. -/
def LinkedObject.Sound (object : LinkedObject) : Prop :=
  object.alive = true ∧ object.service_ = true ∧ object.callback_ ≠ none

def Argument.cookie : Argument → Option ℕ
  | .value _ => none
  | .member cookie => some cookie

def BinderPc.reads : BinderPc → Option ℕ
  | .onCallbackDied cookie => some cookie
  | .unregisterTest argument => argument.cookie
  | .unregisterCopy argument => argument.cookie
  | _ => none

/-- The object a handler will read, at once or when it gets the lock. -/
def BinderPc.pending : BinderPc → Option ℕ
  | .unregisterLock argument => argument.cookie
  | pc => pc.reads

theorem BinderPc.pending_of_reads {pc : BinderPc} {k : ℕ}
    (hreads : pc.reads = some k) : pc.pending = some k := by
  cases pc with
  | unregisterLock argument => contradiction
  | _ => exact hreads

namespace CallbackService

variable {s t : CallbackService} {a : BinderAction} {c d k : ℕ}

def BadRead (s : CallbackService) : Prop :=
  ∃ c k, (s.thread c).reads = some k ∧ ¬ (s.object k).Sound

/-- A notice is dispatched only after both fields are set, and an entry is
destroyed only when no handler has yet to read it. -/
def Orderly (s : CallbackService) (a : BinderAction) : Prop :=
  (∀ c k, a = .dispatch c k → (s.object k).Sound) ∧
  ∀ d k, a = .erase d k → ∀ c, (s.thread c).pending ≠ some k

/-! ## Orderly runs -/

theorem pending_goto {pc : BinderPc}
    (hpc : pc.pending = some k →
      (s.thread c).pending = some k ∨ a = .dispatch c k)
    (hafter : ((s.goto c pc).thread d).pending = some k) :
    (s.thread d).pending = some k ∨ a = .dispatch d k := by
  by_cases hd : d = c
  · subst hd
    rw [goto_thread_self] at hafter
    exact hpc hafter
  · rw [goto_thread_of_ne hd] at hafter
    exact .inl hafter

theorem pending_before (hstep : BinderStep s a t)
    (hafter : (t.thread d).pending = some k) :
    (s.thread d).pending = some k ∨ a = .dispatch d k := by
  cases hstep
  case erase => exact .inl hafter
  case dispatch c j hidle hlink =>
      apply pending_goto (c := c) _ hafter
      intro hpc
      cases hpc
      exact .inr rfl
  case request c request hidle =>
      apply pending_goto _ hafter
      intro hpc
      cases request with
      | registerCallback callback => cases callback <;> cases hpc
      | unregisterCallback callback => cases hpc
  all_goals
    apply pending_goto _ hafter
    simp [*, BinderPc.pending, BinderPc.reads, Argument.cookie]

inductive ObjectStep (s : CallbackService) (a : BinderAction)
    (t : CallbackService) (k : ℕ) : Prop
  | same : t.object k = s.object k → ObjectStep s a t k
  | new : k = s.allocated → t.allocated = s.allocated + 1 →
      t.object k = ⟨true, false, none, .none⟩ → ObjectStep s a t k
  | link (link : LinkState) :
      t.object k = { s.object k with link := link } → ObjectStep s a t k
  | service : t.object k = { s.object k with service_ := true } →
      ObjectStep s a t k
  | member (c : ℕ) (callback : Callback) :
      s.thread c = .registerMember callback k →
      t.thread c = .registerAppend callback k →
      t.object k = { s.object k with callback_ := some callback } →
      ObjectStep s a t k
  | destroy (link : LinkState) :
      ((∃ d, a = .erase d k) ∨
        ∃ c callback, s.thread c = .registerLink callback k) →
      t.object k = { s.object k with alive := false, link := link } →
      ObjectStep s a t k

theorem objectStep_set {object : LinkedObject} {j : ℕ}
    (hother : t.object = Function.update s.object j object)
    (hself : k = j → t.object k = object → ObjectStep s a t k) :
    ObjectStep s a t k := by
  by_cases hk : k = j
  · apply hself hk
    rw [hother, hk, Function.update_self]
  · apply ObjectStep.same
    rw [hother, Function.update_of_ne hk]

theorem object_cases (hstep : BinderStep s a t) (k : ℕ) :
    ObjectStep s a t k := by
  cases hstep with
  | dispatch _ _ =>
      apply objectStep_set
      · rfl
      · rintro rfl hobject
        exact .link _ hobject
  | registerNew _ =>
      apply objectStep_set
      · rfl
      · intro hk hobject
        exact .new hk rfl hobject
  | registerLink _ =>
      apply objectStep_set
      · rfl
      · rintro rfl hobject
        exact .link _ hobject
  | registerService _ =>
      apply objectStep_set
      · rfl
      · rintro rfl hobject
        exact .service hobject
  | registerMember hthread =>
      apply objectStep_set
      · rfl
      · rintro rfl hobject
        exact .member _ _ hthread goto_thread_self hobject
  | linkFailed hthread =>
      apply objectStep_set
      · rfl
      · rintro rfl hobject
        exact .destroy _ (.inr ⟨_, _, hthread⟩) hobject
  | erase _ _ _ =>
      apply objectStep_set
      · rfl
      · rintro rfl hobject
        exact .destroy _ (.inl ⟨_, rfl⟩) hobject
  | _ => exact .same rfl

def Allocates (s : CallbackService) : Prop :=
  ∀ k, s.allocated ≤ k → (s.object k).alive = false

/-- An object about to be linked has no callback yet. -/
def Unfilled (s : CallbackService) : Prop :=
  ∀ c callback k, s.thread c = .registerLink callback k →
    (s.object k).callback_ = none

theorem allocated_mono (hstep : BinderStep s a t) :
    s.allocated ≤ t.allocated := by
  cases hstep
  case registerNew => exact Nat.le_succ _
  all_goals exact le_refl _

theorem Allocates.step (hs : s.Allocates) (hstep : BinderStep s a t) :
    t.Allocates := by
  intro k hk
  have hdead := hs k (le_trans (allocated_mono hstep) hk)
  cases object_cases hstep k with
  | same hobject => rw [hobject, hdead]
  | new hnew hallocated _ => omega
  | link _ hobject => rw [hobject, hdead]
  | service hobject => rw [hobject, hdead]
  | member _ _ _ _ hobject => rw [hobject, hdead]
  | destroy _ _ hobject => rw [hobject]

theorem registerLink_goto {pc : BinderPc} {callback : Callback}
    (hpc : pc ≠ .registerLink callback k)
    (hafter : (s.goto c pc).thread d = .registerLink callback k) :
    s.thread d = .registerLink callback k := by
  by_cases hd : d = c
  · subst hd
    rw [goto_thread_self] at hafter
    exact absurd hafter hpc
  · rw [goto_thread_of_ne hd] at hafter
    exact hafter

theorem registerLink_before {callback : Callback} (hstep : BinderStep s a t)
    (hafter : t.thread d = .registerLink callback k) :
    s.thread d = .registerLink callback k ∨
      (t.object k).callback_ = none := by
  cases hstep
  case registerNew c b callback' hthread =>
      by_cases hd : d = c
      · subst hd
        rw [goto_thread_self] at hafter
        cases hafter
        exact .inr (by simp)
      · rw [goto_thread_of_ne hd] at hafter
        exact .inl hafter
  case erase => exact .inl hafter
  case request c request hidle =>
      apply Or.inl
      apply registerLink_goto _ hafter
      cases request with
      | registerCallback callback => cases callback <;> simp [entry]
      | unregisterCallback callback => simp [entry]
  all_goals exact .inl (registerLink_goto (by simp) hafter)

theorem Unfilled.step (hs : s.Unfilled) (hdisc : s.Disciplined)
    (hstep : BinderStep s a t) : t.Unfilled := by
  intro d callback k hafter
  rcases registerLink_before hstep hafter with hthread | hnone
  · have hempty := hs d callback k hthread
    cases object_cases hstep k with
    | same hobject => rw [hobject, hempty]
    | new _ _ hobject => rw [hobject]
    | link _ hobject => rw [hobject, hempty]
    | service hobject => rw [hobject, hempty]
    | member c _ hmember hmoved _ =>
        -- Both threads would hold the lock.
        have hc : s.inside c := by
          rw [inside, hmember]
          rfl
        have hd : s.inside d := by
          rw [inside, hthread]
          rfl
        have hsame : c = d := Owned.unique hdisc hc hd
        rw [hsame, hafter] at hmoved
        contradiction
    | destroy _ _ hobject => rw [hobject, hempty]
  · exact hnone

/-- A sound object stays sound until it is destroyed as an entry. -/
theorem sound_after (hallocates : s.Allocates) (hunfilled : s.Unfilled)
    (hstep : BinderStep s a t) (hsound : (s.object k).Sound) :
    (t.object k).Sound ∨ ∃ d, a = .erase d k := by
  rcases hsound with ⟨halive, hservice, hcallback⟩
  cases object_cases hstep k with
  | same hobject =>
      rw [hobject]
      exact .inl ⟨halive, hservice, hcallback⟩
  | new hnew _ _ =>
      have hdead := hallocates k (le_of_eq hnew.symm)
      rw [halive] at hdead
      contradiction
  | link _ hobject =>
      rw [hobject]
      exact .inl ⟨halive, hservice, hcallback⟩
  | service hobject =>
      rw [hobject]
      exact .inl ⟨halive, rfl, hcallback⟩
  | member _ _ _ _ hobject =>
      rw [hobject]
      exact .inl ⟨halive, hservice, by simp⟩
  | destroy _ hwhy _ =>
      rcases hwhy with herase | ⟨c, callback, hthread⟩
      · exact .inr herase
      · exact absurd (hunfilled c callback k hthread) hcallback

structure LifetimeInvariant (s : CallbackService) : Prop where
  disciplined : s.Disciplined
  allocates : s.Allocates
  unfilled : s.Unfilled
  sound : ∀ c k, (s.thread c).pending = some k → (s.object k).Sound

theorem LifetimeInvariant.step (hs : s.LifetimeInvariant)
    (hok : Orderly s a) (hstep : BinderStep s a t) :
    t.LifetimeInvariant where
  disciplined := hs.disciplined.step hstep
  allocates := hs.allocates.step hstep
  unfilled := hs.unfilled.step hs.disciplined hstep
  sound := by
    intro c k hafter
    have hbefore : (s.object k).Sound ∧ ∀ d, a ≠ .erase d k := by
      rcases pending_before hstep hafter with hpending | hdispatch
      · have hspared : ∀ d, a ≠ .erase d k := by
          intro d herase
          exact hok.2 d k herase c hpending
        exact ⟨hs.sound c k hpending, hspared⟩
      · have hspared : ∀ d, a ≠ .erase d k := by
          intro d herase
          rw [hdispatch] at herase
          contradiction
        exact ⟨hok.1 c k hdispatch, hspared⟩
    rcases sound_after hs.allocates hs.unfilled hstep hbefore.1 with
      hsound | ⟨d, herase⟩
    · exact hsound
    · exact absurd herase (hbefore.2 d)

theorem initial_lifetimeInvariant : initial.LifetimeInvariant where
  disciplined := initial_disciplined
  allocates := by
    intro k _
    rfl
  unfilled := by
    intro c callback k hthread
    contradiction
  sound := by
    intro c k hpending
    contradiction

theorem reachable_lifetimeInvariant
    (hs : machine.ReachableUnder Orderly s) : s.LifetimeInvariant := by
  apply Machine.ReachableUnder.invariant _ _ hs
  · intro s hinit
    rw [hinit]
    exact initial_lifetimeInvariant
  · intro s a t _ hinv hok hstep
    exact hinv.step hok (step_cases hstep)

theorem not_badRead_of_orderly (hs : machine.ReachableUnder Orderly s) :
    ¬ s.BadRead := by
  intro hbad
  rcases hbad with ⟨c, k, hreads, hunsound⟩
  have hpending := BinderPc.pending_of_reads hreads
  exact hunsound ((reachable_lifetimeInvariant hs).sound c k hpending)

/-! ## The two other events -/

theorem not_sound_of_dead (hdead : (s.object k).alive = false) :
    ¬ (s.object k).Sound := by
  intro hsound
  rw [hsound.1] at hdead
  contradiction

/-- A thread that erases can go on until it has given up the lock; nobody else
moves, and what is dead stays dead. -/
theorem erase_finishes {callback : Callback} (s : CallbackService)
    (hthread : s.thread d = .unregisterErase callback) :
    ∃ as t, machine.run s as = some t ∧ t.callback_mutex_lock = none ∧
      (∀ c, c ≠ d → t.thread c = s.thread c) ∧
      ∀ k, (s.object k).alive = false → (t.object k).alive = false := by
  induction hlength : s.callbacks_.length using Nat.strong_induction_on
    generalizing s with
  | _ n ih =>
      cases hmatch : s.callbacks_.any (s.compares callback) with
      | false =>
          refine ⟨[.thread d true, .thread d true],
            (s.goto d .unregisterUnlock).unlock.goto d .idle, ?_, rfl, ?_, ?_⟩
          · simp [Machine.run, machine, step, threadStep, hthread, hmatch]
          · intro c hc
            rw [goto_thread_of_ne hc]
            exact goto_thread_of_ne hc
          · intro k hdead
            exact hdead
      | true =>
          rcases List.any_eq_true.mp hmatch with ⟨j, hj, hcompares⟩
          let r : CallbackService :=
            { s.destroy j with callbacks_ := s.callbacks_.erase j }
          have hshorter : r.callbacks_.length < n := by
            have herase := List.length_erase_of_mem hj
            have hpos := List.length_pos_of_mem hj
            simp only [r]
            omega
          rcases ih _ hshorter r hthread rfl with
            ⟨as, t, hrun, hfree, hothers, hdead⟩
          refine ⟨.erase d j :: as, t, ?_, hfree, hothers, ?_⟩
          · have hstep : machine.step s (.erase d j) = some r := by
              simp [machine, step, eraseStep, hthread, hj, hcompares, r]
            rw [Machine.run_cons hstep]
            exact hrun
          · intro k hk
            apply hdead
            by_cases hkj : k = j
            · subst hkj
              simp [r, destroy]
            · simp only [r, destroy]
              rw [set_object_of_ne hkj]
              exact hk

theorem badRead_of_dispatch (hstep : machine.step s (.dispatch c k) = some t)
    (hunsound : ¬ (s.object k).Sound) : t.BadRead := by
  cases step_cases hstep
  refine ⟨c, k, ?_, ?_⟩
  · rw [goto_thread_self]
    rfl
  · rw [goto_object, set_object_self]
    exact hunsound

theorem badRead_of_erase {callback : Callback}
    (hthread : s.thread d = .unregisterErase callback)
    (hmem : k ∈ s.callbacks_) (hcompares : s.compares callback k = true)
    (hpending : (s.thread c).pending = some k) :
    ∃ as u, machine.run s (.erase d k :: as) = some u ∧ u.BadRead := by
  let r : CallbackService :=
    { s.destroy k with callbacks_ := s.callbacks_.erase k }
  have hstep : machine.step s (.erase d k) = some r := by
    simp [machine, step, eraseStep, hthread, hmem, hcompares, r]
  have hdead : (r.object k).alive = false := by
    simp [r, destroy]
  have hcd : c ≠ d := by
    intro hsame
    rw [hsame, hthread] at hpending
    contradiction
  by_cases hreads : (s.thread c).reads = some k
  · refine ⟨[], r, ?_, c, k, hreads, not_sound_of_dead hdead⟩
    rw [Machine.run_cons hstep]
    rfl
  · have hwaits : ∃ argument, s.thread c = .unregisterLock argument ∧
        argument.cookie = some k := by
      cases hc : s.thread c with
      | unregisterLock argument =>
          rw [hc] at hpending
          exact ⟨argument, rfl, hpending⟩
      | _ =>
          rw [hc] at hpending hreads
          exact absurd hpending hreads
    rcases hwaits with ⟨argument, hc, hcookie⟩
    rcases erase_finishes r hthread with
      ⟨as, t, hrun, hfree, hothers, hstays⟩
    have htc : t.thread c = .unregisterLock argument := by
      rw [hothers c hcd]
      exact hc
    let u : CallbackService :=
      { t with callback_mutex_lock := some c }.goto c (.unregisterCopy argument)
    have hlock : machine.step t (.thread c true) = some u := by
      simp [machine, step, threadStep, htc, lock, hfree, u]
    refine ⟨as ++ [.thread c true], u, ?_, c, k, ?_, ?_⟩
    · rw [Machine.run_cons hstep, Machine.run_append_eq_some]
      exact ⟨t, hrun, Machine.run_singleton.trans hlock⟩
    · simp only [u, goto_thread_self]
      exact hcookie
    · exact not_sound_of_dead (s := t) (hstays k hdead)

theorem unsound_of_not_orderly (hunorderly : ¬ Orderly s (.dispatch c k)) :
    ¬ (s.object k).Sound := by
  intro hsound
  apply hunorderly
  constructor
  · intro c' k' ha
    cases ha
    exact hsound
  · intro d k' ha
    contradiction

theorem pending_of_not_orderly (hunorderly : ¬ Orderly s (.erase d k)) :
    ∃ c, (s.thread c).pending = some k := by
  by_contra hnone
  apply hunorderly
  constructor
  · intro c k' ha
    contradiction
  · intro d' k' ha c hpending
    cases ha
    exact hnone ⟨c, hpending⟩

theorem badRead_of_not_orderly (hstep : machine.step s a = some t)
    (hunorderly : ¬ Orderly s a) :
    ∃ as u, machine.run s (a :: as) = some u ∧ u.BadRead := by
  cases a with
  | request c request | thread c b =>
      exfalso
      apply hunorderly
      constructor
      · intro c k ha
        contradiction
      · intro d k ha
        contradiction
  | dispatch c k =>
      have hunsound := unsound_of_not_orderly hunorderly
      have hrun : machine.run s [.dispatch c k] = some t := by
        rw [Machine.run_cons hstep]
        rfl
      exact ⟨[], t, hrun, badRead_of_dispatch hstep hunsound⟩
  | erase d k =>
      rcases pending_of_not_orderly hunorderly with ⟨c, hpending⟩
      cases step_cases hstep with
      | erase hthread hmem hcompares =>
          exact badRead_of_erase hthread hmem hcompares hpending

/-- In orderly runs no handler is about to read an object that is destroyed
or incomplete; every other step can be followed by such a read. -/
theorem badRead_of_unorderly (s : CallbackService) :
    (machine.ReachableUnder Orderly s → ¬ s.BadRead) ∧
    ∀ a t, machine.step s a = some t → ¬ Orderly s a →
      ∃ as u, machine.run s (a :: as) = some u ∧ u.BadRead := by
  constructor
  · exact not_badRead_of_orderly
  · intro a t hstep hunorderly
    exact badRead_of_not_orderly hstep hunorderly

/-! ## Three runs -/

def someCallback : Callback where
  proxy := 1
  asBinder := 1

/-- A registration; then the client dies and the handler finds the entry. -/
def deathRun : List BinderAction :=
  [.request 0 (.registerCallback (some someCallback)), .thread 0 true,
    .thread 0 true, .thread 0 true, .thread 0 true, .thread 0 true,
    .thread 0 true, .thread 0 true, .thread 0 true, .dispatch 1 0,
    .thread 1 true, .thread 1 true, .thread 1 true, .thread 1 true]

/-- What is checked of a step that destroys nothing. -/
def checkOrderly (s : CallbackService) : BinderAction → Bool
  | .dispatch _ cookie =>
      let object := s.object cookie
      object.alive && object.service_ && object.callback_.isSome
  | .erase _ _ => false
  | _ => true

theorem orderly_of_check (hcheck : s.checkOrderly a = true) : Orderly s a := by
  constructor
  · rintro c k rfl
    simp only [checkOrderly, Bool.and_eq_true] at hcheck
    exact ⟨hcheck.1.1, hcheck.1.2, Option.isSome_iff_ne_none.mp hcheck.2⟩
  · rintro d k rfl
    contradiction

theorem death_handled : ∃ s,
    machine.run initial
      (deathRun ++ [.erase 1 0, .thread 1 true, .thread 1 true]) = some s ∧
    s.thread 1 = .idle ∧ s.callbacks_ = [] ∧ (s.object 0).alive = false ∧
    machine.ReachableUnder Orderly s ∧ ¬ s.BadRead := by
  obtain ⟨r, hrun, hclient, hhandler, hothers⟩ : ∃ r,
      machine.run initial deathRun = some r ∧ r.thread 0 = .idle ∧
        r.thread 1 = .unregisterErase someCallback ∧
        ∀ c, r.thread (c + 2) = .idle :=
    ⟨_, rfl, rfl, rfl, fun _ => rfl⟩
  have hnobody : ∀ c, (r.thread c).pending ≠ some 0 := by
    intro c hpending
    match c with
    | 0 => rw [hclient] at hpending; contradiction
    | 1 => rw [hhandler] at hpending; contradiction
    | c + 2 => rw [hothers] at hpending; contradiction
  have hdied : machine.ReachableUnder Orderly r :=
    Machine.reachableUnder_of_run (M := machine) rfl
      (Machine.along_of_check (fun _ _ => orderly_of_check) (by decide)) hrun
  have herase : Orderly r (.erase 1 0) := by
    constructor
    · intro c k ha
      contradiction
    · rintro d k ha
      cases ha
      exact hnobody
  obtain ⟨s, hstep, hend, hempty, hdead⟩ : ∃ s,
      machine.run r [.erase 1 0, .thread 1 true, .thread 1 true] = some s ∧
        s.thread 1 = .idle ∧ s.callbacks_ = [] ∧
        (s.object 0).alive = false := by
    cases hrun
    exact ⟨_, rfl, rfl, rfl, rfl⟩
  have halong : machine.Along Orderly r
      [.erase 1 0, .thread 1 true, .thread 1 true] := by
    refine ⟨herase, ?_⟩
    intro t ht
    apply Machine.along_of_check (fun _ _ => orderly_of_check)
    cases hrun
    cases ht
    rfl
  have hs := hdied.run halong hstep
  refine ⟨s, ?_, hend, hempty, hdead, hs, (badRead_of_unorderly s).1 hs⟩
  rw [Machine.run_append_eq_some]
  exact ⟨r, hrun, hstep⟩

/-- The link is made; the notice comes before the fields are set. -/
def earlyNoticeRun : List BinderAction :=
  [.request 0 (.registerCallback (some someCallback)), .thread 0 true,
    .thread 0 true, .thread 0 true, .dispatch 1 0]

/-- Two registrations of one binder; both notices are dispatched, and the
first handler destroys both objects. -/
def twoNoticesRun : List BinderAction :=
  [.request 0 (.registerCallback (some someCallback)), .thread 0 true,
    .thread 0 true, .thread 0 true, .thread 0 true, .thread 0 true,
    .thread 0 true, .thread 0 true, .thread 0 true,
    .request 0 (.registerCallback (some someCallback)), .thread 0 true,
    .thread 0 true, .thread 0 true, .thread 0 true, .thread 0 true,
    .thread 0 true, .thread 0 true, .thread 0 true,
    .dispatch 1 0, .dispatch 2 1, .thread 1 true, .thread 1 true,
    .thread 1 true, .thread 1 true, .erase 1 1, .erase 1 0]

theorem handler_reads_unset_and_destroyed :
    (¬ ∀ s, machine.Reachable s → ¬ s.BadRead) ∧
    (∃ s, machine.run initial earlyNoticeRun = some s ∧
      (s.thread 1).reads = some 0 ∧ (s.object 0).service_ = false) ∧
    ∃ s, machine.run initial twoNoticesRun = some s ∧
      (s.thread 2).reads = some 1 ∧ (s.object 1).alive = false := by
  obtain ⟨s, hrun, hreads, hservice⟩ :
      ∃ s, machine.run initial earlyNoticeRun = some s ∧
        (s.thread 1).reads = some 0 ∧ (s.object 0).service_ = false :=
    ⟨_, rfl, rfl, rfl⟩
  refine ⟨?_, ⟨s, hrun, hreads, hservice⟩, _, rfl, rfl, rfl⟩
  intro hclaim
  apply hclaim s (Machine.reachable_of_run (M := machine) rfl hrun)
  refine ⟨1, 0, hreads, ?_⟩
  intro hsound
  rw [hsound.2.1] at hservice
  contradiction

end CallbackService

end Samurai
