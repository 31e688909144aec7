import Samurai.UdfpsWatchdogModel

/-!
# Which touch the watchdog ends

Around its sleep the watchdog looks at the flag twice and remembers nothing
else.  A `touchUp` and a new `touchDown` during the sleep leave the flag as it
was, and the new touch is ended as soon as the old sleep is over; likewise a
`touchUp` between the second look and the forced one goes unseen.

In runs without these two steps the forced `touchUp` ends the touch that was
timed.  Each such step, taken in any reachable state, can be followed by a
forced `touchUp` that ends another touch.
-/

namespace Samurai

/-- From the beginning of `sleep(3)` to the write of the forced `touchUp`. -/
def WatchdogPc.timing : WatchdogPc → Bool
  | .sleeping | .retest | .forceLock | .forceWrite => true
  | _ => false

namespace UdfpsWatchdog

variable {s t u : UdfpsWatchdog} {a : WatchdogAction}
  {as : List WatchdogAction} {c : ℕ}

def BeginsSleep (ok : UdfpsWatchdog → WatchdogAction → Prop)
    (t : UdfpsWatchdog) : Prop :=
  ∃ s, machine.ReachableUnder ok s ∧ ok s .watchdog ∧ s.watchdog = .sleep ∧
    machine.step s .watchdog = some t

/-- The run `as` goes from the beginning of a sleep to the state `u` in which
the watchdog, in the same iteration of its loop, is about to write its forced
`touchUp`. -/
structure ForcesTouchUp (ok : UdfpsWatchdog → WatchdogAction → Prop)
    (t : UdfpsWatchdog) (as : List WatchdogAction) (u : UdfpsWatchdog) :
    Prop where
  begins : BeginsSleep ok t
  along : machine.Along ok t as
  run : machine.run t as = some u
  iteration : machine.Always (fun s => s.watchdog.timing = true) t as
  forced : u.watchdog = .forceWrite

/-- A forced `touchUp` ends a touch that has lasted since the sleep began. -/
def EndsTimedTouch (ok : UdfpsWatchdog → WatchdogAction → Prop) : Prop :=
  ∀ t as u, ForcesTouchUp ok t as u →
    machine.Always (fun s => s.currentIsDownState = true) t as

/-- Until the second look at the flag no `touchDown` sets it anew, and after
it no `touchUp` clears it. -/
def TouchTimed (s : UdfpsWatchdog) (a : WatchdogAction) : Prop :=
  ∀ c, a = .caller c →
    (s.caller c = .write true →
      s.watchdog = .sleeping ∨ s.watchdog = .retest →
        s.currentIsDownState = true) ∧
    (s.caller c = .write false → s.watchdog ≠ .forceLock)

/-! ## Timed touches -/

def ForcesDown (s : UdfpsWatchdog) : Prop :=
  s.watchdog = .forceLock ∨ s.watchdog = .forceWrite →
    s.currentIsDownState = true

theorem Disciplined.caller_outside (hs : s.Disciplined)
    (hwatchdog : s.watchdog.inside = true) : (s.caller c).inside = false := by
  cases hcaller : (s.caller c).inside with
  | false => rfl
  | true =>
      have hsame : HelperThread.watchdog = .caller c :=
        Owned.unique hs hwatchdog hcaller
      contradiction

theorem ForcesDown.step (hs : s.ForcesDown) (hdisc : s.Disciplined)
    (hok : TouchTimed s a) (hstep : WatchdogStep s a t) : t.ForcesDown := by
  intro hforce
  cases hstep
  case retestDown _ hdown => exact hdown
  case forceLock hwatchdog _ => exact hs (.inl hwatchdog)
  case notify c down hcaller =>
      apply hs
      simp only [UdfpsWatchdog.goto, notifyAll] at hforce
      split_ifs at hforce with hwaiting
      · simp at hforce
      · exact hforce
  case write c down hcaller =>
      cases down with
      | true => rfl
      | false =>
          rcases hforce with hlock | hwrite
          · exact absurd hlock ((hok c rfl).2 hcaller)
          · have hin : s.watchdog.inside = true := by
              rw [show s.watchdog = .forceWrite from hwrite]
              rfl
            have hout := hdisc.caller_outside (c := c) hin
            rw [hcaller] at hout
            contradiction
  all_goals first
    | exact hs hforce
    | simp at hforce

theorem reachable_forcesDown (hs : machine.ReachableUnder TouchTimed s) :
    s.ForcesDown := by
  apply Machine.ReachableUnder.invariant _ _ hs
  · intro s hinit
    rw [hinit]
    intro hforce
    simp [initial] at hforce
  · intro s a t hs hforces hok hstep
    exact hforces.step (reachable_disciplined hs) hok (step_cases hstep)

/-- A flag found clear during the sleep stays clear. -/
theorem clear_stays (hforce : s.ForcesDown) (hok : TouchTimed s a)
    (htiming : s.watchdog.timing = true)
    (hclear : ¬ s.currentIsDownState = true)
    (hstep : WatchdogStep s a t) : ¬ t.currentIsDownState = true := by
  have hlook : s.watchdog = .sleeping ∨ s.watchdog = .retest := by
    cases hwatchdog : s.watchdog with
    | sleeping => exact .inl rfl
    | retest => exact .inr rfl
    | forceLock => exact absurd (hforce (.inl hwatchdog)) hclear
    | forceWrite => exact absurd (hforce (.inr hwatchdog)) hclear
    | _ =>
        rw [hwatchdog] at htiming
        contradiction
  cases hstep
  case write c down hcaller =>
      cases down with
      | true => exact absurd ((hok c rfl).1 hcaller hlook) hclear
      | false => simp [UdfpsWatchdog.goto]
  case forceWrite => simp
  all_goals exact hclear

theorem BeginsSleep.reachable {ok : UdfpsWatchdog → WatchdogAction → Prop}
    (hbegins : BeginsSleep ok t) : machine.ReachableUnder ok t := by
  rcases hbegins with ⟨s, hs, hok, _, hstep⟩
  exact hs.step hok hstep

theorem endsTimedTouch_timed : EndsTimedTouch TouchTimed := by
  intro t as u hforces
  have ht := hforces.begins.reachable
  have hinv : machine.Always (fun s => machine.ReachableUnder TouchTimed s)
      t as :=
    hforces.along.always (fun _ _ _ hs hok hstep => hs.step hok hstep) ht
  have hlast : u.currentIsDownState = true := by
    have hu : machine.ReachableUnder TouchTimed u :=
      ht.run hforces.along hforces.run
    exact reachable_forcesDown hu (.inr hforces.forced)
  have hgood := (hforces.along.and hforces.iteration.along).and hinv.along
  apply Machine.always_of_last _ hgood hforces.run hlast
  intro v b w hclear hv hstep
  have hforce : v.ForcesDown := reachable_forcesDown hv.2
  exact clear_stays hforce hv.1.1 hv.1.2 hclear (step_cases hstep)

/-! ## The two untimed steps -/

theorem timing_before (hstep : WatchdogStep s a t)
    (htiming : t.watchdog.timing = true) :
    (a = .watchdog ∧ s.watchdog = .sleep) ∨ s.watchdog.timing = true := by
  cases hstep
  case sleep hwatchdog => exact .inl ⟨rfl, hwatchdog⟩
  case retestDown hwatchdog _ | forceLock hwatchdog _ | sleepEnds hwatchdog =>
      apply Or.inr
      rw [hwatchdog]
      rfl
  case notify c down hcaller =>
      apply Or.inr
      simp only [UdfpsWatchdog.goto, notifyAll] at htiming
      split_ifs at htiming with hwaiting
      · contradiction
      · exact htiming
  all_goals first
    | exact .inr htiming
    | contradiction

theorem began_of_timing (hs : machine.Reachable s)
    (htiming : s.watchdog.timing = true) :
    ∃ t before, BeginsSleep (fun _ _ => True) t ∧
      machine.run t before = some s ∧
      machine.Always (fun s => s.watchdog.timing = true) t before := by
  induction hs with
  | initial hinit =>
      rw [hinit] at htiming
      contradiction
  | @step s r a hs _ hstep ih =>
      rcases timing_before (step_cases hstep) htiming with hbegins | hbefore
      · rcases hbegins with ⟨rfl, hsleep⟩
        exact ⟨r, [], ⟨s, hs, trivial, hsleep, hstep⟩, rfl, htiming⟩
      · rcases ih hbefore with ⟨t, before, hbegins, hrun, halways⟩
        have hlast : machine.Always (fun s => s.watchdog.timing = true)
            s [a] :=
          (Machine.always_cons hstep).mpr ⟨hbefore, htiming⟩
        have hlonger : machine.run t (before ++ [a]) = some r := by
          rw [Machine.run_append_eq_some]
          exact ⟨s, hrun, Machine.run_singleton.trans hstep⟩
        exact ⟨t, before ++ [a], hbegins, hlonger,
          halways.append hrun hlast⟩

/-- From `s` the same iteration of the watchdog goes on to a forced `touchUp`
although the flag is not set throughout. -/
def EndsOther (s : UdfpsWatchdog) (as : List WatchdogAction) : Prop :=
  ∃ u, machine.run s as = some u ∧ u.watchdog = .forceWrite ∧
    machine.Always (fun s => s.watchdog.timing = true) s as ∧
    ¬ machine.Always (fun s => s.currentIsDownState = true) s as

theorem endsOther_of_press (hcaller : s.caller c = .write true)
    (hclear : s.currentIsDownState = false) :
    (s.watchdog = .sleeping →
      EndsOther s [.caller c, .caller c, .caller c, .sleepEnds, .watchdog,
        .watchdog]) ∧
    (s.watchdog = .retest →
      EndsOther s [.caller c, .caller c, .caller c, .watchdog, .watchdog]) := by
  constructor
  · intro hwatchdog
    simp [EndsOther, Machine.run, Machine.Always, machine, step, callerStep,
      watchdogStep, hcaller, hwatchdog, hclear, goto, notifyAll,
      unlockFpdown, lockFpdown, WatchdogPc.timing]
  · intro hwatchdog
    simp [EndsOther, Machine.run, Machine.Always, machine, step, callerStep,
      watchdogStep, hcaller, hwatchdog, hclear, goto, notifyAll,
      unlockFpdown, lockFpdown, WatchdogPc.timing]

theorem endsOther_of_release (hcaller : s.caller c = .write false)
    (hwatchdog : s.watchdog = .forceLock) :
    EndsOther s [.caller c, .caller c, .caller c, .watchdog] := by
  simp [EndsOther, Machine.run, Machine.Always, machine, step, callerStep,
    watchdogStep, hcaller, hwatchdog, goto, notifyAll,
    unlockFpdown, lockFpdown, WatchdogPc.timing]

theorem endsOther_of_untimed (huntimed : ¬ TouchTimed s (.caller c)) :
    ∃ after, EndsOther s (.caller c :: after) := by
  simp only [TouchTimed, WatchdogAction.caller.injEq, forall_eq',
    not_and_or, Classical.not_imp] at huntimed
  rcases huntimed with ⟨hcaller, hlook, hclear⟩ | ⟨hcaller, hlock⟩
  · have hpress := endsOther_of_press hcaller (by simpa using hclear)
    rcases hlook with hsleeping | hretest
    · exact ⟨_, hpress.1 hsleeping⟩
    · exact ⟨_, hpress.2 hretest⟩
  · exact ⟨_, endsOther_of_release hcaller (not_not.mp hlock)⟩

/-- In runs without untimed steps the forced `touchUp` ends the touch that
was timed, and every untimed step of a run can be followed by one that ends
another. -/
theorem forced_touchUp_of_timed (s : UdfpsWatchdog) :
    (∀ as u, ForcesTouchUp TouchTimed s as u →
      machine.Always (fun t => t.currentIsDownState = true) s as) ∧
    ∀ c, machine.Reachable s → ¬ TouchTimed s (.caller c) →
      ∃ t before after u,
        machine.run t before = some s ∧
        ForcesTouchUp (fun _ _ => True) t (before ++ .caller c :: after) u ∧
        ¬ machine.Always (fun s => s.currentIsDownState = true) t
          (before ++ .caller c :: after) := by
  constructor
  · exact endsTimedTouch_timed s
  · intro c hs huntimed
    rcases endsOther_of_untimed huntimed with
      ⟨after, u, hafter, hforced, hrest, hclear⟩
    rcases began_of_timing hs hrest.head with
      ⟨t, before, hbegins, hrun, htimes⟩
    have hwhole : machine.run t (before ++ .caller c :: after) = some u := by
      rw [Machine.run_append_eq_some]
      exact ⟨s, hrun, hafter⟩
    refine ⟨t, before, after, u, hrun, ?_, ?_⟩
    · exact
        { begins := hbegins
          along := Machine.along_true
          run := hwhole
          iteration := htimes.append hrun hrest
          forced := hforced }
    · intro halways
      exact hclear (halways.drop hrun)

/-! ## Two touches in one sleep -/

/-- The first touch wakes the watchdog, which goes up to `sleep(3)`. -/
def pressRun : List WatchdogAction :=
  [.call 0 true, .caller 0, .caller 0, .caller 0, .caller 0,
    .watchdog, .watchdog]

def restsWhileTimed (s : UdfpsWatchdog) : WatchdogAction → Bool
  | .caller _ => !s.watchdog.timing
  | _ => true

theorem touchTimed_of_rests (hrests : s.restsWhileTimed a = true) :
    TouchTimed s a := by
  intro c ha
  subst ha
  simp only [restsWhileTimed, Bool.not_eq_true'] at hrests
  constructor
  · intro _ hlook
    rcases hlook with hwatchdog | hwatchdog
    all_goals
      rw [hwatchdog] at hrests
      contradiction
  · intro _ hwatchdog
    rw [hwatchdog] at hrests
    contradiction

theorem forced_touchUp_of_held_press :
    ∃ t u, ForcesTouchUp TouchTimed t [.sleepEnds, .watchdog, .watchdog] u ∧
      machine.Always (fun s => s.currentIsDownState = true) t
        [.sleepEnds, .watchdog, .watchdog] := by
  obtain ⟨s, hs, hcheck, hsleep, t, hstep, u, hrun, hrest, htimes, hforced⟩ :
      ∃ s, machine.run initial pressRun = some s ∧
        machine.checkAlong restsWhileTimed initial pressRun = true ∧
        s.watchdog = .sleep ∧
        ∃ t, machine.step s .watchdog = some t ∧
        ∃ u, machine.run t [.sleepEnds, .watchdog, .watchdog] = some u ∧
          machine.checkAlong restsWhileTimed t
            [.sleepEnds, .watchdog, .watchdog] = true ∧
          machine.checkAlways (fun s => s.watchdog.timing) t
            [.sleepEnds, .watchdog, .watchdog] = true ∧
          u.watchdog = .forceWrite :=
    ⟨_, rfl, rfl, rfl, _, rfl, _, rfl, rfl, rfl, rfl⟩
  have hrests : ∀ s a, restsWhileTimed s a = true → TouchTimed s a :=
    fun _ _ => touchTimed_of_rests
  have hreachable := Machine.reachableUnder_of_run (M := machine) rfl
    (Machine.along_of_check hrests hcheck) hs
  have hforces : ForcesTouchUp TouchTimed t
      [.sleepEnds, .watchdog, .watchdog] u :=
    { begins := ⟨s, hreachable, hrests s .watchdog rfl, hsleep, hstep⟩
      along := Machine.along_of_check hrests hrest
      run := hrun
      iteration := Machine.checkAlways_iff.mp htimes
      forced := hforced }
  exact ⟨t, u, hforces, (forced_touchUp_of_timed t).1 _ u hforces⟩

/-- It ends, a second one begins, and then the sleep is over. -/
def newPressRun : List WatchdogAction :=
  [.call 0 false, .caller 0, .caller 0, .caller 0, .caller 0,
    .call 0 true, .caller 0, .caller 0, .caller 0, .caller 0,
    .sleepEnds, .watchdog, .watchdog]

theorem forced_touchUp_of_new_press :
    ¬ EndsTimedTouch (fun _ _ => True) := by
  intro hclaim
  obtain ⟨s, hs, hsleep, t, hstep, u, hrun, hforced, htimes, hclear⟩ :
      ∃ s, machine.run initial pressRun = some s ∧ s.watchdog = .sleep ∧
        ∃ t, machine.step s .watchdog = some t ∧
        ∃ u, machine.run t newPressRun = some u ∧
          u.watchdog = .forceWrite ∧
          machine.checkAlways (fun s => s.watchdog.timing) t newPressRun =
            true ∧
          machine.checkAlways (fun s => s.currentIsDownState) t newPressRun =
            false :=
    ⟨_, rfl, rfl, _, rfl, _, rfl, rfl, rfl, rfl⟩
  have hreachable := Machine.reachable_of_run (M := machine) rfl hs
  have hforces : ForcesTouchUp (fun _ _ => True) t newPressRun u :=
    { begins := ⟨s, hreachable, trivial, hsleep, hstep⟩
      along := Machine.along_true
      run := hrun
      iteration := Machine.checkAlways_iff.mp htimes
      forced := hforced }
  have halways := Machine.checkAlways_iff.mpr (hclaim t newPressRun u hforces)
  rw [hclear] at halways
  contradiction

end UdfpsWatchdog

end Samurai
