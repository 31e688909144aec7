import Samurai.IFAAManagerModel
import Samurai.MutexOwnership

/-!
# One instance, and the context it comes with

The lock and the second test make the instance unique.  The instance is
published before the context is kept, and a thread that finds it by the first
test does not take the lock: such a thread can use the instance while
`mContext` is still null.  It stays null for ever where the call that
constructs the instance comes without a context.
-/

namespace Samurai

/-- The next statement neither keeps the context nor binds the service. -/
def IFAAPc.plain : IFAAPc → Bool
  | .context _ | .bind _ => false
  | _ => true

namespace IFAAProcess

variable {s t : IFAAProcess} {a : IFAAAction} {c d : ℕ} {pc : IFAAPc}
  {SDK_INT : ℤ}

def inside (s : IFAAProcess) (c : ℕ) : Prop :=
  (s.thread c).inside = true

def Disciplined (s : IFAAProcess) : Prop :=
  Owned s.classLock s.inside

/-- What a thread at `pc` can rely on. -/
def Fits (s : IFAAProcess) : IFAAPc → Prop
  | .create _ => s.INSTANCE = none
  | .context call =>
      s.INSTANCE = some 0 ∧ s.mContext = none ∧ s.constructing = some call
  | .bind call => s.INSTANCE = some 0 ∧ s.mContext = call.context
  | .unlock _ | .load _ => s.INSTANCE = some 0
  | .factoryWrite result | .has result =>
      s.INSTANCE = some 0 ∧ result = some 0
  | .factoryLoad => s.INSTANCE = some 0 ∧ s.factory = some 0
  | _ => True

/-- A thread has published the instance and not kept its context yet. -/
def Publishing (s : IFAAProcess) : Prop :=
  ∃ c call, s.thread c = .context call

def Binding (s : IFAAProcess) : Prop :=
  ∃ c call, s.thread c = .bind call

/-- The call that constructed the instance came with the context. -/
def ConstructedWith (s : IFAAProcess) (context : Option SystemServices) :
    Prop :=
  ∃ call, s.constructing = some call ∧ call.context = context

def bindsOf (source : BindSource) (s : IFAAProcess) : ℕ :=
  s.binds.countP fun b => b.1 = source

/-- The step is a disconnection with a context to bind by. -/
def rebinding (s : IFAAProcess) (a : IFAAAction) : Bool :=
  decide (a = .onServiceDisconnected) && s.mContext.isSome

structure OneInstance (SDK_INT : ℤ) (s : IFAAProcess) : Prop where
  disciplined : s.Disciplined
  counted : s.INSTANCE = none ∧ s.allocated = 0 ∨
    s.INSTANCE = some 0 ∧ s.allocated = 1
  factory : s.factory = none ∨ s.INSTANCE = some 0 ∧ s.factory = some 0
  fits : ∀ c, s.Fits (s.thread c)
  context : SDK_INT ≥ 28 → s.INSTANCE ≠ none → s.mContext = none →
    s.Publishing ∨ s.ConstructedWith none
  unpublished : s.INSTANCE = none → s.mContext = none
  version : s.mContext ≠ none → SDK_INT ≥ 28
  kept : ∀ x, s.mContext = some x → s.ConstructedWith (some x)
  binds : ∀ b ∈ s.binds, s.mContext = some b.2
  unbound : s.mContext = none ∨ s.Binding → s.bindsOf .getInstance = 0
  bound : s.mContext ≠ none → ¬ s.Binding → s.bindsOf .getInstance = 1
  managers : s.mContext = none → s.managers = ⟨none, none⟩

/-! ## The lock of the class -/

theorem inside_goto_of_ne (hne : d ≠ c) :
    (s.goto c pc).inside d ↔ s.inside d := by
  simp only [inside, goto_thread_of_ne hne]

theorem Disciplined.goto (hs : s.Disciplined)
    (hside : pc.inside = (s.thread c).inside) :
    (s.goto c pc).Disciplined := by
  apply Owned.congr hs
  intro d
  by_cases hd : d = c
  · subst hd
    simp [inside, hside]
  · exact inside_goto_of_ne hd

/-- The thread moves and fields other than the lock are written. -/
theorem Disciplined.write (hs : s.Disciplined) (hlock : t.classLock = s.classLock)
    (hthread : t.thread = s.thread) (hside : (s.thread c).inside = pc.inside) :
    (t.goto c pc).Disciplined := by
  apply Disciplined.goto
  · rw [Disciplined, hlock]
    apply Owned.congr hs
    intro d
    simp only [inside, hthread]
  · rw [hthread, hside]

theorem Disciplined.lock (hs : s.Disciplined) (hfree : s.classLock = none)
    (hin : pc.inside = true) :
    ({ s with classLock := some c }.goto c pc).Disciplined := by
  have hnone : Owned none s.inside := hfree ▸ hs
  apply hnone.acquire
  · simpa [inside] using hin
  · intro d hd
    exact inside_goto_of_ne hd

theorem Disciplined.unlock (hs : s.Disciplined)
    (hin : (s.thread c).inside = true) (hout : pc.inside = false) :
    ({ s with classLock := none }.goto c pc).Disciplined := by
  have hsome : Owned (some c) s.inside := Owned.eq_some hs hin ▸ hs
  apply hsome.release
  · simp [inside, hout]
  · intro d hd
    exact inside_goto_of_ne hd

/-- Two threads inside the lock are one. -/
theorem Disciplined.alone (hs : s.Disciplined) {here there : IFAAPc}
    (hc : s.thread c = here) (hd : s.thread d = there)
    (hhere : here.inside = true) (hthere : there.inside = true) : d = c := by
  apply Owned.unique hs
  · rw [inside, hd]
    exact hthere
  · rw [inside, hc]
    exact hhere

/-! ## Steps that leave the instance alone -/

/-- Only the managers, the replies, the calls of `bindService` and what the
driver knows may differ. -/
structure Beside (s t : IFAAProcess) : Prop where
  thread : t.thread = s.thread
  INSTANCE : t.INSTANCE = s.INSTANCE
  allocated : t.allocated = s.allocated
  constructing : t.constructing = s.constructing
  mContext : t.mContext = s.mContext
  classLock : t.classLock = s.classLock
  factory : t.factory = s.factory
  managers : s.mContext = none → t.managers = s.managers

theorem Beside.reply {r : IFAAReply} : Beside s (s.reply c r) where
  thread := rfl
  INSTANCE := rfl
  allocated := rfl
  constructing := rfl
  mContext := rfl
  classLock := rfl
  factory := rfl
  managers := fun _ => rfl

theorem Beside.trans {u : IFAAProcess} (hst : Beside s t) (htu : Beside t u) :
    Beside s u where
  thread := htu.thread.trans hst.thread
  INSTANCE := htu.INSTANCE.trans hst.INSTANCE
  allocated := htu.allocated.trans hst.allocated
  constructing := htu.constructing.trans hst.constructing
  mContext := htu.mContext.trans hst.mContext
  classLock := htu.classLock.trans hst.classLock
  factory := htu.factory.trans hst.factory
  managers := fun hnone =>
    (htu.managers (hst.mContext.trans hnone)).trans (hst.managers hnone)

theorem Beside.ensure (hensure : s.ensureNeedServiceAvailable = some t) :
    Beside s t ∧ t.binds = s.binds := by
  unfold ensureNeedServiceAvailable at hensure
  cases hcontext : s.mContext with
  | none =>
      simp only [hcontext] at hensure
      split_ifs at hensure
      cases hensure
      exact ⟨⟨rfl, rfl, rfl, rfl, rfl, rfl, rfl, fun _ => rfl⟩, rfl⟩
  | some x =>
      simp only [hcontext] at hensure
      cases hensure
      refine ⟨⟨rfl, rfl, rfl, rfl, hcontext.symm, rfl, rfl, ?_⟩, rfl⟩
      intro hnone
      rw [hcontext] at hnone
      contradiction

theorem beside_getEnabled {bioType : ℤ} :
    Beside s (s.getEnabled c bioType) ∧
      (s.getEnabled c bioType).binds = s.binds := by
  unfold getEnabled
  cases hensure : s.ensureNeedServiceAvailable with
  | none => exact ⟨.reply, rfl⟩
  | some r =>
      have hr := Beside.ensure hensure
      cases hcode : r.managers.getEnabled bioType with
      | none =>
          simp only [hcode]
          exact ⟨hr.1.trans .reply, hr.2⟩
      | some code =>
          simp only [hcode]
          exact ⟨hr.1.trans .reply, hr.2⟩

theorem beside_getIDList {bioType : ℤ} :
    Beside s (s.getIDList c bioType) ∧
      (s.getIDList c bioType).binds = s.binds := by
  unfold getIDList
  cases hensure : s.ensureNeedServiceAvailable with
  | none => exact ⟨.reply, rfl⟩
  | some r =>
      have hr := Beside.ensure hensure
      exact ⟨hr.1.trans .reply, hr.2⟩

theorem beside_processCmdV2 {answer : Option (List UInt8)} :
    Beside s (s.processCmdV2 c answer) ∧
      (s.processCmdV2 c answer).binds = s.binds := by
  unfold processCmdV2
  cases s.mService with
  | none => exact ⟨.reply, rfl⟩
  | some b =>
      simp only
      split_ifs
      · exact ⟨.reply, rfl⟩
      · exact ⟨.reply, rfl⟩

theorem beside_onServiceConnected {b : ℕ} :
    Beside s (s.onServiceConnected b) ∧
      (s.onServiceConnected b).binds = s.binds := by
  unfold onServiceConnected
  split_ifs
  · exact ⟨⟨rfl, rfl, rfl, rfl, rfl, rfl, rfl, fun _ => rfl⟩, rfl⟩
  · exact ⟨⟨rfl, rfl, rfl, rfl, rfl, rfl, rfl, fun _ => rfl⟩, rfl⟩

theorem beside_binderDied {notices : List ℕ} :
    Beside s { s with notices := notices }.binderDied ∧
      { s with notices := notices }.binderDied.binds = s.binds := by
  unfold binderDied
  cases s.mService with
  | none => exact ⟨⟨rfl, rfl, rfl, rfl, rfl, rfl, rfl, fun _ => rfl⟩, rfl⟩
  | some b => exact ⟨⟨rfl, rfl, rfl, rfl, rfl, rfl, rfl, fun _ => rfl⟩, rfl⟩

theorem fits_congr (hINSTANCE : t.INSTANCE = s.INSTANCE)
    (hcontext : t.mContext = s.mContext)
    (hconstructing : t.constructing = s.constructing)
    (hfactory : t.factory = s.factory) (hs : s.Fits pc) : t.Fits pc := by
  cases pc with
  | idle | factoryTest _ | test _ | lock _ | retest _ | unwind _ => trivial
  | create _ => exact hINSTANCE.trans hs
  | context _ =>
      exact ⟨hINSTANCE.trans hs.1, hcontext.trans hs.2.1,
        hconstructing.trans hs.2.2⟩
  | bind _ => exact ⟨hINSTANCE.trans hs.1, hcontext.trans hs.2⟩
  | unlock _ | load _ => exact hINSTANCE.trans hs
  | factoryWrite _ | has _ => exact ⟨hINSTANCE.trans hs.1, hs.2⟩
  | factoryLoad => exact ⟨hINSTANCE.trans hs.1, hfactory.trans hs.2⟩

/-- A method or a callback. -/
theorem OneInstance.beside (hs : s.OneInstance SDK_INT)
    (hbeside : Beside s t)
    (hbinds : ∀ b ∈ t.binds, b ∈ s.binds ∨ s.mContext = some b.2)
    (hcount : t.bindsOf .getInstance = s.bindsOf .getInstance) :
    t.OneInstance SDK_INT where
  disciplined := by
    rw [Disciplined, hbeside.classLock]
    apply Owned.congr hs.disciplined
    intro c
    simp only [inside, hbeside.thread]
  counted := by
    rw [hbeside.INSTANCE, hbeside.allocated]
    exact hs.counted
  factory := by
    rw [hbeside.factory, hbeside.INSTANCE]
    exact hs.factory
  fits := by
    intro c
    rw [hbeside.thread]
    exact fits_congr hbeside.INSTANCE hbeside.mContext hbeside.constructing
      hbeside.factory (hs.fits c)
  context := by
    intro hversion hpublished hnone
    rw [hbeside.INSTANCE] at hpublished
    rw [hbeside.mContext] at hnone
    rw [Publishing, ConstructedWith, hbeside.thread, hbeside.constructing]
    exact hs.context hversion hpublished hnone
  unpublished := by
    rw [hbeside.INSTANCE, hbeside.mContext]
    exact hs.unpublished
  version := by
    rw [hbeside.mContext]
    exact hs.version
  kept := by
    rw [hbeside.mContext]
    simp only [ConstructedWith, hbeside.constructing]
    exact hs.kept
  binds := by
    intro b hb
    rw [hbeside.mContext]
    rcases hbinds b hb with hold | hnew
    · exact hs.binds b hold
    · exact hnew
  unbound := by
    rw [hcount, hbeside.mContext, Binding, hbeside.thread]
    exact hs.unbound
  bound := by
    rw [hcount, hbeside.mContext, Binding, hbeside.thread]
    exact hs.bound
  managers := by
    intro hnone
    rw [hbeside.mContext] at hnone
    rw [hbeside.managers hnone]
    exact hs.managers hnone

theorem bindsOf_congr {source : BindSource} (hbinds : t.binds = s.binds) :
    t.bindsOf source = s.bindsOf source := by
  rw [bindsOf, hbinds, bindsOf]

/-- A method or a callback that does not bind the service. -/
theorem OneInstance.unbinding (hs : s.OneInstance SDK_INT)
    (h : Beside s t ∧ t.binds = s.binds) : t.OneInstance SDK_INT := by
  apply hs.beside h.1
  · intro b hb
    rw [h.2] at hb
    exact .inl hb
  · exact bindsOf_congr h.2

theorem OneInstance.disconnected (hs : s.OneInstance SDK_INT) :
    s.onServiceDisconnected.OneInstance SDK_INT := by
  unfold onServiceDisconnected
  cases hcontext : s.mContext with
  | none => exact hs
  | some x =>
      have hbeside : Beside s (s.initService .onServiceDisconnected x) :=
        ⟨rfl, rfl, rfl, rfl, rfl, rfl, rfl, fun _ => rfl⟩
      apply hs.beside hbeside
      · intro b hb
        rcases List.mem_append.mp hb with hold | hnew
        · exact .inl hold
        · rw [List.mem_singleton.mp hnew]
          exact .inr hcontext
      · simp [bindsOf, initService]

/-! ## Steps of `getInstance` and of the factory -/

theorem binding_goto (hc : (s.thread c).plain = true) (hpc : pc.plain = true) :
    (s.goto c pc).Binding ↔ s.Binding := by
  constructor
  · rintro ⟨d, call, hd⟩
    by_cases hdc : d = c
    · subst hdc
      rw [goto_thread_self] at hd
      rw [hd] at hpc
      contradiction
    · rw [goto_thread_of_ne hdc] at hd
      exact ⟨d, call, hd⟩
  · rintro ⟨d, call, hd⟩
    have hdc : d ≠ c := by
      rintro rfl
      rw [hd] at hc
      contradiction
    exact ⟨d, call, (goto_thread_of_ne hdc).trans hd⟩

theorem publishing_goto (hc : ∀ call, s.thread c ≠ .context call)
    (hpublishing : s.Publishing) : (s.goto c pc).Publishing := by
  obtain ⟨d, call, hd⟩ := hpublishing
  have hdc : d ≠ c := by
    intro hsame
    rw [hsame] at hd
    exact hc call hd
  exact ⟨d, call, (goto_thread_of_ne hdc).trans hd⟩

theorem not_context_of_plain (hc : (s.thread c).plain = true)
    (call : InstanceCall) : s.thread c ≠ .context call := by
  intro hcall
  rw [hcall] at hc
  contradiction

theorem fits_goto (hs : ∀ d, s.Fits (s.thread d)) (hpc : s.Fits pc) (d : ℕ) :
    (s.goto c pc).Fits ((s.goto c pc).thread d) := by
  by_cases hd : d = c
  · subst hd
    rw [goto_thread_self]
    exact fits_congr rfl rfl rfl rfl hpc
  · rw [goto_thread_of_ne hd]
    exact fits_congr rfl rfl rfl rfl (hs d)

/-- A thread moves between places where it neither keeps the context nor binds
the service. -/
theorem OneInstance.goto (hs : s.OneInstance SDK_INT)
    (hdisc : (s.goto c pc).Disciplined) (hfits : s.Fits pc)
    (hc : (s.thread c).plain = true) (hpc : pc.plain = true) :
    (s.goto c pc).OneInstance SDK_INT where
  disciplined := hdisc
  counted := hs.counted
  factory := hs.factory
  fits := fits_goto hs.fits hfits
  context := fun hversion hpublished hnone =>
    (hs.context hversion hpublished hnone).imp_left
      (publishing_goto (not_context_of_plain hc))
  unpublished := hs.unpublished
  version := hs.version
  kept := hs.kept
  binds := hs.binds
  unbound := by
    rw [binding_goto hc hpc]
    exact hs.unbound
  bound := by
    rw [binding_goto hc hpc]
    exact hs.bound
  managers := hs.managers

/-- The lock changes hands, or a reply is given. -/
theorem OneInstance.setLock (hs : s.OneInstance SDK_INT) (owner : Option ℕ)
    (replies : List (ℕ × IFAAReply))
    (hdisc : ({ s with classLock := owner }.goto c pc).Disciplined)
    (hfits : s.Fits pc) (hc : (s.thread c).plain = true)
    (hpc : pc.plain = true) :
    ({ s with classLock := owner, replies := replies }.goto c
      pc).OneInstance SDK_INT := by
  have hgoto : ∀ d, (s.goto c pc).Fits ((s.goto c pc).thread d) :=
    fits_goto hs.fits hfits
  refine ⟨hdisc, hs.counted, hs.factory, ?_, ?_, hs.unpublished, hs.version,
    hs.kept, hs.binds, ?_, ?_, hs.managers⟩
  · intro d
    exact fits_congr rfl rfl rfl rfl (hgoto d)
  · intro hversion hpublished hnone
    exact (hs.context hversion hpublished hnone).imp_left
      (publishing_goto (not_context_of_plain hc))
  · rintro (hnone | hbinding)
    · exact hs.unbound (.inl hnone)
    · exact hs.unbound (.inr ((binding_goto (s := s) hc hpc).mp hbinding))
  · intro hsome hnot
    apply hs.bound hsome
    intro hbinding
    exact hnot ((binding_goto (s := s) hc hpc).mpr hbinding)

/-- What the threads rely on changes with the fields. -/
theorem fits_update (hs : ∀ d, s.Fits (s.thread d))
    (hthread : t.thread = s.thread)
    (hothers : ∀ d, d ≠ c → s.Fits (s.thread d) → t.Fits (s.thread d))
    (hpc : t.Fits pc) (d : ℕ) :
    (t.goto c pc).Fits ((t.goto c pc).thread d) := by
  by_cases hd : d = c
  · subst hd
    rw [goto_thread_self]
    exact fits_congr rfl rfl rfl rfl hpc
  · rw [goto_thread_of_ne hd, hthread]
    exact fits_congr rfl rfl rfl rfl (hothers d hd (hs d))

/-- Nobody relies on an instance before there is one. -/
theorem fits_of_unpublished (hnone : s.INSTANCE = none) (hs : s.Fits pc)
    (hpc : ∀ call, pc ≠ .create call) : t.Fits pc := by
  cases pc with
  | idle | factoryTest _ | test _ | lock _ | retest _ | unwind _ => trivial
  | create call => exact absurd rfl (hpc call)
  | context _ | bind _ | factoryWrite _ | has _ | factoryLoad =>
      have hsome := hs.1
      rw [hnone] at hsome
      contradiction
  | unlock _ | load _ =>
      have hsome : s.INSTANCE = some 0 := hs
      rw [hnone] at hsome
      contradiction

theorem OneInstance.create (hs : s.OneInstance SDK_INT) {call : InstanceCall}
    (hdisc : ({ s with
      INSTANCE := some s.allocated
      allocated := s.allocated + 1
      constructing := some call }.goto c (.context call)).Disciplined)
    (hc : s.thread c = .create call) :
    ({ s with
      INSTANCE := some s.allocated
      allocated := s.allocated + 1
      constructing := some call }.goto c
        (.context call)).OneInstance SDK_INT := by
  have hnone : s.INSTANCE = none := by
    have hfits := hs.fits c
    rw [hc] at hfits
    exact hfits
  have hcontext := hs.unpublished hnone
  have hzero : s.allocated = 0 := by
    rcases hs.counted with ⟨_, hzero⟩ | ⟨hsome, _⟩
    · exact hzero
    · rw [hnone] at hsome
      contradiction
  have hfactory : s.factory = none := by
    rcases hs.factory with hnull | ⟨hsome, _⟩
    · exact hnull
    · rw [hnone] at hsome
      contradiction
  refine ⟨hdisc, ?_, .inl hfactory, ?_, ?_, ?_, hs.version, ?_, hs.binds, ?_,
    ?_, hs.managers⟩
  · apply Or.inr
    exact ⟨congrArg some hzero, congrArg (· + 1) hzero⟩
  · apply fits_update hs.fits
    · rfl
    · intro d hd hfits
      apply fits_of_unpublished hnone hfits
      intro call' hcreate
      exact hd (hs.disciplined.alone hc hcreate rfl rfl)
    · exact ⟨congrArg some hzero, hcontext, rfl⟩
  · intro _ _ _
    exact .inl ⟨c, call, goto_thread_self⟩
  · intro _
    exact hcontext
  · intro x hsome
    have hsome : s.mContext = some x := hsome
    rw [hcontext] at hsome
    contradiction
  · intro _
    exact hs.unbound (.inl hcontext)
  · intro hsome
    exact absurd hcontext hsome

/-- The context is kept, if there is one. -/
theorem OneInstance.keep (hs : s.OneInstance SDK_INT) {call : InstanceCall}
    (hdisc : ({ s with mContext := call.context }.goto c
      (.bind call)).Disciplined)
    (hc : s.thread c = .context call) (hversion : SDK_INT ≥ 28) :
    ({ s with mContext := call.context }.goto c
      (.bind call)).OneInstance SDK_INT := by
  have hfits : s.INSTANCE = some 0 ∧ s.mContext = none ∧
      s.constructing = some call := by
    have hfits := hs.fits c
    rw [hc] at hfits
    exact hfits
  obtain ⟨hpublished, hcontext, hconstructing⟩ := hfits
  refine ⟨hdisc, hs.counted, hs.factory, ?_, ?_, ?_, ?_, ?_, ?_, ?_, ?_, ?_⟩
  · apply fits_update hs.fits
    · rfl
    · intro d hd hother
      cases hthread : s.thread d with
      | context call' =>
          exact absurd (hs.disciplined.alone hc hthread rfl rfl) hd
      | bind call' =>
          exact absurd (hs.disciplined.alone hc hthread rfl rfl) hd
      | _ =>
          rw [hthread] at hother
          exact hother
    · exact ⟨hpublished, rfl⟩
  · intro _ _ hnone
    exact .inr ⟨call, hconstructing, hnone⟩
  · intro hnone
    have hsome : s.INSTANCE = none := hnone
    rw [hpublished] at hsome
    contradiction
  · intro _
    exact hversion
  · intro x hsome
    exact ⟨call, hconstructing, hsome⟩
  · intro b hb
    have hsome := hs.binds b hb
    rw [hcontext] at hsome
    contradiction
  · intro _
    exact hs.unbound (.inl hcontext)
  · intro _ hnot
    exact absurd ⟨c, call, goto_thread_self⟩ hnot
  · intro _
    exact hs.managers hcontext

theorem not_binding_goto (hs : s.Disciplined) {call : InstanceCall}
    (hc : s.thread c = .bind call) (hpc : pc.plain = true) :
    ¬ (s.goto c pc).Binding := by
  rintro ⟨d, call', hd⟩
  by_cases hdc : d = c
  · subst hdc
    rw [goto_thread_self] at hd
    rw [hd] at hpc
    contradiction
  · rw [goto_thread_of_ne hdc] at hd
    exact hdc (hs.alone hc hd rfl rfl)

/-- `bindService` is called; it returns or throws. -/
theorem OneInstance.bind (hs : s.OneInstance SDK_INT) {call : InstanceCall}
    {x : SystemServices}
    (hdisc : ((s.initService .getInstance x).goto c pc).Disciplined)
    (hfits : s.Fits pc) (hpc : pc.plain = true)
    (hc : s.thread c = .bind call) (hcontext : s.mContext = some x) :
    ((s.initService .getInstance x).goto c pc).OneInstance SDK_INT := by
  have hcount := hs.unbound (.inr ⟨c, call, hc⟩)
  have hone : ((s.initService .getInstance x).goto c pc).bindsOf
      .getInstance = 1 := by
    have hadd : ((s.initService .getInstance x).goto c pc).bindsOf
        .getInstance = s.bindsOf .getInstance + 1 := by
      simp [bindsOf, initService, IFAAProcess.goto]
    rw [hadd, hcount]
  refine ⟨hdisc, hs.counted, hs.factory, ?_, ?_, hs.unpublished, hs.version,
    hs.kept, ?_, ?_, ?_, hs.managers⟩
  · apply fits_update hs.fits
    · rfl
    · intro d _ hother
      exact fits_congr rfl rfl rfl rfl hother
    · exact fits_congr rfl rfl rfl rfl hfits
  · intro _ _ hnone
    have hsome : s.mContext = none := hnone
    rw [hcontext] at hsome
    contradiction
  · intro b hb
    rcases List.mem_append.mp hb with hold | hnew
    · exact hs.binds b hold
    · rw [List.mem_singleton.mp hnew]
      exact hcontext
  · rintro (hnone | hbinding)
    · have hsome : s.mContext = none := hnone
      rw [hcontext] at hsome
      contradiction
    · exact absurd hbinding (not_binding_goto (s := s) hs.disciplined hc hpc)
  · intro _ _
    exact hone

/-- There is no context to bind the service by. -/
theorem OneInstance.fail (hs : s.OneInstance SDK_INT) {call : InstanceCall}
    (hdisc : (s.goto c (.unwind .nullPointerException)).Disciplined)
    (hc : s.thread c = .bind call) (hcontext : s.mContext = none) :
    (s.goto c (.unwind .nullPointerException)).OneInstance SDK_INT := by
  refine ⟨hdisc, hs.counted, hs.factory, ?_, ?_, hs.unpublished, hs.version,
    hs.kept, hs.binds, ?_, ?_, hs.managers⟩
  · exact fits_goto hs.fits trivial
  · intro hversion hpublished hnone
    exact (hs.context hversion hpublished hnone).imp_left
      (publishing_goto (by simp [hc]))
  · intro _
    exact hs.unbound (.inl hcontext)
  · intro hsome
    exact absurd hcontext hsome

theorem OneInstance.setFactory (hs : s.OneInstance SDK_INT)
    {result : Option ℕ}
    (hdisc : ({ s with factory := result }.goto c .factoryLoad).Disciplined)
    (hc : s.thread c = .factoryWrite result) :
    ({ s with factory := result }.goto c .factoryLoad).OneInstance SDK_INT := by
  have hfits : s.INSTANCE = some 0 ∧ result = some 0 := by
    have hfits := hs.fits c
    rw [hc] at hfits
    exact hfits
  have hplain : (s.thread c).plain = true := by
    rw [hc]
    rfl
  have hbinding : (s.goto c .factoryLoad).Binding ↔ s.Binding :=
    binding_goto hplain rfl
  refine ⟨hdisc, hs.counted, .inr hfits, ?_, ?_, hs.unpublished, hs.version,
    hs.kept, hs.binds, ?_, ?_, hs.managers⟩
  · apply fits_update hs.fits
    · rfl
    · intro d _ hother
      cases hthread : s.thread d with
      | factoryLoad => exact hfits
      | _ =>
          rw [hthread] at hother
          exact hother
    · exact hfits
  · intro hversion hpublished hnone
    exact (hs.context hversion hpublished hnone).imp_left
      (publishing_goto (not_context_of_plain hplain))
  · rintro (hnone | hafter)
    · exact hs.unbound (.inl hnone)
    · exact hs.unbound (.inr (hbinding.mp hafter))
  · intro hsome hnot
    exact hs.bound hsome fun h => hnot (hbinding.mpr h)

/-- Before the version with a service there is no context to keep. -/
theorem OneInstance.skip (hs : s.OneInstance SDK_INT) {call : InstanceCall}
    (hdisc : (s.goto c (.unlock call)).Disciplined)
    (hpublished : s.INSTANCE = some 0) (hversion : ¬ SDK_INT ≥ 28) :
    (s.goto c (.unlock call)).OneInstance SDK_INT := by
  have hcontext : s.mContext = none := by
    by_contra hsome
    exact hversion (hs.version hsome)
  refine ⟨hdisc, hs.counted, hs.factory, ?_, ?_, hs.unpublished, hs.version,
    hs.kept, hs.binds, ?_, ?_, hs.managers⟩
  · exact fits_goto hs.fits hpublished
  · intro hsdk
    exact absurd hsdk hversion
  · intro _
    exact hs.unbound (.inl hcontext)
  · intro hsome
    exact absurd hcontext hsome

theorem OneInstance.enter (hs : s.OneInstance SDK_INT) (hout : s.Outside c)
    (hfits : s.Fits pc) (hin : pc.inside = false) (hpc : pc.plain = true) :
    (s.goto c pc).OneInstance SDK_INT := by
  rcases hout with hc | ⟨result, hc⟩
  · exact hs.goto (hs.disciplined.goto (by rw [hc, hin]; rfl)) hfits
      (by rw [hc]; rfl) hpc
  · exact hs.goto (hs.disciplined.goto (by rw [hc, hin]; rfl)) hfits
      (by rw [hc]; rfl) hpc

theorem OneInstance.step (hs : s.OneInstance SDK_INT)
    (hstep : IFAAStep SDK_INT s a t) : t.OneInstance SDK_INT := by
  have hdisc := hs.disciplined
  cases hstep with
  | getIFAAManager hout | getInstance hout =>
      exact hs.enter hout trivial rfl rfl
  | factoryMiss hc _ =>
      exact hs.goto (hdisc.goto (by rw [hc]; rfl)) trivial (by rw [hc]; rfl) rfl
  | @factoryHit c _ hc hsome =>
      exact hs.goto (hdisc.goto (by rw [hc]; rfl))
        (hs.factory.resolve_left hsome) (by rw [hc]; rfl) rfl
  | testMiss hc _ =>
      exact hs.goto (hdisc.goto (by rw [hc]; rfl)) trivial (by rw [hc]; rfl) rfl
  | testHit hc hsome =>
      exact hs.goto (hdisc.goto (by rw [hc]; rfl))
        (hs.counted.resolve_left fun h => hsome h.1).1 (by rw [hc]; rfl) rfl
  | lock hc hfree =>
      exact hs.setLock _ s.replies (hdisc.lock hfree rfl) trivial
        (by rw [hc]; rfl) rfl
  | retestMiss hc hnone =>
      exact hs.goto (hdisc.goto (by rw [hc]; rfl)) hnone (by rw [hc]; rfl) rfl
  | retestHit hc hsome =>
      exact hs.goto (hdisc.goto (by rw [hc]; rfl))
        (hs.counted.resolve_left fun h => hsome h.1).1 (by rw [hc]; rfl) rfl
  | @create c call hc =>
      exact hs.create (hdisc.write rfl rfl (by rw [hc]; rfl)) hc
  | @context c call hc hversion =>
      exact hs.keep (hdisc.write rfl rfl (by rw [hc]; rfl)) hc hversion
  | @noContext c call hc hversion =>
      have hfits := hs.fits c
      rw [hc] at hfits
      exact hs.skip (hdisc.goto (by rw [hc]; rfl)) hfits.1 hversion
  | @bind c call x hc hcontext =>
      have hfits := hs.fits c
      rw [hc] at hfits
      have hpublished : s.Fits (.unlock call) := hfits.1
      exact hs.bind (hdisc.write rfl rfl (by rw [hc]; rfl)) hpublished rfl hc
        hcontext
  | @bindNull c call hc hcontext =>
      exact hs.fail (hdisc.goto (by rw [hc]; rfl)) hc hcontext
  | @bindThrows c call x hc hcontext =>
      have hfits : s.Fits (.unwind .securityException) := trivial
      exact hs.bind (hdisc.write rfl rfl (by rw [hc]; rfl)) hfits rfl hc hcontext
  | @unlock c call hc =>
      have hfits := hs.fits c
      rw [hc] at hfits
      exact hs.setLock _ s.replies (hdisc.unlock (by rw [hc]; rfl) rfl) hfits
        (by rw [hc]; rfl) rfl
  | @unwind c e hc =>
      exact hs.setLock _ _ (hdisc.unlock (by rw [hc]; rfl) rfl) trivial
        (by rw [hc]; rfl) rfl
  | @loadFactory c call hc _ =>
      have hfits := hs.fits c
      rw [hc] at hfits
      exact hs.goto (hdisc.goto (by rw [hc]; rfl)) ⟨hfits, hfits⟩
        (by rw [hc]; rfl) rfl
  | @load c call hc _ =>
      have hfits := hs.fits c
      rw [hc] at hfits
      exact hs.goto (hdisc.goto (by rw [hc]; rfl)) ⟨hfits, hfits⟩
        (by rw [hc]; rfl) rfl
  | @factoryWrite c result hc =>
      exact hs.setFactory (hdisc.write rfl rfl (by rw [hc]; rfl)) hc
  | @factoryLoad c hc =>
      have hfits := hs.fits c
      rw [hc] at hfits
      exact hs.goto (hdisc.goto (by rw [hc]; rfl)) hfits (by rw [hc]; rfl) rfl
  | getEnabled _ => exact hs.unbinding beside_getEnabled
  | getIDList _ => exact hs.unbinding beside_getIDList
  | processCmdV2 _ => exact hs.unbinding beside_processCmdV2
  | onServiceConnected => exact hs.unbinding beside_onServiceConnected
  | onServiceDisconnected => exact hs.disconnected
  | @dies b _ =>
      have hbeside : Beside s (s.dies b) :=
        ⟨rfl, rfl, rfl, rfl, rfl, rfl, rfl, fun _ => rfl⟩
      exact hs.unbinding ⟨hbeside, rfl⟩
  | binderDied _ => exact hs.unbinding beside_binderDied

theorem initial_oneInstance : initial.OneInstance SDK_INT where
  disciplined := by
    intro c
    simp [inside, initial, IFAAPc.inside]
  counted := .inl ⟨rfl, rfl⟩
  factory := .inl rfl
  fits := fun _ => trivial
  context := fun _ hsome => absurd rfl hsome
  unpublished := fun _ => rfl
  version := fun hsome => absurd rfl hsome
  kept := fun x hsome => absurd hsome (by simp [initial])
  binds := fun b hb => absurd hb List.not_mem_nil
  unbound := fun _ => rfl
  bound := fun hsome => absurd rfl hsome
  managers := fun _ => rfl

theorem reachable_oneInstance (hs : (machine SDK_INT).Reachable s) :
    s.OneInstance SDK_INT := by
  apply Machine.ReachableUnder.invariant _ _ hs
  · intro s hinit
    rw [hinit]
    exact initial_oneInstance
  · intro s a t _ hinv _ hstep
    exact hinv.step (step_cases hstep)

/-! ## The calls of `bindService` -/

theorem rebinds_onServiceDisconnected :
    s.onServiceDisconnected.bindsOf .onServiceDisconnected =
      s.bindsOf .onServiceDisconnected + s.mContext.isSome.toNat := by
  unfold onServiceDisconnected
  cases s.mContext with
  | none => rfl
  | some x => simp [bindsOf, initService]

/-- The service is bound again by a disconnection and by nothing else. -/
theorem rebinds_step (hstep : IFAAStep SDK_INT s a t) :
    t.bindsOf .onServiceDisconnected =
      s.bindsOf .onServiceDisconnected + (s.rebinding a).toNat := by
  cases hstep with
  | onServiceDisconnected => exact rebinds_onServiceDisconnected
  | bind _ _ | bindThrows _ _ =>
      simp [bindsOf, initService, IFAAProcess.goto, rebinding]
  | getEnabled _ => exact bindsOf_congr beside_getEnabled.2
  | getIDList _ => exact bindsOf_congr beside_getIDList.2
  | processCmdV2 _ => exact bindsOf_congr beside_processCmdV2.2
  | onServiceConnected => exact bindsOf_congr beside_onServiceConnected.2
  | binderDied _ => exact bindsOf_congr beside_binderDied.2
  | _ => rfl

theorem rebinds_run {as : List IFAAAction}
    (hrun : (machine SDK_INT).run s as = some t) :
    t.bindsOf .onServiceDisconnected =
      s.bindsOf .onServiceDisconnected +
        (machine SDK_INT).count rebinding s as := by
  induction as generalizing s with
  | nil =>
      have heq : s = t := by simpa using hrun
      rw [heq]
      rfl
  | cons a as ih =>
      obtain ⟨r, hstep, hrest⟩ := Machine.run_cons_eq_some.mp hrun
      rw [ih hrest, rebinds_step (step_cases hstep), Machine.count_cons hstep,
        Nat.add_assoc]

theorem OneInstance.bound_iff (hs : s.OneInstance SDK_INT) :
    s.bindsOf .getInstance ≤ 1 ∧
      (s.bindsOf .getInstance = 1 ↔ s.mContext ≠ none ∧ ¬ s.Binding) := by
  by_cases hbound : s.mContext ≠ none ∧ ¬ s.Binding
  · have hone := hs.bound hbound.1 hbound.2
    exact ⟨hone.le, iff_of_true hone hbound⟩
  · have hzero := hs.unbound (by tauto)
    refine ⟨by omega, iff_of_false (by omega) hbound⟩

/-- Whatever the threads do, directly or through the factory, one instance is
constructed at most and it is what every call returns.  The service is bound
once for it, when the constructing call has kept a context, and again at each
disconnection and at no other time, always with the context of the constructing
call. -/
theorem one_instance {as : List IFAAAction}
    (hrun : (machine SDK_INT).run initial as = some s) :
    s.allocated ≤ 1 ∧
    (∀ c result, s.thread c = .has result → result = some 0) ∧
    (s.bindsOf .getInstance ≤ 1 ∧
      (s.bindsOf .getInstance = 1 ↔ s.mContext ≠ none ∧ ¬ s.Binding)) ∧
    s.bindsOf .onServiceDisconnected =
      (machine SDK_INT).count rebinding initial as ∧
    ∀ b ∈ s.binds, s.ConstructedWith (some b.2) := by
  have hs := Machine.reachable_of_run (M := machine SDK_INT) rfl hrun
  have hinv := reachable_oneInstance hs
  refine ⟨?_, ?_, hinv.bound_iff, ?_, ?_⟩
  · rcases hinv.counted with ⟨_, hzero⟩ | ⟨_, hone⟩
    · omega
    · omega
  · intro c result hc
    have hfits := hinv.fits c
    rw [hc] at hfits
    exact hfits.2
  · rw [rebinds_run hrun]
    exact Nat.zero_add _
  · intro b hb
    exact hinv.kept b.2 (hinv.binds b hb)

def phone : SystemServices where
  fingerprint := none
  keyguard := some ⟨true⟩

/-- Two threads find no instance; the second comes to the lock too late. -/
def racingRun : List IFAAAction :=
  [.getInstance 0 (some phone), .getIFAAManager 1 (some phone), .thread 1,
    .thread 0, .thread 1] ++ List.replicate 7 (.thread 0) ++
    List.replicate 6 (.thread 1) ++ [.onServiceDisconnected]

theorem one_instance_racing :
    ∃ s, (machine 29).run initial racingRun = some s ∧
      s.thread 1 = .has (some 0) ∧ s.bindsOf .getInstance = 1 ∧
      s.bindsOf .onServiceDisconnected = 1 := by
  obtain ⟨s, hrun, hcount, hthread, hcontext, hfirst, hothers⟩ : ∃ s,
      (machine 29).run initial racingRun = some s ∧
        (machine 29).count rebinding initial racingRun = 1 ∧
        s.thread 1 = .has (some 0) ∧ s.mContext ≠ none ∧
        s.thread 0 = .has (some 0) ∧ ∀ c, s.thread (c + 2) = .idle :=
    ⟨_, rfl, rfl, rfl, Option.some_ne_none _, rfl, fun _ => rfl⟩
  have hnot : ¬ s.Binding := by
    rintro ⟨c, call, hc⟩
    match c with
    | 0 => rw [hfirst] at hc; contradiction
    | 1 => rw [hthread] at hc; contradiction
    | c + 2 => rw [hothers] at hc; contradiction
  obtain ⟨_, _, hbound, hrebound, _⟩ := one_instance hrun
  exact ⟨s, hrun, hthread, hbound.2.mpr ⟨hcontext, hnot⟩,
    hrebound.trans hcount⟩

theorem ensure_eq_none (hs : s.OneInstance SDK_INT) :
    s.ensureNeedServiceAvailable = none ↔ s.mContext = none := by
  unfold ensureNeedServiceAvailable
  cases hcontext : s.mContext with
  | none => simp [hs.managers hcontext]
  | some x => simp

/-- A thread comes between the publication and the context. -/
def earlyUseRun : List IFAAAction :=
  [.getInstance 0 (some phone), .thread 0, .thread 0, .thread 0, .thread 0,
    .getInstance 1 (some phone), .thread 1, .thread 1]

/-- The instance is constructed without a context; the exception goes to the
caller, and a later call with a context does not help. -/
example : ((machine 29).run initial (
    [.getInstance 0 none, .thread 0, .thread 0, .thread 0, .thread 0,
      .thread 0, .thread 0, .thread 0, .getInstance 1 (some phone), .thread 1,
      .thread 1, .getEnabled 1 1])).map (·.replies) =
        some [(0, .nullPointerException), (1, .nullPointerException)] :=
  rfl

end IFAAProcess

end Samurai
