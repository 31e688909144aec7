import Samurai.ForwardSimulation
import Samurai.LinkedCallbackLifetime

/-!
# The registry under several binder threads

A registration takes effect where it appends its object, and an unregistration
where it has copied its argument, although the entries it removes go one by
one.  Seen so, the vector is a list of callbacks on which every interleaving
of requests, failed links and death handlers acts one request at a time.

The objects are accounted for on the way: what is alive is an entry or the
object being made, and no link outlives its object.
-/

namespace Samurai

def LinkState.Outstanding (link : LinkState) : Prop :=
  link = .linked ∨ link = .dispatched

/-- The object a registration is making. -/
def BinderPc.making : BinderPc → Option ℕ
  | .registerLink _ cookie | .registerService _ cookie
  | .registerMember _ cookie | .registerAppend _ cookie => some cookie
  | _ => none

/-- How far the object being made is. -/
def BinderPc.Stage (object : LinkedObject) : BinderPc → Prop
  | .registerLink _ _ => object.link = .none
  | .registerService _ _ => object.link.Outstanding
  | .registerMember _ _ => object.link.Outstanding ∧ object.service_ = true
  | .registerAppend callback _ =>
      object.link.Outstanding ∧ object.service_ = true ∧
        object.callback_ = some callback
  | _ => True

/-- The callbacks an unregistration has decided to remove. -/
def BinderPc.erases (callback : Callback) : BinderPc → Bool
  | .unregisterErase other => callback.asBinder = other.asBinder
  | _ => false

/-! ## The atomic registry -/

inductive RegistryAction where
  | register (callback : Callback)
  | unregister (asBinder : ℕ)
  deriving DecidableEq, Repr

def registryStep (registered : List Callback) : RegistryAction → List Callback
  | .register callback => registered ++ [callback]
  | .unregister asBinder =>
      registered.filter fun callback => callback.asBinder ≠ asBinder

def registryMachine : Machine (List Callback) RegistryAction where
  Initial registered := registered = []
  step registered action := some (registryStep registered action)

namespace CallbackService

variable {s t : CallbackService} {a : BinderAction} {c d k : ℕ}
  {pc : BinderPc}

/-- Where the owner of the lock is. -/
def holderPc (s : CallbackService) : BinderPc :=
  (s.callback_mutex_lock.map s.thread).getD .idle

def callbackOf (s : CallbackService) (cookie : ℕ) : Option Callback :=
  (s.object cookie).callback_

/-- The callbacks in the vector which nobody is about to remove. -/
def registryView (s : CallbackService) : List Callback :=
  (s.callbacks_.filterMap s.callbackOf).filter
    fun callback => !s.holderPc.erases callback

def registryEffect (s : CallbackService) : BinderAction → Option RegistryAction
  | .thread c _ =>
      match s.thread c with
      | .registerAppend callback _ => some (.register callback)
      | .unregisterCopy argument =>
          match s.read argument with
          | some (some callback) => some (.unregister callback.asBinder)
          | _ => none
      | _ => none
  | _ => none

/-- The objects, the entries and the links agree. -/
structure Inventory (s : CallbackService) : Prop where
  disciplined : s.Disciplined
  allocates : s.Allocates
  entries : ∀ k ∈ s.callbacks_,
    (s.object k).Sound ∧ (s.object k).link.Outstanding
  alive : ∀ k, (s.object k).alive = true →
    k ∈ s.callbacks_ ∨ s.holderPc.making = some k
  made : ∀ k, s.holderPc.making = some k →
    k ∉ s.callbacks_ ∧ (s.object k).alive = true ∧
      s.holderPc.Stage (s.object k)
  linked : ∀ k, (s.object k).link = .linked → (s.object k).alive = true
  nodup : s.callbacks_.Nodup

/-! ## The owner of the lock -/

theorem holderPc_of_inside (hs : s.Disciplined)
    (hin : (s.thread c).inside = true) : s.holderPc = s.thread c := by
  have howner : s.callback_mutex_lock = some c := Owned.eq_some hs hin
  simp [holderPc, howner]

theorem holderPc_of_free (hfree : s.callback_mutex_lock = none) :
    s.holderPc = .idle := by
  simp [holderPc, hfree]

/-- A thread outside moves. -/
theorem holderPc_goto_outside (hs : s.Disciplined)
    (hout : (s.thread c).inside = false) :
    (s.goto c pc).holderPc = s.holderPc := by
  cases howner : s.callback_mutex_lock with
  | none => simp [holderPc, CallbackService.goto, howner]
  | some d =>
      have hin : (s.thread d).inside = true := (hs d).mpr howner
      have hne : d ≠ c := by
        intro hsame
        rw [hsame, hout] at hin
        contradiction
      simp [holderPc, CallbackService.goto, howner, Function.update_of_ne hne]

/-- The owner moves. -/
theorem holderPc_goto_owner (howner : s.callback_mutex_lock = some c) :
    (s.goto c pc).holderPc = pc := by
  simp [holderPc, CallbackService.goto, howner]

theorem owner_of_thread (hs : s.Disciplined) {here : BinderPc}
    (hthread : s.thread c = here) (hin : here.inside = true) :
    s.callback_mutex_lock = some c := by
  apply Owned.eq_some hs
  rw [inside, hthread]
  exact hin

/-! ## The inventory -/

/-- A step that touches neither the objects nor the vector. -/
theorem Inventory.quiet (hs : s.Inventory) (hdisc : t.Disciplined)
    (hobject : t.object = s.object) (hallocated : t.allocated = s.allocated)
    (hcallbacks : t.callbacks_ = s.callbacks_)
    (hholder : t.holderPc = s.holderPc ∨
      s.holderPc.making = none ∧ t.holderPc.making = none) :
    t.Inventory where
  disciplined := hdisc
  allocates := by
    intro k hk
    rw [hobject]
    exact hs.allocates k (hallocated ▸ hk)
  entries := by
    intro k hk
    rw [hobject]
    exact hs.entries k (hcallbacks ▸ hk)
  alive := by
    intro k hk
    rw [hobject] at hk
    rw [hcallbacks]
    rcases hholder with hsame | ⟨hbefore, _⟩
    · rw [hsame]
      exact hs.alive k hk
    · apply Or.inl
      rcases hs.alive k hk with hmem | hmaking
      · exact hmem
      · rw [hbefore] at hmaking
        contradiction
  made := by
    intro k hk
    rcases hholder with hsame | ⟨_, hafter⟩
    · rw [hsame] at hk
      rw [hobject, hcallbacks, hsame]
      exact hs.made k hk
    · rw [hafter] at hk
      contradiction
  linked := by
    intro k hk
    rw [hobject] at hk ⊢
    exact hs.linked k hk
  nodup := hcallbacks ▸ hs.nodup

/-- A step of a registration on the object it makes. -/
theorem Inventory.construct (hs : s.Inventory) (hdisc : t.Disciplined)
    (hallocates : t.Allocates) (hcallbacks : t.callbacks_ = s.callbacks_)
    (hk : k ∉ s.callbacks_)
    (hobject : ∀ j, j ≠ k → t.object j = s.object j)
    (hbefore : ∀ j, s.holderPc.making = some j → j = k)
    (hafter : ∀ j, t.holderPc.making = some j → j = k ∧
      (t.object k).alive = true ∧ t.holderPc.Stage (t.object k))
    (halive : (t.object k).alive = true → t.holderPc.making = some k)
    (hlinked : (t.object k).link = .linked → (t.object k).alive = true) :
    t.Inventory where
  disciplined := hdisc
  allocates := hallocates
  entries := by
    intro j hj
    rw [hcallbacks] at hj
    have hne : j ≠ k := by
      intro hsame
      exact hk (hsame ▸ hj)
    rw [hobject j hne]
    exact hs.entries j hj
  alive := by
    intro j hj
    by_cases hsame : j = k
    · subst hsame
      exact .inr (halive hj)
    · rw [hobject j hsame] at hj
      rw [hcallbacks]
      rcases hs.alive j hj with hmem | hmaking
      · exact .inl hmem
      · exact absurd (hbefore j hmaking) hsame
  made := by
    intro j hj
    obtain ⟨rfl, hlives, hstage⟩ := hafter j hj
    exact ⟨hcallbacks ▸ hk, hlives, hstage⟩
  linked := by
    intro j hj
    by_cases hsame : j = k
    · subst hsame
      exact hlinked hj
    · rw [hobject j hsame] at hj ⊢
      exact hs.linked j hj
  nodup := hcallbacks ▸ hs.nodup

theorem Inventory.allocated_fresh (hs : s.Inventory) :
    s.allocated ∉ s.callbacks_ := by
  intro hmem
  have halive := (hs.entries _ hmem).1.1
  rw [hs.allocates _ (le_refl _)] at halive
  contradiction

/-- The object is complete and becomes an entry. -/
theorem Inventory.append (hs : s.Inventory) {callback : Callback}
    (hdisc : ({ s with callbacks_ := s.callbacks_ ++ [k] }.goto c
      (.registerUnlock callback)).Disciplined)
    (hallocates : ({ s with callbacks_ := s.callbacks_ ++ [k] }.goto c
      (.registerUnlock callback)).Allocates)
    (hthread : s.thread c = .registerAppend callback k) :
    ({ s with callbacks_ := s.callbacks_ ++ [k] }.goto c
      (.registerUnlock callback)).Inventory := by
  have howner := owner_of_thread hs.disciplined hthread rfl
  have hholder : s.holderPc = .registerAppend callback k :=
    (holderPc_of_inside hs.disciplined (by rw [hthread]; rfl)).trans hthread
  have hmade := hs.made k (by rw [hholder]; rfl)
  rw [hholder] at hmade
  obtain ⟨hfresh, hlives, hlink, hservice, hcallback⟩ := hmade
  have hafter : ({ s with callbacks_ := s.callbacks_ ++ [k] }.goto c
      (.registerUnlock callback)).holderPc = .registerUnlock callback :=
    holderPc_goto_owner howner
  refine ⟨hdisc, hallocates, ?_, ?_, ?_, hs.linked, ?_⟩
  · intro j hj
    rcases List.mem_append.mp hj with hold | hnew
    · exact hs.entries j hold
    · rw [List.mem_singleton.mp hnew]
      exact ⟨⟨hlives, hservice, by simp [hcallback]⟩, hlink⟩
  · intro j hj
    apply Or.inl
    apply List.mem_append.mpr
    rcases hs.alive j hj with hmem | hmaking
    · exact .inl hmem
    · rw [hholder] at hmaking
      cases hmaking
      exact .inr (List.mem_singleton_self k)
  · intro j hj
    rw [hafter] at hj
    contradiction
  · have happend : (s.callbacks_ ++ [k]).Nodup := by
      rw [List.nodup_append]
      refine ⟨hs.nodup, List.nodup_singleton k, ?_⟩
      intro i hi j hj hij
      rw [List.mem_singleton.mp hj] at hij
      exact hfresh (hij ▸ hi)
    exact happend

theorem destroy_linked (hcallback : (s.object k).callback_ ≠ none) :
    ((s.destroy k).object k).link ≠ .linked := by
  have hsome : (s.object k).callback_.isSome = true :=
    Option.isSome_iff_ne_none.mpr hcallback
  simp only [destroy, set_object_self, hsome, true_and]
  split_ifs with hlink
  · simp
  · exact hlink

theorem destroy_object_of_ne {j : ℕ} (hne : j ≠ k) :
    (s.destroy k).object j = s.object j :=
  set_object_of_ne hne

/-- An entry is destroyed and removed. -/
theorem Inventory.erase (hs : s.Inventory) {callback : Callback}
    (hdisc : { s.destroy k with
      callbacks_ := s.callbacks_.erase k }.Disciplined)
    (hallocates : { s.destroy k with
      callbacks_ := s.callbacks_.erase k }.Allocates)
    (hthread : s.thread c = .unregisterErase callback)
    (hmem : k ∈ s.callbacks_) :
    { s.destroy k with callbacks_ := s.callbacks_.erase k }.Inventory := by
  have hholder : s.holderPc = .unregisterErase callback :=
    (holderPc_of_inside hs.disciplined (by rw [hthread]; rfl)).trans hthread
  have hafter : { s.destroy k with
      callbacks_ := s.callbacks_.erase k }.holderPc = s.holderPc := rfl
  have hmem_iff : ∀ j, j ∈ s.callbacks_.erase k ↔ j ≠ k ∧ j ∈ s.callbacks_ :=
    fun j => hs.nodup.mem_erase_iff
  refine ⟨hdisc, hallocates, ?_, ?_, ?_, ?_, hs.nodup.erase k⟩
  · intro j hj
    obtain ⟨hne, hold⟩ := (hmem_iff j).mp hj
    simp only [destroy_object_of_ne hne]
    exact hs.entries j hold
  · intro j hj
    by_cases hne : j = k
    · subst hne
      simp [destroy] at hj
    · simp only [destroy_object_of_ne hne] at hj
      rw [hafter]
      rcases hs.alive j hj with hold | hmaking
      · exact .inl ((hmem_iff j).mpr ⟨hne, hold⟩)
      · exact .inr hmaking
  · intro j hj
    rw [hafter, hholder] at hj
    contradiction
  · intro j hj
    by_cases hne : j = k
    · subst hne
      exact absurd hj (destroy_linked (hs.entries j hmem).1.2.2)
    · simp only [destroy_object_of_ne hne] at hj ⊢
      exact hs.linked j hj

/-- What the dispatch of a notice does to the objects. -/
structure Notices (s t : CallbackService) (k : ℕ) : Prop where
  before : (s.object k).link = .linked
  after : t.object k = { s.object k with link := .dispatched }
  others : ∀ j, j ≠ k → t.object j = s.object j

theorem Notices.fields (hnotices : Notices s t k) (j : ℕ) :
    (t.object j).alive = (s.object j).alive ∧
      (t.object j).service_ = (s.object j).service_ ∧
      (t.object j).callback_ = (s.object j).callback_ := by
  by_cases hj : j = k
  · subst hj
    rw [hnotices.after]
    exact ⟨rfl, rfl, rfl⟩
  · rw [hnotices.others j hj]
    exact ⟨rfl, rfl, rfl⟩

theorem Notices.outstanding (hnotices : Notices s t k) {j : ℕ}
    (hlink : (s.object j).link.Outstanding) :
    (t.object j).link.Outstanding := by
  by_cases hj : j = k
  · subst hj
    rw [hnotices.after]
    exact .inr rfl
  · rwa [hnotices.others j hj]

theorem Notices.stage (hnotices : Notices s t k) {j : ℕ}
    (hstage : pc.Stage (s.object j)) : pc.Stage (t.object j) := by
  obtain ⟨_, hservice, hcallback⟩ := hnotices.fields j
  cases pc with
  | registerLink callback cookie =>
      have hne : j ≠ k := by
        intro hj
        have hnone : (s.object j).link = .none := hstage
        rw [hj, hnotices.before] at hnone
        contradiction
      rw [hnotices.others j hne]
      exact hstage
  | registerService callback cookie => exact hnotices.outstanding hstage
  | registerMember callback cookie =>
      exact ⟨hnotices.outstanding hstage.1, hservice.trans hstage.2⟩
  | registerAppend callback cookie =>
      exact ⟨hnotices.outstanding hstage.1, hservice.trans hstage.2.1,
        hcallback.trans hstage.2.2⟩
  | _ => trivial

theorem Inventory.notice (hs : s.Inventory) (hdisc : t.Disciplined)
    (hallocates : t.Allocates) (hnotices : Notices s t k)
    (hcallbacks : t.callbacks_ = s.callbacks_)
    (hholder : t.holderPc = s.holderPc) : t.Inventory where
  disciplined := hdisc
  allocates := hallocates
  entries := by
    intro j hj
    rw [hcallbacks] at hj
    obtain ⟨⟨halive, hservice, hcallback⟩, hlink⟩ := hs.entries j hj
    obtain ⟨halive', hservice', hcallback'⟩ := hnotices.fields j
    exact ⟨⟨halive'.trans halive, hservice'.trans hservice,
      hcallback' ▸ hcallback⟩, hnotices.outstanding hlink⟩
  alive := by
    intro j hj
    rw [hcallbacks, hholder]
    exact hs.alive j ((hnotices.fields j).1 ▸ hj)
  made := by
    intro j hj
    rw [hholder] at hj ⊢
    obtain ⟨hfresh, hlives, hstage⟩ := hs.made j hj
    exact ⟨hcallbacks ▸ hfresh, (hnotices.fields j).1.trans hlives,
      hnotices.stage hstage⟩
  linked := by
    intro j hj
    have hne : j ≠ k := by
      intro hsame
      rw [hsame, hnotices.after] at hj
      contradiction
    rw [hnotices.others j hne] at hj ⊢
    exact hs.linked j hj
  nodup := hcallbacks ▸ hs.nodup

/-- A step of the registration that makes `k`, which goes on making it. -/
theorem Inventory.make (hs : s.Inventory) {before : BinderPc}
    {object : LinkedObject}
    (hdisc : ((s.set k object).goto c pc).Disciplined)
    (hallocates : ((s.set k object).goto c pc).Allocates)
    (hthread : s.thread c = before) (hbefore : before.making = some k)
    (hin : before.inside = true) (hafter : pc.making = some k)
    (halive : object.alive = (s.object k).alive)
    (hstage : before.Stage (s.object k) → pc.Stage object) :
    ((s.set k object).goto c pc).Inventory := by
  have howner := owner_of_thread hs.disciplined hthread hin
  have hholder : s.holderPc = before :=
    (holderPc_of_inside hs.disciplined (by rw [hthread]; exact hin)).trans
      hthread
  have hholder' : ((s.set k object).goto c pc).holderPc = pc :=
    holderPc_goto_owner howner
  have hmade := hs.made k (by rw [hholder]; exact hbefore)
  rw [hholder] at hmade
  obtain ⟨hfresh, hlives, hold⟩ := hmade
  have hobject : ((s.set k object).goto c pc).object k = object := by
    rw [goto_object, set_object_self]
  have hlives' : object.alive = true := halive.trans hlives
  apply hs.construct (k := k) hdisc hallocates rfl hfresh
  · intro j hj
    rw [goto_object, set_object_of_ne hj]
  · intro j hj
    rw [hholder, hbefore] at hj
    exact (Option.some.inj hj).symm
  · intro j hj
    rw [hholder', hafter] at hj
    rw [hholder', hobject]
    exact ⟨(Option.some.inj hj).symm, hlives', hstage hold⟩
  · intro _
    rw [hholder', hafter]
  · intro _
    rw [hobject, hlives']

/-- The link fails and the object is destroyed. -/
theorem Inventory.discard (hs : s.Inventory) {callback : Callback}
    (hdisc : ((s.destroy k).goto c .registerFail).Disciplined)
    (hallocates : ((s.destroy k).goto c .registerFail).Allocates)
    (hthread : s.thread c = .registerLink callback k) :
    ((s.destroy k).goto c .registerFail).Inventory := by
  have howner := owner_of_thread hs.disciplined hthread rfl
  have hholder : s.holderPc = .registerLink callback k :=
    (holderPc_of_inside hs.disciplined (by rw [hthread]; rfl)).trans hthread
  have hholder' : ((s.destroy k).goto c .registerFail).holderPc =
      .registerFail := holderPc_goto_owner howner
  have hmade := hs.made k (by rw [hholder]; rfl)
  rw [hholder] at hmade
  obtain ⟨hfresh, _, hnone⟩ := hmade
  have hlink : (s.object k).link = .none := hnone
  apply hs.construct (k := k) hdisc hallocates rfl hfresh
  · intro j hj
    rw [goto_object, destroy_object_of_ne hj]
  · intro j hj
    rw [hholder] at hj
    exact (Option.some.inj hj).symm
  · intro j hj
    rw [hholder'] at hj
    contradiction
  · intro hlives
    simp [destroy] at hlives
  · intro hlinked
    simp [destroy, hlink] at hlinked

theorem Inventory.new (hs : s.Inventory) {callback : Callback}
    (hdisc : (({ s with allocated := s.allocated + 1 }.set s.allocated
      ⟨true, false, none, .none⟩).goto c
        (.registerLink callback s.allocated)).Disciplined)
    (hallocates : (({ s with allocated := s.allocated + 1 }.set s.allocated
      ⟨true, false, none, .none⟩).goto c
        (.registerLink callback s.allocated)).Allocates)
    (hthread : s.thread c = .registerNew callback) :
    (({ s with allocated := s.allocated + 1 }.set s.allocated
      ⟨true, false, none, .none⟩).goto c
        (.registerLink callback s.allocated)).Inventory := by
  have howner := owner_of_thread hs.disciplined hthread rfl
  have hholder : s.holderPc = .registerNew callback :=
    (holderPc_of_inside hs.disciplined (by rw [hthread]; rfl)).trans hthread
  have hholder' : (({ s with allocated := s.allocated + 1 }.set s.allocated
      ⟨true, false, none, .none⟩).goto c
        (.registerLink callback s.allocated)).holderPc =
      .registerLink callback s.allocated := holderPc_goto_owner howner
  apply hs.construct (k := s.allocated) hdisc hallocates rfl hs.allocated_fresh
  · intro j hj
    rw [goto_object, set_object_of_ne hj]
  · intro j hj
    rw [hholder] at hj
    contradiction
  · intro j hj
    rw [hholder'] at hj
    rw [hholder', goto_object, set_object_self]
    exact ⟨(Option.some.inj hj).symm, rfl, rfl⟩
  · intro _
    rw [hholder']
    rfl
  · intro hlinked
    rw [goto_object, set_object_self] at hlinked
    contradiction

/-- A thread outside goes on outside. -/
theorem Inventory.outside (hs : s.Inventory) (hdisc : (s.goto c pc).Disciplined)
    (hout : (s.thread c).inside = false) : (s.goto c pc).Inventory :=
  hs.quiet hdisc rfl rfl rfl
    (.inl (holderPc_goto_outside hs.disciplined hout))

/-- The owner goes on without an object of its own. -/
theorem Inventory.owner (hs : s.Inventory) {before : BinderPc}
    (hdisc : (s.goto c pc).Disciplined) (hthread : s.thread c = before)
    (hin : before.inside = true) (hbefore : before.making = none)
    (hafter : pc.making = none) : (s.goto c pc).Inventory := by
  have howner := owner_of_thread hs.disciplined hthread hin
  have hholder : s.holderPc = before :=
    (holderPc_of_inside hs.disciplined (by rw [hthread]; exact hin)).trans
      hthread
  apply hs.quiet hdisc rfl rfl rfl
  apply Or.inr
  rw [hholder, holderPc_goto_owner howner]
  exact ⟨hbefore, hafter⟩

theorem Inventory.acquire (hs : s.Inventory)
    (hdisc : ({ s with callback_mutex_lock := some c }.goto c pc).Disciplined)
    (hfree : s.callback_mutex_lock = none) (hafter : pc.making = none) :
    ({ s with callback_mutex_lock := some c }.goto c pc).Inventory := by
  apply hs.quiet hdisc rfl rfl rfl
  apply Or.inr
  rw [holderPc_of_free hfree, holderPc_goto_owner rfl]
  exact ⟨rfl, hafter⟩

theorem Inventory.release (hs : s.Inventory) {before : BinderPc}
    (hdisc : ({ s with callback_mutex_lock := none }.goto c pc).Disciplined)
    (hthread : s.thread c = before) (hin : before.inside = true)
    (hbefore : before.making = none) :
    ({ s with callback_mutex_lock := none }.goto c pc).Inventory := by
  have hholder : s.holderPc = before :=
    (holderPc_of_inside hs.disciplined (by rw [hthread]; exact hin)).trans
      hthread
  apply hs.quiet hdisc rfl rfl rfl
  apply Or.inr
  rw [hholder]
  exact ⟨hbefore, rfl⟩

theorem Inventory.step (hs : s.Inventory) (hstep : BinderStep s a t) :
    t.Inventory := by
  have hdisc := hs.disciplined.step hstep
  have hallocates := hs.allocates.step hstep
  cases hstep with
  | request hc => exact hs.outside hdisc (by rw [hc]; rfl)
  | @dispatch c k hc hlink =>
      have hnotices : Notices s ((s.set k { s.object k with
          link := .dispatched }).goto c (.onCallbackDied k)) k :=
        ⟨hlink, set_object_self, fun j hj => set_object_of_ne hj⟩
      apply hs.notice hdisc hallocates hnotices rfl
      exact holderPc_goto_outside (s := s.set k _) hs.disciplined
        (by rw [set_thread, hc]; rfl)
  | registerLock _ hfree | unregisterLock _ hfree =>
      exact hs.acquire hdisc hfree rfl
  | registerNew hc => exact hs.new hdisc hallocates hc
  | registerLink hc =>
      apply hs.make hdisc hallocates hc rfl rfl rfl rfl
      intro _
      exact .inl rfl
  | linkFailed hc => exact hs.discard hdisc hallocates hc
  | registerService hc =>
      apply hs.make hdisc hallocates hc rfl rfl rfl rfl
      intro hlink
      exact ⟨hlink, rfl⟩
  | registerMember hc =>
      apply hs.make hdisc hallocates hc rfl rfl rfl rfl
      intro hstage
      exact ⟨hstage.1, hstage.2, rfl⟩
  | registerAppend hc => exact hs.append hdisc hallocates hc
  | registerUnlock hc | registerFail hc | unregisterUnlock hc =>
      exact hs.release hdisc hc rfl rfl
  | notifyAlive hc | notifyDead hc | testNull hc _ | test hc _
  | onCallbackDied hc _ _ => exact hs.outside hdisc (by rw [hc]; rfl)
  | copy hc _ | eraseEnd hc _ => exact hs.owner hdisc hc rfl rfl rfl
  | erase hc hmem _ => exact hs.erase hdisc hallocates hc hmem

theorem initial_inventory : initial.Inventory where
  disciplined := initial_disciplined
  allocates := initial_lifetimeInvariant.allocates
  entries := by
    intro k hk
    exact absurd hk List.not_mem_nil
  alive := by
    intro k hk
    contradiction
  made := by
    intro k hk
    contradiction
  linked := by
    intro k hk
    contradiction
  nodup := List.nodup_nil

/-! ## The simulation -/

/-- The view depends on the callbacks of the entries and on what the owner of
the lock is about to remove. -/
theorem registryView_congr (hcallbacks : t.callbacks_ = s.callbacks_)
    (hobject : ∀ k ∈ s.callbacks_, t.callbackOf k = s.callbackOf k)
    (hholder : ∀ callback,
      t.holderPc.erases callback = s.holderPc.erases callback) :
    t.registryView = s.registryView := by
  unfold registryView
  rw [hcallbacks, List.filterMap_congr hobject]
  apply List.filter_congr
  intro callback _
  rw [hholder]

/-- Nobody is about to remove anything. -/
theorem registryView_of_keeps
    (hkeeps : ∀ callback, s.holderPc.erases callback = false) :
    s.registryView = s.callbacks_.filterMap s.callbackOf := by
  unfold registryView
  rw [List.filter_eq_self]
  intro callback _
  rw [hkeeps]
  rfl

theorem filter_filterMap_erase {α β : Type*} [DecidableEq α] {l : List α}
    {x : α} {f : α → Option β} {p : β → Bool}
    (hx : ∀ y, f x = some y → p y = false) :
    ((l.erase x).filterMap f).filter p = (l.filterMap f).filter p := by
  induction l with
  | nil => rfl
  | cons z l ih =>
      by_cases hz : z = x
      · subst hz
        rw [List.erase_cons_head]
        cases hf : f z with
        | none => rw [List.filterMap_cons_none hf]
        | some y =>
            rw [List.filterMap_cons_some hf, List.filter_cons_of_neg]
            simp [hx y hf]
      · rw [List.erase_cons_tail (by simpa using hz)]
        cases hf : f z with
        | none =>
            rw [List.filterMap_cons_none hf, List.filterMap_cons_none hf, ih]
        | some y =>
            rw [List.filterMap_cons_some hf, List.filterMap_cons_some hf,
              List.filter_cons, List.filter_cons, ih]

/-- The owner of the lock moves between places where it removes nothing. -/
theorem registryView_owner {before : BinderPc} (hs : s.Disciplined)
    (hthread : s.thread c = before) (hin : before.inside = true)
    (hkeeps : ∀ callback, before.erases callback = false)
    (hkeeps' : ∀ callback, t.holderPc.erases callback = false)
    (hcallbacks : t.callbacks_ = s.callbacks_)
    (hobject : ∀ k ∈ s.callbacks_, t.callbackOf k = s.callbackOf k) :
    t.registryView = s.registryView := by
  have hholder : s.holderPc = before :=
    (holderPc_of_inside hs (by rw [hthread]; exact hin)).trans hthread
  apply registryView_congr hcallbacks hobject
  intro callback
  rw [hkeeps' callback, hholder, hkeeps callback]

theorem registryView_outside (hs : s.Disciplined)
    (hout : (s.thread c).inside = false) :
    (s.goto c pc).registryView = s.registryView := by
  apply registryView_congr
  · rfl
  · intro k _
    rfl
  · intro callback
    rw [holderPc_goto_outside hs hout]

theorem registryView_acquire (hfree : s.callback_mutex_lock = none)
    (hkeeps : ∀ callback, pc.erases callback = false) :
    ({ s with callback_mutex_lock := some c }.goto c pc).registryView =
      s.registryView := by
  apply registryView_congr
  · rfl
  · intro k _
    rfl
  · intro callback
    rw [holderPc_of_free hfree, holderPc_goto_owner rfl, hkeeps callback]
    rfl

theorem registryView_erase {callback : Callback}
    (hholder : s.holderPc = .unregisterErase callback)
    (hcompares : s.compares callback k = true) :
    { s.destroy k with callbacks_ := s.callbacks_.erase k }.registryView =
      s.registryView := by
  have hsame : ({ s.destroy k with
      callbacks_ := s.callbacks_.erase k } : CallbackService).callbackOf =
        s.callbackOf := by
    funext j
    by_cases hj : j = k
    · subst hj
      simp [callbackOf, destroy]
    · simp only [callbackOf, destroy_object_of_ne hj]
  have hafter : { s.destroy k with
      callbacks_ := s.callbacks_.erase k }.holderPc = s.holderPc := rfl
  unfold registryView
  rw [hsame, hafter, hholder]
  apply filter_filterMap_erase
  intro other hother
  have hbinder : other.asBinder = callback.asBinder := by
    rw [callbackOf] at hother
    simpa [compares, hother] using hcompares
  simp [BinderPc.erases, hbinder]

/-- The making of an object does not show. -/
theorem registryView_make {before : BinderPc} {object : LinkedObject}
    (hs : s.Inventory) (hthread : s.thread c = before)
    (hin : before.inside = true) (hbefore : before.making = some k)
    (hkeeps : ∀ callback, before.erases callback = false)
    (hkeeps' : ∀ callback, pc.erases callback = false) :
    ((s.set k object).goto c pc).registryView = s.registryView := by
  have howner := owner_of_thread hs.disciplined hthread hin
  have hholder : s.holderPc = before :=
    (holderPc_of_inside hs.disciplined (by rw [hthread]; exact hin)).trans
      hthread
  have hfresh := (hs.made k (by rw [hholder]; exact hbefore)).1
  have hholder' : ((s.set k object).goto c pc).holderPc = pc :=
    holderPc_goto_owner howner
  apply registryView_owner hs.disciplined hthread hin hkeeps
  · rw [hholder']
    exact hkeeps'
  · rfl
  · intro j hj
    have hne : j ≠ k := by
      intro hsame
      exact hfresh (hsame ▸ hj)
    simp only [callbackOf, goto_object, set_object_of_ne hne]

theorem registry_hidden (hs : s.Inventory) (hstep : BinderStep s a t)
    (heffect : s.registryEffect a = none) :
    t.registryView = s.registryView := by
  cases hstep with
  | request hc =>
      exact registryView_outside hs.disciplined (by rw [hc]; rfl)
  | notifyAlive hc | notifyDead hc | testNull hc _ | test hc _
  | onCallbackDied hc _ _ =>
      exact registryView_outside hs.disciplined (by rw [hc]; rfl)
  | @dispatch c k hc hlink =>
      apply registryView_congr
      · rfl
      · intro j _
        by_cases hj : j = k
        · simp [callbackOf, hj]
        · simp only [callbackOf, goto_object, set_object_of_ne hj]
      · intro callback
        rw [holderPc_goto_outside (s := s.set k _) hs.disciplined
          (by rw [set_thread, hc]; rfl)]
        rfl
  | registerLock _ hfree | unregisterLock _ hfree =>
      exact registryView_acquire hfree fun _ => rfl
  | @registerNew c b callback hc =>
      have howner := owner_of_thread hs.disciplined hc rfl
      apply registryView_owner hs.disciplined hc rfl (fun _ => rfl)
      · intro other
        exact congrArg (BinderPc.erases other) (holderPc_goto_owner howner)
      · rfl
      · intro j hj
        have hne : j ≠ s.allocated := by
          intro hsame
          exact hs.allocated_fresh (hsame ▸ hj)
        simp only [callbackOf, goto_object, set_object_of_ne hne]
  | registerLink hc | linkFailed hc | registerService hc | registerMember hc =>
      exact registryView_make hs hc rfl rfl (fun _ => rfl) fun _ => rfl
  | registerUnlock hc | registerFail hc | unregisterUnlock hc =>
      apply registryView_owner hs.disciplined hc rfl fun _ => rfl
      · intro callback
        rfl
      · rfl
      · intro j _
        rfl
  | registerAppend hc => simp [registryEffect, hc] at heffect
  | copy hc hread => simp [registryEffect, hc, hread] at heffect
  | erase hc _ hcompares =>
      apply registryView_erase _ hcompares
      exact (holderPc_of_inside hs.disciplined (by rw [hc]; rfl)).trans hc
  | @eraseEnd c b callback hc hnone =>
      have howner := owner_of_thread hs.disciplined hc rfl
      have hholder : s.holderPc = .unregisterErase callback :=
        (holderPc_of_inside hs.disciplined (by rw [hc]; rfl)).trans hc
      rw [registryView_of_keeps]
      · unfold registryView
        rw [List.filter_eq_self.mpr]
        · rfl
        · intro other hother
          obtain ⟨k, hk, hcallback⟩ := List.mem_filterMap.mp hother
          rw [callbackOf] at hcallback
          have hdiffers : s.compares callback k = false := by
            simpa using (List.any_eq_false.mp hnone) k hk
          rw [hholder]
          simpa [compares, hcallback, BinderPc.erases] using hdiffers
      · intro other
        rw [holderPc_goto_owner howner]
        rfl

theorem registry_visible (hs : s.Inventory) (hstep : BinderStep s a t)
    {b : RegistryAction} (heffect : s.registryEffect a = some b) :
    registryStep s.registryView b = t.registryView := by
  cases hstep with
  | @registerAppend c k _ callback hc =>
      simp only [registryEffect, hc, Option.some.injEq] at heffect
      subst heffect
      have howner := owner_of_thread hs.disciplined hc rfl
      have hholder : s.holderPc = .registerAppend callback k :=
        (holderPc_of_inside hs.disciplined (by rw [hc]; rfl)).trans hc
      have hmade := hs.made k (by rw [hholder]; rfl)
      rw [hholder] at hmade
      have hcallback : s.callbackOf k = some callback := hmade.2.2.2.2
      have hkeeps : ∀ other, ({ s with callbacks_ := s.callbacks_ ++ [k] }.goto
          c (.registerUnlock callback)).holderPc.erases other = false :=
        fun other => congrArg (BinderPc.erases other)
          (holderPc_goto_owner howner)
      rw [registryView_of_keeps hkeeps,
        registryView_of_keeps (by rw [hholder]; exact fun _ => rfl)]
      have happend : (s.callbacks_ ++ [k]).filterMap s.callbackOf =
          s.callbacks_.filterMap s.callbackOf ++ [callback] := by
        simp [List.filterMap_append, hcallback]
      exact happend.symm
  | @copy c _ argument callback hc hread =>
      simp only [registryEffect, hc, hread, Option.some.injEq] at heffect
      subst heffect
      have howner := owner_of_thread hs.disciplined hc rfl
      have hholder : s.holderPc = .unregisterCopy argument :=
        (holderPc_of_inside hs.disciplined (by rw [hc]; rfl)).trans hc
      have hholder' : (s.goto c (.unregisterErase callback)).holderPc =
          .unregisterErase callback := holderPc_goto_owner howner
      rw [registryView_of_keeps (by rw [hholder]; exact fun _ => rfl)]
      unfold registryView
      rw [hholder']
      apply List.filter_congr
      intro other _
      simp [BinderPc.erases]
  | erase hc _ _ => simp [registryEffect] at heffect
  | request hc | dispatch hc _ => simp [registryEffect] at heffect
  | _ => simp [registryEffect, *] at heffect

theorem simulates_registry :
    Machine.Simulates machine registryMachine (fun _ _ => True)
      registryEffect registryView Inventory where
  keeps := fun _ _ _ hs _ hstep => hs.step (step_cases hstep)
  visible := fun _ _ _ _ hs _ hstep heffect =>
    congrArg some (registry_visible hs (step_cases hstep) heffect)
  hidden := fun _ _ _ hs _ hstep heffect =>
    registry_hidden hs (step_cases hstep) heffect

theorem reachable_inventory (hs : machine.Reachable s) : s.Inventory := by
  apply Machine.ReachableUnder.invariant _ _ hs
  · intro s hinit
    rw [hinit]
    exact initial_inventory
  · intro s a t _ hinv _ hstep
    exact hinv.step (step_cases hstep)

/-- Whatever the binder threads do, the vector is a list of callbacks changed
by one request at a time, each at one step of its thread: once nobody is
inside the lock, its entries are what those requests leave, in order. -/
theorem registry_linearizable {as : List BinderAction}
    (hrun : machine.run initial as = some t) :
    registryMachine.run [] (machine.effects registryEffect initial as) =
        some t.registryView ∧
      (t.callback_mutex_lock = none →
        t.callbacks_.map t.callbackOf = t.registryView.map some) := by
  constructor
  · exact simulates_registry.run initial_inventory Machine.along_true hrun
  · intro hfree
    have hholder := holderPc_of_free hfree
    rw [registryView_of_keeps (by rw [hholder]; exact fun _ => rfl),
      List.map_filterMap_some_eq_filter_map_isSome]
    apply Eq.symm
    rw [List.filter_eq_self]
    intro callback hcallback
    obtain ⟨k, hk, rfl⟩ := List.mem_map.mp hcallback
    have hinv := reachable_inventory (Machine.reachable_of_run rfl hrun)
    exact Option.isSome_iff_ne_none.mpr (hinv.entries k hk).1.2.2

/-- The service's second callback is registered while the first is removed. -/
def twoThreadsRun : List BinderAction :=
  [.request 0 (.registerCallback (some someCallback)), .thread 0 true,
    .thread 0 true, .thread 0 true, .thread 0 true, .thread 0 true,
    .thread 0 true, .thread 0 true,
    .request 1 (.unregisterCallback (some someCallback)),
    .request 2 (.registerCallback (some ⟨1, 1⟩)), .thread 1 true,
    .thread 1 true, .thread 1 true, .erase 1 0, .thread 1 true,
    .thread 1 true, .thread 2 true, .thread 2 true, .thread 2 true,
    .thread 2 true, .thread 2 true, .thread 2 true, .thread 2 true,
    .thread 2 true, .thread 0 true]

theorem registry_linearizable_twoThreads :
    ∃ t, machine.run initial twoThreadsRun = some t ∧
      registryMachine.run [] [.register someCallback, .unregister
        someCallback.asBinder, .register ⟨1, 1⟩] = some t.registryView ∧
      t.callbacks_.map t.callbackOf = t.registryView.map some := by
  obtain ⟨t, hrun, hfree⟩ : ∃ t, machine.run initial twoThreadsRun = some t ∧
      t.callback_mutex_lock = none := ⟨_, rfl, rfl⟩
  have hlinear := registry_linearizable hrun
  exact ⟨t, hrun, hlinear.1, hlinear.2 hfree⟩

/-- In every state, an object that is alive is an entry or the one a
registration is making, every entry is complete and has been linked once, and
no link outlives its object.  When nobody is inside the lock, the objects
alive are exactly the entries. -/
theorem links_inventory (hs : machine.Reachable s) :
    s.callbacks_.Nodup ∧
    (∀ k ∈ s.callbacks_, (s.object k).Sound ∧
      (s.object k).link.Outstanding) ∧
    (∀ k, (s.object k).link = .linked → (s.object k).alive = true) ∧
    (∀ k, (s.object k).alive = true →
      k ∈ s.callbacks_ ∨ s.holderPc.making = some k) ∧
    (s.callback_mutex_lock = none →
      ∀ k, (s.object k).alive = true ↔ k ∈ s.callbacks_) := by
  have hinv := reachable_inventory hs
  refine ⟨hinv.nodup, hinv.entries, hinv.linked, hinv.alive, ?_⟩
  intro hfree k
  constructor
  · intro hlives
    rcases hinv.alive k hlives with hmem | hmaking
    · exact hmem
    · rw [holderPc_of_free hfree] at hmaking
      contradiction
  · intro hmem
    exact (hinv.entries k hmem).1.1

theorem links_inventory_twoThreads :
    ∃ t, machine.run initial twoThreadsRun = some t ∧
      ∀ k, (t.object k).alive = true ↔ k ∈ t.callbacks_ := by
  obtain ⟨t, hrun, hfree⟩ : ∃ t, machine.run initial twoThreadsRun = some t ∧
      t.callback_mutex_lock = none := ⟨_, rfl, rfl⟩
  have hs := Machine.reachable_of_run (M := machine) rfl hrun
  exact ⟨t, hrun, (links_inventory hs).2.2.2.2 hfree⟩

/-! ## Progress -/

/-- The thread can take its next step. -/
def Moves (s : CallbackService) (c : ℕ) : Prop :=
  (s.threadStep c true).isSome = true ∨
    ∃ k, (s.eraseStep c k).isSome = true

/-- A null pointer is not passed on to the lock. -/
def BinderPc.PastTest : BinderPc → Prop
  | .unregisterLock argument | .unregisterCopy argument =>
      argument ≠ .value none
  | _ => True

theorem pastTest_goto (hs : ∀ d, BinderPc.PastTest (s.thread d))
    (hpc : BinderPc.PastTest pc) (d : ℕ) :
    BinderPc.PastTest ((s.goto c pc).thread d) := by
  by_cases hd : d = c
  · subst hd
    rw [goto_thread_self]
    exact hpc
  · rw [goto_thread_of_ne hd]
    exact hs d

theorem pastTest_step (hs : ∀ d, BinderPc.PastTest (s.thread d))
    (hstep : BinderStep s a t) : ∀ d, BinderPc.PastTest (t.thread d) := by
  cases hstep with
  | @request c request hc =>
      apply pastTest_goto hs
      cases request with
      | registerCallback callback => cases callback <;> trivial
      | unregisterCallback callback => trivial
  | test hc hread =>
      apply pastTest_goto hs
      intro hnull
      rw [hnull] at hread
      cases hread
  | @unregisterLock c _ argument hc _ =>
      have hlock := hs c
      rw [hc] at hlock
      have hpc : BinderPc.PastTest (.unregisterCopy argument) := hlock
      apply pastTest_goto _ hpc
      exact hs
  | erase => exact hs
  | dispatch | registerLock | registerNew | registerLink | linkFailed
  | registerService | registerMember | registerAppend | registerUnlock
  | registerFail | notifyAlive | notifyDead | testNull | copy | eraseEnd
  | unregisterUnlock | onCallbackDied =>
      apply pastTest_goto
      · exact hs
      · trivial

theorem reachable_pastTest {P : CallbackService → BinderAction → Prop}
    (hs : machine.ReachableUnder P s) :
    ∀ d, BinderPc.PastTest (s.thread d) := by
  apply Machine.ReachableUnder.invariant _ _ hs
  · intro s hinit d
    rw [hinit]
    trivial
  · intro s a t _ hpast _ hstep
    exact pastTest_step hpast (step_cases hstep)

theorem read_of_sound {argument : Argument}
    (hsound : ∀ k, argument.cookie = some k → (s.object k).Sound)
    (hvalue : argument ≠ .value none) :
    ∃ callback, s.read argument = some (some callback) := by
  cases argument with
  | value callback =>
      cases callback with
      | none => exact absurd rfl hvalue
      | some callback => exact ⟨callback, rfl⟩
  | member k =>
      obtain ⟨halive, _, hcallback⟩ := hsound k rfl
      obtain ⟨callback, hsome⟩ := Option.ne_none_iff_exists'.mp hcallback
      exact ⟨callback, by simp [read, halive, hsome]⟩

theorem moves_of_sound (hsound : ∀ k,
      (s.thread c).pending = some k → (s.object k).Sound)
    (hpast : BinderPc.PastTest (s.thread c)) (hbusy : s.thread c ≠ .idle)
    (hlock : (s.thread c).inside = true ∨ s.callback_mutex_lock = none) :
    s.Moves c := by
  cases hthread : s.thread c with
  | idle => exact absurd hthread hbusy
  | registerLock _ | unregisterLock _ =>
      have hfree : s.callback_mutex_lock = none := by
        simpa [hthread, BinderPc.inside] using hlock
      exact .inl (by simp [threadStep, hthread, lock, hfree])
  | unregisterTest argument =>
      rw [hthread] at hsound
      by_cases hnull : argument = .value none
      · exact .inl (by simp [threadStep, hthread, hnull, read])
      · obtain ⟨callback, hread⟩ := read_of_sound hsound hnull
        exact .inl (by simp [threadStep, hthread, hread])
  | unregisterCopy argument =>
      rw [hthread] at hsound hpast
      obtain ⟨callback, hread⟩ := read_of_sound hsound hpast
      exact .inl (by simp [threadStep, hthread, hread])
  | unregisterErase callback =>
      by_cases hany : s.callbacks_.any (s.compares callback) = true
      · obtain ⟨k, hk, hcompares⟩ := List.any_eq_true.mp hany
        exact .inr ⟨k, by simp [eraseStep, hthread, hk, hcompares]⟩
      · exact .inl (by simp [threadStep, hthread, hany])
  | onCallbackDied k =>
      rw [hthread] at hsound
      obtain ⟨halive, hservice, _⟩ := hsound k rfl
      exact .inl (by simp [threadStep, hthread, halive, hservice])
  | _ => exact .inl (by simp [threadStep, hthread])

/-- In an orderly run the threads never wait for each other in vain: whenever
one of them is in a request or a handler, the owner of the lock, or that
thread if nobody owns it, can take its next step. -/
theorem no_deadlock (hs : machine.ReachableUnder Orderly s)
    (hbusy : s.thread c ≠ .idle) :
    s.Moves (s.callback_mutex_lock.getD c) := by
  have hinv := reachable_lifetimeInvariant hs
  have hpast := reachable_pastTest hs
  cases howner : s.callback_mutex_lock with
  | none =>
      exact moves_of_sound (hinv.sound c) (hpast c) hbusy (.inr howner)
  | some d =>
      have hin : (s.thread d).inside = true := (hinv.disciplined d).mpr howner
      have hbusy : s.thread d ≠ .idle := by
        intro hidle
        rw [hidle] at hin
        contradiction
      exact moves_of_sound (hinv.sound d) (hpast d) hbusy (.inl hin)

/-- A registration waits for another one. -/
def waitingRun : List BinderAction :=
  [.request 0 (.registerCallback (some someCallback)),
    .request 1 (.registerCallback (some someCallback)), .thread 0 true]

theorem waitingRun_orderly : machine.Along Orderly initial waitingRun := by
  have hplain : machine.Along (fun _ a => (∀ c k, a ≠ .dispatch c k) ∧
      ∀ d k, a ≠ .erase d k) initial waitingRun :=
    Machine.along_of_forall (by simp [waitingRun])
  apply hplain.mono
  intro s a ha
  exact ⟨fun c k hdispatch => absurd hdispatch (ha.1 c k),
    fun d k herase => absurd herase (ha.2 d k)⟩

theorem no_deadlock_waiting :
    ∃ s, machine.run initial waitingRun = some s ∧
      s.callback_mutex_lock = some 0 ∧ s.Moves 0 := by
  obtain ⟨s, hrun, howner, hwaits⟩ : ∃ s,
      machine.run initial waitingRun = some s ∧
        s.callback_mutex_lock = some 0 ∧
        s.thread 1 = .registerLock someCallback := ⟨_, rfl, rfl, rfl⟩
  have hs := Machine.reachableUnder_of_run (M := machine) rfl
    waitingRun_orderly hrun
  have hmoves := no_deadlock (c := 1) hs (by simp [hwaits])
  rw [howner] at hmoves
  exact ⟨s, hrun, howner, hmoves⟩

end CallbackService

end Samurai
