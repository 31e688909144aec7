import Samurai.UdfpsHelperModel

/-!
# The registry of callbacks

What the service keeps in a vector of linked objects is, to its clients, a
list of callbacks.  `Reference` is that list with the operations in its own
terms.  Every run of the service is matched by it, call by call and status by
status, and meanwhile each entry has one outstanding death link and each entry
that is gone was unlinked once.
-/

namespace Samurai

/-- The list of registered callbacks, with the touch status, the calls made to
callbacks and the statuses returned to clients. -/
structure Reference where
  currentIsDownState : Bool
  entries : List Callback
  notified : List (Callback × Bool)
  returned : List ScopedAStatus

namespace Reference

def delete (binder : ℕ) (r : Reference) : Reference :=
  { r with entries := r.entries.filter fun c => c.asBinder ≠ binder }

def touch (down : Bool) (r : Reference) : Reference :=
  { r with
    currentIsDownState := down
    returned := r.returned ++ [.ok] }

/-- Registration appends one entry if there is a callback and the link
succeeds, and deletes the entries of a binder found dead. -/
def register (callback : Option Callback) (linkRet : ℤ) (res : ScopedAStatus)
    (r : Reference) : Reference :=
  match callback with
  | none =>
      { r with returned := r.returned ++ [.fromExceptionCode EX_NULL_POINTER] }
  | some callback =>
      if linkRet = STATUS_OK then
        let r := { r with
          entries := r.entries ++ [callback]
          notified := r.notified ++ [(callback, r.currentIsDownState)]
          returned := r.returned ++ [.ok] }
        if res.getStatus = STATUS_DEAD_OBJECT then r.delete callback.asBinder
        else r
      else
        { r with
          returned := r.returned ++ [.fromExceptionCode EX_ILLEGAL_STATE] }

def unregister (callback : Option Callback) (r : Reference) : Reference :=
  match callback with
  | none =>
      { r with returned := r.returned ++ [.fromExceptionCode EX_NULL_POINTER] }
  | some callback =>
      { r.delete callback.asBinder with
        returned := r.returned ++
          [if ∃ c ∈ r.entries, c.asBinder = callback.asBinder then .ok
            else .fromExceptionCode EX_ILLEGAL_ARGUMENT] }

/-- Every entry is called once, in order; the ones found dead are deleted. -/
def broadcast (isDowned : Bool) (results : ℕ → ScopedAStatus)
    (r : Reference) : Reference :=
  { r with
    entries := (r.entries.zipIdx.filter fun entry =>
      (results entry.2).getStatus ≠ STATUS_DEAD_OBJECT).map Prod.fst
    notified := r.notified ++ r.entries.map fun c => (c, isDowned) }

def step (r : Reference) : HelperEvent → Reference
  | .touchDown => r.touch true
  | .touchUp => r.touch false
  | .registerCallback callback linkRet res => r.register callback linkRet res
  | .unregisterCallback callback => r.unregister callback
  | .onUdfpsTouchStatusChanged isDowned results =>
      r.broadcast isDowned results
  | .callbackDied link => r.delete link.binder

def initial : Reference where
  currentIsDownState := false
  entries := []
  notified := []
  returned := []

end Reference

theorem isDeadObjectLogged_iff {ret : ScopedAStatus} :
    isDeadObjectLogged ret = true ↔ ret.getStatus = STATUS_DEAD_OBJECT := by
  cases ret with
  | ok => decide
  | fromExceptionCode code =>
      unfold isDeadObjectLogged
      split_ifs with hok hdead
      · simp [ScopedAStatus.getStatus, STATUS_OK, STATUS_DEAD_OBJECT]
      · simp [hdead]
      · simp [hdead]
  | fromStatus status =>
      by_cases hdead : status = STATUS_DEAD_OBJECT
      · subst hdead
        decide
      · simp [isDeadObjectLogged, ScopedAStatus.getStatus, hdead]

/-! ## Entries and links -/

/-- The vector holds the objects `ls`; each has one outstanding link, and the
cookies ever linked are theirs and, once each, the unlinked ones. -/
structure WellLinked (slots : Slots Linked) (death : DeathLinks)
    (ls : List Linked) : Prop where
  slots : slots = ls.map some
  links : death.links.Perm (ls.map Linked.link)
  linked : death.linked.Perm (ls.map Linked.cookie ++ death.unlinked)
  nodup : death.linked.Nodup
  fresh : ∀ cookie ∈ death.linked, cookie < death.allocated

namespace DeathLinks

theorem destroyAll_eq (ls : List Linked) (d : DeathLinks) :
    d.destroyAll ls = some
      { d with
        links := d.links.diff (ls.map Linked.link)
        unlinked := d.unlinked ++ ls.map Linked.cookie } := by
  induction ls generalizing d with
  | nil => simp [destroyAll]
  | cons l ls ih =>
      have hdestroy : d.destroy l.object =
          some (d.unlinkToDeath l.callback.asBinder l.object.cookie) := by
        unfold destroy
        rw [l.callback_set]
        simp [l.service_set]
      unfold destroyAll
      rw [hdestroy, Option.bind_some, ih]
      simp [unlinkToDeath, Linked.link, Linked.cookie, List.diff_cons]

theorem make_failed {d : DeathLinks} {callback : Callback} {linkRet : ℤ}
    (hlink : linkRet ≠ STATUS_OK) :
    d.make callback linkRet =
      some (none, { d with allocated := d.allocated + 1 }) := by
  unfold make
  simp only [linkToDeath, destroy, if_pos hlink, if_neg hlink,
    Option.map_some]

def newLinked (callback : Callback) (cookie : ℕ) : Linked where
  object := ⟨cookie, true, some callback⟩
  callback := callback
  callback_set := rfl
  service_set := rfl

def afterLink (linked : Linked) (d : DeathLinks) : DeathLinks :=
  { d with
    allocated := d.allocated + 1
    links := d.links ++ [linked.link]
    linked := d.linked ++ [linked.cookie] }

theorem make_linked (callback : Callback) (d : DeathLinks) :
    d.make callback STATUS_OK =
      some (some (newLinked callback d.allocated),
        d.afterLink (newLinked callback d.allocated)) := by
  unfold make
  simp only [linkToDeath, if_true, ne_eq, not_true_eq_false, if_false]
  rfl

end DeathLinks

theorem WellLinked.allocate {slots : Slots Linked} {d : DeathLinks}
    {ls : List Linked} (hs : WellLinked slots d ls) :
    WellLinked slots { d with allocated := d.allocated + 1 } ls where
  slots := hs.slots
  links := hs.links
  linked := hs.linked
  nodup := hs.nodup
  fresh := by
    intro cookie hcookie
    exact Nat.lt_succ_of_lt (hs.fresh cookie hcookie)

theorem WellLinked.append {slots : Slots Linked} {d : DeathLinks}
    {ls : List Linked} {linked : Linked} (hs : WellLinked slots d ls)
    (hcookie : linked.cookie = d.allocated) :
    WellLinked (slots ++ [some linked]) (d.afterLink linked)
      (ls ++ [linked]) where
  slots := by
    simp [hs.slots]
  links := by
    rw [List.map_append]
    exact hs.links.append_right [linked.link]
  linked := by
    have hend := hs.linked.append_right [linked.cookie]
    rw [List.append_assoc] at hend
    simp only [List.map_append, List.map_singleton, List.append_assoc]
    exact hend.trans (List.perm_append_comm.append_left _)
  nodup := by
    have hnew : linked.cookie ∉ d.linked := by
      intro hmem
      have hlt := hs.fresh _ hmem
      omega
    exact hs.nodup.append (List.nodup_singleton _) (by simpa using hnew)
  fresh := by
    intro cookie hmem
    rcases List.mem_append.mp hmem with hold | hnew
    · exact Nat.lt_succ_of_lt (hs.fresh cookie hold)
    · have hsame : cookie = linked.cookie := by simpa using hnew
      rw [hsame, hcookie]
      exact Nat.lt_succ_self _

namespace UdfpsHelper

variable {s t : UdfpsHelper} {r : Reference} {ls : List Linked}

theorem perm_diff_of_perm_append {α : Type*} [DecidableEq α]
    {whole front back : List α} (hwhole : whole.Perm (front ++ back)) :
    (whole.diff back).Perm front := by
  apply Multiset.coe_eq_coe.mp
  rw [← Multiset.coe_sub, Multiset.coe_eq_coe.mpr hwhole,
    ← Multiset.coe_add, add_tsub_cancel_right]

/-- The entries a predicate hits are removed, destroyed and unlinked, and
nothing else changes. -/
theorem eraseCallbacks_spec {ρ : Type} (p : Linked → ρ → Bool × ρ) (e : ρ)
    (hs : WellLinked s.callbacks_ s.death ls) :
    ∃ death,
      s.eraseCallbacks p e = some
        (decide (dropped (verdicts p ls e).1 ≠ []), (verdicts p ls e).2,
          { s with
            callbacks_ := (kept (verdicts p ls e).1).map some
            death := death }) ∧
      WellLinked ((kept (verdicts p ls e).1).map some) death
        (kept (verdicts p ls e).1) := by
  rcases Removal.eraseIf_spec (p := p) ls e with
    ⟨v, herase, hslots, heffects, hdestroyed⟩
  have hparts : ls.Perm (kept (verdicts p ls e).1 ++ v.destroyed) := by
    have hperm := kept_append_dropped_perm (verdicts p ls e).1
    rw [verdicts_fst_map] at hperm
    exact hperm.symm.trans (hdestroyed.symm.append_left _)
  let death : DeathLinks :=
    { s.death with
      links := s.death.links.diff (v.destroyed.map Linked.link)
      unlinked := s.death.unlinked ++ v.destroyed.map Linked.cookie }
  refine ⟨death, ?_, ?_⟩
  · unfold eraseCallbacks
    rw [hs.slots, herase]
    simp only [DeathLinks.destroyAll_eq, Option.map_some, hslots, heffects,
      death]
  · exact
      { slots := rfl
        links := by
          apply perm_diff_of_perm_append
          rw [← List.map_append]
          exact hs.links.trans (hparts.map _)
        linked := by
          have hcookies := hparts.map Linked.cookie
          rw [List.map_append] at hcookies
          have hmoved := hs.linked.trans
            (hcookies.append_right s.death.unlinked)
          rw [List.append_assoc] at hmoved
          exact hmoved.trans (List.perm_append_comm.append_left _)
        nodup := hs.nodup
        fresh := hs.fresh }

/-! ## Operations -/

/-- The service with the objects `ls` in its vector stands for `r`. -/
structure Represents (s : UdfpsHelper) (ls : List Linked) (r : Reference) :
    Prop where
  wellLinked : WellLinked s.callbacks_ s.death ls
  entries : ls.map Linked.callback = r.entries
  status : s.currentIsDownState = r.currentIsDownState
  notified : s.notified = r.notified
  returned : s.returned = r.returned

theorem Represents.answer {status : ScopedAStatus}
    (hs : s.Represents ls r) :
    (answer (status, s)).Represents ls
      { r with returned := r.returned ++ [status] } where
  wellLinked := hs.wellLinked
  entries := hs.entries
  status := hs.status
  notified := hs.notified
  returned := by
    unfold UdfpsHelper.answer
    rw [hs.returned]

theorem kept_matches (callback : Callback) (ls : List Linked) :
    (kept (verdicts (matches_ callback) ls ()).1).map Linked.callback =
      (ls.map Linked.callback).filter
        fun c => c.asBinder ≠ callback.asBinder := by
  induction ls with
  | nil => rfl
  | cons l ls ih =>
      by_cases hl : l.callback.asBinder = callback.asBinder
      · simp [verdicts, matches_, hl] at ih ⊢
        exact ih
      · simp [verdicts, matches_, hl] at ih ⊢
        exact ih

theorem dropped_matches (callback : Callback) (ls : List Linked) :
    dropped (verdicts (matches_ callback) ls ()).1 ≠ [] ↔
      ∃ c ∈ ls.map Linked.callback, c.asBinder = callback.asBinder := by
  induction ls with
  | nil => simp [verdicts, dropped]
  | cons l ls ih =>
      by_cases hl : l.callback.asBinder = callback.asBinder
      · simp [verdicts, matches_, hl]
      · simp [verdicts, matches_, hl] at ih ⊢
        exact ih

theorem Represents.delete (hs : s.Represents ls r) (callback : Callback) :
    ∃ t ls',
      s.eraseCallbacks (matches_ callback) () = some
        (decide (∃ c ∈ r.entries, c.asBinder = callback.asBinder), (), t) ∧
      t.Represents ls' (r.delete callback.asBinder) := by
  rcases eraseCallbacks_spec (matches_ callback) () hs.wellLinked with
    ⟨death, herase, hlinked⟩
  have hremoved := dropped_matches callback ls
  rw [hs.entries] at hremoved
  simp only [hremoved] at herase
  exact ⟨_, _, herase,
    { wellLinked := hlinked
      entries := by
        rw [kept_matches, hs.entries]
        rfl
      status := hs.status
      notified := hs.notified
      returned := hs.returned }⟩

theorem Represents.unregister (hs : s.Represents ls r)
    (callback : Option Callback) :
    ∃ status t ls', s.unregisterCallback callback = some (status, t) ∧
      (UdfpsHelper.answer (status, t)).Represents ls' (r.unregister callback) ∧
      ∀ c, callback = some c → t.Represents ls' (r.delete c.asBinder) := by
  cases callback with
  | none =>
      refine ⟨_, s, ls, rfl, hs.answer, ?_⟩
      intro c hc
      contradiction
  | some callback =>
      rcases hs.delete callback with ⟨t, ls', herase, ht⟩
      refine ⟨_, t, ls', ?_, ht.answer, ?_⟩
      · unfold unregisterCallback
        simp only [herase, Option.map_some, decide_eq_true_eq]
      · intro c hc
        cases hc
        exact ht

theorem Represents.append (hs : s.Represents ls r) (callback : Callback) :
    { s with
      callbacks_ := s.callbacks_ ++
        [some (DeathLinks.newLinked callback s.death.allocated)]
      death := s.death.afterLink
        (DeathLinks.newLinked callback s.death.allocated)
      notified := s.notified ++
        [(callback, s.currentIsDownState)] }.Represents
      (ls ++ [DeathLinks.newLinked callback s.death.allocated])
      { r with
        entries := r.entries ++ [callback]
        notified := r.notified ++ [(callback, r.currentIsDownState)] } where
  wellLinked := hs.wellLinked.append rfl
  entries := by
    rw [List.map_append, hs.entries]
    rfl
  status := hs.status
  notified := by
    simp only [hs.notified, hs.status]
  returned := hs.returned

theorem Represents.registerLinked (hs : s.Represents ls r)
    (callback : Callback) (res : ScopedAStatus) :
    ∃ t ls',
      s.registerCallback (some callback) STATUS_OK res = some (.ok, t) ∧
      (UdfpsHelper.answer (.ok, t)).Represents ls'
        (r.register (some callback) STATUS_OK res) := by
  have hmade := hs.append callback
  unfold registerCallback Reference.register
  simp only [DeathLinks.make_linked, if_true]
  by_cases hdead : res.getStatus = STATUS_DEAD_OBJECT
  · rcases hmade.unregister (some callback) with ⟨status, t, ls', hrun, _, ht⟩
    rw [if_pos (isDeadObjectLogged_iff.mpr hdead), if_pos hdead, hrun]
    exact ⟨t, ls', rfl, (ht callback rfl).answer⟩
  · rw [if_neg (isDeadObjectLogged_iff.not.mpr hdead), if_neg hdead]
    exact ⟨_, _, rfl, hmade.answer⟩

theorem Represents.registerFailed (hs : s.Represents ls r)
    (callback : Callback) {linkRet : ℤ} (res : ScopedAStatus)
    (hlink : linkRet ≠ STATUS_OK) :
    ∃ t,
      s.registerCallback (some callback) linkRet res =
        some (.fromExceptionCode EX_ILLEGAL_STATE, t) ∧
      (UdfpsHelper.answer
        (.fromExceptionCode EX_ILLEGAL_STATE, t)).Represents ls
        (r.register (some callback) linkRet res) := by
  have hallocated :
      { s with
        death :=
          { s.death with
            allocated := s.death.allocated + 1 } }.Represents ls r :=
    { wellLinked := hs.wellLinked.allocate
      entries := hs.entries
      status := hs.status
      notified := hs.notified
      returned := hs.returned }
  unfold registerCallback Reference.register
  simp only [DeathLinks.make_failed hlink, if_neg hlink]
  exact ⟨_, rfl, hallocated.answer⟩

theorem Represents.register (hs : s.Represents ls r)
    (callback : Option Callback) (linkRet : ℤ) (res : ScopedAStatus) :
    ∃ status t ls',
      s.registerCallback callback linkRet res = some (status, t) ∧
      (UdfpsHelper.answer (status, t)).Represents ls'
        (r.register callback linkRet res) := by
  cases callback with
  | none => exact ⟨_, s, ls, rfl, hs.answer⟩
  | some callback =>
      by_cases hlink : linkRet = STATUS_OK
      · subst hlink
        rcases hs.registerLinked callback res with ⟨t, ls', hrun, ht⟩
        exact ⟨.ok, t, ls', hrun, ht⟩
      · rcases hs.registerFailed callback res hlink with ⟨t, hrun, ht⟩
        exact ⟨.fromExceptionCode EX_ILLEGAL_STATE, t, ls, hrun, ht⟩

theorem verdicts_isDead (isDowned : Bool) (results : ℕ → ScopedAStatus)
    (ls : List Linked) (calls : List (Callback × Bool)) :
    (kept (verdicts (isDead isDowned results) ls calls).1).map
        Linked.callback =
      (((ls.map Linked.callback).zipIdx calls.length).filter fun entry =>
        (results entry.2).getStatus ≠ STATUS_DEAD_OBJECT).map Prod.fst ∧
    (verdicts (isDead isDowned results) ls calls).2 =
      calls ++ ls.map fun l => (l.callback, isDowned) := by
  induction ls generalizing calls with
  | nil => simp [verdicts, kept]
  | cons l ls ih =>
      have htail := ih (calls ++ [(l.callback, isDowned)])
      rw [List.length_append, List.length_singleton] at htail
      constructor
      · by_cases hdead :
          (results calls.length).getStatus = STATUS_DEAD_OBJECT
        · have hlogged := isDeadObjectLogged_iff.mpr hdead
          simp [verdicts, isDead, hlogged, hdead] at htail ⊢
          exact htail.1
        · have hlogged : isDeadObjectLogged (results calls.length) = false := by
            rw [← Bool.not_eq_true, isDeadObjectLogged_iff]
            exact hdead
          simp [verdicts, isDead, hlogged, hdead] at htail ⊢
          exact htail.1
      · simp [verdicts, isDead] at htail ⊢
        exact htail.2

theorem Represents.broadcast (hs : s.Represents ls r)
    (isDowned : Bool) (results : ℕ → ScopedAStatus) :
    ∃ t ls', s.onUdfpsTouchStatusChanged isDowned results = some t ∧
      t.Represents ls' (r.broadcast isDowned results) := by
  rcases eraseCallbacks_spec (isDead isDowned results) [] hs.wellLinked with
    ⟨death, herase, hlinked⟩
  have hanswers := verdicts_isDead isDowned results ls []
  rw [hs.entries] at hanswers
  let t : UdfpsHelper :=
    { s with
      callbacks_ :=
        (kept (verdicts (isDead isDowned results) ls []).1).map some
      death := death
      notified :=
        s.notified ++ (verdicts (isDead isDowned results) ls []).2 }
  have hrun : s.onUdfpsTouchStatusChanged isDowned results = some t := by
    unfold onUdfpsTouchStatusChanged
    rw [herase]
    rfl
  exact ⟨t, _, hrun,
    { wellLinked := hlinked
      entries := hanswers.1
      status := hs.status
      notified := by
        unfold Reference.broadcast
        simp only [t, hanswers.2, List.nil_append, hs.notified, ← hs.entries,
          List.map_map, Function.comp_def]
      returned := hs.returned }⟩

/-- A notice finds the object it was linked with, and its handler deletes the
entries of the dead binder. -/
theorem Represents.died (hs : s.Represents ls r) {link : DeathLink}
    (hlink : link ∈ s.death.links) :
    ∃ t ls', s.onCallbackDiedWrapped link.cookie = some t ∧
      t.Represents ls' (r.delete link.binder) := by
  have hmem : link ∈ ls.map Linked.link := hs.wellLinked.links.mem_iff.mp hlink
  rcases List.mem_map.mp hmem with ⟨l, hl, rfl⟩
  have hnodup : (ls.map Linked.cookie).Nodup := by
    have hall := hs.wellLinked.linked.nodup_iff.mp hs.wellLinked.nodup
    exact (List.nodup_append.mp hall).1
  have hfind : s.callbacks_.reduceOption.find?
      (fun linked => linked.cookie = l.link.cookie) = some l := by
    have hvector : s.callbacks_.reduceOption = ls := by
      rw [hs.wellLinked.slots]
      simp [List.reduceOption]
    rw [hvector]
    cases hfound : ls.find? (fun linked => linked.cookie = l.link.cookie) with
    | none =>
        have hmiss := List.find?_eq_none.mp hfound l hl
        simp [Linked.link] at hmiss
    | some l' =>
        have hl' : l' ∈ ls := List.mem_of_find?_eq_some hfound
        have hcookie : l'.cookie = l.link.cookie := by
          simpa using List.find?_some hfound
        rw [List.inj_on_of_nodup_map hnodup hl' hl hcookie]
  rcases hs.unregister (some l.callback) with ⟨status, t, ls', hrun, _, ht⟩
  unfold onCallbackDiedWrapped onCallbackDied
  rw [hfind]
  simp only [l.service_set, l.callback_set, if_true, hrun, Option.map_some]
  exact ⟨t, ls', rfl, ht l.callback rfl⟩

/-! ## Runs -/

def Deliverable (s : UdfpsHelper) (e : HelperEvent) : Prop :=
  ∀ link, e = .callbackDied link → link ∈ s.death.links

theorem deliverable_of_step {e : HelperEvent}
    (hstep : machine.step s e = some t) : s.Deliverable e := by
  intro link he
  subst he
  by_contra hgone
  simp [machine, step, hgone] at hstep

theorem Represents.touch (hs : s.Represents ls r) (down : Bool) :
    (UdfpsHelper.answer
      (.ok, { s with currentIsDownState := down })).Represents ls
        (r.touch down) := by
  have hset : { s with currentIsDownState := down }.Represents ls
      { r with currentIsDownState := down } :=
    { wellLinked := hs.wellLinked
      entries := hs.entries
      status := rfl
      notified := hs.notified
      returned := hs.returned }
  exact hset.answer

/-- Every event that can come is handled, as the list handles it. -/
theorem Represents.step (hs : s.Represents ls r) {e : HelperEvent}
    (he : s.Deliverable e) :
    ∃ t ls', machine.step s e = some t ∧ t.Represents ls' (r.step e) := by
  cases e with
  | touchDown => exact ⟨_, ls, rfl, hs.touch true⟩
  | touchUp => exact ⟨_, ls, rfl, hs.touch false⟩
  | registerCallback callback linkRet res =>
      rcases hs.register callback linkRet res with
        ⟨status, t, ls', hrun, ht⟩
      simp only [machine, UdfpsHelper.step, hrun, Option.map_some]
      exact ⟨UdfpsHelper.answer (status, t), ls', rfl, ht⟩
  | unregisterCallback callback =>
      rcases hs.unregister callback with ⟨status, t, ls', hrun, ht, _⟩
      simp only [machine, UdfpsHelper.step, hrun, Option.map_some]
      exact ⟨UdfpsHelper.answer (status, t), ls', rfl, ht⟩
  | onUdfpsTouchStatusChanged isDowned results =>
      rcases hs.broadcast isDowned results with ⟨t, ls', hrun, ht⟩
      exact ⟨t, ls', hrun, ht⟩
  | callbackDied link =>
      have hlink : link ∈ s.death.links := he link rfl
      rcases hs.died hlink with ⟨t, ls', hrun, ht⟩
      simp only [machine, UdfpsHelper.step, if_pos hlink, hrun]
      exact ⟨t, ls', rfl, ht⟩

theorem Represents.run (hs : s.Represents ls r) {es : List HelperEvent}
    (hrun : machine.run s es = some t) :
    ∃ ls', t.Represents ls' (es.foldl Reference.step r) := by
  induction es generalizing s ls r with
  | nil =>
      have heq : s = t := by simpa using hrun
      subst heq
      exact ⟨ls, hs⟩
  | cons e es ih =>
      rcases Machine.run_cons_eq_some.mp hrun with ⟨u, hstep, hrest⟩
      rcases hs.step (deliverable_of_step hstep) with ⟨u', ls', hstep', hu⟩
      obtain rfl : u = u' := Option.some.inj (hstep.symm.trans hstep')
      exact ih hu hrest

theorem initial_represents : initial.Represents [] Reference.initial where
  wellLinked :=
    { slots := rfl
      links := List.Perm.refl _
      linked := List.Perm.refl _
      nodup := List.nodup_nil
      fresh := by
        intro cookie hmem
        contradiction }
  entries := rfl
  status := rfl
  notified := rfl
  returned := rfl

/-- After every run the vector holds, in order, the entries of the list that
made the same run; calls, statuses, links and cookies agree with it; and no
event that can come is left without a result. -/
theorem registry_refines_reference :
    (∀ es s, machine.run initial es = some s →
      ∃ ls, s.Represents ls (es.foldl Reference.step Reference.initial)) ∧
    ∀ es s e, machine.run initial es = some s → s.Deliverable e →
      ∃ t, machine.step s e = some t := by
  constructor
  · intro es s hrun
    exact initial_represents.run hrun
  · intro es s e hrun he
    rcases initial_represents.run hrun with ⟨ls, hs⟩
    rcases hs.step he with ⟨t, _, hstep, _⟩
    exact ⟨t, hstep⟩

end UdfpsHelper

end Samurai
