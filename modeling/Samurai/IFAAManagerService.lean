import Samurai.IFAAManagerModel

/-!
# The death of the service

The death recipient is linked to each binder the service comes with, and it
unlinks the service that is current when a notice arrives.  That need not be
the one the notice is for.
-/

namespace Samurai

def IFAAAction.isConnected : IFAAAction → Bool
  | .onServiceConnected _ => true
  | _ => false

def IFAAAction.isDied : IFAAAction → Bool
  | .binderDied _ => true
  | _ => false

namespace IFAAProcess

variable {s t : IFAAProcess} {a : IFAAAction} {b : ℕ} {SDK_INT : ℤ}

/-- What the driver knows, and the service. -/
structure SameService (s t : IFAAProcess) : Prop where
  mService : t.mService = s.mService
  alive : t.alive = s.alive
  links : t.links = s.links

theorem SameService.ensure (hensure : s.ensureNeedServiceAvailable = some t) :
    SameService s t := by
  unfold ensureNeedServiceAvailable at hensure
  cases hcontext : s.mContext with
  | none =>
      simp only [hcontext] at hensure
      split_ifs at hensure
      cases hensure
      exact ⟨rfl, rfl, rfl⟩
  | some x =>
      simp only [hcontext] at hensure
      cases hensure
      exact ⟨rfl, rfl, rfl⟩

theorem sameService_getEnabled {c : ℕ} {bioType : ℤ} :
    SameService s (s.getEnabled c bioType) := by
  unfold getEnabled
  cases hensure : s.ensureNeedServiceAvailable with
  | none => exact ⟨rfl, rfl, rfl⟩
  | some r =>
      obtain ⟨hservice, halive, hlinks⟩ := SameService.ensure hensure
      cases hcode : r.managers.getEnabled bioType with
      | none =>
          simp only [hcode]
          exact ⟨hservice, halive, hlinks⟩
      | some code =>
          simp only [hcode]
          exact ⟨hservice, halive, hlinks⟩

theorem sameService_getIDList {c : ℕ} {bioType : ℤ} :
    SameService s (s.getIDList c bioType) := by
  unfold getIDList
  cases hensure : s.ensureNeedServiceAvailable with
  | none => exact ⟨rfl, rfl, rfl⟩
  | some r =>
      obtain ⟨hservice, halive, hlinks⟩ := SameService.ensure hensure
      exact ⟨hservice, halive, hlinks⟩

theorem sameService_processCmdV2 {c : ℕ} {answer : Option (List UInt8)} :
    SameService s (s.processCmdV2 c answer) := by
  unfold processCmdV2
  cases s.mService with
  | none => exact ⟨rfl, rfl, rfl⟩
  | some b =>
      simp only
      split_ifs
      · exact ⟨rfl, rfl, rfl⟩
      · exact ⟨rfl, rfl, rfl⟩

theorem sameService_onServiceDisconnected :
    SameService s s.onServiceDisconnected := by
  unfold onServiceDisconnected
  cases s.mContext with
  | none => exact ⟨rfl, rfl, rfl⟩
  | some x => exact ⟨rfl, rfl, rfl⟩

theorem binderDied_eq {notices : List ℕ} (hservice : s.mService = some b) :
    { s with notices := notices }.binderDied =
      { s with notices := notices, links := s.links.erase b } := by
  simp [binderDied, hservice]

/-- The current service is alive after a step without a new connection: it was
alive before, and its links are one less if the step was a notice. -/
theorem links_step (hstep : IFAAStep SDK_INT s a t)
    (hservice : s.mService = some b) (halive : t.alive b = true)
    (hconnected : a.isConnected = false) :
    t.mService = some b ∧ s.alive b = true ∧
      t.links.count b = s.links.count b - a.isDied.toNat := by
  have hsame : SameService s t → a.isDied = false →
      t.mService = some b ∧ s.alive b = true ∧
        t.links.count b = s.links.count b - a.isDied.toNat := by
    intro h hdied
    rw [h.alive] at halive
    rw [h.mService, h.links, hdied]
    exact ⟨hservice, halive, rfl⟩
  cases hstep with
  | onServiceConnected => contradiction
  | @dies x _ =>
      have hne : b ≠ x := by
        intro heq
        simp [dies, heq] at halive
      refine ⟨hservice, by simpa [dies, Function.update_of_ne hne] using halive,
        ?_⟩
      simp [dies, IFAAAction.isDied, List.count_filter, hne]
  | binderDied _ =>
      rw [binderDied_eq hservice] at halive ⊢
      refine ⟨hservice, halive, ?_⟩
      exact List.count_erase_self
  | getEnabled _ => exact hsame sameService_getEnabled rfl
  | getIDList _ => exact hsame sameService_getIDList rfl
  | processCmdV2 _ => exact hsame sameService_processCmdV2 rfl
  | onServiceDisconnected => exact hsame sameService_onServiceDisconnected rfl
  | _ => exact hsame ⟨rfl, rfl, rfl⟩ rfl

theorem alive_before (hstep : IFAAStep SDK_INT s a t)
    (halive : t.alive b = true) : s.alive b = true := by
  cases hstep with
  | onServiceConnected =>
      unfold onServiceConnected at halive
      split_ifs at halive
      · exact halive
      · exact halive
  | @dies x _ =>
      by_cases heq : b = x
      · simp [dies, heq] at halive
      · simpa [dies, Function.update_of_ne heq] using halive
  | binderDied _ =>
      unfold binderDied at halive
      cases hservice : s.mService with
      | none =>
          simp only [hservice] at halive
          exact halive
      | some x =>
          simp only [hservice] at halive
          exact halive
  | getEnabled _ => exact sameService_getEnabled.alive ▸ halive
  | getIDList _ => exact sameService_getIDList.alive ▸ halive
  | processCmdV2 _ => exact sameService_processCmdV2.alive ▸ halive
  | onServiceDisconnected =>
      exact sameService_onServiceDisconnected.alive ▸ halive
  | _ => exact halive

variable {as : List IFAAAction}

theorem run_alive_before (hrun : (machine SDK_INT).run s as = some t)
    (halive : t.alive b = true) : s.alive b = true := by
  induction as generalizing s with
  | nil =>
      have heq : s = t := by simpa using hrun
      exact heq ▸ halive
  | cons a as ih =>
      obtain ⟨r, hstep, hrest⟩ := Machine.run_cons_eq_some.mp hrun
      exact alive_before (step_cases hstep) (ih hrest)

theorem links_run (hservice : s.mService = some b)
    (hrun : (machine SDK_INT).run s as = some t) (halive : t.alive b = true)
    (hconnected : ∀ a ∈ as, a.isConnected = false) :
    t.links.count b = s.links.count b - as.countP (·.isDied) := by
  induction as generalizing s with
  | nil =>
      have heq : s = t := by simpa using hrun
      simp [heq]
  | cons a as ih =>
      obtain ⟨r, hstep, hrest⟩ := Machine.run_cons_eq_some.mp hrun
      have hr := run_alive_before hrest halive
      obtain ⟨hservice', _, hcount⟩ := links_step (step_cases hstep) hservice hr
        (hconnected a (by simp))
      have htail := ih hservice' hrest fun x hx => hconnected x (by simp [hx])
      rw [htail, hcount, List.countP_cons]
      cases a.isDied with
      | true => simp; omega
      | false => simp

/-- From a connection to the next one, the death of the service that is alive
is watched exactly while no more notices have come than it had links before:
if it is a new one, until the first notice, whichever binder that is for. -/
theorem death_watched_iff
    (hrun : (machine SDK_INT).run (s.onServiceConnected b) as = some t)
    (hconnected : ∀ a ∈ as, a.isConnected = false)
    (halive : t.alive b = true) :
    (b ∈ t.links ↔ as.countP (·.isDied) ≤ s.links.count b) ∧
    (b ∉ s.links → (b ∈ t.links ↔ ∀ x, .binderDied x ∉ as)) := by
  have hb : s.alive b = true := by
    have hconnect := run_alive_before hrun halive
    unfold onServiceConnected at hconnect
    split_ifs at hconnect with hb
    · exact hb
    · exact absurd hconnect hb
  have hservice : (s.onServiceConnected b).mService = some b := by
    simp [onServiceConnected, hb]
  have hone : (s.onServiceConnected b).links.count b =
      s.links.count b + 1 := by
    simp [onServiceConnected, hb]
  have hcount := links_run hservice hrun halive hconnected
  have hiff : b ∈ t.links ↔ as.countP (·.isDied) ≤ s.links.count b := by
    rw [← List.count_pos_iff, hcount, hone]
    omega
  refine ⟨hiff, ?_⟩
  intro hnew
  rw [hiff, List.count_eq_zero.mpr hnew, Nat.le_zero, List.countP_eq_zero]
  constructor
  · intro hnone x hx
    exact hnone (.binderDied x) hx rfl
  · intro hnone a ha hdied
    cases a with
    | binderDied x => exact hnone x ha
    | _ => contradiction

/-- The first binder's notice comes after the second connection. -/
theorem death_watched_iff_lateNotice :
    ∃ t, (machine 29).run initial [.onServiceConnected 0, .dies 0,
        .onServiceDisconnected, .onServiceConnected 1, .binderDied 0] =
          some t ∧
      t.mService = some 1 ∧ t.alive 1 = true ∧ 1 ∉ t.links := by
  let s := ((initial.onServiceConnected 0).dies 0).onServiceDisconnected
  obtain ⟨t, hrun, hall, hservice, halive⟩ : ∃ t,
      (machine 29).run (s.onServiceConnected 1) [.binderDied 0] = some t ∧
        (machine 29).run initial [.onServiceConnected 0, .dies 0,
          .onServiceDisconnected, .onServiceConnected 1, .binderDied 0] =
            some t ∧
        t.mService = some 1 ∧ t.alive 1 = true :=
    ⟨_, rfl, rfl, rfl, rfl⟩
  have hwatched := death_watched_iff (s := s) (b := 1) hrun
    (by simp [IFAAAction.isConnected]) halive
  refine ⟨t, hall, hservice, halive, ?_⟩
  intro hmem
  exact (hwatched.2 (by decide)).mp hmem 0 (by simp)

end IFAAProcess

end Samurai
