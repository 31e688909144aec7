import Mathlib.Tactic

/-!
# The enrolled fingerprints

`IFAAManagerImpl.getIDList` asks the fingerprint manager for its list and
copies the biometric ids into an array.  The array has an entry for every
fingerprint, but the loop that fills it ends before the last one.
-/

namespace Samurai

structure Fingerprint where
  biometricId : Int32
  deriving DecidableEq, Repr

def Fingerprint.getBiometricId (fp : Fingerprint) : Int32 :=
  fp.biometricId

/-- The list it returns, which may be null and may have null elements. -/
structure FingerprintManager where
  getEnrolledFingerprints : Option (List (Option Fingerprint))
  deriving DecidableEq, Repr

structure KeyguardManager where
  isKeyguardSecure : Bool
  deriving DecidableEq, Repr

/-- What `getSystemService` returns. -/
structure SystemServices where
  fingerprint : Option FingerprintManager
  keyguard : Option KeyguardManager
  deriving DecidableEq, Repr

structure IFAAManagerImpl where
  mFingerprintManager : Option FingerprintManager
  mKeyguardManager : Option KeyguardManager
  deriving DecidableEq, Repr

namespace IFAAManagerImpl

def ensureNeedServiceAvailable (mContext : SystemServices)
    (s : IFAAManagerImpl) : IFAAManagerImpl where
  mFingerprintManager := s.mFingerprintManager.or mContext.fingerprint
  mKeyguardManager := s.mKeyguardManager.or mContext.keyguard

/-- The body of the loop. -/
def setID (myFingerprintList : List (Option Fingerprint)) (i : ℕ)
    (myIDList : List Int32) : List Int32 :=
  match myFingerprintList[i]? with
  | some (some fp) => myIDList.set i fp.getBiometricId
  | _ => myIDList

def fillIDs (myFingerprintList : List (Option Fingerprint)) : List Int32 :=
  (List.range (myFingerprintList.length - 1)).foldl
    (fun myIDList i => setID myFingerprintList i myIDList)
    (List.replicate myFingerprintList.length 0)

def getIDList (mContext : SystemServices) (bioType : ℤ) (s : IFAAManagerImpl) :
    Option (List Int32) × IFAAManagerImpl :=
  let s := s.ensureNeedServiceAvailable mContext
  if bioType = 4 then (none, s)
  else if bioType = 1 then
    match s.mFingerprintManager with
    | none => (none, s)
    | some manager =>
        match manager.getEnrolledFingerprints with
        | none => (none, s)
        | some myFingerprintList =>
            if myFingerprintList.length = 0 then (none, s)
            else (some (fillIDs myFingerprintList), s)
  else (none, s)

/-! ## What the loop fills -/

variable {fps : List (Option Fingerprint)} {ids : List Int32} {i n : ℕ}

@[simp] theorem length_setID : (setID fps i ids).length = ids.length := by
  unfold setID
  split
  · simp
  · rfl

theorem getElem?_setID_of_ne {k : ℕ} (hne : k ≠ i) :
    (setID fps i ids)[k]? = ids[k]? := by
  unfold setID
  split
  · exact List.getElem?_set_ne hne.symm
  · rfl

theorem getElem?_setID_congr {ids' : List Int32} (h : ids[i]? = ids'[i]?) :
    (setID fps i ids)[i]? = (setID fps i ids')[i]? := by
  unfold setID
  split
  · rw [List.getElem?_set_self', List.getElem?_set_self', h]
  · exact h

theorem getElem?_setID_self {fp : Fingerprint} (hfp : fps[i]? = some (some fp))
    (hi : i < ids.length) :
    (setID fps i ids)[i]? = some fp.getBiometricId := by
  unfold setID
  simp only [hfp]
  exact List.getElem?_set_self hi

@[simp] theorem length_foldl_setID (is : List ℕ) :
    (is.foldl (fun ids i => setID fps i ids) ids).length = ids.length := by
  induction is generalizing ids with
  | nil => rfl
  | cons i is ih => rw [List.foldl_cons, ih, length_setID]

/-- After `n` rounds the entries below `n` are set, and the others are not. -/
theorem getElem?_rounds (n k : ℕ) :
    ((List.range n).foldl (fun ids i => setID fps i ids) ids)[k]? =
      if k < n then (setID fps k ids)[k]? else ids[k]? := by
  induction n with
  | zero => simp
  | succ n ih =>
      rw [List.range_succ, List.foldl_append, List.foldl_cons, List.foldl_nil]
      rcases lt_trichotomy k n with hlt | heq | hgt
      · rw [getElem?_setID_of_ne (Nat.ne_of_lt hlt), ih, if_pos hlt,
          if_pos (by omega)]
      · subst heq
        rw [if_pos (Nat.lt_succ_self k)]
        rw [if_neg (lt_irrefl k)] at ih
        exact getElem?_setID_congr ih
      · rw [getElem?_setID_of_ne (Nat.ne_of_gt hgt), ih, if_neg (by omega),
          if_neg (by omega)]

theorem length_fillIDs : (fillIDs fps).length = fps.length := by
  simp [fillIDs]

/-- All ids but the last are copied. -/
theorem getElem?_fillIDs {fp : Fingerprint} (hfp : fps[i]? = some (some fp)) :
    (fillIDs fps)[i]? =
      if i < fps.length - 1 then some fp.getBiometricId else some 0 := by
  have hi : i < fps.length := (List.getElem?_eq_some_iff.mp hfp).1
  unfold fillIDs
  rw [getElem?_rounds]
  split_ifs
  · exact getElem?_setID_self hfp (by simpa using hi)
  · simp [hi]

/-! ## What is reported -/

/-- Nothing is reported exactly if there is no fingerprint, and otherwise there
is an entry for each, which holds its id. -/
def ReportsAll (enrolled : Option (List (Option Fingerprint)))
    (result : Option (List Int32)) : Prop :=
  (result = none ↔ enrolled = none ∨ enrolled = some []) ∧
    ∀ fps ids, enrolled = some fps → result = some ids →
      ids.length = fps.length ∧
        ∀ (i : ℕ) (fp : Fingerprint), fps[i]? = some (some fp) →
          ids[i]? = some fp.getBiometricId

theorem getIDList_eq {mContext : SystemServices} {s : IFAAManagerImpl}
    {manager : FingerprintManager}
    (hmanager : (s.ensureNeedServiceAvailable mContext).mFingerprintManager =
      some manager) :
    (s.getIDList mContext 1).1 =
      match manager.getEnrolledFingerprints with
      | none => none
      | some fps => if fps.length = 0 then none else some (fillIDs fps) := by
  have hface : ¬ (1 : ℤ) = 4 := by decide
  unfold getIDList
  simp only [hface, if_false, if_true, hmanager]
  cases manager.getEnrolledFingerprints with
  | none => rfl
  | some fps =>
      simp only
      split_ifs
      · rfl
      · rfl

theorem reportsAll_fillIDs_iff (hne : fps ≠ []) :
    ReportsAll (some fps) (some (fillIDs fps)) ↔
      ∀ fp, fps.getLast? = some (some fp) → fp.getBiometricId = 0 := by
  have hlength : 0 < fps.length := List.length_pos_iff.mpr hne
  constructor
  · rintro ⟨_, hall⟩ fp hlast
    rw [List.getLast?_eq_getElem?] at hlast
    have hid := (hall fps _ rfl rfl).2 _ fp hlast
    rw [getElem?_fillIDs hlast, if_neg (lt_irrefl _)] at hid
    exact (Option.some.inj hid).symm
  · intro hlast
    refine ⟨by simp [hne], ?_⟩
    intro fps' ids hfps hids
    cases hfps
    cases hids
    refine ⟨length_fillIDs, ?_⟩
    intro i fp hfp
    have hi : i < fps.length := (List.getElem?_eq_some_iff.mp hfp).1
    rw [getElem?_fillIDs hfp]
    split_ifs with hcopied
    · rfl
    · have hend : i = fps.length - 1 := by omega
      rw [hlast fp (by rw [List.getLast?_eq_getElem?, ← hend, hfp])]

/-- Every fingerprint is reported exactly if the last one, if there is one, has
the id that an entry has before it is set. -/
theorem getIDList_reportsAll_iff (mContext : SystemServices)
    (s : IFAAManagerImpl) (manager : FingerprintManager)
    (hmanager : (s.ensureNeedServiceAvailable mContext).mFingerprintManager =
      some manager) :
    ReportsAll manager.getEnrolledFingerprints (s.getIDList mContext 1).1 ↔
      ∀ fps fp, manager.getEnrolledFingerprints = some fps →
        fps.getLast? = some (some fp) → fp.getBiometricId = 0 := by
  rw [getIDList_eq hmanager]
  cases manager.getEnrolledFingerprints with
  | none => simp [ReportsAll]
  | some fps =>
      by_cases hne : fps = []
      · subst hne
        simp only [List.length_nil, if_true]
        constructor
        · intro _ fps fp hfps hlast
          cases hfps
          contradiction
        · intro _
          exact ⟨by simp, by simp⟩
      · have hlength : ¬ fps.length = 0 := by simpa using hne
        simp only [hlength, if_false]
        rw [reportsAll_fillIDs_iff hne]
        constructor
        · intro hlast fps' fp hfps
          cases hfps
          exact hlast fp
        · intro hlast fp
          exact hlast fps fp rfl

/-- Two fingerprints. -/
def twoEnrolled : FingerprintManager where
  getEnrolledFingerprints := some [some ⟨7⟩, some ⟨8⟩]

def twoEnrolledServices : SystemServices where
  fingerprint := some twoEnrolled
  keyguard := none

theorem getIDList_reportsAll_iff_twoEnrolled :
    ReportsAll twoEnrolled.getEnrolledFingerprints
        (getIDList twoEnrolledServices 1 ⟨none, none⟩).1 ↔
      ∀ fps fp, twoEnrolled.getEnrolledFingerprints = some fps →
        fps.getLast? = some (some fp) → fp.getBiometricId = 0 :=
  getIDList_reportsAll_iff twoEnrolledServices ⟨none, none⟩ twoEnrolled rfl

theorem last_id_not_reported :
    ¬ ∀ (mContext : SystemServices) (s : IFAAManagerImpl)
      (manager : FingerprintManager),
      (s.ensureNeedServiceAvailable mContext).mFingerprintManager =
        some manager →
      ReportsAll manager.getEnrolledFingerprints
        (s.getIDList mContext 1).1 := by
  intro hclaim
  have hall := hclaim twoEnrolledServices ⟨none, none⟩ twoEnrolled rfl
  have hid := (hall.2 _ _ rfl rfl).2 1 ⟨8⟩ rfl
  exact absurd hid (by decide)

end IFAAManagerImpl

end Samurai
