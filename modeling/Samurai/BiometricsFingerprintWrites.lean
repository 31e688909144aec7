import Samurai.BiometricsFingerprintPanel

/-!
# The order of the writes

A press is announced over a lit panel and withdrawn before the panel goes
dark: `onFingerDown`, `onFingerUp` and `onError` write the two nodes in the
order this asks for.  `onAuthenticated` writes them in the other order,
`cancel` and `postEnroll` turn the panel off under a press, and during an
enrolment `onFingerDown` relies on a panel that a match may have turned off.

The nodes are replayed here write by write, and the table of what an event
writes gets an order.
-/

namespace Samurai

open BiometricsFingerprint

structure SysfsNodes where
  dimlayer_hbm : ℕ
  notify_fppress : ℕ
  deriving DecidableEq, Repr

namespace SysfsNodes

def write (nodes : SysfsNodes) : SysfsNode × ℕ → SysfsNodes
  | (.dimlayerHbm, value) => { nodes with dimlayer_hbm := value }
  | (.notifyFppress, value) => { nodes with notify_fppress := value }

def dark : SysfsNodes where
  dimlayer_hbm := 0
  notify_fppress := 0

def machine : Machine SysfsNodes (SysfsNode × ℕ) where
  Initial nodes := nodes = dark
  step nodes w := some (nodes.write w)

def PressLit (nodes : SysfsNodes) : Prop :=
  nodes.notify_fppress = 1 → nodes.dimlayer_hbm = 1

variable {nodes : SysfsNodes} {w : SysfsNode × ℕ}
  {ws : List (SysfsNode × ℕ)}

@[simp] theorem lit_nil : machine.Always PressLit nodes [] ↔ nodes.PressLit :=
  Iff.rfl

@[simp] theorem lit_cons :
    machine.Always PressLit nodes (w :: ws) ↔
      nodes.PressLit ∧ machine.Always PressLit (nodes.write w) ws :=
  Machine.always_cons rfl

@[simp] theorem pressLit_light (value : ℕ) :
    (nodes.write (.dimlayerHbm, value)).PressLit ↔
      (nodes.notify_fppress = 1 → value = 1) :=
  Iff.rfl

@[simp] theorem pressLit_press (value : ℕ) :
    (nodes.write (.notifyFppress, value)).PressLit ↔
      (value = 1 → nodes.dimlayer_hbm = 1) :=
  Iff.rfl

@[simp] theorem write_dimlayerHbm (value : ℕ) :
    (nodes.write (.dimlayerHbm, value)).dimlayer_hbm = value :=
  rfl

@[simp] theorem write_notifyFppress (value : ℕ) :
    (nodes.write (.notifyFppress, value)).notify_fppress = value :=
  rfl

theorem run_writes :
    machine.run nodes ws = some (ws.foldl write nodes) := by
  induction ws generalizing nodes with
  | nil => rfl
  | cons w ws ih => exact ih

end SysfsNodes

/-- The events that withdraw a press before they turn the panel off. -/
def HalEvent.pressFirst : HalEvent → Bool
  | .request .onFingerUp => true
  | .callback (.onError _ _ _) => true
  | _ => false

/-- What an event writes, in order, when every write succeeds. -/
def HalEvent.writes (oplus isEnrolling : Bool) (e : HalEvent) :
    List (SysfsNode × ℕ) :=
  let light := (e.lights oplus isEnrolling).toList.map fun v =>
    (SysfsNode.dimlayerHbm, v)
  let press := e.presses.toList.map fun v => (SysfsNode.notifyFppress, v)
  if e.pressFirst then press ++ light else light ++ press

theorem HalEvent.writes_replayed (oplus isEnrolling : Bool) (e : HalEvent)
    (nodes : SysfsNodes) :
    (e.writes oplus isEnrolling).foldl SysfsNodes.write nodes =
      { dimlayer_hbm := (e.lights oplus isEnrolling).getD nodes.dimlayer_hbm
        notify_fppress := e.presses.getD nodes.notify_fppress } := by
  unfold HalEvent.writes
  cases e.lights oplus isEnrolling with
  | none =>
      cases e.presses with
      | none => cases e.pressFirst <;> rfl
      | some press => cases e.pressFirst <;> rfl
  | some light =>
      cases e.presses with
      | none => cases e.pressFirst <;> rfl
      | some press => cases e.pressFirst <;> rfl

namespace BiometricsFingerprint

variable {s : BiometricsFingerprint} {env : HalEnv}

theorem finger_writes (skip : Bool) (r : HalRequest) (reply : Return Unit)
    (s : BiometricsFingerprint) :
    (if skip then (Void, s) else s.callOplus r reply).2.writes = s.writes := by
  cases skip with
  | false => rfl
  | true => rfl

theorem request_writes (hoplus : s.mOplusBiometricsFingerprint = true)
    (hlight : env.dimlayerWritable = true)
    (hpress : env.fppressWritable = true) (r : HalRequest) :
    (s.request env r).writes =
      s.writes ++ (HalEvent.request r).writes true s.isEnrolling := by
  cases r with
  | setNotify clientCallback =>
      simp [request, setNotify, ensureOplusHal, hoplus, HalEvent.writes]
  | preEnroll =>
      simp [request, preEnroll, ensureOplusHal, callOplus, hoplus,
        setDimlayerHbm, hlight, HalEvent.writes, HalEvent.pressFirst]
  | enroll hat gid timeoutSec =>
      simp [request, enroll, ensureOplusHal, callOplus, hoplus,
        setDimlayerHbm, hlight, HalEvent.writes, HalEvent.pressFirst]
  | postEnroll =>
      simp [request, postEnroll, ensureOplusHal, callOplus, hoplus,
        setDimlayerHbm, hlight, HalEvent.writes, HalEvent.pressFirst]
  | cancel =>
      cases henrolling : s.isEnrolling with
      | false =>
          simp [request, cancel, ensureOplusHal, callOplus, hoplus, henrolling,
            setDimlayerHbm, hlight, HalEvent.writes, HalEvent.pressFirst]
      | true =>
          simp [request, cancel, ensureOplusHal, callOplus, hoplus, henrolling,
            HalEvent.writes]
  | authenticate operationId gid =>
      simp [request, authenticate, ensureOplusHal, callOplus, hoplus,
        HalEvent.writes]
  | onFingerDown x y minor major =>
      cases henrolling : s.isEnrolling with
      | false =>
          simp only [request, onFingerDown, finger_writes]
          simp [henrolling, setDimlayerHbm, setFpPress, hlight, hpress,
            HalEvent.writes, HalEvent.pressFirst]
      | true =>
          simp only [request, onFingerDown, finger_writes]
          simp [henrolling, setFpPress, hpress, HalEvent.writes,
            HalEvent.pressFirst]
  | onFingerUp =>
      cases henrolling : s.isEnrolling with
      | false =>
          simp only [request, onFingerUp, finger_writes]
          simp [henrolling, setDimlayerHbm, setFpPress, hlight, hpress,
            HalEvent.writes, HalEvent.pressFirst]
      | true =>
          simp only [request, onFingerUp, finger_writes]
          simp [henrolling, setFpPress, hpress, HalEvent.writes,
            HalEvent.pressFirst]
  | getAuthenticatorId =>
      simp [request, getAuthenticatorId, forwardOplus_eq, HalEvent.writes]
  | enumerate => simp [request, enumerate, forwardOplus_eq, HalEvent.writes]
  | remove gid fid => simp [request, remove, forwardOplus_eq, HalEvent.writes]
  | setActiveGroup gid storePath =>
      simp [request, setActiveGroup, forwardOplus_eq, HalEvent.writes]
  | isUdfps sensorID =>
      simp [request, isUdfps, forwardOplus_eq, HalEvent.writes]

theorem callback_writes (hlight : env.dimlayerWritable = true)
    (hpress : env.fppressWritable = true) (c : VendorCallback) :
    (s.callback env c).writes =
      s.writes ++ (HalEvent.callback c).writes true s.isEnrolling := by
  cases c with
  | onEnrollResult deviceId fingerId groupId remaining =>
      simp [callback, onEnrollResult, callClient_eq, helperTouchUp,
        HalEvent.writes]
  | onAuthenticated deviceId fingerId groupId token =>
      by_cases hfinger : fingerId = 0
      · simp [callback, onAuthenticated, callClient_eq, helperTouchUp, hfinger,
          setFpPress, hpress, HalEvent.writes, HalEvent.pressFirst]
      · simp [callback, onAuthenticated, callClient_eq, helperTouchUp, hfinger,
          setDimlayerHbm, setFpPress, hlight, hpress, HalEvent.writes,
          HalEvent.pressFirst]
  | onError deviceId error vendorCode =>
      cases henrolling : s.isEnrolling with
      | false =>
          simp [callback, onError, callClient_eq, henrolling, setDimlayerHbm,
            setFpPress, hlight, hpress, HalEvent.writes, HalEvent.pressFirst]
      | true =>
          simp [callback, onError, callClient_eq, henrolling, setFpPress,
            hpress, HalEvent.writes, HalEvent.pressFirst]
  | onFingerprintCmd cmdId result resultLen =>
      have hcmd : (s.onFingerprintCmd cmdId).2.writes = s.writes := by
        unfold onFingerprintCmd
        cases s.mOplusUdfpsHelper with
        | none => rfl
        | some h =>
            simp only
            split_ifs
            · rfl
            · rfl
            · rfl
      simp [callback, hcmd, HalEvent.writes]
  | onEngineeringInfoUpdated lenth keys values =>
      simp [callback, onEngineeringInfoUpdated, HalEvent.writes]
  | onAcquired deviceId acquiredInfo vendorCode =>
      simp [callback, onAcquired, callClient_eq, HalEvent.writes]
  | onRemoved deviceId fingerId groupId remaining =>
      simp [callback, onRemoved, callClient_eq, HalEvent.writes]
  | onEnumerate deviceId fingerId groupId remaining =>
      simp [callback, onEnumerate, callClient_eq, HalEvent.writes]
  | onAcquired_2_2 deviceId acquiredInfo vendorCode =>
      simp [callback, onAcquired_2_2, callClient_eq, HalEvent.writes]

theorem handle_writes {input : HalInput}
    (hoplus : s.mOplusBiometricsFingerprint = true)
    (hlight : input.env.dimlayerWritable = true)
    (hpress : input.env.fppressWritable = true) :
    (s.handle input).writes =
      s.writes ++ input.event.writes true s.isEnrolling := by
  rcases input with ⟨env, event⟩
  cases event with
  | request r => exact request_writes hoplus hlight hpress r
  | callback c => exact callback_writes hlight hpress c

end BiometricsFingerprint

/-! ## Presses -/

namespace Observed

variable {o : Observed} {input : HalInput} {inputs : List HalInput}

/-- Between any two writes a press is announced over a lit panel. -/
def PressImpliesLit (o : Observed) : Prop :=
  SysfsNodes.machine.Always SysfsNodes.PressLit SysfsNodes.dark o.hal.writes

/-- What an event asks of the state it is handled in: the panel goes dark
under no press, and a press during an enrolment finds the panel lit. -/
def PressInOrder (o : Observed) (input : HalInput) : Prop :=
  match input.event with
  | .request .postEnroll => o.hal.notify_fppress ≠ 1
  | .request .cancel => o.hal.isEnrolling = true ∨ o.hal.notify_fppress ≠ 1
  | .request (.onFingerDown _ _ _ _) =>
      o.hal.isEnrolling = false ∨ o.hal.dimlayer_hbm = 1
  | .callback (.onAuthenticated _ fingerId _ _) =>
      fingerId = 0 ∨ o.hal.notify_fppress ≠ 1
  | _ => True

def nodes (o : Observed) : SysfsNodes where
  dimlayer_hbm := o.hal.dimlayer_hbm
  notify_fppress := o.hal.notify_fppress

@[simp] theorem nodes_dimlayer_hbm :
    o.nodes.dimlayer_hbm = o.hal.dimlayer_hbm :=
  rfl

@[simp] theorem nodes_notify_fppress :
    o.nodes.notify_fppress = o.hal.notify_fppress :=
  rfl

/-- The nodes hold what was written to them. -/
def Replayed (o : Observed) : Prop :=
  SysfsNodes.machine.run SysfsNodes.dark o.hal.writes = some o.nodes

theorem run_observe (hpresent : o.Present) (hwrites : WritesSucceed o input) :
    SysfsNodes.machine.run o.nodes
        (input.event.writes true o.hal.isEnrolling) =
      some (o.observe input).nodes := by
  have heffect := handle_effect o.hal input
  have hlight := heffect.dimlayer_hbm
  have hpress := heffect.notify_fppress
  rw [show o.hal.mOplusBiometricsFingerprint = true from hpresent,
    if_pos hwrites.1] at hlight
  rw [if_pos hwrites.2] at hpress
  rw [SysfsNodes.run_writes, HalEvent.writes_replayed]
  unfold nodes observe
  rw [hlight, hpress]

theorem replayed_observe (ho : o.Replayed) (hpresent : o.Present)
    (hwrites : WritesSucceed o input) : (o.observe input).Replayed := by
  have hlist := handle_writes hpresent hwrites.1 hwrites.2
  unfold Replayed
  rw [show (o.observe input).hal.writes = _ from hlist,
    Machine.run_append_eq_some]
  exact ⟨o.nodes, ho, run_observe hpresent hwrites⟩

theorem request_lit_iff (hlit : o.nodes.PressLit) (env : HalEnv)
    (r : HalRequest) :
    SysfsNodes.machine.Always SysfsNodes.PressLit o.nodes
        ((HalEvent.request r).writes true o.hal.isEnrolling) ↔
      PressInOrder o ⟨env, .request r⟩ := by
  cases r with
  | postEnroll =>
      simp [HalEvent.writes, HalEvent.pressFirst, hlit, PressInOrder]
  | cancel =>
      cases henrolling : o.hal.isEnrolling with
      | false =>
          simp [HalEvent.writes, HalEvent.pressFirst, hlit, PressInOrder,
            henrolling]
      | true =>
          simp [HalEvent.writes, hlit, PressInOrder, henrolling]
  | onFingerDown x y minor major =>
      cases henrolling : o.hal.isEnrolling with
      | false =>
          simp [HalEvent.writes, HalEvent.pressFirst, hlit, PressInOrder,
            henrolling]
      | true =>
          simp [HalEvent.writes, HalEvent.pressFirst, hlit, PressInOrder,
            henrolling]
  | onFingerUp =>
      cases henrolling : o.hal.isEnrolling with
      | false =>
          simp [HalEvent.writes, HalEvent.pressFirst, hlit, PressInOrder]
      | true =>
          simp [HalEvent.writes, HalEvent.pressFirst, hlit, PressInOrder]
  | preEnroll =>
      simp [HalEvent.writes, HalEvent.pressFirst, hlit, PressInOrder]
  | enroll hat gid timeoutSec =>
      simp [HalEvent.writes, HalEvent.pressFirst, hlit, PressInOrder]
  | _ => exact ⟨fun _ => trivial, fun _ => hlit⟩

theorem callback_lit_iff (hlit : o.nodes.PressLit) (env : HalEnv)
    (c : VendorCallback) :
    SysfsNodes.machine.Always SysfsNodes.PressLit o.nodes
        ((HalEvent.callback c).writes true o.hal.isEnrolling) ↔
      PressInOrder o ⟨env, .callback c⟩ := by
  cases c with
  | onAuthenticated deviceId fingerId groupId token =>
      by_cases hfinger : fingerId = 0
      · simp [HalEvent.writes, HalEvent.pressFirst, hlit, PressInOrder,
          hfinger]
      · simp [HalEvent.writes, HalEvent.pressFirst, hlit, PressInOrder,
          hfinger]
  | onError deviceId error vendorCode =>
      cases henrolling : o.hal.isEnrolling with
      | false =>
          simp [HalEvent.writes, HalEvent.pressFirst, hlit, PressInOrder]
      | true =>
          simp [HalEvent.writes, HalEvent.pressFirst, hlit, PressInOrder]
  | _ => exact ⟨fun _ => trivial, fun _ => hlit⟩

/-- From nodes in which a press is lit, it stays lit through the writes of an
event exactly when the event is in order. -/
theorem pressImpliesLit_observe (ho : o.PressImpliesLit) (hnodes : o.Replayed)
    (hpresent : o.Present) (hwrites : WritesSucceed o input) :
    (o.observe input).PressImpliesLit ↔ PressInOrder o input := by
  have hlist : (o.observe input).hal.writes =
      o.hal.writes ++ input.event.writes true o.hal.isEnrolling :=
    handle_writes hpresent hwrites.1 hwrites.2
  have hsplit : (o.observe input).PressImpliesLit ↔
      SysfsNodes.machine.Always SysfsNodes.PressLit o.nodes
        (input.event.writes true o.hal.isEnrolling) := by
    unfold PressImpliesLit
    rw [hlist]
    constructor
    · intro hall
      exact hall.drop hnodes
    · intro hnew
      exact Machine.Always.append ho hnodes hnew
  have hlit : o.nodes.PressLit := by
    have hend : SysfsNodes.machine.Always SysfsNodes.PressLit SysfsNodes.dark
        (o.hal.writes ++ []) := by
      rw [List.append_nil]
      exact ho
    exact hend.drop hnodes
  rw [hsplit]
  rcases input with ⟨env, event⟩
  cases event with
  | request r => exact request_lit_iff hlit env r
  | callback c => exact callback_lit_iff hlit env c

theorem replayed_along (hpresent : o.Present) (ho : o.Replayed)
    (hwrites : machine.Along WritesSucceed o inputs) :
    machine.Along (fun o _ => o.Present ∧ o.Replayed) o inputs := by
  have halways : machine.Always (fun o => o.Present ∧ o.Replayed) o
      inputs := by
    apply Machine.Along.always _ ⟨hpresent, ho⟩ hwrites
    rintro o input t ⟨hpresent, ho⟩ hwrites hstep
    cases hstep
    exact ⟨present_observe hpresent, replayed_observe ho hpresent hwrites⟩
  exact halways.along

/-- With the vendor service there, dark nodes and writes that succeed, a press
is lit at every point between two writes if and only if every event comes in
order. -/
theorem pressImpliesLit_iff
    (helper : Option UdfpsHelper) (inputs : List HalInput)
    (hok : machine.Along WritesSucceed (started helper 0 0) inputs) :
    machine.Always PressImpliesLit (started helper 0 0) inputs ↔
      machine.Along PressInOrder (started helper 0 0) inputs := by
  have hnodes := replayed_along (o := started helper 0 0) rfl rfl hok
  apply Machine.always_iff_along _ _ _ (hnodes.and hok)
  · rintro o input t ho ⟨⟨hpresent, hreplayed⟩, hwrites⟩ hstep
    cases hstep
    exact pressImpliesLit_observe ho hreplayed hpresent hwrites
  · intro o input _
    exact ⟨_, rfl⟩
  · intro hpress
    contradiction

/-- A finger goes down and is recognised. -/
def recognised : List HalInput :=
  [.asked (.onFingerDown 0 0 0 0), .calledBack (.onAuthenticated 1 7 0 [])]

theorem pressImpliesLit_iff_recognised :
    machine.Along WritesSucceed (started none 0 0) recognised ∧
      (machine.Always PressImpliesLit (started none 0 0) recognised ↔
        machine.Along PressInOrder (started none 0 0) recognised) := by
  have hok : machine.Along WritesSucceed (started none 0 0) recognised :=
    (assumed_along rfl).mono fun _ _ h => h.1
  exact ⟨hok, pressImpliesLit_iff none recognised hok⟩

theorem press_unlit_by_match :
    ¬ ∀ inputs, machine.Along WritesSucceed (started none 0 0) inputs →
      machine.Always PressImpliesLit (started none 0 0) inputs := by
  intro hclaim
  have hok : machine.Along WritesSucceed (started none 0 0) recognised :=
    (assumed_along rfl).mono fun _ _ h => h.1
  have halways := hclaim recognised hok
  have hlast : PressImpliesLit
      (((started none 0 0).observe (.asked (.onFingerDown 0 0 0 0))).observe
        (.calledBack (.onAuthenticated 1 7 0 []))) :=
    (halways.2 _ rfl).2 _ rfl
  -- the writes are: light, press, dark, release
  have hdark : SysfsNodes.PressLit ⟨0, 1⟩ :=
    Machine.Always.head ((hlast.2 _ rfl).2 _ rfl |>.2 _ rfl)
  have hlit := hdark rfl
  contradiction

end Observed

end Samurai
