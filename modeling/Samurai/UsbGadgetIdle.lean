import Samurai.UsbGadgetComposition

/-!
# The gadget when `init` is idle

`sys.usb.config` can be set again while `init` is still composing the gadget,
and the functions of user space can become ready at any time.  Once `init` has
caught up, the gadget is the composition that the properties then ask for, and
`sys.usb.state` says so.
-/

namespace Samurai

open TriggeredActions UsbGadget

/-! ## What the commands of the file are checked for -/

/-- The properties that name functions.  They are set at boot. -/
def UsbProperty.namesFunction : UsbProperty → Bool
  | .vendor_usb_diag_func_name | .vendor_usb_diag_mdm_inst_name
  | .vendor_usb_rndis_func_name | .vendor_usb_rmnet_func_name
  | .vendor_usb_rmnet_inst_name | .vendor_usb_dpl_inst_name
  | .vendor_usb_qdss_inst_name => true
  | _ => false

def UsbPart.named : UsbPart → Bool
  | .word _ => true
  | .property p => p.namesFunction
  | .propertyOr p _ => p.namesFunction

namespace UsbCommand

/-- Functions are named by the properties for it, which no command sets, and
their links are `f1` to `f9`. -/
def fits : UsbCommand → Bool
  | .symlink g (.g1 (.function k)) =>
      g.driver.named && g.inst.named && 1 ≤ k && k ≤ 9
  | .symlink g _ => g.driver.named && g.inst.named
  | .setprop p _ => !p.namesFunction
  | _ => true

/-- Leaves a composed gadget and `sys.usb.state` alone. -/
def spares : UsbCommand → Bool
  | .rm (.g1 (.function _)) => false
  | .rm (.g1 .os_desc) => false
  | .symlink _ (.g1 (.function _)) => false
  | .write (.g1 .configuration) _ => false
  | .write (.g1 .idVendor) _ => false
  | .write (.g1 .idProduct) _ => false
  | .setprop .sys_usb_state _ => false
  | _ => true

def binds : UsbCommand → Bool
  | .bind_g1 _ => true
  | _ => false

end UsbCommand

def excludes (β α : UsbAction) : Bool :=
  β.tests.any fun t => α.tests.any fun u =>
    t.1 = u.1 && t.2 ≠ none && u.2 ≠ none && t.2 ≠ u.2

/-- How an action in front of a composition, or behind it, may be. -/
def sparesBefore (α β : UsbAction) : Bool :=
  β.commands.all (·.spares) || excludes β α || β.names.all (· ∈ α.names)

def sparesBehind (α β : UsbAction) : Bool :=
  β.commands.all (·.spares) || excludes β α

def checkBeside (before : List UsbAction) : List UsbEntry → Bool
  | [] => true
  | .plain α :: behind => checkBeside (before ++ [α]) behind
  | .composition c :: behind =>
      before.all (sparesBefore c.action) &&
        (behind.map UsbEntry.action).all (sparesBehind c.action) &&
        checkBeside (before ++ [c.action]) behind

def checkEntry : UsbEntry → Bool
  | .composition c => c.wellFormed && c.action.commands.all (·.fits)
  | .plain α => α.commands.all fun d => d.fits && !d.binds

set_option maxRecDepth 4000 in
theorem entries_checked : init_qcom_usb_rc.all checkEntry = true := by
  decide +kernel

set_option maxRecDepth 4000 in
theorem beside_checked : checkBeside [] init_qcom_usb_rc = true := by
  decide +kernel

/-! ## Commands -/

variable {boot props : UsbProperty → UsbValue} {f : UsbFiles}
  {c : UsbComposition} {d : UsbCommand} {α β : UsbAction}
  {made : List UsbFunctionName} {s : Manager UsbProperty UsbValue UsbCommand UsbFiles}

/-- Function names are those of the boot, and so are the directories. -/
structure AsBooted (boot : UsbProperty → UsbValue) (made : List UsbFunctionName)
    (props : UsbProperty → UsbValue) (f : UsbFiles) : Prop where
  names : ∀ n, n.namesFunction = true → props n = boot n
  functions : f.functions = made
  fewLinks : f.FewLinks

theorem UsbPart.expand_congr {part : UsbPart} (hnamed : part.named = true)
    (hsame : ∀ n, n.namesFunction = true → props n = boot n) :
    part.expand props = part.expand boot := by
  cases part with
  | word w => rfl
  | property p =>
      rw [UsbPart.expand, UsbPart.expand, hsame p hnamed]
  | propertyOr p w =>
      rw [UsbPart.expand, UsbPart.expand, hsame p hnamed]

theorem exec_congr (hfits : d.fits = true)
    (hsame : ∀ n, n.namesFunction = true → props n = boot n) :
    exec d props f = exec d boot f := by
  cases d with
  | symlink g path =>
      have hnamed : g.driver.named = true ∧ g.inst.named = true := by
        unfold UsbCommand.fits at hfits
        split at hfits <;> simp_all
      have hexpand : g.expand props = g.expand boot := by
        unfold UsbFunction.expand
        rw [UsbPart.expand_congr hnamed.1 hsame,
          UsbPart.expand_congr hnamed.2 hsame]
      simp only [exec, hexpand]
  | rm path => rfl
  | link_os_desc => rfl
  | write path text => rfl
  | bind_g1 controller => rfl
  | bind_g2 controller => rfl
  | setprop p text => rfl
  | start service => rfl

theorem exec_functions : (exec d props f).functions = f.functions := by
  unfold exec rm symlink write
  split <;> (repeat' split) <;> rfl

theorem exec_fewLinks (hfits : d.fits = true) (hfew : f.FewLinks) :
    (exec d props f).FewLinks := by
  intro k hk
  have hnone := hfew k hk
  cases d with
  | rm path =>
      show (rm path f).link _ = none
      unfold rm
      by_cases hos : path = .g1 .os_desc
      · rw [if_pos hos]
        exact hnone
      · rw [if_neg hos]
        by_cases hpath : UsbPath.g1 (.function k) = path
        · simp [← hpath]
        · exact (Function.update_of_ne hpath none f.link).trans hnone
  | symlink g path =>
      cases hname : g.expand props with
      | none =>
          simp only [exec, hname]
          exact hnone
      | some name =>
          simp only [exec, hname, symlink]
          split_ifs
          · have hpath : UsbPath.g1 (.function k) ≠ path := by
              rintro rfl
              simp [UsbCommand.fits] at hfits
              omega
            exact (Function.update_of_ne hpath (some name) f.link).trans hnone
          · exact hnone
  | link_os_desc => exact hnone
  | write path text => exact hnone
  | bind_g1 controller => exact hnone
  | bind_g2 controller => exact hnone
  | setprop p text => exact hnone
  | start service => exact hnone

/-- A property is changed by its own assignments only. -/
theorem after_of_unset {n : UsbProperty} (hunset : ∀ text, d ≠ .setprop n text) :
    language.after props d n = props n := by
  cases d with
  | setprop p text =>
      have hp : n ≠ p := by
        rintro rfl
        exact hunset text rfl
      cases htext : expandText props text with
      | none => simp [Language.after, language, assigns, htext]
      | some v => simp [Language.after, language, assigns, htext, hp]
  | _ => rfl

theorem after_names (hfits : d.fits = true) {n : UsbProperty}
    (hn : n.namesFunction = true) : language.after props d n = props n := by
  apply after_of_unset
  rintro text rfl
  simp [UsbCommand.fits, hn] at hfits

theorem AsBooted.command (h : AsBooted boot made props f)
    (hfits : d.fits = true) :
    AsBooted boot made (language.after props d) (exec d props f) where
  names n hn := (after_names hfits hn).trans (h.names n hn)
  functions := exec_functions.trans h.functions
  fewLinks := exec_fewLinks hfits h.fewLinks

/-! ## The outline of a composition -/

def UsbComposition.stateValue (c : UsbComposition) : UsbValue :=
  c.state.getD c.config

/-- Before the commands that are left; `sys.usb.state` is set by the last. -/
structure Outlined (boot : UsbProperty → UsbValue) (c : UsbComposition)
    (rest : List UsbCommand) (props : UsbProperty → UsbValue) (f : UsbFiles) :
    Prop where
  composed : c.Composed boot (language.execAll boot rest f)
  state : rest = [] → props .sys_usb_state = c.stateValue

/-- What others than `init` set. -/
def settable (n : UsbProperty) (_ : UsbValue) : Prop :=
  n.namesFunction = false ∧ n ≠ .sys_usb_state

theorem expandText_words (words : UsbValue) :
    expandText props (words.map .word) = some words := by
  induction words with
  | nil => rfl
  | cons w words ih =>
      rw [List.map_cons, expandText, ih]
      rfl

theorem after_state (hc : c.wellFormed = true)
    (hholds : language.Holds props c.action) :
    language.after props (.setprop .sys_usb_state c.stateText) .sys_usb_state =
      c.stateValue := by
  have hconfig : props .sys_usb_config = c.config :=
    value_of_holds hholds (by simp [UsbComposition.action, UsbComposition.tests])
  have hset : c.config ≠ [] := by
    unfold UsbComposition.wellFormed at hc
    simp only [Bool.and_eq_true, decide_eq_true_eq] at hc
    exact hc.1.1
  have hexpand : expandText props c.stateText = some c.stateValue := by
    unfold UsbComposition.stateText UsbComposition.stateValue
    cases c.state with
    | none => simp [expandText, UsbPart.expand, hconfig, hset]
    | some state => exact expandText_words state
  simp [Language.after, language, assigns, hexpand]

theorem outline (hc : c.wellFormed = true)
    (hfits : ∀ d ∈ c.action.commands, d.fits = true) :
    Outline language (AsBooted boot made) settable c.action
      (Outlined boot c) where
  start props f hbooted _ := by
    refine ⟨?_, ?_⟩
    · rw [UsbComposition.action, execAll_append]
      exact (execAll_composing boot hc hbooted.fewLinks).1
    · intro hnil
      simp [UsbComposition.action] at hnil
  next d rest props f hsuffix hbooted hholds hat := by
    have hd : d ∈ c.action.commands := hsuffix.subset (by simp)
    refine ⟨?_, ?_⟩
    · show c.Composed boot (language.execAll boot rest (exec d props f))
      rw [exec_congr (hfits d hd) hbooted.names]
      exact hat.composed
    · rintro rfl
      have hlast : d = .setprop .sys_usb_state c.stateText := by
        obtain ⟨before, heq⟩ := hsuffix
        exact (List.append_inj_right' heq rfl |> List.cons.inj).1
      rw [hlast]
      exact after_state hc hholds
  stable rest props f n v hsettable _ hat := by
    refine ⟨hat.composed, ?_⟩
    intro hnil
    rw [Function.update_of_ne hsettable.2.symm]
    exact hat.state hnil

theorem after_spares (hspares : d.spares = true) :
    language.after props d .sys_usb_state = props .sys_usb_state := by
  apply after_of_unset
  rintro text rfl
  cases hspares

theorem bound_congr {g : UsbFiles}
    (hcontent : ∀ node, node = .configuration ∨ node = .idVendor ∨
      node = .idProduct → g.content (.g1 node) = f.content (.g1 node))
    (hlink : ∀ k, g.link (.g1 (.function k)) = f.link (.g1 (.function k))) :
    bound g = bound f := by
  unfold bound
  rw [hcontent _ (.inl rfl), hcontent _ (.inr (.inl rfl)),
    hcontent _ (.inr (.inr rfl))]
  congr 1
  exact funext hlink

theorem exec_spares (props : UsbProperty → UsbValue) (f : UsbFiles)
    (hspares : d.spares = true) :
    bound (exec d props f) = bound f ∧
      (f.os_desc = true → (exec d props f).os_desc = true) := by
  cases d with
  | rm path =>
      have hos : path ≠ .g1 .os_desc := by
        rintro rfl
        cases hspares
      have hrm : exec (.rm path) props f =
          { f with link := Function.update f.link path none } := if_neg hos
      rw [hrm]
      refine ⟨bound_congr (fun _ _ => rfl) ?_, id⟩
      intro k
      apply Function.update_of_ne
      rintro rfl
      cases hspares
  | symlink g path =>
      cases hname : g.expand props with
      | none =>
          simp only [exec, hname]
          exact ⟨trivial, id⟩
      | some name =>
          simp only [exec, hname, symlink]
          split_ifs
          · refine ⟨bound_congr (fun _ _ => rfl) ?_, id⟩
            intro k
            apply Function.update_of_ne
            rintro rfl
            cases hspares
          · exact ⟨rfl, id⟩
  | link_os_desc => exact ⟨rfl, fun _ => rfl⟩
  | write path text =>
      refine ⟨bound_congr ?_ fun _ => rfl, id⟩
      intro node hnode
      apply Function.update_of_ne
      rintro rfl
      rcases hnode with rfl | rfl | rfl <;> cases hspares
  | bind_g1 controller => exact ⟨rfl, id⟩
  | bind_g2 controller => exact ⟨rfl, id⟩
  | setprop p text => exact ⟨rfl, id⟩
  | start service => exact ⟨rfl, id⟩

theorem harmless_of_spares (hspares : d.spares = true) :
    Harmless language (AsBooted boot made) c.action (Outlined boot c) d := by
  intro props f _ _ hat
  have hexec := exec_spares props f hspares
  have hcomposed : c.Composed boot f := hat.composed
  refine ⟨⟨?_, ?_⟩, fun _ => (after_spares hspares).trans (hat.state rfl)⟩
  · show bound (exec d props f) = c.boundGadget boot (exec d props f).functions
    rw [hexec.1, exec_functions]
    exact hcomposed.bound
  · exact fun hos => hexec.2 (hcomposed.os_desc hos)

/-! ## The compositions of the file -/

theorem excludes_of_check (h : excludes β α = true) : β.Excludes α := by
  simp only [excludes, List.any_eq_true, Bool.and_eq_true,
    decide_eq_true_eq] at h
  obtain ⟨⟨n, v⟩, hv, ⟨m, w⟩, hw, ⟨⟨hn, hvsome⟩, hwsome⟩, hne⟩ := h
  obtain ⟨v, rfl⟩ := Option.ne_none_iff_exists'.mp hvsome
  obtain ⟨w, rfl⟩ := Option.ne_none_iff_exists'.mp hwsome
  subst hn
  exact ⟨n, v, w, hv, hw, fun heq => hne (congrArg some heq)⟩

theorem harmless_of_all (h : β.commands.all (·.spares) = true) :
    ∀ d ∈ β.commands,
      Harmless language (AsBooted boot made) c.action (Outlined boot c) d := by
  intro d hd
  exact harmless_of_spares (List.all_eq_true.mp h d hd)

theorem beside_of_check {before behind : List UsbAction}
    (hbefore : before.all (sparesBefore c.action) = true)
    (hbehind : behind.all (sparesBehind c.action) = true) :
    Beside language (AsBooted boot made) c.action (Outlined boot c) before
      behind where
  before β hβ := by
    have h := List.all_eq_true.mp hbefore β hβ
    simp only [sparesBefore, Bool.or_eq_true] at h
    rcases h with (hall | hexcludes) | hnames
    · exact .inl (harmless_of_all hall)
    · exact .inr (.inl (excludes_of_check hexcludes))
    · right
      right
      intro n hn
      simpa using List.all_eq_true.mp hnames n hn
  behind β hβ := by
    have h := List.all_eq_true.mp hbehind β hβ
    simp only [sparesBehind, Bool.or_eq_true] at h
    rcases h with hall | hexcludes
    · exact .inl (harmless_of_all hall)
    · exact .inr (excludes_of_check hexcludes)

/-- Every composition stands between actions that the check allows. -/
theorem split_of_check {entries : List UsbEntry} (front : List UsbAction)
    (hcheck : checkBeside front entries = true)
    (hc : .composition c ∈ entries) :
    ∃ before behind,
      front ++ entries.map UsbEntry.action = before ++ c.action :: behind ∧
      before.all (sparesBefore c.action) = true ∧
      behind.all (sparesBehind c.action) = true := by
  induction entries generalizing front with
  | nil => cases hc
  | cons entry entries ih =>
      have hshift : front ++ (entry :: entries).map UsbEntry.action =
          (front ++ [entry.action]) ++ entries.map UsbEntry.action := by simp
      cases entry with
      | plain α =>
          have hrest : .composition c ∈ entries := by simpa using hc
          rw [hshift]
          exact ih _ hcheck hrest
      | composition c' =>
          simp only [checkBeside, Bool.and_eq_true] at hcheck
          rcases List.mem_cons.mp hc with heq | hrest
          · cases heq
            exact ⟨front, _, rfl, hcheck.1.1, hcheck.1.2⟩
          · rw [hshift]
            exact ih _ hcheck.2 hrest

theorem composition_checked (hc : .composition c ∈ init_qcom_usb_rc) :
    c.wellFormed = true ∧ ∀ d ∈ c.action.commands, d.fits = true := by
  have h := List.all_eq_true.mp entries_checked _ hc
  simpa [checkEntry] using h

theorem plain_checked (hα : .plain α ∈ init_qcom_usb_rc) :
    ∀ d ∈ α.commands, d.fits = true ∧ d.binds = false := by
  have h := List.all_eq_true.mp entries_checked _ hα
  simpa [checkEntry] using h

theorem commands_fit (hβ : β ∈ usbActions) : ∀ d ∈ β.commands, d.fits = true := by
  obtain ⟨entry, hentry, rfl⟩ := List.mem_map.mp hβ
  cases entry with
  | composition c => exact (composition_checked hentry).2
  | plain α => exact fun d hd => (plain_checked hentry d hd).1

theorem usbActions_keep {allowed : UsbProperty → UsbValue → Prop}
    (hallowed : ∀ n v, allowed n v → n.namesFunction = false) :
    Kept language usbActions (AsBooted boot made) allowed where
  command β hβ d hd _ _ hbooted := hbooted.command (commands_fit hβ d hd)
  set n v props f hset hbooted := by
    refine ⟨?_, hbooted.functions, hbooted.fewLinks⟩
    intro m hm
    rw [Function.update_of_ne]
    · exact hbooted.names m hm
    · rintro rfl
      rw [hallowed _ v hset] at hm
      cases hm

/-! ## The machine -/

/-- `init` when it starts to look at properties, with `boot` for their values
and the directories `made` for functions. -/
def usbMachine (boot : UsbProperty → UsbValue) (made : List UsbFunctionName) :
    Machine (Manager UsbProperty UsbValue UsbCommand UsbFiles)
      (ManagerStep UsbProperty UsbValue) :=
  machine language usbActions fun props f =>
    props = boot ∧ f.functions = made ∧ f.binds = [] ∧ ∀ path, f.link path = none

theorem asBooted_of_started {f : UsbFiles}
    (h : props = boot ∧ f.functions = made ∧ f.binds = [] ∧
      ∀ path, f.link path = none) : AsBooted boot made props f where
  names n _ := congrFun h.1 n
  functions := h.2.1
  fewLinks _ _ := h.2.2.2 _

/-- Whatever is set while `init` is at work: when it is idle and the tests of a
composition pass, the gadget is that composition, and the state says so. -/
theorem UsbGadget.idle_composed
    (hs : (usbMachine boot made).ReachableUnder
      (fun _ a => a.Allowed settable) s)
    (hidle : s.Idle) (hc : .composition c ∈ init_qcom_usb_rc)
    (hholds : language.Holds s.props c.action) :
    bound s.files = c.boundGadget boot made ∧
      (c.os_desc = true → s.files.os_desc = true) ∧
      s.props .sys_usb_state = c.stateValue := by
  obtain ⟨hwell, hfits⟩ := composition_checked hc
  obtain ⟨before, behind, hactions, hbefore, hbehind⟩ :=
    split_of_check [] beside_checked hc
  have hlisted : usbActions = before ++ c.action :: behind := hactions
  have hkept : Kept language usbActions (AsBooted boot made) settable :=
    usbActions_keep fun _ _ hset => hset.1
  have hat : Outlined boot c [] s.props s.files :=
    idle_rule (outline hwell hfits) (beside_of_check hbefore hbehind) hlisted
      hkept (fun _ _ => asBooted_of_started) hs hidle hholds
  have hbooted :=
    (reachable_sound hkept (fun _ _ => asBooted_of_started) hs).inv
  have hcomposed : c.Composed boot s.files := hat.composed
  refine ⟨?_, hcomposed.os_desc, hat.state rfl⟩
  rw [hcomposed.bound, hbooted.functions]

/-! ## A second request while the first is carried out -/

/-- The values of `vendor.prop` and `init.target.rc`. -/
def shippedProps : UsbProperty → UsbValue
  | .sys_usb_configfs => [.number 1]
  | .vendor_usb_use_ffs_mtp => [.number 1]
  | .vendor_usb_use_gadget_hal => [.number 0]
  | .vendor_usb_diag_func_name => [.diag]
  | .vendor_usb_rndis_func_name => [.text "gsi"]
  | .vendor_usb_rmnet_func_name => [.text "gsi"]
  | .vendor_usb_rmnet_inst_name => [.rmnet]
  | .vendor_usb_dpl_inst_name => [.dpl]
  | .vendor_usb_qdss_inst_name => [.qdss]
  | .sys_usb_controller => [.text "a600000.dwc3"]
  | _ => []

def someFunctions : List UsbFunctionName :=
  [([.diag], [.diag]), ([.mass_storage], [.number 0])]

def booted : Manager UsbProperty UsbValue UsbCommand UsbFiles where
  props := shippedProps
  files :=
    { functions := someFunctions
      link := fun _ => none
      os_desc := false
      content := fun _ => none
      started := []
      binds := [] }
  queue := [none]
  pending := []

/-- `mass_storage` is asked for when the old links are being removed for
`diag`. -/
def secondRequest : List (ManagerStep UsbProperty UsbValue) :=
  List.flatMap (fun steps => List.replicate steps.1 steps.2)
    [(1, .takeEvent), (1, .set .sys_usb_config [.diag]), (1, .takeEvent),
     (5, .command), (1, .set .sys_usb_config [.mass_storage]), (12, .command),
     (1, .takeEvent), (16, .command), (2, .takeEvent)]

def massStorage : UsbComposition where
  config := [.mass_storage]
  configuration := "msc"
  idVendor := "0x22D9"
  idProduct := "0x2768"
  functions := [UsbFunction.mass_storage_0]

def afterSecondRequest :
    Option (Manager UsbProperty UsbValue UsbCommand UsbFiles) :=
  (usbMachine shippedProps someFunctions).run booted secondRequest

theorem secondRequest_ends : ∃ t, afterSecondRequest = some t ∧ t.Idle ∧
    language.Holds t.props massStorage.action := by
  have hcheck : (afterSecondRequest.any fun t =>
      t.queue = [] && t.pending = [] &&
        massStorage.tests.all (language.passes t.props)) = true := by
    decide +kernel
  obtain ⟨t, hrun, ht⟩ := (Option.any_eq_true _ _).mp hcheck
  simp only [Bool.and_eq_true, decide_eq_true_eq, List.all_eq_true] at ht
  exact ⟨t, hrun, ht.1, ht.2⟩

theorem massStorage_listed : .composition massStorage ∈ init_qcom_usb_rc := by
  unfold init_qcom_usb_rc
  exact .tail _ (.tail _ (.tail _ (.tail _ (.tail _ (.head _)))))

theorem secondRequest_settable :
    ∀ a ∈ secondRequest, a.Allowed settable := by
  intro a ha
  obtain ⟨steps, hsteps, hreplicate⟩ := List.mem_flatMap.mp ha
  obtain ⟨_, rfl⟩ := List.mem_replicate.mp hreplicate
  simp only [List.mem_cons, List.not_mem_nil, or_false] at hsteps
  rcases hsteps with rfl | rfl | rfl | rfl | rfl | rfl | rfl | rfl | rfl
  all_goals first | exact trivial | exact ⟨rfl, by decide⟩

theorem secondRequest_reachable {allowed : UsbProperty → UsbValue → Prop}
    (hallowed : ∀ n v, settable n v → allowed n v)
    (hrun : afterSecondRequest = some s) :
    (usbMachine shippedProps someFunctions).ReachableUnder
      (fun _ a => a.Allowed allowed) s := by
  have hstart : (usbMachine shippedProps someFunctions).Initial booted :=
    ⟨⟨rfl, rfl, rfl, fun _ => rfl⟩, rfl, rfl⟩
  have halong : (usbMachine shippedProps someFunctions).Along
      (fun _ a => a.Allowed allowed) booted secondRequest := by
    apply Machine.along_of_forall
    intro a ha
    have hsettable := secondRequest_settable a ha
    cases a with
    | set n v => exact hallowed n v hsettable
    | takeEvent => exact trivial
    | command => exact trivial
  exact Machine.reachableUnder_of_run hstart halong hrun

theorem UsbGadget.idle_composed_secondRequest :
    ∃ t, afterSecondRequest = some t ∧ t.Idle ∧
      bound t.files = massStorage.boundGadget shippedProps someFunctions ∧
      t.props .sys_usb_state = [.mass_storage] := by
  obtain ⟨t, hrun, hidle, hholds⟩ := secondRequest_ends
  obtain ⟨hbound, _, hstate⟩ := UsbGadget.idle_composed
    (secondRequest_reachable (fun _ _ => id) hrun) hidle massStorage_listed
    hholds
  exact ⟨t, hrun, hidle, hbound, hstate⟩

end Samurai
