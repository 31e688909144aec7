import Samurai.UsbGadgetIdle

/-!
# What is bound

A composition is not carried out at once: properties change between its
commands, and other actions have left links behind.  Even so the gadget is only
ever bound as one of the compositions of the file, never as a mixture of two.
-/

namespace Samurai

open TriggeredActions UsbGadget

variable {boot props : UsbProperty → UsbValue} {f : UsbFiles}
  {c : UsbComposition} {d : UsbCommand} {β : UsbAction}
  {made : List UsbFunctionName}
  {s : Manager UsbProperty UsbValue UsbCommand UsbFiles}

/-- A gadget of the file, with the functions that are named at boot. -/
def Listed (boot : UsbProperty → UsbValue) (made : List UsbFunctionName)
    (b : BoundGadget) : Prop :=
  ∃ c, .composition c ∈ init_qcom_usb_rc ∧ b = c.boundGadget boot made

/-- What holds between two actions. -/
structure Orderly (boot : UsbProperty → UsbValue) (made : List UsbFunctionName)
    (f : UsbFiles) : Prop where
  functions : f.functions = made
  fewLinks : f.FewLinks
  binds : ∀ b ∈ f.binds, Listed boot made b

theorem exec_binds (hd : d.binds = false) : (exec d props f).binds = f.binds := by
  cases d with
  | bind_g1 controller => cases hd
  | rm path =>
      show (rm path f).binds = f.binds
      unfold rm
      split_ifs <;> rfl
  | symlink g path =>
      cases hname : g.expand props with
      | none => simp only [exec, hname]
      | some name =>
          simp only [exec, hname, symlink]
          split_ifs <;> rfl
  | link_os_desc => rfl
  | write path text => rfl
  | bind_g2 controller => rfl
  | setprop p text => rfl
  | start service => rfl

/-- Commands that bind nothing keep everything in order. -/
theorem Orderly.execAll {ds : List UsbCommand}
    (hds : ∀ d ∈ ds, d.fits = true ∧ d.binds = false)
    (h : Orderly boot made f) :
    Orderly boot made (language.execAll boot ds f) := by
  induction ds generalizing f with
  | nil => exact h
  | cons d ds ih =>
      obtain ⟨hfits, hbinds⟩ := hds d (by simp)
      rw [execAll_cons]
      apply ih fun e he => hds e (List.mem_cons_of_mem _ he)
      refine ⟨exec_functions.trans h.functions, exec_fewLinks hfits h.fewLinks, ?_⟩
      rw [exec_binds hbinds]
      exact h.binds

/-- A composition binds itself. -/
theorem Orderly.composition (hc : .composition c ∈ init_qcom_usb_rc)
    (h : Orderly boot made f) :
    Orderly boot made (language.execAll boot c.action.commands f) := by
  have hwell := (composition_checked hc).1
  obtain ⟨hcomposed, hfunctions, hbinds⟩ :=
    execAll_composing boot hwell h.fewLinks
  have hlast : language.execAll boot c.action.commands f =
      language.execAll boot c.composing f := by
    rw [UsbComposition.action, execAll_append]
    rfl
  rw [hlast]
  refine ⟨hfunctions.trans h.functions, hcomposed.fewLinks hwell, ?_⟩
  intro b hb
  rw [hbinds, List.mem_append, List.mem_singleton] at hb
  rcases hb with hold | rfl
  · exact h.binds b hold
  · exact ⟨c, hc, by rw [h.functions]⟩

theorem Orderly.action (hβ : β ∈ usbActions) (h : Orderly boot made f) :
    Orderly boot made (language.execAll boot β.commands f) := by
  obtain ⟨entry, hentry, rfl⟩ := List.mem_map.mp hβ
  cases entry with
  | composition c => exact h.composition hentry
  | plain α => exact h.execAll (plain_checked hentry)

/-- What has been bound is not forgotten. -/
theorem binds_execAll (ds : List UsbCommand) :
    f.binds ⊆ (language.execAll boot ds f).binds := by
  induction ds generalizing f with
  | nil => exact List.Subset.refl _
  | cons d ds ih =>
      rw [execAll_cons]
      refine List.Subset.trans ?_ ih
      by_cases hd : d.binds = true
      · cases d with
        | bind_g1 controller => exact List.subset_append_left _ _
        | _ => cases hd
      · rw [exec_binds (by simpa using hd)]
        exact List.Subset.refl _

/-- Whatever is set and whenever, every gadget that is bound is a composition
of the file. -/
theorem UsbGadget.binds_listed
    (hs : (usbMachine boot made).ReachableUnder
      (fun _ a => a.Allowed fun n _ => n.namesFunction = false) s) :
    ∀ b ∈ s.files.binds, ∃ c, .composition c ∈ init_qcom_usb_rc ∧
      b = c.boundGadget boot made := by
  have hkept : Kept language usbActions (AsBooted boot made)
      fun n _ => n.namesFunction = false := usbActions_keep fun _ _ hset => hset
  have horderly : Orderly boot made
      (language.execAll boot s.pending s.files) := by
    apply pending_rule hkept (fun _ _ => asBooted_of_started) _ _
      (fun β hβ f hf => hf.action hβ) hs
    · rintro props f ⟨_, hfunctions, hbinds, hlinks⟩
      refine ⟨hfunctions, fun k _ => hlinks _, ?_⟩
      simp [hbinds]
    · intro β hβ d hd props f hbooted
      exact exec_congr (commands_fit hβ d hd) hbooted.names
  intro b hb
  exact horderly.binds b (binds_execAll s.pending hb)

theorem UsbGadget.binds_listed_secondRequest :
    ∃ t b, afterSecondRequest = some t ∧ b ∈ t.files.binds ∧
      ∃ c, .composition c ∈ init_qcom_usb_rc ∧
        b = c.boundGadget shippedProps someFunctions := by
  have hcheck : (afterSecondRequest.any fun t =>
      !t.files.binds.isEmpty) = true := by
    decide +kernel
  obtain ⟨t, hrun, ht⟩ := (Option.any_eq_true _ _).mp hcheck
  have hne : t.files.binds ≠ [] := by simpa using ht
  obtain ⟨b, hb⟩ := List.exists_mem_of_ne_nil _ hne
  have hreach : (usbMachine shippedProps someFunctions).ReachableUnder
      (fun _ a => a.Allowed fun n _ => n.namesFunction = false) t :=
    secondRequest_reachable (fun _ _ hset => hset.1) hrun
  exact ⟨t, b, hrun, hb, UsbGadget.binds_listed hreach b hb⟩

end Samurai
