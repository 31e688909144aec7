import Samurai.UsbCompositions

/-!
# Carrying out a composition

Whatever the links were before, the commands of a composition leave those of
its own functions and no others, and that is the gadget they bind.
-/

namespace Samurai

open TriggeredActions UsbGadget

variable {env : UsbProperty → UsbValue} {f : UsbFiles} {c : UsbComposition}

/-- No action uses a link other than `f1` to `f9`. -/
def UsbFiles.FewLinks (f : UsbFiles) : Prop :=
  ∀ k, k = 0 ∨ 9 < k → f.link (.g1 (.function k)) = none

/-- The `i`-th of the functions, if its directory is there. -/
def linkOf (env : UsbProperty → UsbValue) (made : List UsbFunctionName)
    (functions : List UsbFunction) (i : ℕ) : Option UsbFunctionName :=
  functions[i]?.bind fun f => (f.expand env).filter (· ∈ made)

namespace UsbComposition

/-- The gadget a composition stands for. -/
def boundGadget (env : UsbProperty → UsbValue) (made : List UsbFunctionName)
    (c : UsbComposition) : BoundGadget where
  configuration := some c.configuration
  idVendor := some c.idVendor
  idProduct := some c.idProduct
  function k := if k = 0 then none else linkOf env made c.functions (k - 1)

/-- What is checked of every composition of the file. -/
def wellFormed (c : UsbComposition) : Bool :=
  c.config ≠ [] && c.functions.length ≤ 9 &&
    c.writes.all fun w =>
      w.1 ≠ .configuration && w.1 ≠ .idVendor && w.1 ≠ .idProduct

/-- The gadget is what the composition makes it. -/
structure Composed (env : UsbProperty → UsbValue) (c : UsbComposition)
    (f : UsbFiles) : Prop where
  bound : bound f = c.boundGadget env f.functions
  os_desc : c.os_desc = true → f.os_desc = true

end UsbComposition

/-! ## The parts of the commands -/

theorem execAll_append (cs ds : List UsbCommand) :
    language.execAll env (cs ++ ds) f =
      language.execAll env ds (language.execAll env cs f) :=
  List.foldl_append

theorem execAll_cons (d : UsbCommand) (ds : List UsbCommand) :
    language.execAll env (d :: ds) f =
      language.execAll env ds (exec d env f) := rfl

theorem execAll_rm (ks : List ℕ) (f : UsbFiles) :
    language.execAll env (ks.map fun k => .rm (.g1 (.function k))) f =
      { f with
        link := fun path =>
          if ∃ k ∈ ks, path = .g1 (.function k) then none else f.link path } := by
  induction ks generalizing f with
  | nil => simp [Language.execAll]
  | cons k ks ih =>
      rw [List.map_cons, execAll_cons, ih]
      have hrm : exec (.rm (.g1 (.function k))) env f =
          { f with link := Function.update f.link (.g1 (.function k)) none } := rfl
      rw [hrm]
      congr 1
      funext path
      by_cases hpath : path = .g1 (.function k)
      · simp [hpath]
      · simp [hpath]

theorem execAll_write (env : UsbProperty → UsbValue)
    (ws : List (GadgetNode × String)) (f : UsbFiles) :
    ∃ content, language.execAll env (ws.map fun w => .write (.g1 w.1) w.2) f =
        { f with content := content } ∧
      ∀ node, (∀ w ∈ ws, w.1 ≠ node) →
        content (.g1 node) = f.content (.g1 node) := by
  induction ws generalizing f with
  | nil => exact ⟨f.content, rfl, fun _ _ => rfl⟩
  | cons w ws ih =>
      obtain ⟨content, heq, hsame⟩ := ih (write (.g1 w.1) w.2 f)
      refine ⟨content, heq, ?_⟩
      intro node hnode
      rw [hsame node fun u hu => hnode u (List.mem_cons_of_mem _ hu)]
      apply Function.update_of_ne
      intro h
      exact hnode w (by simp) (UsbPath.g1.inj h).symm

/-- A free link is made if the directory of the function is there. -/
theorem exec_symlink (env : UsbProperty → UsbValue) (g : UsbFunction)
    (k : ℕ)
    (hnone : f.link (.g1 (.function k)) = none) :
    ∃ link, exec (.symlink g (.g1 (.function k))) env f =
        { f with link := link } ∧
      link (.g1 (.function k)) = (g.expand env).filter (· ∈ f.functions) ∧
      ∀ j, j ≠ k → link (.g1 (.function j)) = f.link (.g1 (.function j)) := by
  cases hname : g.expand env with
  | none =>
      refine ⟨f.link, ?_, ?_, fun _ _ => rfl⟩
      · simp only [exec, hname]
      · simpa using hnone
  | some name =>
      by_cases hmade : name ∈ f.functions
      · refine ⟨Function.update f.link (.g1 (.function k)) (some name), ?_, ?_, ?_⟩
        · simp only [exec, hname, symlink, hnone, hmade, and_self, if_true]
        · simp [Option.filter_some, hmade]
        · intro j hj
          apply Function.update_of_ne
          simpa using hj
      · refine ⟨f.link, ?_, ?_, fun _ _ => rfl⟩
        · simp only [exec, hname, symlink, hmade, and_false, if_false]
        · simp [Option.filter_some, hmade, hnone]

/-- Links are made from `f<k>` on, where there were none. -/
theorem execAll_symlinks (env : UsbProperty → UsbValue) (k : ℕ)
    (functions : List UsbFunction) (f : UsbFiles)
    (hfree : ∀ j, k ≤ j → f.link (.g1 (.function j)) = none) :
    ∃ link, language.execAll env (UsbComposition.symlinks k functions) f =
        { f with link := link } ∧
      (∀ j, k ≤ j → link (.g1 (.function j)) =
        linkOf env f.functions functions (j - k)) ∧
      ∀ j, j < k → link (.g1 (.function j)) = f.link (.g1 (.function j)) := by
  induction functions generalizing k f with
  | nil =>
      refine ⟨f.link, rfl, ?_, fun _ _ => rfl⟩
      intro j hj
      simpa [linkOf] using hfree j hj
  | cons g functions ih =>
      obtain ⟨link, heq, hhead, hothers⟩ :=
        exec_symlink env g k (hfree k le_rfl)
      have hfree' : ∀ j, k + 1 ≤ j → link (.g1 (.function j)) = none := by
        intro j hj
        rw [hothers j (by omega)]
        exact hfree j (by omega)
      obtain ⟨link', heq', hlinks, hbelow⟩ :=
        ih (k + 1) { f with link := link } hfree'
      refine ⟨link', ?_, ?_, ?_⟩
      · rw [UsbComposition.symlinks, execAll_cons, heq, heq']
      · intro j hj
        rcases Nat.eq_or_lt_of_le hj with rfl | hlt
        · rw [hbelow k (by omega), Nat.sub_self]
          exact hhead
        · have hindex : j - k = (j - (k + 1)) + 1 := by omega
          rw [hlinks j hlt, hindex]
          rfl
      · intro j hj
        rw [hbelow j (by omega)]
        exact hothers j (by omega)

/-! ## The whole composition -/

theorem execAll_os_desc (f : UsbFiles) :
    language.execAll env (if c.os_desc then [.link_os_desc] else []) f =
      { f with os_desc := c.os_desc || f.os_desc } := by
  cases hos : c.os_desc <;> rfl

/-- Before the new links the old ones are gone. -/
theorem execAll_preparing (env : UsbProperty → UsbValue)
    (hc : c.wellFormed = true) (hfew : f.FewLinks) :
    ∃ content link, language.execAll env c.preparing f =
        { f with
          content := content
          link := link
          os_desc := c.os_desc || f.os_desc } ∧
      content (.g1 .configuration) = some c.configuration ∧
      content (.g1 .idVendor) = some c.idVendor ∧
      content (.g1 .idProduct) = some c.idProduct ∧
      ∀ k, link (.g1 (.function k)) = none := by
  unfold UsbComposition.wellFormed at hc
  simp only [Bool.and_eq_true, decide_eq_true_eq, List.all_eq_true] at hc
  have hwrites := hc.2
  unfold UsbComposition.preparing
  simp only [execAll_append, UsbComposition.removals, execAll_rm,
    execAll_os_desc]
  set f₁ := language.execAll env
    [.write (.g1 .idVendor) c.idVendor, .write (.g1 .idProduct) c.idProduct] _
    with hf₁
  obtain ⟨content, heq, hsame⟩ := execAll_write env c.writes f₁
  have hkept : ∀ node, node = .configuration ∨ node = .idVendor ∨
      node = .idProduct → content (.g1 node) = f₁.content (.g1 node) := by
    intro node hnode
    apply hsame node
    rintro w hw rfl
    have := hwrites w hw
    tauto
  refine ⟨content, f₁.link, heq, ?_, ?_, ?_, ?_⟩
  · rw [hkept _ (.inl rfl)]
    simp [hf₁, Language.execAll, language, exec, write]
  · rw [hkept _ (.inr (.inl rfl))]
    simp [hf₁, Language.execAll, language, exec, write]
  · rw [hkept _ (.inr (.inr rfl))]
    simp [hf₁, Language.execAll, language, exec, write]
  · intro k
    by_cases hk : k = 0 ∨ 9 < k
    · have hnone := hfew k hk
      simp [hf₁, Language.execAll, language, exec, write, hnone]
    · have hmem : k ∈ [1, 2, 3, 4, 5, 6, 7, 8, 9] := by
        simp only [List.mem_cons, List.not_mem_nil]
        omega
      simp only [hf₁, Language.execAll, language, exec, write, List.foldl_cons,
        List.foldl_nil]
      rw [if_pos ⟨k, hmem, rfl⟩]

/-- What carrying out a composition comes to, up to its last command. -/
theorem execAll_composing (env : UsbProperty → UsbValue)
    (hc : c.wellFormed = true) (hfew : f.FewLinks) :
    UsbComposition.Composed env c (language.execAll env c.composing f) ∧
      (language.execAll env c.composing f).functions = f.functions ∧
      (language.execAll env c.composing f).binds =
        f.binds ++ [c.boundGadget env f.functions] := by
  obtain ⟨content, link, heq, hconf, hvendor, hproduct, hfree⟩ :=
    execAll_preparing env hc hfew
  obtain ⟨link', heq', hlinks, hbelow⟩ :=
    execAll_symlinks env 1 c.functions
      { f with
        content := content
        link := link
        os_desc := c.os_desc || f.os_desc } fun j _ => hfree j
  have hbound : ∀ g : UsbFiles, g.content = content → g.link = link' →
      bound g = c.boundGadget env f.functions := by
    intro g hcontent hlink
    unfold bound UsbComposition.boundGadget
    rw [hcontent, hlink, hconf, hvendor, hproduct]
    congr 1
    funext k
    split_ifs with hk
    · subst hk
      exact (hbelow 0 (by omega)).trans (hfree 0)
    · exact hlinks k (by omega)
  rw [UsbComposition.composing, execAll_append, execAll_append, heq, heq']
  refine ⟨⟨hbound _ rfl rfl, ?_⟩, rfl, ?_⟩
  · intro hos
    show (c.os_desc || f.os_desc) = true
    rw [hos, Bool.true_or]
  · show f.binds ++ [bound _] = _
    rw [hbound _ rfl rfl]

/-- No composition has more than nine functions. -/
theorem UsbComposition.Composed.fewLinks (hc : c.wellFormed = true)
    (h : c.Composed env f) : f.FewLinks := by
  unfold UsbComposition.wellFormed at hc
  simp only [Bool.and_eq_true, decide_eq_true_eq] at hc
  intro k hk
  have hlink := congrFun (congrArg BoundGadget.function h.bound) k
  change f.link (.g1 (.function k)) = _ at hlink
  rw [hlink]
  unfold UsbComposition.boundGadget
  rcases hk with rfl | hlt
  · rfl
  · have hnone : c.functions[k - 1]? = none := by
      rw [List.getElem?_eq_none_iff]
      omega
    simp [linkOf, hnone]

end Samurai
