import Samurai.LabelledRuns

/-!
# Actions triggered by properties

An action tests some properties and is a list of commands.  Setting a property
queues an event.  When all commands have been carried out the next event is
taken, and the actions it triggers are carried out one after the other, in the
order they are listed in.  Between two commands properties can be set from
outside.

An event carries the value its property was set to, while the other tests of
an action look at the values of the moment the event is taken.  The rule of
this file says when an action whose tests pass has been carried out once the
manager is idle, and has not been undone by another one.
-/

namespace TriggeredActions

/-- A test names a value, or none for any value. -/
structure Action (ν ι κ : Type*) where
  tests : List (ν × Option ι)
  commands : List κ

/-- What a command does to the files, and the property it sets. -/
structure Language (ν ι κ τ : Type*) where
  unset : ι
  exec : κ → (ν → ι) → τ → τ
  assigns : κ → (ν → ι) → Option (ν × ι)

/-- The event of no property is queued once, when the manager starts, and
triggers every action whose tests pass. -/
structure Manager (ν ι κ τ : Type*) where
  props : ν → ι
  files : τ
  queue : List (Option (ν × ι))
  pending : List κ

inductive ManagerStep (ν ι : Type*) where
  | set (n : ν) (v : ι)
  | takeEvent
  | command
  deriving DecidableEq

variable {ν ι κ τ : Type*} [DecidableEq ν] [DecidableEq ι]

namespace Action

def names (α : Action ν ι κ) : List ν :=
  α.tests.map Prod.fst

/-- No event triggers both actions. -/
def Excludes (β α : Action ν ι κ) : Prop :=
  ∃ n v w, (n, some v) ∈ β.tests ∧ (n, some w) ∈ α.tests ∧ v ≠ w

end Action

namespace Language

variable (L : Language ν ι κ τ) (props : ν → ι)

def passes (test : ν × Option ι) : Bool :=
  match test.2 with
  | none => props test.1 ≠ L.unset
  | some v => props test.1 = v

def passesAt (event : Option (ν × ι)) (test : ν × Option ι) : Bool :=
  match event with
  | none => L.passes props test
  | some (n, v) =>
      if test.1 = n then test.2 = none ∨ test.2 = some v
      else L.passes props test

def triggers (event : Option (ν × ι)) (α : Action ν ι κ) : Bool :=
  (match event with
    | none => true
    | some (n, _) => n ∈ α.names) &&
  α.tests.all (L.passesAt props event)

/-- The tests pass on the values the properties have. -/
def Holds (α : Action ν ι κ) : Prop :=
  ∀ test ∈ α.tests, L.passes props test = true

/-- The properties after a command. -/
def after (c : κ) : ν → ι :=
  match L.assigns c props with
  | none => props
  | some (n, v) => Function.update props n v

end Language

namespace Manager

def set (n : ν) (v : ι) (s : Manager ν ι κ τ) : Manager ν ι κ τ :=
  { s with
    props := Function.update s.props n v
    queue := s.queue ++ [some (n, v)] }

variable (L : Language ν ι κ τ) (actions : List (Action ν ι κ))

def carryOut (c : κ) (s : Manager ν ι κ τ) : Manager ν ι κ τ :=
  { s with
    props := L.after s.props c
    files := L.exec c s.props s.files
    queue := s.queue ++ (L.assigns c s.props).toList.map some }

def step (s : Manager ν ι κ τ) : ManagerStep ν ι → Option (Manager ν ι κ τ)
  | .set n v => some (s.set n v)
  | .takeEvent =>
      match s.pending, s.queue with
      | [], event :: queue =>
          some { s with
            queue := queue
            pending := (actions.filter (L.triggers s.props event)).flatMap
              fun α => α.commands }
      | _, _ => none
  | .command =>
      match s.pending with
      | [] => none
      | c :: pending => some { s.carryOut L c with pending := pending }

/-- What a step does, and when. -/
inductive Moves : Manager ν ι κ τ → ManagerStep ν ι → Manager ν ι κ τ → Prop
  | set {s} (n : ν) (v : ι) : Moves s (.set n v) (s.set n v)
  | takeEvent {s event queue} : s.pending = [] → s.queue = event :: queue →
      Moves s .takeEvent
        { s with
          queue := queue
          pending := (actions.filter (L.triggers s.props event)).flatMap
            fun α => α.commands }
  | command {s c pending} : s.pending = c :: pending →
      Moves s .command { s.carryOut L c with pending := pending }

/-- Nothing is left to be carried out. -/
def Idle (s : Manager ν ι κ τ) : Prop :=
  s.queue = [] ∧ s.pending = []

end Manager

/-- `started` says what the properties and the files are like at the start. -/
def machine (L : Language ν ι κ τ) (actions : List (Action ν ι κ))
    (started : (ν → ι) → τ → Prop) :
    Machine (Manager ν ι κ τ) (ManagerStep ν ι) where
  Initial s := started s.props s.files ∧ s.queue = [none] ∧ s.pending = []
  step := Manager.step L actions

section Rule

variable {L : Language ν ι κ τ} {actions : List (Action ν ι κ)}
  {props : ν → ι} {event : Option (ν × ι)} {α β : Action ν ι κ} {n : ν}
  {v : ι} {c : κ} {s t : Manager ν ι κ τ} {a : ManagerStep ν ι}

theorem Manager.moves_of_step (hstep : s.step L actions a = some t) :
    Moves L actions s a t := by
  cases a with
  | set n v =>
      cases hstep
      exact .set n v
  | takeEvent =>
      cases hpending : s.pending with
      | cons c pending => simp [step, hpending] at hstep
      | nil =>
          cases hqueue : s.queue with
          | nil => simp [step, hpending, hqueue] at hstep
          | cons event queue =>
              rw [step, hpending, hqueue] at hstep
              cases hstep
              exact .takeEvent hpending hqueue
  | command =>
      cases hpending : s.pending with
      | nil => simp [step, hpending] at hstep
      | cons c pending =>
          rw [step, hpending] at hstep
          cases hstep
          exact .command hpending

open Manager

/-! ## What triggers an action -/

/-- The events that trigger an action whose tests pass. -/
def Wakes (props : ν → ι) (α : Action ν ι κ) : Option (ν × ι) → Prop
  | none => True
  | some (n, v) => n ∈ α.names ∧ v = props n

theorem triggers_of_wakes (hholds : L.Holds props α)
    (hwakes : Wakes props α event) : L.triggers props event α = true := by
  unfold Language.triggers
  rw [Bool.and_eq_true, List.all_eq_true]
  cases event with
  | none => exact ⟨rfl, hholds⟩
  | some change =>
      obtain ⟨n, v⟩ := change
      obtain ⟨hname, rfl⟩ := hwakes
      constructor
      · simpa using hname
      · intro test htest
        have hpass := hholds test htest
        by_cases hn : test.1 = n
        · subst hn
          unfold Language.passes at hpass
          cases hvalue : test.2 with
          | none => simp [Language.passesAt, hvalue]
          | some w => simpa [Language.passesAt, hvalue, eq_comm] using hpass
        · simpa [Language.passesAt, hn] using hpass

/-- A test for a value passes because the event or the property has it. -/
theorem value_of_triggers (htrig : L.triggers props event β = true)
    (htest : (n, some v) ∈ β.tests) :
    event = some (n, v) ∨ props n = v := by
  unfold Language.triggers at htrig
  rw [Bool.and_eq_true, List.all_eq_true] at htrig
  have hpass := htrig.2 (n, some v) htest
  cases event with
  | none => simpa [Language.passesAt, Language.passes] using hpass
  | some change =>
      obtain ⟨m, u⟩ := change
      by_cases hm : n = m
      · left
        simpa [Language.passesAt, hm, eq_comm] using hpass
      · right
        simpa [Language.passesAt, Language.passes, hm] using hpass

theorem name_of_triggers
    (htrig : L.triggers props (some (n, v)) β = true) : n ∈ β.names := by
  unfold Language.triggers at htrig
  simpa using (Bool.and_eq_true_iff.mp htrig).1

omit [DecidableEq ν] in
theorem value_of_holds (hholds : L.Holds props α)
    (htest : (n, some v) ∈ α.tests) : props n = v := by
  simpa [Language.passes] using hholds (n, some v) htest

omit [DecidableEq ν] in
/-- Properties that an action does not test do not matter to it. -/
theorem holds_congr {props' : ν → ι}
    (hsame : ∀ n ∈ α.names, props' n = props n) :
    L.Holds props' α ↔ L.Holds props α := by
  unfold Language.Holds
  apply forall₂_congr
  intro test htest
  unfold Language.passes
  rw [hsame test.1 (List.mem_map_of_mem htest)]

/-! ## The queue -/

/-- The last event of a property has the value the property has now. -/
def Recorded (props : ν → ι) : List (Option (ν × ι)) → Prop
  | [] => True
  | none :: queue => Recorded props queue
  | some (n, v) :: queue =>
      (v = props n ∨ some (n, props n) ∈ queue) ∧ Recorded props queue

omit [DecidableEq ν] [DecidableEq ι] in
theorem Recorded.tail {queue : List (Option (ν × ι))}
    (h : Recorded props (event :: queue)) : Recorded props queue := by
  cases event with
  | none => exact h
  | some change => exact h.2

omit [DecidableEq ι] in
theorem Recorded.update {queue : List (Option (ν × ι))}
    (h : Recorded props queue) (n : ν) (v : ι) :
    Recorded (Function.update props n v) (queue ++ [some (n, v)]) := by
  induction queue with
  | nil => exact ⟨.inl (by simp), trivial⟩
  | cons event queue ih =>
      cases event with
      | none => exact ih h
      | some change =>
          obtain ⟨m, u⟩ := change
          refine ⟨?_, ih h.2⟩
          by_cases hm : m = n
          · right
            simp [hm]
          · rw [Function.update_of_ne hm]
            rcases h.1 with hnow | hlater
            · exact .inl hnow
            · exact .inr (List.mem_append_left _ hlater)

omit [DecidableEq ι] in
theorem carryOut_recorded (h : Recorded s.props s.queue) (c : κ) :
    Recorded (s.carryOut L c).props (s.carryOut L c).queue := by
  unfold Manager.carryOut Language.after
  cases hassigns : L.assigns c s.props with
  | none => simpa using h
  | some change => exact h.update change.1 change.2

theorem Manager.Moves.recorded (hmoves : Moves L actions s a t)
    (h : Recorded s.props s.queue) : Recorded t.props t.queue := by
  cases hmoves with
  | set n v => exact h.update n v
  | takeEvent hidle hqueue =>
      rw [hqueue] at h
      exact h.tail
  | command hpending => exact carryOut_recorded h _

/-- An event waits that triggers the action if its tests still pass. -/
def Due (α : Action ν ι κ) (s : Manager ν ι κ τ) : Prop :=
  ∃ event ∈ s.queue, Wakes s.props α event

omit [DecidableEq ν] [DecidableEq ι] in
theorem due_of_stale {queue : List (Option (ν × ι))}
    (h : Recorded s.props (some (n, v) :: queue)) (hstale : v ≠ s.props n)
    (hname : n ∈ α.names) (hqueue : t.queue = queue)
    (hprops : t.props = s.props) : Due α t := by
  have hlater : some (n, s.props n) ∈ queue := h.1.resolve_left hstale
  refine ⟨some (n, s.props n), ?_, ?_⟩
  · rw [hqueue]
    exact hlater
  · rw [hprops]
    exact ⟨hname, rfl⟩

/-! ## Outlines -/

/-- `I` holds all the time; `at_` says what holds before each remaining part of
the commands of an action, while its tests pass. -/
structure Outline (L : Language ν ι κ τ) (I : (ν → ι) → τ → Prop)
    (allowed : ν → ι → Prop) (α : Action ν ι κ)
    (at_ : List κ → (ν → ι) → τ → Prop) : Prop where
  start : ∀ props files, I props files → L.Holds props α →
    at_ α.commands props files
  next : ∀ c rest props files, c :: rest <:+ α.commands → I props files →
    L.Holds props α → at_ (c :: rest) props files →
    at_ rest (L.after props c) (L.exec c props files)
  stable : ∀ rest props files n v, allowed n v → n ∉ α.names →
    at_ rest props files → at_ rest (Function.update props n v) files

/-- A command of another action that does not undo this one. -/
def Harmless (L : Language ν ι κ τ) (I : (ν → ι) → τ → Prop)
    (α : Action ν ι κ) (at_ : List κ → (ν → ι) → τ → Prop) (c : κ) : Prop :=
  ∀ props files, I props files → L.Holds props α → at_ [] props files →
    at_ [] (L.after props c) (L.exec c props files)

/-- The actions listed before and behind an action.  One that comes before it
may undo it where it is triggered by no other properties. -/
structure Beside (L : Language ν ι κ τ) (I : (ν → ι) → τ → Prop)
    (α : Action ν ι κ) (at_ : List κ → (ν → ι) → τ → Prop)
    (before behind : List (Action ν ι κ)) : Prop where
  before : ∀ β ∈ before, (∀ c ∈ β.commands, Harmless L I α at_ c) ∨
    β.Excludes α ∨ β.names ⊆ α.names
  behind : ∀ β ∈ behind,
    (∀ c ∈ β.commands, Harmless L I α at_ c) ∨ β.Excludes α

/-- The commands that are left still carry out the action, or what remains of
it, and do not undo it afterwards. -/
def Progress (L : Language ν ι κ τ) (I : (ν → ι) → τ → Prop)
    (α : Action ν ι κ) (at_ : List κ → (ν → ι) → τ → Prop)
    (s : Manager ν ι κ τ) : Prop :=
  (∃ before behind, s.pending = before ++ α.commands ++ behind ∧
    ∀ c ∈ behind, Harmless L I α at_ c) ∨
  ∃ rest behind, s.pending = rest ++ behind ∧ rest <:+ α.commands ∧
    at_ rest s.props s.files ∧ ∀ c ∈ behind, Harmless L I α at_ c

/-! ## What a step does to an action -/

variable {I : (ν → ι) → τ → Prop} {allowed : ν → ι → Prop}
  {at_ : List κ → (ν → ι) → τ → Prop}
  {before behind : List (Action ν ι κ)} {rest pending behind' : List κ}

/-- A command of the action itself, or one that does not undo it. -/
theorem progress_of_rest (houtline : Outline L I allowed α at_)
    (hI : I s.props s.files) (hholds : L.Holds s.props α)
    (hpending : c :: pending = rest ++ behind')
    (hsuffix : rest <:+ α.commands) (hat : at_ rest s.props s.files)
    (hharmless : ∀ c ∈ behind', Harmless L I α at_ c) :
    Progress L I α at_ { s.carryOut L c with pending := pending } := by
  right
  cases rest with
  | nil =>
      rw [List.nil_append] at hpending
      subst hpending
      refine ⟨[], pending, rfl, List.nil_suffix, ?_, ?_⟩
      · exact hharmless c (by simp) s.props s.files hI hholds hat
      · exact fun d hd => hharmless d (List.mem_cons_of_mem _ hd)
  | cons d rest =>
      rw [List.cons_append, List.cons.injEq] at hpending
      obtain ⟨rfl, rfl⟩ := hpending
      refine ⟨rest, behind', rfl, (List.suffix_cons c rest).trans hsuffix, ?_,
        hharmless⟩
      exact houtline.next c rest s.props s.files hsuffix hI hholds hat

theorem Progress.command (h : Progress L I α at_ s)
    (houtline : Outline L I allowed α at_) (hI : I s.props s.files)
    (hholds : L.Holds s.props α) (hpending : s.pending = c :: pending) :
    Progress L I α at_ { s.carryOut L c with pending := pending } := by
  rcases h with ⟨before, behind', heq, hharmless⟩ |
    ⟨rest, behind', heq, hsuffix, hat, hharmless⟩
  · rw [hpending] at heq
    cases before with
    | nil =>
        have hat := houtline.start s.props s.files hI hholds
        exact progress_of_rest houtline hI hholds heq List.suffix_rfl hat hharmless
    | cons d before =>
        rw [List.cons_append, List.cons_append, List.cons.injEq] at heq
        exact .inl ⟨before, behind', heq.2, hharmless⟩
  · rw [hpending] at heq
    exact progress_of_rest houtline hI hholds heq hsuffix hat hharmless

theorem Progress.idle (h : Progress L I α at_ s)
    (houtline : Outline L I allowed α at_) (hI : I s.props s.files)
    (hholds : L.Holds s.props α) (hpending : s.pending = []) :
    at_ [] s.props s.files := by
  rcases h with ⟨before, behind', heq, _⟩ | ⟨rest, behind', heq, _, hat, _⟩
  · rw [hpending, List.nil_eq, List.append_eq_nil_iff,
      List.append_eq_nil_iff] at heq
    rw [← heq.1.2]
    exact houtline.start s.props s.files hI hholds
  · rw [hpending, List.nil_eq, List.append_eq_nil_iff] at heq
    exact heq.1 ▸ hat

theorem Progress.set (h : Progress L I α at_ s)
    (houtline : Outline L I allowed α at_) (hallowed : allowed n v)
    (hname : n ∉ α.names) : Progress L I α at_ (s.set n v) := by
  rcases h with hahead | ⟨rest, behind', heq, hsuffix, hat, hharmless⟩
  · exact .inl hahead
  · right
    refine ⟨rest, behind', heq, hsuffix, ?_, hharmless⟩
    exact houtline.stable rest s.props s.files n v hallowed hname hat

omit [DecidableEq ν] [DecidableEq ι] in
theorem Due.update {props' : ν → ι} {queue : List (Option (ν × ι))}
    (h : Due α s) (hsame : ∀ n ∈ α.names, props' n = s.props n)
    (hprops : t.props = props') (hqueue : t.queue = s.queue ++ queue) :
    Due α t := by
  obtain ⟨event, hmem, hwakes⟩ := h
  refine ⟨event, ?_, ?_⟩
  · rw [hqueue]
    exact List.mem_append_left _ hmem
  · cases event with
    | none => trivial
    | some change =>
        obtain ⟨n, v⟩ := change
        refine ⟨hwakes.1, ?_⟩
        rw [hprops, hsame n hwakes.1]
        exact hwakes.2

/-- An event that triggers the action queues all of its commands. -/
theorem progress_of_wakes (hbeside : Beside L I α at_ before behind)
    (hactions : actions = before ++ α :: behind)
    (hholds : L.Holds s.props α) (hwakes : Wakes s.props α event)
    {queue : List (Option (ν × ι))} :
    Progress L I α at_
      { s with
        queue := queue
        pending := (actions.filter (L.triggers s.props event)).flatMap
          fun α => α.commands } := by
  left
  refine ⟨(before.filter (L.triggers s.props event)).flatMap fun α => α.commands,
    (behind.filter (L.triggers s.props event)).flatMap fun α => α.commands,
    ?_, ?_⟩
  · have htrig := triggers_of_wakes hholds hwakes
    simp only [hactions, List.filter_append, List.filter_cons, htrig, if_true,
      List.flatMap_append, List.flatMap_cons, List.append_assoc]
  · intro c hc
    obtain ⟨β, hβ, hcβ⟩ := List.mem_flatMap.mp hc
    obtain ⟨hmem, htrig⟩ := List.mem_filter.mp hβ
    rcases hbeside.behind β hmem with hharmless | ⟨n, v, w, hv, hw, hne⟩
    · exact hharmless c hcβ
    · exfalso
      have hα := value_of_triggers (triggers_of_wakes hholds hwakes) hw
      have hβ := value_of_triggers htrig hv
      have hnow := value_of_holds hholds hw
      cases event with
      | none => simp_all
      | some change =>
          obtain ⟨m, u⟩ := change
          have hu : u = s.props m := hwakes.2
          grind

/-- Any other event leaves the action alone, or another one waits. -/
theorem due_or_progress_of_event (hbeside : Beside L I α at_ before behind)
    (hactions : actions = before ++ α :: behind)
    {queue : List (Option (ν × ι))}
    (hrecorded : Recorded s.props (event :: queue))
    (hholds : L.Holds s.props α) (hat : at_ [] s.props s.files)
    (hsleeps : ¬ Wakes s.props α event)
    (ht : t = { s with
      queue := queue
      pending := (actions.filter (L.triggers s.props event)).flatMap
        fun α => α.commands }) :
    Due α t ∨ Progress L I α at_ t := by
  subst ht
  cases event with
  | none => exact absurd trivial hsleeps
  | some change =>
      obtain ⟨n, v⟩ := change
      by_cases hname : n ∈ α.names
      · left
        have hstale : v ≠ s.props n := fun h => hsleeps ⟨hname, h⟩
        exact due_of_stale hrecorded hstale hname rfl rfl
      · right
        right
        refine ⟨[], _, rfl, List.nil_suffix, hat, ?_⟩
        intro c hc
        obtain ⟨β, hβ, hcβ⟩ := List.mem_flatMap.mp hc
        obtain ⟨hmem, htrig⟩ := List.mem_filter.mp hβ
        have hβname : n ∈ β.names := name_of_triggers htrig
        have hexcludes : ¬ β.Excludes α := by
          intro ⟨m, u, w, hu, hw, hne⟩
          rcases value_of_triggers htrig hu with hevent | hnow
          · cases hevent
            exact hname (List.mem_map_of_mem hw)
          · exact hne (hnow.symm.trans (value_of_holds hholds hw))
        rw [hactions, List.mem_append, List.mem_cons] at hmem
        rcases hmem with hbefore | rfl | hbehind
        · rcases hbeside.before β hbefore with hharmless | hex | hsub
          · exact hharmless c hcβ
          · exact absurd hex hexcludes
          · exact absurd (hsub hβname) hname
        · exact absurd hβname hname
        · rcases hbeside.behind β hbehind with hharmless | hex
          · exact hharmless c hcβ
          · exact absurd hex hexcludes

/-! ## Runs -/

/-- The properties that are set from outside. -/
def ManagerStep.Allowed (allowed : ν → ι → Prop) : ManagerStep ν ι → Prop
  | .set n v => allowed n v
  | .takeEvent => True
  | .command => True

/-- Commands and changes from outside keep `I`. -/
structure Kept (L : Language ν ι κ τ) (actions : List (Action ν ι κ))
    (I : (ν → ι) → τ → Prop) (allowed : ν → ι → Prop) : Prop where
  command : ∀ β ∈ actions, ∀ c ∈ β.commands, ∀ props files, I props files →
    I (L.after props c) (L.exec c props files)
  set : ∀ n v props files, allowed n v → I props files →
    I (Function.update props n v) files

structure Sound (L : Language ν ι κ τ) (actions : List (Action ν ι κ))
    (I : (ν → ι) → τ → Prop) (s : Manager ν ι κ τ) : Prop where
  recorded : Recorded s.props s.queue
  listed : ∀ c ∈ s.pending, ∃ β ∈ actions, c ∈ β.commands
  inv : I s.props s.files

theorem Sound.step (hs : Sound L actions I s) (hkept : Kept L actions I allowed)
    (hallowed : a.Allowed allowed) (hmoves : Moves L actions s a t) :
    Sound L actions I t := by
  have hrecorded := hmoves.recorded hs.recorded
  cases hmoves with
  | set n v => exact ⟨hrecorded, hs.listed, hkept.set n v _ _ hallowed hs.inv⟩
  | takeEvent hpending hqueue =>
      refine ⟨hrecorded, ?_, hs.inv⟩
      intro c hc
      obtain ⟨β, hβ, hcβ⟩ := List.mem_flatMap.mp hc
      exact ⟨β, (List.mem_filter.mp hβ).1, hcβ⟩
  | @command c pending hpending =>
      obtain ⟨β, hβ, hcβ⟩ := hs.listed c (by simp [hpending])
      refine ⟨hrecorded, ?_, hkept.command β hβ c hcβ _ _ hs.inv⟩
      intro d hd
      exact hs.listed d (by simp [hpending, hd])

variable {started : (ν → ι) → τ → Prop}

theorem reachable_sound (hkept : Kept L actions I allowed)
    (hstarted : ∀ props files, started props files → I props files)
    (hs : (machine L actions started).ReachableUnder
      (fun _ a => a.Allowed allowed) s) : Sound L actions I s := by
  apply hs.invariant
  · rintro s ⟨hbegin, hqueue, hpending⟩
    refine ⟨?_, ?_, hstarted _ _ hbegin⟩
    · rw [hqueue]
      trivial
    · simp [hpending]
  · intro s a t _ hsound hallowed hstep
    exact hsound.step hkept hallowed (Manager.moves_of_step hstep)

omit [DecidableEq ι] in
/-- An assignment to a property that the action tests queues its event. -/
theorem due_of_assigned (hname : n ∈ α.names)
    (hprops : t.props = Function.update s.props n v)
    (hqueue : t.queue = s.queue ++ [some (n, v)]) : Due α t := by
  refine ⟨some (n, v), ?_, hname, ?_⟩
  · rw [hqueue]
    simp
  · rw [hprops, Function.update_self]

omit [DecidableEq ι] in
theorem update_same_names (props : ν → ι) (hname : n ∉ α.names) :
    ∀ m ∈ α.names, Function.update props n v m = props m := by
  intro m hm
  apply Function.update_of_ne
  rintro rfl
  exact hname hm

/-- One step: an action whose tests pass is due or being carried out. -/
theorem due_or_progress_step (houtline : Outline L I allowed α at_)
    (hbeside : Beside L I α at_ before behind)
    (hactions : actions = before ++ α :: behind) (hs : Sound L actions I s)
    (h : L.Holds s.props α → Due α s ∨ Progress L I α at_ s)
    (hallowed : a.Allowed allowed) (hmoves : Moves L actions s a t)
    (hholds : L.Holds t.props α) : Due α t ∨ Progress L I α at_ t := by
  cases hmoves with
  | set n v =>
      by_cases hname : n ∈ α.names
      · exact .inl (due_of_assigned hname rfl rfl)
      · have hsame := update_same_names (v := v) s.props hname
        rcases h ((holds_congr hsame).mp hholds) with hdue | hprogress
        · exact .inl (hdue.update hsame rfl rfl)
        · exact .inr (hprogress.set houtline hallowed hname)
  | @takeEvent event queue hpending hqueue =>
      by_cases hwakes : Wakes s.props α event
      · exact .inr (progress_of_wakes hbeside hactions hholds hwakes)
      · rcases h hholds with ⟨waiting, hmem, hwaiting⟩ | hprogress
        · left
          rw [hqueue] at hmem
          rcases List.mem_cons.mp hmem with rfl | hlater
          · exact absurd hwaiting hwakes
          · exact ⟨waiting, hlater, hwaiting⟩
        · have hat := hprogress.idle houtline hs.inv hholds hpending
          have hrecorded := hs.recorded
          rw [hqueue] at hrecorded
          exact due_or_progress_of_event hbeside hactions hrecorded hholds hat
            hwakes rfl
  | @command c pending hpending =>
      cases hassigns : L.assigns c s.props with
      | none =>
          have hprops : (s.carryOut L c).props = s.props := by
            simp [Manager.carryOut, Language.after, hassigns]
          rw [hprops] at hholds
          rcases h hholds with hdue | hprogress
          · exact .inl (hdue.update (fun _ _ => congrFun hprops _) rfl rfl)
          · exact .inr (hprogress.command houtline hs.inv hholds hpending)
      | some change =>
          obtain ⟨n, v⟩ := change
          have hprops : (s.carryOut L c).props = Function.update s.props n v := by
            simp [Manager.carryOut, Language.after, hassigns]
          have hqueue : (s.carryOut L c).queue = s.queue ++ [some (n, v)] := by
            simp [Manager.carryOut, hassigns]
          by_cases hname : n ∈ α.names
          · exact .inl (due_of_assigned hname hprops hqueue)
          · have hsame := update_same_names (v := v) s.props hname
            rw [← hprops] at hsame
            have hheld := (holds_congr hsame).mp hholds
            rcases h hheld with hdue | hprogress
            · exact .inl (hdue.update hsame rfl rfl)
            · exact .inr (hprogress.command houtline hs.inv hheld hpending)

/-- The rule: an action whose tests pass in an idle state has been carried out,
and what it leaves behind is still there. -/
theorem idle_rule (houtline : Outline L I allowed α at_)
    (hbeside : Beside L I α at_ before behind)
    (hactions : actions = before ++ α :: behind)
    (hkept : Kept L actions I allowed)
    (hstarted : ∀ props files, started props files → I props files)
    (hs : (machine L actions started).ReachableUnder
      (fun _ a => a.Allowed allowed) s)
    (hidle : s.Idle) (hholds : L.Holds s.props α) :
    at_ [] s.props s.files := by
  have hsound := reachable_sound hkept hstarted hs
  have hall : L.Holds s.props α → Due α s ∨ Progress L I α at_ s := by
    apply hs.invariant (I := fun s =>
      L.Holds s.props α → Due α s ∨ Progress L I α at_ s)
    · rintro s ⟨_, hqueue, _⟩ _
      exact .inl ⟨none, by simp [hqueue], trivial⟩
    · intro s a t hreach h hallowed hstep
      exact due_or_progress_step houtline hbeside hactions
        (reachable_sound hkept hstarted hreach) h hallowed
        (Manager.moves_of_step hstep)
  rcases hall hholds with ⟨event, hmem, _⟩ | hprogress
  · rw [hidle.1] at hmem
    cases hmem
  · exact hprogress.idle houtline hsound.inv hholds hidle.2

/-! ## Whole actions -/

/-- Commands carried out in a row, on properties that stay as they are. -/
def Language.execAll (L : Language ν ι κ τ) (props : ν → ι)
    (commands : List κ) (files : τ) : τ :=
  commands.foldl (fun files c => L.exec c props files) files

/-- What every whole action keeps holds of the files that are there once the
pending commands have been carried out. -/
theorem pending_rule {B : τ → Prop} {env : ν → ι}
    (hkept : Kept L actions I allowed)
    (hstarted : ∀ props files, started props files → I props files)
    (hbegin : ∀ props files, started props files → B files)
    (hexec : ∀ β ∈ actions, ∀ c ∈ β.commands, ∀ props files, I props files →
      L.exec c props files = L.exec c env files)
    (hwhole : ∀ β ∈ actions, ∀ files, B files →
      B (L.execAll env β.commands files))
    (hs : (machine L actions started).ReachableUnder
      (fun _ a => a.Allowed allowed) s) :
    B (L.execAll env s.pending s.files) := by
  have hlist : ∀ chosen : List (Action ν ι κ), chosen ⊆ actions →
      ∀ files, B files →
        B (L.execAll env (chosen.flatMap fun α => α.commands) files) := by
    intro chosen
    induction chosen with
    | nil => exact fun _ _ hB => hB
    | cons β chosen ih =>
        intro hsub files hB
        rw [List.cons_subset] at hsub
        rw [List.flatMap_cons, Language.execAll, List.foldl_append]
        exact ih hsub.2 _ (hwhole β hsub.1 files hB)
  apply hs.invariant (I := fun s => B (L.execAll env s.pending s.files))
  · rintro s ⟨hprops, _, hpending⟩
    rw [hpending]
    exact hbegin _ _ hprops
  · intro s a t hreach hB _ hstep
    have hsound := reachable_sound hkept hstarted hreach
    cases Manager.moves_of_step hstep with
    | set n v => exact hB
    | takeEvent hpending hqueue =>
        rw [hpending] at hB
        exact hlist _ (List.filter_subset_self _) _ hB
    | @command c pending hpending =>
        obtain ⟨β, hβ, hcβ⟩ := hsound.listed c (by simp [hpending])
        rw [hpending, Language.execAll, List.foldl_cons] at hB
        rw [← hexec β hβ c hcβ _ _ hsound.inv] at hB
        exact hB

end Rule

end TriggeredActions
