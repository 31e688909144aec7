import Samurai.LabelledRuns

/-!
# The charging speed setting

The chosen level is kept in `Settings.Secure`, shown by a list preference and
written to the `cool_down` node of the charger.  The node is picked anew on
each access from two candidate paths.

Changes of the preference and broadcasts are handled one at a time.  Between
them the kernel may change the content of a node, and a path may appear,
disappear, or become writable or not.
-/

namespace Samurai

inductive CoolDownPath where
  | powerSupply
  | oplusChg
  deriving DecidableEq, Repr

def COOL_DOWN_PATHS : List CoolDownPath :=
  [.powerSupply, .oplusChg]

/-- What `java.io.File` says about a path, and the level the node holds. -/
structure CoolDownFile where
  exists_ : Bool
  canWrite : Bool
  content : ℤ
  deriving DecidableEq, Repr

inductive PreferenceSummary where
  | selectedEntry
  | unavailable
  deriving DecidableEq, Repr

structure ListPreference where
  key : String
  isEnabled : Bool
  summary : PreferenceSummary
  value : String
  hasListener : Bool
  deriving DecidableEq, Repr

def PREF_KEY : String := "charging_speed"

def charging_speed_values : List String :=
  ["0", "2", "3", "5"]

/-- `charging_speed_preferences.xml` when it is inflated; a value set before
is restored. -/
def charging_speed_preferences (stored : String) : List ListPreference :=
  [{ key := "charging_speed"
     isEnabled := true
     summary := .selectedEntry
     value := stored
     hasListener := false }]

/-- The two nodes, the value under `SECURE_KEY`, the value the preference
framework keeps, and the preference of the open fragment. -/
structure ChargingSpeed where
  files : CoolDownPath → CoolDownFile
  secure : Option ℤ
  stored : String
  mSpeedPref : Option ListPreference

def ACTION_BOOT_COMPLETED : String := "android.intent.action.BOOT_COMPLETED"
def ACTION_LOCKED_BOOT_COMPLETED : String :=
  "android.intent.action.LOCKED_BOOT_COMPLETED"
def ACTION_POWER_CONNECTED : String :=
  "android.intent.action.ACTION_POWER_CONNECTED"

/-! ## Numbers as text -/

def decimalValue (digits : List Char) : ℕ :=
  digits.foldl (fun v c => 10 * v + (c.toNat - '0'.toNat)) 0

/-- `Integer.parseInt`; there is no result where it throws. -/
def parseInt (text : String) : Option ℤ :=
  let (minus, digits) :=
    match text.toList with
    | '-' :: digits => (true, digits)
    | '+' :: digits => (false, digits)
    | digits => (false, digits)
  let value : ℤ := if minus then -(decimalValue digits : ℤ)
    else decimalValue digits
  if digits ≠ [] ∧ digits.all Char.isDigit = true ∧
      -2 ^ 31 ≤ value ∧ value < 2 ^ 31 then some value
  else none

/-- `String.valueOf`. -/
def valueOf (level : ℤ) : String :=
  toString level

namespace ChargingSpeed

/-! ## CoolDownUtils -/

def getCoolDownPath (s : ChargingSpeed) : Option CoolDownPath :=
  (COOL_DOWN_PATHS.find? fun path =>
      (s.files path).exists_ && (s.files path).canWrite).or
    (COOL_DOWN_PATHS.find? fun path => (s.files path).exists_)

def isSupported (s : ChargingSpeed) : Bool :=
  match s.getCoolDownPath with
  | none => false
  | some path => (s.files path).exists_

def setContent (path : CoolDownPath) (level : ℤ) (s : ChargingSpeed) :
    ChargingSpeed :=
  { s with
    files := Function.update s.files path
      { s.files path with content := level } }

/-- The result says whether the node was written; opening a node that is not
writable throws. -/
def writeCoolDown (level : ℤ) (s : ChargingSpeed) : Bool × ChargingSpeed :=
  let level := if level < 0 then 0 else level
  match s.getCoolDownPath with
  | none => (false, s)
  | some path =>
      if (s.files path).canWrite then (true, s.setContent path level)
      else (false, s)

def saveAndApply (level : ℤ) (s : ChargingSpeed) : ChargingSpeed :=
  let s := { s with secure := some level }
  (s.writeCoolDown level).2

def loadSaved (s : ChargingSpeed) : ℤ :=
  s.secure.getD 0

def restore (s : ChargingSpeed) : ChargingSpeed :=
  if !s.isSupported then s else (s.writeCoolDown s.loadSaved).2

/-! ## ChargingSpeedFragment -/

/-- `ListPreference.setValue` on the preference of the fragment. -/
def setValue (value : String) (s : ChargingSpeed) : ChargingSpeed :=
  { s with
    stored := value
    mSpeedPref := s.mSpeedPref.map fun pref => { pref with value := value } }

def setSummary (summary : PreferenceSummary) (s : ChargingSpeed) :
    ChargingSpeed :=
  { s with
    mSpeedPref := s.mSpeedPref.map fun pref =>
      { pref with summary := summary } }

def onCreatePreferences (s : ChargingSpeed) : ChargingSpeed :=
  match (charging_speed_preferences s.stored).find? fun pref =>
      pref.key = PREF_KEY with
  | none => { s with mSpeedPref := none }
  | some pref =>
      if !s.isSupported then
        let pref := { pref with isEnabled := false, summary := .unavailable }
        { s with mSpeedPref := some pref }
      else
        let pref := { pref with summary := .selectedEntry, hasListener := true }
        { s with mSpeedPref := some pref }.setValue (valueOf s.loadSaved)

def onPreferenceChange (isSpeedPref : Bool) (newValue : String)
    (s : ChargingSpeed) : Bool × ChargingSpeed :=
  if isSpeedPref then
    match parseInt newValue with
    | none => (false, s)
    | some level =>
        let s := (s.saveAndApply level).setValue (valueOf level)
        (true, s.setSummary .selectedEntry)
  else (false, s)

/-! ## BootCompletedReceiver -/

/-- The actions on which the setting is restored. -/
def handles (action : String) : Bool :=
  action = ACTION_BOOT_COMPLETED || action = ACTION_LOCKED_BOOT_COMPLETED ||
    action = ACTION_POWER_CONNECTED

def onReceive (action : Option String) (s : ChargingSpeed) : ChargingSpeed :=
  match action with
  | none => s
  | some action => if handles action then s.restore else s

end ChargingSpeed

/-! ## Events -/

/-- The fragment is opened, an entry of the list is selected, a broadcast
comes in, the kernel changes a node, or a path changes. -/
inductive ChargingEvent where
  | openFragment
  | select (newValue : String)
  | broadcast (action : Option String)
  | kernelReset (path : CoolDownPath) (level : ℤ)
  | pathChange (path : CoolDownPath) (exists_ canWrite : Bool)
  deriving DecidableEq, Repr

namespace ChargingSpeed

/-- A selected value that the listener accepts is set by the framework. -/
def select (newValue : String) (s : ChargingSpeed) : ChargingSpeed :=
  let (accepted, s) := s.onPreferenceChange true newValue
  if accepted then s.setValue newValue else s

/-- Values can be selected in an enabled list that has its listener. -/
def step (s : ChargingSpeed) : ChargingEvent → Option ChargingSpeed
  | .openFragment => some s.onCreatePreferences
  | .select newValue =>
      match s.mSpeedPref with
      | none => none
      | some pref =>
          if pref.isEnabled && pref.hasListener &&
              decide (newValue ∈ charging_speed_values) then
            some (s.select newValue)
          else none
  | .broadcast action => some (s.onReceive action)
  | .kernelReset path level => some (s.setContent path level)
  | .pathChange path exists_ canWrite =>
      some { s with
        files := Function.update s.files path
          { s.files path with exists_ := exists_, canWrite := canWrite } }

/-- Nothing is open, and if a level was saved it is one of the list. -/
def machine : Machine ChargingSpeed ChargingEvent where
  Initial s := s.mSpeedPref = none ∧
    ∀ level, s.secure = some level →
      ∃ newValue ∈ charging_speed_values, parseInt newValue = some level
  step := step

end ChargingSpeed

end Samurai
