import Samurai.TriggeredActions

/-!
# The USB gadget

`init.qcom.usb.rc` composes the gadget `g1` of `/config/usb_gadget` whenever
`sys.usb.config` names another composition: the links `f1` to `f9` in its
configuration `b.1` say which functions it has.  The commands of the file, on
the nodes it uses, are a language of triggered actions.

A command that fails changes nothing, and `init` goes on to the next one.
-/

namespace Samurai

open TriggeredActions

/-- What stands between two commas of a value. -/
inductive UsbWord where
  | none_ | mass_storage | adb | diag | serial_cdev | rmnet | serial_cdev_nmea
  | rndis | sec | mtp | qdss | ncm | dpl | diag_mdm | qdss_mdm
  | serial_cdev_mdm | ccid | diag_cnss | diag_mdm2 | uac1 | uac2 | uvc | ptp
  | accessory | audio_source | midi
  | number (n : ℕ)
  | text (s : String)
  deriving DecidableEq

abbrev UsbValue := List UsbWord

inductive UsbProperty where
  | sys_usb_config | sys_usb_configfs | sys_usb_ffs_ready | sys_usb_state
  | sys_usb_controller | vendor_usb_config | vendor_usb_controller
  | vendor_usb_use_gadget_hal | vendor_usb_use_ffs_mtp
  | vendor_usb_diag_func_name | vendor_usb_diag_mdm_inst_name
  | vendor_usb_rndis_func_name | vendor_usb_rmnet_func_name
  | vendor_usb_rmnet_inst_name | vendor_usb_dpl_inst_name
  | vendor_usb_qdss_inst_name | vendor_usb_eud
  | persist_vendor_usb_config_extra | persist_vendor_usb_controller_secondary
  | other (name : String)
  deriving DecidableEq

/-- A word, `${property}` or `${property:-word}`. -/
inductive UsbPart where
  | word (w : UsbWord)
  | property (p : UsbProperty)
  | propertyOr (p : UsbProperty) (w : UsbWord)
  deriving DecidableEq

/-- A property that is not set cannot be expanded, and the command fails. -/
def UsbPart.expand (props : UsbProperty → UsbValue) : UsbPart → Option UsbValue
  | .word w => some [w]
  | .property p => if props p = [] then none else some (props p)
  | .propertyOr p w => if props p = [] then some [w] else some (props p)

def expandText (props : UsbProperty → UsbValue) :
    List UsbPart → Option UsbValue
  | [] => some []
  | part :: text => do
      let words ← part.expand props
      let rest ← expandText props text
      some (words ++ rest)

/-- A directory of `functions`: the driver and the instance. -/
structure UsbFunction where
  driver : UsbPart
  inst : UsbPart
  deriving DecidableEq

abbrev UsbFunctionName := UsbValue × UsbValue

instance : LawfulBEq UsbFunctionName := inferInstance

def UsbFunction.expand (props : UsbProperty → UsbValue) (f : UsbFunction) :
    Option UsbFunctionName := do
  let driver ← f.driver.expand props
  let inst ← f.inst.expand props
  some (driver, inst)

/-- The nodes of a gadget: `function k` is `configs/b.1/f<k>`, `os_desc` the
link `os_desc/b.1`, `pid` that of `functions/diag.diag`, and
`enable_debug_inface` that of the instance of `qdss`. -/
inductive GadgetNode where
  | function (k : ℕ)
  | os_desc
  | configuration
  | MaxPower
  | idVendor
  | idProduct
  | bDeviceClass
  | bDeviceSubClass
  | bDeviceProtocol
  | pid
  | enable_debug_inface
  deriving DecidableEq

inductive UsbPath where
  | g1 (node : GadgetNode)
  | g2 (node : GadgetNode)
  | file (path : String)
  deriving DecidableEq

/-- `bind_g1` and `bind_g2` write the name of a controller to `UDC`, and
`link_os_desc` links `g1/configs/b.1`. -/
inductive UsbCommand where
  | rm (path : UsbPath)
  | symlink (f : UsbFunction) (path : UsbPath)
  | link_os_desc
  | write (path : UsbPath) (text : String)
  | bind_g1 (controller : UsbProperty)
  | bind_g2 (controller : UsbProperty)
  | setprop (p : UsbProperty) (text : List UsbPart)
  | start (service : String)
  deriving DecidableEq

abbrev UsbAction := Action UsbProperty UsbValue UsbCommand

/-- What `g1` is when it is bound to a controller. -/
structure BoundGadget where
  configuration : Option String
  idVendor : Option String
  idProduct : Option String
  function : ℕ → Option UsbFunctionName

/-- `functions` are the directories that `post-fs-data` has made, and `binds`
what `g1` was like whenever a controller was written to its `UDC`. -/
structure UsbFiles where
  functions : List UsbFunctionName
  link : UsbPath → Option UsbFunctionName
  os_desc : Bool
  content : UsbPath → Option String
  started : List String
  binds : List BoundGadget

namespace UsbGadget

def bound (s : UsbFiles) : BoundGadget where
  configuration := s.content (.g1 .configuration)
  idVendor := s.content (.g1 .idVendor)
  idProduct := s.content (.g1 .idProduct)
  function k := s.link (.g1 (.function k))

def rm (path : UsbPath) (s : UsbFiles) : UsbFiles :=
  if path = .g1 .os_desc then { s with os_desc := false }
  else { s with link := Function.update s.link path none }

/-- A link that is there is not replaced, and its target has to exist. -/
def symlink (f : UsbFunctionName) (path : UsbPath) (s : UsbFiles) : UsbFiles :=
  if s.link path = none ∧ f ∈ s.functions then
    { s with link := Function.update s.link path (some f) }
  else s

def write (path : UsbPath) (text : String) (s : UsbFiles) : UsbFiles :=
  { s with content := Function.update s.content path (some text) }

def exec (c : UsbCommand) (props : UsbProperty → UsbValue) (s : UsbFiles) :
    UsbFiles :=
  match c with
  | .rm path => rm path s
  | .symlink f path =>
      match f.expand props with
      | none => s
      | some name => symlink name path s
  | .link_os_desc => { s with os_desc := true }
  | .write path text => write path text s
  | .bind_g1 _ => { s with binds := s.binds ++ [bound s] }
  | .bind_g2 _ => s
  | .setprop _ _ => s
  | .start service => { s with started := s.started ++ [service] }

def assigns (c : UsbCommand) (props : UsbProperty → UsbValue) :
    Option (UsbProperty × UsbValue) :=
  match c with
  | .setprop p text => (expandText props text).map fun v => (p, v)
  | _ => none

def language : Language UsbProperty UsbValue UsbCommand UsbFiles where
  unset := []
  exec := exec
  assigns := assigns

end UsbGadget

/-! ## Compositions -/

/-- The actions that compose `g1` are all alike.  `use_ffs_mtp` is tested by
some of them and `ffs_ready` by those with functions of user space; no `state`
stands for `${sys.usb.config}`. -/
structure UsbComposition where
  config : UsbValue
  ffs_ready : Bool := false
  use_ffs_mtp : Option ℕ := none
  configuration : String
  os_desc : Bool := false
  idVendor : String
  idProduct : String
  writes : List (GadgetNode × String) := []
  functions : List UsbFunction
  state : Option UsbValue := none

namespace UsbComposition

variable (c : UsbComposition)

def tests : List (UsbProperty × Option UsbValue) :=
  (.sys_usb_config, some c.config) ::
    (.sys_usb_configfs, some [.number 1]) ::
      ((if c.ffs_ready then [(.sys_usb_ffs_ready, some [.number 1])] else []) ++
        c.use_ffs_mtp.toList.map fun n =>
          (.vendor_usb_use_ffs_mtp, some [.number n]))

def removals : List UsbCommand :=
  [1, 2, 3, 4, 5, 6, 7, 8, 9].map fun k => .rm (.g1 (.function k))

/-- Links for the functions, from `f<k>` on. -/
def symlinks : ℕ → List UsbFunction → List UsbCommand
  | _, [] => []
  | k, f :: functions =>
      .symlink f (.g1 (.function k)) :: symlinks (k + 1) functions

def stateText : List UsbPart :=
  match c.state with
  | none => [.property .sys_usb_config]
  | some state => state.map .word

/-- The commands before the new links. -/
def preparing : List UsbCommand :=
  [.write (.g1 .configuration) c.configuration] ++ removals ++
    (if c.os_desc then [.link_os_desc] else []) ++
    [.write (.g1 .idVendor) c.idVendor, .write (.g1 .idProduct) c.idProduct] ++
    c.writes.map fun w => .write (.g1 w.1) w.2

/-- The commands up to the last one, which sets `sys.usb.state`. -/
def composing : List UsbCommand :=
  c.preparing ++ symlinks 1 c.functions ++ [.bind_g1 .sys_usb_controller]

def action : UsbAction where
  tests := c.tests
  commands := c.composing ++ [.setprop .sys_usb_state c.stateText]

end UsbComposition

/-- An action of the file. -/
inductive UsbEntry where
  | composition (c : UsbComposition)
  | plain (α : UsbAction)

def UsbEntry.action : UsbEntry → UsbAction
  | .composition c => c.action
  | .plain α => α

/-- An action that only starts `adbd`. -/
def startAdbd (config : UsbValue) : UsbEntry :=
  .plain
    { tests := [(.sys_usb_config, some config), (.sys_usb_configfs, some [.number 1])]
      commands := [.start "adbd"] }

end Samurai
