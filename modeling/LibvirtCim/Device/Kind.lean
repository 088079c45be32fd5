import LibvirtCim.Device.Types
import Mathlib.Data.Nat.Notation

/-!
# Device types

The device types that settings name (`cim_res_types`), the structure each of them
has and the list of a domain it is kept in.
-/

namespace LibvirtCim.Device

/-- The members of `cim_res_types`. -/
inductive DevKind
  | net | disk | mem | proc | graphics | input | console | controller
  deriving DecidableEq, Repr

namespace DevKind

/-- The resource type of a device. -/
def resType : DevKind → ResType
  | net => .net
  | disk => .disk
  | mem => .mem
  | proc => .proc
  | graphics => .graphics
  | input => .input
  | console => .console
  | controller => .controller

/-- `CIM_RES_TYPE_*` as a number. -/
def number : DevKind → ℕ
  | net => 10
  | disk => 17
  | mem => 4
  | proc => 3
  | graphics => 24
  | input => 13
  | console => 32769
  | controller => 32771

/-- The structure of a device. -/
@[reducible] def Dev : DevKind → Type
  | net => NetDevice
  | disk => DiskDevice
  | mem => MemDevice
  | proc => VcpuDevice
  | graphics => GraphicsDevice
  | input => InputDevice
  | console => ConsoleDevice
  | controller => ControllerDevice

/-- A structure cleared by `memset`. -/
def zero : (kind : DevKind) → kind.Dev
  | net => {}
  | disk => {}
  | mem => {}
  | proc => {}
  | graphics => {}
  | input => {}
  | console => {}
  | controller => {}

end DevKind

namespace Domain

/-- `find_list`. -/
def list (dominfo : Domain) : (kind : DevKind) → List (VirtDevice kind.Dev)
  | .net => dominfo.devNet
  | .disk => dominfo.devDisk
  | .mem => dominfo.devMem
  | .proc => dominfo.devVcpu
  | .graphics => dominfo.devGraphics
  | .input => dominfo.devInput
  | .console => dominfo.devConsole
  | .controller => dominfo.devController

/-- The domain with another list of one type. -/
def setList (dominfo : Domain) : (kind : DevKind) → List (VirtDevice kind.Dev) → Domain
  | .net, devs => { dominfo with devNet := devs }
  | .disk, devs => { dominfo with devDisk := devs }
  | .mem, devs => { dominfo with devMem := devs }
  | .proc, devs => { dominfo with devVcpu := devs }
  | .graphics, devs => { dominfo with devGraphics := devs }
  | .input, devs => { dominfo with devInput := devs }
  | .console, devs => { dominfo with devConsole := devs }
  | .controller, devs => { dominfo with devController := devs }

@[simp] theorem list_setList (dominfo : Domain) (kind : DevKind)
    (devs : List (VirtDevice kind.Dev)) : (dominfo.setList kind devs).list kind = devs := by
  cases kind <;> rfl

theorem list_setList_of_ne (dominfo : Domain) {kind kind' : DevKind} (h : kind' ≠ kind)
    (devs : List (VirtDevice kind.Dev)) :
    (dominfo.setList kind devs).list kind' = dominfo.list kind' := by
  cases kind <;> cases kind' <;> first | rfl | exact absurd rfl h

@[simp] theorem type_setList (dominfo : Domain) (kind : DevKind)
    (devs : List (VirtDevice kind.Dev)) : (dominfo.setList kind devs).type = dominfo.type := by
  cases kind <;> rfl

end Domain

end LibvirtCim.Device
