import LibvirtCim.Common.Basic
import Mathlib.Data.Int.Notation

/-!
# Devices and domains

`device_parsing.h`: the structures that the XML parser fills and the XML generator
reads. A C string that may be null is an `Option String`, and a structure fresh from
`calloc` is the default value of its type.

The members of a C union share their storage. Two of the unions are read through a
member other than the one written, so they are kept as the slots behind the members
(`GraphicsDevice`, `SourceDev`) with one name for each member.
-/

namespace LibvirtCim.Device

/-- `CIM_RES_TYPE_*`, as far as a device or a setting carries it. `unset` is the zero
of a cleared device. -/
inductive ResType
  | unset | proc | mem | net | disk | graphics | input | unknown | console | emu | controller
  deriving DecidableEq, Repr

/-- `struct device_address`: the keys with their values. -/
abbrev DeviceAddress := List (String × String)

/-- The anonymous enumeration `disk_type`. -/
inductive DiskType
  | unknown | phy | file | fs
  deriving DecidableEq, Repr

/-- `struct disk_device`. -/
structure DiskDevice where
  type : Option String := none
  device : Option String := none
  driver : Option String := none
  driverType : Option String := none
  source : Option String := none
  virtualDev : Option String := none
  rawio : Option String := none
  sgio : Option String := none
  diskType : DiskType := .unknown
  readonly : Bool := false
  shareable : Bool := false
  busType : Option String := none
  cache : Option String := none
  accessMode : Option String := none
  address : DeviceAddress := []
  deriving DecidableEq, Repr

/-- `struct vsi_device`. -/
structure VsiDevice where
  vsiType : Option String := none
  managerId : Option String := none
  typeId : Option String := none
  typeIdVersion : Option String := none
  instanceId : Option String := none
  filterRef : Option String := none
  profileId : Option String := none
  deriving DecidableEq, Repr

/-- `struct net_device`. -/
structure NetDevice where
  type : Option String := none
  mac : Option String := none
  source : Option String := none
  poolid : Option String := none
  model : Option String := none
  device : Option String := none
  netMode : Option String := none
  filterRef : Option String := none
  reservation : UInt64 := 0
  limit : UInt64 := 0
  vsi : VsiDevice := {}
  address : DeviceAddress := []
  deriving DecidableEq, Repr

/-- The anonymous enumeration `dumpCore`. -/
inductive DumpCore
  | notSet | on | off
  deriving DecidableEq, Repr

/-- `struct mem_device`. -/
structure MemDevice where
  size : UInt64 := 0
  maxsize : UInt64 := 0
  dumpCore : DumpCore := .notSet
  deriving DecidableEq, Repr

/-- `struct vcpu_device`. -/
structure VcpuDevice where
  quantity : UInt64 := 0
  weight : UInt32 := 0
  limit : UInt64 := 0
  deriving DecidableEq, Repr

/-- `struct emu_device`. -/
structure EmuDevice where
  path : Option String := none
  deriving DecidableEq, Repr

/-- `struct graphics_device`. The slots of the union have the names of the members of
`vnc`; those of `sdl` share the first three. -/
structure GraphicsDevice where
  type : Option String := none
  port : Option String := none
  host : Option String := none
  keymap : Option String := none
  passwd : Option String := none
  deriving DecidableEq, Repr

/-- `dev.sdl.display`. -/
abbrev GraphicsDevice.display (gdev : GraphicsDevice) : Option String := gdev.port

/-- `dev.sdl.xauth`. -/
abbrev GraphicsDevice.xauth (gdev : GraphicsDevice) : Option String := gdev.host

/-- `dev.sdl.fullscreen`. -/
abbrev GraphicsDevice.fullscreen (gdev : GraphicsDevice) : Option String := gdev.keymap

/-- `CIM_CHARDEV_SOURCE_TYPE_*`, the valid ones. -/
inductive ChardevSourceType
  | null | vc | pty | dev | file | pipe | stdio | udp | tcp | unixsock | spicevmc
  deriving DecidableEq, Repr

/-- The union `source_dev`: the paths, `unixsock.path`, `tcp.mode` and `udp.bind_host`
are the first slot, and so on. -/
structure SourceDev where
  slot0 : Option String := none
  slot1 : Option String := none
  slot2 : Option String := none
  slot3 : Option String := none
  deriving DecidableEq, Repr

namespace SourceDev

/-- `file.path`, `pty.path`, `dev.path`, `pipe.path` and `unixsock.path`. -/
abbrev path (sd : SourceDev) : Option String := sd.slot0

abbrev unixsockMode (sd : SourceDev) : Option String := sd.slot1

abbrev tcpMode (sd : SourceDev) : Option String := sd.slot0

abbrev tcpProtocol (sd : SourceDev) : Option String := sd.slot1

abbrev tcpHost (sd : SourceDev) : Option String := sd.slot2

abbrev tcpService (sd : SourceDev) : Option String := sd.slot3

abbrev udpBindHost (sd : SourceDev) : Option String := sd.slot0

abbrev udpBindService (sd : SourceDev) : Option String := sd.slot1

abbrev udpConnectHost (sd : SourceDev) : Option String := sd.slot2

abbrev udpConnectService (sd : SourceDev) : Option String := sd.slot3

end SourceDev

/-- `struct console_device`. -/
structure ConsoleDevice where
  sourceType : ChardevSourceType := .null
  sourceDev : SourceDev := {}
  targetType : Option String := none
  deriving DecidableEq, Repr

/-- `struct input_device`. -/
structure InputDevice where
  type : Option String := none
  bus : Option String := none
  deriving DecidableEq, Repr

/-- `CIM_CONTROLLER_PROTOCOL_TYPE_*`, as far as a name is mapped to it. `unset` is the
zero of a cleared device. -/
inductive ControllerType
  | unset | unknown | ide | fd | scsiSsa | sata | ccid | virtioSerial | pci | usb
  deriving DecidableEq, Repr

/-- `struct controller_device`. -/
structure ControllerDevice where
  type : ControllerType := .unset
  index : UInt64 := 0
  model : Option String := none
  ports : Option String := none
  vectors : Option String := none
  queues : Option String := none
  address : DeviceAddress := []
  deriving DecidableEq, Repr

/-- `CONTROLLER_INDEX_NOT_SET`, as it compares with an index. -/
def controllerIndexNotSet : UInt64 := -1

/-- `struct virt_device` with the member of its union in use. -/
structure VirtDevice (α : Type) where
  type : ResType := .unset
  dev : α
  id : Option String := none
  deriving DecidableEq, Repr

/-- The anonymous enumeration `type` of a domain; `unsupported` is its `-1`. -/
inductive DomainType
  | unknown | xenpv | xenfv | kvm | qemu | lxc | unsupported
  deriving DecidableEq, Repr

/-- The union `os_info`. All its members start with the type; which of the others are
in use is decided by the type of the domain. -/
structure OsInfo where
  type : Option String := none
  kernel : Option String := none
  initrd : Option String := none
  cmdline : Option String := none
  arch : Option String := none
  machine : Option String := none
  loader : Option String := none
  bootlist : List (Option String) := []
  init : Option String := none
  deriving DecidableEq, Repr

/-- `CIM_VSSD_RECOVERY_NONE`. -/
def cimVssdRecoveryNone : UInt16 := 2

/-- `CIM_VSSD_RECOVERY_RESTART`. -/
def cimVssdRecoveryRestart : UInt16 := 3

/-- `CIM_VSSD_RECOVERY_PRESERVE`. -/
def cimVssdRecoveryPreserve : UInt16 := 123

/-- `struct domain`. -/
structure Domain where
  type : DomainType := .unknown
  name : Option String := none
  typestr : Option String := none
  uuid : Option String := none
  bootloader : Option String := none
  bootloaderArgs : Option String := none
  clock : Option String := none
  acpi : Bool := false
  apic : Bool := false
  pae : Bool := false
  osInfo : OsInfo := {}
  /-- the actions are `CIM_VSSD_RECOVERY_*`, and zero until one is given -/
  onPoweroff : UInt16 := 0
  onReboot : UInt16 := 0
  onCrash : UInt16 := 0
  devGraphics : List (VirtDevice GraphicsDevice) := []
  devConsole : List (VirtDevice ConsoleDevice) := []
  devEmu : List (VirtDevice EmuDevice) := []
  devInput : List (VirtDevice InputDevice) := []
  devMem : List (VirtDevice MemDevice) := []
  devNet : List (VirtDevice NetDevice) := []
  devDisk : List (VirtDevice DiskDevice) := []
  devVcpu : List (VirtDevice VcpuDevice) := []
  devController : List (VirtDevice ControllerDevice) := []
  deriving DecidableEq, Repr

end LibvirtCim.Device
