import LibvirtCim.Rasd.ToVdev

/-!
# From a device to a setting

`rasd_from_vdev` in `Virt_RASD.c` and the functions that set the properties for each
device type. The status of those functions is dropped, so that a device always has a
setting; one that stops early leaves properties out.

What they ask of libvirt, the file system and the information store is the parameter
`DomainInfo`.
-/

open LibvirtCim.Device

namespace LibvirtCim.Rasd

/-- What the settings of a domain depend on besides its devices. -/
structure DomainInfo where
  /-- `get_vol_size` -/
  volSize : String → UInt64
  /-- the name of the pool with the volume of a path -/
  volPool : String → Option String
  /-- `connect_by_classname` -/
  connect : Bool
  /-- `virDomainLookupByName` -/
  lookup : Bool
  /-- `domain_online` -/
  online : Bool
  /-- `domain_vcpu_count` -/
  vcpuCount : Option UInt64
  /-- `infostore_open` -/
  infostore : Bool
  /-- `virConnectGetType` says `QEMU` -/
  qemu : Bool
  /-- the scheduler parameters of type `ULLONG` -/
  schedParams : Option (List (String × UInt64))
  /-- `weight` in the information store -/
  weight : UInt64
  /-- `limit` in the information store -/
  limit : UInt64

/-- `set_rasd_device_address`, as it is called: for an address that is not empty. -/
def setRasdDeviceAddress (addr : DeviceAddress) (inst : Instance) : Instance :=
  if addr = [] then inst
  else (inst.set "AddressProperties" (.stringA (addr.map fun pair => some pair.1))).set
    "AddressValues"
    (.stringA (addr.map fun pair => some pair.2))

/-- `set_disk_rasd_params`. -/
def setDiskRasdParams (info : DomainInfo) (dev : DiskDevice) (inst : Instance) : Instance :=
  let source := dev.source.getD ""
  -- there is not much to do about a type that is not recognized
  let type : UInt16 :=
    if dev.device = some "cdrom" then 1
    else if dev.device = some "floppy" then 2
    else if dev.device = some "lun" then 4
    else 0
  let poolid := if info.connect then (info.volPool source).map ("DiskPool/" ++ ·) else none
  inst
    |>.set "VirtualQuantity" (.uint64 (info.volSize source))
    |>.set "AllocationUnits" (.string "Bytes")
    |>.setChars "VirtualDevice" dev.virtualDev
    |>.setChars "Address" dev.source
    |>.setChars "PoolID" poolid
    |>.setChars "BusType" dev.busType
    |>.set "EmulatedType" (.uint16 type)
    |>.setIf dev.readonly "readonly" (.boolean dev.readonly)
    |>.setChars "DriverName" dev.driver
    |>.setChars "DriverType" dev.driverType
    |>.setChars "DriverCache" dev.cache
    |>.setChars "AccessMode" dev.accessMode
    |>.setChars "rawio" dev.rawio
    |>.setChars "sgio" dev.sgio
    |>.setIf dev.shareable "shareable" (.boolean dev.shareable)
    |> setRasdDeviceAddress dev.address

/-- `set_net_vsi_rasd_params`, as it is called: for an interface with a virtual port. -/
def setNetVsiRasdParams (vsi : VsiDevice) (inst : Instance) : Instance :=
  if vsi.vsiType = none then inst
  else inst
    |>.setChars "VSIType" vsi.vsiType
    |>.setChars "VSIManagerID" vsi.managerId
    |>.setChars "VSITypeID" vsi.typeId
    |>.setChars "VSITypeIDVersion" vsi.typeIdVersion
    |>.setChars "VSIInstanceID" vsi.instanceId
    |>.setChars "FilterRef" vsi.filterRef
    |>.setChars "ProfileID" vsi.profileId

/-- The bandwidth of an interface: the limit only next to a reservation. -/
def setNetQosRasdParams (dev : NetDevice) (inst : Instance) : Instance :=
  if dev.reservation = 0 then inst
  else inst
    |>.set "Reservation" (.uint64 dev.reservation)
    |>.setIf (dev.limit ≠ 0) "Limit" (.uint64 dev.limit)
    |>.set "AllocationUnits" (.string "KiloBytes per Second")

/-- `set_net_rasd_params`. -/
def setNetRasdParams (dev : NetDevice) (inst : Instance) : Instance :=
  inst
    |>.setChars "NetworkType" dev.type
    |>.setChars "Address" dev.mac
    |>.setChars "NetworkName" dev.source
    |> setNetQosRasdParams dev
    |>.setChars "SourceDevice" (if dev.type = some "direct" then dev.source else none)
    |>.setChars "VirtualDevice" dev.device
    |>.setChars "NetworkMode" dev.netMode
    |>.setChars "ResourceSubType" dev.model
    |>.setChars "PoolID" dev.poolid
    |> setRasdDeviceAddress dev.address

/-- The properties of a memory device. -/
def setMemRasdParams (dev : MemDevice) (inst : Instance) : Instance :=
  inst
    |>.set "AllocationUnits" (.string "KiloBytes")
    |>.set "VirtualQuantity" (.uint64 dev.size)
    |>.set "Reservation" (.uint64 dev.size)
    |>.set "Limit" (.uint64 dev.maxsize)
    |>.setIf (dev.dumpCore ≠ .notSet) "dumpCore" (.boolean (dev.dumpCore ≠ .off))

/-- The weight of the processors: from the scheduler for QEMU, else from the
information store. -/
def procWeight (info : DomainInfo) : Option UInt32 :=
  if info.qemu then
    info.schedParams.map fun params => ((params.lookup "cpu_shares").getD 0).toUInt32
  else some info.weight.toUInt32

/-- `set_proc_rasd_params`. -/
def setProcRasdParams (info : DomainInfo) (dev : VcpuDevice) (inst : Instance) : Instance :=
  if info.connect ∧ info.lookup then
    match if info.online then info.vcpuCount else some dev.quantity with
    | none => inst
    | some count =>
      let inst := inst.setIf (count ≠ 0) "VirtualQuantity" (.uint64 count)
      if info.infostore then
        match procWeight info with
        | none => inst
        | some weight => inst
          |>.set "Weight" (.uint32 weight)
          |>.set "Limit" (.uint64 info.limit)
      else inst
  else inst

/-- `set_graphics_rasd_params`. -/
def setGraphicsRasdParams (info : DomainInfo) (dev : GraphicsDevice) (inst : Instance) :
    Instance :=
  let type := dev.type.getD ""
  let address := if streqc type "sdl" then type else formatStr dev.host ++ ":" ++ formatStr dev.port
  let inst := inst
    |>.setChars "ResourceSubType" dev.type
    |>.set "Address" (.string address)
  if streqc type "vnc" then inst
    |>.setChars "KeyMap" dev.keymap
    |>.setIf (info.connect && info.lookup && dev.passwd.getD "" != "") "Password"
      (.string "********")
  else inst

/-- `_build_console_url`. -/
def buildConsoleUrl (protocol host port : Option String) : Option String :=
  match host with
  | none => none
  | some host =>
    if protocol.any (streqc "file") then
      if startsWith host "/" then some ("file://" ++ host) else some ("file:///" ++ host)
    else if ':' ∈ host.toList then none
    else
      match port with
      | none => some (formatStr protocol ++ "://" ++ host)
      | some port => some (formatStr protocol ++ "://" ++ host ++ ":" ++ port)

/-- A URL goes into the property for its mode. -/
def setConsoleUrl (mode url : Option String) (inst : Instance) : Instance :=
  match mode with
  | none => inst
  | some mode =>
    if streqc mode "bind" then inst.setChars "BindURL" url
    else if streqc mode "connect" then inst.setChars "ConnectURL" url
    else inst

/-- The number of a source type. -/
def chardevSourceTypeID (type : ChardevSourceType) : UInt16 :=
  ((chardevSourceTypeOfID.find? fun entry => entry.2 = type).map Prod.fst).getD 0

/-- `set_console_rasd_params`. -/
def setConsoleRasdParams (cdev : ConsoleDevice) (inst : Instance) : Instance :=
  let sd := cdev.sourceDev
  let inst := inst
    |>.set "OtherResourceType" (.string "console")
    |>.set "SourceType" (.uint16 (chardevSourceTypeID cdev.sourceType))
    |>.setChars "TargetType" cdev.targetType
  match cdev.sourceType with
  | .pty | .dev | .file | .pipe => inst.setChars "SourcePath" sd.path
  | .unixsock =>
    setConsoleUrl sd.unixsockMode (buildConsoleUrl (some "file") sd.path none) inst
  | .udp => inst
    |>.setChars "BindURL" (buildConsoleUrl (some "udp") sd.udpBindHost sd.udpBindService)
    |>.setChars "ConnectURL" (buildConsoleUrl (some "udp") sd.udpConnectHost sd.udpConnectService)
  | .tcp =>
    setConsoleUrl sd.tcpMode (buildConsoleUrl sd.tcpProtocol sd.tcpHost sd.tcpService) inst
  | .null | .vc | .stdio | .spicevmc => inst

/-- `get_input_dev_caption`. -/
def getInputDevCaption (type bus : String) : String :=
  let typeStr :=
    if streqc type "mouse" then "Mouse"
    else if streqc type "tablet" then "Tablet"
    else "Unknown device type"
  let busStr :=
    if streqc bus "usb" then "USB"
    else if streqc bus "ps2" then "PS2"
    else if streqc bus "xen" then "Xen"
    else "Unknown bus"
  busStr ++ " " ++ typeStr

/-- `set_input_rasd_params`. -/
def setInputRasdParams (dev : InputDevice) (inst : Instance) : Instance :=
  inst
    |>.setChars "ResourceSubType" dev.type
    |>.setChars "BusType" dev.bus
    |>.set "Caption" (.string (getInputDevCaption (dev.type.getD "") (dev.bus.getD "")))

/-- `set_controller_rasd_params`. -/
def setControllerRasdParams (dev : ControllerDevice) (inst : Instance) : Instance :=
  match controllerProtocolTypeIDToStr dev.type with
  | none => inst
  | some typeStr => inst
    |>.set "OtherResourceType" (.string "controller")
    |>.set "ResourceSubType" (.string typeStr)
    |>.set "Index" (.uint64 dev.index)
    |>.setChars "Model" dev.model
    |>.setChars "Ports" dev.ports
    |>.setChars "Vectors" dev.vectors
    |>.setChars "Queues" dev.queues
    |> setRasdDeviceAddress dev.address

/-- The class of the settings of a type, without its first half. -/
def baseOfKind : DevKind → String
  | .disk => "DiskResourceAllocationSettingData"
  | .net => "NetResourceAllocationSettingData"
  | .proc => "ProcResourceAllocationSettingData"
  | .mem => "MemResourceAllocationSettingData"
  | .graphics => "GraphicsResourceAllocationSettingData"
  | .console => "ConsoleResourceAllocationSettingData"
  | .input => "InputResourceAllocationSettingData"
  | .controller => "ControllerResourceAllocationSettingData"

/-- The value of the property `ResourceType`: the types without a number of their own
are `OTHER`. -/
def resourceType (kind : DevKind) : UInt16 :=
  match kind with
  | .console | .controller => 1
  | _ => UInt16.ofNat kind.number

/-- The properties of a device type. -/
def setRasdParams (info : DomainInfo) : (kind : DevKind) → kind.Dev → Instance → Instance
  | .disk, dev, inst => setDiskRasdParams info dev inst
  | .net, dev, inst => setNetVsiRasdParams dev.vsi (setNetRasdParams dev inst)
  | .mem, dev, inst => setMemRasdParams dev inst
  | .proc, dev, inst => setProcRasdParams info dev inst
  | .graphics, dev, inst => setGraphicsRasdParams info dev inst
  | .input, dev, inst => setInputRasdParams dev inst
  | .console, dev, inst => setConsoleRasdParams dev inst
  | .controller, dev, inst => setControllerRasdParams dev inst

/-- `rasd_from_vdev`, for a device of the type `kind` of the domain `host`; `pfx` is
the first half of the class name that is asked for. -/
def rasdFromVdev (info : DomainInfo) (pfx host : String) (kind : DevKind)
    (dev : VirtDevice kind.Dev) : Option Instance :=
  if dev.type = kind.resType then
    let inst : Instance := { pfx, base := baseOfKind kind }
    some (setRasdParams info kind dev.dev (inst
      |>.set "InstanceID" (.string (host ++ "/" ++ formatStr dev.id))
      |>.set "ResourceType" (.uint16 (resourceType kind))))
  else none

end LibvirtCim.Rasd
