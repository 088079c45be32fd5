import LibvirtCim.Device.Parse
import LibvirtCim.Framework.Fold
import LibvirtCim.Rasd.Instance

/-!
# From a setting to a device

`rasd_to_vdev` and the translators behind it in
`Virt_VirtualSystemManagementService.c`, one for each device type and two more for
containers. A translator works on a device that is either cleared (a resource is added)
or the one to modify; it fails with a message.

What a translator asks its host for is the parameter `Host`. On a failure the device
is discarded by all callers, so none is returned.
-/

open LibvirtCim.Device

namespace LibvirtCim.Rasd

/-- The message of a translation that fails, and what it adds in `p_error`. -/
structure RasdError where
  msg : String
  detail : Option String := none
  deriving DecidableEq, Repr

instance : Coe String RasdError := ⟨fun msg => { msg }⟩

/-- What the translation depends on besides the setting. -/
structure Host where
  /-- `disk_type_from_file`: the kind of file behind a path -/
  diskTypeFromFile : String → DiskType
  /-- `_net_rand_mac` -/
  netRandMac : Option String
  /-- `_default_network`: the id of the default network pool -/
  defaultNetwork : Option String

/-- The loop of `rasd_to_device_address`. A key that is null is passed over; of a value that is
null there are no characters, and `add_device_address_property` refuses it. -/
def addAddressProperties :
    List (Option String × Option String) → DeviceAddress → Except RasdError DeviceAddress
  | [], addr => .ok addr
  | (none, _) :: pairs, addr => addAddressProperties pairs addr
  | (some key, some value) :: pairs, addr => addAddressProperties pairs (addr ++ [(key, value)])
  | (some _, none) :: _, _ => .error "Could not set address properties in vdev"

/-- `rasd_to_device_address`: the pairs are added to the address. -/
def rasdToDeviceAddress (inst : Instance) (addr : DeviceAddress) :
    Except RasdError DeviceAddress :=
  match inst.getArray "AddressProperties", inst.getArray "AddressValues" with
  | some keys, some values =>
    if keys.length ≠ values.length then .error "AddressProperties not matching AddressValues"
    else addAddressProperties (keys.zip values) addr
  | _, _ => .ok addr

/-- Whether the pairs can be added does not depend on the address they are added to, and what is
added are those of a key and a value. -/
theorem addAddressProperties_ok {pairs : List (Option String × Option String)}
    {addr out : DeviceAddress} (h : addAddressProperties pairs addr = .ok out) :
    let added := pairs.filterMap fun pair => pair.1.bind fun key => pair.2.map fun value =>
      (key, value)
    out = addr ++ added ∧ ∀ addr', addAddressProperties pairs addr' = .ok (addr' ++ added) := by
  induction pairs generalizing addr with
  | nil =>
    cases h
    exact ⟨(List.append_nil _).symm, fun addr' => by rw [List.filterMap_nil, List.append_nil]; rfl⟩
  | cons pair pairs ih =>
    obtain ⟨key, value⟩ := pair
    cases key with
    | none => exact ih h
    | some key =>
      cases value with
      | none => cases h
      | some value =>
        obtain ⟨hout, hall⟩ := ih h
        constructor
        · rw [hout, List.append_assoc]
          rfl
        · intro addr'
          rw [addAddressProperties, hall, List.append_assoc]
          rfl

/-- An address without nulls is added as it is. -/
theorem addAddressProperties_some (added addr : DeviceAddress) :
    addAddressProperties ((added.map fun pair => some pair.1).zip
      (added.map fun pair => some pair.2)) addr = .ok (addr ++ added) := by
  induction added generalizing addr with
  | nil =>
    rw [List.append_nil]
    rfl
  | cons pair added ih =>
    obtain ⟨key, value⟩ := pair
    rw [List.map_cons, List.map_cons, List.zip_cons_cons, addAddressProperties, ih,
      List.append_assoc]
    rfl

/-! ### Network interfaces -/

/-- The virtual port of an interface of type `direct`. -/
def vsiOfRasd (inst : Instance) : VsiDevice where
  vsiType := inst.getStr "VSIType"
  managerId := inst.getStr "VSIManagerID"
  typeId := inst.getStr "VSITypeID"
  typeIdVersion := inst.getStr "VSITypeIDVersion"
  instanceId := inst.getStr "VSIInstanceID"
  filterRef := inst.getStr "FilterRef"
  profileId := inst.getStr "ProfileID"

/-- The source of an interface, according to its type. -/
def netSourceOfRasd (host : Host) (inst : Instance) (type : String) (ndev : NetDevice) :
    Except RasdError NetDevice :=
  if streqc type "bridge" then
    match inst.getStr "NetworkName" with
    | none => .error "No Network bridge name specified"
    | some name =>
      if name = "" then .error "Bridge name is empty"
      else .ok { ndev with type := some "bridge", source := some name }
  else if streqc type "network" then
    match (inst.getStr "PoolID").or host.defaultNetwork with
    | none => .error "No NetworkPool specified no default available"
    | some poolid =>
      match nameFromPoolId poolid with
      | none => .error "PoolID specified is not formatted properly"
      | some network => .ok { ndev with type := some "network", source := some network }
  else if streqc type "user" then .ok { ndev with type := some "user" }
  else if streqc type "direct" then
    match inst.getStr "SourceDevice" with
    | none => .error "No Source Device specified"
    | some source =>
      if source = "" then .error "Source Device is empty"
      else .ok { ndev with
        type := some "direct", source := some source, vsi := vsiOfRasd inst }
  else .error "Invalid Network Type specified"

/-- `net_rasd_to_vdev`: the device is built anew. -/
def netRasdToVdev (host : Host) (inst : Instance) : Except RasdError (VirtDevice NetDevice) :=
  match (inst.getStr "Address").or host.netRandMac with
  | none => .error "Unable to generate a MAC address"
  | some mac =>
    match inst.getStr "NetworkType" with
    | none => .error "No Network Type specified"
    | some type => do
      let ndev ← netSourceOfRasd host inst type { mac := some mac }
      let address ← rasdToDeviceAddress inst []
      .ok
        { dev := { ndev with
            device := inst.getStr "VirtualDevice"
            netMode := inst.getStr "NetworkMode"
            model := inst.getStr "ResourceSubType"
            reservation := (inst.getU64 "Reservation").getD 0
            limit := (inst.getU64 "Limit").getD 0
            address }
          id := some mac }

/-! ### Disks -/

/-- `VIRT_DISK_TYPE_*`. -/
def virtDiskTypes : List (UInt16 × String) :=
  [(0, "disk"), (1, "cdrom"), (2, "floppy"), (3, "filesystem"), (4, "lun")]

/-- Source and kind of a disk of an emulated type. -/
def diskSourceOfRasd (host : Host) (virtualDev source : String) (type : UInt16) :
    Except RasdError (String × DiskType) :=
  let diskType := host.diskTypeFromFile source
  if (type = 0 ∨ type = 3 ∨ type = 4) ∧ diskType = .unknown then .error
    { msg := "Can't get a valid disk type"
      detail := some ("Device " ++ virtualDev ++ ", Address " ++ source ++
        ", make sure Address can be accessed on host system.") }
  else if type = 1 then
    -- a cdrom device may be without a disk
    if source = "" then .ok (source, .file)
    else if source = "/dev/null" then .ok ("", .file)
    else if diskType = .unknown then .ok (source, .phy)
    else .ok (source, diskType)
  else .ok (source, diskType)

/-- `disk_rasd_to_vdev`: the device is built anew. -/
def diskRasdToVdev (host : Host) (inst : Instance) : Except RasdError (VirtDevice DiskDevice) :=
  match inst.getStr "VirtualDevice" with
  | none => .error "Missing `VirtualDevice' property"
  | some virtualDev => do
    let type := (inst.getU16 "EmulatedType").getD 0
    let (source, diskType) ←
      diskSourceOfRasd host virtualDev ((inst.getStr "Address").getD "/dev/null") type
    match virtDiskTypes.lookup type with
    | none => .error "Invalid value for EmulatedType"
    | some device =>
      let address ← rasdToDeviceAddress inst []
      .ok
        { dev :=
            { device := some device
              source := some source
              diskType
              virtualDev := some virtualDev
              readonly := (inst.getBool "readonly").getD false
              busType := inst.getStr "BusType"
              driver := inst.getStr "DriverName"
              driverType := inst.getStr "DriverType"
              cache := inst.getStr "DriverCache"
              accessMode := inst.getStr "AccessMode"
              rawio := inst.getStr "rawio"
              sgio := inst.getStr "sgio"
              shareable := (inst.getBool "shareable").getD false
              address }
          id := some virtualDev }

/-- `lxc_disk_rasd_to_vdev`. -/
def lxcDiskRasdToVdev (inst : Instance) (dev : VirtDevice DiskDevice) :
    Except RasdError (VirtDevice DiskDevice) :=
  match inst.getStr "MountPoint" with
  | none => .error "Missing `MountPoint' field"
  | some mountPoint =>
    match inst.getStr "Address" with
    | none => .error "Missing `Address' field"
    | some address => .ok { dev with
        dev := { dev.dev with
          virtualDev := some mountPoint, source := some address, diskType := .fs }
        id := some mountPoint }

/-! ### Memory and processors -/

/-- The shift an allocation unit stands for, into kilobytes. -/
def memShift (units : String) : Option (UInt64 → UInt64) :=
  if streqc units "Bytes" then some (· >>> 10)
  else if streqc units "KiloBytes" then some id
  else if streqc units "MegaBytes" then some (· <<< 10)
  else if streqc units "GigaBytes" then some (· <<< 20)
  else none

/-- `mem_rasd_to_vdev`. -/
def memRasdToVdev (inst : Instance) (dev : VirtDevice MemDevice) :
    Except RasdError (VirtDevice MemDevice) :=
  let dumpCore :=
    match inst.getBool "dumpCore" with
    | none => DumpCore.notSet
    | some true => .on
    | some false => .off
  match (inst.getU64 "VirtualQuantity").or (inst.getU64 "Reservation") with
  | none => .error "Missing `VirtualQuantity' field in Memory RASD"
  | some size =>
    let maxsize := (inst.getU64 "Limit").getD size
    match memShift ((inst.getStr "AllocationUnits").getD "Bytes") with
    | none => .error "Unknown AllocationUnits in Memory RASD"
    | some shift =>
      .ok { dev with dev := { size := shift size, maxsize := shift maxsize, dumpCore } }

/-- `proc_rasd_to_vdev`. -/
def procRasdToVdev (inst : Instance) (dev : VirtDevice VcpuDevice) :
    Except RasdError (VirtDevice VcpuDevice) :=
  match inst.getU64 "VirtualQuantity" with
  | none => .error "Missing `VirtualQuantity' field in Processor RASD"
  | some quantity =>
    let defWeight : UInt32 :=
      if startsWith inst.classname "Xen" then 1024
      else if startsWith inst.classname "QEMU" then 1024
      else 0
    .ok { dev with dev :=
      { quantity
        limit := (inst.getU64 "Limit").getD 0
        weight := (inst.getU32 "Weight").getD defWeight } }

/-- `lxc_proc_rasd_to_vdev`. -/
def lxcProcRasdToVdev (inst : Instance) (dev : VirtDevice VcpuDevice) :
    Except RasdError (VirtDevice VcpuDevice) :=
  if (inst.getU64 "VirtualQuantity").isSome then
    .error "ProcRASD field VirtualQuantity not valid for LXC"
  else if (inst.getU64 "Limit").isSome then .error "ProcRASD field Limit not valid for LXC"
  else .ok { dev with dev := { dev.dev with weight := (inst.getU32 "Weight").getD 1024 } }

/-! ### Consoles -/

/-- The one of `ConnectURL` and `BindURL` that is there, with its mode. -/
def urlOfRasd (inst : Instance) (twice none_ : String) : Except RasdError (String × String) :=
  match inst.getStr "ConnectURL", inst.getStr "BindURL" with
  | some _, some _ => .error twice
  | some url, none => .ok ("connect", url)
  | none, some url => .ok ("bind", url)
  | none, none => .error none_

/-- `_unixsock_console_rasd_to_vdev`. -/
def unixsockConsoleRasdToVdev (inst : Instance) (sd : SourceDev) : Except RasdError SourceDev := do
  let (mode, url) ← urlOfRasd inst
    "ConsoleRASD: Only one of ConnectURL or BindURL is allowed for UNIX domain sockets."
    "ConsoleRASD: ConnectURL or BindURL not specified for UNIX domain socket client/server."
  match parseConsoleUrl url with
  | none => .error ("ConsoleRASD: Invalid ConnectURL or BindURL for UNIX domain socket " ++
      "client/server.")
  | some (protocol, path, _) =>
    if !streqc "file" protocol then .error ("ConsoleRASD: Protocol 'file' was not specified for " ++
      "ConnectURL or BindURL for UNIX domain socket client/server.")
    else .ok { sd with slot0 := some path, slot1 := some mode }

/-- `_udp_console_rasd_to_vdev`: a port that is missing keeps the service. -/
def udpConsoleRasdToVdev (inst : Instance) (sd : SourceDev) : Except RasdError SourceDev :=
  match inst.getStr "ConnectURL" with
  | none => .error "ConsoleRASD: ConnectURL not specified for UDP network console."
  | some url =>
    match parseConsoleUrl url with
    | none => .error "ConsoleRASD: Invalid ConnectURL specified for UDP network console."
    | some (protocol, connectHost, connectService) =>
      if !streqc "udp" protocol then .error ("ConsoleRASD: Protocol 'udp' was not specified at " ++
        "ConnectURL for UDP network console.")
      else
        match inst.getStr "BindURL" with
        | none => .error "ConsoleRASD: BindURL not specified for UDP network console."
        | some url =>
          match parseConsoleUrl url with
          | none => .error "ConsoleRASD: Invalid BindURL specified for UDP network console."
          | some (protocol, bindHost, bindService) =>
            if !streqc "udp" protocol then .error ("ConsoleRASD: Protocol 'udp' was not " ++
              "specified at BindURL for UDP network console.")
            else .ok
              { slot0 := some bindHost
                slot1 := bindService.or sd.udpBindService
                slot2 := some connectHost
                slot3 := connectService.or sd.udpConnectService }

/-- `_tcp_console_rasd_to_vdev`. -/
def tcpConsoleRasdToVdev (inst : Instance) (sd : SourceDev) : Except RasdError SourceDev := do
  let (mode, url) ← urlOfRasd inst
    "ConsoleRASD: Only one of ConnectURL or BindURL is allowed for TCP sockets."
    "ConsoleRASD: ConnectURL or BindURL not specified for TCP client/server console."
  match parseConsoleUrl url with
  | none => .error "ConsoleRASD: Invalid ConnectURL or BindURL for TCP client/server console."
  | some (protocol, host, port) =>
    let service := port.or sd.tcpService
    if service = none then .error "ConsoleRASD: Missing TCP port for TCP client/server console."
    else if streqc "udp" protocol then .error ("ConsoleRASD: Invalid protocol 'udp' was " ++
      "specified at TCP client/server console.")
    else if streqc "file" protocol then .error ("ConsoleRASD: Invalid protocol 'file' was " ++
      "specified at TCP client/server console.")
    else .ok { slot0 := some mode, slot1 := some protocol, slot2 := some host, slot3 := service }

/-- The values of `CIM_CHARDEV_SOURCE_TYPE_*` below the invalid one. -/
def chardevSourceTypeOfID : List (UInt16 × ChardevSourceType) :=
  [(0, .null), (1, .vc), (2, .pty), (3, .dev), (4, .file), (5, .pipe), (6, .stdio), (7, .udp),
    (8, .tcp), (9, .unixsock), (10, .spicevmc)]

/-- A `SourcePath` that has to be there. -/
def pathOfRasd (inst : Instance) (sd : SourceDev) (msg : String) : Except RasdError SourceDev :=
  match inst.getStr "SourcePath" with
  | none => .error msg
  | some path => .ok { sd with slot0 := some path }

/-- The source of a console of a type. -/
def consoleSourceOfRasd (inst : Instance) (sourceType : ChardevSourceType) (sd : SourceDev) :
    Except RasdError SourceDev :=
  match sourceType with
  | .pty => .ok { sd with slot0 := (inst.getStr "SourcePath").or sd.path }
  | .dev => pathOfRasd inst sd "ConsoleRASD: SourcePath not specified for Host device proxy."
  | .file => pathOfRasd inst sd "ConsoleRASD: SourcePath not specified for Device logfile."
  | .pipe => pathOfRasd inst sd "ConsoleRASD: SourcePath not specified for Named pipe."
  | .unixsock => unixsockConsoleRasdToVdev inst sd
  | .udp => udpConsoleRasdToVdev inst sd
  | .tcp => tcpConsoleRasdToVdev inst sd
  | .null | .vc | .stdio | .spicevmc => .ok sd

/-- `console_rasd_to_vdev`. The id is left as it is. -/
def consoleRasdToVdev (inst : Instance) (dev : VirtDevice ConsoleDevice) :
    Except RasdError (VirtDevice ConsoleDevice) :=
  match inst.getU16 "SourceType" with
  | none => .error "ConsoleRASD: SourceType field not specified."
  | some id =>
    match chardevSourceTypeOfID.lookup id with
    | none => .error "ConsoleRASD: Invalid SourceType value"
    | some sourceType => do
      let sourceDev ← consoleSourceOfRasd inst sourceType dev.dev.sourceDev
      .ok { dev with dev :=
        { sourceType, sourceDev, targetType := (inst.getStr "TargetType").or dev.dev.targetType } }

/-! ### Graphics -/

/-- The graphics device of a type. -/
def graphicsOfRasd (inst : Instance) (type : String) (gdev : GraphicsDevice) :
    Except RasdError GraphicsDevice :=
  if streqc type "vnc" then
    let default :=
      if (inst.getBool "IsIPV6Only").getD false then "[::1]:-1" else "127.0.0.1:-1"
    match parseIpAddress ((inst.getStr "Address").getD default) with
    | some (host, some port) => .ok
      { type := some type
        host := some host
        port := some port
        keymap := some ((inst.getStr "KeyMap").getD "en-us")
        passwd := inst.getStr "Password" }
    | _ => .error "GraphicsRASD field Address not valid"
  else if streqc type "console" || streqc type "serial" then
    match parseConsoleAddress ((inst.getStr "Address").getD "/dev/pts/0:0") with
    | some (host, port) => .ok
      { gdev with type := some type, host := some host, port := some port }
    | none => .error "GraphicsRASD field Address not valid"
  else if streqc type "sdl" then
    let fullscreen := (inst.getBool "IsIPV6Only").map fun ipv6 => if ipv6 then "yes" else "no"
    match inst.getStr "Address" with
    | none => .ok { gdev with type := some type, port := none, host := none, keymap := fullscreen }
    | some address =>
      match parseSdlAddress address with
      | none => .error "GraphicsRASD sdl Address not valid"
      | some (display, xauth) => .ok
        { gdev with type := some type, port := display, host := xauth, keymap := fullscreen }
  else .error "Unsupported graphics type"

/-- `graphics_rasd_to_vdev`. -/
def graphicsRasdToVdev (inst : Instance) (dev : VirtDevice GraphicsDevice) :
    Except RasdError (VirtDevice GraphicsDevice) :=
  match inst.getStr "ResourceSubType" with
  | none => .error "GraphicsRASD ResourceSubType field not valid"
  | some type => do
    let gdev ← graphicsOfRasd inst type dev.dev
    let id :=
      if streqc type "vnc" || streqc type "sdl" then type
      else type ++ ":" ++ formatStr gdev.port
    .ok { dev with dev := gdev, id := some id }

/-! ### Input devices and controllers -/

/-- `input_rasd_to_vdev`, which never fails. The id is left as it is. -/
def inputRasdToVdev (inst : Instance) (dev : VirtDevice InputDevice) : VirtDevice InputDevice :=
  match inst.getStr "ResourceSubType" with
  | none => dev
  | some type =>
    let bus :=
      match inst.getStr "BusType" with
      | some bus => some bus
      | none =>
        if streqc type "mouse" then some "ps2"
        else if streqc type "tablet" then some "usb"
        else dev.dev.bus
    { dev with dev := { type := some type, bus } }

/-- `controller_rasd_to_vdev`. -/
def controllerRasdToVdev (inst : Instance) (dev : VirtDevice ControllerDevice) :
    Except RasdError (VirtDevice ControllerDevice) :=
  match inst.getStr "ResourceSubType" with
  | none => .error "ControllerRASD ResourceSubType field not valid"
  | some typeStr => do
    let address ← rasdToDeviceAddress inst dev.dev.address
    let index := inst.getU64 "Index"
    .ok { dev with
      dev :=
        { type := controllerProtocolTypeStrToID typeStr
          index := index.getD controllerIndexNotSet
          model := (inst.getStr "Model").or dev.dev.model
          ports := (inst.getStr "Ports").or dev.dev.ports
          vectors := (inst.getStr "Vectors").or dev.dev.vectors
          queues := (inst.getStr "Queues").or dev.dev.queues
          address }
      id := some ("controller:" ++ typeStr ++ ":" ++
        (index.map fun n => toString n.toNat).getD "-1") }

/-! ### All device types -/

/-- `_sysvirt_rasd_to_vdev`. -/
def sysvirtRasdToVdev (host : Host) (inst : Instance) :
    (kind : DevKind) → VirtDevice kind.Dev → Except RasdError (VirtDevice kind.Dev)
  | .disk, _ => diskRasdToVdev host inst
  | .net, _ => netRasdToVdev host inst
  | .mem, dev => memRasdToVdev inst dev
  | .proc, dev => procRasdToVdev inst dev
  | .graphics, dev => graphicsRasdToVdev inst dev
  | .console, dev => consoleRasdToVdev inst dev
  | .input, dev => .ok (inputRasdToVdev inst dev)
  | .controller, dev => controllerRasdToVdev inst dev

/-- `_container_rasd_to_vdev`. -/
def containerRasdToVdev (host : Host) (inst : Instance) :
    (kind : DevKind) → VirtDevice kind.Dev → Except RasdError (VirtDevice kind.Dev)
  | .mem, dev => memRasdToVdev inst dev
  | .disk, dev => lxcDiskRasdToVdev inst dev
  | .net, _ => netRasdToVdev host inst
  | .proc, dev => lxcProcRasdToVdev inst dev
  | .input, dev => .ok (inputRasdToVdev inst dev)
  | .controller, dev => controllerRasdToVdev inst dev
  | .graphics, _ | .console, _ => .error "Resource type not supported on this platform"

/-- `rasd_to_vdev`, for a setting of the type `kind`. -/
def rasdToVdev (host : Host) (domtype : DomainType) (inst : Instance) (kind : DevKind)
    (dev : VirtDevice kind.Dev) : Except RasdError (VirtDevice kind.Dev) := do
  let dev ←
    if domtype = .lxc then containerRasdToVdev host inst kind dev
    else sysvirtRasdToVdev host inst kind dev
  -- ensure device type is set
  .ok { dev with type := kind.resType }

/-- `rasd_to_vdev` is the translation for the platform, and the type. -/
theorem rasdToVdev_ok {host : Host} {domtype : DomainType} {inst : Instance} {kind : DevKind}
    {dev dev' : VirtDevice kind.Dev} (h : rasdToVdev host domtype inst kind dev = .ok dev') :
    ∃ set, (if domtype = .lxc then containerRasdToVdev host inst kind dev
        else sysvirtRasdToVdev host inst kind dev) = .ok set ∧
      dev' = { set with type := kind.resType } := by
  unfold rasdToVdev at h
  dsimp only at h
  split at h
  · next hlxc =>
    obtain ⟨set, hset, heq⟩ := Framework.bind_eq_ok h
    rw [if_pos hlxc]
    exact ⟨set, hset, (Except.ok.inj heq).symm⟩
  · next hlxc =>
    obtain ⟨set, hset, heq⟩ := Framework.bind_eq_ok h
    rw [if_neg hlxc]
    exact ⟨set, hset, (Except.ok.inj heq).symm⟩

end LibvirtCim.Rasd
