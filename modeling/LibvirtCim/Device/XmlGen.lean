import LibvirtCim.Device.Parse

/-!
# Generating domain XML

`xmlgen.c`: the element for each type of device, the lists of devices, and the
document of a whole domain. A generator fails with a message; allocations succeed.

The content of an element goes through libxml2, which gives the children for it: the
parameter `nodeContent`. An attribute with a null value is an empty one. A generator
that compares a null string crashes; no parsed device and no translated setting has
one there, and the comparison is false here.
-/

open Framework

namespace LibvirtCim.Device

/-- `xmlNewProp`. -/
def prop (key : String) (value : Option String) : List (String × String) :=
  [(key, value.getD "")]

/-- `xmlNewProp`, when there is a value. -/
def optProp (key : String) (value : Option String) : List (String × String) :=
  value.toList.map fun v => (key, v)

@[simp] theorem lookup_optProp_append (k k' : String) (v : Option String)
    (attrs : List (String × String)) :
    (optProp k v ++ attrs).lookup k' =
      if k' = k then v.or (attrs.lookup k') else attrs.lookup k' := by
  by_cases h : k' = k <;> cases v <;> simp [optProp, h]

@[simp] theorem lookup_optProp (k k' : String) (v : Option String) :
    (optProp k v).lookup k' = if k' = k then v else none := by
  by_cases h : k' = k <;> cases v <;> simp [optProp, h]

@[simp] theorem lookup_prop_append (k k' : String) (v : Option String)
    (attrs : List (String × String)) :
    (prop k v ++ attrs).lookup k' =
      if k' = k then some (v.getD "") else attrs.lookup k' := by
  simp [prop]

@[simp] theorem lookup_prop (k k' : String) (v : Option String) :
    (prop k v).lookup k' = if k' = k then some (v.getD "") else none := by
  simp [prop]

/-- `XML_ERROR`. -/
def xmlError : String := "Failed to allocate XML memory"

/-- A loop over a list of devices that leaves out those marked as removed and ends
with the first message. -/
def devicesXml {α : Type} (xml : α → Except String (List Node)) :
    List (VirtDevice α) → Except String (List Node)
  | [] => .ok []
  | dev :: devs =>
    if dev.type = .unknown then devicesXml xml devs
    else do
      let nodes ← xml dev.dev
      let rest ← devicesXml xml devs
      .ok (nodes ++ rest)

/-- A child element with one attribute, when it has a value. -/
def optChild (name key : String) (value : Option String) : List Node :=
  value.toList.map fun v => .elem name [(key, v)] []

/-- `device_address_xml`. -/
def deviceAddressXml (addr : DeviceAddress) : List Node :=
  if addr = [] then [] else [.elem "address" addr []]

/-! ### Disks and file systems -/

/-- The `driver` of a disk. -/
def diskDriverXml (dev : DiskDevice) : List Node :=
  match dev.driver with
  | none => []
  | some driver =>
    [.elem "driver" (prop "name" driver ++ optProp "type" dev.driverType ++
      optProp "cache" dev.cache) []]

/-- The `target` of a disk. -/
def diskTargetXml (dev : DiskDevice) : Node :=
  .elem "target" (prop "dev" dev.virtualDev ++ optProp "bus" dev.busType) []

/-- An element without attributes for a flag. -/
def flagXml (flag : Bool) (name : String) : List Node :=
  if flag then [.elem name [] []] else []

/-- `disk_block_xml`. -/
def diskBlockXml (dev : DiskDevice) : Node :=
  let source :=
    match dev.source with
    | none => []
    | some source => if source = "/dev/null" then [] else [Node.elem "source" [("dev", source)] []]
  .elem "disk"
    ([("type", "block")] ++ optProp "device" dev.device ++ optProp "rawio" dev.rawio ++
      optProp "sgio" dev.sgio)
    (diskDriverXml dev ++ source ++ [diskTargetXml dev] ++ flagXml dev.readonly "readonly" ++
      flagXml dev.shareable "shareable" ++ deviceAddressXml dev.address)

/-- `disk_file_xml`. -/
def diskFileXml (dev : DiskDevice) : Node :=
  let source :=
    -- a cdrom device without a disk in it has no source
    if dev.device = some "cdrom" ∧ dev.source = some "" then []
    else [Node.elem "source" (prop "file" dev.source) []]
  .elem "disk" ([("type", "file")] ++ optProp "device" dev.device)
    (diskDriverXml dev ++ source ++ [diskTargetXml dev] ++ flagXml dev.readonly "readonly" ++
      flagXml dev.shareable "shareable" ++ deviceAddressXml dev.address)

/-- `disk_fs_xml`: the type is left to libvirt, which knows only one. -/
def diskFsXml (dev : DiskDevice) : Node :=
  .elem "filesystem" (optProp "accessmode" dev.accessMode)
    (optChild "driver" "type" dev.driverType ++ [.elem "source" (prop "dir" dev.source) [],
      .elem "target" (prop "dir" dev.virtualDev) []] ++ deviceAddressXml dev.address)

/-- The body of `disk_xml`. -/
def diskXmlOf (disk : DiskDevice) : Except String (List Node) :=
  match disk.diskType with
  | .phy => .ok [diskBlockXml disk]
  | .file => .ok [diskFileXml disk]
  | .fs => .ok [diskFsXml disk]
  | .unknown => .error "Unknown disk type"

/-- `disk_xml`. -/
def diskXml (dominfo : Domain) : Except String (List Node) :=
  devicesXml diskXmlOf dominfo.devDisk

/-! ### Network interfaces -/

/-- `set_net_vsi`. -/
def setNetVsi (dev : VsiDevice) : Node :=
  let parameters :=
    if dev.vsiType = some "802.1Qbh" then optProp "profileid" dev.profileId
    else optProp "managerid" dev.managerId ++ optProp "typeid" dev.typeId ++
      optProp "typeidversion" dev.typeIdVersion ++ optProp "instanceid" dev.instanceId
  .elem "virtualport" (prop "type" dev.vsiType) [.elem "parameters" parameters []]

/-- `set_net_source`. -/
def setNetSource (dev : NetDevice) (srcType : String) : Except String (List Node) :=
  match dev.source with
  | none => .error xmlError
  | some source =>
    if srcType = "direct" then
      .ok [.elem "source" ([("dev", source)] ++ optProp "mode" dev.netMode) []]
    else .ok [.elem "source" [(srcType, source)] []]

/-- `bridge_net_to_xml`: scripts are for Xen guests. -/
def bridgeNetToXml (dev : NetDevice) (domtype : DomainType) : Except String (List Node) := do
  let source ← setNetSource dev "bridge"
  if domtype = .xenpv ∨ domtype = .xenfv then
    .ok (.elem "script" [("path", "vif-bridge")] [] :: source)
  else .ok source

/-- What depends on the type of the interface. With a virtual port, a missing source
goes unnoticed. -/
def netTypeXml (net : NetDevice) (domtype : DomainType) : Except String (List Node) :=
  if net.type = some "network" then setNetSource net "network"
  else if net.type = some "bridge" then bridgeNetToXml net domtype
  else if net.type = some "user" then .ok []
  else if net.type = some "direct" then
    if net.vsi.vsiType = none then setNetSource net "direct"
    else .ok ((setNetSource net "direct").toOption.getD [] ++ [setNetVsi net.vsi])
  else .error "Unknown interface type"

/-- The bandwidth of an interface: a value of zero is none. -/
def bandwidthXml (net : NetDevice) : List Node :=
  let rate (key : String) (value : UInt64) : List (String × String) :=
    if value = 0 then [] else [(key, toString value.toNat)]
  if net.reservation = 0 ∧ net.limit = 0 then []
  else [.elem "bandwidth" []
    [.elem "inbound" (rate "average" net.reservation ++ rate "peak" net.limit) []]]

/-- The body of `net_xml`. -/
def netXmlOf (domtype : DomainType) (net : NetDevice) : Except String (List Node) := do
  let rest ← netTypeXml net domtype
  .ok [.elem "interface" (prop "type" net.type)
    (optChild "mac" "address" net.mac ++ optChild "target" "dev" net.device ++
      optChild "model" "type" net.model ++ optChild "filterref" "filter" net.filterRef ++
      bandwidthXml net ++ deviceAddressXml net.address ++ rest)]

/-- `net_xml`. -/
def netXml (dominfo : Domain) : Except String (List Node) :=
  devicesXml (netXmlOf dominfo.type) dominfo.devNet

/-! ### Consoles -/

/-- The children of a console that depend on its type. -/
def consoleSourceXml (cdev : ConsoleDevice) : List Node :=
  let sd := cdev.sourceDev
  match cdev.sourceType with
  | .pty => optChild "source" "path" sd.path
  | .dev | .file | .pipe => [.elem "source" (prop "path" sd.path) []]
  | .unixsock => [.elem "source" (prop "mode" sd.unixsockMode ++ prop "path" sd.path) []]
  | .udp =>
    [.elem "source" ([("mode", "bind")] ++ prop "host" sd.udpBindHost ++
        optProp "service" sd.udpBindService) [],
      .elem "source" ([("mode", "connect")] ++ prop "host" sd.udpConnectHost ++
        optProp "service" sd.udpConnectService) []]
  | .tcp =>
    .elem "source" (prop "mode" sd.tcpMode ++ prop "host" sd.tcpHost ++
        optProp "service" sd.tcpService) [] ::
      optChild "protocol" "type" sd.tcpProtocol
  | .null | .vc | .stdio | .spicevmc => []

/-- The body of `console_xml`. -/
def consoleXmlOf (cdev : ConsoleDevice) : Except String (List Node) :=
  .ok [.elem "console" (prop "type" (chardevSourceTypeIDToStr cdev.sourceType))
    (consoleSourceXml cdev ++ optChild "target" "type" cdev.targetType)]

/-- `console_xml`. -/
def consoleXml (dominfo : Domain) : Except String (List Node) :=
  devicesXml consoleXmlOf dominfo.devConsole

/-! ### Graphics -/

/-- `graphics_vnc_xml`. -/
def graphicsVncXml (dev : GraphicsDevice) : Node :=
  let attrs :=
    if streqc (dev.type.getD "") "sdl" then
      optProp "display" dev.display ++ optProp "xauth" dev.xauth ++
        optProp "fullscreen" dev.fullscreen
    else
      let port :=
        match dev.port with
        | none => []
        | some port =>
          [("port", port), ("autoport", if streqc port "-1" then "yes" else "no")]
      port ++ optProp "listen" dev.host ++ optProp "passwd" dev.passwd ++
        optProp "keymap" dev.keymap
  .elem "graphics" (prop "type" dev.type ++ attrs) []

/-- The body of `graphics_xml`: consoles among the graphics are not written here. -/
def graphicsXmlOf (dev : GraphicsDevice) : Except String (List Node) :=
  if streqc (dev.type.getD "") "vnc" ∨ streqc (dev.type.getD "") "sdl" then
    .ok [graphicsVncXml dev]
  else .ok []

/-- `graphics_xml`. -/
def graphicsXml (dominfo : Domain) : Except String (List Node) :=
  devicesXml graphicsXmlOf dominfo.devGraphics

/-! ### Input devices and controllers -/

/-- The body of `input_xml`. -/
def inputXmlOf (dev : InputDevice) : Except String (List Node) :=
  .ok [.elem "input" (prop "type" dev.type ++ prop "bus" dev.bus) []]

/-- `input_xml`. -/
def inputXml (dominfo : Domain) : Except String (List Node) :=
  devicesXml inputXmlOf dominfo.devInput

/-- The body of `controller_xml`. -/
def controllerXmlOf (cdev : ControllerDevice) : Except String (List Node) :=
  match controllerProtocolTypeIDToStr cdev.type with
  | none => .error xmlError
  | some typeStr =>
    -- if the index is missing, libvirt generates it
    let index :=
      if cdev.index = controllerIndexNotSet then []
      else [("index", toString cdev.index.toNat)]
    .ok [.elem "controller"
      ([("type", typeStr)] ++ index ++ optProp "model" cdev.model ++
        optProp "ports" cdev.ports ++ optProp "vectors" cdev.vectors)
      (optChild "driver" "queueus" cdev.queues ++ deviceAddressXml cdev.address)]

/-- `controller_xml`. -/
def controllerXml (dominfo : Domain) : Except String (List Node) :=
  devicesXml controllerXmlOf dominfo.devController

/-! ### The document -/

section Document

variable (nodeContent : String → List Node)

/-- `xmlNewChild`. -/
def xmlNewChild (name : String) (content : Option String) : Node :=
  .elem name [] (content.elim [] nodeContent)

/-- `xmlNewChild`, when there is a content. -/
def optContent (name : String) (content : Option String) : List Node :=
  content.toList.map fun s => xmlNewChild nodeContent name (some s)

/-- `vcpu_xml`. -/
def vcpuXml (dominfo : Domain) : List Node :=
  match dominfo.devVcpu.head? with
  | none => []
  | some vcpu => [xmlNewChild nodeContent "vcpu" (some (toString vcpu.dev.quantity.toNat))]

/-- `cputune_xml`. The weight is printed as a signed number. -/
def cputuneXml (dominfo : Domain) : List Node :=
  match dominfo.devVcpu.head? with
  | none => []
  | some vcpu =>
    [.elem "cputune" []
      [xmlNewChild nodeContent "shares" (some (toString vcpu.dev.weight.toInt32.toInt))]]

/-- The attribute `dumpCore`. -/
def dumpCoreProp : DumpCore → List (String × String)
  | .notSet => []
  | .on => [("dumpCore", "on")]
  | .off => [("dumpCore", "off")]

/-- `mem_xml`. -/
def memXml (dominfo : Domain) : List Node :=
  match dominfo.devMem.head? with
  | none => []
  | some mem =>
    [xmlNewChild nodeContent "currentMemory" (some (toString mem.dev.size.toNat)),
      .elem "memory" (dumpCoreProp mem.dev.dumpCore)
        (nodeContent (toString mem.dev.maxsize.toNat))]

/-- `emu_xml`. -/
def emuXml (dominfo : Domain) : List Node :=
  match dominfo.devEmu.head? with
  | none => []
  | some emu => [xmlNewChild nodeContent "emulator" emu.dev.path]

/-- `vssd_recovery_action_str`. -/
def vssdRecoveryActionStr (action : UInt16) : String :=
  if action = cimVssdRecoveryNone then "destroy"
  else if action = cimVssdRecoveryRestart then "restart"
  else if action = cimVssdRecoveryPreserve then "preserve"
  else "destroy"

theorem vssdRecoveryActionStr_mem (action : UInt16) :
    vssdRecoveryActionStr action ∈ ["destroy", "restart", "preserve"] := by
  unfold vssdRecoveryActionStr
  split_ifs <;> simp

/-- `system_xml`. -/
def systemXml (domain : Domain) (uuid : String) : List Node :=
  [xmlNewChild nodeContent "name" domain.name] ++
    optContent nodeContent "bootloader" domain.bootloader ++
    optContent nodeContent "bootloader_args" domain.bootloaderArgs ++
    [xmlNewChild nodeContent "on_poweroff" (some (vssdRecoveryActionStr domain.onPoweroff)),
      xmlNewChild nodeContent "on_crash" (some (vssdRecoveryActionStr domain.onCrash)),
      xmlNewChild nodeContent "uuid" (some uuid)] ++
    optChild "clock" "offset" domain.clock

/-- `_xenpv_os_xml`. -/
def xenpvOsXml (os : OsInfo) : List Node :=
  [xmlNewChild nodeContent "type" (some (os.type.getD "linux")),
    xmlNewChild nodeContent "kernel" (some (os.kernel.getD "/dev/null")),
    xmlNewChild nodeContent "initrd" os.initrd,
    xmlNewChild nodeContent "cmdline" os.cmdline]

/-- `_fv_bootlist_xml`, on the list or its default. -/
def fvBootlistXml (os : OsInfo) : List Node :=
  let bootlist := if os.bootlist = [] then [some "hd"] else os.bootlist
  bootlist.map fun dev => .elem "boot" (prop "dev" dev) []

/-- `_xenfv_os_xml`. -/
def xenfvOsXml (os : OsInfo) : List Node :=
  [xmlNewChild nodeContent "type" (some (os.type.getD "hvm")),
    xmlNewChild nodeContent "loader" (some (os.loader.getD "/usr/lib/xen/boot/hvmloader"))] ++
    fvBootlistXml os

/-- `_kvm_os_xml`. -/
def kvmOsXml (os : OsInfo) : List Node :=
  .elem "type" (optProp "arch" os.arch ++ optProp "machine" os.machine)
    (nodeContent (os.type.getD "hvm")) :: fvBootlistXml os

/-- `_lxc_os_xml`. -/
def lxcOsXml (os : OsInfo) : List Node :=
  [xmlNewChild nodeContent "init" os.init,
    xmlNewChild nodeContent "type" (some (os.type.getD "exe"))]

/-- `os_xml`. -/
def osXml (domain : Domain) : Except String Node :=
  match domain.type with
  | .xenpv => .ok (.elem "os" [] (xenpvOsXml nodeContent domain.osInfo))
  | .xenfv => .ok (.elem "os" [] (xenfvOsXml nodeContent domain.osInfo))
  | .kvm | .qemu => .ok (.elem "os" [] (kvmOsXml nodeContent domain.osInfo))
  | .lxc => .ok (.elem "os" [] (lxcOsXml nodeContent domain.osInfo))
  | .unknown | .unsupported => .error "Unsupported domain type"

/-- `features_xml`. -/
def featuresXml (domain : Domain) : Node :=
  .elem "features" []
    (flagXml domain.acpi "acpi" ++ flagXml domain.apic "apic" ++ flagXml domain.pae "pae")

/-- The `devices` element, with the console libvirt expects of a container. -/
def devicesElementXml (dominfo : Domain) : Except String Node := do
  let disks ← diskXml dominfo
  let nets ← netXml dominfo
  let inputs ← inputXml dominfo
  let consoles ← consoleXml dominfo
  let graphics ← graphicsXml dominfo
  let controllers ← controllerXml dominfo
  let lxc := if dominfo.type = .lxc then [Node.elem "console" [("type", "pty")] []] else []
  .ok (.elem "devices" [] (disks ++ nets ++ inputs ++ consoles ++ graphics ++
    emuXml nodeContent dominfo ++ controllers ++ lxc))

/-- The attribute `type` of a domain. -/
def domtype (dominfo : Domain) : String :=
  match dominfo.type with
  | .xenpv | .xenfv => "xen"
  | .kvm => "kvm"
  | .qemu => "qemu"
  | .lxc => "lxc"
  | .unknown | .unsupported => "unknown"

/-- `system_to_xml`; `newUuid` is what `uuid_generate` gives a domain without one. -/
def systemToXml (newUuid : String) (dominfo : Domain) : Except String Node := do
  let os ← osXml nodeContent dominfo
  let devices ← devicesElementXml nodeContent dominfo
  .ok (.elem "domain" [("type", domtype dominfo)]
    (systemXml nodeContent dominfo (dominfo.uuid.getD newUuid) ++
      [os, featuresXml dominfo] ++ memXml nodeContent dominfo ++ vcpuXml nodeContent dominfo ++
      cputuneXml nodeContent dominfo ++ [devices]))

end Document

end LibvirtCim.Device
