import LibvirtCim.Framework.Listing
import LibvirtCim.Pool.PoolOperations
import LibvirtCim.Rasd.FromVdev

/-!
# Templates of settings

`Virt_SettingsDefineCapabilities.c`: for the allocation capabilities of a pool the provider
makes up settings a client may start from. There is a block of them for each of the four kinds
`SDC_RASD_*`: the smallest values, the largest ones, the default and the steps between.

The functions are those of the source, one for each type of resource. A function that adds to
the list of the provider is a `Listing`. The templates of a network or of a disk depend on the
pool: for a primordial one they describe pools, for any other one devices.
-/

open Framework Framework.Listing LibvirtCim.Device LibvirtCim.Pool LibvirtCim.Rasd

namespace LibvirtCim.SettingsDefineCapabilities

/-- `sdc_rasd_type`. -/
inductive SdcRasdType
  | min | max | default | inc
  deriving DecidableEq, Repr

/-- The values the loop over `SDC_RASD_*` takes, in their order. -/
def sdcRasdTypes : List SdcRasdType := [.min, .max, .default, .inc]

/-- What the templates of a kind are called. -/
def SdcRasdType.id : SdcRasdType → String
  | .min => "Minimum"
  | .max => "Maximum"
  | .default => "Default"
  | .inc => "Increment"

/-- A storage volume, as libvirt shows it. -/
structure VolumeView where
  /-- `virStorageVolGetInfo`: capacity and allocation -/
  info : Option (UInt64 × UInt64)
  /-- `virStorageVolGetPath` -/
  path : Option String

/-- A storage pool, as libvirt shows it. -/
structure StorageView where
  /-- `get_disk_pool` -/
  config : Option DiskPool
  /-- `virStoragePoolNumOfVolumes` -/
  numOfVolumes : Option ℕ
  /-- `virStoragePoolListVolumes`, for at most so many -/
  listVolumes : ℕ → Option (List String)
  /-- `virStorageVolLookupByName` -/
  volumeNamed : String → Option VolumeView

/-- What the templates depend on besides the reference. -/
structure SdcHost where
  view : PoolView
  /-- `virStoragePoolLookupByName` -/
  storageNamed : String → Option StorageView
  /-- `virConnectGetMaxVcpus`, unless it is `-1` -/
  maxVcpus : Option UInt64
  /-- `virConnectGetVersion` -/
  version : Option ℕ
  /-- `MAX_MEM` -/
  maxMem : UInt64
  /-- `XEN_MAX_NICS` -/
  xenMaxNics : UInt64
  /-- `KVM_MAX_NICS` -/
  kvmMaxNics : UInt64
  /-- `cu_validate_ref`, on the keys -/
  validateRef : String → String → Bool

/-- Settings, or a refusal behind those that are there already. -/
abbrev Templates := Listing Refusal Instance

/-- `sdc_rasd_inst`. -/
def sdcRasdInst (pfx base : String) (resourceType : UInt16) : Instance :=
  ({ pfx, base } : Instance).set "ResourceType" (.uint16 resourceType)

/-- `sdc_rasd_inst` with `DEVICE_RASD`. -/
def deviceInst (pfx : String) (kind : DevKind) : Instance :=
  sdcRasdInst pfx (baseOfKind kind) (UInt16.ofNat kind.number)

/-- `pool_rasd_classname_from_type`, for the two types that have one. -/
def poolBase : DevKind → String
  | .disk => "DiskPoolResourceAllocationSettingData"
  | _ => "NetPoolResourceAllocationSettingData"

/-- `sdc_rasd_inst` with `POOL_RASD`. -/
def poolInst (pfx : String) (kind : DevKind) : Instance :=
  sdcRasdInst pfx (poolBase kind) (UInt16.ofNat kind.number)

section Templates

variable (host : SdcHost) (pfx : String) (t : SdcRasdType)

/-! ### Memory and processors -/

/-- The sizes of `mem_template`, in kilobytes. -/
def memSize : SdcRasdType → UInt64
  | .min => (64 : UInt64) <<< 10
  | .max => host.maxMem
  | .inc => (1 : UInt64) <<< 10
  | .default => (256 : UInt64) <<< 10

/-- `mem_template`. -/
def memTemplate : Instance :=
  deviceInst pfx .mem
    |>.set "InstanceID" (.string t.id)
    |>.set "AllocationUnits" (.string "KiloBytes")
    |>.set "VirtualQuantity" (.uint64 (memSize host t))
    |>.set "Limit" (.uint64 (memSize host t))

/-- The counts of `proc_template`, with `get_max_procs`. -/
def numProcs : SdcRasdType → UInt64
  | .min => 0
  | .max => host.maxVcpus.getD 1
  | .inc => 1
  | .default => 1

/-- The limits of `proc_template`. -/
def procLimit : SdcRasdType → UInt64
  | .min => 1
  | .max => 0
  | .inc => 50
  | .default => 0

/-- `*_XEN_WEIGHT`. -/
def xenWeight : SdcRasdType → UInt32
  | .min => 1
  | .max => 65535
  | .inc => 65535 / 2
  | .default => 1024

/-- `*_KVM_WEIGHT`. -/
def kvmWeight : SdcRasdType → UInt32
  | .min => 2
  | .max => 262144
  | .inc => 1
  | .default => 1024

/-- `proc_template`. -/
def procTemplate : Instance :=
  let inst := deviceInst pfx .proc
    |>.set "InstanceID" (.string t.id)
    |>.set "AllocationUnits" (.string "Processors")
    |>.set "VirtualQuantity" (.uint64 (numProcs host t))
  let classname := pfx ++ "_AllocationCapabilities"
  if LibvirtCim.startsWith classname "Xen" then
    inst
      |>.set "Limit" (.uint64 (procLimit t))
      |>.set "Weight" (.uint32 (xenWeight t))
  else if LibvirtCim.startsWith classname "KVM" then inst.set "Weight" (.uint32 (kvmWeight t))
  else inst

/-! ### Networks -/

/-- `net_max_xen`. -/
def netMaxXen : Option UInt64 :=
  host.version.map fun version => if version ≥ 3001000 then host.xenMaxNics else 4

/-- `get_max_nics`. -/
def getMaxNics : Except Refusal UInt64 :=
  if streqc pfx "Xen" then
    match netMaxXen host with
    | some nics => .ok nics
    | none => .error (.failed, "Could not get max nic count")
  else if streqc pfx "KVM" then .ok host.kvmMaxNics
  else .error (.notSupported, "Unsupported hypervisor: '" ++ pfx ++ "'")

/-- What the interfaces of a template have in common. -/
structure NetAmounts where
  numNics : UInt64
  reservation : UInt64 := 0
  limit : UInt64 := 0

/-- What sets the interfaces of a template apart. -/
structure NetProps where
  netType : String
  netName : Option String := none
  device : Option String := none
  srcDev : Option String := none
  netMode : Option String := none
  model : Option String := none
  vsi : Option String := none
  manager : Option String := none
  typeid : Option String := none
  version : Option String := none
  instance_ : Option String := none
  profile : Option String := none

/-- `set_net_props`. A limit is written as the reservation. -/
def setNetProps (amounts : NetAmounts) (props : NetProps) : Instance :=
  deviceInst pfx .net
    |>.set "NetworkType" (.string props.netType)
    |>.setChars "NetworkName" props.netName
    |>.set "InstanceID" (.string t.id)
    |>.set "VirtualQuantity" (.uint64 amounts.numNics)
    |>.setIf (amounts.reservation ≠ 0) "Reservation" (.uint64 amounts.reservation)
    |>.setIf (amounts.limit ≠ 0) "Limit" (.uint64 amounts.reservation)
    |>.setIf (amounts.reservation ≠ 0 ∨ amounts.limit ≠ 0) "AllocationUnits"
      (.string "KiloBytes per Second")
    |>.setChars "VirtualDevice" props.device
    |>.setChars "NetworkMode" props.netMode
    |>.setChars "SourceDevice" props.srcDev
    |>.setChars "ResourceSubType" props.model
    |>.setChars "VSIType" props.vsi
    |>.setChars "VSIManagerID" props.manager
    |>.setChars "VSITypeID" props.typeid
    |>.setChars "VSITypeIDVersion" props.version
    |>.setChars "VSIInstanceID" props.instance_
    |>.setChars "ProfileID" props.profile

/-- The interfaces of `net_template`: the two loops, and those of type `direct`. -/
def netProps : List NetProps :=
  ([("network", none), ("bridge", some "br0"), ("user", none)].flatMap fun (netType, netName) =>
    [(some "vtap1", some "e1000"), (none, none)].map fun (device, model) =>
      ({ netType, netName, device, model } : NetProps)) ++
  [{ netType := "direct", srcDev := some "eth1", netMode := some "vepa" },
    -- profile id
    { netType := "direct", srcDev := some "eth1", netMode := some "vepa", vsi := some "802.1Qbh"
      profile := some "my_profile" },
    -- no profile id but with instance id
    { netType := "direct", srcDev := some "eth1", netMode := some "vepa", vsi := some "802.1Qbg"
      manager := some "managerid", typeid := some "typeid", version := some "typeidversion"
      instance_ := some "instanceid" },
    -- no profile id and no instance id
    { netType := "direct", srcDev := some "eth1", netMode := some "vepa", vsi := some "802.1Qbg"
      manager := some "managerid", typeid := some "typeid", version := some "typeidversion"
      instance_ := some "NULL", profile := some "NULL" }]

/-- The amounts of `net_template`: there is no largest reservation and no largest limit. -/
def netAmounts : SdcRasdType → Except Refusal NetAmounts
  | .min => .ok { numNics := 0, reservation := 1, limit := 1 }
  | .max => (getMaxNics host pfx).map fun numNics => { numNics }
  | .inc => .ok { numNics := 1, reservation := 1, limit := 1 }
  | .default => .ok { numNics := 1 }

/-- `net_template`. -/
def netTemplate : Templates :=
  match netAmounts host pfx t with
  | .error e => fail e
  | .ok amounts => add (netProps.map (setNetProps pfx t amounts))

/-- `set_net_pool_props`, for one of its devices. -/
def netPoolProps (forwardMode : UInt16) (forwardDevice : Bool) : Instance :=
  poolInst pfx .net
    |>.set "InstanceID" (.string t.id)
    |>.set "Address" (.string "192.168.122.1")
    |>.set "Netmask" (.string "255.255.255.0")
    |>.set "IPRangeStart" (.string "192.168.122.2")
    |>.set "IPRangeEnd" (.string "192.168.122.254")
    |>.set "ForwardMode" (.uint16 forwardMode)
    |>.setIf forwardDevice "ForwardDevice" (.string "eth0")

/-- `set_net_pool_props`: isolated pools have no device to forward to. -/
def setNetPoolProps (forwardMode : UInt16) : List Instance :=
  if forwardMode = 0 then [netPoolProps pfx t forwardMode false]
  else [netPoolProps pfx t forwardMode false, netPoolProps pfx t forwardMode true]

/-- `net_pool_template`. -/
def netPoolTemplate : Templates :=
  add ([0, 1, 2].flatMap (setNetPoolProps pfx t))

/-- `net_dev_or_pool_template`. -/
def netDevOrPoolTemplate (poolid : String) : Templates :=
  match getPoolByName host.view poolid with
  | none => fail (.failed, "Unable to get pool instance from capabilities")
  | some pool => if pool.primordial then netPoolTemplate pfx t else netTemplate host pfx t

/-! ### Disks -/

/-- `set_disk_props`. Units are given under the name of another property. -/
def setDiskProps (domtype : DomainType) (id diskPath : String) (diskSize : UInt64)
    (emuType : UInt16) (readonly shareable : Bool) (cache : String) : Instance :=
  let inst := deviceInst pfx .disk
    |>.set "InstanceID" (.string id)
    |>.set "AllocationQuantity" (.string "MegaBytes")
    |>.set "Address" (.string diskPath)
  if domtype = .lxc then inst.set "MountPoint" (.string "/lxc_mnt/tmp")
  else
    let dev :=
      if emuType = 4 then "sda"
      else if emuType = 1 then "hdc"
      else if emuType = 2 then "fda"
      else if domtype = .xenpv then "xvda"
      else "hda"
    inst
      |>.setIf (domtype = .xenpv) "Caption" (.string "PV disk")
      |>.setIf (domtype = .xenfv) "Caption" (.string "FV disk")
      |>.setIf (emuType = 0 ∨ emuType = 4) "VirtualQuantity" (.uint64 diskSize)
      |>.set "VirtualDevice" (.string dev)
      |>.set "EmulatedType" (.uint16 emuType)
      |>.setIf readonly "readonly" (.boolean true)
      |>.setIf shareable "shareable" (.boolean true)
      |>.set "cache" (.string cache)

/-- The types of the domains of a hypervisor the disks of which are full or paravirtual. -/
def diskDomains : Option (List DomainType) :=
  if pfx = "Xen" then some [.xenfv, .xenpv]
  else if pfx = "KVM" then some [.kvm]
  else none

/-- `cdrom_or_floppy_template`. -/
def cdromOrFloppyTemplate (emuType : UInt16) : Templates :=
  let id := t.id ++ " " ++ if emuType = 1 then "CDROM" else "floppy"
  match diskDomains pfx with
  | some domtypes =>
    add (domtypes.map fun domtype =>
      setDiskProps pfx domtype id "/dev/null" 0 emuType true false "none")
  | none =>
    if pfx = "LXC" then add []
    else fail (.failed, "Unsupported virtualization type")

/-- `default_disk_template`, as it is called: for containers. -/
def defaultDiskTemplate : Templates :=
  add [setDiskProps pfx .lxc t.id "/tmp" 0 0 true false "none"]

/-- An image that is made anew, of the type of the pool it is made in. -/
def newVolumeInst (path units : Option String) : Instance :=
  sdcRasdInst pfx "StorageVolumeResourceAllocationSettingData" 32768
    |>.set "InstanceID" (.string ("New Storage Volume " ++ t.id))
    |>.set "FormatType" (.uint16 1)
    |>.set "VolumeName" (.string "tmp.img")
    |>.setChars "Path" path
    |>.set "AllocationQuantity" (.uint16 0)
    |>.set "Capacity" (.uint16 0)
    |>.setChars "AllocationUnits" units

/-- `_new_volume_template`. -/
def newVolumeTemplateOf (storage : StorageView) (units : Option String) : Templates :=
  match storage.config with
  | none => fail (.failed, "Error getting referenced configuration")
  | some pool =>
    if pool.poolType = .dir then add [newVolumeInst pfx t pool.path units]
    -- image creation for this pool type is not supported
    else add []

/-- `new_volume_template`. -/
def newVolumeTemplate (storage : StorageView) : Templates :=
  (newVolumeTemplateOf pfx t storage none).andThen (newVolumeTemplateOf pfx t storage (some "G"))

/-- The sizes of `avail_volume_template`. -/
def volSize (capacity allocation : UInt64) : SdcRasdType → UInt64
  | .min => if 2000 > capacity then capacity else 2000
  | .max => capacity
  | .inc => 250
  | .default => allocation

/-- `avail_volume_template`. -/
def availVolumeTemplate (volume : VolumeView) : Templates :=
  match volume.info with
  | none => add []
  | some (capacity, allocation) =>
    match volume.path with
    | none => fail (.failed, "Unable to get volume path")
    | some volPath =>
      match diskDomains pfx with
      | some domtypes =>
        add (domtypes.map fun domtype =>
          setDiskProps pfx domtype t.id volPath (volSize capacity allocation t) 0 false false
            "none")
      | none => fail (.failed, "Unsupported virtualization type")

/-- The blanks in the texts that go on in the next line. -/
def continued : String := String.ofList (List.replicate 32 ' ')

/-- The volumes `disk_template` goes through. -/
def volumeNames (storage : StorageView) (poolname : String) : Except Refusal (List String) :=
  match storage.numOfVolumes with
  | none => .error (.failed, "Unable to get the number of volumes " ++ continued ++
      "of storage pool `" ++ poolname ++ "'")
  | some numvols =>
    match storage.listVolumes numvols with
    | none => .error (.failed, "Unable to get a pointer to volumes " ++ continued ++
        "of storage pool `" ++ poolname ++ "'")
    | some names => .ok names

/-- The body of the loop of `disk_template`. -/
def volumeTemplate (storage : StorageView) (volname : String) : Templates :=
  match storage.volumeNamed volname with
  | none => fail (.notFound, "Storage Volume `" ++ volname ++ "' not found")
  | some volume => availVolumeTemplate pfx t volume

/-- `disk_template` from the storage pool on. -/
def storageTemplate (storage : StorageView) (poolname : String) : Templates :=
  (newVolumeTemplate pfx t storage).andThen
    (match volumeNames storage poolname with
      | .error e => fail e
      | .ok names =>
        (forEach (volumeTemplate pfx t storage) names).andThen
          ((cdromOrFloppyTemplate pfx t 1).andThen (cdromOrFloppyTemplate pfx t 2)))

/-- `disk_template`. -/
def diskTemplate (instid : String) : Templates :=
  if pfx = "LXC" then defaultDiskTemplate pfx t
  else
    match scanPoolName instid with
    | none => fail (.failed, "Unable to get pool device id")
    | some poolname =>
      match host.storageNamed poolname with
      | none => fail (.notFound, "Storage pool `" ++ poolname ++ "' not found")
      | some storage => storageTemplate pfx t storage poolname

/-- What a template has for a type of storage pool: its device path, its server, the directory
there, the adapter with its two names, and the path. -/
structure DiskPoolProps where
  type : UInt16
  devPath : Option String := none
  host : Option String := none
  srcDir : Option String := none
  adapter : Option String := none
  portName : Option String := none
  nodeName : Option String := none
  path : String := "/dev/null"

/-- The types of `disk_pool_template`. -/
def diskPoolProps : List DiskPoolProps :=
  [{ type := 1 },
    { type := 2, devPath := some "/dev/sda100" },
    { type := 3, host := some "host_sys.domain.com", srcDir := some "/var/lib/images" },
    { type := 4, devPath := some "/dev/VolGroup00/LogVol100" },
    { type := 5, host := some "host_sys.domain.com", devPath := some "iscsi-target" },
    { type := 6 },
    { type := 7, adapter := some "host0", portName := some "0000111122223333"
      nodeName := some "4444555566667777", path := "/dev/disk/by-id" }]

/-- Whether a pool of a template is started with the host. -/
def autostart : SdcRasdType → UInt16
  | .min => 0
  | .max => 1
  | .inc => 1
  | .default => 0

/-- The body of the loop of `disk_pool_template`. -/
def setDiskPoolProps (props : DiskPoolProps) : Instance :=
  let inst := (poolInst pfx .disk).set "InstanceID" (.string t.id)
  (match props.devPath with
    | none => inst
    | some devPath => inst.set "DevicePaths" (.stringA [some devPath]))
    |>.setChars "Host" props.host
    |>.setChars "SourceDirectory" props.srcDir
    |>.setChars "AdapterName" props.adapter
    |>.setChars "PortName" props.portName
    |>.setChars "NodeName" props.nodeName
    |>.set "Type" (.uint16 props.type)
    |>.set "Path" (.string props.path)
    |>.set "Autostart" (.uint16 (autostart t))

/-- `disk_pool_template`. -/
def diskPoolTemplate : Templates :=
  add (diskPoolProps.map (setDiskPoolProps pfx t))

/-- `disk_res_template`. -/
def diskResTemplate (poolid : String) : Templates :=
  match getPoolByName host.view poolid with
  | none => fail (.failed, "Unable to get pool instance from capabilities")
  | some pool => if pool.primordial then diskPoolTemplate pfx t else diskTemplate host pfx t poolid

/-! ### Displays and input devices -/

/-- `set_graphics_props`. -/
def setGraphicsProps (type : String) (addr : Option String) : Instance :=
  deviceInst pfx .graphics
    |>.set "InstanceID" (.string t.id)
    |>.setChars "Address" addr
    |>.setIf (streqc type "vnc") "KeyMap" (.string "en-us")
    |>.set "ResourceSubType" (.string type)

/-- The addresses of `graphics_template`. -/
def graphicsAddr : List (Option String) :=
  [none, some "127.0.0.1:-1", some "[::1]:-1", some "True", some "False"]

/-- `graphics_template`: the loop over the addresses, at `i * j`, is left after one round for
the type at `0`. -/
def graphicsTemplate : Templates :=
  add (([("sdl", 0, [1]), ("vnc", 1, [1, 2, 3, 4])] : List (String × ℕ × List ℕ)).flatMap
    fun (type, i, js) => js.map fun j =>
      setGraphicsProps pfx t type (graphicsAddr.getD (i * j) none))

/-- `set_input_props`. -/
def setInputProps (type bus : String) (caption : Option String) : Instance :=
  let cap := getInputDevCaption type bus
  deviceInst pfx .input
    |>.set "InstanceID" (.string t.id)
    |>.set "ResourceSubType" (.string type)
    |>.set "BusType" (.string bus)
    |>.set "Caption" (.string (caption.elim cap fun caption => caption ++ " " ++ cap))

/-- The tables of `input_template`. -/
def inputsOf : Option (List (String × String × Option String)) :=
  if pfx = "Xen" then
    some [("mouse", "ps2", some "FV"), ("mouse", "usb", some "FV"), ("mouse", "xen", some "PV")]
  else if pfx = "KVM" then
    some [("mouse", "ps2", none), ("mouse", "usb", none), ("tablet", "usb", none)]
  else if pfx = "LXC" then some [("mouse", "usb", none)]
  else none

/-- `input_template`. -/
def inputTemplate : Templates :=
  match inputsOf pfx with
  | some inputs => add (inputs.map fun (type, bus, caption) => setInputProps pfx t type bus caption)
  | none => fail (.failed, "Unsupported guest type")

end Templates

/-! ### All types -/

/-- The body of the loop of `sdc_rasds_for_type`. -/
def templatesOf (host : SdcHost) (pfx id : String) (type : DevKind) (t : SdcRasdType) :
    Templates :=
  match type with
  | .mem => add [memTemplate host pfx t]
  | .proc => add [procTemplate host pfx t]
  | .net => netDevOrPoolTemplate host pfx t id
  | .disk => diskResTemplate host pfx t id
  | .graphics => graphicsTemplate pfx t
  | .input => inputTemplate pfx t
  | .controller | .console => fail (.failed, "Unsupported resource type")

/-- `sdc_rasds_for_type`. -/
def sdcRasdsForType (host : SdcHost) (pfx id : String) (type : DevKind) : Templates :=
  forEach (templatesOf host pfx id type) sdcRasdTypes

/-- `get_alloc_cap_by_id`, by the pool. -/
def getAllocCapById (host : SdcHost) (id : String) : Option PoolInstance := do
  let pool ← getPoolByName host.view id
  if host.validateRef id pool.id then some pool else none

/-- `alloc_cap_to_rasd`. -/
def allocCapToRasd (host : SdcHost) (pfx id : String) : Templates :=
  match getAllocCapById host id with
  | none => fail (.notFound, "No such instance (" ++ id ++ ")")
  | some _ =>
    match resTypeFromPoolId id with
    | none => fail (.failed, "Unable to determine resource type")
    | some type => (sdcRasdsForType host pfx id type).map (·.set "PoolID" (.string id))

/-! ### Roles -/

/-- `SDC_ROLE_*`, `SDC_RANGE_*` and `SDC_POLICY_*` of a reference. -/
structure ValueRole where
  valueRole : ℕ
  valueRange : ℕ
  propertyPolicy : ℕ := 0
  deriving DecidableEq, Repr

/-- `make_ref_valuerole`: what is set on the reference to a template. -/
def makeRefValuerole (inst : Instance) : Option ValueRole :=
  (inst.getStr "InstanceID").bind fun iid =>
    if strstr iid "Default" then some { valueRole := 0, valueRange := 0 }
    else if strstr iid "Point" then some { valueRole := 3, valueRange := 0 }
    else if strstr iid "Increment" then some { valueRole := 3, valueRange := 3 }
    else if strstr iid "Maximum" then some { valueRole := 3, valueRange := 2 }
    else if strstr iid "Minimum" then some { valueRole := 3, valueRange := 1 }
    else none

/-- The role and the range of a kind of templates. -/
def SdcRasdType.valueRole : SdcRasdType → ValueRole
  | .min => { valueRole := 3, valueRange := 1 }
  | .max => { valueRole := 3, valueRange := 2 }
  | .default => { valueRole := 0, valueRange := 0 }
  | .inc => { valueRole := 3, valueRange := 3 }

end LibvirtCim.SettingsDefineCapabilities
