import LibvirtCim.Capability.Defaults
import LibvirtCim.Service.BootOrder
import LibvirtCim.Service.Resources
import Mathlib.Logic.Function.Basic

/-!
# Defining systems and changing their settings

`ModifySystemSettings`, which sets up the parsed domain from the settings of the system
and defines it anew, and `DefineSystem`, which starts from a cleared domain or from a copy
of another one and collects the devices from the settings it is given.

A definition concerns all domains of a host, so that `DefineSystem` works on a `World`.
-/

open Framework LibvirtCim.CapabilityParsing LibvirtCim.Device LibvirtCim.Rasd

namespace LibvirtCim.Service

/-- What the settings of a system depend on besides themselves. -/
structure SystemHost where
  /-- `connect_by_classname` -/
  connect : Bool
  /-- `use_kvm` -/
  useKvm : Bool
  /-- `get_default_arch` for `hvm` -/
  defaultArch : Option String
  /-- `get_default_machine` for an architecture and a type of domain -/
  defaultMachine : Option String → String → Option String
  /-- `get_default_emulator` -/
  defaultEmulator : Option String → String → Option String
  /-- `XEN_EMULATOR` -/
  xenEmulator : String

/-- The host of `get_capabilities`, which may fail. No lookup crashes, as no name is missing. -/
def SystemHost.ofCapabilities (caps : Option NamedCapabilities)
    (connect disableKvm : Bool) (xenEmulator : String) : SystemHost where
  connect := connect
  useKvm :=
    (CapabilityParsing.useKvm (NamedCapabilities.pointer caps) disableKvm).get
      (isSome_useKvm caps disableKvm)
  defaultArch :=
    (getDefaultArch (NamedCapabilities.pointer caps) (some "hvm")).get
      (isSome_getDefaultArch caps "hvm")
  defaultMachine arch domtype :=
    (getDefaultMachine (NamedCapabilities.pointer caps) (some "hvm") arch (some domtype)).get
      (isSome_getDefaultMachine caps _ _ _)
  defaultEmulator arch domtype :=
    (getDefaultEmulator (NamedCapabilities.pointer caps) (some "hvm") arch (some domtype)).get
      (isSome_getDefaultEmulator caps _ _ _)
  xenEmulator := xenEmulator

/-- Capabilities without defaults. -/
def simpleSystemHost : SystemHost where
  connect := true
  useKvm := true
  defaultArch := none
  defaultMachine _ _ := none
  defaultEmulator _ _ := none
  xenEmulator := "/usr/lib/xen/bin/qemu-dm"

variable {Live : Type} (env : Env Live) (sys : SystemHost)

/-! ### The settings of a system -/

/-- `xenpv_vssd_to_domain`. -/
def xenpvVssdToDomain (inst : Instance) (domain : Domain) : Domain :=
  { domain with
    type := .xenpv
    bootloader := inst.getStr "Bootloader"
    bootloaderArgs := inst.getStr "BootloaderArgs"
    osInfo := { domain.osInfo with
      kernel := inst.getStr "Kernel"
      initrd := inst.getStr "Ramdisk"
      cmdline := inst.getStr "CommandLine" } }

/-- `fv_set_emulator`. -/
def fvSetEmulator (domain : Domain) (emu : Option String) : Domain :=
  match if domain.type = .xenfv then emu.or (some sys.xenEmulator) else emu with
  | none => domain
  | some emu => { domain with
      devEmu := [{ type := .emu, dev := { path := some emu }, id := some "emulator" }] }

/-- The type of a fully virtualized domain, and its name for the capabilities. -/
def fvDomainType (pfx : String) : Option (DomainType × Option String) :=
  if streqc pfx "KVM" then
    some (if sys.useKvm then (.kvm, some "kvm") else (.qemu, some "qemu"))
  else if streqc pfx "Xen" then some (.xenfv, none)
  else none

/-- The property `BootDevices`. -/
def bootDevices (inst : Instance) : BootDevices :=
  match inst.getArray "BootDevices" with
  | none => .absent
  | some elems => .array (elems.map fun elem => elem.elim .null fun str => .string (some str))

/-- The strings of the property, if none is null. -/
theorem mapM_chars_map (elems : List (Option String)) :
    (elems.map fun elem => elem.elim BootElem.null fun str => .string (some str)).mapM
      BootElem.chars = elems.mapM id := by
  induction elems with
  | nil => rfl
  | cons elem elems ih =>
    rw [List.map_cons, List.mapM_cons, List.mapM_cons, ih]
    cases elem <;> rfl

/-- `fv_vssd_to_domain`. The loader is not set; in a domain that was a paravirtual one its
place holds the command line. The boot list is that of `bootord_vssd_to_domain`
(`bootordVssdToDomain_replace`): a domain has an array when its list has entries. -/
def fvVssdToDomain (inst : Instance) (domain : Domain) : Option Domain := do
  let (type, domtype) ← fvDomainType sys inst.pfx
  let bootlist ← (bootDevices inst).replace domain.osInfo.bootlist
  let arch := (inst.getStr "Arch").or sys.defaultArch
  let machine := (inst.getStr "Machine").or (domtype.bind (sys.defaultMachine arch))
  let emu := (inst.getStr "Emulator").or (domtype.bind (sys.defaultEmulator arch))
  if emu.any fun path => env.host.diskTypeFromFile path = .unknown then none
  else
    let os := domain.osInfo
    some (fvSetEmulator sys { domain with
      type
      osInfo := { os with
        arch, machine
        loader := if domain.type = .xenpv then os.cmdline else os.loader
        bootlist } } emu)

/-- `lxc_vssd_to_domain`. -/
def lxcVssdToDomain (inst : Instance) (domain : Domain) : Domain :=
  { domain with
    type := .lxc
    osInfo := { domain.osInfo with init := some ((inst.getStr "InitPath").getD "/bin/false") } }

/-- `VSSD_CLOCK_*`. -/
def vssdClocks : List (UInt16 × String) :=
  [(0, "utc"), (1, "localtime")]

/-- The settings that all types of domains have. -/
def commonVssdToDomain (inst : Instance) (name : String) (domain : Domain) : Domain :=
  let fullvirt := (inst.getBool "IsFullVirt").getD false
  let kvm := streqc inst.pfx "KVM"
  { domain with
    name := some name
    uuid := (inst.getStr "UUID").or domain.uuid
    onPoweroff := (inst.getU16 "AutomaticShutdownAction").getD 0
    onCrash := (inst.getU16 "AutomaticRecoveryAction").getD cimVssdRecoveryNone
    acpi := (inst.getBool "EnableACPI").getD (fullvirt || kvm)
    apic := (inst.getBool "EnableAPIC").getD (fullvirt && !kvm)
    pae := (inst.getBool "EnablePAE").getD (fullvirt && !kvm) }

/-- The clock of a system. -/
def clockVssdToDomain (inst : Instance) (domain : Domain) : Option Domain :=
  match inst.getU16 "ClockOffset" with
  | none => some domain
  | some offset =>
    (vssdClocks.lookup offset).map fun clock => { domain with clock := some clock }

/-- `vssd_to_domain`. Without a name it leaves the domain alone and succeeds; for an
unknown prefix it succeeds if there is no recovery action, whose status it returns. -/
def vssdToDomain (inst : Instance) (domain : Domain) : Option Domain :=
  match inst.getStr "VirtualSystemIdentifier" with
  | none => some domain
  | some name => do
    let domain ← clockVssdToDomain inst (commonVssdToDomain inst name domain)
    if (inst.getBool "IsFullVirt").getD false || streqc inst.pfx "KVM" then
      if sys.connect then fvVssdToDomain env sys inst domain else none
    else if streqc inst.pfx "Xen" then some (xenpvVssdToDomain inst domain)
    else if streqc inst.pfx "LXC" then some (lxcVssdToDomain inst domain)
    else if (inst.getU16 "AutomaticRecoveryAction").isNone then some domain
    else none

/-- The domain keeps its UUID, unless the settings have another one. -/
def keepUuid (name uuid : String) (domain : Domain) : Except Failure Domain :=
  match domain.uuid with
  | none => .ok { domain with uuid := some uuid }
  | some new =>
    if new = "" then .ok { domain with uuid := some uuid }
    else if uuid = new then .ok domain
    else .error (.failed (name ++ " is already defined with UUID " ++ uuid ++
      " - cannot change UUID to the UUID specified " ++ new))

/-- The domain of `update_system_settings` when it is written. -/
def updatedDomain (vssd : Instance) (name : String) (dominfo : Domain) : Except Failure Domain :=
  match dominfo.uuid with
  | none => .error .crash
  | some uuid =>
    match vssdToDomain env sys vssd dominfo with
    | none => .error (.failed "Invalid SystemSettings")
    | some dominfo => keepUuid name uuid dominfo

/-- `update_system_settings`. If no document can be generated it succeeds and does
nothing. -/
def updateSystemSettings (vssd : Instance) : Request Live Unit :=
  match vssd.getStr "VirtualSystemIdentifier" with
  | none => .fail (.status .noSuchProperty "Missing VirtualSystemIdentifier")
  | some name => do
    let connected ← .ofExcept (connectByClassname env .request env.refcn)
    if connected then
      .require (env.calls.lookup .request)
        (.status .notFound ("Referenced domain `" ++ name ++ "' does not exist"))
      let dominfo ← getDominfo env
        (.failed ("Unable to find existing domain `" ++ name ++ "' to modify"))
      let dominfo ← .ofExcept (updatedDomain env sys vssd name dominfo)
      match systemToXml env.nodeContent env.newUuid dominfo with
      | .error _ => pure ()
      | .ok doc => do
        let _ ← connectAndCreate env (some doc)
        pure ()

/-! ### The devices of a new system -/

/-- `STREQC` of two ids. -/
def sameId (a b : Option String) : Bool :=
  match a, b with
  | some a, some b => streqc a b
  | _, _ => false

theorem sameId_symm {a b : Option String} (h : sameId a b) : sameId b a := by
  cases a with
  | none => cases b <;> cases h
  | some a =>
    cases b with
    | none => cases h
    | some b =>
      rw [sameId, streqc_comm]
      exact h

theorem sameId_trans {a b c : Option String} (h : sameId a b) (h' : sameId b c) :
    sameId a c := by
  cases a with
  | none => cases b <;> cases h
  | some a =>
    cases b with
    | none => cases h
    | some b =>
      cases c with
      | none => cases h'
      | some c => exact (streqc_congr h c).trans h'

/-- Both are disks on the same target. -/
def sameTarget : {kind : DevKind} → kind.Dev → kind.Dev → Bool
  | .disk, dev, dev' => sameId dev.virtualDev dev'.virtualDev
  | _, _, _ => false

/-- `add_device_nodup`: the device replaces the one of its id, or is added. There is always
a slot left. -/
def addDeviceNodup {kind : DevKind} (dev : VirtDevice kind.Dev) :
    List (VirtDevice kind.Dev) → Except RasdError (List (VirtDevice kind.Dev))
  | [] => .ok [dev]
  | ptr :: list =>
    if sameTarget ptr.dev dev.dev then .error ("VirtualDevice property must be unique for each " ++
      "DiskResourceAllocationSettingData in a single guest" : String)
    else if sameId ptr.id dev.id then .ok (dev :: list)
    else (ptr :: ·) <$> addDeviceNodup dev list

/-- The types of which a system has one device. -/
def isSingle : DevKind → Bool
  | .proc | .mem | .input => true
  | _ => false

/-- A new device in the list of its type: a console is added without a look at the others. -/
def addDevice {kind : DevKind} (dev : VirtDevice kind.Dev) (list : List (VirtDevice kind.Dev)) :
    Except RasdError (List (VirtDevice kind.Dev)) :=
  if kind = .console then .ok (list ++ [dev]) else addDeviceNodup dev list

/-- One round of `classify_resources`, for a setting of the type `kind`. -/
def classifyResource (host : Host) (domain : Domain) (inst : Instance) (kind : DevKind) :
    Except RasdError Domain :=
  let new : VirtDevice kind.Dev := { dev := kind.zero }
  if isSingle kind then do
    -- the first slot is set up anew and becomes the only one
    let dev ← rasdToVdev host domain.type inst kind ((domain.list kind).head?.getD new)
    .ok (domain.setList kind [dev])
  else do
    let dev ← rasdToVdev host domain.type inst kind new
    let list ← addDevice dev (domain.list kind)
    .ok (domain.setList kind list)

/-- `classify_resources`. A setting for a storage volume is passed over. -/
def classifyResources (host : Host) (resources : List Instance) (domain : Domain) :
    Except RasdError Domain :=
  if resources = [] then .error ("No resources specified" : String)
  else resources.foldlM (fun domain inst =>
    match resTypeFromRasdClassname inst with
    | none => .error ("Unable to determine resource type" : String)
    | some .image => .ok domain
    | some (.dev kind) => classifyResource host domain inst kind) domain

/-- A KVM or QEMU guest of an architecture without graphics. -/
def isS390 (domain : Domain) : Bool :=
  (domain.type = .kvm || domain.type = .qemu) &&
    (domain.osInfo.arch = some "s390" || domain.osInfo.arch = some "s390x")

/-- `default_console_device`. -/
def defaultConsoleDevice (domain : Domain) : Domain :=
  if isS390 domain then
    let consoletype := if domain.osInfo.machine = some "s390-ccw-virtio" then "sclp" else "virtio"
    { domain with devConsole :=
      [{ type := .console, dev := { sourceType := .pty, targetType := some consoletype } }] }
  else domain

/-- `default_graphics_device`. -/
def defaultGraphicsDevice (domain : Domain) : Domain :=
  if domain.type = .lxc || isS390 domain then domain
  else { domain with devGraphics :=
    [{ type := .graphics
       dev :=
        { type := some "vnc", port := some "-1", host := some "127.0.0.1"
          keymap := some "en-us" } }] }

/-- `default_input_device`. -/
def defaultInputDevice (domain : Domain) : Domain :=
  if domain.type = .lxc || isS390 domain then domain
  else
    let bus := if domain.type = .xenpv then "xen" else "ps2"
    { domain with devInput :=
      [{ type := .input, dev := { type := some "mouse", bus := some bus } }] }

/-- `add_default_devs`. -/
def addDefaultDevs (domain : Domain) : Domain :=
  let domain :=
    if domain.devGraphics = [] ∧ domain.devConsole = [] then
      defaultGraphicsDevice (defaultConsoleDevice domain)
    else domain
  if domain.devInput = [] then defaultInputDevice domain else domain

/-! ### Requests to a host -/

/-- The domains of a host, by name. -/
abbrev World (Live : Type) : Type := String → Option (Guest Live)

/-- A request to the host. -/
abbrev HostRequest (Live α : Type) : Type := Effect (World Live) Failure α

/-- A request on the domain of a name. -/
def onDomain {α : Type} (name : String) (missing : Failure) (m : Request Live α) :
    HostRequest Live α := fun w =>
  match w name with
  | none => (.error missing, w)
  | some g => ((m g).1, Function.update w name (some (m g).2))

/-- `virDomainLookupByName` fails. -/
def noSuchDomain (name : String) : Failure :=
  .status .notFound ("Referenced domain `" ++ name ++ "' does not exist")

/-- The copy of the domain of a name with the unique bits taken out: the name, the UUID, and
the address of the first interface, which has to be there. The id of that interface stays. -/
def scrub (name : String) (mac : Option String) (domain : Domain) : Except Failure Domain :=
  match domain.devNet with
  | [] => .error .crash
  | net :: nets =>
    match mac with
    | none => .error (.status .invalidParameter
        ("Unable to generate a MAC address for guest " ++ name))
    | some mac => .ok { domain with
        name := none
        uuid := none
        devNet := { net with dev := { net.dev with mac := some mac } } :: nets }

/-- `virDomainDefineXML` for a domain of a name, which may be new. -/
def defineDomain (stopped : Live) (name : String) (doc : Option Node) : HostRequest Live Bool :=
  .call fun w =>
    match doc.bind env.lv.defineXML with
    | none => (false, w)
    | some config =>
      let live := ((w name).map Guest.live).getD stopped
      (true, Function.update w name (some { live, config }))

/-- `check_uuid_in_use`; `guestOfUuid` is the name of the domain that has a UUID. -/
def checkUuidInUse (guestOfUuid : Option String → Option String) (domain : Domain) :
    Except Failure Unit :=
  match connectByClassname env .uuid env.refcn with
  | .ok true =>
    match guestOfUuid domain.uuid with
    | none => .ok ()
    | some guest => .error (.failed ("Guest '" ++ guest ++ "' is already defined with UUID " ++
        formatStr domain.uuid))
  | _ => .error (.failed "Error connecting to libvirt")

/-- The domain of `create_system` when it is written. -/
def newDomain (guestOfUuid : Option String → Option String) (vssd : Instance)
    (resources : List Instance) (domain : Domain) : Except Failure Domain :=
  match vssdToDomain env sys vssd domain with
  | none => .error (.failed "SystemSettings Error")
  | some domain => do
    checkUuidInUse env guestOfUuid domain
    match classifyResources env.host resources domain with
    | .error e => .error (.failed
        ("ResourceSettings Error: " ++ e.msg ++ ", " ++ formatStr e.detail))
    | .ok domain => .ok (addDefaultDevs domain)

/-- One setting of `_update_resource_settings`, for the domain of a name. -/
def updateItem (action : ResourceAction) (name : String) (devid : Option String)
    (rasd : Instance) : HostRequest Live Unit := do
  .require (env.calls.lookup .request) (noSuchDomain name)
  onDomain name (noSuchDomain name) (updateResourcesFor env action devid rasd)

/-- `get_instanceid`. -/
def getInstanceid (rasd : Instance) : Except Failure (String × String) :=
  match rasd.getStr "InstanceID" with
  | none => .error (.status .invalidParameter "Missing InstanceID in RASD")
  | some id =>
    match parseFqDevid id with
    | none => .error (.status .invalidParameter ("Invalid InstanceID `" ++ id ++ "'"))
    | some names => .ok names

/-- One setting of a request, with what its processing depends on. -/
structure Item (Live : Type) where
  env : Env Live
  rasd : Instance

/-- `add_resource_settings`, for the domain of a name. -/
def addResourceSettings (domain : String) (resources : List (Item Live)) :
    HostRequest Live Unit := do
  .require ((connectByClassname env .request env.refcn).toOption.getD false)
    (.failed "Unable to connect to hypervisor")
  resources.forM fun item => updateItem item.env .add domain none item.rasd

/-- `mod_resource_settings`. -/
def modResourceSettings (resources : List (Item Live)) : HostRequest Live Unit := do
  .require ((connectByClassname env .request env.refcn).toOption.getD false)
    (.failed "Unable to connect to hypervisor")
  resources.forM fun item => do
    let (name, devid) ← .ofExcept (getInstanceid item.rasd)
    updateItem item.env .mod name (some devid) item.rasd

/-- `rasd_refs_to_insts`, for one reference: without an id or a type there is no setting,
and no error. -/
def rasdRefToInst (ref : Instance) : Except Failure (Option Instance) :=
  match ref.getStr "InstanceID", resTypeFromRasdClassname ref with
  | some id, some type => some <$> getRasdByName env id type
  | _, _ => .ok none

/-- The loop of `rasd_refs_to_insts`: the status, which each reference sets anew, and the array
with the settings that are found. -/
def refsLoop : List (Item Live) → Except Failure Unit × List (Option Instance) →
    Except Failure Unit × List (Option Instance)
  | [], st => st
  | item :: rest, (_, slots) =>
    match rasdRefToInst item.env item.rasd with
    | .ok inst => refsLoop rest (.ok (), slots ++ [inst])
    | .error .crash => (.error .crash, slots)
    | .error e => refsLoop rest (.error e, slots ++ [none])

/-- The status of `rasd_refs_to_insts`. -/
def rasdRefsToInsts (resources : List (Item Live)) : Except Failure Unit :=
  (refsLoop resources (.ok (), [])).1

/-- `rm_resource_settings`. A setting that is missing is met when it is its turn. -/
def rmResourceSettings (resources : List (Item Live)) : HostRequest Live Unit := do
  .ofExcept (rasdRefsToInsts resources)
  .require ((connectByClassname env .request env.refcn).toOption.getD false)
    (.failed "Unable to connect to hypervisor")
  resources.forM fun item =>
    match rasdRefToInst item.env item.rasd with
    | .ok (some rasd) => do
      let (name, devid) ← .ofExcept (getInstanceid rasd)
      updateItem item.env .del name (some devid) rasd
    | _ => .fail .crash

end LibvirtCim.Service
