import LibvirtCim.Device.Kind
import LibvirtCim.Device.Parse
import LibvirtCim.Framework.Fold

/-!
# Parsing domains

`get_dominfo_from_xml`: a domain from the tree of its description. The settings of the
system are read by walking the children of the root, the devices are selected by XPath
expressions, whose results are in document order.
-/

open Framework

namespace LibvirtCim.Device

/-! ### Selecting nodes -/

/-- The elements of some names among nodes. -/
def elems (names : List String) (nodes : List Node) : List Node :=
  nodes.filter fun node => names.any fun name => node.isElem name

/-- `/domain/NAME | ...`. -/
def domainXPath (root : Node) (names : List String) : List Node :=
  if root.isElem "domain" then elems names root.children else []

/-- `/domain/devices/NAME | ...`. -/
def devicesXPath (root : Node) (names : List String) : List Node :=
  (domainXPath root ["devices"]).flatMap fun devices => elems names devices.children

/-- The names in the XPath expression for a device type. -/
def xpathNames : DevKind → List String
  | .disk => ["disk", "filesystem"]
  | .proc => ["vcpu"]
  | .net => ["interface"]
  | .mem => ["memory", "currentMemory"]
  | .console => ["console"]
  | .graphics => ["graphics", "console"]
  | .input => ["input"]
  | .controller => ["controller"]

/-- The nodes for a device type. -/
def xpathNodes (root : Node) : DevKind → List Node
  | .proc => domainXPath root (xpathNames .proc)
  | .mem => domainXPath root (xpathNames .mem)
  | kind => devicesXPath root (xpathNames kind)

/-- The parser for a device type. -/
def doRealParse : (kind : DevKind) → Node → Except Stop (VirtDevice kind.Dev)
  | .disk => parseDiskDevice
  | .proc => parseVcpuDevice
  | .net => parseNetDevice
  | .mem => parseMemDevice
  | .console => parseConsoleDevice
  | .graphics => parseGraphicsDevice
  | .input => parseInputDevice
  | .controller => parseControllerDevice

/-- `parse_devices`. -/
def parseDevices (root : Node) (kind : DevKind) : Except Stop (List (VirtDevice kind.Dev)) :=
  doParse (doRealParse kind) (xpathNodes root kind)

/-- `_get_mem_device`: the sizes of two devices are merged into one. -/
def getMemDevice (mdevs : List (VirtDevice MemDevice)) : List (VirtDevice MemDevice) :=
  match mdevs with
  | [] => []
  | [a, b] =>
    [{ type := .mem
       dev :=
         { size := max a.dev.size b.dev.size
           maxsize := max a.dev.maxsize b.dev.maxsize
           dumpCore := if a.dev.dumpCore ≠ .notSet then a.dev.dumpCore else b.dev.dumpCore }
       id := some "mem" }]
  | a :: _ =>
    let size := max a.dev.size a.dev.maxsize
    [{ type := .mem, dev := { size, maxsize := size, dumpCore := a.dev.dumpCore },
       id := some "mem" }]

/-! ### The settings of the system -/

/-- The content of the first child of a name. -/
def firstContent (node : Node) (name : String) : Option String :=
  (node.children.find? fun child => child.name = name).map getNodeContent

/-- The content of the last child of a name, which replaces an earlier value. -/
def lastContent (node : Node) (name : String) (old : Option String) : Option String :=
  (((node.children.filter fun child => child.name = name).getLast?).map getNodeContent).or old

/-- The first attribute of a name among the children of a name. -/
def firstAttr (node : Node) (name attrname : String) : Option String :=
  node.children.findSome? fun child =>
    if child.name = name then getAttrValue child attrname else none

/-- The type of a domain, from the type of its system and its own. -/
def domainTypeOf (ostype typestr : String) : DomainType :=
  if streqc ostype "hvm" ∧ streqc typestr "xen" then .xenfv
  else if streqc typestr "kvm" then .kvm
  else if streqc typestr "qemu" then .qemu
  else if streqc typestr "lxc" then .lxc
  else if streqc ostype "linux" then .xenpv
  else .unsupported

/-- `parse_os`. -/
def parseOs (dominfo : Domain) (os : Node) : Except Stop Domain :=
  let info := { dominfo.osInfo with type := lastContent os "type" dominfo.osInfo.type }
  match info.type, dominfo.typestr with
  | some ostype, some typestr =>
    let type := domainTypeOf ostype typestr
    let info :=
      match type with
      | .xenfv | .kvm | .qemu => { info with
          loader := firstContent os "loader"
          arch := firstAttr os "type" "arch"
          machine := firstAttr os "type" "machine"
          bootlist := (os.children.filter fun child => child.name = "boot").map
            (getAttrValue · "dev") }
      | .xenpv => { info with
          kernel := firstContent os "kernel"
          initrd := firstContent os "initrd"
          cmdline := firstContent os "cmdline" }
      | .lxc => { info with init := firstContent os "init" }
      | .unknown | .unsupported => info
    .ok { dominfo with type, osInfo := info }
  | _, _ => .error .fault

/-- `parse_features`. -/
def parseFeatures (dominfo : Domain) (features : Node) : Domain :=
  let has (name : String) : Bool := features.children.any fun child => child.name = name
  { dominfo with
    acpi := dominfo.acpi || has "acpi"
    apic := dominfo.apic || has "apic"
    pae := dominfo.pae || has "pae" }

/-- `set_action`. -/
def setAction (child : Node) : UInt16 :=
  let action := getNodeContent child
  if action = "destroy" then cimVssdRecoveryNone
  else if action = "preserve" then cimVssdRecoveryPreserve
  else if action = "restart" then cimVssdRecoveryRestart
  else cimVssdRecoveryNone

/-- The children of a `domain`. -/
def parseDomainChild (dominfo : Domain) (child : Node) : Except Stop Domain :=
  let content := some (getNodeContent child)
  if child.name = "name" then .ok { dominfo with name := content }
  else if child.name = "uuid" then .ok { dominfo with uuid := content }
  else if child.name = "bootloader" then .ok { dominfo with bootloader := content }
  else if child.name = "bootloader_args" then .ok { dominfo with bootloaderArgs := content }
  else if child.name = "os" then parseOs dominfo child
  else if child.name = "on_poweroff" then .ok { dominfo with onPoweroff := setAction child }
  else if child.name = "on_reboot" then .ok { dominfo with onReboot := setAction child }
  else if child.name = "on_crash" then .ok { dominfo with onCrash := setAction child }
  else if child.name = "clock" then .ok { dominfo with clock := getAttrValue child "offset" }
  else if child.name = "features" then .ok (parseFeatures dominfo child)
  else .ok dominfo

/-- `parse_domain`, which takes the first node of a result that is empty if the root has
another name. -/
def parseDomain (root : Node) : Except Stop Domain :=
  if root.isElem "domain" then
    root.children.foldlM parseDomainChild { typestr := getAttrValue root "type" }
  else .error .fault

/-- `get_dominfo_from_xml`. -/
def getDominfoFromXml (root : Node) : Except Stop Domain := do
  let dominfo ← parseDomain root
  let devEmu ← doParse parseEmuDevice (devicesXPath root ["emulator"])
  let devGraphics ← parseDevices root .graphics
  let devConsole ← parseDevices root .console
  let devInput ← parseDevices root .input
  let mdevs ← parseDevices root .mem
  let devNet ← parseDevices root .net
  let devDisk ← parseDevices root .disk
  let devVcpu ← parseDevices root .proc
  let devController ← parseDevices root .controller
  .ok { dominfo with
    devEmu, devGraphics, devConsole, devInput, devMem := getMemDevice mdevs, devNet, devDisk
    devVcpu, devController }

/-- **Each list holds the devices of its nodes**, but for the merged memory device. -/
theorem list_getDominfoFromXml {root : Node} {dominfo : Domain}
    (h : getDominfoFromXml root = .ok dominfo) {kind : DevKind} (hmem : kind ≠ .mem) :
    parseDevices root kind = .ok (dominfo.list kind) := by
  -- the steps of the parser in their order, each of which has to succeed
  obtain ⟨scalars, -, h⟩ := bind_eq_ok h
  obtain ⟨devEmu, -, h⟩ := bind_eq_ok h
  obtain ⟨devGraphics, hgraphics, h⟩ := bind_eq_ok h
  obtain ⟨devConsole, hconsole, h⟩ := bind_eq_ok h
  obtain ⟨devInput, hinput, h⟩ := bind_eq_ok h
  obtain ⟨mdevs, -, h⟩ := bind_eq_ok h
  obtain ⟨devNet, hnet, h⟩ := bind_eq_ok h
  obtain ⟨devDisk, hdisk, h⟩ := bind_eq_ok h
  obtain ⟨devVcpu, hvcpu, h⟩ := bind_eq_ok h
  obtain ⟨devController, hcontroller, h⟩ := bind_eq_ok h
  cases h
  -- the memory is merged afterwards, every other list is taken as it is read
  cases kind with
  | net => exact hnet
  | disk => exact hdisk
  | mem => exact absurd rfl hmem
  | proc => exact hvcpu
  | graphics => exact hgraphics
  | input => exact hinput
  | console => exact hconsole
  | controller => exact hcontroller

/-- **A parsed domain** taken apart: its settings, the emulator and the memory. -/
theorem getDominfoFromXml_ok {root : Node} {dominfo : Domain}
    (h : getDominfoFromXml root = .ok dominfo) :
    ∃ settings mdevs, parseDomain root = .ok settings ∧
      doParse parseEmuDevice (devicesXPath root ["emulator"]) = .ok dominfo.devEmu ∧
      parseDevices root .mem = .ok mdevs ∧ dominfo.devMem = getMemDevice mdevs ∧
      dominfo = { settings with
        devEmu := dominfo.devEmu
        devGraphics := dominfo.devGraphics
        devConsole := dominfo.devConsole
        devInput := dominfo.devInput
        devMem := dominfo.devMem
        devNet := dominfo.devNet
        devDisk := dominfo.devDisk
        devVcpu := dominfo.devVcpu
        devController := dominfo.devController } := by
  -- the same steps; what is not a device list comes from the first
  obtain ⟨settings, hsettings, h⟩ := bind_eq_ok h
  obtain ⟨devEmu, hemu, h⟩ := bind_eq_ok h
  obtain ⟨devGraphics, -, h⟩ := bind_eq_ok h
  obtain ⟨devConsole, -, h⟩ := bind_eq_ok h
  obtain ⟨devInput, -, h⟩ := bind_eq_ok h
  obtain ⟨mdevs, hmem, h⟩ := bind_eq_ok h
  obtain ⟨devNet, -, h⟩ := bind_eq_ok h
  obtain ⟨devDisk, -, h⟩ := bind_eq_ok h
  obtain ⟨devVcpu, -, h⟩ := bind_eq_ok h
  obtain ⟨devController, -, h⟩ := bind_eq_ok h
  cases h
  exact ⟨settings, mdevs, hsettings, hemu, hmem, rfl, rfl⟩

/-- A list is parsed unless a node crashes the parser. -/
theorem exists_doParse {α : Type} {f : Node → Except Stop (VirtDevice α)} {nodes : List Node}
    (h : ∀ node ∈ nodes, f node ≠ .error .fault) : ∃ devs, doParse f nodes = .ok devs := by
  induction nodes with
  | nil => exact ⟨[], rfl⟩
  | cons node nodes ih =>
    rw [List.forall_mem_cons] at h
    obtain ⟨devs, hdevs⟩ := ih h.2
    rw [doParse]
    cases hnode : f node with
    | ok dev => exact ⟨dev :: devs, by rw [hdevs]; rfl⟩
    | error stop =>
      cases stop with
      | reject => exact ⟨devs, hdevs⟩
      | fault => exact absurd hnode h.1

end LibvirtCim.Device
