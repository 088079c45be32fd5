import LibvirtCim.Device.Document
import LibvirtCim.Framework.Decimal
import LibvirtCim.Framework.WellFormed

/-!
# Well-formed elements of devices

Which texts of a device its generator writes, all of them as values of attributes:
`deviceTexts`, and the address. The elements of a device are well formed if and only if
these texts are made of XML characters and the address can be written as attributes.
-/

open Framework

namespace LibvirtCim.Device

/-! ### Texts and attributes -/

/-- A text that is not there, or is made of XML characters. -/
def OptText (text : Option String) : Prop :=
  ∀ s ∈ text, XmlText s

@[simp] theorem optText_none : OptText none := nofun

@[simp] theorem optText_some {s : String} : OptText (some s) ↔ XmlText s := by
  simp [OptText]

theorem xmlText_empty : XmlText "" := by
  simp [XmlText]

/-- A value that is not there is written as an empty one. -/
@[simp] theorem xmlText_getD (text : Option String) : XmlText (text.getD "") ↔ OptText text := by
  cases text <;> simp [xmlText_empty]

/-- The notation of a number is made of digits. -/
theorem xmlText_repr (n : ℕ) : XmlText n.repr := by
  intro c hc
  have hdigit : c.isDigit = true := isDigit_of_mem_repr hc
  have hle : 48 ≤ c.toNat ∧ c.toNat ≤ 57 := by
    simpa [Char.isDigit, UInt32.le_iff_toNat_le] using hdigit
  have hchar : (32 ≤ c.toNat && c.toNat ≠ 0xFFFE && c.toNat ≠ 0xFFFF) = true := by
    simp only [Bool.and_eq_true, decide_eq_true_eq]
    omega
  rw [isXmlChar, hchar, Bool.or_true]

@[simp] theorem mem_keys_prop {key key' : String} {value : Option String} :
    key ∈ keys (prop key' value) ↔ key = key' := by
  simp [prop, keys]

@[simp] theorem mem_keys_optProp {key key' : String} {value : Option String} :
    key ∈ keys (optProp key' value) ↔ value.isSome ∧ key = key' := by
  cases value <;> simp [optProp, keys]

theorem attrsWellFormed_prop_append {key : String} {value : Option String}
    {attrs : List (String × String)} : AttrsWellFormed (prop key value ++ attrs) ↔
      XmlName key ∧ OptText value ∧ key ∉ keys attrs ∧ AttrsWellFormed attrs := by
  rw [← xmlText_getD]
  exact attrsWellFormed_cons

theorem attrsWellFormed_prop {key : String} {value : Option String} :
    AttrsWellFormed (prop key value) ↔ XmlName key ∧ OptText value := by
  rw [← List.append_nil (prop key value), attrsWellFormed_prop_append]
  simp [attrsWellFormed_nil]

theorem attrsWellFormed_optProp_append {key : String} {value : Option String}
    {attrs : List (String × String)} : AttrsWellFormed (optProp key value ++ attrs) ↔
      (∀ s ∈ value, XmlName key ∧ XmlText s ∧ key ∉ keys attrs) ∧ AttrsWellFormed attrs := by
  cases value with
  | none => simp [optProp]
  | some s => simp [optProp, attrsWellFormed_cons, and_assoc]

theorem attrsWellFormed_optProp {key : String} {value : Option String} :
    AttrsWellFormed (optProp key value) ↔ ∀ s ∈ value, XmlName key ∧ XmlText s := by
  rw [← List.append_nil (optProp key value), attrsWellFormed_optProp_append]
  simp [attrsWellFormed_nil]

/-- A child with one attribute, when it has a value. -/
theorem wellFormed_optChild {name key : String} (hname : XmlName name) (hkey : XmlName key)
    (value : Option String) :
    (∀ node ∈ optChild name key value, node.WellFormed) ↔ OptText value := by
  cases value with
  | none => simp [optChild]
  | some s => simp [optChild, Node.wellFormed_elem, attrsWellFormed_cons, attrsWellFormed_nil,
      hname, hkey]

/-- An element without attributes. -/
theorem wellFormed_flagXml {name : String} (hname : XmlName name) (flag : Bool) :
    ∀ node ∈ flagXml flag name, node.WellFormed := by
  cases flag <;> simp [flagXml, Node.wellFormed_elem, attrsWellFormed_nil, hname]

theorem wellFormed_deviceAddressXml {addr : DeviceAddress} :
    (∀ node ∈ deviceAddressXml addr, node.WellFormed) ↔ AttrsWellFormed addr := by
  unfold deviceAddressXml
  split
  · next h =>
    rw [h]
    exact iff_of_true nofun attrsWellFormed_nil
  · have hname : XmlName "address" := by decide
    simp [Node.wellFormed_elem, hname]

/-! ### Devices -/

/-- The texts of the driver of a disk. -/
def driverTexts (disk : DiskDevice) : List (Option String) :=
  if disk.driver = none then [] else [disk.driver, disk.driverType, disk.cache]

/-- The texts of a virtual port. -/
def vsiTexts (vsi : VsiDevice) : List (Option String) :=
  if vsi.vsiType = none then []
  else if vsi.vsiType = some "802.1Qbh" then [vsi.vsiType, vsi.profileId]
  else [vsi.vsiType, vsi.managerId, vsi.typeId, vsi.typeIdVersion, vsi.instanceId]

/-- The texts that depend on the type of an interface. -/
def netTypeTexts (net : NetDevice) : List (Option String) :=
  if net.type = some "user" then []
  else if net.type = some "direct" then
    (if net.source = none then [] else [net.source, net.netMode]) ++ vsiTexts net.vsi
  else [net.source]

/-- The texts of the source of a console. -/
def consoleSourceTexts (cdev : ConsoleDevice) : List (Option String) :=
  let sd := cdev.sourceDev
  match cdev.sourceType with
  | .pty | .dev | .file | .pipe => [sd.path]
  | .unixsock => [sd.unixsockMode, sd.path]
  | .udp => [sd.udpBindHost, sd.udpBindService, sd.udpConnectHost, sd.udpConnectService]
  | .tcp => [sd.tcpMode, sd.tcpHost, sd.tcpService, sd.tcpProtocol]
  | .null | .vc | .stdio | .spicevmc => []

/-- The texts of a device that are written. -/
def deviceTexts : (kind : DevKind) → kind.Dev → List (Option String)
  | .disk, disk =>
    match disk.diskType with
    | .phy => [disk.device, disk.rawio, disk.sgio] ++ driverTexts disk ++
        [disk.source, disk.virtualDev, disk.busType]
    | .file => [disk.device] ++ driverTexts disk ++ [disk.source, disk.virtualDev, disk.busType]
    | .fs => [disk.accessMode, disk.driverType, disk.source, disk.virtualDev]
    | .unknown => []
  | .net, net => [net.mac, net.device, net.model, net.filterRef] ++ netTypeTexts net
  | .console, cdev => consoleSourceTexts cdev ++ [cdev.targetType]
  | .graphics, gdev =>
    if streqc (gdev.type.getD "") "sdl" then
      [gdev.type, gdev.display, gdev.xauth, gdev.fullscreen]
    else if streqc (gdev.type.getD "") "vnc" then
      [gdev.type, gdev.port, gdev.host, gdev.passwd, gdev.keymap]
    else []
  | .input, idev => [idev.type, idev.bus]
  | .controller, cdev => [cdev.model, cdev.ports, cdev.vectors, cdev.queues]
  | .mem, _ | .proc, _ => []

/-- The address of a device that is written. -/
def deviceAddress : (kind : DevKind) → kind.Dev → DeviceAddress
  | .disk, disk => disk.address
  | .net, net => net.address
  | .controller, cdev => cdev.address
  | .console, _ | .graphics, _ | .input, _ | .mem, _ | .proc, _ => []

/-- The texts of a device can be written. -/
def DeviceFit (kind : DevKind) (dev : kind.Dev) : Prop :=
  (∀ text ∈ deviceTexts kind dev, OptText text) ∧ AttrsWellFormed (deviceAddress kind dev)

/-! ### Disks -/

theorem wellFormed_diskDriverXml {disk : DiskDevice} :
    (∀ node ∈ diskDriverXml disk, node.WellFormed) ↔ ∀ text ∈ driverTexts disk, OptText text := by
  unfold diskDriverXml driverTexts
  cases disk.driver with
  | none => simp
  | some driver =>
    simp +decide [Node.wellFormed_elem, attrsWellFormed_prop_append,
      attrsWellFormed_optProp_append, attrsWellFormed_optProp, OptText]

theorem wellFormed_diskTargetXml {disk : DiskDevice} :
    (diskTargetXml disk).WellFormed ↔ OptText disk.virtualDev ∧ OptText disk.busType := by
  simp +decide [diskTargetXml, Node.wellFormed_elem, attrsWellFormed_prop_append,
    attrsWellFormed_optProp, OptText]

theorem wellFormed_diskBlockXml {disk : DiskDevice} (htype : disk.diskType = .phy) :
    (diskBlockXml disk).WellFormed ↔ DeviceFit .disk disk := by
  have hreadonly := wellFormed_flagXml (show XmlName "readonly" by decide) disk.readonly
  have hshareable := wellFormed_flagXml (show XmlName "shareable" by decide) disk.shareable
  have hname : XmlName "disk" := by decide
  -- the attributes, of which the first is fixed
  have hattrs : AttrsWellFormed ([("type", "block")] ++ optProp "device" disk.device ++
      optProp "rawio" disk.rawio ++ optProp "sgio" disk.sgio) ↔
      OptText disk.device ∧ OptText disk.rawio ∧ OptText disk.sgio := by
    simp +decide [attrsWellFormed_cons, attrsWellFormed_optProp_append, attrsWellFormed_optProp,
      OptText]
  rw [diskBlockXml, Node.wellFormed_elem, hattrs]
  simp only [List.forall_mem_append, List.forall_mem_singleton, wellFormed_diskDriverXml,
    wellFormed_deviceAddressXml, wellFormed_diskTargetXml, iff_true_intro hreadonly,
    iff_true_intro hshareable, iff_true_intro hname, DeviceFit, deviceTexts, htype, deviceAddress,
    List.forall_mem_cons]
  -- without a source there is one text less
  cases disk.source with
  | none => simp [and_assoc]
  | some source =>
    by_cases hnull : source = "/dev/null"
    · -- the name that is left out is a text of XML
      have hxml : XmlText "/dev/null" := by decide
      simp [hnull, hxml, and_assoc]
    · simp +decide [hnull, Node.wellFormed_elem, attrsWellFormed_cons, and_assoc]

theorem wellFormed_diskFileXml {disk : DiskDevice} (htype : disk.diskType = .file) :
    (diskFileXml disk).WellFormed ↔ DeviceFit .disk disk := by
  have hreadonly := wellFormed_flagXml (show XmlName "readonly" by decide) disk.readonly
  have hshareable := wellFormed_flagXml (show XmlName "shareable" by decide) disk.shareable
  have hname : XmlName "disk" := by decide
  -- a file disk has two attributes, the others are not written
  have hattrs : AttrsWellFormed ([("type", "file")] ++ optProp "device" disk.device) ↔
      OptText disk.device := by
    simp +decide [attrsWellFormed_cons, attrsWellFormed_optProp, OptText]
  rw [diskFileXml, Node.wellFormed_elem, hattrs]
  simp only [List.forall_mem_append, List.forall_mem_singleton, wellFormed_diskDriverXml,
    wellFormed_deviceAddressXml, wellFormed_diskTargetXml, iff_true_intro hreadonly,
    iff_true_intro hshareable, iff_true_intro hname, DeviceFit, deviceTexts, htype, deviceAddress,
    List.forall_mem_cons]
  -- an empty cdrom is written without its source, which is then the empty text
  split
  · next hcdrom =>
    simp [hcdrom, xmlText_empty, and_assoc]
  · simp +decide [Node.wellFormed_elem, attrsWellFormed_prop, and_assoc]

theorem wellFormed_diskFsXml {disk : DiskDevice} (htype : disk.diskType = .fs) :
    (diskFsXml disk).WellFormed ↔ DeviceFit .disk disk := by
  have hname : XmlName "filesystem" := by decide
  have hdriver := wellFormed_optChild (show XmlName "driver" by decide)
    (show XmlName "type" by decide) disk.driverType
  rw [diskFsXml, Node.wellFormed_elem]
  simp only [List.forall_mem_append, List.forall_mem_cons, hdriver, wellFormed_deviceAddressXml,
    iff_true_intro hname, DeviceFit, deviceTexts, htype, deviceAddress]
  simp +decide [Node.wellFormed_elem, attrsWellFormed_prop, attrsWellFormed_optProp, OptText,
    and_assoc]

theorem wellFormed_diskXmlOf {disk : DiskDevice} {nodes : List Node}
    (h : diskXmlOf disk = .ok nodes) :
    (∀ node ∈ nodes, node.WellFormed) ↔ DeviceFit .disk disk := by
  unfold diskXmlOf at h
  split at h
  all_goals rename_i htype
  all_goals cases h
  all_goals rw [List.forall_mem_singleton]
  · exact wellFormed_diskBlockXml htype
  · exact wellFormed_diskFileXml htype
  · exact wellFormed_diskFsXml htype

/-! ### Interfaces -/

theorem wellFormed_setNetVsi {vsi : VsiDevice} (hport : vsi.vsiType ≠ none) :
    (setNetVsi vsi).WellFormed ↔ ∀ text ∈ vsiTexts vsi, OptText text := by
  unfold setNetVsi vsiTexts
  rw [if_neg hport]
  split
  · simp +decide [Node.wellFormed_elem, attrsWellFormed_prop, attrsWellFormed_optProp, OptText]
  · simp +decide [Node.wellFormed_elem, attrsWellFormed_prop, attrsWellFormed_optProp_append,
      attrsWellFormed_optProp, OptText]

theorem wellFormed_setNetSource {net : NetDevice} {type : String} {nodes : List Node}
    (htype : XmlName type) (h : setNetSource net type = .ok nodes) :
    (∀ node ∈ nodes, node.WellFormed) ↔
      OptText net.source ∧ (type = "direct" → OptText net.netMode) := by
  unfold setNetSource at h
  split at h
  · cases h
  · next source hsource =>
    split at h <;> cases h
    · next hdirect =>
      simp +decide [Node.wellFormed_elem, attrsWellFormed_cons, attrsWellFormed_optProp, OptText,
        hsource, hdirect]
    · next hdirect =>
      simp +decide [Node.wellFormed_elem, attrsWellFormed_cons, hsource, hdirect, htype]

theorem wellFormed_netTypeXml {net : NetDevice} {domtype : DomainType} {rest : List Node}
    (h : netTypeXml net domtype = .ok rest) :
    (∀ node ∈ rest, node.WellFormed) ↔ ∀ text ∈ netTypeTexts net, OptText text := by
  -- one case for each type of interface, as in the generator
  unfold netTypeXml at h
  split at h
  · next htype =>
    have hsource := wellFormed_setNetSource (show XmlName "network" by decide) h
    simp [hsource, netTypeTexts, htype]
  split at h
  -- a bridge may have a script beside its source, whose text is fixed
  · next htype =>
    obtain ⟨source, hsource, h⟩ := bind_eq_ok h
    have hsource := wellFormed_setNetSource (show XmlName "bridge" by decide) hsource
    have hscript : (Node.elem "script" [("path", "vif-bridge")] []).WellFormed := by
      simp +decide [Node.wellFormed_elem]
    split at h <;> cases h <;> simp [hsource, hscript, netTypeTexts, htype]
  split at h
  · next htype =>
    cases h
    simp [netTypeTexts, htype]
  split at h
  · next htype =>
    -- without a port the source has to be there
    split at h
    · next hport =>
      have hsome : net.source ≠ none := by
        intro hnone
        rw [setNetSource, hnone] at h
        cases h
      have hsource := wellFormed_setNetSource (show XmlName "direct" by decide) h
      simp [hsource, netTypeTexts, htype, hsome, vsiTexts, hport]
    · next hport =>
      cases h
      rw [List.forall_mem_append, List.forall_mem_singleton, wellFormed_setNetVsi hport,
        netTypeTexts, if_neg (by simp [htype]), if_pos htype, List.forall_mem_append]
      cases hset : setNetSource net "direct" with
      | error msg =>
        -- a source that is missing goes unnoticed
        have hnone : net.source = none := by
          unfold setNetSource at hset
          split at hset
          · assumption
          · rw [if_pos rfl] at hset
            cases hset
        simp [Except.toOption, hnone]
      | ok source =>
        have hsome : net.source ≠ none := by
          intro hnone
          rw [setNetSource, hnone] at hset
          cases hset
        have hsource := wellFormed_setNetSource (show XmlName "direct" by decide) hset
        simp [Except.toOption, hsource, hsome]
  · cases h

theorem wellFormed_bandwidthXml (net : NetDevice) :
    ∀ node ∈ bandwidthXml net, node.WellFormed := by
  have hreservation := xmlText_repr net.reservation.toNat
  have hlimit := xmlText_repr net.limit.toNat
  unfold bandwidthXml
  dsimp only
  split
  · exact nofun
  · by_cases hr : net.reservation = 0 <;> by_cases hl : net.limit = 0 <;>
      simp +decide [Node.wellFormed_elem, attrsWellFormed_cons, hr, hl,
        hreservation, hlimit]

theorem wellFormed_netXmlOf {domtype : DomainType} {net : NetDevice} {nodes : List Node}
    (h : netXmlOf domtype net = .ok nodes) :
    (∀ node ∈ nodes, node.WellFormed) ↔ DeviceFit .net net := by
  obtain ⟨rest, hrest, ⟨⟩⟩ := bind_eq_ok h
  have hname : XmlName "interface" := by decide
  -- the type is one of the words the generator compares with
  have htype : AttrsWellFormed (prop "type" net.type) := by
    have htext : OptText net.type := by
      unfold netTypeXml at hrest
      repeat' split at hrest
      all_goals first | cases hrest; done | simp +decide [*]
    simp +decide [attrsWellFormed_prop, htext]
  have hmac := wellFormed_optChild (show XmlName "mac" by decide)
    (show XmlName "address" by decide) net.mac
  have htarget := wellFormed_optChild (show XmlName "target" by decide)
    (show XmlName "dev" by decide) net.device
  have hmodel := wellFormed_optChild (show XmlName "model" by decide)
    (show XmlName "type" by decide) net.model
  have hfilter := wellFormed_optChild (show XmlName "filterref" by decide)
    (show XmlName "filter" by decide) net.filterRef
  rw [List.forall_mem_singleton, Node.wellFormed_elem]
  -- the four optional children, the rate, the address and what the type adds
  simp only [List.forall_mem_append, hmac, htarget, hmodel, hfilter,
    iff_true_intro (wellFormed_bandwidthXml net), wellFormed_deviceAddressXml,
    wellFormed_netTypeXml hrest, iff_true_intro hname, iff_true_intro htype, DeviceFit, deviceTexts,
    deviceAddress, List.forall_mem_cons]
  simp [and_assoc, and_comm, and_left_comm]

/-! ### The other devices -/

theorem wellFormed_consoleSourceXml {cdev : ConsoleDevice} :
    (∀ node ∈ consoleSourceXml cdev, node.WellFormed) ↔
      ∀ text ∈ consoleSourceTexts cdev, OptText text := by
  have hpath := wellFormed_optChild (show XmlName "source" by decide)
    (show XmlName "path" by decide) cdev.sourceDev.path
  have hprotocol := wellFormed_optChild (show XmlName "protocol" by decide)
    (show XmlName "type" by decide) cdev.sourceDev.tcpProtocol
  unfold consoleSourceXml consoleSourceTexts
  -- each type of source has its own attributes, four of them have none
  cases cdev.sourceType with
  | null | vc | stdio | spicevmc => simp
  | pty => simp [hpath]
  | dev | file | pipe => simp +decide [Node.wellFormed_elem, attrsWellFormed_prop]
  | unixsock =>
    simp +decide [Node.wellFormed_elem, attrsWellFormed_prop_append, attrsWellFormed_prop]
  | udp =>
    simp +decide [Node.wellFormed_elem, attrsWellFormed_cons, attrsWellFormed_prop_append,
      attrsWellFormed_optProp, OptText, and_assoc]
  | tcp =>
    simp +decide [Node.wellFormed_elem, attrsWellFormed_prop_append, attrsWellFormed_optProp,
      OptText, hprotocol, and_assoc]

theorem wellFormed_consoleXmlOf {cdev : ConsoleDevice} {nodes : List Node}
    (h : consoleXmlOf cdev = .ok nodes) :
    (∀ node ∈ nodes, node.WellFormed) ↔ DeviceFit .console cdev := by
  cases h
  have hname : XmlName "console" := by decide
  have htype : AttrsWellFormed (prop "type" (chardevSourceTypeIDToStr cdev.sourceType)) := by
    cases cdev.sourceType <;> decide
  have htarget := wellFormed_optChild (show XmlName "target" by decide)
    (show XmlName "type" by decide) cdev.targetType
  rw [List.forall_mem_singleton, Node.wellFormed_elem]
  simp only [List.forall_mem_append, wellFormed_consoleSourceXml, htarget, iff_true_intro hname,
    iff_true_intro htype, DeviceFit, deviceTexts, deviceAddress, List.forall_mem_singleton]
  simp [attrsWellFormed_nil]

theorem wellFormed_graphicsXmlOf {gdev : GraphicsDevice} {nodes : List Node}
    (h : graphicsXmlOf gdev = .ok nodes) :
    (∀ node ∈ nodes, node.WellFormed) ↔ DeviceFit .graphics gdev := by
  unfold graphicsXmlOf at h
  split at h
  -- a display is one element, with other attributes for VNC and SDL
  · next hwritten =>
    cases h
    have hname : XmlName "graphics" := by decide
    rw [List.forall_mem_singleton, graphicsVncXml, Node.wellFormed_elem]
    simp only [DeviceFit, deviceTexts, deviceAddress, iff_true_intro hname]
    split
    · simp +decide [attrsWellFormed_prop_append, attrsWellFormed_optProp_append,
        attrsWellFormed_optProp, OptText]
    · next hsdl =>
      rw [if_pos (hwritten.resolve_right hsdl)]
      -- the port is written with the word that says whether it is automatic
      cases gdev.port with
      | none =>
        simp +decide [attrsWellFormed_prop_append, attrsWellFormed_optProp_append,
          attrsWellFormed_optProp, OptText]
      | some port =>
        have hauto : XmlText (if streqc port "-1" then "yes" else "no") := by
          split <;> decide
        simp +decide [attrsWellFormed_prop_append, attrsWellFormed_cons,
          attrsWellFormed_optProp_append, attrsWellFormed_optProp, OptText,
          hauto]
  -- an entry that is not written has no texts
  · next hunwritten =>
    cases h
    rw [not_or] at hunwritten
    simp [DeviceFit, deviceTexts, hunwritten, deviceAddress, attrsWellFormed_nil]

theorem wellFormed_inputXmlOf {idev : InputDevice} {nodes : List Node}
    (h : inputXmlOf idev = .ok nodes) :
    (∀ node ∈ nodes, node.WellFormed) ↔ DeviceFit .input idev := by
  cases h
  simp +decide [Node.wellFormed_elem, attrsWellFormed_prop_append, attrsWellFormed_prop, DeviceFit,
    deviceTexts, deviceAddress, attrsWellFormed_nil]

theorem wellFormed_controllerXmlOf {cdev : ControllerDevice} {nodes : List Node}
    (h : controllerXmlOf cdev = .ok nodes) :
    (∀ node ∈ nodes, node.WellFormed) ↔ DeviceFit .controller cdev := by
  unfold controllerXmlOf at h
  split at h
  · cases h
  · next typeStr htype =>
    cases h
    have hname : XmlName "controller" := by decide
    -- the name of the type is one of a fixed few
    have htext : XmlText typeStr := by
      cases hcases : cdev.type <;> rw [hcases] at htype <;> cases htype <;> decide
    have hindex := xmlText_repr cdev.index.toNat
    have hqueues := wellFormed_optChild (show XmlName "driver" by decide)
      (show XmlName "queueus" by decide) cdev.queues
    rw [List.forall_mem_singleton, Node.wellFormed_elem]
    simp only [List.forall_mem_append, hqueues, wellFormed_deviceAddressXml, iff_true_intro hname,
      DeviceFit, deviceTexts, deviceAddress]
    -- the index is a number in digits, where there is one
    split
    · simp +decide [attrsWellFormed_cons, attrsWellFormed_optProp_append, attrsWellFormed_optProp,
        OptText, htext, and_assoc]
    · simp +decide [attrsWellFormed_cons, attrsWellFormed_optProp_append, attrsWellFormed_optProp,
        OptText, htext, hindex, and_assoc]

/-! ### Lists -/

/-- **The elements of a device** can be written if its texts can. -/
theorem wellFormed_deviceXml {domtype : DomainType} {kind : DevKind} {dev : kind.Dev}
    {nodes : List Node} (h : deviceXml domtype kind dev = .ok nodes) :
    (∀ node ∈ nodes, node.WellFormed) ↔ DeviceFit kind dev := by
  cases kind with
  | disk => exact wellFormed_diskXmlOf h
  | net => exact wellFormed_netXmlOf h
  | console => exact wellFormed_consoleXmlOf h
  | graphics => exact wellFormed_graphicsXmlOf h
  | input => exact wellFormed_inputXmlOf h
  | controller => exact wellFormed_controllerXmlOf h
  | mem | proc =>
    cases h
    simp [DeviceFit, deviceTexts, deviceAddress, attrsWellFormed_nil]

/-- The elements of a list, without the devices that are marked as removed. -/
theorem wellFormed_devicesXml {domtype : DomainType} {kind : DevKind}
    {devs : List (VirtDevice kind.Dev)} {written : List Node}
    (h : devicesXml (deviceXml domtype kind) devs = .ok written) :
    (∀ node ∈ written, node.WellFormed) ↔
      ∀ dev ∈ devs, dev.type ≠ .unknown → DeviceFit kind dev.dev := by
  -- a device without a type is not written, so its texts do not count
  induction devs generalizing written with
  | nil =>
    cases h
    simp
  | cons dev devs ih =>
    rw [List.forall_mem_cons]
    obtain ⟨hunknown, htail⟩ | ⟨hknown, ns, rest, hns, htail, rfl⟩ := devicesXml_cons h
    · rw [ih htail]
      simp [hunknown]
    · rw [List.forall_mem_append, ih htail, wellFormed_deviceXml hns]
      simp [hknown]

end LibvirtCim.Device
