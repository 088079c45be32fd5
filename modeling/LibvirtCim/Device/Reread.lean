import LibvirtCim.Device.Kept
import LibvirtCim.Device.NetRoundTrip

/-!
# Reading a generated document

What `get_dominfo_from_xml` makes of a document that `system_to_xml` wrote. The XPath
expressions select what the generators of the lists wrote; the settings of the system come
back as `settingsBack` says. The content of an element goes through libxml2 on the way.
-/

open Framework

namespace LibvirtCim.Device

/-! ### Contents -/

/-- What the documentation of libxml2 says of the content argument of `xmlNewChild`: no
character but `&` starts markup in it. -/
def ContentDocumented (nodeContent : String → List Node) : Prop :=
  ∀ s, '&' ∉ s.toList → nodeContent s = textNodes s

/-- The text of an element that is given a content. -/
def contentText (nodeContent : String → List Node) (content : String) : String :=
  Node.textValue.textValues (nodeContent content)

/-- The content comes back as it is. -/
def Survives (nodeContent : String → List Node) (content : String) : Prop :=
  contentText nodeContent content = content

theorem ContentDocumented.survives {nodeContent : String → List Node}
    (h : ContentDocumented nodeContent) {content : String} (hplain : '&' ∉ content.toList) :
    Survives nodeContent content := by
  rw [Survives, contentText, h content hplain, textValues_textNodes]

section Document

variable {nodeContent : String → List Node} {newUuid : String} {dominfo : Domain} {doc : Node}

@[simp] theorem getNodeContent_xmlNewChild (name : String) (content : Option String) :
    getNodeContent (xmlNewChild nodeContent name content) =
      content.elim "" (contentText nodeContent) := by
  cases content <;> rfl

@[simp] theorem getNodeContent_elem (name : String) (attrs : List (String × String))
    (content : String) :
    getNodeContent (.elem name attrs (nodeContent content)) = contentText nodeContent content := rfl

@[simp] theorem name_xmlNewChild (name : String) (content : Option String) :
    (xmlNewChild nodeContent name content).name = name := rfl

@[simp] theorem attr_xmlNewChild (name : String) (content : Option String) (key : String) :
    (xmlNewChild nodeContent name content).attr key = none := rfl

/-! ### What the XPath expressions select -/

/-- The parts of a document. -/
theorem systemToXml_parts (h : systemToXml nodeContent newUuid dominfo = .ok doc) :
    ∃ (os : Node) (written : DevKind → List Node), osXml nodeContent dominfo = .ok os ∧
      (∀ kind, kind ≠ .mem → kind ≠ .proc →
        devicesXml (deviceXml dominfo.type kind) (dominfo.list kind) = .ok (written kind)) ∧
      doc = .elem "domain" [("type", domtype dominfo)]
        (systemXml nodeContent dominfo (dominfo.uuid.getD newUuid) ++ [os, featuresXml dominfo] ++
          memXml nodeContent dominfo ++ vcpuXml nodeContent dominfo ++
          cputuneXml nodeContent dominfo ++ [.elem "devices" [] (written .disk ++ written .net ++
            written .input ++ written .console ++ written .graphics ++
            emuXml nodeContent dominfo ++ written .controller ++ lxcConsole dominfo.type)]) := by
  obtain ⟨os, hos, h⟩ := bind_eq_ok h
  obtain ⟨devices, hdevices, h⟩ := bind_eq_ok h
  obtain ⟨written, hwritten, rfl⟩ := devicesElementXml_ok nodeContent hdevices
  cases h
  exact ⟨os, written, hos, hwritten, rfl⟩

/-- The nodes of a document for each list. -/
structure Selected (dominfo : Domain) (doc : Node) (written : DevKind → List Node) : Prop where
  disk : xpathNodes doc .disk = written .disk
  net : xpathNodes doc .net = written .net
  input : xpathNodes doc .input = written .input
  console : xpathNodes doc .console = written .console ++ lxcConsole dominfo.type
  graphics : xpathNodes doc .graphics =
    written .console ++ written .graphics ++ lxcConsole dominfo.type
  controller : xpathNodes doc .controller = written .controller

theorem selected_systemToXml (h : systemToXml nodeContent newUuid dominfo = .ok doc) :
    ∃ written, (∀ kind, kind ≠ .mem → kind ≠ .proc →
        devicesXml (deviceXml dominfo.type kind) (dominfo.list kind) = .ok (written kind)) ∧
      Selected dominfo doc written ∧
      devicesXPath doc ["emulator"] = emuXml nodeContent dominfo := by
  -- the devices stand in one element, kind after kind
  obtain ⟨devices, hdevices, hxpath⟩ := systemToXml_ok nodeContent newUuid h
  obtain ⟨written, hwritten, rfl⟩ := devicesElementXml_ok nodeContent hdevices
  have hselect (names : List String) : devicesXPath doc names = elems names (written .disk ++
      written .net ++ written .input ++ written .console ++ written .graphics ++
      emuXml nodeContent dominfo ++ written .controller ++ lxcConsole dominfo.type) := by
    rw [devicesXPath, hxpath]
    exact List.flatMap_singleton _ _
  -- each list has element names of its own
  have hdisk : Named ["disk", "filesystem"] (written .disk) :=
    named_devicesXml (hwritten .disk (by simp) (by simp))
  have hnet : Named ["interface"] (written .net) :=
    named_devicesXml (hwritten .net (by simp) (by simp))
  have hinput : Named ["input"] (written .input) :=
    named_devicesXml (hwritten .input (by simp) (by simp))
  have hconsole : Named ["console"] (written .console) :=
    named_devicesXml (hwritten .console (by simp) (by simp))
  have hgraphics : Named ["graphics"] (written .graphics) :=
    named_devicesXml (hwritten .graphics (by simp) (by simp))
  have hcontroller : Named ["controller"] (written .controller) :=
    named_devicesXml (hwritten .controller (by simp) (by simp))
  have hemu := named_emuXml nodeContent dominfo
  have hlxc := named_lxcConsole dominfo.type
  -- so that each path selects one of the lists
  refine ⟨written, hwritten, ⟨?_, ?_, ?_, ?_, ?_, ?_⟩, ?_⟩ <;>
    simp [xpathNodes, xpathNames, hselect, elems_append, hdisk.elems_of_subset,
      hdisk.elems_of_disjoint, hnet.elems_of_subset, hnet.elems_of_disjoint,
      hinput.elems_of_subset, hinput.elems_of_disjoint, hconsole.elems_of_subset,
      hconsole.elems_of_disjoint, hgraphics.elems_of_subset, hgraphics.elems_of_disjoint,
      hcontroller.elems_of_subset, hcontroller.elems_of_disjoint, hemu.elems_of_subset,
      hemu.elems_of_disjoint, hlxc.elems_of_subset, hlxc.elems_of_disjoint]

/-- The memory and the processors stand outside of the devices. -/
theorem xpathNodes_capacities (h : systemToXml nodeContent newUuid dominfo = .ok doc) :
    xpathNodes doc .mem = memXml nodeContent dominfo ∧
      xpathNodes doc .proc = vcpuXml nodeContent dominfo := by
  -- memory and processors stand below the domain, between other settings
  obtain ⟨os, written, hos, -, rfl⟩ := systemToXml_parts h
  have hsystem := named_systemXml nodeContent dominfo (dominfo.uuid.getD newUuid)
  have hos := named_osXml nodeContent hos
  have hmem := named_memXml nodeContent dominfo
  have hvcpu := named_vcpuXml nodeContent dominfo
  have hcputune := named_cputuneXml nodeContent dominfo
  constructor
  · show domainXPath _ ["memory", "currentMemory"] = _
    rw [domainXPath, if_pos (by simp), Node.children_elem]
    simp only [elems_append]
    rw [hsystem.elems_of_disjoint (by simp [settingNames]),
      hos.elems_of_disjoint (by simp [settingNames]), hmem.elems_of_subset (by simp),
      hvcpu.elems_of_disjoint (by simp), hcputune.elems_of_disjoint (by simp)]
    show [] ++ [] ++ memXml nodeContent dominfo ++ [] ++ [] ++ [] = _
    simp
  · show domainXPath _ ["vcpu"] = _
    rw [domainXPath, if_pos (by simp), Node.children_elem]
    simp only [elems_append]
    rw [hsystem.elems_eq_nil (by simp [settingNames]), hos.elems_eq_nil (by simp [settingNames]),
      hmem.elems_eq_nil (by simp), hvcpu.elems_eq_self, hcputune.elems_eq_nil (by simp)]
    show [] ++ [] ++ [] ++ vcpuXml nodeContent dominfo ++ [] ++ [] = _
    simp

/-! ### The settings of the system -/

/-- The type of the system, as it is written. -/
def writtenOsType (dominfo : Domain) : String :=
  dominfo.osInfo.type.getD (match dominfo.type with
    | .xenpv => "linux"
    | .lxc => "exe"
    | _ => "hvm")

/-- The boot devices that come back. -/
def bootlistBack (os : OsInfo) : List (Option String) :=
  (if os.bootlist = [] then [some "hd"] else os.bootlist).map fun dev => some (dev.getD "")

/-- What comes back of the description of the system. -/
def osBack (nodeContent : String → List Node) (dominfo : Domain) : OsInfo :=
  let os := dominfo.osInfo
  let text (content : Option String) : Option String :=
    some (content.elim "" (contentText nodeContent))
  let type := text (some (writtenOsType dominfo))
  match dominfo.type with
  | .xenpv =>
    { type
      kernel := text (some (os.kernel.getD "/dev/null"))
      initrd := text os.initrd
      cmdline := text os.cmdline }
  | .xenfv =>
    { type
      loader := text (some (os.loader.getD "/usr/lib/xen/boot/hvmloader"))
      bootlist := bootlistBack os }
  | .kvm | .qemu => { type, arch := os.arch, machine := os.machine, bootlist := bootlistBack os }
  | .lxc => { type, init := text os.init }
  | .unknown | .unsupported => {}

/-- The type that is written makes the type of the domain. -/
def TypeComesBack (nodeContent : String → List Node) (dominfo : Domain) : Prop :=
  domainTypeOf (contentText nodeContent (writtenOsType dominfo)) (domtype dominfo) = dominfo.type

/-- The boot devices among the children of a system. -/
theorem bootDevices_fvBootlistXml (os : OsInfo) :
    ((fvBootlistXml os).filter fun child => child.name = "boot").map (getAttrValue · "dev") =
      bootlistBack os := by
  have hboot (devs : List (Option String)) :
      ((devs.map fun dev => Node.elem "boot" (prop "dev" dev) []).filter fun child =>
        child.name = "boot").map (getAttrValue · "dev") =
      devs.map fun dev => some (dev.getD "") := by
    induction devs with
    | nil => rfl
    | cons dev devs ih => simpa using ih
  exact hboot _

/-- The boot devices have one name. -/
theorem name_of_mem_fvBootlistXml {os : OsInfo} {node : Node} (h : node ∈ fvBootlistXml os) :
    node.name = "boot" := by
  obtain ⟨dev, -, rfl⟩ := List.mem_map.mp h
  rfl

/-- Among the boot devices, no child of another name is found. -/
theorem filter_fvBootlistXml (os : OsInfo) {name : String} (hname : name ≠ "boot") :
    ((fvBootlistXml os).filter fun child => child.name = name) = [] := by
  rw [List.filter_eq_nil_iff]
  intro node hnode
  rw [name_of_mem_fvBootlistXml hnode, decide_eq_true_iff]
  exact hname.symm

theorem find_fvBootlistXml (os : OsInfo) {name : String} (hname : name ≠ "boot") :
    ((fvBootlistXml os).find? fun child => child.name = name) = none := by
  rw [← List.head?_filter, filter_fvBootlistXml os hname]
  rfl

/-- An attribute of the type is the one of the first child of this name. -/
theorem firstAttr_type {node : Node} {rest : List Node} (hnode : node.name = "type")
    (hrest : ∀ n ∈ rest, n.name ≠ "type") (attrname : String) :
    firstAttr (.elem "os" [] (node :: rest)) "type" attrname = getAttrValue node attrname := by
  have hnone : rest.findSome? (fun child =>
      if child.name = "type" then getAttrValue child attrname else none) = none := by
    rw [List.findSome?_eq_none_iff]
    intro n hn
    rw [if_neg (hrest n hn)]
  rw [firstAttr, Node.children_elem, List.findSome?_cons, hnone, if_pos hnode]
  cases getAttrValue node attrname <;> rfl

/-- **The description of the system**, as it is read from what is written. -/
theorem parseOs_osXml {os : Node} {s : Domain} (hos : osXml nodeContent dominfo = .ok os)
    (hstr : s.typestr = some (domtype dominfo)) (hinfo : s.osInfo = {})
    (htype : TypeComesBack nodeContent dominfo) :
    parseOs s os = .ok { s with type := dominfo.type, osInfo := osBack nodeContent dominfo } := by
  -- the boot devices hide neither the type nor the loader
  have hfilter := filter_fvBootlistXml dominfo.osInfo (show "type" ≠ "boot" by decide)
  have hfind := find_fvBootlistXml dominfo.osInfo (show "loader" ≠ "boot" by decide)
  have hboot := bootDevices_fvBootlistXml dominfo.osInfo
  have hrest : ∀ node ∈ fvBootlistXml dominfo.osInfo, node.name ≠ "type" := by
    intro node hnode
    rw [name_of_mem_fvBootlistXml hnode]
    decide
  -- a Xen guest's type has no attributes
  have hattrXen (type loader : Option String) (attrname : String) :
      firstAttr (.elem "os" [] (xmlNewChild nodeContent "type" type ::
        xmlNewChild nodeContent "loader" loader :: fvBootlistXml dominfo.osInfo)) "type" attrname =
        none :=
    firstAttr_type rfl (List.forall_mem_cons.mpr ⟨by simp, hrest⟩) attrname
  -- any other guest's type has those it was written with
  have hattr (attrs : List (String × String)) (children : List Node) (attrname : String) :
      firstAttr (.elem "os" [] (.elem "type" attrs children :: fvBootlistXml dominfo.osInfo))
        "type" attrname = attrs.lookup attrname :=
    firstAttr_type rfl hrest attrname
  unfold TypeComesBack at htype
  unfold osXml at hos
  -- one case for each type that writes an os element
  split at hos
  all_goals rename_i hd
  all_goals cases hos
  all_goals
    rw [writtenOsType, hd] at htype
    dsimp only at htype
  · simp [parseOs, hstr, hinfo, lastContent, firstContent, xenpvOsXml, htype, osBack, hd,
      writtenOsType]
  · simp [parseOs, hstr, hinfo, lastContent, firstContent, xenfvOsXml, hfilter, hboot, htype,
      osBack, hd, writtenOsType, hattrXen]
  · simp [parseOs, hstr, hinfo, lastContent, firstContent, kvmOsXml, hfilter, hfind, hboot, htype,
      osBack, hd, writtenOsType, hattr]
  · simp [parseOs, hstr, hinfo, lastContent, firstContent, kvmOsXml, hfilter, hfind, hboot, htype,
      osBack, hd, writtenOsType, hattr]
  · simp [parseOs, hstr, hinfo, lastContent, firstContent, lxcOsXml, htype, osBack, hd,
      writtenOsType]

/-- What is read back of an action. One that is unknown, or was never given, is written like
the action that destroys the guest, and has its number from then on. -/
def actionBack (action : UInt16) : UInt16 :=
  if action = cimVssdRecoveryRestart ∨ action = cimVssdRecoveryPreserve then action
  else cimVssdRecoveryNone

/-- An action that has been read back is written as before. -/
@[simp] theorem vssdRecoveryActionStr_actionBack (action : UInt16) :
    vssdRecoveryActionStr (actionBack action) = vssdRecoveryActionStr action := by
  unfold actionBack
  split
  · rfl
  · next hother =>
    rw [not_or] at hother
    simp [vssdRecoveryActionStr, hother.1, hother.2]

/-- What comes back of the settings of a domain. The action on a reboot is not written. -/
def settingsBack (nodeContent : String → List Node) (newUuid : String) (dominfo : Domain) :
    Domain where
  type := dominfo.type
  typestr := some (domtype dominfo)
  name := some (dominfo.name.elim "" (contentText nodeContent))
  uuid := some (contentText nodeContent (dominfo.uuid.getD newUuid))
  bootloader := dominfo.bootloader.map (contentText nodeContent)
  bootloaderArgs := dominfo.bootloaderArgs.map (contentText nodeContent)
  clock := dominfo.clock
  acpi := dominfo.acpi
  apic := dominfo.apic
  pae := dominfo.pae
  osInfo := osBack nodeContent dominfo
  onPoweroff := actionBack dominfo.onPoweroff
  onCrash := actionBack dominfo.onCrash

/-- An action is read as it is written. -/
theorem setAction_xmlNewChild (hdoc : ContentDocumented nodeContent) (name : String)
    (action : UInt16) :
    setAction (xmlNewChild nodeContent name (some (vssdRecoveryActionStr action))) =
      actionBack action := by
  -- the action is a word, which comes back as it is
  have hplain : ∀ s ∈ ["destroy", "restart", "preserve"], '&' ∉ s.toList := by decide
  have hback : contentText nodeContent (vssdRecoveryActionStr action) =
      vssdRecoveryActionStr action :=
    hdoc.survives (hplain _ (vssdRecoveryActionStr_mem action))
  rw [setAction, getNodeContent_xmlNewChild, Option.elim_some, hback]
  -- restart and preserve have words of their own
  by_cases hrestart : action = cimVssdRecoveryRestart
  · subst hrestart
    rfl
  by_cases hpreserve : action = cimVssdRecoveryPreserve
  · subst hpreserve
    rfl
  · -- whatever else the number is, the text is that of the action that destroys
    have hdestroy : vssdRecoveryActionStr action = "destroy" := by
      simp [vssdRecoveryActionStr, hrestart, hpreserve]
    simp [hdestroy, actionBack, hrestart, hpreserve]

/-- The settings that stand beside the system. Three of them are written when there is a
value. -/
theorem fold_systemXml (hdoc : ContentDocumented nodeContent) (dominfo : Domain)
    (uuid typestr : String) :
    (systemXml nodeContent dominfo uuid).foldlM parseDomainChild { typestr := some typestr } =
      .ok { typestr := some typestr
            name := some (dominfo.name.elim "" (contentText nodeContent))
            bootloader := dominfo.bootloader.map (contentText nodeContent)
            bootloaderArgs := dominfo.bootloaderArgs.map (contentText nodeContent)
            onPoweroff := actionBack dominfo.onPoweroff
            onCrash := actionBack dominfo.onCrash
            uuid := some (contentText nodeContent uuid)
            clock := dominfo.clock } := by
  -- each setting is one child, and leaves the others alone
  have hname (s : Domain) :
      [xmlNewChild nodeContent "name" dominfo.name].foldlM parseDomainChild s =
      .ok { s with name := some (dominfo.name.elim "" (contentText nodeContent)) } := by
    simp [parseDomainChild]
  -- an optional one is the child or nothing
  have hbootloader (s : Domain) (hs : s.bootloader = none) :
      (optContent nodeContent "bootloader" dominfo.bootloader).foldlM parseDomainChild s =
        .ok { s with bootloader := dominfo.bootloader.map (contentText nodeContent) } := by
    refine foldlM_optional (fun v => { s with bootloader := v.map (contentText nodeContent) })
      (fun v => ?_) ?_ _
    · simp [parseDomainChild]
    · rw [Option.map_none, ← hs]
  have hargs (s : Domain) (hs : s.bootloaderArgs = none) :
      (optContent nodeContent "bootloader_args" dominfo.bootloaderArgs).foldlM parseDomainChild s =
        .ok { s with bootloaderArgs := dominfo.bootloaderArgs.map (contentText nodeContent) } := by
    refine foldlM_optional (fun v => { s with bootloaderArgs := v.map (contentText nodeContent) })
      (fun v => ?_) ?_ _
    · simp [parseDomainChild]
    · rw [Option.map_none, ← hs]
  -- the actions and the UUID are always written
  have hactions (s : Domain) :
      [xmlNewChild nodeContent "on_poweroff" (some (vssdRecoveryActionStr dominfo.onPoweroff)),
        xmlNewChild nodeContent "on_crash" (some (vssdRecoveryActionStr dominfo.onCrash)),
        xmlNewChild nodeContent "uuid" (some uuid)].foldlM parseDomainChild s =
      .ok { s with
        onPoweroff := actionBack dominfo.onPoweroff
        onCrash := actionBack dominfo.onCrash
        uuid := some (contentText nodeContent uuid) } := by
    simp [parseDomainChild, setAction_xmlNewChild hdoc]
    rfl
  have hclock (s : Domain) (hs : s.clock = none) :
      (optChild "clock" "offset" dominfo.clock).foldlM parseDomainChild s =
        .ok { s with clock := dominfo.clock } := by
    refine foldlM_optional (fun v => { s with clock := v }) (fun v => ?_) ?_ _
    · simp [parseDomainChild]
    · rw [← hs]
  -- the settings in the order they are written
  exact foldlM_append_ok (foldlM_append_ok (foldlM_append_ok (foldlM_append_ok (hname _)
    (hbootloader _ rfl)) (hargs _ rfl)) (hactions _)) (hclock _ rfl)

/-- The flags among the features. -/
theorem parseFeatures_featuresXml (s : Domain) (hacpi : s.acpi = false) (hapic : s.apic = false)
    (hpae : s.pae = false) : parseFeatures s (featuresXml dominfo) =
      { s with acpi := dominfo.acpi, apic := dominfo.apic, pae := dominfo.pae } := by
  rw [parseFeatures, hacpi, hapic, hpae]
  cases hacpi : dominfo.acpi <;> cases hapic : dominfo.apic <;> cases hpae : dominfo.pae <;>
    simp [featuresXml, flagXml, hacpi, hapic, hpae]

variable (nodeContent dominfo) in
/-- The capacities and the devices are no settings. -/
theorem parseDomainChild_skip (s : Domain) (devices : List Node) :
    ∀ node ∈ memXml nodeContent dominfo ++ vcpuXml nodeContent dominfo ++
        cputuneXml nodeContent dominfo ++ [.elem "devices" [] devices],
      parseDomainChild s node = .ok s := by
  -- the capacities are read by paths of their own
  have hmem : ∀ node ∈ memXml nodeContent dominfo, parseDomainChild s node = .ok s := by
    unfold memXml
    split <;> simp [parseDomainChild]
  have hvcpu : ∀ node ∈ vcpuXml nodeContent dominfo, parseDomainChild s node = .ok s := by
    unfold vcpuXml
    split <;> simp [parseDomainChild]
  have hcputune : ∀ node ∈ cputuneXml nodeContent dominfo, parseDomainChild s node = .ok s := by
    unfold cputuneXml
    split <;> simp [parseDomainChild]
  have hdevices : ∀ node ∈ [Node.elem "devices" [] devices], parseDomainChild s node = .ok s := by
    simp [parseDomainChild]
  simp only [List.forall_mem_append]
  exact ⟨⟨⟨hmem, hvcpu⟩, hcputune⟩, hdevices⟩

/-- **The settings of a domain**, as they are read from its document. -/
theorem parseDomain_systemToXml (hdoc : ContentDocumented nodeContent)
    (htype : TypeComesBack nodeContent dominfo)
    (h : systemToXml nodeContent newUuid dominfo = .ok doc) :
    parseDomain doc = .ok (settingsBack nodeContent newUuid dominfo) := by
  obtain ⟨os, written, hos, -, rfl⟩ := systemToXml_parts h
  have hname : os.name = "os" := by
    unfold osXml at hos
    split at hos <;> cases hos <;> rfl
  -- the state after the settings that stand before the system
  set s : Domain :=
    { typestr := some (domtype dominfo)
      name := some (dominfo.name.elim "" (contentText nodeContent))
      bootloader := dominfo.bootloader.map (contentText nodeContent)
      bootloaderArgs := dominfo.bootloaderArgs.map (contentText nodeContent)
      onPoweroff := actionBack dominfo.onPoweroff
      onCrash := actionBack dominfo.onCrash
      uuid := some (contentText nodeContent (dominfo.uuid.getD newUuid))
      clock := dominfo.clock } with hs
  -- the settings, then the os element and the features, then nothing that is read here
  have hsystem := fold_systemXml hdoc dominfo (dominfo.uuid.getD newUuid) (domtype dominfo)
  have hsettings : [os, featuresXml dominfo].foldlM parseDomainChild s =
      .ok (settingsBack nodeContent newUuid dominfo) := by
    have hos' : parseDomainChild s os = parseOs s os := by
      simp [parseDomainChild, hname]
    have hfeatures (t : Domain) : parseDomainChild t (featuresXml dominfo) =
        .ok (parseFeatures t (featuresXml dominfo)) := rfl
    rw [List.foldlM_cons, hos', parseOs_osXml hos rfl rfl htype]
    show [featuresXml dominfo].foldlM parseDomainChild _ = _
    rw [List.foldlM_cons, hfeatures, parseFeatures_featuresXml _ rfl rfl rfl]
    rfl
  have hrest (devices : List Node) := foldlM_skip (parseDomainChild_skip nodeContent dominfo
    (settingsBack nodeContent newUuid dominfo) devices)
  rw [parseDomain, if_pos (by simp), Node.children_elem]
  simp only [List.append_assoc] at hrest ⊢
  rw [← List.append_assoc]
  exact foldlM_append_ok (foldlM_append_ok hsystem hsettings) (hrest _)

/-! ### The whole document -/

/-- A domain is parsed when its settings are and no interface is without a MAC address. -/
theorem exists_getDominfoFromXml {root : Node} {settings : Domain}
    (hsettings : parseDomain root = .ok settings)
    (hnet : ∀ node ∈ xpathNodes root .net, parseNetDevice node ≠ .error .fault) :
    ∃ d, getDominfoFromXml root = .ok d := by
  -- devices other than interfaces are rejected one by one, not all at once
  have hlist (kind : DevKind) : ∃ devs, parseDevices root kind = .ok devs := by
    apply exists_doParse
    intro node hnode
    by_cases hkind : kind = .net
    · subst hkind
      exact hnet node hnode
    · exact doRealParse_ne_fault hkind node
  -- the emulator is parsed on its own
  obtain ⟨devEmu, hemu⟩ : ∃ devs, doParse parseEmuDevice (devicesXPath root ["emulator"]) =
      .ok devs :=
    exists_doParse fun node _ => nofun
  -- with every list there, the domain is put together
  obtain ⟨devGraphics, hgraphics⟩ := hlist .graphics
  obtain ⟨devConsole, hconsole⟩ := hlist .console
  obtain ⟨devInput, hinput⟩ := hlist .input
  obtain ⟨mdevs, hmem⟩ := hlist .mem
  obtain ⟨devNet, hnet⟩ := hlist .net
  obtain ⟨devDisk, hdisk⟩ := hlist .disk
  obtain ⟨devVcpu, hvcpu⟩ := hlist .proc
  obtain ⟨devController, hcontroller⟩ := hlist .controller
  have hparse : getDominfoFromXml root = .ok { settings with
      devEmu, devGraphics, devConsole, devInput, devMem := getMemDevice mdevs, devNet, devDisk
      devVcpu, devController } := by
    rw [getDominfoFromXml, hsettings, hemu, hgraphics, hconsole, hinput, hmem, hnet, hdisk, hvcpu,
      hcontroller]
    rfl
  exact ⟨_, hparse⟩

/-- No child takes the MAC address away. -/
theorem mac_parseNetChild {s t : NetDevice} {child : Node} (hs : s.mac.isSome)
    (h : parseNetChild s child = .ok t) : t.mac.isSome := by
  have hvsi : (parseVsiDevice child s).mac = s.mac := by
    unfold parseVsiDevice
    split
    · rfl
    · split <;> rfl
  unfold parseNetChild at h
  repeat' split at h
  all_goals first | cases h; rfl | cases h; exact hs | cases h; rw [hvsi]; exact hs | cases h

theorem parseNetChild_error {ndev : NetDevice} {child : Node} {stop : Stop}
    (h : parseNetChild ndev child = .error stop) : stop = .reject := by
  unfold parseNetChild at h
  repeat' split at h
  all_goals first | cases h; rfl | cases h

/-- Behind a child `mac` the address is there, and it stays. -/
theorem mac_foldlM_parseNetChild {children : List Node} {ndev ndev' : NetDevice}
    (hfold : children.foldlM parseNetChild ndev = .ok ndev')
    (hmac : ndev.mac.isSome ∨ ∃ child ∈ children, child.name = "mac") : ndev'.mac.isSome := by
  -- a MAC once read is never taken away
  induction children generalizing ndev with
  | nil =>
    cases hfold
    obtain hmac | ⟨child, hchild, -⟩ := hmac
    · exact hmac
    · cases hchild
  | cons child children ih =>
    rw [List.foldlM_cons] at hfold
    obtain ⟨mid, hstep, hfold⟩ := bind_eq_ok hfold
    refine ih hfold ?_
    -- read already, or still to come
    obtain hmac | ⟨child', hchild', hname⟩ := hmac
    · exact .inl (mac_parseNetChild hmac hstep)
    obtain rfl | hchild' := List.mem_cons.mp hchild'
    · refine .inl ?_
      unfold parseNetChild at hstep
      rw [if_pos hname] at hstep
      split at hstep <;> cases hstep
      rfl
    · exact .inr ⟨child', hchild', hname⟩

/-- An interface with a MAC address does not crash the parser. -/
theorem parseNetDevice_of_mac {node : Node} (h : ∃ child ∈ node.children, child.name = "mac") :
    parseNetDevice node ≠ .error .fault := by
  intro hfault
  unfold parseNetDevice at hfault
  split at hfault
  case h_2 => cases hfault
  case h_1 type _ =>
    obtain hfault | ⟨ndev, hfold, hfault⟩ := bind_eq_error hfault
    · exact absurd (foldlM_error (fun _ _ _ => parseNetChild_error) hfault) nofun
    have hmac := mac_foldlM_parseNetChild hfold (.inr h)
    split at hfault
    · next hnone =>
      rw [hnone] at hmac
      cases hmac
    · cases hfault

/-- The element of an interface with a MAC address does not crash the parser. -/
theorem parseNetDevice_written {domtype : DomainType} {net : NetDevice} {nodes : List Node}
    (hmac : net.mac.isSome) (hxml : netXmlOf domtype net = .ok nodes) :
    ∀ node ∈ nodes, parseNetDevice node ≠ .error .fault := by
  obtain ⟨rest, -, ⟨⟩⟩ := bind_eq_ok hxml
  obtain ⟨mac, hmac⟩ := Option.isSome_iff_exists.mp hmac
  rw [List.forall_mem_singleton]
  -- the first child has the address
  rw [hmac]
  exact parseNetDevice_of_mac ⟨_, List.mem_cons_self, rfl⟩

/-- Each device of a parsed list is that of a node. -/
theorem exists_node_of_mem {α : Type} {f : Node → Except Stop (VirtDevice α)} {nodes : List Node}
    {devs : List (VirtDevice α)} (h : doParse f nodes = .ok devs) {dev : VirtDevice α}
    (hdev : dev ∈ devs) : ∃ node ∈ nodes, f node = .ok dev := by
  rw [mem_doParse h] at hdev
  exact hdev

/-- Each node of a list is that of a device. -/
theorem exists_dev_of_mem {α : Type} {xml : α → Except String (List Node)}
    {devs : List (VirtDevice α)} {written : List Node} (h : devicesXml xml devs = .ok written)
    {node : Node} (hnode : node ∈ written) :
    ∃ dev ∈ devs, ∃ nodes, xml dev.dev = .ok nodes ∧ node ∈ nodes := by
  obtain ⟨dev, hdev, -, hxml⟩ := (mem_devicesXml h).mp hnode
  exact ⟨dev, hdev, hxml⟩

/-- The emulator that comes back: the first one. -/
def emuBack (nodeContent : String → List Node) (dominfo : Domain) : List (VirtDevice EmuDevice) :=
  dominfo.devEmu.head?.toList.map fun emu =>
    { type := .emu, dev := { path := some (emu.dev.path.elim "" (contentText nodeContent)) } }

theorem doParse_emuXml :
    doParse parseEmuDevice (emuXml nodeContent dominfo) = .ok (emuBack nodeContent dominfo) := by
  unfold emuXml emuBack
  cases dominfo.devEmu.head? with
  | none => rfl
  | some emu => simp [doParse, parseEmuDevice]

/-- **A document is read again.** What is written for a parsed domain is parsed, and its
settings and its emulator are known. -/
theorem getDominfoFromXml_systemToXml (hdoc : ContentDocumented nodeContent)
    (htype : TypeComesBack nodeContent dominfo)
    (hmac : ∀ net ∈ dominfo.devNet, net.dev.mac.isSome)
    (h : systemToXml nodeContent newUuid dominfo = .ok doc) :
    ∃ d, getDominfoFromXml doc = .ok d ∧ d.devEmu = emuBack nodeContent dominfo ∧
      d = { settingsBack nodeContent newUuid dominfo with
        devEmu := d.devEmu
        devGraphics := d.devGraphics
        devConsole := d.devConsole
        devInput := d.devInput
        devMem := d.devMem
        devNet := d.devNet
        devDisk := d.devDisk
        devVcpu := d.devVcpu
        devController := d.devController } := by
  -- the interfaces of the document have a MAC, so that parsing them cannot fault
  obtain ⟨written, hwritten, hselected, hemu⟩ := selected_systemToXml h
  have hsettings := parseDomain_systemToXml hdoc htype h
  have hnet : ∀ node ∈ xpathNodes doc .net, parseNetDevice node ≠ .error .fault := by
    intro node hnode
    rw [hselected.net] at hnode
    obtain ⟨net, hmem, nodes, hxml, hnode⟩ := exists_dev_of_mem (hwritten .net nofun nofun) hnode
    exact parseNetDevice_written (hmac net hmem) hxml node hnode
  obtain ⟨d, hd⟩ := exists_getDominfoFromXml hsettings hnet
  obtain ⟨settings, mdevs, hsettings', hemu', -, -, heq⟩ := getDominfoFromXml_ok hd
  -- what was read are the settings that come back
  cases hsettings.symm.trans hsettings'
  rw [hemu, doParse_emuXml] at hemu'
  exact ⟨d, hd, (Except.ok.inj hemu').symm, heq⟩

/-! ### Parsed domains -/

/-- The type of a domain, once the description of its system is read. -/
def TypeRead (s : Domain) : Prop :=
  s.type = .unknown ∨
    ∃ ostype typestr, s.osInfo.type = some ostype ∧ s.type = domainTypeOf ostype typestr

theorem typeRead_parseOs {s t : Domain} {os : Node} (h : parseOs s os = .ok t) : TypeRead t := by
  unfold parseOs at h
  dsimp only at h
  split at h
  · next ostype typestr hostype _ =>
    cases h
    refine .inr ⟨ostype, typestr, ?_, rfl⟩
    rw [← hostype]
    dsimp only
    split <;> rfl
  · cases h

/-- No other child changes the type. -/
theorem typeRead_parseDomainChild {s t : Domain} {child : Node} (hs : TypeRead s)
    (h : parseDomainChild s child = .ok t) : TypeRead t := by
  unfold parseDomainChild at h
  dsimp only at h
  repeat' split at h
  all_goals first | exact typeRead_parseOs h | cases h; exact hs

theorem typeRead_getDominfoFromXml {root : Node} (h : getDominfoFromXml root = .ok dominfo) :
    TypeRead dominfo := by
  obtain ⟨settings, mdevs, hsettings, -, -, -, heq⟩ := getDominfoFromXml_ok h
  have hread : TypeRead settings := by
    unfold parseDomain at hsettings
    split at hsettings
    · exact foldlM_invariant (fun _ _ _ => typeRead_parseDomainChild) (.inl rfl) hsettings
    · cases hsettings
  rw [heq]
  exact hread

/-- What is read of an action comes back. -/
theorem actionBack_setAction (child : Node) : actionBack (setAction child) = setAction child := by
  unfold setAction
  dsimp only
  split_ifs <;> rfl

/-- An action of a parsed domain, which is zero while no element was read for it. -/
def ActionRead (action : UInt16) : Prop := action = 0 ∨ actionBack action = action

/-- An action comes back if there is an element for it. -/
theorem ActionRead.comesBack_iff {action : UInt16} (h : ActionRead action) :
    actionBack action = action ↔ action ≠ 0 := by
  constructor
  · rintro hback rfl
    exact absurd hback (by decide)
  · exact h.resolve_left

/-- Both actions that are written are as they were read, after any of the children. -/
theorem actionsRead_parseDomainChild {s t : Domain} {child : Node}
    (hs : ActionRead s.onPoweroff ∧ ActionRead s.onCrash) (h : parseDomainChild s child = .ok t) :
    ActionRead t.onPoweroff ∧ ActionRead t.onCrash := by
  have hread : ActionRead (setAction child) := .inr (actionBack_setAction child)
  have hos (hparse : parseOs s child = .ok t) : ActionRead t.onPoweroff ∧ ActionRead t.onCrash := by
    unfold parseOs at hparse
    dsimp only at hparse
    split at hparse
    · cases hparse
      exact hs
    · cases hparse
  unfold parseDomainChild at h
  dsimp only at h
  -- the two elements of the actions, the description of the system, and all the others
  repeat' split at h
  all_goals
    first
    | exact hos h
    | cases h
      first | exact hs | exact ⟨hread, hs.2⟩ | exact ⟨hs.1, hread⟩

theorem actionsRead_getDominfoFromXml {root : Node} (h : getDominfoFromXml root = .ok dominfo) :
    ActionRead dominfo.onPoweroff ∧ ActionRead dominfo.onCrash := by
  obtain ⟨settings, mdevs, hsettings, -, -, -, heq⟩ := getDominfoFromXml_ok h
  have hread : ActionRead settings.onPoweroff ∧ ActionRead settings.onCrash := by
    unfold parseDomain at hsettings
    split at hsettings
    · exact foldlM_invariant
        (I := fun s : Domain => ActionRead s.onPoweroff ∧ ActionRead s.onCrash)
        (fun _ _ _ => actionsRead_parseDomainChild) ⟨.inl rfl, .inl rfl⟩ hsettings
    · cases hsettings
  rw [heq]
  exact hread

/-- The types that `os_xml` supports. -/
def Supported (type : DomainType) : Prop := type ≠ .unknown ∧ type ≠ .unsupported

instance (type : DomainType) : Decidable (Supported type) := instDecidableAnd

/-- **The type of a parsed domain comes back.** The types of systems that decide between
the kinds of Xen guests have no `&`, and the type of any other guest does not depend on
that of its system. -/
theorem typeComesBack_of_parsed (hdoc : ContentDocumented nodeContent) {root : Node}
    (h : getDominfoFromXml root = .ok dominfo) (hsupported : Supported dominfo.type) :
    TypeComesBack nodeContent dominfo := by
  -- the type was told apart from the text of the os element
  obtain hunknown | ⟨ostype, typestr, hostype, htype⟩ := typeRead_getDominfoFromXml h
  · exact absurd hunknown hsupported.1
  have hwritten : writtenOsType dominfo = ostype := by
    rw [writtenOsType, hostype]
    rfl
  -- the types of systems that are told apart
  have hplain (known : String) (hknown : '&' ∉ known.toList.map Char.toLower)
      (hstreqc : streqc ostype known) : contentText nodeContent ostype = ostype :=
    hdoc.survives (not_mem_of_streqc hstreqc hknown)
  -- the text is written as it was read, and tells the same type again
  rw [TypeComesBack, hwritten]
  unfold domainTypeOf at htype
  split at htype
  · next hxen =>
    rw [domtype, htype, hplain "hvm" (by decide) hxen.1]
    exact if_pos ⟨hxen.1, rfl⟩
  -- kvm, qemu and lxc are told by the attribute of the domain
  split at htype
  · rw [domtype, htype]
    have hxen : streqc "kvm" "xen" = false := by decide
    have hkvm : streqc "kvm" "kvm" := by decide
    simp [domainTypeOf, hxen, hkvm]
  split at htype
  · rw [domtype, htype]
    have hxen : streqc "qemu" "xen" = false := by decide
    have hkvm : streqc "qemu" "kvm" = false := by decide
    have hqemu : streqc "qemu" "qemu" := by decide
    simp [domainTypeOf, hxen, hkvm, hqemu]
  split at htype
  · rw [domtype, htype]
    have hxen : streqc "lxc" "xen" = false := by decide
    have hkvm : streqc "lxc" "kvm" = false := by decide
    have hqemu : streqc "lxc" "qemu" = false := by decide
    have hlxc : streqc "lxc" "lxc" := by decide
    simp [domainTypeOf, hxen, hkvm, hqemu, hlxc]
  -- paravirtual Xen by the text as well
  split at htype
  · next hlinux =>
    rw [domtype, htype, hplain "linux" (by decide) hlinux]
    have hhvm : streqc ostype "hvm" = false := streqc_congr hlinux "hvm"
    have hkvm : streqc "xen" "kvm" = false := by decide
    have hqemu : streqc "xen" "qemu" = false := by decide
    have hlxc : streqc "xen" "lxc" = false := by decide
    simp [domainTypeOf, hhvm, hkvm, hqemu, hlxc, hlinux]
  · exact absurd htype hsupported.2

/-- The emulators of a parsed domain have a path. -/
theorem emu_of_parsed {root : Node} (h : getDominfoFromXml root = .ok dominfo) :
    ∀ emu ∈ dominfo.devEmu, ∃ path, emu = { type := .emu, dev := { path := some path } } := by
  obtain ⟨-, -, -, hemu, -⟩ := getDominfoFromXml_ok h
  intro emu hmem
  obtain ⟨node, -, hnode⟩ := exists_node_of_mem hemu hmem
  cases hnode
  exact ⟨getNodeContent node, rfl⟩

/-- The interfaces of a parsed domain have a MAC address. -/
theorem mac_of_parsed {root : Node} (h : getDominfoFromXml root = .ok dominfo) :
    ∀ net ∈ dominfo.devNet, net.dev.mac.isSome := by
  intro net hmem
  have hnet : parseDevices root .net = .ok dominfo.devNet := list_getDominfoFromXml h nofun
  obtain ⟨node, -, hnode⟩ := exists_node_of_mem hnet hmem
  obtain ⟨-, hid, hsome, -⟩ := parseNetDevice_ok hnode
  rw [← hid]
  exact hsome

end Document

end LibvirtCim.Device
