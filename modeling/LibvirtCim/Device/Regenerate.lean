import LibvirtCim.Device.CapacityRoundTrip
import LibvirtCim.Device.RegenerateElement
import LibvirtCim.Device.SettingsRoundTrip
import LibvirtCim.Device.TextSafety

/-!
# Documents that are written again

A document that `system_to_xml` wrote is parsed and written once more. What is parsed is its
text, and a text has this tree only if the tree is well formed: an address whose keys are not
distinct is written with the attribute twice, and the text of it is refused.

The two documents are the same if and only if every part of the domain is stable: its texts
once they have gone through libxml2, the count of its processors, and each device on its own.
A container is never stable, since the console that is written for it is parsed as one of its
own.
-/

open Framework

namespace LibvirtCim.Device

section Document

variable {nodeContent : String → List Node}

/-! ### Texts -/

/-- A text that does not change once it has been read. -/
def Settled (nodeContent : String → List Node) (content : String) : Prop :=
  nodeContent (contentText nodeContent content) = nodeContent content

theorem ContentDocumented.settled (h : ContentDocumented nodeContent) {content : String}
    (hplain : '&' ∉ content.toList) : Settled nodeContent content := by
  have hsurvives : contentText nodeContent content = content := h.survives hplain
  rw [Settled, hsurvives]

theorem xmlNewChild_settled_iff (name content : String) :
    xmlNewChild nodeContent name (some (contentText nodeContent content)) =
        xmlNewChild nodeContent name (some content) ↔ Settled nodeContent content := by
  simp [xmlNewChild, Settled]

/-- An element that is there in any case. -/
theorem xmlNewChild_back_iff (hdoc : ContentDocumented nodeContent) (name : String)
    (content : Option String) :
    xmlNewChild nodeContent name (some (content.elim "" (contentText nodeContent))) =
        xmlNewChild nodeContent name content ↔ ∀ s ∈ content, Settled nodeContent s := by
  cases content with
  | none =>
    have hempty : nodeContent "" = [] := hdoc "" (by decide)
    simp [xmlNewChild, hempty]
  | some s => simp [xmlNewChild, Settled]

/-- An element with a default. -/
theorem xmlNewChild_getD_iff (hdoc : ContentDocumented nodeContent) (name : String)
    (content : Option String) {default : String} (hplain : '&' ∉ default.toList) :
    xmlNewChild nodeContent name (some (contentText nodeContent (content.getD default))) =
        xmlNewChild nodeContent name (some (content.getD default)) ↔
      ∀ s ∈ content, Settled nodeContent s := by
  cases content with
  | none =>
    have hdefault : nodeContent (contentText nodeContent default) = nodeContent default :=
      hdoc.settled hplain
    simp [xmlNewChild, hdefault]
  | some s => simp [xmlNewChild, Settled]

theorem optContent_back_iff (name : String) (content : Option String) :
    optContent nodeContent name (content.map (contentText nodeContent)) =
        optContent nodeContent name content ↔ ∀ s ∈ content, Settled nodeContent s := by
  cases content with
  | none => simp [optContent]
  | some s => simp [optContent, xmlNewChild, Settled]

/-! ### The settings -/

/-- The settings beside the system are written again as they are. -/
theorem systemXml_back_iff (hdoc : ContentDocumented nodeContent) (newUuid : String) (d : Domain) :
    systemXml nodeContent (settingsBack nodeContent newUuid d)
          (contentText nodeContent (d.uuid.getD newUuid)) =
        systemXml nodeContent d (d.uuid.getD newUuid) ↔
      (∀ s ∈ d.name, Settled nodeContent s) ∧ (∀ s ∈ d.bootloader, Settled nodeContent s) ∧
        (∀ s ∈ d.bootloaderArgs, Settled nodeContent s) ∧
        Settled nodeContent (d.uuid.getD newUuid) := by
  rw [← xmlNewChild_back_iff hdoc "name" d.name, ← optContent_back_iff "bootloader" d.bootloader,
    ← optContent_back_iff "bootloader_args" d.bootloaderArgs]
  -- the two lists have the same shape
  cases hb : d.bootloader <;> cases ha : d.bootloaderArgs <;>
    simp [systemXml, settingsBack, optContent, xmlNewChild, Settled, hb, ha]

theorem length_systemXml (newUuid uuid : String) (d : Domain) :
    (systemXml nodeContent (settingsBack nodeContent newUuid d) uuid).length =
      (systemXml nodeContent d (d.uuid.getD newUuid)).length := by
  cases hb : d.bootloader <;> cases ha : d.bootloaderArgs <;>
    simp [systemXml, settingsBack, optContent, hb, ha]

/-- The texts of the description of a system are settled. -/
def OsSettled (nodeContent : String → List Node) (d : Domain) : Prop :=
  Settled nodeContent (writtenOsType d) ∧
    match d.type with
    | .xenpv => (∀ s ∈ d.osInfo.kernel, Settled nodeContent s) ∧
        (∀ s ∈ d.osInfo.initrd, Settled nodeContent s) ∧
        ∀ s ∈ d.osInfo.cmdline, Settled nodeContent s
    | .xenfv => ∀ s ∈ d.osInfo.loader, Settled nodeContent s
    | .lxc => ∀ s ∈ d.osInfo.init, Settled nodeContent s
    | .kvm | .qemu | .unknown | .unsupported => True

/-- The boot devices are written again as they are. -/
theorem fvBootlistXml_back {os os' : OsInfo} (h : os'.bootlist = bootlistBack os) :
    fvBootlistXml os' = fvBootlistXml os := by
  have hne : os'.bootlist ≠ [] := by
    rw [h, bootlistBack]
    split <;> simp [*]
  unfold fvBootlistXml
  rw [if_neg hne, h, bootlistBack, List.map_map]
  rfl

theorem osXml_back_iff (hdoc : ContentDocumented nodeContent) (newUuid : String) {d : Domain}
    {os : Node} (hos : osXml nodeContent d = .ok os) :
    osXml nodeContent (settingsBack nodeContent newUuid d) = .ok os ↔ OsSettled nodeContent d := by
  -- what is written for a missing text, and for one that was read
  have hkernel := xmlNewChild_getD_iff hdoc "kernel" d.osInfo.kernel
    (show '&' ∉ "/dev/null".toList by decide)
  have hloader := xmlNewChild_getD_iff hdoc "loader" d.osInfo.loader
    (show '&' ∉ "/usr/lib/xen/boot/hvmloader".toList by decide)
  have hinitrd := xmlNewChild_back_iff hdoc "initrd" d.osInfo.initrd
  have hcmdline := xmlNewChild_back_iff hdoc "cmdline" d.osInfo.cmdline
  have hinit := xmlNewChild_back_iff hdoc "init" d.osInfo.init
  -- the boot devices are a list of attributes, which are read as they are
  have hboot (back : OsInfo) (hback : back.bootlist = bootlistBack d.osInfo) :
      fvBootlistXml back = fvBootlistXml d.osInfo :=
    fvBootlistXml_back hback
  have htype (content : String) : nodeContent (contentText nodeContent content) =
      nodeContent content ↔ Settled nodeContent content := Iff.rfl
  -- one case for each type that writes an os element
  unfold osXml at hos
  split at hos
  all_goals rename_i hd
  all_goals cases hos
  · simp [osXml, settingsBack, hd, OsSettled, xenpvOsXml, osBack, writtenOsType,
      xmlNewChild_settled_iff, hkernel, hinitrd, hcmdline]
  · simp [osXml, settingsBack, hd, OsSettled, xenfvOsXml, osBack, writtenOsType,
      xmlNewChild_settled_iff, hloader, hboot]
  · simp [osXml, settingsBack, hd, OsSettled, kvmOsXml, osBack, writtenOsType, htype, hboot]
  · simp [osXml, settingsBack, hd, OsSettled, kvmOsXml, osBack, writtenOsType, htype, hboot]
  · simp [osXml, settingsBack, hd, OsSettled, lxcOsXml, osBack, writtenOsType,
      xmlNewChild_settled_iff, hinit, and_comm]

/-! ### The capacities -/

section Back

variable {newUuid : String} {root doc : Node} {d d' : Domain}

/-- The memory is written again as it is. -/
theorem memXml_back (hdoc : ContentDocumented nodeContent)
    (hxml : systemToXml nodeContent newUuid d = .ok doc) (hback : getDominfoFromXml doc = .ok d') :
    memXml nodeContent d' = memXml nodeContent d := by
  obtain ⟨-, mdevs, -, -, hmdevs, hmerged, -⟩ := getDominfoFromXml_ok hback
  cases hmem : d.devMem.head? with
  -- memory is written for the first entry, or not at all
  | none =>
    have hnone : memXml nodeContent d = [] := by
      rw [memXml, hmem]
    have hparse : parseDevices doc .mem = .ok [] := by
      show doParse parseMemDevice (xpathNodes doc .mem) = _
      rw [(xpathNodes_capacities hxml).1, hnone]
      rfl
    cases hparse.symm.trans hmdevs
    rw [hnone, memXml, hmerged]
    rfl
  | some mem =>
    obtain ⟨mdevs', hmdevs', hmerged'⟩ := parseDevices_mem hdoc hxml hmem
    cases hmdevs.symm.trans hmdevs'
    -- the entries read are merged into one with the same amounts
    rw [memXml, memXml, hmerged, hmerged', hmem]
    rfl

/-- The processors after a document has been read: their count as it was scanned, and no
weight. -/
theorem devVcpu_back (hdoc : ContentDocumented nodeContent)
    (hxml : systemToXml nodeContent newUuid d = .ok doc) (hback : getDominfoFromXml doc = .ok d') :
    d'.devVcpu.head?.map (·.dev) =
      d.devVcpu.head?.map fun vcpu => { quantity := scannedCount vcpu.dev.quantity } := by
  have hparse : parseDevices doc .proc = .ok d'.devVcpu := list_getDominfoFromXml hback nofun
  -- the processors are the first entry as well
  cases hvcpu : d.devVcpu.head? with
  | none =>
    have hnone : parseDevices doc .proc = .ok [] := by
      show doParse parseVcpuDevice (xpathNodes doc .proc) = _
      rw [(xpathNodes_capacities hxml).2, vcpuXml, hvcpu]
      rfl
    rw [← Except.ok.inj (hnone.symm.trans hparse)]
    rfl
  | some vcpu =>
    rw [← Except.ok.inj ((parseDevices_proc hdoc hxml hvcpu).symm.trans hparse)]
    rfl

/-- A number is read from its notation. -/
theorem nodeContent_repr_inj (hdoc : ContentDocumented nodeContent) {m n : UInt64}
    (h : nodeContent m.toNat.repr = nodeContent n.toNat.repr) : m = n := by
  have htext : contentText nodeContent m.toNat.repr = contentText nodeContent n.toNat.repr :=
    congrArg Node.textValue.textValues h
  rw [contentText_repr hdoc, contentText_repr hdoc] at htext
  have hscan := congrArg scanU64 htext
  rw [scanU64_repr, scanU64_repr] at hscan
  exact Option.some.inj hscan

/-- What is written for the processors, if there are any. -/
theorem vcpuXml_back (hdoc : ContentDocumented nodeContent)
    (hxml : systemToXml nodeContent newUuid d = .ok doc) (hback : getDominfoFromXml doc = .ok d') :
    vcpuXml nodeContent d' = d.devVcpu.head?.toList.map fun vcpu =>
      xmlNewChild nodeContent "vcpu" (some (toString (scannedCount vcpu.dev.quantity).toNat)) := by
  have hdev := devVcpu_back hdoc hxml hback
  unfold vcpuXml
  -- whatever the count was, one that a scan has read
  cases hvcpu : d.devVcpu.head? with
  | none =>
    rw [hvcpu, Option.map_none, Option.map_eq_none_iff] at hdev
    rw [hdev]
    rfl
  | some vcpu =>
    rw [hvcpu, Option.map_some, Option.map_eq_some_iff] at hdev
    obtain ⟨vcpu', hvcpu', hquantity⟩ := hdev
    rw [hvcpu']
    dsimp only
    rw [hquantity]
    rfl

/-- A count is written as it was before if the same number was scanned. -/
theorem vcpuXml_back_iff (hdoc : ContentDocumented nodeContent)
    (hxml : systemToXml nodeContent newUuid d = .ok doc) (hback : getDominfoFromXml doc = .ok d') :
    vcpuXml nodeContent d' = vcpuXml nodeContent d ↔
      ∀ vcpu ∈ d.devVcpu.head?, vcpu.dev.quantity.toNat < 2 ^ 31 ∨ vcpu.dev.quantity = -1 := by
  rw [vcpuXml_back hdoc hxml hback, vcpuXml]
  cases d.devVcpu.head? with
  | none => simp
  | some vcpu =>
    simp only [Option.toList_some, List.map_cons, List.map_nil, Option.mem_def,
      Option.some.injEq, forall_eq']
    -- a number comes back when it is in the range of the scan
    rw [← scannedCount_eq_iff]
    constructor
    · intro heq
      have hchildren := congrArg Node.children (List.cons.inj heq).1
      exact nodeContent_repr_inj hdoc hchildren
    · intro heq
      rw [heq]

/-- A parsed processor has no weight. -/
theorem weight_of_parsed (h : getDominfoFromXml root = .ok d) :
    ∀ vcpu ∈ d.devVcpu, vcpu.dev.weight = 0 := by
  intro vcpu hmem
  have hparse : parseDevices root .proc = .ok d.devVcpu := list_getDominfoFromXml h nofun
  obtain ⟨node, -, hnode⟩ := exists_node_of_mem hparse hmem
  cases hnode
  rfl

/-- The weight is written again as it is. -/
theorem cputuneXml_back (hdoc : ContentDocumented nodeContent)
    (h : getDominfoFromXml root = .ok d) (hxml : systemToXml nodeContent newUuid d = .ok doc)
    (hback : getDominfoFromXml doc = .ok d') :
    cputuneXml nodeContent d' = cputuneXml nodeContent d := by
  have hdev := devVcpu_back hdoc hxml hback
  unfold cputuneXml
  cases hvcpu : d.devVcpu.head? with
  -- the weight is not read, and a parsed domain has none to write
  | none =>
    rw [hvcpu, Option.map_none, Option.map_eq_none_iff] at hdev
    rw [hdev]
  | some vcpu =>
    rw [hvcpu, Option.map_some, Option.map_eq_some_iff] at hdev
    obtain ⟨vcpu', hvcpu', hweight⟩ := hdev
    rw [hvcpu']
    dsimp only
    rw [hweight, weight_of_parsed h vcpu (List.mem_of_mem_head? hvcpu)]

/-! ### The emulator and the devices -/

theorem emuXml_back_iff (hdoc : ContentDocumented nodeContent)
    (hemu : d'.devEmu = emuBack nodeContent d) :
    emuXml nodeContent d' = emuXml nodeContent d ↔
      ∀ emu ∈ d.devEmu.head?, ∀ path ∈ emu.dev.path, Settled nodeContent path := by
  rw [emuXml, emuXml, hemu, emuBack]
  cases d.devEmu.head? with
  | none => simp
  | some emu => simpa using xmlNewChild_back_iff hdoc "emulator" emu.dev.path

/-- The element of a console makes no display. -/
theorem graphicsXmlOf_console {cdev : ConsoleDevice} {nodes : List Node} {node : Node}
    (hxml : consoleXmlOf cdev = .ok nodes) (hnode : node ∈ nodes) {g : VirtDevice GraphicsDevice}
    (hparse : parseGraphicsDevice node = .ok g) : graphicsXmlOf g.dev = .ok [] := by
  cases hxml
  rw [List.mem_singleton] at hnode
  subst hnode
  obtain ⟨name, hname, -⟩ := chardevSourceType_back cdev.sourceType
  obtain ⟨-, type, htype, hcases⟩ := parseGraphicsDevice_ok hparse
  rw [hname] at htype
  have htype' : name = type := by simpa [prop] using htype
  subst htype'
  -- of the names of source types, only that of a terminal is one of the graphics
  have hpty : streqc name "pty" := by
    obtain ⟨hvnc, -⟩ | ⟨hsdl, -⟩ | ⟨hpty, -⟩ := hcases
    · cases hsource : cdev.sourceType <;> rw [hsource] at hname <;> cases hname <;>
        exact absurd hvnc (by decide)
    · cases hsource : cdev.sourceType <;> rw [hsource] at hname <;> cases hname <;>
        exact absurd hsdl (by decide)
    · exact hpty
  refine graphicsXmlOf_pty hparse ?_ (.inr rfl)
  simp [isPtyNode, prop, hname, hpty]

/-- Devices without elements. -/
theorem devicesXml_eq_nil {α : Type} {xml : α → Except String (List Node)}
    {devs : List (VirtDevice α)} (h : ∀ dev ∈ devs, xml dev.dev = .ok []) :
    devicesXml xml devs = .ok [] := by
  induction devs with
  | nil => rfl
  | cons dev devs ih =>
    rw [List.forall_mem_cons] at h
    rw [devicesXml, ih h.2, h.1]
    split <;> rfl

end Back

/-! ### The whole document -/

/-- What a domain needs for its document to be stable, field by field as the generator comes to
them. A container gains a console with every round; contents are settled if what is read of them
is what a second reading gives; and the texts of the whole document have to be well formed, for
else it is not parsed. -/
structure Stable (nodeContent : String → List Node) (newUuid : String) (d : Domain) : Prop where
  notLxc : d.type ≠ .lxc
  name : ∀ s ∈ d.name, Settled nodeContent s
  bootloader : ∀ s ∈ d.bootloader, Settled nodeContent s
  bootloaderArgs : ∀ s ∈ d.bootloaderArgs, Settled nodeContent s
  uuid : Settled nodeContent (d.uuid.getD newUuid)
  os : OsSettled nodeContent d
  emulator : ∀ emu ∈ d.devEmu.head?, ∀ path ∈ emu.dev.path, Settled nodeContent path
  vcpu : ∀ vcpu ∈ d.devVcpu.head?, vcpu.dev.quantity.toNat < 2 ^ 31 ∨ vcpu.dev.quantity = -1
  devices : ∀ kind, ∀ dev ∈ d.list kind, DevStable kind dev.dev
  contents : ∀ s ∈ contents d, ContentFit nodeContent s
  /-- the texts that are attributes, the addresses with them: no key of one is there twice -/
  others : OthersFit nodeContent d

/-- The second document is what is written for the domain the first one is parsed to. The
first one is a text, so that its tree is well formed. -/
def Regenerated (nodeContent : String → List Node) (newUuid : String) (root doc : Node) : Prop :=
  root.WellFormed ∧
    ∃ d, getDominfoFromXml root = .ok d ∧ systemToXml nodeContent newUuid d = .ok doc

section Whole

variable {newUuid : String} {root doc : Node} {d d' : Domain}

/-- No key of an address is there twice if the attributes can be written. -/
theorem nodup_keys_address (h : getDominfoFromXml root = .ok d)
    (hothers : OthersFit nodeContent d) {kind : DevKind} (hmem : kind ≠ .mem) :
    ∀ dev ∈ d.list kind, (keys (deviceAddress kind dev.dev)).Nodup := by
  intro dev hdev
  obtain ⟨node, -, hnode⟩ := exists_node_of_mem (list_getDominfoFromXml h hmem) hdev
  obtain ⟨-, haddress⟩ := hothers.devices kind dev hdev (type_of_parsed hnode)
  exact haddress.2

/-- The devices of a stable domain are written again as they are. -/
theorem devicesXml_back (h : getDominfoFromXml root = .ok d) {written : DevKind → List Node}
    (hwritten : ∀ kind, kind ≠ .mem → kind ≠ .proc →
      devicesXml (deviceXml d.type kind) (d.list kind) = .ok (written kind))
    (hselected : Selected d doc written) (hlxc : d.type ≠ .lxc)
    (hothers : OthersFit nodeContent d)
    (hdevices : ∀ kind, ∀ dev ∈ d.list kind, DevStable kind dev.dev)
    (hback : getDominfoFromXml doc = .ok d') :
    ∀ kind, kind ≠ .mem → kind ≠ .proc →
      devicesXml (deviceXml d.type kind) (d'.list kind) = .ok (written kind) := by
  -- stable devices are written as they are
  have hself (kind : DevKind) (hmem : kind ≠ .mem) (hproc : kind ≠ .proc) :
      Rewritten d.type kind (written kind) (written kind) := by
    rw [rewritten_self_iff]
    exact (regenerates_list_iff (list_getDominfoFromXml h hmem) (hwritten kind hmem hproc)
      (nodup_keys_address h hothers hmem)).mpr (hdevices kind)
  -- a list whose path selects what was written for it
  have hlist (kind : DevKind) (hmem : kind ≠ .mem) (hproc : kind ≠ .proc)
      (hnodes : xpathNodes doc kind = written kind) :
      devicesXml (deviceXml d.type kind) (d'.list kind) = .ok (written kind) := by
    obtain ⟨devs, hparse, hxml⟩ := hself kind hmem hproc
    have hparse' : doParse (doRealParse kind) (xpathNodes doc kind) = .ok (d'.list kind) :=
      list_getDominfoFromXml hback hmem
    rw [hnodes] at hparse'
    cases hparse.symm.trans hparse'
    exact hxml
  have hnone : lxcConsole d.type = [] := if_neg hlxc
  intro kind hmem hproc
  cases kind with
  | disk => exact hlist .disk hmem hproc hselected.disk
  | net => exact hlist .net hmem hproc hselected.net
  | input => exact hlist .input hmem hproc hselected.input
  | controller => exact hlist .controller hmem hproc hselected.controller
  | console =>
    refine hlist .console hmem hproc ?_
    rw [hselected.console, hnone, List.append_nil]
  | graphics =>
    -- the consoles among the graphics are read and not written
    have hgraphics : DevKind.graphics ≠ .net := nofun
    have hfault := doRealParse_ne_fault hgraphics
    obtain ⟨consoles, hconsoles⟩ : ∃ devs, doParse parseGraphicsDevice (written .console) =
        .ok devs :=
      exists_doParse fun node _ => hfault node
    have hunwritten : devicesXml graphicsXmlOf consoles = .ok [] := by
      apply devicesXml_eq_nil
      intro g hg
      obtain ⟨node, hnode, hparse⟩ := exists_node_of_mem hconsoles hg
      obtain ⟨cdev, -, nodes, hxml, hnode⟩ :=
        exists_dev_of_mem (hwritten .console nofun nofun) hnode
      exact graphicsXmlOf_console hxml hnode hparse
    obtain ⟨devs, hparse, hxml⟩ := hself .graphics nofun nofun
    have hparse' : doParse (doRealParse .graphics) (xpathNodes doc .graphics) =
        .ok (d'.list .graphics) :=
      list_getDominfoFromXml hback nofun
    rw [hselected.graphics, hnone, List.append_nil] at hparse'
    -- what was read of them stands before the rest
    have happend : doParse (doRealParse .graphics) (written .console ++ written .graphics) =
        .ok (consoles ++ devs) :=
      doParse_append hconsoles hparse
    rw [← Except.ok.inj (happend.symm.trans hparse')]
    exact devicesXml_append hunwritten hxml
  | mem => exact absurd rfl hmem
  | proc => exact absurd rfl hproc

/-- What is known of the domain that a written document is parsed to. -/
structure Back (nodeContent : String → List Node) (newUuid : String) (d d' : Domain) : Prop where
  emu : d'.devEmu = emuBack nodeContent d
  type : d'.type = d.type
  uuid : d'.uuid = some (contentText nodeContent (d.uuid.getD newUuid))
  system : ∀ uuid, systemXml nodeContent d' uuid =
    systemXml nodeContent (settingsBack nodeContent newUuid d) uuid
  os : osXml nodeContent d' = osXml nodeContent (settingsBack nodeContent newUuid d)
  features : featuresXml d' = featuresXml d

/-- A document that is written for a parsed domain is parsed again. -/
theorem exists_back (hdoc : ContentDocumented nodeContent) (h : getDominfoFromXml root = .ok d)
    (hxml : systemToXml nodeContent newUuid d = .ok doc) :
    ∃ d', getDominfoFromXml doc = .ok d' ∧ Back nodeContent newUuid d d' := by
  obtain ⟨os, -, hos, -, -⟩ := systemToXml_parts hxml
  have hsupported : Supported d.type := by
    unfold osXml at hos
    split at hos <;> rename_i htype <;> rw [htype]
    case h_6 | h_7 => cases hos
    all_goals exact ⟨nofun, nofun⟩
  have htype : TypeComesBack nodeContent d := typeComesBack_of_parsed hdoc h hsupported
  obtain ⟨d', hback, hemu, heq⟩ := getDominfoFromXml_systemToXml hdoc htype (mac_of_parsed h) hxml
  refine ⟨d', hback, hemu, ?_, ?_, fun uuid => ?_, ?_, ?_⟩ <;> rw [heq] <;> rfl

/-- The elements of a document, in the order of its lists. -/
theorem selected_of_written (hxml : systemToXml nodeContent newUuid d = .ok doc)
    {written : DevKind → List Node} (hwritten : ∀ kind, kind ≠ .mem → kind ≠ .proc →
      devicesXml (deviceXml d.type kind) (d.list kind) = .ok (written kind)) :
    Selected d doc written := by
  obtain ⟨written', hwritten', hselected, -⟩ := selected_systemToXml hxml
  -- the lists written are fixed by the domain
  have hsame (kind : DevKind) (hmem : kind ≠ .mem) (hproc : kind ≠ .proc) :
      written' kind = written kind :=
    Except.ok.inj ((hwritten' kind hmem hproc).symm.trans (hwritten kind hmem hproc))
  have hdisk := hsame .disk nofun nofun
  have hnet := hsame .net nofun nofun
  have hinput := hsame .input nofun nofun
  have hconsole := hsame .console nofun nofun
  have hgraphics := hsame .graphics nofun nofun
  have hcontroller := hsame .controller nofun nofun
  refine ⟨?_, ?_, ?_, ?_, ?_, ?_⟩
  · rw [hselected.disk, hdisk]
  · rw [hselected.net, hnet]
  · rw [hselected.input, hinput]
  · rw [hselected.console, hconsole]
  · rw [hselected.graphics, hconsole, hgraphics]
  · rw [hselected.controller, hcontroller]

/-- A stable domain is written again as it is. -/
theorem regenerated_of_stable (hdoc : ContentDocumented nodeContent) (hnew : PlainText newUuid)
    (newUuid' : String) (h : getDominfoFromXml root = .ok d)
    (hxml : systemToXml nodeContent newUuid d = .ok doc)
    (hstable : Stable nodeContent newUuid d) : Regenerated nodeContent newUuid' doc doc := by
  -- the document is well formed, can be read, and is written again
  have hwell : doc.WellFormed :=
    (wellFormed_systemToXml hdoc hnew hxml).mpr ⟨hstable.contents, hstable.others⟩
  obtain ⟨d', hback, hd'⟩ := exists_back hdoc h hxml
  obtain ⟨os, written, hos, hwritten, hparts⟩ := systemToXml_parts hxml
  have hselected := selected_of_written hxml hwritten
  -- each part of the domain that was read is written as before
  have hos' : osXml nodeContent d' = .ok os := by
    rw [hd'.os]
    exact (osXml_back_iff hdoc newUuid hos).mpr hstable.os
  have hdevices :=
    devicesXml_back h hwritten hselected hstable.notLxc hstable.others hstable.devices hback
  rw [← hd'.type] at hdevices
  have helement := devicesElementXml_of_lists nodeContent written hdevices
  have hsystem : systemXml nodeContent d' (d'.uuid.getD newUuid') =
      systemXml nodeContent d (d.uuid.getD newUuid) := by
    rw [hd'.system, hd'.uuid]
    exact (systemXml_back_iff hdoc newUuid d).mpr
      ⟨hstable.name, hstable.bootloader, hstable.bootloaderArgs, hstable.uuid⟩
  have hdomtype : domtype d' = domtype d := by
    rw [domtype, hd'.type]
    rfl
  refine ⟨hwell, d', hback, ?_⟩
  -- part by part, what is written for the second domain is what was written for the first
  rw [systemToXml, hos', helement, hparts, ← hsystem, ← hd'.features, ← memXml_back hdoc hxml hback,
    ← (vcpuXml_back_iff hdoc hxml hback).mpr hstable.vcpu, ← cputuneXml_back hdoc h hxml hback,
    ← (emuXml_back_iff hdoc hd'.emu).mpr hstable.emulator, ← hdomtype, ← hd'.type]
  rfl

/-- The console of a container is parsed, and written as one more. -/
theorem regenerates_lxcConsole (domtype : DomainType) :
    Regenerates domtype .console (.elem "console" [("type", "pty")] []) := by
  have hxml : consoleXmlOf { sourceType := .pty } =
      .ok [.elem "console" [("type", "pty")] []] := rfl
  exact (regenerates_console_iff hxml).mpr rfl

/-- A domain that is written again as it is is stable. -/
theorem stable_of_regenerated (hdoc : ContentDocumented nodeContent) (hnew : PlainText newUuid)
    {newUuid' : String} (h : getDominfoFromXml root = .ok d)
    (hxml : systemToXml nodeContent newUuid d = .ok doc)
    (hregenerated : Regenerated nodeContent newUuid' doc doc) : Stable nodeContent newUuid d := by
  obtain ⟨d', hback, hd'⟩ := exists_back hdoc h hxml
  obtain ⟨hwell, d'', hback', hxml'⟩ := hregenerated
  -- the domain that is read and the one written again are the same
  cases hback.symm.trans hback'
  obtain ⟨hcontents, hothers⟩ := (wellFormed_systemToXml hdoc hnew hxml).mp hwell
  obtain ⟨os, written, hos, hwritten, hparts⟩ := systemToXml_parts hxml
  obtain ⟨os', written', hos', hwritten', hparts'⟩ := systemToXml_parts hxml'
  have hselected := selected_of_written hxml hwritten
  have hselected' := selected_of_written hxml' hwritten'
  -- what stands before the system is as long as before
  have hchildren := (Node.elem.inj (hparts.symm.trans hparts')).2.2
  simp only [List.append_assoc] at hchildren
  have hlength : (systemXml nodeContent d (d.uuid.getD newUuid)).length =
      (systemXml nodeContent d' (d'.uuid.getD newUuid')).length := by
    rw [hd'.system, length_systemXml]
  obtain ⟨hsystem, hrest⟩ := List.append_inj hchildren hlength
  obtain rfl : os = os' := (List.cons.inj hrest).1
  -- what is written after the settings is told apart by their number
  rw [hd'.os] at hos'
  rw [hd'.system, hd'.uuid] at hsystem
  obtain ⟨hname, hbootloader, hargs, huuid⟩ :=
    (systemXml_back_iff hdoc newUuid d).mp hsystem.symm
  have hvcpu : vcpuXml nodeContent d' = vcpuXml nodeContent d :=
    (xpathNodes_capacities hxml').2.symm.trans (xpathNodes_capacities hxml).2
  have hemu : emuXml nodeContent d' = emuXml nodeContent d := by
    obtain ⟨-, -, -, hemu⟩ := selected_systemToXml hxml
    obtain ⟨-, -, -, hemu'⟩ := selected_systemToXml hxml'
    exact hemu'.symm.trans hemu
  have hconsole : written' .console = written .console := by
    have heq := hselected'.console.symm.trans hselected.console
    rw [hd'.type] at heq
    exact List.append_cancel_right heq
  -- the lists of the parsed document are what is written again
  have hrewritten (kind : DevKind) (hmem : kind ≠ .mem) (hproc : kind ≠ .proc) :
      Rewritten d.type kind (xpathNodes doc kind) (written' kind) := by
    have hparse : parseDevices doc kind = .ok (d'.list kind) := list_getDominfoFromXml hback hmem
    rw [← hd'.type]
    exact ⟨d'.list kind, hparse, hwritten' kind hmem hproc⟩
  -- a container writes one console more each time
  have hnotLxc : d.type ≠ .lxc := by
    intro hlxc
    have hmore := hrewritten .console nofun nofun
    rw [hselected.console, hconsole, lxcConsole, if_pos hlxc] at hmore
    exact not_rewritten_append (regenerates_lxcConsole d.type) _ hmore
  -- the list comes back, so every device in it is stable
  have hstable (kind : DevKind) (hmem : kind ≠ .mem) (hproc : kind ≠ .proc)
      (hnodes : xpathNodes doc kind = written kind) (hsame : written' kind = written kind) :
      ∀ dev ∈ d.list kind, DevStable kind dev.dev := by
    have hself := hrewritten kind hmem hproc
    rw [hnodes, hsame, rewritten_self_iff] at hself
    exact (regenerates_list_iff (list_getDominfoFromXml h hmem) (hwritten kind hmem hproc)
      (nodup_keys_address h hothers hmem)).mp hself
  refine
    { notLxc := hnotLxc
      name := hname
      bootloader := hbootloader
      bootloaderArgs := hargs
      uuid := huuid
      os := (osXml_back_iff hdoc newUuid hos).mp hos'
      emulator := (emuXml_back_iff hdoc hd'.emu).mp hemu
      vcpu := (vcpuXml_back_iff hdoc hxml hback).mp hvcpu
      devices := fun kind => ?_
      contents := hcontents
      others := hothers }
  -- kind by kind; graphics and inputs are stable whatever they hold
  cases kind with
  | disk =>
    exact hstable .disk nofun nofun hselected.disk (hselected'.disk.symm.trans hselected.disk)
  | net => exact hstable .net nofun nofun hselected.net (hselected'.net.symm.trans hselected.net)
  | console =>
    refine hstable .console nofun nofun ?_ hconsole
    rw [hselected.console, lxcConsole, if_neg hnotLxc, List.append_nil]
  | controller =>
    exact hstable .controller nofun nofun hselected.controller
      (hselected'.controller.symm.trans hselected.controller)
  | graphics | input | mem | proc => exact fun _ _ => trivial

/-- **Writing a document again** gives the same document if and only if the domain is
stable. Of libxml2 it is assumed that a text without `&` is content as it stands, and of the
UUID that is made up for a domain without one that it is plain text; both directions rest on
`exists_back`, that the document is parsed to a domain whose parts are known. -/
theorem regenerated_iff (hdoc : ContentDocumented nodeContent) (hnew : PlainText newUuid)
    (newUuid' : String) (h : getDominfoFromXml root = .ok d)
    (hxml : systemToXml nodeContent newUuid d = .ok doc) :
    Regenerated nodeContent newUuid' doc doc ↔ Stable nodeContent newUuid d := by
  exact ⟨stable_of_regenerated hdoc hnew h hxml, regenerated_of_stable hdoc hnew newUuid' h hxml⟩

end Whole

end Document

theorem regenerated_kvmDomain :
    ∃ doc, systemToXml textNodes "" kvmDomain = .ok doc ∧
      (Regenerated textNodes "" doc doc ↔ Stable textNodes "" kvmDomain) := by
  have hdoc : ContentDocumented textNodes := fun _ _ => rfl
  have h : getDominfoFromXml (kvmRoot kvmActions [.elem "boot" [("dev", "hd")] [],
      .elem "boot" [("dev", "cdrom")] []]) = .ok kvmDomain := rfl
  obtain ⟨doc, hxml⟩ : ∃ doc, systemToXml textNodes "" kvmDomain = .ok doc := ⟨_, rfl⟩
  exact ⟨doc, hxml, regenerated_iff hdoc (by decide) "" h hxml⟩

/-- Whatever is written for a document is written again as it is. -/
def Idempotent (root : Node) : Prop :=
  ∀ doc, Regenerated textNodes "" root doc → Regenerated textNodes "" doc doc

theorem not_idempotent_of_parsed {root doc : Node} {d : Domain} (hwell : root.WellFormed)
    (h : getDominfoFromXml root = .ok d) (hxml : systemToXml textNodes "" d = .ok doc)
    (hunstable : ¬ Stable textNodes "" d) : ¬ Idempotent root := by
  intro hidempotent
  have hagain : Regenerated textNodes "" doc doc := hidempotent doc ⟨hwell, d, h, hxml⟩
  exact hunstable (stable_of_regenerated (fun _ _ => rfl) (by decide) h hxml hagain)

/-- The description of a container without devices. -/
def containerRoot : Node :=
  .elem "domain" [("type", "lxc")]
    [.elem "name" [] [.text "container"],
      .elem "os" [] [.elem "type" [] [.text "exe"], .elem "init" [] [.text "/sbin/init"]],
      .elem "devices" [] []]

/-- The description of a KVM guest with one device. -/
def kvmDeviceRoot (device : Node) : Node :=
  .elem "domain" [("type", "kvm")]
    [.elem "name" [] [.text "guest"], .elem "os" [] [.elem "type" [] [.text "hvm"]],
      .elem "devices" [] [device]]

theorem wellFormed_containerRoot : containerRoot.WellFormed := by
  have htext (s : String) (hs : XmlText s) : (Node.text s).WellFormed := hs
  simp +decide [containerRoot, Node.wellFormed_elem, htext]

/-- The description is well formed if the device is. -/
theorem wellFormed_kvmDeviceRoot {device : Node} (h : device.WellFormed) :
    (kvmDeviceRoot device).WellFormed := by
  have htext (s : String) (hs : XmlText s) : (Node.text s).WellFormed := hs
  simp +decide [kvmDeviceRoot, Node.wellFormed_elem, htext, h]

/-- A container gets one console more each time. The console of a KVM guest is lost when it
has a target, and so are the queues of a controller. A disk with two addresses of a bus has
the bus twice in the one address that is written, and the document cannot be read. -/
theorem not_idempotent :
    ¬ Idempotent containerRoot ∧
    ¬ Idempotent (kvmDeviceRoot (.elem "console" [("type", "pty")]
      [.elem "target" [("type", "serial"), ("port", "0")] []])) ∧
    ¬ Idempotent (kvmDeviceRoot (.elem "controller" [("type", "scsi"), ("index", "0")]
      [.elem "driver" [("queues", "4")] []])) ∧
    ¬ Idempotent (kvmDeviceRoot (.elem "disk" [("type", "file"), ("device", "disk")]
      [.elem "source" [("file", "/img")] [], .elem "target" [("dev", "vda"), ("bus", "virtio")] [],
        .elem "address" [("bus", "0")] [], .elem "address" [("bus", "0")] []])) := by
  -- a container, a console without a source, a queue count, and an address with a key twice
  refine ⟨not_idempotent_of_parsed wellFormed_containerRoot rfl rfl ?_,
    not_idempotent_of_parsed (wellFormed_kvmDeviceRoot ?_) rfl rfl ?_,
    not_idempotent_of_parsed (wellFormed_kvmDeviceRoot ?_) rfl rfl ?_,
    not_idempotent_of_parsed (wellFormed_kvmDeviceRoot ?_) rfl rfl ?_⟩
  · intro hstable
    exact hstable.notLxc rfl
  · simp +decide [Node.wellFormed_elem]
  · intro hstable
    have hconsole := hstable.devices .console _ List.mem_cons_self
    exact absurd hconsole nofun
  · simp +decide [Node.wellFormed_elem]
  · intro hstable
    have hcontroller := hstable.devices .controller _ List.mem_cons_self
    exact absurd hcontroller.1 nofun
  · simp +decide [Node.wellFormed_elem]
  · intro hstable
    -- the key is there twice
    obtain ⟨-, hkeys⟩ := hstable.others.devices .disk _ List.mem_cons_self nofun
    exact absurd hkeys.2 (by decide)

end LibvirtCim.Device
