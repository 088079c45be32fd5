import LibvirtCim.Device.Reread

/-!
# The settings of a domain through the generator and back

What `get_dominfo_from_xml` makes of the settings that `system_to_xml` writes for a domain
it parsed. The action on a reboot is never written, and the two other actions always are: the
zero that stands for an element that is not there comes back as the number of `destroy`. Each
type of guest has fields of its system that its generator leaves out (the architecture and the
machine of a Xen guest, the loader of a KVM guest), and some that it writes with a default when
they are not set. A text comes back when libxml2 keeps it.
-/

open Framework

namespace LibvirtCim.Device

/-- The fields of the description of a system that its type uses. -/
def osFields (type : DomainType) (os : OsInfo) : OsInfo :=
  match type with
  | .xenpv => { kernel := os.kernel, initrd := os.initrd, cmdline := os.cmdline }
  | .xenfv | .kvm | .qemu =>
    { arch := os.arch, machine := os.machine, loader := os.loader, bootlist := os.bootlist }
  | .lxc => { init := os.init }
  | .unknown | .unsupported => {}

/-- The two domains have the same settings. -/
structure SettingsAgree (d' d : Domain) : Prop where
  name : d'.name = d.name
  uuid : d'.uuid = d.uuid
  type : d'.type = d.type
  bootloader : d'.bootloader = d.bootloader
  bootloaderArgs : d'.bootloaderArgs = d.bootloaderArgs
  onPoweroff : d'.onPoweroff = d.onPoweroff
  onReboot : d'.onReboot = d.onReboot
  onCrash : d'.onCrash = d.onCrash
  clock : d'.clock = d.clock
  acpi : d'.acpi = d.acpi
  apic : d'.apic = d.apic
  pae : d'.pae = d.pae
  emulator : d'.devEmu = d.devEmu
  os : osFields d.type d'.osInfo = osFields d.type d.osInfo

section Settings

variable (nodeContent : String → List Node) (newUuid : String)

/-- The domain is written, and the document is parsed to one with the same settings. -/
def SettingsComeBack (d : Domain) : Prop :=
  ∃ doc d', systemToXml nodeContent newUuid d = .ok doc ∧ getDominfoFromXml doc = .ok d' ∧
    SettingsAgree d' d

/-- There is a text, and it survives. -/
def TextSurvives (text : Option String) : Prop :=
  ∃ s, text = some s ∧ Survives nodeContent s

/-- There are boot devices, all with a name. -/
def BootlistFits (bootlist : List (Option String)) : Prop :=
  bootlist ≠ [] ∧ ∀ dev ∈ bootlist, dev.isSome

/-- The description of the system has just what its generator writes. -/
def OsFits (d : Domain) : Prop :=
  match d.type with
  | .xenpv => TextSurvives nodeContent d.osInfo.kernel ∧ TextSurvives nodeContent d.osInfo.initrd ∧
      TextSurvives nodeContent d.osInfo.cmdline
  | .xenfv => d.osInfo.arch = none ∧ d.osInfo.machine = none ∧
      TextSurvives nodeContent d.osInfo.loader ∧ BootlistFits d.osInfo.bootlist
  | .kvm | .qemu => d.osInfo.loader = none ∧ BootlistFits d.osInfo.bootlist
  | .lxc => TextSurvives nodeContent d.osInfo.init
  | .unknown | .unsupported => True

/-- The generator has what it needs to write an interface. -/
def NetWritable (net : NetDevice) : Prop :=
  (net.type = some "network" ∨ net.type = some "bridge") ∧ net.source.isSome ∨
    net.type = some "user" ∨
    net.type = some "direct" ∧ (net.source.isSome ∨ net.vsi.vsiType.isSome)

/-- What a domain needs for its settings to come back. Contents have to survive being written and
read; the actions come back only if the two that are written were there to be read, since no
element stands for a missing one, and a reboot has no action of its own; and a document is written
at all only with interfaces that can be. -/
structure SettingsFit (d : Domain) : Prop where
  name : TextSurvives nodeContent d.name
  uuid : TextSurvives nodeContent d.uuid
  bootloader : ∀ s ∈ d.bootloader, Survives nodeContent s
  bootloaderArgs : ∀ s ∈ d.bootloaderArgs, Survives nodeContent s
  onPoweroff : d.onPoweroff ≠ 0
  onReboot : d.onReboot = 0
  onCrash : d.onCrash ≠ 0
  emulator : d.devEmu.length ≤ 1 ∧
    ∀ emu ∈ d.devEmu, ∀ path ∈ emu.dev.path, Survives nodeContent path
  os : OsFits nodeContent d
  nets : ∀ net ∈ d.devNet, NetWritable net.dev

/-! ### What comes back, setting by setting -/

theorem text_comesBack_iff (text : Option String) :
    some (text.elim "" (contentText nodeContent)) = text ↔ TextSurvives nodeContent text := by
  cases text with
  | none => simp [TextSurvives]
  | some s => simp [TextSurvives, Survives]

/-- A text with a default comes back when it is there. -/
theorem text_getD_comesBack_iff (text : Option String) (default : String) :
    some (contentText nodeContent (text.getD default)) = text ↔ TextSurvives nodeContent text := by
  cases text with
  | none => simp [TextSurvives]
  | some s => simp [TextSurvives, Survives]

theorem optional_comesBack_iff (text : Option String) :
    text.map (contentText nodeContent) = text ↔ ∀ s ∈ text, Survives nodeContent s := by
  cases text with
  | none => simp
  | some s => simp [Survives]

theorem bootlistBack_eq_iff (os : OsInfo) :
    bootlistBack os = os.bootlist ↔ BootlistFits os.bootlist := by
  -- a device without a name gets an empty one
  have hnamed (devs : List (Option String)) :
      (devs.map fun dev => some (dev.getD "")) = devs ↔ ∀ dev ∈ devs, dev.isSome := by
    induction devs with
    | nil => simp
    | cons dev devs ih =>
      rw [List.map_cons, List.cons_eq_cons, ih, List.forall_mem_cons]
      cases dev <;> simp
  unfold bootlistBack BootlistFits
  split
  · next hnil => simp [hnil]
  · next hne =>
    rw [hnamed]
    exact ⟨fun h => ⟨hne, h⟩, fun h => h.2⟩

theorem emuBack_eq_iff {d : Domain}
    (hemu : ∀ emu ∈ d.devEmu, ∃ path, emu = { type := .emu, dev := { path := some path } }) :
    emuBack nodeContent d = d.devEmu ↔ d.devEmu.length ≤ 1 ∧
      ∀ emu ∈ d.devEmu, ∀ path ∈ emu.dev.path, Survives nodeContent path := by
  unfold emuBack
  cases h : d.devEmu with
  | nil => simp
  | cons emu rest =>
    rw [h, List.forall_mem_cons] at hemu
    obtain ⟨⟨path, rfl⟩, -⟩ := hemu
    cases rest with
    | nil => simp [Survives]
    | cons emu' rest => simp

theorem osBack_eq_iff {d : Domain} (hsupported : Supported d.type) :
    osFields d.type (osBack nodeContent d) = osFields d.type d.osInfo ↔ OsFits nodeContent d := by
  cases htype : d.type with
  | xenpv =>
    simp [osFields, osBack, OsFits, htype, text_comesBack_iff, text_getD_comesBack_iff]
  | xenfv =>
    simp [osFields, osBack, OsFits, htype, text_getD_comesBack_iff, bootlistBack_eq_iff,
      eq_comm (a := none)]
  | kvm =>
    simp [osFields, osBack, OsFits, htype, bootlistBack_eq_iff, eq_comm (a := none)]
  | qemu =>
    simp [osFields, osBack, OsFits, htype, bootlistBack_eq_iff, eq_comm (a := none)]
  | lxc => simp [osFields, osBack, OsFits, htype, text_comesBack_iff]
  | unknown => exact absurd htype hsupported.1
  | unsupported => exact absurd htype hsupported.2

/-! ### When a domain is written -/

theorem setNetSource_isOk_iff (net : NetDevice) (srcType : String) :
    (∃ rest, setNetSource net srcType = .ok rest) ↔ net.source.isSome := by
  unfold setNetSource
  cases net.source with
  | none => simp
  | some source =>
    simp only [Option.isSome_some, iff_true]
    split <;> exact ⟨_, rfl⟩

theorem netTypeXml_isOk_iff (domtype : DomainType) (net : NetDevice) :
    (∃ rest, netTypeXml net domtype = .ok rest) ↔ NetWritable net := by
  -- the cases of net_xml by the type of the interface, in its order
  by_cases hnetwork : net.type = some "network"
  · rw [netTypeXml, if_pos hnetwork, setNetSource_isOk_iff]
    simp [NetWritable, hnetwork]
  by_cases hbridge : net.type = some "bridge"
  · -- the script does not fail
    have hscript : (∃ rest, bridgeNetToXml net domtype = .ok rest) ↔
        ∃ rest, setNetSource net "bridge" = .ok rest := by
      unfold bridgeNetToXml
      cases setNetSource net "bridge" with
      | error msg => rfl
      | ok source =>
        by_cases hxen : domtype = .xenpv ∨ domtype = .xenfv
        · simp [bind, Except.bind, hxen]
        · simp [bind, Except.bind, hxen]
    rw [netTypeXml, if_neg hnetwork, if_pos hbridge, hscript, setNetSource_isOk_iff]
    simp [NetWritable, hbridge]
  by_cases huser : net.type = some "user"
  · simp [netTypeXml, NetWritable, huser]
  by_cases hdirect : net.type = some "direct"
  · rw [netTypeXml, if_neg hnetwork, if_neg hbridge, if_neg huser, if_pos hdirect]
    -- a direct interface may have a port profile in place of a source
    split
    · next hvsi =>
      rw [setNetSource_isOk_iff]
      simp [NetWritable, hdirect, hvsi]
    · next hvsi =>
      simp [NetWritable, hdirect, Option.isSome_iff_ne_none, hvsi]
  · simp [netTypeXml, NetWritable, hnetwork, hbridge, huser, hdirect]

/-- A list of devices is written when each device is. -/
theorem devicesXml_isOk_iff {α : Type} {xml : α → Except String (List Node)}
    {devs : List (VirtDevice α)} (htype : ∀ dev ∈ devs, dev.type ≠ .unknown) :
    (∃ nodes, devicesXml xml devs = .ok nodes) ↔
      ∀ dev ∈ devs, ∃ nodes, xml dev.dev = .ok nodes := by
  -- the list is written if each of its devices is
  induction devs with
  | nil => exact ⟨fun _ => nofun, fun _ => ⟨[], rfl⟩⟩
  | cons dev devs ih =>
    rw [List.forall_mem_cons] at htype ⊢
    rw [← ih htype.2]
    constructor
    · rintro ⟨nodes, h⟩
      obtain ⟨hunknown, -⟩ | ⟨-, ns, rest, hns, hrest, -⟩ := devicesXml_cons h
      · exact absurd hunknown htype.1
      · exact ⟨⟨ns, hns⟩, rest, hrest⟩
    · rintro ⟨⟨ns, hns⟩, rest, hrest⟩
      refine ⟨ns ++ rest, ?_⟩
      rw [devicesXml, if_neg htype.1, hns, hrest]
      rfl

/-- The devices that are no interfaces are always written. -/
theorem deviceXml_isOk {domtype : DomainType} {kind : DevKind} (hkind : kind ≠ .net) {node : Node}
    {d : VirtDevice kind.Dev} (h : doRealParse kind node = .ok d) :
    ∃ nodes, deviceXml domtype kind d.dev = .ok nodes := by
  -- the generators that can fail are asked what the parser has left them
  cases kind with
  | net => exact absurd rfl hkind
  | disk =>
    -- a parsed disk is of one of the three types
    have htype : d.dev.diskType ≠ .unknown := by
      obtain ⟨-, h⟩ | ⟨-, h⟩ := parseDiskDevice_ok h
      · obtain ⟨-, -, -, -, htype | htype⟩ := parseBlockDevice_ok h <;> rw [htype] <;> nofun
      · rw [(parseFsDevice_ok h).2.2.2.2.2]
        nofun
    show ∃ nodes, diskXmlOf d.dev = .ok nodes
    unfold diskXmlOf
    split
    · exact ⟨_, rfl⟩
    · exact ⟨_, rfl⟩
    · exact ⟨_, rfl⟩
    · next hunknown => exact absurd hunknown htype
  | controller =>
    obtain ⟨-, typeStr, htype, hknown, -⟩ := parseControllerDevice_ok h
    rw [htype] at hknown
    -- the name of the protocol is known, as it was read
    obtain ⟨name, hname, -⟩ := controllerProtocolTypeIDToStr_StrToID hknown
    rw [← htype] at hname
    show ∃ nodes, controllerXmlOf d.dev = .ok nodes
    unfold controllerXmlOf
    rw [hname]
    exact ⟨_, rfl⟩
  | graphics =>
    show ∃ nodes, graphicsXmlOf d.dev = .ok nodes
    unfold graphicsXmlOf
    split <;> exact ⟨_, rfl⟩
  | console => exact ⟨_, rfl⟩
  | input => exact ⟨_, rfl⟩
  | mem => exact ⟨_, rfl⟩
  | proc => exact ⟨_, rfl⟩

theorem netXmlOf_isOk_iff (domtype : DomainType) (net : NetDevice) :
    (∃ nodes, netXmlOf domtype net = .ok nodes) ↔ NetWritable net := by
  rw [← netTypeXml_isOk_iff domtype net]
  constructor
  · rintro ⟨nodes, h⟩
    obtain ⟨rest, hrest, -⟩ := bind_eq_ok h
    exact ⟨rest, hrest⟩
  · rintro ⟨rest, hrest⟩
    unfold netXmlOf
    rw [hrest]
    exact ⟨_, rfl⟩

/-- **A parsed domain is written** if and only if its interfaces are. -/
theorem systemToXml_isOk_iff {root : Node} {d : Domain} (h : getDominfoFromXml root = .ok d)
    (hsupported : Supported d.type) :
    (∃ doc, systemToXml nodeContent newUuid d = .ok doc) ↔
      ∀ net ∈ d.devNet, NetWritable net.dev := by
  -- every device of the lists was parsed, the memory apart
  have hparsed (kind : DevKind) (hmem : kind ≠ .mem) :
      ∀ dev ∈ d.list kind, ∃ node, doRealParse kind node = .ok dev := by
    intro dev hdev
    obtain ⟨node, -, hnode⟩ := exists_node_of_mem (list_getDominfoFromXml h hmem) hdev
    exact ⟨node, hnode⟩
  -- so it has a type, and none is skipped
  have hlist (kind : DevKind) (hmem : kind ≠ .mem) :
      (∃ nodes, devicesXml (deviceXml d.type kind) (d.list kind) = .ok nodes) ↔
        ∀ dev ∈ d.list kind, ∃ nodes, deviceXml d.type kind dev.dev = .ok nodes := by
    apply devicesXml_isOk_iff
    intro dev hdev
    obtain ⟨node, hnode⟩ := hparsed kind hmem dev hdev
    exact type_of_parsed hnode
  constructor
  -- the network devices are the ones that may not be writable
  · rintro ⟨doc, hdoc⟩ net hnet
    obtain ⟨written, hwritten, -⟩ := selected_systemToXml hdoc
    have hnets := (hlist .net nofun).mp ⟨_, hwritten .net nofun nofun⟩
    exact (netXmlOf_isOk_iff d.type net.dev).mp (hnets net hnet)
  · intro hnets
    have hwritten (kind : DevKind) (hmem : kind ≠ .mem) :
        ∃ nodes, devicesXml (deviceXml d.type kind) (d.list kind) = .ok nodes := by
      rw [hlist kind hmem]
      intro dev hdev
      by_cases hkind : kind = .net
      · subst hkind
        exact (netXmlOf_isOk_iff d.type dev.dev).mpr (hnets dev hdev)
      · obtain ⟨node, hnode⟩ := hparsed kind hmem dev hdev
        exact deviceXml_isOk hkind hnode
    choose written hwritten using hwritten
    have hdevices := devicesElementXml_of_lists nodeContent
      (fun kind => if hmem : kind ≠ .mem then written kind hmem else [])
      (fun kind hmem _ => by rw [dif_pos hmem]; exact hwritten kind hmem)
    -- a supported type has a generator for its os part
    have hos : ∃ os, osXml nodeContent d = .ok os := by
      unfold osXml
      split
      · exact ⟨_, rfl⟩
      · exact ⟨_, rfl⟩
      · exact ⟨_, rfl⟩
      · exact ⟨_, rfl⟩
      · exact ⟨_, rfl⟩
      · next hunknown => exact absurd hunknown hsupported.1
      · next hunsupported => exact absurd hunsupported hsupported.2
    obtain ⟨os, hos⟩ := hos
    unfold systemToXml
    rw [hos, hdevices]
    exact ⟨_, rfl⟩

/-! ### The round trip -/

/-- Whether what comes back agrees, setting by setting. -/
theorem settingsAgree_iff {d d' : Domain} (hsupported : Supported d.type)
    (hpath : ∀ emu ∈ d.devEmu, ∃ path, emu = { type := .emu, dev := { path := some path } })
    (hemu : d'.devEmu = emuBack nodeContent d)
    (heq : d' = { settingsBack nodeContent newUuid d with
      devEmu := d'.devEmu
      devGraphics := d'.devGraphics
      devConsole := d'.devConsole
      devInput := d'.devInput
      devMem := d'.devMem
      devNet := d'.devNet
      devDisk := d'.devDisk
      devVcpu := d'.devVcpu
      devController := d'.devController })
    (hactions : ActionRead d.onPoweroff ∧ ActionRead d.onCrash)
    (hnets : ∀ net ∈ d.devNet, NetWritable net.dev) :
    SettingsAgree d' d ↔ SettingsFit nodeContent d := by
  -- one equivalence for each setting, named after it
  have hname : d'.name = d.name ↔ TextSurvives nodeContent d.name := by
    rw [heq]
    exact text_comesBack_iff nodeContent d.name
  have huuid : d'.uuid = d.uuid ↔ TextSurvives nodeContent d.uuid := by
    rw [heq]
    exact text_getD_comesBack_iff nodeContent d.uuid newUuid
  have hbootloader : d'.bootloader = d.bootloader ↔
      ∀ s ∈ d.bootloader, Survives nodeContent s := by
    rw [heq]
    exact optional_comesBack_iff nodeContent d.bootloader
  have hargs : d'.bootloaderArgs = d.bootloaderArgs ↔
      ∀ s ∈ d.bootloaderArgs, Survives nodeContent s := by
    rw [heq]
    exact optional_comesBack_iff nodeContent d.bootloaderArgs
  have hpoweroff : d'.onPoweroff = d.onPoweroff ↔ d.onPoweroff ≠ 0 := by
    rw [heq]
    exact hactions.1.comesBack_iff
  -- on_reboot is always written as 0
  have hreboot : d'.onReboot = d.onReboot ↔ d.onReboot = 0 := by
    rw [heq]
    exact eq_comm
  have hcrash : d'.onCrash = d.onCrash ↔ d.onCrash ≠ 0 := by
    rw [heq]
    exact hactions.2.comesBack_iff
  have hemulator := emuBack_eq_iff nodeContent hpath
  rw [← hemu] at hemulator
  have hos : osFields d.type d'.osInfo = osFields d.type d.osInfo ↔ OsFits nodeContent d := by
    rw [heq]
    exact osBack_eq_iff nodeContent hsupported
  constructor
  -- each setting needs its own condition and nothing else
  · intro h
    exact
      { name := hname.mp h.name
        uuid := huuid.mp h.uuid
        bootloader := hbootloader.mp h.bootloader
        bootloaderArgs := hargs.mp h.bootloaderArgs
        onPoweroff := hpoweroff.mp h.onPoweroff
        onReboot := hreboot.mp h.onReboot
        onCrash := hcrash.mp h.onCrash
        emulator := hemulator.mp h.emulator
        os := hos.mp h.os
        nets := hnets }
  · intro h
    refine
      { name := hname.mpr h.name
        uuid := huuid.mpr h.uuid
        type := ?_
        bootloader := hbootloader.mpr h.bootloader
        bootloaderArgs := hargs.mpr h.bootloaderArgs
        onPoweroff := hpoweroff.mpr h.onPoweroff
        onReboot := hreboot.mpr h.onReboot
        onCrash := hcrash.mpr h.onCrash
        clock := ?_
        acpi := ?_
        apic := ?_
        pae := ?_
        emulator := hemulator.mpr h.emulator
        os := hos.mpr h.os }
    -- the other settings always come back
    all_goals
      rw [heq]
      rfl

/-- A domain whose settings come back has what they need. -/
theorem settingsFit_of_comeBack (hdoc : ContentDocumented nodeContent) {root : Node} {d : Domain}
    (h : getDominfoFromXml root = .ok d) (hsupported : Supported d.type)
    (hback : SettingsComeBack nodeContent newUuid d) : SettingsFit nodeContent d := by
  obtain ⟨doc, d', hxml, hparse, hagree⟩ := hback
  have hnets := (systemToXml_isOk_iff nodeContent newUuid h hsupported).mp ⟨doc, hxml⟩
  obtain ⟨d'', hparse', hemu, heq⟩ := getDominfoFromXml_systemToXml hdoc
    (typeComesBack_of_parsed hdoc h hsupported) (mac_of_parsed h) hxml
  cases hparse.symm.trans hparse'
  rw [settingsAgree_iff nodeContent newUuid hsupported (emu_of_parsed h) hemu heq
    (actionsRead_getDominfoFromXml h) hnets] at hagree
  exact hagree

/-- **The settings through the generator and back.** The settings of a parsed domain come
back if and only if every interface can be written, both actions that are written were there
to be read and the one on a reboot was not, and each field of its type is such that its
generator writes it. What is assumed of libxml2 is only that a text without `&` is content as
it stands. -/
theorem settings_comeBack_iff (hdoc : ContentDocumented nodeContent) {root : Node} {d : Domain}
    (h : getDominfoFromXml root = .ok d) (hsupported : Supported d.type) :
    SettingsComeBack nodeContent newUuid d ↔ SettingsFit nodeContent d := by
  constructor
  · exact settingsFit_of_comeBack nodeContent newUuid hdoc h hsupported
  · intro hfit
    obtain ⟨doc, hxml⟩ := (systemToXml_isOk_iff nodeContent newUuid h hsupported).mpr hfit.nets
    -- the document is read again, and setting by setting it is known what comes back
    obtain ⟨d', hparse, hemu, heq⟩ := getDominfoFromXml_systemToXml hdoc
      (typeComesBack_of_parsed hdoc h hsupported) (mac_of_parsed h) hxml
    refine ⟨doc, d', hxml, hparse, ?_⟩
    rw [settingsAgree_iff nodeContent newUuid hsupported (emu_of_parsed h) hemu heq
      (actionsRead_getDominfoFromXml h) hfit.nets]
    exact hfit

end Settings

/-- An element for an action. -/
def actionElem (name action : String) : Node :=
  .elem name [] [.text action]

/-- Both actions that the generator writes. -/
def kvmActions : List Node :=
  [actionElem "on_poweroff" "destroy", actionElem "on_crash" "restart"]

/-- The description of a KVM guest, with its actions and some elements of its system. -/
def kvmRoot (actions system : List Node) : Node :=
  .elem "domain" [("type", "kvm")]
    ([.elem "name" [] [.text "guest"],
      .elem "uuid" [] [.text "4dea22b3-1d52-d8f3-2516-782e98ab3fa0"]] ++ actions ++
      [.elem "os" []
          (.elem "type" [("arch", "x86_64"), ("machine", "pc")] [.text "hvm"] :: system),
        .elem "devices" [] []])

/-- The domain it is parsed to. -/
def kvmDomain : Domain where
  type := .kvm
  name := some "guest"
  typestr := some "kvm"
  uuid := some "4dea22b3-1d52-d8f3-2516-782e98ab3fa0"
  onPoweroff := cimVssdRecoveryNone
  onCrash := cimVssdRecoveryRestart
  osInfo :=
    { type := some "hvm", arch := some "x86_64", machine := some "pc"
      bootlist := [some "hd", some "cdrom"] }

theorem settings_comeBack_kvmDomain :
    SettingsComeBack textNodes "" kvmDomain ↔ SettingsFit textNodes kvmDomain :=
  have h : getDominfoFromXml (kvmRoot kvmActions [.elem "boot" [("dev", "hd")] [],
      .elem "boot" [("dev", "cdrom")] []]) = .ok kvmDomain := rfl
  settings_comeBack_iff textNodes "" (fun _ _ => rfl) h (by decide)

/-- The settings of every domain come back that a document is parsed to. -/
def SettingsRoundTrip (root : Node) : Prop :=
  ∀ d, getDominfoFromXml root = .ok d → Supported d.type → SettingsComeBack textNodes "" d

/-- The action on a reboot does not come back, nor does an action on a crash that was not
given, nor the loader of a KVM guest, nor an empty list of boot devices. -/
theorem not_settings_roundTrip :
    ¬ SettingsRoundTrip
      (kvmRoot (actionElem "on_reboot" "restart" :: kvmActions) [.elem "boot" [("dev", "hd")] []]) ∧
    ¬ SettingsRoundTrip
      (kvmRoot [actionElem "on_poweroff" "destroy"] [.elem "boot" [("dev", "hd")] []]) ∧
    ¬ SettingsRoundTrip (kvmRoot kvmActions [.elem "loader" [] [.text "/usr/share/OVMF.fd"],
      .elem "boot" [("dev", "hd")] []]) ∧
    ¬ SettingsRoundTrip (kvmRoot kvmActions []) := by
  have hdoc : ContentDocumented textNodes := fun _ _ => rfl
  -- a domain whose settings came back would have what they need
  have hneeds {root : Node} {d : Domain} (hparse : getDominfoFromXml root = .ok d)
      (hsupported : Supported d.type) (h : SettingsRoundTrip root) : SettingsFit textNodes d :=
    settingsFit_of_comeBack textNodes "" hdoc hparse hsupported (h d hparse hsupported)
  let os := kvmDomain.osInfo
  -- each document leaves one of the conditions out
  refine ⟨fun h => ?_, fun h => ?_, fun h => ?_, fun h => ?_⟩
  · let d : Domain :=
      { kvmDomain with
        onReboot := cimVssdRecoveryRestart, osInfo := { os with bootlist := [some "hd"] } }
    have hfit := hneeds (d := d) rfl (by decide) h
    exact absurd hfit.onReboot (by decide)
  · let d : Domain := { kvmDomain with onCrash := 0, osInfo := { os with bootlist := [some "hd"] } }
    have hfit := hneeds (d := d) rfl (by decide) h
    exact absurd rfl hfit.onCrash
  · let d : Domain :=
      { kvmDomain with
        osInfo := { os with loader := some "/usr/share/OVMF.fd", bootlist := [some "hd"] } }
    have hfit := hneeds (d := d) rfl (by decide) h
    exact absurd hfit.os.1 (by decide)
  · let d : Domain := { kvmDomain with osInfo := { os with bootlist := [] } }
    have hfit := hneeds (d := d) rfl (by decide) h
    exact absurd rfl hfit.os.2.1

end LibvirtCim.Device
