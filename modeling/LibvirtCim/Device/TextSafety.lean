import LibvirtCim.Device.Reread
import LibvirtCim.Device.WellFormed

/-!
# Texts in generated documents

Which documents that `system_to_xml` writes are well formed and give each text back as it
was. A text that is written as the value of an attribute always comes back; one that is
written as the content of an element is parsed for references on its way into the tree, and
comes back if and only if it has none.
-/

open Framework

namespace LibvirtCim.Device

/-! ### Contents -/

/-- What the documentation of libxml2 says of the content argument of `xmlNewChild`: it is
parsed for references, from one `&` to the next `;`. What a reference stands for is shorter
than the reference, and one that does not end is not taken for text. -/
structure ReferencesParsed (nodeContent : String → List Node) : Prop where
  plain : ContentDocumented nodeContent
  reference : ∀ before name after : String, '&' ∉ before.toList → ';' ∉ name.toList →
    ∃ value : String, value.length < name.length + 2 ∧
      contentText nodeContent (before ++ "&" ++ name ++ ";" ++ after) =
        before ++ value ++ contentText nodeContent after
  unterminated : ∀ before name : String, '&' ∉ before.toList → ';' ∉ name.toList →
    (contentText nodeContent (before ++ "&" ++ name)).length ≤ before.length + name.length

/-- The content is parsed to nodes that can be written. -/
def ContentFit (nodeContent : String → List Node) (content : String) : Prop :=
  ∀ node ∈ nodeContent content, node.WellFormed

/-- A text taken apart at the first character of a kind. -/
theorem exists_split_of_mem {s : String} {c : Char} (h : c ∈ s.toList) :
    ∃ before after : String, c ∉ before.toList ∧ s = before ++ c.toString ++ after := by
  obtain ⟨as, bs, hs, has⟩ := List.eq_append_cons_of_mem h
  refine ⟨String.ofList as, String.ofList bs, ?_, ?_⟩
  · rwa [String.toList_ofList]
  · apply String.toList_inj.mp
    simp [hs]

section Content

variable {nodeContent : String → List Node}

/-- **A content with a reference gets shorter.** -/
theorem ReferencesParsed.length_lt (hcontent : ReferencesParsed nodeContent) {content : String}
    (hamp : '&' ∈ content.toList) :
    (contentText nodeContent content).length < content.length := by
  -- the induction is on the length, since what follows a reference is a content of its own
  induction hlen : content.length using Nat.strong_induction_on generalizing content with
  | _ n ih =>
    have hone (c : Char) : c.toString.length = 1 := by
      simp
    obtain ⟨before, rest, hbefore, rfl⟩ := exists_split_of_mem hamp
    simp only [String.length_append, hone] at hlen ⊢
    -- a reference that ends, which makes its value shorter than itself
    by_cases hsemi : ';' ∈ rest.toList
    · obtain ⟨name, after, hname, rfl⟩ := exists_split_of_mem hsemi
      obtain ⟨value, hvalue, htext⟩ := hcontent.reference before name after hbefore hname
      simp only [String.length_append, hone] at hlen ⊢
      have hafter : (contentText nodeContent after).length ≤ after.length := by
        by_cases hamp' : '&' ∈ after.toList
        · exact (ih after.length (by omega) hamp' rfl).le
        · rw [hcontent.plain.survives hamp']
      have htext' : contentText nodeContent
          (before ++ '&'.toString ++ (name ++ ';'.toString ++ after)) =
          before ++ value ++ contentText nodeContent after := by
        rw [← htext]
        simp only [String.append_assoc]
        rfl
      rw [htext', String.length_append, String.length_append]
      omega
    -- one that does not end, behind which nothing is read
    · have hle := hcontent.unterminated before rest hbefore hsemi
      have htext : contentText nodeContent (before ++ '&'.toString ++ rest) =
          contentText nodeContent (before ++ "&" ++ rest) := rfl
      rw [htext]
      omega

/-- A content that comes back has no reference. -/
theorem ReferencesParsed.not_mem_of_survives (hcontent : ReferencesParsed nodeContent)
    {content : String} (h : Survives nodeContent content) : '&' ∉ content.toList := by
  intro hamp
  have hlt := hcontent.length_lt hamp
  rw [h] at hlt
  exact lt_irrefl _ hlt

/-- A content can be written and comes back if and only if it is a plain text. -/
theorem ReferencesParsed.fit_and_survives_iff (hcontent : ReferencesParsed nodeContent)
    (content : String) :
    ContentFit nodeContent content ∧ Survives nodeContent content ↔ PlainText content := by
  rw [plainText_iff]
  constructor
  · rintro ⟨hfit, hsurvives⟩
    have hamp := hcontent.not_mem_of_survives hsurvives
    rw [ContentFit, hcontent.plain content hamp, wellFormed_textNodes] at hfit
    exact ⟨hfit, hamp⟩
  · rintro ⟨htext, hamp⟩
    refine ⟨?_, hcontent.plain.survives hamp⟩
    rw [ContentFit, hcontent.plain content hamp, wellFormed_textNodes]
    exact htext

theorem ContentDocumented.fit (hdoc : ContentDocumented nodeContent) {content : String}
    (h : PlainText content) : ContentFit nodeContent content := by
  rw [plainText_iff] at h
  rw [ContentFit, hdoc content h.2, wellFormed_textNodes]
  exact h.1

theorem wellFormed_xmlNewChild {name : String} (hname : XmlName name) (content : Option String) :
    (xmlNewChild nodeContent name content).WellFormed ↔
      ∀ s ∈ content, ContentFit nodeContent s := by
  cases content <;> simp [xmlNewChild, Node.wellFormed_elem, hname, attrsWellFormed_nil, ContentFit]

theorem wellFormed_optContent {name : String} (hname : XmlName name) (content : Option String) :
    (∀ node ∈ optContent nodeContent name content, node.WellFormed) ↔
      ∀ s ∈ content, ContentFit nodeContent s := by
  cases content <;> simp [optContent, wellFormed_xmlNewChild hname]

end Content

/-! ### The texts of a domain -/

/-- The contents of the description of a system, other than its type. -/
def osContents (d : Domain) : List String :=
  match d.type with
  | .xenpv => d.osInfo.kernel.toList ++ d.osInfo.initrd.toList ++ d.osInfo.cmdline.toList
  | .xenfv => d.osInfo.loader.toList
  | .lxc => d.osInfo.init.toList
  | .kvm | .qemu | .unknown | .unsupported => []

/-- The texts of a domain that are written as the contents of elements. -/
def contents (d : Domain) : List String :=
  d.name.toList ++ d.bootloader.toList ++ d.bootloaderArgs.toList ++ d.uuid.toList ++
    osContents d ++ (d.devEmu.head?.bind fun emu => emu.dev.path).toList

/-- The texts of the description of a system that are written as attributes. -/
def osTexts (d : Domain) : List (Option String) :=
  match d.type with
  | .xenfv => d.osInfo.bootlist
  | .kvm | .qemu => [d.osInfo.arch, d.osInfo.machine] ++ d.osInfo.bootlist
  | .xenpv | .lxc | .unknown | .unsupported => []

/-- The other texts of a domain can be written: those that become attributes, which are escaped,
so that any XML character will do. A device without a type writes nothing and may have any text.
-/
structure OthersFit (nodeContent : String → List Node) (d : Domain) : Prop where
  clock : OptText d.clock
  osType : ContentFit nodeContent (writtenOsType d)
  os : ∀ text ∈ osTexts d, OptText text
  devices : ∀ kind, ∀ dev ∈ d.list kind, dev.type ≠ .unknown → DeviceFit kind dev.dev

theorem forall_mem_contents {P : String → Prop} {d : Domain} :
    (∀ s ∈ contents d, P s) ↔
      (∀ s ∈ d.name, P s) ∧ (∀ s ∈ d.bootloader, P s) ∧ (∀ s ∈ d.bootloaderArgs, P s) ∧
        (∀ s ∈ d.uuid, P s) ∧ (∀ s ∈ osContents d, P s) ∧
        ∀ s ∈ d.devEmu.head?.bind fun emu => emu.dev.path, P s := by
  simp only [contents, List.forall_mem_append, Option.mem_toList, and_assoc, Option.mem_def]

theorem forall_mem_osContents {P : String → Prop} {d : Domain} :
    (∀ s ∈ osContents d, P s) ↔
      (d.type = .xenpv → (∀ s ∈ d.osInfo.kernel, P s) ∧ (∀ s ∈ d.osInfo.initrd, P s) ∧
        ∀ s ∈ d.osInfo.cmdline, P s) ∧
      (d.type = .xenfv → ∀ s ∈ d.osInfo.loader, P s) ∧
      (d.type = .lxc → ∀ s ∈ d.osInfo.init, P s) := by
  cases htype : d.type <;> simp [osContents, htype, or_imp, forall_and]

section WellFormed

variable {nodeContent : String → List Node} {newUuid : String} {d : Domain} {doc : Node}

theorem wellFormed_fvBootlistXml (os : OsInfo) :
    (∀ node ∈ fvBootlistXml os, node.WellFormed) ↔ ∀ text ∈ os.bootlist, OptText text := by
  have hboot (devs : List (Option String)) :
      (∀ node ∈ devs.map fun dev => Node.elem "boot" (prop "dev" dev) [], node.WellFormed) ↔
        ∀ text ∈ devs, OptText text := by
    simp +decide [Node.wellFormed_elem, attrsWellFormed_prop]
  rw [fvBootlistXml, hboot]
  split
  · next hnil =>
    rw [hnil]
    simp +decide
  · rfl

theorem wellFormed_osXml (hdoc : ContentDocumented nodeContent) {os : Node}
    (hos : osXml nodeContent d = .ok os) :
    os.WellFormed ↔ (∀ s ∈ osContents d, ContentFit nodeContent s) ∧
      ContentFit nodeContent (writtenOsType d) ∧ ∀ text ∈ osTexts d, OptText text := by
  -- the defaults are plain texts
  have hnull : ContentFit nodeContent "/dev/null" := hdoc.fit (by decide)
  have hloader : ContentFit nodeContent "/usr/lib/xen/boot/hvmloader" := hdoc.fit (by decide)
  have hdefault (content : Option String) {default : String} (h : ContentFit nodeContent default) :
      ContentFit nodeContent (content.getD default) ↔ ∀ s ∈ content, ContentFit nodeContent s := by
    cases content <;> simp [h]
  unfold osXml at hos
  -- one case for each type that writes an os element of its own
  split at hos
  all_goals rename_i hd
  all_goals cases hos
  · simp +decide [Node.wellFormed_elem, xenpvOsXml, wellFormed_xmlNewChild,
      osContents, osTexts, hd, writtenOsType, hdefault, hnull, or_imp, forall_and]
    tauto
  · simp +decide [Node.wellFormed_elem, xenfvOsXml, wellFormed_xmlNewChild,
      osContents, osTexts, hd, writtenOsType, hdefault, hloader, wellFormed_fvBootlistXml]
    tauto
  · simp +decide [Node.wellFormed_elem, kvmOsXml, ContentFit, attrsWellFormed_optProp_append,
      attrsWellFormed_optProp, osContents, osTexts, hd, writtenOsType, wellFormed_fvBootlistXml]
    tauto
  · simp +decide [Node.wellFormed_elem, kvmOsXml, ContentFit, attrsWellFormed_optProp_append,
      attrsWellFormed_optProp, osContents, osTexts, hd, writtenOsType, wellFormed_fvBootlistXml]
    tauto
  · simp +decide [Node.wellFormed_elem, lxcOsXml, wellFormed_xmlNewChild,
      osContents, osTexts, hd, writtenOsType]

/-- The notation of a number is a plain text. -/
theorem plainText_repr (n : ℕ) : PlainText n.repr := by
  rw [plainText_iff]
  refine ⟨xmlText_repr n, fun hamp => ?_⟩
  exact absurd (isDigit_of_mem_repr hamp) (by decide)

/-- The notation of a signed number is a plain text. -/
theorem plainText_intRepr (n : ℤ) : PlainText n.repr := by
  cases n with
  | ofNat n => exact plainText_repr n
  | negSucc n =>
    intro c hc
    have hmem : c = '-' ∨ c ∈ (n + 1).repr.toList := by
      have happend : (Int.negSucc n).repr = "-" ++ (n + 1).repr := rfl
      rw [happend, String.toList_append, List.mem_append] at hc
      simpa using hc
    obtain rfl | hmem := hmem
    · decide
    · exact plainText_repr (n + 1) c hmem

/-- The capacities can be written. -/
theorem wellFormed_capacities (hdoc : ContentDocumented nodeContent) (d : Domain) :
    ∀ node ∈ memXml nodeContent d ++ vcpuXml nodeContent d ++ cputuneXml nodeContent d,
      node.WellFormed := by
  -- numbers are plain texts
  have hnat (n : ℕ) : ContentFit nodeContent n.repr := hdoc.fit (plainText_repr n)
  have hint (n : ℤ) : ContentFit nodeContent n.repr := hdoc.fit (plainText_intRepr n)
  -- each of the three writes nothing but numbers and fixed names
  have hmem : ∀ node ∈ memXml nodeContent d, node.WellFormed := by
    unfold memXml
    split
    · exact nofun
    · next mem _ =>
      have hdump : AttrsWellFormed (dumpCoreProp mem.dev.dumpCore) := by
        cases mem.dev.dumpCore <;> decide
      have hsize : ∀ node ∈ nodeContent (toString mem.dev.maxsize.toNat), node.WellFormed :=
        hnat mem.dev.maxsize.toNat
      simp +decide [wellFormed_xmlNewChild, Node.wellFormed_elem, hdump, hnat]
      exact hsize
  have hvcpu : ∀ node ∈ vcpuXml nodeContent d, node.WellFormed := by
    unfold vcpuXml
    split
    · exact nofun
    · simp +decide [wellFormed_xmlNewChild, hnat]
  have hcputune : ∀ node ∈ cputuneXml nodeContent d, node.WellFormed := by
    unfold cputuneXml
    split
    · exact nofun
    · simp +decide [wellFormed_xmlNewChild, Node.wellFormed_elem, hint]
  rw [List.forall_mem_append, List.forall_mem_append]
  exact ⟨⟨hmem, hvcpu⟩, hcputune⟩

theorem wellFormed_systemXml (hdoc : ContentDocumented nodeContent) (d : Domain) (uuid : String) :
    (∀ node ∈ systemXml nodeContent d uuid, node.WellFormed) ↔
      (∀ s ∈ d.name, ContentFit nodeContent s) ∧ (∀ s ∈ d.bootloader, ContentFit nodeContent s) ∧
        (∀ s ∈ d.bootloaderArgs, ContentFit nodeContent s) ∧ ContentFit nodeContent uuid ∧
        OptText d.clock := by
  have haction (action : UInt16) :
      ContentFit nodeContent (vssdRecoveryActionStr action) := by
    have hplain : ∀ s ∈ ["destroy", "restart", "preserve"], PlainText s := by decide
    exact hdoc.fit (hplain _ (vssdRecoveryActionStr_mem action))
  have hclock := wellFormed_optChild (show XmlName "clock" by decide)
    (show XmlName "offset" by decide) d.clock
  simp only [systemXml, List.forall_mem_append, hclock]
  simp +decide [wellFormed_xmlNewChild, wellFormed_optContent, haction, and_assoc]

theorem wellFormed_featuresXml (d : Domain) : (featuresXml d).WellFormed := by
  have hacpi := wellFormed_flagXml (show XmlName "acpi" by decide) d.acpi
  have hapic := wellFormed_flagXml (show XmlName "apic" by decide) d.apic
  have hpae := wellFormed_flagXml (show XmlName "pae" by decide) d.pae
  rw [featuresXml, Node.wellFormed_elem, List.forall_mem_append, List.forall_mem_append]
  exact ⟨by decide, attrsWellFormed_nil, ⟨hacpi, hapic⟩, hpae⟩

/-- **A document is well formed** if and only if every content is parsed to nodes that can
be written, and every other text can be. -/
theorem wellFormed_systemToXml (hdoc : ContentDocumented nodeContent) (hnew : PlainText newUuid)
    (h : systemToXml nodeContent newUuid d = .ok doc) :
    doc.WellFormed ↔ (∀ s ∈ contents d, ContentFit nodeContent s) ∧ OthersFit nodeContent d := by
  obtain ⟨os, written, hos, hwritten, rfl⟩ := systemToXml_parts h
  have hcapacities := wellFormed_capacities hdoc d
  rw [List.forall_mem_append, List.forall_mem_append] at hcapacities
  obtain ⟨⟨hmem, hvcpu⟩, hcputune⟩ := hcapacities
  -- the UUID is given or new, and a new one is plain
  have huuid : ContentFit nodeContent (d.uuid.getD newUuid) ↔
      ∀ s ∈ d.uuid, ContentFit nodeContent s := by
    cases d.uuid <;> simp [hdoc.fit hnew]
  have hemu : (∀ node ∈ emuXml nodeContent d, node.WellFormed) ↔
      ∀ s ∈ d.devEmu.head?.bind fun emu => emu.dev.path, ContentFit nodeContent s := by
    -- there is an emulator or none
    unfold emuXml
    cases d.devEmu.head? <;> simp +decide [wellFormed_xmlNewChild]
  have hlxc : ∀ node ∈ lxcConsole d.type, node.WellFormed := by
    unfold lxcConsole
    split
    · simp +decide [Node.wellFormed_elem]
    · exact nofun
  -- the type is one of a few names
  have htype : AttrsWellFormed [("type", domtype d)] := by
    unfold domtype
    split <;> decide
  have hlist (kind : DevKind) (hmem : kind ≠ .mem) (hproc : kind ≠ .proc) :=
    wellFormed_devicesXml (hwritten kind hmem hproc)
  -- the devices are those of the lists, the emulator, and a console for containers
  have hdevices : (Node.elem "devices" [] (written .disk ++ written .net ++ written .input ++
      written .console ++ written .graphics ++ emuXml nodeContent d ++ written .controller ++
      lxcConsole d.type)).WellFormed ↔
      (∀ kind, ∀ dev ∈ d.list kind, dev.type ≠ .unknown → DeviceFit kind dev.dev) ∧
        ∀ s ∈ d.devEmu.head?.bind fun emu => emu.dev.path, ContentFit nodeContent s := by
    have hname : XmlName "devices" := by decide
    rw [Node.wellFormed_elem]
    simp only [List.forall_mem_append, hemu, iff_true_intro hlxc, hlist .disk nofun nofun,
      hlist .net nofun nofun, hlist .input nofun nofun, hlist .console nofun nofun,
      hlist .graphics nofun nofun, hlist .controller nofun nofun, iff_true_intro hname,
      iff_true_intro attrsWellFormed_nil, and_true, true_and]
    constructor
    · rintro ⟨⟨⟨⟨⟨⟨hdisk, hnet⟩, hinput⟩, hconsole⟩, hgraphics⟩, hpath⟩, hcontroller⟩
      -- each list is well formed when its devices are
      refine ⟨fun kind => ?_, hpath⟩
      cases kind with
      | disk => exact hdisk
      | net => exact hnet
      | input => exact hinput
      | console => exact hconsole
      | graphics => exact hgraphics
      | controller => exact hcontroller
      | mem | proc => exact fun _ _ _ => ⟨nofun, attrsWellFormed_nil⟩
    · rintro ⟨hfit, hpath⟩
      exact ⟨⟨⟨⟨⟨⟨hfit .disk, hfit .net⟩, hfit .input⟩, hfit .console⟩, hfit .graphics⟩, hpath⟩,
        hfit .controller⟩
  have hfeatures := wellFormed_featuresXml d
  have hname : XmlName "domain" := by decide
  have hnil : ∀ node ∈ ([] : List Node), node.WellFormed := nofun
  -- what is not fixed in the document are the settings and the devices
  rw [Node.wellFormed_elem, forall_mem_contents]
  simp only [List.forall_mem_append, List.forall_mem_cons, iff_true_intro hnil, hdevices,
    wellFormed_systemXml hdoc, huuid, wellFormed_osXml hdoc hos, iff_true_intro hfeatures,
    iff_true_intro hmem, iff_true_intro hvcpu, iff_true_intro hcputune, iff_true_intro hname,
    iff_true_intro htype, and_true, true_and]
  constructor
  · rintro ⟨⟨⟨hname, hbootloader, hargs, huuid, hclock⟩, hcontents, hostype, hos⟩, hfit, hpath⟩
    exact ⟨⟨hname, hbootloader, hargs, huuid, hcontents, hpath⟩, hclock, hostype, hos, hfit⟩
  · rintro ⟨⟨hname, hbootloader, hargs, huuid, hcontents, hpath⟩, hclock, hostype, hos, hfit⟩
    exact ⟨⟨⟨hname, hbootloader, hargs, huuid, hclock⟩, hcontents, hostype, hos⟩, hfit, hpath⟩

end WellFormed

/-! ### Reading the contents -/

/-- The text of the one node that is selected. -/
def Reads (nodes : List Node) (content : String) : Prop :=
  nodes.map getNodeContent = [content]

/-- The elements of a name in the description of the system. -/
def osXPath (root : Node) (name : String) : List Node :=
  (domainXPath root ["os"]).flatMap fun os => elems [name] os.children

/-- Each text that is written as a content is read as it is. -/
structure SettingsReadBack (d : Domain) (doc : Node) : Prop where
  name : ∀ s ∈ d.name, Reads (domainXPath doc ["name"]) s
  bootloader : ∀ s ∈ d.bootloader, Reads (domainXPath doc ["bootloader"]) s
  bootloaderArgs : ∀ s ∈ d.bootloaderArgs, Reads (domainXPath doc ["bootloader_args"]) s
  uuid : ∀ s ∈ d.uuid, Reads (domainXPath doc ["uuid"]) s
  kernel : d.type = .xenpv → ∀ s ∈ d.osInfo.kernel, Reads (osXPath doc "kernel") s
  initrd : d.type = .xenpv → ∀ s ∈ d.osInfo.initrd, Reads (osXPath doc "initrd") s
  cmdline : d.type = .xenpv → ∀ s ∈ d.osInfo.cmdline, Reads (osXPath doc "cmdline") s
  loader : d.type = .xenfv → ∀ s ∈ d.osInfo.loader, Reads (osXPath doc "loader") s
  init : d.type = .lxc → ∀ s ∈ d.osInfo.init, Reads (osXPath doc "init") s
  emulator : ∀ emu ∈ d.devEmu.head?, ∀ s ∈ emu.dev.path,
    Reads (devicesXPath doc ["emulator"]) s

section ReadBack

variable {nodeContent : String → List Node} {newUuid : String} {d : Domain} {doc : Node}

variable (nodeContent) in
/-- A text that is written as the content of the one element is read as it is if and only
if it comes back from libxml2. -/
theorem reads_iff (nodes : List Node) (name : String) (content : Option String)
    (h : ∀ s ∈ content, nodes = [xmlNewChild nodeContent name (some s)]) :
    (∀ s ∈ content, Reads nodes s) ↔ ∀ s ∈ content, Survives nodeContent s := by
  refine forall₂_congr fun s hs => ?_
  rw [h s hs, Reads, List.map_singleton, getNodeContent_xmlNewChild]
  simp [Survives]

/-- The settings of a document. -/
theorem domainXPath_settings (h : systemToXml nodeContent newUuid d = .ok doc) :
    domainXPath doc ["name"] = [xmlNewChild nodeContent "name" d.name] ∧
      domainXPath doc ["bootloader"] = optContent nodeContent "bootloader" d.bootloader ∧
      domainXPath doc ["bootloader_args"] =
        optContent nodeContent "bootloader_args" d.bootloaderArgs ∧
      domainXPath doc ["uuid"] = [xmlNewChild nodeContent "uuid" (some (d.uuid.getD newUuid))] ∧
      ∃ os, osXml nodeContent d = .ok os ∧ domainXPath doc ["os"] = [os] := by
  -- the parts in the order they are written
  obtain ⟨os, written, hos, -, rfl⟩ := systemToXml_parts h
  obtain ⟨children, rfl⟩ := exists_osXml nodeContent hos
  have hmem := named_memXml nodeContent d
  have hvcpu := named_vcpuXml nodeContent d
  have hcputune := named_cputuneXml nodeContent d
  -- what stands behind the settings has other names
  have hselect {name : String} (hname : name ∈ settingNames) :
      domainXPath (.elem "domain" [("type", domtype d)]
        (systemXml nodeContent d (d.uuid.getD newUuid) ++ [.elem "os" [] children, featuresXml d] ++
          memXml nodeContent d ++ vcpuXml nodeContent d ++ cputuneXml nodeContent d ++
          [.elem "devices" [] (written .disk ++ written .net ++ written .input ++
            written .console ++ written .graphics ++ emuXml nodeContent d ++ written .controller ++
            lxcConsole d.type)])) [name] =
        elems [name] (systemXml nodeContent d (d.uuid.getD newUuid)) ++
          elems [name] [.elem "os" [] children, featuresXml d] := by
    have hcapacities : settingNames.Disjoint ["currentMemory", "memory", "vcpu", "cputune"] := by
      simp [settingNames]
    have hdevices : settingNames.Disjoint ["devices"] := by
      simp [settingNames]
    have hnames : name ∉ ["currentMemory", "memory", "vcpu", "cputune"] := hcapacities hname
    simp only [List.mem_cons, not_or] at hnames
    rw [domainXPath, if_pos (by simp), Node.children_elem]
    simp only [elems_append]
    rw [hmem.elems_eq_nil (by simp [hnames]), hvcpu.elems_eq_nil (by simp [hnames]),
      hcputune.elems_eq_nil (by simp [hnames]),
      (Named.single (List.mem_singleton_self "devices") _ _).elems_eq_nil (hdevices hname)]
    simp
  refine ⟨?_, ?_, ?_, ?_, _, hos, ?_⟩
  -- each name is looked for among the few elements with such names
  all_goals rw [hselect (by simp [settingNames])]
  all_goals
    cases hb : d.bootloader <;> cases ha : d.bootloaderArgs <;> cases hc : d.clock <;>
      simp [elems, systemXml, optContent, optChild, featuresXml, xmlNewChild, hb, ha, hc]

/-- The contents of the description of a system, type by type. -/
theorem elems_osXml {os : Node} (hos : osXml nodeContent d = .ok os) :
    (d.type = .xenpv → elems ["kernel"] os.children =
        [xmlNewChild nodeContent "kernel" (some (d.osInfo.kernel.getD "/dev/null"))] ∧
      elems ["initrd"] os.children = [xmlNewChild nodeContent "initrd" d.osInfo.initrd] ∧
      elems ["cmdline"] os.children = [xmlNewChild nodeContent "cmdline" d.osInfo.cmdline]) ∧
    (d.type = .xenfv → elems ["loader"] os.children =
      [xmlNewChild nodeContent "loader"
        (some (d.osInfo.loader.getD "/usr/lib/xen/boot/hvmloader"))]) ∧
    (d.type = .lxc → elems ["init"] os.children =
      [xmlNewChild nodeContent "init" d.osInfo.init]) := by
  -- the boot list is the only part with several elements
  have hboot : Named ["boot"] (fvBootlistXml d.osInfo) := by
    intro node hnode
    obtain ⟨dev, -, rfl⟩ := List.mem_map.mp hnode
    exact ⟨"boot", by simp, _, _, rfl⟩
  have hloader : elems ["loader"] (fvBootlistXml d.osInfo) = [] := hboot.elems_eq_nil (by simp)
  unfold osXml at hos
  -- by the type, each with its own texts
  split at hos
  all_goals rename_i hd
  all_goals cases hos
  all_goals rw [hd]
  · simp [elems, xenpvOsXml, xmlNewChild]
  · refine ⟨fun h => absurd h (by simp), fun _ => ?_, fun h => absurd h (by simp)⟩
    rw [xenfvOsXml, Node.children_elem, elems_append, hloader]
    simp [elems, xmlNewChild]
  · simp
  · simp
  · simp [elems, lxcOsXml, xmlNewChild]

/-- **Reading the contents.** Each is read as it is if and only if it comes back from
libxml2. -/
theorem settingsReadBack_iff (h : systemToXml nodeContent newUuid d = .ok doc) :
    SettingsReadBack d doc ↔ ∀ s ∈ contents d, Survives nodeContent s := by
  obtain ⟨hname, hbootloader, hargs, huuid, os, hos, hosx⟩ := domainXPath_settings h
  obtain ⟨-, -, -, hemu⟩ := selected_systemToXml h
  obtain ⟨hxenpv, hxenfv, hlxc⟩ := elems_osXml hos
  -- the os element is read below the domain
  have hosXPath (name : String) : osXPath doc name = elems [name] os.children := by
    rw [osXPath, hosx, List.flatMap_singleton]
  have hreads (nodes : List Node) (name : String) (content : Option String) :=
    reads_iff nodeContent nodes name content
  -- a setting that is written is read back when its text survives
  have hname' := hreads _ "name" d.name fun s hs => hs ▸ hname
  have hbootloader' := hreads (domainXPath doc ["bootloader"]) "bootloader" d.bootloader
    fun s hs => by rw [hbootloader, hs]; rfl
  have hargs' := hreads (domainXPath doc ["bootloader_args"]) "bootloader_args" d.bootloaderArgs
    fun s hs => by rw [hargs, hs]; rfl
  have huuid' := hreads (domainXPath doc ["uuid"]) "uuid" d.uuid
    fun s hs => by rw [huuid, hs]; rfl
  have hkernel (htype : d.type = .xenpv) := hreads (osXPath doc "kernel") "kernel" d.osInfo.kernel
    fun s hs => by rw [hosXPath, (hxenpv htype).1, hs]; rfl
  have hinitrd (htype : d.type = .xenpv) := hreads (osXPath doc "initrd") "initrd" d.osInfo.initrd
    fun s hs => by rw [hosXPath, (hxenpv htype).2.1, hs]
  have hcmdline (htype : d.type = .xenpv) :=
    hreads (osXPath doc "cmdline") "cmdline" d.osInfo.cmdline
      fun s hs => by rw [hosXPath, (hxenpv htype).2.2, hs]
  have hloader (htype : d.type = .xenfv) := hreads (osXPath doc "loader") "loader" d.osInfo.loader
    fun s hs => by rw [hosXPath, hxenfv htype, hs]; rfl
  have hinit (htype : d.type = .lxc) := hreads (osXPath doc "init") "init" d.osInfo.init
    fun s hs => by rw [hosXPath, hlxc htype, hs]
  -- the emulator is the one text written below the devices
  have hemulator : (∀ emu ∈ d.devEmu.head?, ∀ s ∈ emu.dev.path,
      Reads (devicesXPath doc ["emulator"]) s) ↔
      ∀ s ∈ d.devEmu.head?.bind fun emu => emu.dev.path, Survives nodeContent s := by
    rw [hemu, emuXml]
    cases d.devEmu.head? with
    | none => simp
    | some emu => simpa using hreads _ "emulator" emu.dev.path fun s hs => by rw [hs]
  rw [forall_mem_contents, forall_mem_osContents]
  -- each setting on its own, those of the os element by the type
  constructor
  · intro hread
    refine ⟨hname'.mp hread.name, hbootloader'.mp hread.bootloader, hargs'.mp hread.bootloaderArgs,
      huuid'.mp hread.uuid, ⟨fun htype => ?_, fun htype => ?_, fun htype => ?_⟩,
      hemulator.mp hread.emulator⟩
    · exact ⟨(hkernel htype).mp (hread.kernel htype), (hinitrd htype).mp (hread.initrd htype),
        (hcmdline htype).mp (hread.cmdline htype)⟩
    · exact (hloader htype).mp (hread.loader htype)
    · exact (hinit htype).mp (hread.init htype)
  · rintro ⟨hn, hb, ha, hu, ⟨hpv, hfv, hc⟩, he⟩
    exact
      { name := hname'.mpr hn
        bootloader := hbootloader'.mpr hb
        bootloaderArgs := hargs'.mpr ha
        uuid := huuid'.mpr hu
        kernel := fun htype => (hkernel htype).mpr (hpv htype).1
        initrd := fun htype => (hinitrd htype).mpr (hpv htype).2.1
        cmdline := fun htype => (hcmdline htype).mpr (hpv htype).2.2
        loader := fun htype => (hloader htype).mpr (hfv htype)
        init := fun htype => (hinit htype).mpr (hc htype)
        emulator := hemulator.mpr he }

end ReadBack

/-! ### Reading the attributes -/

/-- The path of a disk, if it is written: an empty drive has none. -/
def writtenSource (disk : DiskDevice) : Option String :=
  match disk.diskType with
  | .phy => disk.source.filter fun source => source ≠ "/dev/null"
  | .file => disk.source.filter fun source => ¬ (disk.device = some "cdrom" ∧ source = "")
  | .fs => disk.source
  | .unknown => none

/-- The attribute of a source that has the path of a disk. -/
def sourceKey : DiskType → String
  | .phy => "dev"
  | .file => "file"
  | .fs | .unknown => "dir"

/-- What the sources of an element have under a key. -/
def sourceAttrs (node : Node) (key : String) : List (Option String) :=
  (elems ["source"] node.children).map fun source => getAttrValue source key

/-- The paths and hosts of a device are read from its element as they are. -/
def DeviceReadBack : (kind : DevKind) → kind.Dev → Node → Prop
  | .disk, disk, node =>
    ∀ s ∈ writtenSource disk, sourceAttrs node (sourceKey disk.diskType) = [some s]
  | .graphics, gdev, node =>
    streqc (gdev.type.getD "") "sdl" = false → ∀ s ∈ gdev.host, getAttrValue node "listen" = some s
  | .console, cdev, node =>
    let sd := cdev.sourceDev
    match cdev.sourceType with
    | .pty | .dev | .file | .pipe | .unixsock => ∀ s ∈ sd.path, sourceAttrs node "path" = [some s]
    | .udp => sourceAttrs node "host" =
        [some (sd.udpBindHost.getD ""), some (sd.udpConnectHost.getD "")]
    | .tcp => ∀ s ∈ sd.tcpHost, sourceAttrs node "host" = [some s]
    | .null | .vc | .stdio | .spicevmc => True
  | .net, _, _ | .input, _, _ | .controller, _, _ | .mem, _, _ | .proc, _, _ => True

/-- Each device has its elements in the document, and they are read back. -/
def DevicesReadBack (d : Domain) (doc : Node) : Prop :=
  ∀ kind, kind ≠ .mem → kind ≠ .proc → ∀ dev ∈ d.list kind, dev.type ≠ .unknown →
    ∃ nodes, deviceXml d.type kind dev.dev = .ok nodes ∧
      ∀ node ∈ nodes, node ∈ xpathNodes doc kind ∧ DeviceReadBack kind dev.dev node

theorem elems_source_optChild {name key : String} (hname : name ≠ "source")
    {value : Option String} : elems ["source"] (optChild name key value) = [] := by
  cases value <;> simp [elems, optChild, hname]

theorem readBack_diskXmlOf {disk : DiskDevice} {nodes : List Node}
    (h : diskXmlOf disk = .ok nodes) : ∀ node ∈ nodes, DeviceReadBack .disk disk node := by
  -- the source is the only child under this name
  have hdriver : elems ["source"] (diskDriverXml disk) = [] := by
    unfold diskDriverXml
    split <;> simp [elems]
  have hreadonly : elems ["source"] (flagXml disk.readonly "readonly") = [] := by
    cases disk.readonly <;> simp [elems, flagXml]
  have hshareable : elems ["source"] (flagXml disk.shareable "shareable") = [] := by
    cases disk.shareable <;> simp [elems, flagXml]
  have haddress : elems ["source"] (deviceAddressXml disk.address) = [] := by
    unfold deviceAddressXml
    split <;> simp [elems]
  have htarget : elems ["source"] [diskTargetXml disk] = [] := by
    simp [elems, diskTargetXml]
  unfold diskXmlOf at h
  split at h
  all_goals rename_i htype
  all_goals cases h
  all_goals rw [List.forall_mem_singleton]
  -- by the type of the disk
  all_goals
    intro s hs
    simp only [writtenSource, htype] at hs
    simp only [sourceAttrs, sourceKey, htype, diskBlockXml, diskFileXml, diskFsXml,
      Node.children_elem, elems_append, hdriver, htarget, hreadonly, hshareable, haddress]
  · obtain ⟨hsource, hnull⟩ := Option.mem_filter_iff.mp hs
    rw [hsource]
    simp [elems, of_decide_eq_true hnull]
  · obtain ⟨hsource, hcdrom⟩ := Option.mem_filter_iff.mp hs
    have hwritten : ¬ (disk.device = some "cdrom" ∧ disk.source = some "") := by
      rw [hsource, Option.some.injEq]
      exact of_decide_eq_true hcdrom
    rw [if_neg hwritten, hsource]
    simp [elems]
  -- a file system writes the source as it is
  · rw [elems_source_optChild (by decide), Option.mem_def.mp hs]
    simp [elems]

theorem readBack_consoleXmlOf {cdev : ConsoleDevice} {nodes : List Node}
    (h : consoleXmlOf cdev = .ok nodes) : ∀ node ∈ nodes, DeviceReadBack .console cdev node := by
  cases h
  rw [List.forall_mem_singleton]
  cases hsource : cdev.sourceType
  -- by the type of the source, each under its own key
  all_goals
    simp only [DeviceReadBack, hsource, sourceAttrs, Node.children_elem, elems_append,
      consoleSourceXml, elems_source_optChild (show "target" ≠ "source" by decide)]
  case pty => cases cdev.sourceDev.path <;> simp [elems, optChild]
  case udp => simp [elems]
  case tcp =>
    intro s hs
    rw [elems_cons, elems_source_optChild (show "protocol" ≠ "source" by decide), hs]
    simp [elems]
  case dev | file | pipe | unixsock =>
    intro s hs
    rw [hs]
    simp [elems]

theorem readBack_graphicsXmlOf {gdev : GraphicsDevice} {nodes : List Node}
    (h : graphicsXmlOf gdev = .ok nodes) : ∀ node ∈ nodes, DeviceReadBack .graphics gdev node := by
  unfold graphicsXmlOf at h
  split at h
  · cases h
    rw [List.forall_mem_singleton]
    intro hsdl s hs
    rw [graphicsVncXml, hsdl, Option.mem_def.mp hs]
    cases gdev.port <;> simp
  · cases h
    exact List.forall_mem_nil _

theorem readBack_deviceXml {domtype : DomainType} {kind : DevKind} {dev : kind.Dev}
    {nodes : List Node} (h : deviceXml domtype kind dev = .ok nodes) :
    ∀ node ∈ nodes, DeviceReadBack kind dev node := by
  cases kind with
  | disk => exact readBack_diskXmlOf h
  | console => exact readBack_consoleXmlOf h
  | graphics => exact readBack_graphicsXmlOf h
  | net | input | controller | mem | proc => exact fun _ _ => trivial

/-- The elements of a device are among those of its list. -/
theorem exists_nodes_of_mem {α : Type} {xml : α → Except String (List Node)}
    {devs : List (VirtDevice α)} {written : List Node} (h : devicesXml xml devs = .ok written)
    {dev : VirtDevice α} (hdev : dev ∈ devs) (hknown : dev.type ≠ .unknown) :
    ∃ nodes, xml dev.dev = .ok nodes ∧ nodes ⊆ written := by
  induction devs generalizing written with
  | nil => exact absurd hdev List.not_mem_nil
  | cons d devs ih =>
    obtain ⟨hunknown, htail⟩ | ⟨-, ns, rest, hns, htail, rfl⟩ := devicesXml_cons h
    · obtain rfl | hdev := List.mem_cons.mp hdev
      · exact absurd hunknown hknown
      · exact ih htail hdev
    · obtain rfl | hdev := List.mem_cons.mp hdev
      · exact ⟨ns, hns, List.subset_append_left ns rest⟩
      · obtain ⟨nodes, hnodes, hsubset⟩ := ih htail hdev
        exact ⟨nodes, hnodes, List.subset_append_of_subset_right ns hsubset⟩

/-- **Reading the attributes.** Each is read as it is. -/
theorem devicesReadBack {nodeContent : String → List Node} {newUuid : String} {d : Domain}
    {doc : Node} (h : systemToXml nodeContent newUuid d = .ok doc) : DevicesReadBack d doc := by
  obtain ⟨written, hwritten, hselected, -⟩ := selected_systemToXml h
  -- what is written in the lists is found again under their paths
  have hsubset (kind : DevKind) (hmem : kind ≠ .mem) (hproc : kind ≠ .proc) :
      written kind ⊆ xpathNodes doc kind := by
    cases kind with
    | disk => rw [hselected.disk]; exact List.Subset.refl _
    | net => rw [hselected.net]; exact List.Subset.refl _
    | input => rw [hselected.input]; exact List.Subset.refl _
    | controller => rw [hselected.controller]; exact List.Subset.refl _
    | console => rw [hselected.console]; exact List.subset_append_left _ _
    | graphics => rw [hselected.graphics]; simp
    | mem => exact absurd rfl hmem
    | proc => exact absurd rfl hproc
  -- each device that is known has nodes of its own
  intro kind hmem hproc dev hdev hknown
  obtain ⟨nodes, hnodes, hmore⟩ := exists_nodes_of_mem (hwritten kind hmem hproc) hdev hknown
  refine ⟨nodes, hnodes, fun node hnode => ⟨?_, readBack_deviceXml hnodes node hnode⟩⟩
  exact hsubset kind hmem hproc (hmore hnode)

/-! ### Safe documents -/

/-- The document is well formed, and the texts of the domain are read from it as they
are. -/
structure TextSafe (d : Domain) (doc : Node) : Prop where
  wellFormed : doc.WellFormed
  settings : SettingsReadBack d doc
  devices : DevicesReadBack d doc

/-- **The document of a domain is safe** if and only if the texts that are contents of
elements are plain ones, and the others can be written. -/
theorem textSafe_systemToXml_iff {nodeContent : String → List Node}
    (hcontent : ReferencesParsed nodeContent) {newUuid : String} (hnew : PlainText newUuid)
    {d : Domain} {doc : Node} (h : systemToXml nodeContent newUuid d = .ok doc) :
    TextSafe d doc ↔ (∀ s ∈ contents d, PlainText s) ∧ OthersFit nodeContent d := by
  -- a text that is plain is one that fits and survives
  have hplain : (∀ s ∈ contents d, PlainText s) ↔
      (∀ s ∈ contents d, ContentFit nodeContent s) ∧ ∀ s ∈ contents d, Survives nodeContent s := by
    simp only [← hcontent.fit_and_survives_iff, forall_and]
  rw [hplain]
  constructor
  · rintro ⟨hwell, hsettings, -⟩
    obtain ⟨hfit, hothers⟩ := (wellFormed_systemToXml hcontent.plain hnew h).mp hwell
    exact ⟨⟨hfit, (settingsReadBack_iff h).mp hsettings⟩, hothers⟩
  · rintro ⟨⟨hfit, hsurvives⟩, hothers⟩
    exact
      { wellFormed := (wellFormed_systemToXml hcontent.plain hnew h).mpr ⟨hfit, hothers⟩
        settings := (settingsReadBack_iff h).mpr hsurvives
        devices := devicesReadBack h }

end LibvirtCim.Device
