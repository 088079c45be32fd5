import LibvirtCim.Device.Regenerate

/-!
# Elements that libvirt has stored

What libvirt makes of the devices of a document (`DeviceStore`, `StoredAs`), and what the parsers
make of the element of a device that is stored with no more than the type of a file system filled
in. `OwnBack` says for each type of device when that is the device again, and
`id_or_ownBack_of_readAs` that another device can be read for it only if its id stays or what
is read would come back itself.
-/

open Framework

namespace LibvirtCim.Device

/-! ### What libvirt stores -/

/-- A file system without a type is a mount. -/
def withMountType (node : Node) : Node :=
  if node.isElem "filesystem" ∧ node.attr "type" = none then node.addAttr "type" "mount" else node

theorem withMountType_of_name {node : Node} (h : node.name ≠ "filesystem") :
    withMountType node = node :=
  if_neg fun hfs => h (name_of_isElem hfs.1)

/-- What libvirt makes of the devices of a document: it fills in what an element does not say,
and adds the devices that it takes for granted. -/
structure DeviceStore where
  /-- an element of the document may be stored as another one -/
  kept : Node → Node → Prop
  /-- an element that is stored besides -/
  implicit : Node → Prop

/-- A libvirt that gives a file system its type and adds nothing. -/
def mountStore : DeviceStore where
  kept node node' := node' = withMountType node
  implicit _ := False

/-- A description that is stored for a document. It can be read, its interfaces have MAC
addresses, the memory and the processors are what the document says; and its devices are those
of the document, filled in, and the implicit ones. -/
structure StoredAs (store : DeviceStore) (doc config : Node) : Prop where
  readable : ∃ settings, parseDomain config = .ok settings
  macs : ∀ node ∈ xpathNodes config .net, ∃ child ∈ node.children, child.name = "mac"
  memory : ∀ mdevs, parseDevices doc .mem = .ok mdevs →
    ∃ mdevs', parseDevices config .mem = .ok mdevs' ∧ getMemDevice mdevs' = getMemDevice mdevs
  processors : parseDevices config .proc = parseDevices doc .proc
  nodes : ∀ kind, kind ≠ .mem → kind ≠ .proc → ∀ node, node ∈ xpathNodes config kind ↔
    (∃ written ∈ xpathNodes doc kind, store.kept written node) ∨
      node.name ∈ xpathNames kind ∧ store.implicit node

/-! ### One device -/

/-- The element that is written for `y` is read as `x` once a file system has its type. -/
def ReadAs (domtype : DomainType) (kind : DevKind) (y x : VirtDevice kind.Dev) : Prop :=
  ∃ n, deviceXml domtype kind y.dev = .ok [n] ∧ doRealParse kind (withMountType n) = .ok x

theorem ReadAs.unique {domtype : DomainType} {kind : DevKind} {y x x' : VirtDevice kind.Dev}
    (h : ReadAs domtype kind y x) (h' : ReadAs domtype kind y x') : x = x' := by
  obtain ⟨n, hn, hx⟩ := h
  obtain ⟨n', hn', hx'⟩ := h'
  cases hn.symm.trans hn'
  exact Except.ok.inj (hx.symm.trans hx')

/-- An element of the lists is no file system, but for disks. -/
theorem readAs_iff {domtype : DomainType} {kind : DevKind} (hkind : kind ≠ .disk)
    {y x : VirtDevice kind.Dev} :
    ReadAs domtype kind y x ↔
      ∃ n, deviceXml domtype kind y.dev = .ok [n] ∧ doRealParse kind n = .ok x := by
  -- only a filesystem is changed before it is read, and no other kind writes one
  have hsame (n : Node) (hn : deviceXml domtype kind y.dev = .ok [n]) : withMountType n = n := by
    obtain ⟨name, hname, attrs, children, rfl⟩ := named_deviceXml hn n List.mem_cons_self
    apply withMountType_of_name
    rintro rfl
    revert hname
    cases kind <;> simp [writtenNames] at hkind ⊢
  constructor
  · rintro ⟨n, hn, hx⟩
    rw [hsame n hn] at hx
    exact ⟨n, hn, hx⟩
  · rintro ⟨n, hn, hx⟩
    refine ⟨n, hn, ?_⟩
    rw [hsame n hn]
    exact hx

/-! ### Disks -/

/-- A disk or file system that comes back as it is. -/
def DiskBack (disk : DiskDevice) : Prop :=
  readBack disk.address = disk.address ∧
    match disk.diskType with
    | .phy => disk.type = some "block" ∧ disk.source ≠ some "/dev/null"
    | .file => disk.type = some "file" ∧ disk.rawio = none ∧ disk.sgio = none
    | .fs => disk.type = some "mount"
    | .unknown => False

/-- The two attributes that are read from the element itself. -/
theorem attrs_of_parseBlockDevice {node : Node} {d : VirtDevice DiskDevice}
    (h : parseBlockDevice node = .ok d) :
    d.dev.rawio = node.attr "rawio" ∧ d.dev.sgio = node.attr "sgio" := by
  unfold parseBlockDevice at h
  split at h
  case h_2 => cases h
  case h_1 type _ =>
    split at h
    case h_2 => cases h
    case h_1 device _ =>
      obtain ⟨ddev, hfold, hrest⟩ := bind_eq_ok h
      -- both are set before the loop, and no child touches them
      have hinv : ddev.rawio = node.attr "rawio" ∧ ddev.sgio = node.attr "sgio" := by
        refine foldlM_invariant (I := fun s : DiskDevice =>
          s.rawio = node.attr "rawio" ∧ s.sgio = node.attr "sgio") ?_ ⟨rfl, rfl⟩ hfold
        intro s child t hs hstep
        obtain ⟨name, driverType, cache, rfl⟩ | ⟨source, diskType, -, rfl⟩ | ⟨dev, bus, rfl⟩ | rfl |
          rfl | ⟨addr, rfl⟩ | rfl := parseBlockChild_cases hstep <;> exact hs
      -- nor does an empty cdrom, which gets another source only
      have hcdrom : (emptyCdrom ddev).rawio = ddev.rawio ∧ (emptyCdrom ddev).sgio = ddev.sgio := by
        unfold emptyCdrom
        split <;> exact ⟨rfl, rfl⟩
      obtain ⟨rfl, -, -⟩ := finishDisk_ok hrest
      rw [hcdrom.1, hcdrom.2]
      exact hinv

/-- The element of a disk, and what it is read as once it is stored. -/
theorem readAs_disk_iff {domtype : DomainType} {d x : VirtDevice DiskDevice} {n : Node}
    (hxml : diskXmlOf d.dev = .ok [n]) :
    ReadAs domtype .disk d x ↔ parseDiskDevice (withMountType n) = .ok x := by
  constructor
  · rintro ⟨m, hm, hx⟩
    cases hxml.symm.trans hm
    exact hx
  · intro hx
    exact ⟨n, hxml, hx⟩

/-- **Disks keep their id.** -/
theorem id_of_readAs_disk {domtype : DomainType} {node : Node} {d x : VirtDevice DiskDevice}
    (h : parseDiskDevice node = .ok d) (hx : ReadAs domtype .disk d x) : x.id = d.id := by
  obtain ⟨n, hxml, hback⟩ := disk_comesBack h
  rw [readAs_disk_iff hxml] at hx
  unfold ComesBack at hback
  -- the three types of disks, each with the element it is written as
  cases htype : d.dev.diskType with
  | phy =>
    rw [diskXmlOf, htype] at hxml
    cases hxml
    rw [htype] at hback
    dsimp only at hback
    rw [withMountType_of_name (by simp [diskBlockXml]), hback] at hx
    split at hx
    · cases hx
      rfl
    -- a disk at /dev/null is read back as an empty drive, or not at all
    split at hx
    · cases hx
      rfl
    · cases hx
  | file =>
    rw [diskXmlOf, htype] at hxml
    cases hxml
    rw [htype] at hback
    obtain ⟨rawio, sgio, hback⟩ := hback
    rw [withMountType_of_name (by simp [diskFileXml]), hback] at hx
    cases hx
    rfl
  | fs =>
    rw [diskXmlOf, htype] at hxml
    cases hxml
    rw [htype] at hback
    -- a filesystem is written without a type, and libvirt gives it that of a mount
    have hmount : withMountType (diskFsXml d.dev) = (diskFsXml d.dev).addAttr "type" "mount" :=
      if_pos ⟨by simp [diskFsXml], by simp [diskFsXml]⟩
    rw [hmount, hback.2 "mount"] at hx
    cases hx
    rfl
  | unknown =>
    rw [htype] at hback
    exact hback.elim

/-- **Disks that come back.** -/
theorem readAs_disk_self {domtype : DomainType} {node : Node} {d : VirtDevice DiskDevice}
    (h : parseDiskDevice node = .ok d) : ReadAs domtype .disk d d ↔ DiskBack d.dev := by
  obtain ⟨n, hxml, hback⟩ := disk_comesBack h
  rw [readAs_disk_iff hxml, DiskBack]
  unfold ComesBack at hback
  obtain ⟨restype, dev, id⟩ := d
  -- the same three types, now for what is equal after the way back
  cases htype : dev.diskType with
  | phy =>
    rw [diskXmlOf, htype] at hxml
    cases hxml
    rw [htype] at hback
    dsimp only at hback ⊢
    rw [withMountType_of_name (by simp [diskBlockXml]), hback]
    by_cases hnull : dev.source = some "/dev/null"
    · -- an empty drive comes back as a file
      simp only [hnull, ne_eq, not_true_eq_false, if_false, and_false, iff_false]
      intro hself
      split at hself
      · obtain ⟨-, hdev, -⟩ := VirtDevice.mk.inj (Except.ok.inj hself)
        have hfile := congrArg DiskDevice.diskType hdev
        rw [htype] at hfile
        cases hfile
      · cases hself
    · simp only [ne_eq, hnull, not_false_eq_true, if_true, and_true]
      constructor
      -- equal means equal in the fields that the way back touches, address and type
      · intro hself
        obtain ⟨-, hdev, -⟩ := VirtDevice.mk.inj (Except.ok.inj hself)
        exact ⟨congrArg DiskDevice.address hdev, (congrArg DiskDevice.type hdev).symm⟩
      · rintro ⟨haddress, hblock⟩
        rw [haddress, ← hblock]
  | file =>
    rw [diskXmlOf, htype] at hxml
    cases hxml
    rw [htype] at hback
    obtain ⟨rawio, sgio, hback⟩ := hback
    dsimp only at hback ⊢
    rw [withMountType_of_name (by simp [diskFileXml]), hback]
    -- neither attribute is written
    have hblock : parseBlockDevice (diskFileXml dev) = .ok _ := hback
    have hattrs := attrs_of_parseBlockDevice hblock
    have hnone : rawio = none ∧ sgio = none := by
      simpa [diskFileXml] using hattrs
    obtain ⟨rfl, rfl⟩ := hnone
    constructor
    · intro hself
      obtain ⟨-, hdev, -⟩ := VirtDevice.mk.inj (Except.ok.inj hself)
      exact ⟨congrArg DiskDevice.address hdev, (congrArg DiskDevice.type hdev).symm,
        (congrArg DiskDevice.rawio hdev).symm, (congrArg DiskDevice.sgio hdev).symm⟩
    · rintro ⟨haddress, hfile, hrawio, hsgio⟩
      obtain ⟨_, _, _, _, _, _, _, _, _, _, _, _, _, _⟩ := dev
      dsimp only at haddress hfile hrawio hsgio
      rw [haddress, ← hfile, hrawio, hsgio]
  | fs =>
    rw [diskXmlOf, htype] at hxml
    cases hxml
    rw [htype] at hback
    dsimp only at hback ⊢
    have hmount : withMountType (diskFsXml dev) = (diskFsXml dev).addAttr "type" "mount" :=
      if_pos ⟨by simp [diskFsXml], by simp [diskFsXml]⟩
    rw [hmount, hback.2 "mount"]
    constructor
    · intro hself
      obtain ⟨-, hdev, -⟩ := VirtDevice.mk.inj (Except.ok.inj hself)
      exact ⟨congrArg DiskDevice.address hdev, (congrArg DiskDevice.type hdev).symm⟩
    · rintro ⟨haddress, htype⟩
      rw [haddress, ← htype]
  | unknown =>
    dsimp only at hback
    rw [htype] at hback
    exact hback.elim

/-! ### Devices of the other types -/

/-- Behind the address no child of an interface is another one. -/
theorem mac_of_netTypeXml {domtype : DomainType} {net s t : NetDevice} {rest : List Node}
    (hrest : netTypeXml net domtype = .ok rest) (h : rest.foldlM parseNetChild s = .ok t) :
    t.mac = s.mac := by
  -- what a source writes has no element named mac
  have hsource {srcType : String} {nodes : List Node}
      (hnodes : setNetSource net srcType = .ok nodes) :
      ∀ node ∈ nodes, node.name ≠ "mac" := by
    unfold setNetSource at hnodes
    split at hnodes
    · cases hnodes
    split at hnodes <;> cases hnodes <;> simp
  -- nor has anything else that is written behind the address of the card
  have hnames : ∀ node ∈ rest, node.name ≠ "mac" := by
    unfold netTypeXml at hrest
    split at hrest
    · exact hsource hrest
    split at hrest
    · obtain ⟨source, hnodes, hrest⟩ := bind_eq_ok hrest
      split at hrest
      · cases hrest
        rw [List.forall_mem_cons]
        exact ⟨by simp, hsource hnodes⟩
      · cases hrest
        exact hsource hnodes
    split at hrest
    · cases hrest
      simp
    split at hrest
    · split at hrest
      · exact hsource hrest
      · cases hrest
        rw [List.forall_mem_append]
        refine ⟨?_, by simp [setNetVsi]⟩
        cases hnodes : setNetSource net "direct" with
        | ok nodes => exact hsource hnodes
        | error msg =>
          show ∀ node ∈ [], _
          simp
    · cases hrest
  -- a child of another name leaves the mac alone
  refine foldlM_invariant_mem (I := fun u : NetDevice => u.mac = s.mac) ?_ rfl h
  intro child hchild u v hu hstep
  have hvsi : (parseVsiDevice child u).mac = u.mac := by
    unfold parseVsiDevice
    split
    · rfl
    · split <;> rfl
  unfold parseNetChild at hstep
  rw [if_neg (hnames child hchild)] at hstep
  repeat' split at hstep
  all_goals first
    | cases hstep; exact hu
    | cases hstep; exact hvsi.trans hu
    | cases hstep

/-- **Interfaces keep their id.** -/
theorem id_of_readAs_net {domtype : DomainType} {node : Node} {d x : VirtDevice NetDevice}
    (h : parseNetDevice node = .ok d) (hx : ReadAs domtype .net d x) : x.id = d.id := by
  obtain ⟨n, hxml, hx⟩ := (readAs_iff (by simp)).mp hx
  obtain ⟨rest, hrest, ⟨⟩⟩ := bind_eq_ok hxml
  have htype : ∃ type, d.dev.type = some type :=
    Option.isSome_iff_exists.mp (parseNetDevice_ok h).2.2.2.2
  obtain ⟨type, htype⟩ := htype
  have hread : parseNetDevice (.elem "interface" (prop "type" d.dev.type)
      (commonNetXml d.dev ++ rest)) = .ok x := hx
  have hfold := fold_of_parseNetDevice hread
  have hattr : (Node.elem "interface" (prop "type" d.dev.type)
      (commonNetXml d.dev ++ rest)).attr "type" = d.dev.type := by
    rw [htype]
    simp
  rw [hattr, Node.children_elem, List.foldlM_append, fold_commonNetXml] at hfold
  -- the address is the one of the common part
  have hmac : x.dev.mac = (commonNet d.dev).mac := mac_of_netTypeXml hrest hfold
  rw [(parseNetDevice_ok hread).2.1, hmac, (parseNetDevice_ok h).2.1]
  rfl

/-- The device comes back from the element that is written for it. -/
def OwnBack : (kind : DevKind) → VirtDevice kind.Dev → Prop
  | .disk, d => DiskBack d.dev
  | .net, d => readBack d.dev.address = d.dev.address ∧ TypeFieldsFit d.dev
  | .controller, d => d.dev.queues = none ∧ readBack d.dev.address = d.dev.address ∧
      d.dev.index ≠ controllerIndexNotSet ∧ d.id = canonicalControllerId d.dev
  | .console, d => d.dev.targetType = none ∧ d.id = some "charconsole:(null)" ∧
      SourceComplete d.dev
  | .graphics, d => IsDisplay d.dev
  | .proc, d => d.dev.quantity.toNat < 2 ^ 31 ∨ d.dev.quantity = -1
  | .input, _ | .mem, _ => True

/-- What is read for a controller comes back. -/
theorem ownBack_of_readAs_controller {domtype : DomainType} {node : Node}
    {d x : VirtDevice ControllerDevice} (h : parseControllerDevice node = .ok d)
    (hx : ReadAs domtype .controller d x) : OwnBack .controller x := by
  obtain ⟨-, _, hdtype, hknown, -⟩ := parseControllerDevice_ok h
  rw [hdtype] at hknown
  obtain ⟨typeStr, htype, -⟩ := controllerProtocolTypeIDToStr_StrToID hknown
  rw [← hdtype] at htype
  -- the element that is written, as the parser finds it
  obtain ⟨n, hxml, hx⟩ := (readAs_iff (by simp)).mp hx
  have hwritten : controllerXmlOf d.dev = .ok [.elem "controller" (controllerAttrs d.dev typeStr)
      (optChild "driver" "queueus" d.dev.queues ++ deviceAddressXml d.dev.address)] := by
    rw [controllerXmlOf, htype]
    rfl
  cases hwritten.symm.trans hxml
  have hparse := parse_controllerXml htype
  have hread : parseControllerDevice (.elem "controller" (controllerAttrs d.dev typeStr)
      (optChild "driver" "queueus" d.dev.queues ++ deviceAddressXml d.dev.address)) = .ok x := hx
  rw [hparse] at hread
  split at hread
  · cases hread
  · next hset =>
    -- the address has been read once, so a second time gives the same
    cases hread
    exact ⟨rfl, readBack_readBack d.dev.address, hset, rfl⟩

/-- A source that was read is complete. -/
theorem sourceComplete_readSource (cdev : ConsoleDevice) (targetType : Option String) :
    SourceComplete { sourceType := cdev.sourceType, sourceDev := readSource cdev, targetType } := by
  obtain ⟨sourceType, sourceDev, _⟩ := cdev
  cases sourceType <;> trivial

/-- What is read for a console comes back. -/
theorem ownBack_of_readAs_console {domtype : DomainType} {d x : VirtDevice ConsoleDevice}
    (hx : ReadAs domtype .console d x) : OwnBack .console x := by
  obtain ⟨n, hxml, hx⟩ := (readAs_iff (by simp)).mp hx
  cases hxml
  have hparse := parse_consoleXml d.dev
  have hread : parseConsoleDevice (.elem "console"
      (prop "type" (chardevSourceTypeIDToStr d.dev.sourceType))
      (consoleSourceXml d.dev ++ optChild "target" "type" d.dev.targetType)) = .ok x := hx
  rw [hparse] at hread
  split at hread
  · cases hread
  · cases hread
    exact ⟨rfl, rfl, sourceComplete_readSource d.dev none⟩

/-- A graphics device that is written is a display, and comes back. -/
theorem readAs_graphics {domtype : DomainType} {node : Node}
    (hname : node.name ∈ xpathNames .graphics) {d : VirtDevice GraphicsDevice}
    (h : parseGraphicsDevice node = .ok d) {n : Node} (hxml : graphicsXmlOf d.dev = .ok [n]) :
    IsDisplay d.dev ∧ ReadAs domtype .graphics d d := by
  have hpty : isPtyNode node = false := by
    cases hpty : isPtyNode node with
    | false => rfl
    | true =>
      rw [graphicsXmlOf_pty h hpty (by simpa [xpathNames] using hname)] at hxml
      cases hxml
  refine ⟨?_, (readAs_iff (by simp)).mpr (display_comesBack h hpty)⟩
  unfold graphicsXmlOf at hxml
  split at hxml
  · next hdisplay => exact hdisplay
  · cases hxml

/-- A device that is read from an element of its list. -/
def IsParsed (kind : DevKind) (x : VirtDevice kind.Dev) : Prop :=
  ∃ node, node.name ∈ xpathNames kind ∧ doRealParse kind node = .ok x

/-- **Devices that come back**, for every list but those of the capacities. -/
theorem readAs_self_iff {domtype : DomainType} {kind : DevKind} (hmem : kind ≠ .mem)
    (hproc : kind ≠ .proc) {x : VirtDevice kind.Dev} (hx : IsParsed kind x) :
    ReadAs domtype kind x x ↔ OwnBack kind x := by
  obtain ⟨node, hname, hnode⟩ := hx
  -- each kind by the theorem on its own way back
  cases kind with
  | disk => exact readAs_disk_self hnode
  | net =>
    rw [readAs_iff (by simp)]
    exact net_comesBack_iff domtype hnode
  | input =>
    rw [readAs_iff (by simp)]
    exact ⟨fun _ => trivial, fun _ => input_comesBack hnode⟩
  | controller =>
    rw [readAs_iff (by simp)]
    exact controller_comesBack_iff hnode
  | console =>
    rw [readAs_iff (by simp)]
    exact console_comesBack_iff hnode
  | graphics =>
    -- of the graphics, only a VNC display is written
    constructor
    · rintro ⟨n, hxml, -⟩
      exact (@readAs_graphics domtype node hname x hnode n hxml).1
    · intro hdisplay
      have hxml : graphicsXmlOf x.dev = .ok [graphicsVncXml x.dev] := if_pos hdisplay
      exact (readAs_graphics hname hnode hxml).2
  | mem => exact absurd rfl hmem
  | proc => exact absurd rfl hproc

/-- **What is read for a device** has its id, or would come back itself. -/
theorem id_or_ownBack_of_readAs {domtype : DomainType} {kind : DevKind} (hmem : kind ≠ .mem)
    (hproc : kind ≠ .proc) {y x : VirtDevice kind.Dev} (hy : IsParsed kind y)
    (h : ReadAs domtype kind y x) : x.id = y.id ∨ OwnBack kind x := by
  obtain ⟨node, hname, hnode⟩ := hy
  -- where the id may change, what is read is fit to come back by itself
  cases kind with
  | disk => exact .inl (id_of_readAs_disk hnode h)
  | net => exact .inl (id_of_readAs_net hnode h)
  | input => exact .inr trivial
  | controller => exact .inr (ownBack_of_readAs_controller hnode h)
  | console => exact .inr (ownBack_of_readAs_console h)
  -- there is one reading of an element, and it is the display itself
  | graphics =>
    obtain ⟨n, hxml, hx⟩ := h
    have hself : ReadAs domtype .graphics y y := (readAs_graphics hname hnode hxml).2
    have hread : ReadAs domtype .graphics y x := ⟨n, hxml, hx⟩
    rw [hread.unique hself]
    exact .inl rfl
  | mem => exact absurd rfl hmem
  | proc => exact absurd rfl hproc

end LibvirtCim.Device
